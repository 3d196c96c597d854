import Mathlib.Data.Int.Notation
import N32L43x.Klibc.Kmemory

/-!
`rt_vsnprintf` of `rt-thread/src/klibc/rt_vsnprintf_tiny.c`, without the option for `long long`.

Every place that gives a character is `if (str < end) *str = c; ++str;`.  What becomes of the character is a
parameter here, so that one text of the function gives both the buffer and the full output.  An `int` has 32 bits
and wraps around; a string argument is its text up to the NUL.
-/

namespace N32L43x.Klibc.Vsnprintf

open N32L43x.Lib.Memory

abbrev Word := BitVec 32

def ch (c : Char) : Byte := BitVec.ofNat 8 c.toNat

/-- A value that is stored in an `int`. -/
def int (x : ℤ) : ℤ := x.bmod 0x100000000

/-- The flags of a conversion: the bits of `flags` and `type`. -/
structure Flags where
  zeropad : Bool
  sign : Bool
  plus : Bool
  space : Bool
  left : Bool
  special : Bool
  large : Bool
  deriving DecidableEq

def Flags.none : Flags := ⟨false, false, false, false, false, false, false⟩

/-- The values of `base`. -/
inductive Base
  | bin
  | oct
  | dec
  | hex
  deriving DecidableEq

def Base.value : Base → ℕ
  | .bin => 2
  | .oct => 8
  | .dec => 10
  | .hex => 16

/-- The arguments that follow the format, word by word. -/
structure VaList where
  word : ℕ → Word
  next : ℕ

/-- `va_arg` for a type of one word. -/
def VaList.arg (ap : VaList) : Word × VaList := (ap.word ap.next, { ap with next := ap.next + 1 })

/-- `va_arg(args, double)`: two words from an even place on. -/
def VaList.double (ap : VaList) : VaList := { ap with next := ap.next + ap.next % 2 + 2 }

/-! ### `print_number` -/

variable {σ : Type}

/-- `while (n-- > 0) { put c }`, where `n` is above zero. -/
def putTimes (put : σ → Byte → σ) (c : Byte) : ℕ → σ → σ
  | 0, out => out
  | n + 1, out => putTimes put c n (put out c)

/-- `while (size-- > 0) { put c }`: the output and `size` after it. -/
def putWhile (put : σ → Byte → σ) (c : Byte) (size : ℤ) (out : σ) : σ × ℤ :=
  (putTimes put c size.toNat out, if size > 0 then -1 else int (size - 1))

def smallDigits : List Byte := "0123456789abcdef".toList.map ch

def largeDigits : List Byte := "0123456789ABCDEF".toList.map ch

/-- `divide`: the remainder and the quotient. -/
def divide (n : Word) (base : Base) : ℕ × Word :=
  ((n % BitVec.ofNat 32 base.value).toNat, n / BitVec.ofNat 32 base.value)

/-- `while (num != 0) tmp[i++] = digits[divide(&num, base)];`.  A word has 32 digits at most, which is what `tmp`
has room for. -/
def divideLoop (digits : List Byte) (base : Base) : ℕ → Word → List Byte → List Byte
  | 0, _, tmp => tmp
  | room + 1, num, tmp =>
    if num = 0#32 then tmp
    else
      let (res, num) := divide num base
      divideLoop digits base room num (tmp ++ [digits.getD res 0#8])

/-- `while (i-- > 0 && (precision_bak != 0)) { put tmp[i] }`. -/
def putDigits (put : σ → Byte → σ) (precisionBak : ℤ) (tmp : List Byte) : ℕ → σ → σ
  | 0, out => out
  | i + 1, out =>
    if precisionBak ≠ 0 then putDigits put precisionBak tmp i (put out (tmp.getD i 0#8)) else out

/-- The `switch` over the qualifier: a number below zero gives its sign away.  No sign is a NUL. -/
def takeMinus (num : Word) (qualifier : Byte) : Byte × Word :=
  if qualifier = ch 'h' then
    if (num.setWidth 16).toInt < 0 then (ch '-', (-num.setWidth 16).setWidth 32) else (0#8, num)
  else if num.toInt < 0 then (ch '-', -num)
  else (0#8, num)

/-- `sign` and `num` after `/* get sign */`. -/
def getSign (num : Word) (qualifier : Byte) (type : Flags) : Byte × Word :=
  if type.sign then
    let (sign, num) := takeMinus num qualifier
    if sign ≠ ch '-' then
      (if type.plus then ch '+' else if type.space then ch ' ' else sign, num)
    else (sign, num)
  else (0#8, num)

/-- The prefix that `SPECIAL` asks for. -/
def putPrefix (put : σ → Byte → σ) (base : Base) (type : Flags) (out : σ) : σ :=
  match base with
  | .bin => put (put out (ch '0')) (ch 'b')
  | .oct => put out (ch '0')
  | .hex => put (put out (ch '0')) (if type.large then ch 'X' else ch 'x')
  | .dec => out

/-- What `SPECIAL` takes of the field. -/
def takePrefix (base : Base) (type : Flags) (size : ℤ) : ℤ :=
  if type.special then
    match base with
    | .bin | .hex => int (size - 2)
    | .oct => int (size - 1)
    | .dec => size
  else size

/-- The digits in `tmp`, the last one first. -/
def fillTmp (num : Word) (base : Base) (type : Flags) : List Byte :=
  if num = 0#32 then [ch '0']
  else divideLoop (if type.large then largeDigits else smallDigits) base 32 num []

/-- `if (type & LEFT) type &= ~ZEROPAD;`. -/
def Flags.justify (type : Flags) : Flags :=
  if type.left then { type with zeropad := false } else type

/-- `print_number`. -/
def printNumber (put : σ → Byte → σ) (out : σ) (num : Word) (base : Base) (qualifier : Byte) (s precision : ℤ)
    (type : Flags) : σ :=
  let precisionBak := precision
  let type := type.justify
  let c := if type.zeropad then ch '0' else ch ' '
  let (sign, num) := getSign num qualifier type
  let size := takePrefix base type s
  let tmp := fillTmp num base type
  let i := tmp.length
  let precision := if (i : ℤ) > precision then (i : ℤ) else precision
  let size := int (size - precision)
  let (out, size) :=
    if ¬ (type.zeropad ∨ type.left) then
      let size := if sign ≠ 0#8 ∧ size > 0 then size - 1 else size
      putWhile put (ch ' ') size out
    else (out, size)
  let (out, size) := if sign ≠ 0#8 then (put out sign, int (size - 1)) else (out, size)
  let out := if type.special then putPrefix put base type out else out
  -- no align to the left
  let (out, size) := if ¬ type.left then putWhile put c size out else (out, size)
  -- `while (i < precision--) { put '0' }`
  let out := putTimes put (ch '0') (precision - i).toNat out
  -- put number in the temporary buffer
  let out := putDigits put precisionBak tmp i out
  (putWhile put (ch ' ') size out).1

/-! ### The conversion after a `%` -/

/-- `_ISDIGIT`. -/
def isDigit (c : Byte) : Bool := (c - ch '0').toNat < 10

/-- `skip_atoi`. -/
def skipAtoi : List Byte → ℤ → ℤ × List Byte
  | [], i => (i, [])
  | c :: s, i => if isDigit c then skipAtoi s (int (i * 10 + c.toNat - 48)) else (i, c :: s)

/-- The loop over the flags. -/
def flagLoop : List Byte → Flags → Flags × List Byte
  | [], flags => (flags, [])
  | c :: fmt, flags =>
    if c = ch '-' then flagLoop fmt { flags with left := true }
    else if c = ch '+' then flagLoop fmt { flags with plus := true }
    else if c = ch ' ' then flagLoop fmt { flags with space := true }
    else if c = ch '#' then flagLoop fmt { flags with special := true }
    else if c = ch '0' then flagLoop fmt { flags with zeropad := true }
    else (flags, c :: fmt)

/-- What stands between a `%` and the character of the conversion, and what is behind it. -/
structure Directive where
  flags : Flags
  fieldWidth : ℤ
  precision : ℤ
  qualifier : Byte
  fmt : List Byte
  ap : VaList

/-- `*fmt`.  The NUL stands behind the last character. -/
def head (fmt : List Byte) : Byte := fmt.headD 0#8

/-- Get field width. -/
def getWidth (flags : Flags) (fmt : List Byte) (ap : VaList) : Flags × ℤ × List Byte × VaList :=
  if isDigit (head fmt) then
    let (fieldWidth, fmt) := skipAtoi fmt 0
    (flags, fieldWidth, fmt, ap)
  else if head fmt = ch '*' then
    let (arg, ap) := ap.arg
    if arg.toInt < 0 then ({ flags with left := true }, int (-arg.toInt), fmt.tail, ap)
    else (flags, arg.toInt, fmt.tail, ap)
  else (flags, -1, fmt, ap)

/-- The precision behind the `.`. -/
def getDigits (fmt : List Byte) (ap : VaList) : ℤ × List Byte × VaList :=
  if isDigit (head fmt) then
    let (precision, fmt) := skipAtoi fmt 0
    (precision, fmt, ap)
  else if head fmt = ch '*' then (ap.arg.1.toInt, fmt.tail, ap.arg.2)
  else (-1, fmt, ap)

/-- Get the precision. -/
def getPrecision (fmt : List Byte) (ap : VaList) : ℤ × List Byte × VaList :=
  if head fmt = ch '.' then
    let (precision, fmt, ap) := getDigits fmt.tail ap
    (if precision < 0 then 0 else precision, fmt, ap)
  else (-1, fmt, ap)

/-- Get the conversion qualifier.  `hh` is `H`. -/
def getQualifier (fmt : List Byte) : Byte × List Byte :=
  if head fmt = ch 'h' ∨ head fmt = ch 'l' ∨ head fmt = ch 'z' then
    if head fmt = ch 'h' ∧ head fmt.tail = ch 'h' then (ch 'H', fmt.tail.tail)
    else (head fmt, fmt.tail)
  else (0#8, fmt)

def directive (fmt : List Byte) (ap : VaList) : Directive :=
  let (flags, fmt) := flagLoop fmt .none
  let (flags, fieldWidth, fmt, ap) := getWidth flags fmt ap
  let (precision, fmt, ap) := getPrecision fmt ap
  let (qualifier, fmt) := getQualifier fmt
  ⟨flags, fieldWidth, precision, qualifier, fmt, ap⟩

/-! ### The conversions -/

/-- `while (--field_width > 0) { put ' ' }`. -/
def putPre (put : σ → Byte → σ) (fieldWidth : ℤ) (out : σ) : σ × ℤ :=
  let fieldWidth := int (fieldWidth - 1)
  (putTimes put (ch ' ') fieldWidth.toNat out, if fieldWidth > 0 then 0 else fieldWidth)

/-- `while (len < field_width--) { put ' ' }`. -/
def putPost (put : σ → Byte → σ) (len fieldWidth : ℤ) (out : σ) : σ × ℤ :=
  (putTimes put (ch ' ') (fieldWidth - len).toNat out,
    if len < fieldWidth then len - 1 else int (fieldWidth - 1))

/-- `%c`. -/
def convertChar (put : σ → Byte → σ) (d : Directive) (out : σ) : σ × VaList :=
  let (out, fieldWidth) := if ¬ d.flags.left then putPre put d.fieldWidth out else (out, d.fieldWidth)
  let (arg, ap) := d.ap.arg
  let out := put out (arg.setWidth 8)
  ((putPre put fieldWidth out).1, ap)

/-- `for (len = 0; (len != field_width) && (s[len] != '\0'); len++);`. -/
def lenLoop (fieldWidth : ℤ) : List Byte → ℤ → ℤ
  | [], len => len
  | _ :: s, len => if len ≠ fieldWidth then lenLoop fieldWidth s (len + 1) else len

/-- `for (i = 0; i < len; ++i) { put *s; ++s }`. -/
def putText (put : σ → Byte → σ) : ℕ → List Byte → σ → σ
  | 0, _, out => out
  | len + 1, s, out => putText put len s.tail (put out (head s))

/-- `%s`. -/
def convertString (put : σ → Byte → σ) (text : Word → List Byte) (d : Directive) (out : σ) : σ × VaList :=
  let (arg, ap) := d.ap.arg
  let s := if arg = 0#32 then "(null)".toList.map ch else text arg
  let len := lenLoop d.fieldWidth s 0
  let len := if d.precision > 0 ∧ len > d.precision then d.precision else len
  let (out, fieldWidth) :=
    if ¬ d.flags.left then putPost put len d.fieldWidth out else (out, d.fieldWidth)
  let out := putText put len.toNat s out
  ((putPost put len fieldWidth out).1, ap)

/-- `%p`. -/
def convertPointer (put : σ → Byte → σ) (d : Directive) (out : σ) : σ × VaList :=
  let (arg, ap) := d.ap.arg
  if d.fieldWidth = -1 then
    let flags := { d.flags with special := true, zeropad := true }
    (printNumber put out arg .hex d.qualifier 10 d.precision flags, ap)
  else (printNumber put out arg .hex d.qualifier d.fieldWidth d.precision d.flags, ap)

/-- `num` as the qualifier says, from the next argument. -/
def getNumber (qualifier : Byte) (sign : Bool) (arg : Word) : Word :=
  if qualifier = ch 'H' then
    let num := (arg.setWidth 8).signExtend 32
    if sign then (num.setWidth 8).signExtend 32 else num
  else if qualifier = ch 'h' then
    let num := (arg.setWidth 16).setWidth 32
    if sign then (num.setWidth 16).signExtend 32 else num
  else arg

/-- The numbers: `base` and `flags` are set up. -/
def convertNumber (put : σ → Byte → σ) (d : Directive) (base : Base) (flags : Flags) (out : σ) : σ × VaList :=
  let (arg, ap) := d.ap.arg
  let num := getNumber d.qualifier flags.sign arg
  (printNumber put out num base d.qualifier d.fieldWidth d.precision flags, ap)

/-- The cases of the `switch` over the character of the conversion.  A number has its base and the flags that are
set up for it. -/
inductive Case
  | char
  | string
  | pointer
  | percent
  | number (base : Base) (large sign : Bool)
  | float
  | other

def Case.of (c : Byte) : Case :=
  if c = ch 'c' then .char
  else if c = ch 's' then .string
  else if c = ch 'p' then .pointer
  else if c = ch '%' then .percent
  else if c = ch 'b' then .number .bin false false
  else if c = ch 'o' then .number .oct false false
  else if c = ch 'X' then .number .hex true false
  else if c = ch 'x' then .number .hex false false
  else if c = ch 'd' ∨ c = ch 'i' then .number .dec false true
  else if c = ch 'u' then .number .dec false false
  else if c = ch 'e' ∨ c = ch 'E' ∨ c = ch 'G' ∨ c = ch 'g' ∨ c = ch 'f' ∨ c = ch 'F' then .float
  else .other

/-- A conversion that there is not: the `%` and the character behind it, if there is one. -/
def convertOther (put : σ → Byte → σ) (c : Byte) (out : σ) : σ :=
  let out := put out (ch '%')
  if c ≠ 0#8 then put out c else out

/-- The `switch`. -/
def convert (put : σ → Byte → σ) (text : Word → List Byte) (d : Directive) (out : σ) : σ × VaList :=
  match Case.of (head d.fmt) with
  | .char => convertChar put d out
  | .string => convertString put text d out
  | .pointer => convertPointer put d out
  | .percent => (put out (ch '%'), d.ap)
  | .number base large sign =>
    convertNumber put d base
      { d.flags with large := d.flags.large || large, sign := d.flags.sign || sign } out
  | .float => (convertOther put (head d.fmt) out, d.ap.double)
  | .other => (convertOther put (head d.fmt) out, d.ap)

/-! ### `rt_vsnprintf` -/

lemma skipAtoi_length (s : List Byte) (i : ℤ) : (skipAtoi s i).2.length ≤ s.length := by
  induction s generalizing i with
  | nil => exact le_rfl
  | cons c s ih =>
    rw [skipAtoi]
    split
    · exact (ih _).trans (Nat.le_succ _)
    · exact le_rfl

lemma flagLoop_length (fmt : List Byte) (flags : Flags) : (flagLoop fmt flags).2.length ≤ fmt.length := by
  induction fmt generalizing flags with
  | nil => exact le_rfl
  | cons c fmt ih =>
    rw [flagLoop]
    split_ifs
    all_goals first | exact (ih _).trans (Nat.le_succ _) | exact le_rfl

lemma tail_length (fmt : List Byte) : fmt.tail.length ≤ fmt.length := by
  rw [List.length_tail]
  omega

lemma getWidth_length (flags : Flags) (fmt : List Byte) (ap : VaList) :
    (getWidth flags fmt ap).2.2.1.length ≤ fmt.length := by
  unfold getWidth
  split_ifs
  · exact skipAtoi_length fmt 0
  · dsimp only
    split_ifs
    all_goals exact tail_length fmt
  · exact le_rfl

lemma getDigits_length (fmt : List Byte) (ap : VaList) :
    (getDigits fmt ap).2.1.length ≤ fmt.length := by
  unfold getDigits
  split_ifs
  · exact skipAtoi_length fmt 0
  · exact tail_length fmt
  · exact le_rfl

lemma getPrecision_length (fmt : List Byte) (ap : VaList) :
    (getPrecision fmt ap).2.1.length ≤ fmt.length := by
  unfold getPrecision
  split_ifs
  · exact (getDigits_length _ ap).trans (tail_length fmt)
  · exact le_rfl

lemma getQualifier_length (fmt : List Byte) : (getQualifier fmt).2.length ≤ fmt.length := by
  unfold getQualifier
  split_ifs
  · exact (tail_length _).trans (tail_length fmt)
  · exact tail_length fmt
  · exact le_rfl

lemma directive_length (fmt : List Byte) (ap : VaList) : (directive fmt ap).fmt.length ≤ fmt.length := by
  unfold directive
  exact (getQualifier_length _).trans ((getPrecision_length _ _).trans
    ((getWidth_length _ _ _).trans (flagLoop_length _ _)))

/-- `for (; *fmt; ++fmt)`. -/
def formatLoop (put : σ → Byte → σ) (text : Word → List Byte) : List Byte → VaList → σ → σ
  | [], _, out => out
  | c :: fmt, ap, out =>
    if c ≠ ch '%' then formatLoop put text fmt ap (put out c)
    else
      let d := directive fmt ap
      let (out, ap) := convert put text d out
      formatLoop put text d.fmt.tail ap out
termination_by fmt => fmt.length
decreasing_by
  · exact Nat.lt_succ_self _
  · exact Nat.lt_succ_of_le ((tail_length _).trans (directive_length fmt _))

/-- The buffer that is filled: the memory, `str` and `end`. -/
structure Buffer where
  mem : Ram
  str : Addr
  last : Addr

/-- `if (str < end) *str = c; ++str;`. -/
def Buffer.put (b : Buffer) (c : Byte) : Buffer :=
  { b with mem := if b.str < b.last then Function.update b.mem b.str c else b.mem, str := b.str + 1#32 }

/-- `end` and `size`: `end` is always at `buf` or behind it. -/
def getEnd (buf : Addr) (size : Word) : Addr × Word :=
  let last := buf + size
  if last < buf then (0xFFFFFFFF#32, 0xFFFFFFFF#32 - buf) else (last, size)

/-- The trailing NUL. -/
def putNul (size : Word) (b : Buffer) : Ram :=
  if size > 0#32 then
    if b.str < b.last then Function.update b.mem b.str 0#8
    else Function.update b.mem (b.last - 1#32) 0#8
  else b.mem

/-- `rt_vsnprintf`: the memory and the result. -/
def rtVsnprintf (mem : Ram) (buf : Addr) (size : Word) (text : Word → List Byte) (fmt : List Byte)
    (args : VaList) : Ram × ℤ :=
  let (last, size) := getEnd buf size
  let out := formatLoop Buffer.put text fmt args ⟨mem, buf, last⟩
  (putNul size out, (out.str - buf).toInt)

end N32L43x.Klibc.Vsnprintf
