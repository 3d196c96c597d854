import N32L43x.Klibc.Vsnprintf.Format
import N32L43x.Klibc.Vsnprintf.Number

/-!
What C99 prescribes for the conversions `d`, `i`, `u`, `x`, `X`, `o`, `c`, `s` and `%`.  Where the standard leaves
the behaviour undefined, or to the locale's wide characters, there is no text.
-/

namespace N32L43x.Klibc.Vsnprintf

/-! ### The arguments -/

def Conversion.has (c : Conversion) (f : Flag) : Bool := decide (f ∈ c.flags)

/-- The width.  One below zero is a `-` flag and a width above zero. -/
def Width.places (ap : VaList) : Width → ℕ
  | .none => 0
  | .literal n _ => n.value
  | .star => ap.arg.1.toInt.natAbs

/-- The precision as it is given. -/
def Precision.given (ap : VaList) : Precision → Option ℤ
  | .none => Option.none
  | .literal n => some n.value
  | .star => some ap.arg.1.toInt

/-- A precision below zero is taken as if it were omitted. -/
def asked : Option ℤ → Option ℕ
  | none => none
  | some p => if p < 0 then none else some p.toNat

/-- The value of a signed argument, converted as the length modifier says. -/
def Length.signed : Length → Word → ℤ
  | .none, arg => arg.toInt
  | .hh, arg => (arg.setWidth 8).toInt
  | .h, arg => (arg.setWidth 16).toInt
  | .l, arg => arg.toInt

/-- The value of an unsigned argument, converted as the length modifier says. -/
def Length.unsigned : Length → Word → ℕ
  | .none, arg => arg.toNat
  | .hh, arg => (arg.setWidth 8).toNat
  | .h, arg => (arg.setWidth 16).toNat
  | .l, arg => arg.toNat

/-! ### The texts -/

/-- At least `p` digits; a zero has none of its own. -/
def stdDigits (base : Base) (large : Bool) (p v : ℕ) : List Byte :=
  List.replicate (p - (Nat.digits base.value v).length) (ch '0') ++
    ((Nat.digits base.value v).map (digitChar large)).reverse

/-- `#` with `o` makes the first digit a zero, with `x` it puts `0x` before a value that is not zero.  `0` fills the
field with zeros, but not if there is a precision or a `-`. -/
def stdNumber (base : Base) (large hash minus zero : Bool) (w : ℕ) (precision : Option ℕ) (sign : List Byte)
    (v : ℕ) : List Byte :=
  let digits := stdDigits base large (precision.getD 1) v
  let digits := if hash ∧ base = .oct ∧ head digits ≠ ch '0' then ch '0' :: digits else digits
  let front := sign ++ if hash ∧ base = .hex ∧ v ≠ 0 then base.mark large else []
  layout minus (zero && precision.isNone) (w - (front ++ digits).length) front digits

/-- `-`, or what the flags `+` and space ask for. -/
def stdSign (plus space : Bool) (v : ℤ) : List Byte :=
  if v < 0 then [ch '-'] else if plus then [ch '+'] else if space then [ch ' '] else []

/-- At most `p` characters of a string. -/
def stdString : Option ℕ → List Byte → List Byte
  | none, s => s
  | some p, s => s.take p

/-- A conversion with the argument that is next. -/
def Conversion.prescribed (text : Word → List Byte) (c : Conversion) (ap : VaList) : Option (List Byte) :=
  let minus := c.has .minus || c.width.left ap
  let w := c.width.places ap
  let precision := asked (c.precision.given (c.width.next ap))
  let arg := (c.next ap).arg.1
  let signed : Option (List Byte) :=
    if c.has .hash then none
    else
      let v := c.length.signed arg
      some (stdNumber .dec false false minus (c.has .zero) w precision
        (stdSign (c.has .plus) (c.has .space) v) v.natAbs)
  let unsigned (base : Base) (large : Bool) : List Byte :=
    stdNumber base large (c.has .hash) minus (c.has .zero) w precision [] (c.length.unsigned arg)
  -- `0`, `#` and `h` are for numbers, and `l` makes a wide character or a wide string of these
  let other : Bool := c.has .hash || c.has .zero || decide (c.length ≠ .none)
  match c.specifier with
  | .d | .i => signed
  | .u => if c.has .hash then none else some (unsigned .dec false)
  | .o => some (unsigned .oct false)
  | .x => some (unsigned .hex false)
  | .X => some (unsigned .hex true)
  | .c =>
    if other || (c.precision.given (c.width.next ap)).isSome then none
    else some (layout minus false (w - 1) [] [arg.setWidth 8])
  | .s =>
    if other || decide (arg = 0#32) then none
    else
      let s := stdString precision (text arg)
      some (layout minus false (w - s.length) [] s)
  | .percent => if c.render = [ch '%'] then some [ch '%'] else none

end N32L43x.Klibc.Vsnprintf
