import Mathlib.Data.Nat.Digits.Lemmas
import N32L43x.Klibc.Vsnprintf.Text

/-!
What `print_number` gives: a sign, a prefix and digits, filled up to the width on one side or with zeros in
between.
-/

namespace N32L43x.Klibc.Vsnprintf

variable {num : Word} {base : Base} {qualifier : Byte} {s precision : ℤ} {type : Flags}

/-! ### Digits -/

def digitChar (large : Bool) (d : ℕ) : Byte := (if large then largeDigits else smallDigits).getD d 0#8

lemma Base.one_lt (base : Base) : 1 < base.value := by
  cases base
  all_goals decide

lemma divide_fst : (divide num base).1 = num.toNat % base.value := by
  cases base
  all_goals rfl

lemma divide_snd : (divide num base).2.toNat = num.toNat / base.value := by
  cases base
  all_goals rfl

lemma divideLoop_eq (digits : List Byte) {room : ℕ} (hroom : (Nat.digits base.value num.toNat).length ≤ room)
    (tmp : List Byte) :
    divideLoop digits base room num tmp =
      tmp ++ (Nat.digits base.value num.toNat).map fun d => digits.getD d 0#8 := by
  induction room generalizing num tmp with
  | zero =>
    rw [List.eq_nil_of_length_eq_zero (Nat.le_zero.1 hroom)]
    simp [divideLoop]
  | succ room ih =>
    rw [divideLoop]
    by_cases hzero : num = 0#32
    · subst hzero
      simp
    · have hpos : 0 < num.toNat := Nat.pos_of_ne_zero fun h => hzero (BitVec.eq_of_toNat_eq h)
      have hcons := Nat.digits_def' base.one_lt hpos
      rw [hcons, List.length_cons, ← divide_snd] at hroom
      rw [if_neg hzero, hcons]
      dsimp only
      rw [ih (Nat.le_of_succ_le_succ hroom), divide_fst, divide_snd, List.map_cons, List.append_assoc]
      rfl

lemma digits_length (num : Word) (base : Base) : (Nat.digits base.value num.toNat).length ≤ 32 := by
  rw [Nat.digits_length_le_iff base.one_lt]
  calc num.toNat < 2 ^ 32 := num.isLt
    _ ≤ base.value ^ 32 := Nat.pow_le_pow_left base.one_lt 32

lemma fillTmp_eq (h : num ≠ 0#32) :
    fillTmp num base type = (Nat.digits base.value num.toNat).map (digitChar type.large) := by
  rw [fillTmp, if_neg h, divideLoop_eq _ (digits_length num base)]
  rfl

lemma fillTmp_length (num : Word) (base : Base) (type : Flags) :
    0 < (fillTmp num base type).length ∧ (fillTmp num base type).length ≤ 32 := by
  by_cases h : num = 0#32
  · simp [fillTmp, h]
  · rw [fillTmp_eq h, List.length_map]
    refine ⟨List.length_pos_iff.2 fun hnil => h ?_, digits_length num base⟩
    exact BitVec.eq_of_toNat_eq (Nat.digits_eq_nil_iff_eq_zero.1 hnil)

/-! ### The field -/

/-- Front and digits in a field with `pad` places left. -/
def layout (left zeropad : Bool) (pad : ℕ) (front digits : List Byte) : List Byte :=
  if left then front ++ digits ++ List.replicate pad (ch ' ')
  else if zeropad then front ++ List.replicate pad (ch '0') ++ digits
  else List.replicate pad (ch ' ') ++ front ++ digits

def signText (sign : Byte) : List Byte := if sign ≠ 0#8 then [sign] else []

def prefixText (base : Base) (type : Flags) : List Byte :=
  if type.special then putPrefix (fun t c => t ++ [c]) base type [] else []

lemma takePrefix_eq (h0 : -0x7FFFFFF0 ≤ s) (h1 : s < 0x80000000) :
    takePrefix base type s = s - (prefixText base type).length := by
  unfold takePrefix prefixText
  split
  · cases base
    · exact int_of_bounds (by omega) (by omega)
    · exact int_of_bounds (by omega) (by omega)
    · exact (sub_zero s).symm
    · exact int_of_bounds (by omega) (by omega)
  · exact (sub_zero s).symm

lemma prefixText_length (base : Base) (type : Flags) : (prefixText base type).length ≤ 2 := by
  unfold prefixText
  split
  · cases base
    all_goals simp [putPrefix]
  · exact Nat.zero_le 2

lemma afterWhile_bounds {size low : ℤ} (hlow : low ≤ size) (h0 : -0x7FFFFFFF ≤ low) (h1 : low < 0) :
    low - 1 ≤ afterWhile size ∧ afterWhile size < 0 := by
  unfold afterWhile
  split
  · omega
  · rw [int_of_bounds (by omega) (by omega)]
    omega

lemma toNat_afterWhile {size : ℤ} (h : -0x7FFFFFFF ≤ size) : (afterWhile size).toNat = 0 := by
  have hneg := (@afterWhile_bounds size (-0x7FFFFFFF) h le_rfl (by omega)).2
  omega

/-- The digits that a precision asks for: zeros first, and no digits at all for a zero. -/
def paddedDigits (num : Word) (base : Base) (precision : ℤ) (type : Flags) : List Byte :=
  List.replicate (precision - (fillTmp num base type).length).toNat (ch '0') ++
    if precision ≠ 0 then (fillTmp num base type).reverse else []

/-- The number of digits that are provided for, even if they are not put. -/
def digitCount (num : Word) (base : Base) (precision : ℤ) (type : Flags) : ℤ :=
  if ((fillTmp num base type).length : ℤ) > precision then ((fillTmp num base type).length : ℤ) else precision

/-- The places that are left in the field. -/
def placesLeft (sign : Byte) (num : Word) (base : Base) (s precision : ℤ) (type : Flags) : ℤ :=
  s - (prefixText base type).length - digitCount num base precision type - (signText sign).length

lemma Flags.justify_zeropad : type.justify.zeropad = (type.zeropad && !type.left) := by
  unfold justify
  split <;> simp [*]

lemma Flags.justify_left : type.justify.left = type.left := by
  unfold justify
  split <;> rfl

lemma getSign_justify : getSign num qualifier type.justify = getSign num qualifier type := by
  unfold Flags.justify
  split <;> rfl

lemma fillTmp_justify : fillTmp num base type.justify = fillTmp num base type := by
  unfold Flags.justify
  split <;> rfl

lemma prefixText_justify : prefixText base type.justify = prefixText base type := by
  unfold Flags.justify
  split <;> rfl

lemma digitCount_bounds (num : Word) (base : Base) (hp : precision < 0x7FFFFFE0) (type : Flags) :
    0 < digitCount num base precision type ∧ digitCount num base precision type < 0x7FFFFFE0 := by
  have hfill := fillTmp_length num base type
  unfold digitCount
  split <;> omega

lemma digitCount_zeros (num : Word) (base : Base) (precision : ℤ) (type : Flags) :
    (digitCount num base precision type - (fillTmp num base type).length).toNat =
      (precision - (fillTmp num base type).length).toNat := by
  unfold digitCount
  split <;> omega

/-- **The text of a number** in a field. -/
lemma numberText_layout (h0 : -1 ≤ s) (h1 : s < 0x80000000) (hp : precision < 0x7FFFFFE0)
    {sign : Byte} {num' : Word} (hsign : getSign num qualifier type = (sign, num')) :
    numberText num base qualifier s precision type =
      layout type.left type.zeropad (placesLeft sign num' base s precision type).toNat
        (signText sign ++ prefixText base type) (paddedDigits num' base precision type) := by
  have hprefix := prefixText_length base type
  have hcount := digitCount_bounds num' base hp type
  have hsize : int (takePrefix base type.justify s - digitCount num' base precision type) =
      s - (prefixText base type).length - digitCount num' base precision type := by
    rw [takePrefix_eq (by omega) h1, prefixText_justify]
    exact int_of_bounds (by omega) (by omega)
  unfold numberText placesLeft paddedDigits
  simp only [getSign_justify, fillTmp_justify, hsign, Flags.justify_zeropad, Flags.justify_left]
  rw [show (if ((fillTmp num' base type).length : ℤ) > precision then ((fillTmp num' base type).length : ℤ)
    else precision) = digitCount num' base precision type from rfl, hsize, digitCount_zeros]
  have hp : (if type.justify.special then putPrefix (fun t c => t ++ [c]) base type.justify [] else []) =
      prefixText base type := prefixText_justify
  rw [hp]
  generalize hgen : s - (prefixText base type).length - digitCount num' base precision type = size
  have hlow : -0x7FFFFFF0 ≤ size := by omega
  have hhigh : size < 0x80000000 := by omega
  have hdec : int (size - 1) = size - 1 := int_of_bounds (by omega) (by omega)
  generalize List.replicate (precision - (fillTmp num' base type).length).toNat (ch '0') = zeros
  generalize (if precision ≠ 0 then (fillTmp num' base type).reverse else []) = digits
  generalize prefixText base type = pre
  unfold layout signText
  by_cases hleft : type.left
  · by_cases hs : sign = 0#8
    · simp [hleft, hs]
    · simp [hleft, hs, hdec]
  · by_cases hzero : type.zeropad
    · by_cases hs : sign = 0#8
      · simp [hleft, hs, hzero, toNat_afterWhile (show -0x7FFFFFFF ≤ size by omega)]
      · simp [hleft, hs, hzero, hdec, toNat_afterWhile (show -0x7FFFFFFF ≤ size - 1 by omega)]
    · by_cases hs : sign = 0#8
      · have hafter := afterWhile_bounds hlow (by omega) (by omega)
        have hnone : (afterWhile size).toNat = 0 := by omega
        simp [hleft, hs, hzero, hnone, toNat_afterWhile (show -0x7FFFFFFF ≤ afterWhile size by omega)]
      · have hbefore : (if size > 0 then size - 1 else size).toNat = (size - 1).toNat := by
          split <;> omega
        have hlow' : -0x7FFFFFF0 ≤ if size > 0 then size - 1 else size := by
          split <;> omega
        have hafter := afterWhile_bounds hlow' (by omega) (by omega)
        simp only [hleft, hs, hzero, Bool.false_and, Bool.false_eq_true, or_self, not_false_eq_true, if_true,
          ne_eq, true_and, if_false]
        rw [hbefore, int_of_bounds (by omega) (by omega), toNat_afterWhile (by omega)]
        rw [show (afterWhile (if size > 0 then size - 1 else size) - 1).toNat = 0 by omega]
        simp

lemma layout_length (left zeropad : Bool) (pad : ℕ) (front digits : List Byte) :
    (layout left zeropad pad front digits).length = front.length + digits.length + pad := by
  unfold layout
  split_ifs
  all_goals simp only [List.length_append, List.length_replicate]
  all_goals omega

/-! ### Reading a number back -/

/-- The value of a digit in any base up to 16. -/
def digitValue (c : Byte) : Option ℕ :=
  if isDigit c then some (c - ch '0').toNat
  else if (c - ch 'a').toNat < 6 then some ((c - ch 'a').toNat + 10)
  else if (c - ch 'A').toNat < 6 then some ((c - ch 'A').toNat + 10)
  else none

/-- Reads digits, from the first one on. -/
def parse (base : Base) : List Byte → ℕ → Option ℕ
  | [], v => some v
  | c :: t, v => (digitValue c).bind fun d => if d < base.value then parse base t (v * base.value + d) else none

lemma parse_append (base : Base) (t u : List Byte) (v : ℕ) :
    parse base (t ++ u) v = (parse base t v).bind fun v => parse base u v := by
  induction t generalizing v with
  | nil => rfl
  | cons c t ih =>
    rw [List.cons_append, parse, parse]
    cases digitValue c with
    | none => rfl
    | some d =>
      simp only [Option.bind_some]
      split
      · exact ih _
      · rfl

lemma digitValue_digitChar (large : Bool) {d : ℕ} (h : d < 16) : digitValue (digitChar large d) = some d := by
  revert d
  cases large
  all_goals decide

lemma Base.value_le (base : Base) : base.value ≤ 16 := by
  cases base
  all_goals decide

lemma parse_digits (large : Bool) {ds : List ℕ} (h : ∀ d ∈ ds, d < base.value) :
    parse base (ds.map (digitChar large)).reverse 0 = some (Nat.ofDigits base.value ds) := by
  induction ds with
  | nil => rfl
  | cons d ds ih =>
    have hd := h d List.mem_cons_self
    rw [List.map_cons, List.reverse_cons, parse_append, ih fun d hd => h d (List.mem_cons_of_mem _ hd),
      Option.bind_some, parse, digitValue_digitChar large (hd.trans_le base.value_le), Option.bind_some,
      if_pos hd, parse, Nat.ofDigits_cons, Nat.mul_comm, Nat.add_comm]

/-- The digits of a word are read back. -/
lemma parse_fillTmp (num : Word) (base : Base) (type : Flags) :
    parse base (fillTmp num base type).reverse 0 = some num.toNat := by
  by_cases h : num = 0#32
  · subst h
    cases base
    all_goals rfl
  · rw [fillTmp_eq h, parse_digits _ fun d hd => Nat.digits_lt_base base.one_lt hd, Nat.ofDigits_digits]

/-- The sign that a number shows. -/
def numberSign (num : Word) (type : Flags) : List Byte :=
  if ¬ type.sign then []
  else if num.toInt < 0 then [ch '-']
  else if type.plus then [ch '+']
  else if type.space then [ch ' ']
  else []

/-- The prefix of a base. -/
def Base.mark (large : Bool) : Base → List Byte
  | .bin => [ch '0', ch 'b']
  | .oct => [ch '0']
  | .dec => []
  | .hex => [ch '0', if large then ch 'X' else ch 'x']

lemma prefixText_eq (base : Base) (type : Flags) :
    prefixText base type = if type.special then base.mark type.large else [] := by
  cases base
  all_goals rfl

/-- The qualifier `h` is for a number of 16 bits. -/
def Short (num : Word) (qualifier : Byte) : Prop := qualifier = ch 'h' → num.toInt = (num.setWidth 16).toInt

lemma toNat_neg_of_neg {n : ℕ} {x : BitVec n} (h : x.toInt < 0) : (-x).toNat = x.toInt.natAbs := by
  have hlt := x.isLt
  have hint := x.toInt_eq_toNat_cond
  split_ifs at hint with hhalf
  · omega
  · rw [BitVec.toNat_neg, Nat.mod_eq_of_lt (by omega)]
    omega

lemma toNat_of_nonneg {x : Word} (h : ¬ x.toInt < 0) : x.toNat = x.toInt.natAbs := by
  have hlt := x.isLt
  have hint := x.toInt_eq_toNat_cond
  split_ifs at hint <;> omega

lemma takeMinus_value (h : Short num qualifier) :
    (takeMinus num qualifier).1 = (if num.toInt < 0 then ch '-' else 0#8) ∧
      (takeMinus num qualifier).2.toNat = num.toInt.natAbs := by
  unfold takeMinus
  by_cases hq : qualifier = ch 'h'
  · rw [if_pos hq, ← h hq]
    by_cases hneg : num.toInt < 0
    · rw [if_pos hneg, if_pos hneg]
      refine ⟨rfl, ?_⟩
      rw [h hq] at hneg ⊢
      rw [← toNat_neg_of_neg hneg]
      have hlt := (-num.setWidth 16).isLt
      rw [BitVec.toNat_setWidth]
      omega
    · rw [if_neg hneg, if_neg hneg]
      exact ⟨rfl, toNat_of_nonneg hneg⟩
  · rw [if_neg hq]
    by_cases hneg : num.toInt < 0
    · rw [if_pos hneg, if_pos hneg]
      exact ⟨rfl, toNat_neg_of_neg hneg⟩
    · rw [if_neg hneg, if_neg hneg]
      exact ⟨rfl, toNat_of_nonneg hneg⟩

lemma getSign_value (h : type.sign → Short num qualifier) :
    signText (getSign num qualifier type).1 = numberSign num type ∧
      (getSign num qualifier type).2.toNat = if type.sign then num.toInt.natAbs else num.toNat := by
  unfold getSign numberSign
  by_cases hs : type.sign
  · obtain ⟨hminus, hvalue⟩ := takeMinus_value (h hs)
    rw [if_pos hs, if_pos hs, if_neg (not_not_intro hs)]
    dsimp only
    rw [hminus]
    by_cases hneg : num.toInt < 0
    · rw [if_pos hneg, if_pos hneg, if_neg (not_not_intro rfl)]
      exact ⟨rfl, hvalue⟩
    · rw [if_neg hneg, if_neg hneg, if_pos (by decide)]
      refine ⟨?_, hvalue⟩
      cases type.plus
      · cases type.space
        all_goals rfl
      · rfl
  · rw [if_neg hs, if_neg hs, if_pos hs]
    exact ⟨rfl, rfl⟩

/-- A text is a field of `w` places with a number: padding, the sign, the prefix and digits that read back to the
magnitude of the number. -/
def Rendered (base : Base) (w : ℤ) (sign mark : List Byte) (magnitude : ℕ) (t : List Byte) : Prop :=
  ∃ lead zeros trail digits,
    t = List.replicate lead (ch ' ') ++ sign ++ mark ++ List.replicate zeros (ch '0') ++ digits ++
      List.replicate trail (ch ' ') ∧
    digits ≠ [] ∧ parse base digits 0 = some magnitude ∧
    (t.length : ℤ) = if w > (sign ++ mark ++ digits).length then w else ((sign ++ mark ++ digits).length : ℤ)

lemma paddedDigits_none (num : Word) (base : Base) (type : Flags) :
    paddedDigits num base (-1) type = (fillTmp num base type).reverse := by
  rw [paddedDigits, if_pos (by decide), show (-1 - ((fillTmp num base type).length : ℤ)).toNat = 0 by omega]
  rfl

lemma digitCount_none (num : Word) (base : Base) (type : Flags) :
    digitCount num base (-1) type = (fillTmp num base type).length := if_pos (by omega)

end N32L43x.Klibc.Vsnprintf
