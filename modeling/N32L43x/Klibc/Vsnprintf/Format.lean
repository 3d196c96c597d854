import N32L43x.Klibc.Vsnprintf.Text

/-!
The conversions of a format as the C standard writes them: flags, a field width, a precision, a length modifier and
the character of the conversion; and that the function reads back what was written.
-/

namespace N32L43x.Klibc.Vsnprintf

/-! ### What a conversion is -/

inductive Flag
  | minus
  | plus
  | space
  | hash
  | zero
  deriving DecidableEq

def Flag.char : Flag → Byte
  | .minus => ch '-'
  | .plus => ch '+'
  | .space => ch ' '
  | .hash => ch '#'
  | .zero => ch '0'

def Flag.set : Flag → Flags → Flags
  | .minus, flags => { flags with left := true }
  | .plus, flags => { flags with plus := true }
  | .space, flags => { flags with space := true }
  | .hash, flags => { flags with special := true }
  | .zero, flags => { flags with zeropad := true }

/-- The value of digits behind a number. -/
def decimal (digits : List Byte) (i : ℕ) : ℕ := digits.foldl (fun i c => i * 10 + (c - ch '0').toNat) i

/-- A decimal integer that an `int` holds. -/
structure Numeral where
  digits : List Byte
  valid : ∀ c ∈ digits, isDigit c
  small : decimal digits 0 < 0x80000000

def Numeral.value (n : Numeral) : ℕ := decimal n.digits 0

/-- A field width.  The first digit of a number is not a zero, which is a flag. -/
inductive Width
  | none
  | literal (n : Numeral) (h : n.digits ≠ [] ∧ head n.digits ≠ ch '0')
  | star

/-- A precision.  The `.` alone is a zero. -/
inductive Precision
  | none
  | literal (n : Numeral)
  | star

inductive Length
  | none
  | hh
  | h
  | l
  deriving DecidableEq

inductive Specifier
  | d
  | i
  | u
  | x
  | X
  | o
  | c
  | s
  | percent
  deriving DecidableEq

def Specifier.char : Specifier → Byte
  | .d => ch 'd'
  | .i => ch 'i'
  | .u => ch 'u'
  | .x => ch 'x'
  | .X => ch 'X'
  | .o => ch 'o'
  | .c => ch 'c'
  | .s => ch 's'
  | .percent => ch '%'

structure Conversion where
  flags : List Flag
  width : Width
  precision : Precision
  length : Length
  specifier : Specifier

/-! ### How it is written -/

def Width.render : Width → List Byte
  | .none => []
  | .literal n _ => n.digits
  | .star => [ch '*']

def Precision.render : Precision → List Byte
  | .none => []
  | .literal n => ch '.' :: n.digits
  | .star => [ch '.', ch '*']

def Length.render : Length → List Byte
  | .none => []
  | .hh => [ch 'h', ch 'h']
  | .h => [ch 'h']
  | .l => [ch 'l']

/-- What stands behind the `%`. -/
def Conversion.render (c : Conversion) : List Byte :=
  c.flags.map Flag.char ++ (c.width.render ++ (c.precision.render ++ (c.length.render ++ [c.specifier.char])))

/-! ### How the function reads it -/

/-- A width below zero justifies to the left. -/
def Width.left (ap : VaList) : Width → Bool
  | .none => false
  | .literal _ _ => false
  | .star => ap.arg.1.toInt < 0

/-- `field_width`, from the next argument if it is a `*`. -/
def Width.value (ap : VaList) : Width → ℤ
  | .none => -1
  | .literal n _ => n.value
  | .star => if ap.arg.1.toInt < 0 then int (-ap.arg.1.toInt) else ap.arg.1.toInt

def Width.next (ap : VaList) : Width → VaList
  | .none => ap
  | .literal _ _ => ap
  | .star => ap.arg.2

/-- `precision`: one that is below zero is a zero. -/
def Precision.value (ap : VaList) : Precision → ℤ
  | .none => -1
  | .literal n => n.value
  | .star => if ap.arg.1.toInt < 0 then 0 else ap.arg.1.toInt

def Precision.next (ap : VaList) : Precision → VaList
  | .none => ap
  | .literal _ => ap
  | .star => ap.arg.2

def Length.qualifier : Length → Byte
  | .none => 0#8
  | .hh => ch 'H'
  | .h => ch 'h'
  | .l => ch 'l'

def Conversion.typed (c : Conversion) (ap : VaList) : Flags :=
  let flags := c.flags.foldl (fun flags f => f.set flags) .none
  { flags with left := flags.left || c.width.left ap }

/-- The arguments behind those for the width and the precision. -/
def Conversion.next (c : Conversion) (ap : VaList) : VaList := c.precision.next (c.width.next ap)

/-- What `rt_vsnprintf` knows of a conversion when it comes to the `switch`. -/
def Conversion.directive (c : Conversion) (rest : List Byte) (ap : VaList) : Directive :=
  ⟨c.typed ap, c.width.value ap, c.precision.value (c.width.next ap), c.length.qualifier,
    c.specifier.char :: rest, c.next ap⟩

/-! ### Reading back -/

lemma decimal_le (digits : List Byte) (i : ℕ) : i ≤ decimal digits i := by
  induction digits generalizing i with
  | nil => exact le_rfl
  | cons c digits ih =>
    refine le_trans ?_ (ih (i * 10 + (c - ch '0').toNat))
    omega

lemma toNat_of_isDigit {c : Byte} (h : isDigit c) : (c.toNat : ℤ) - 48 = (c - ch '0').toNat := by
  have h := of_decide_eq_true h
  have hzero : (ch '0').toNat = 48 := rfl
  rw [BitVec.toNat_sub, hzero] at h ⊢
  omega

lemma skipAtoi_decimal {digits rest : List Byte} {i : ℕ} (hvalid : ∀ c ∈ digits, isDigit c)
    (hsmall : decimal digits i < 0x80000000) (hrest : ¬ isDigit (head rest)) :
    skipAtoi (digits ++ rest) i = ((decimal digits i : ℤ), rest) := by
  induction digits generalizing i with
  | nil =>
    cases rest with
    | nil => rfl
    | cons c rest => exact if_neg hrest
  | cons c digits ih =>
    have hc := hvalid c List.mem_cons_self
    have hstep : int ((i : ℤ) * 10 + c.toNat - 48) = ((i * 10 + (c - ch '0').toNat : ℕ) : ℤ) := by
      have hle := decimal_le digits (i * 10 + (c - ch '0').toNat)
      have hlt : decimal digits (i * 10 + (c - ch '0').toNat) < 0x80000000 := hsmall
      rw [add_sub_assoc, toNat_of_isDigit hc, int_of_bounds (by omega) (by omega)]
      omega
    rw [List.cons_append, skipAtoi, if_pos hc, hstep]
    exact ih (fun c' hc' => hvalid c' (List.mem_cons_of_mem _ hc')) hsmall

lemma skipAtoi_numeral (n : Numeral) {rest : List Byte} (hrest : ¬ isDigit (head rest)) :
    skipAtoi (n.digits ++ rest) 0 = ((n.value : ℤ), rest) := skipAtoi_decimal n.valid n.small hrest

/-- The characters that neither a flag nor a width starts with. -/
def Plain (c : Byte) : Prop := isDigit c = false ∧ c ≠ ch '*' ∧ ∀ f : Flag, c ≠ f.char

lemma flagLoop_stop {rest : List Byte} (h : ∀ f : Flag, head rest ≠ f.char) (flags : Flags) :
    flagLoop rest flags = (flags, rest) := by
  cases rest with
  | nil => rfl
  | cons c rest =>
    have hminus : c ≠ ch '-' := h .minus
    have hplus : c ≠ ch '+' := h .plus
    have hspace : c ≠ ch ' ' := h .space
    have hhash : c ≠ ch '#' := h .hash
    have hzero : c ≠ ch '0' := h .zero
    rw [flagLoop, if_neg hminus, if_neg hplus, if_neg hspace, if_neg hhash, if_neg hzero]

lemma flagLoop_set (f : Flag) (rest : List Byte) (flags : Flags) :
    flagLoop (f.char :: rest) flags = flagLoop rest (f.set flags) := by
  cases f
  all_goals rfl

lemma flagLoop_flags {rest : List Byte} (h : ∀ f : Flag, head rest ≠ f.char) (fs : List Flag)
    (flags : Flags) :
    flagLoop (fs.map Flag.char ++ rest) flags = (fs.foldl (fun flags f => f.set flags) flags, rest) := by
  induction fs generalizing flags with
  | nil => exact flagLoop_stop h flags
  | cons f fs ih => exact (flagLoop_set f _ flags).trans (ih _)

lemma head_append {s rest : List Byte} (h : s ≠ []) : head (s ++ rest) = head s := by
  cases s with
  | nil => exact absurd rfl h
  | cons c s => rfl

lemma Numeral.isDigit_head (n : Numeral) (h : n.digits ≠ []) (rest : List Byte) :
    Vsnprintf.isDigit (head (n.digits ++ rest)) := by
  rw [head_append h]
  obtain ⟨c, digits, hc⟩ := List.exists_cons_of_ne_nil h
  have hmem : c ∈ n.digits := hc ▸ List.mem_cons_self
  rw [hc]
  exact n.valid c hmem

/-- A digit that is not a zero is no flag. -/
lemma ne_flag_of_isDigit {c : Byte} (h : isDigit c) (hzero : c ≠ ch '0') (f : Flag) : c ≠ f.char := by
  cases f with
  | zero => exact hzero
  | _ => rintro rfl; cases h

lemma getWidth_render (flags : Flags) (w : Width) {rest : List Byte} (hrest : Plain (head rest))
    (ap : VaList) :
    getWidth flags (w.render ++ rest) ap =
      ({ flags with left := flags.left || w.left ap }, w.value ap, rest, w.next ap) := by
  obtain ⟨hdigit, hstar, -⟩ := hrest
  have hstop : ¬ isDigit (head rest) := by
    rw [hdigit]
    exact Bool.false_ne_true
  cases w with
  | none =>
    change getWidth flags rest ap = _
    rw [getWidth, if_neg hstop, if_neg hstar, Width.left, Bool.or_false]
    rfl
  | literal n h =>
    change getWidth flags (n.digits ++ rest) ap = _
    rw [getWidth, if_pos (n.isDigit_head h.1 rest), skipAtoi_numeral n hstop, Width.left, Bool.or_false]
    rfl
  | star =>
    change getWidth flags (ch '*' :: rest) ap = _
    have hhead : head (ch '*' :: rest) = ch '*' := rfl
    rw [getWidth, hhead, if_neg (by decide), if_pos rfl, Width.left, Width.value]
    by_cases hneg : ap.arg.1.toInt < 0
    · simp [hneg, Width.next]
    · simp [hneg, Width.next]

lemma getPrecision_render (p : Precision) {rest : List Byte} (hrest : Plain (head rest))
    (hdot : head rest ≠ ch '.') (ap : VaList) :
    getPrecision (p.render ++ rest) ap = (p.value ap, rest, p.next ap) := by
  obtain ⟨hdigit, hstar, -⟩ := hrest
  have hstop : ¬ isDigit (head rest) := by
    rw [hdigit]
    exact Bool.false_ne_true
  cases p with
  | none =>
    change getPrecision rest ap = _
    rw [getPrecision, if_neg hdot]
    rfl
  | literal n =>
    change getPrecision (ch '.' :: (n.digits ++ rest)) ap = _
    have hhead (s : List Byte) : head (ch '.' :: s) = ch '.' := rfl
    rw [getPrecision, if_pos (hhead _), List.tail_cons, getDigits]
    by_cases hnil : n.digits = []
    · rw [hnil, List.nil_append, if_neg hstop, if_neg hstar, Precision.value, Numeral.value, hnil]
      rfl
    · rw [if_pos (n.isDigit_head hnil rest), skipAtoi_numeral n hstop]
      simp [Precision.value, Precision.next]
  | star => rfl

lemma getQualifier_render (len : Length) (sp : Specifier) (rest : List Byte) :
    getQualifier (len.render ++ sp.char :: rest) = (len.qualifier, sp.char :: rest) := by
  cases len
  all_goals cases sp
  all_goals rfl

lemma Length.plain (len : Length) (sp : Specifier) (rest : List Byte) :
    Plain (head (len.render ++ sp.char :: rest)) ∧ head (len.render ++ sp.char :: rest) ≠ ch '.' := by
  have hplain {c : Byte} (h : isDigit c = false ∧ c ≠ ch '*' ∧ c ≠ ch '-' ∧ c ≠ ch '+' ∧ c ≠ ch ' ' ∧
      c ≠ ch '#' ∧ c ≠ ch '0' ∧ c ≠ ch '.') : Plain c ∧ c ≠ ch '.' := by
    obtain ⟨hdigit, hstar, hminus, hplus, hspace, hhash, hzero, hdot⟩ := h
    refine ⟨⟨hdigit, hstar, fun f => ?_⟩, hdot⟩
    cases f
    all_goals assumption
  have hhead : head (len.render ++ sp.char :: rest) = head (len.render ++ [sp.char]) := by
    cases len
    all_goals rfl
  rw [hhead]
  apply hplain
  cases len
  all_goals cases sp
  all_goals decide

lemma Precision.plain (p : Precision) {rest : List Byte} (h : Plain (head rest)) :
    Plain (head (p.render ++ rest)) := by
  have hdot : Plain (ch '.') := ⟨by decide, by decide, fun f => by cases f <;> decide⟩
  cases p with
  | none => exact h
  | literal n => exact hdot
  | star => exact hdot

lemma Width.ne_flag (w : Width) {rest : List Byte} (h : Plain (head rest)) (f : Flag) :
    head (w.render ++ rest) ≠ f.char := by
  cases w with
  | none => exact h.2.2 f
  | literal n hn =>
    refine ne_flag_of_isDigit (n.isDigit_head hn.1 rest) ?_ f
    exact (head_append hn.1).trans_ne hn.2
  | star =>
    change ch '*' ≠ f.char
    cases f
    all_goals decide

/-- **What was written is read.** -/
lemma directive_render (c : Conversion) (rest : List Byte) (ap : VaList) :
    directive (c.render ++ rest) ap = c.directive rest ap := by
  obtain ⟨hlength, hdot⟩ := c.length.plain c.specifier rest
  have hprecision := c.precision.plain hlength
  have hrender : c.render ++ rest = c.flags.map Flag.char ++ (c.width.render ++ (c.precision.render ++
      (c.length.render ++ c.specifier.char :: rest))) := by
    simp only [Conversion.render, List.append_assoc, List.singleton_append]
  rw [hrender, directive, flagLoop_flags (c.width.ne_flag hprecision)]
  dsimp only
  rw [getWidth_render _ _ hprecision]
  dsimp only
  rw [getPrecision_render _ hlength hdot]
  dsimp only
  rw [getQualifier_render]
  rfl

end N32L43x.Klibc.Vsnprintf
