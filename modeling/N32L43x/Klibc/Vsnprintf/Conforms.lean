import N32L43x.Klibc.Vsnprintf.Compare

/-!
Where the output of a format is the one that C99 prescribes: for each conversion the exact condition, and for a whole
format whose conversions all meet it.
-/

namespace N32L43x.Klibc.Vsnprintf

variable {text : Word → List Byte} {c : Conversion} {ap : VaList} {rest : List Byte} {w : ℤ} {given : Option ℤ}

/-! ### Flags, width, precision and arguments -/

lemma foldl_set (fs : List Flag) (flags : Flags) :
    fs.foldl (fun flags f => f.set flags) flags =
      { flags with
        zeropad := flags.zeropad || decide (.zero ∈ fs)
        plus := flags.plus || decide (.plus ∈ fs)
        space := flags.space || decide (.space ∈ fs)
        left := flags.left || decide (.minus ∈ fs)
        special := flags.special || decide (.hash ∈ fs) } := by
  induction fs generalizing flags with
  | nil => simp
  | cons f fs ih =>
    rw [List.foldl_cons, ih]
    cases f
    all_goals simp [Flag.set]

lemma typed_eq (c : Conversion) (ap : VaList) :
    c.typed ap = ⟨c.has .zero, false, c.has .plus, c.has .space, c.has .minus || c.width.left ap, c.has .hash,
      false⟩ := by
  rw [Conversion.typed, foldl_set]
  rfl

lemma value_tiny (p : Precision) (ap : VaList) : p.value ap = tinyPrecision (p.given ap) := by
  cases p with
  | none => rfl
  | literal n =>
    have hnonneg : ¬ (n.value : ℤ) < 0 := not_lt.2 (Int.natCast_nonneg n.value)
    rw [Precision.given, tinyPrecision]
    exact (if_neg hnonneg).symm
  | star => rfl

/-- What the function computes of the field stays within an `int`. -/
def Conversion.Sized (c : Conversion) (ap : VaList) : Prop :=
  -1 ≤ c.width.value ap ∧ c.precision.value (c.width.next ap) < 0x7FFFFFE0

lemma toInt_bounds (arg : Word) : -0x80000000 ≤ arg.toInt ∧ arg.toInt < 0x80000000 := by
  have hlt := arg.isLt
  rw [BitVec.toInt_eq_toNat_cond]
  split <;> omega

/-- A width of an `int` is the prescribed one, and below zero if there is none. -/
lemma width_places (v : Width) (ap : VaList) (h : -1 ≤ v.value ap) :
    v.value ap < 0x80000000 ∧ v.places ap = (v.value ap).toNat := by
  cases v with
  | none => exact ⟨show (-1 : ℤ) < 0x80000000 by decide, rfl⟩
  | literal n hn => exact ⟨Int.ofNat_lt.2 n.small, rfl⟩
  | star =>
    have hbounds := toInt_bounds ap.arg.1
    unfold Width.value Width.places at *
    dsimp only at h ⊢
    generalize ap.arg.1.toInt = x at *
    by_cases hneg : x < 0
    · rw [if_pos hneg] at h ⊢
      have hne : x ≠ -0x80000000 := by
        rintro rfl
        exact absurd h (by decide)
      rw [int_of_bounds (by omega) (by omega)]
      omega
    · rw [if_neg hneg]
      omega

lemma setWidth_signExtend {k : ℕ} (hk : k ≤ 32) (x : BitVec k) : (x.signExtend 32).setWidth k = x := by
  ext i hi
  rw [BitVec.getElem_setWidth, BitVec.getLsbD_signExtend]
  simp [hi, show i < 32 by omega]

lemma getNumber_signed (len : Length) (arg : Word) :
    (getNumber len.qualifier true arg).toInt = len.signed arg ∧
      Short (getNumber len.qualifier true arg) len.qualifier := by
  cases len with
  | none => exact ⟨rfl, fun h => absurd h (by decide)⟩
  | l => exact ⟨rfl, fun h => absurd h (by decide)⟩
  | hh =>
    have hnum : getNumber Length.hh.qualifier true arg =
        (((arg.setWidth 8).signExtend 32).setWidth 8).signExtend 32 := rfl
    rw [hnum, setWidth_signExtend (by omega), BitVec.toInt_signExtend_of_le (by omega)]
    exact ⟨rfl, fun h => absurd h (by decide)⟩
  | h =>
    have hnum : getNumber Length.h.qualifier true arg =
        (((arg.setWidth 16).setWidth 32).setWidth 16).signExtend 32 := rfl
    have hshort : ((arg.setWidth 16).setWidth 32).setWidth 16 = arg.setWidth 16 := by
      simp
    rw [hnum, hshort]
    refine ⟨BitVec.toInt_signExtend_of_le (by omega), fun _ => ?_⟩
    rw [setWidth_signExtend (by omega), BitVec.toInt_signExtend_of_le (by omega)]

/-- `hh` keeps the sign of an argument that is to be unsigned. -/
lemma getNumber_unsigned (len : Length) (arg : Word) :
    (getNumber len.qualifier false arg).toNat =
      if len = .hh ∧ 128 ≤ len.unsigned arg then len.unsigned arg + 0xFFFFFF00 else len.unsigned arg := by
  cases len with
  | none => rfl
  | l => rfl
  | hh =>
    have hnum : getNumber Length.hh.qualifier false arg = (arg.setWidth 8).signExtend 32 := rfl
    have hunsigned : Length.hh.unsigned arg = (arg.setWidth 8).toNat := rfl
    have hlt := (arg.setWidth 8).isLt
    have hmsb : (arg.setWidth 8).msb = decide (128 ≤ (arg.setWidth 8).toNat) := BitVec.msb_eq_decide _
    have hwide : ((arg.setWidth 8).setWidth 32).toNat = (arg.setWidth 8).toNat := by
      rw [BitVec.toNat_setWidth]
      omega
    rw [hnum, hunsigned, BitVec.toNat_signExtend, hmsb, hwide]
    by_cases hhigh : 128 ≤ (arg.setWidth 8).toNat
    · rw [if_pos (decide_eq_true hhigh), if_pos ⟨rfl, hhigh⟩]
    · rw [if_neg (by rwa [decide_eq_true_eq]), if_neg fun h => hhigh h.2]
      rfl
  | h =>
    have hnum : getNumber Length.h.qualifier false arg = (arg.setWidth 16).setWidth 32 := rfl
    rw [hnum, if_neg (by simp), BitVec.toNat_setWidth]
    exact Nat.mod_eq_of_lt ((BitVec.isLt _).trans (by decide))

/-! ### A value that was read wrong -/

/-- Reads the digits of a text and skips everything else. -/
def scan (base : Base) (t : List Byte) (v : ℕ) : ℕ :=
  t.foldl
    (fun v c => match digitValue c with
      | some d => if d < base.value then v * base.value + d else v
      | none => v) v

lemma scan_append (base : Base) (t u : List Byte) (v : ℕ) : scan base (t ++ u) v = scan base u (scan base t v) :=
  List.foldl_append ..

lemma scan_parse {base : Base} {t : List Byte} {v n : ℕ} (h : parse base t v = some n) : scan base t v = n := by
  induction t generalizing v with
  | nil => exact Option.some.inj h
  | cons c t ih =>
    rw [parse] at h
    cases hd : digitValue c with
    | none =>
      rw [hd] at h
      cases h
    | some d =>
      rw [hd, Option.bind_some] at h
      split at h
      · rename_i hlt
        rw [scan, List.foldl_cons, hd]
        dsimp only
        rw [if_pos hlt]
        exact ih h
      · cases h

lemma scan_blanks (base : Base) (n v : ℕ) : scan base (List.replicate n (ch ' ')) v = v := by
  induction n with
  | zero => rfl
  | succ n ih =>
    rw [List.replicate_succ]
    exact ih

lemma scan_zeros (base : Base) (n : ℕ) : scan base (List.replicate n (ch '0')) 0 = 0 := by
  induction n with
  | zero => rfl
  | succ n ih =>
    rw [List.replicate_succ]
    cases base
    all_goals exact ih

/-- Padding is not read. -/
lemma scan_layout {base : Base} {front : List Byte} (hfront : scan base front 0 = 0) (left zero : Bool)
    (pad : ℕ) (digits : List Byte) : scan base (layout left zero pad front digits) 0 = scan base digits 0 := by
  unfold layout
  split_ifs
  all_goals simp only [scan_append, scan_blanks, scan_zeros, hfront]

lemma scan_stdDigits (base : Base) (large : Bool) (p v : ℕ) : scan base (stdDigits base large p v) 0 = v := by
  have hparse := @parse_digits base large (Nat.digits base.value v) fun d hd => Nat.digits_lt_base base.one_lt hd
  rw [stdDigits, scan_append, scan_zeros, scan_parse hparse, Nat.ofDigits_digits]

lemma scan_mark (base : Base) (large : Bool) : scan base (base.mark large) 0 = 0 := by
  cases base
  all_goals cases large
  all_goals rfl

variable {base : Base} {large hash left zero : Bool} {v v' : ℕ}

lemma scan_stdNumber (w' : ℕ) (p : Option ℕ) :
    scan base (stdNumber base large hash left zero w' p [] v) 0 = v := by
  have hdigits := scan_stdDigits base large (p.getD 1) v
  have hzero (t : List Byte) : scan base (ch '0' :: t) 0 = scan base t 0 := by
    cases base
    all_goals rfl
  unfold stdNumber
  rw [scan_layout]
  · split
    · rw [hzero, hdigits]
    · exact hdigits
  · rw [List.nil_append]
    split
    · exact scan_mark base large
    · rfl

lemma scan_tinyNumber : scan base (tinyNumber base large hash left zero w given [] v) 0 =
    if tinyPrecision given = 0 then 0 else v := by
  unfold tinyNumber
  rw [scan_layout]
  · unfold tinyDigits
    split
    · rfl
    · exact scan_stdDigits ..
  · rw [List.nil_append]
    split
    · exact scan_mark base large
    · rfl

/-- No text of a value is that of another one. -/
lemma tinyNumber_ne (hv : v ≠ 0) (hne : v' ≠ v) (w' : ℕ) :
    tinyNumber base large hash left zero w given [] v' ≠
      stdNumber base large hash left zero w' (asked given) [] v := by
  intro h
  have hscan := congrArg (scan base · 0) h
  rw [scan_stdNumber, scan_tinyNumber] at hscan
  split at hscan
  · exact hv hscan.symm
  · exact hne hscan

/-! ### Strings -/

/-- When the text of a string is the prescribed one. -/
def StringConforms (w : ℤ) (given : Option ℤ) (s : List Byte) : Prop :=
  if given = some 0 then if w = -1 then s = [] else ∀ c ∈ s.take w.toNat, c = ch ' '
  else w = -1 ∨ ((stdString (asked given) s).length : ℤ) ≤ w

lemma lenLoop_eq (s : List Byte) {len : ℤ} (hlen : 0 ≤ len) :
    lenLoop w s len = if len ≤ w ∧ w ≤ len + s.length then w else len + s.length := by
  induction s generalizing len with
  | nil =>
    rw [lenLoop, List.length_nil]
    split <;> omega
  | cons c s ih =>
    rw [lenLoop, ih (by omega), List.length_cons]
    split_ifs <;> omega

/-- The characters that are put of a string. -/
def tinyLen (w precision : ℤ) (s : List Byte) : ℤ :=
  if precision > 0 ∧ lenLoop w s 0 > precision then precision else lenLoop w s 0

/-- The text of a string in a field. -/
def tinyString (left : Bool) (w precision : ℤ) (s : List Byte) : List Byte :=
  layout left false (w - tinyLen w precision s).toNat [] (s.take (tinyLen w precision s).toNat)

lemma stringText_field {d : Directive} (h0 : -1 ≤ d.fieldWidth) (h1 : d.fieldWidth < 0x80000000)
    (harg : d.ap.arg.1 ≠ 0#32) :
    stringText text d = tinyString d.flags.left d.fieldWidth d.precision (text d.ap.arg.1) := by
  have hs : stringArg text d =
      (text d.ap.arg.1, tinyLen d.fieldWidth d.precision (text d.ap.arg.1)) := by
    rw [stringArg, if_neg harg]
    rfl
  have hpost (len : ℤ) : (afterPost len d.fieldWidth - len).toNat = 0 := by
    unfold afterPost
    split
    · omega
    · rw [int_of_bounds (by omega) (by omega)]
      omega
  unfold stringText tinyString
  rw [hs]
  dsimp only
  unfold layout
  by_cases hleft : d.flags.left
  · simp [hleft]
  · simp [hleft, hpost]

/-- The length of the prescribed string, or the width if that is less. -/
lemma tinyLen_eq {s : List Byte} (hne : given ≠ some 0) :
    tinyLen w (tinyPrecision given) s =
      if 0 ≤ w ∧ w < (stdString (asked given) s).length then w else ((stdString (asked given) s).length : ℤ) := by
  have hwhole {pc : ℤ} (hpc : pc ≤ 0) : tinyLen w pc s = if 0 ≤ w ∧ w < s.length then w else (s.length : ℤ) := by
    rw [tinyLen, if_neg (by omega), lenLoop_eq s le_rfl]
    split_ifs <;> omega
  cases given with
  | none => exact hwhole (by decide)
  | some p =>
    by_cases hp : p < 0
    · have hprec : tinyPrecision (some p) = 0 := if_pos hp
      have hasked : asked (some p) = none := if_pos hp
      rw [hprec, hasked]
      exact hwhole le_rfl
    · have hzero : p ≠ 0 := fun h => hne (congrArg some h)
      have hprec : tinyPrecision (some p) = p := if_neg hp
      have hasked : asked (some p) = some p.toNat := if_neg hp
      rw [hprec, hasked, stdString, List.length_take, tinyLen, lenLoop_eq s le_rfl]
      split_ifs <;> omega

lemma take_length_std {s : List Byte} : s.take (stdString (asked given) s).length = stdString (asked given) s := by
  cases asked given with
  | none => exact List.take_length
  | some p =>
    rw [stdString, List.length_take, List.take_eq_take_iff]
    omega

lemma blanks_iff {left : Bool} {k : ℕ} {u : List Byte} (hk : u.length ≤ k) :
    layout left false (k - u.length) [] u = layout left false k [] [] ↔ ∀ c ∈ u, c = ch ' ' := by
  have hblank : layout left false k [] [] = List.replicate k (ch ' ') := by
    cases left
    all_goals simp [layout]
  rw [hblank]
  constructor
  · intro h c hc
    have hmem : c ∈ layout left false (k - u.length) [] u := by
      cases left
      all_goals simp [layout, hc]
    rw [h] at hmem
    exact List.eq_of_mem_replicate hmem
  · intro h
    have hu : u = List.replicate u.length (ch ' ') := List.eq_replicate_iff.2 ⟨rfl, h⟩
    generalize u.length = n at hu hk
    subst hu
    cases left
    · simp [layout, Nat.sub_add_cancel hk]
    · simp [layout, Nat.add_sub_cancel' hk]

lemma string_iff {s : List Byte} {left : Bool} (h0 : -1 ≤ w) :
    tinyString left w (tinyPrecision given) s =
        layout left false (w.toNat - (stdString (asked given) s).length) [] (stdString (asked given) s) ↔
      StringConforms w given s := by
  unfold tinyString StringConforms
  by_cases hzero : given = some 0
  · subst hzero
    have hstd : stdString (asked (some 0)) s = [] := rfl
    have hlen : tinyLen w (tinyPrecision (some 0)) s = if 0 ≤ w ∧ w < s.length then w else (s.length : ℤ) := by
      have hprec : tinyPrecision (some 0) = 0 := rfl
      rw [hprec, tinyLen, if_neg (by omega), lenLoop_eq s le_rfl]
      split_ifs <;> omega
    rw [if_pos rfl, hstd, hlen, List.length_nil, Nat.sub_zero]
    by_cases hw : w = -1
    · subst hw
      simp [layout]
    · have htake : s.take (if 0 ≤ w ∧ w < s.length then w else (s.length : ℤ)).toNat = s.take w.toNat := by
        rw [List.take_eq_take_iff]
        split_ifs <;> omega
      have hpad : (w - if 0 ≤ w ∧ w < s.length then w else (s.length : ℤ)).toNat =
          w.toNat - (s.take w.toNat).length := by
        rw [List.length_take]
        split_ifs <;> omega
      rw [if_neg hw, htake, hpad]
      exact blanks_iff (List.length_take_le _ _)
  · rw [if_neg hzero, tinyLen_eq hzero]
    by_cases hcut : 0 ≤ w ∧ w < (stdString (asked given) s).length
    · rw [if_pos hcut]
      refine iff_of_false (fun h => ?_) (by omega)
      have hlength := congrArg List.length h
      rw [layout_length, layout_length, List.length_nil, List.length_take] at hlength
      omega
    · rw [if_neg hcut]
      refine iff_of_true ?_ (by omega)
      rw [Int.toNat_natCast, take_length_std]
      congr 1
      omega

/-! ### Conversions -/

/-- When the text of a conversion is the prescribed one. -/
def Conversion.Conforms (text : Word → List Byte) (c : Conversion) (ap : VaList) : Prop :=
  let w := c.width.value ap
  let given := c.precision.given (c.width.next ap)
  let arg := (c.next ap).arg.1
  let zeros := c.has .zero && !(c.has .minus || c.width.left ap)
  let unsigned (base : Base) : Prop :=
    ¬ (c.length = .hh ∧ 128 ≤ c.length.unsigned arg) ∧
      NumberConforms base (c.has .hash) zeros w given 0 (c.length.unsigned arg)
  match c.specifier with
  | .d | .i =>
    NumberConforms .dec (c.has .hash) zeros w given
      (stdSign (c.has .plus) (c.has .space) (c.length.signed arg)).length (c.length.signed arg).natAbs
  | .u => unsigned .dec
  | .x | .X => unsigned .hex
  | .o => unsigned .oct
  | .s => StringConforms w given (text arg)
  | .c | .percent => True

lemma conversion_tiny {base : Base} {large sign : Bool}
    (hcase : Case.of c.specifier.char = .number base large sign) (h : c.Sized ap) :
    let num := getNumber c.length.qualifier sign (c.next ap).arg.1
    (sign = true → Short num c.length.qualifier) →
    (conversion text (c.directive rest ap)).1 =
      tinyNumber base large (c.has .hash) (c.has .minus || c.width.left ap) (c.has .zero) (c.width.value ap)
        (c.precision.given (c.width.next ap))
        (if sign then stdSign (c.has .plus) (c.has .space) num.toInt else [])
        (if sign then num.toInt.natAbs else num.toNat) := by
  intro num hshort
  obtain ⟨hwidth, hprec⟩ := h
  rw [value_tiny] at hprec
  have hnumber := @conversion_number text (c.directive rest ap) base large sign hcase
  rw [hnumber]
  simp only [Conversion.directive, typed_eq, value_tiny, Bool.false_or]
  rw [numberText_tiny hwidth (width_places _ _ hwidth).1 hprec hshort]
  congr 1
  cases sign
  all_goals rfl

lemma signed_iff (hcase : Case.of c.specifier.char = .number .dec false true) (h : c.Sized ap)
    (hhash : c.has .hash = false) :
    (conversion text (c.directive rest ap)).1 =
        stdNumber .dec false false (c.has .minus || c.width.left ap) (c.has .zero) (c.width.places ap)
          (asked (c.precision.given (c.width.next ap)))
          (stdSign (c.has .plus) (c.has .space) (c.length.signed (c.next ap).arg.1))
          (c.length.signed (c.next ap).arg.1).natAbs ↔
      NumberConforms .dec (c.has .hash) (c.has .zero && !(c.has .minus || c.width.left ap))
        (c.width.value ap) (c.precision.given (c.width.next ap))
        (stdSign (c.has .plus) (c.has .space) (c.length.signed (c.next ap).arg.1)).length
        (c.length.signed (c.next ap).arg.1).natAbs := by
  obtain ⟨hvalue, hshort⟩ := getNumber_signed c.length (c.next ap).arg.1
  rw [conversion_tiny hcase h fun _ => hshort, if_pos rfl, if_pos rfl, hvalue, (width_places _ _ h.1).2, hhash]
  exact tinyNumber_iff h.1 fun hh => absurd hh (by decide)

lemma unsigned_iff {base : Base} {large : Bool}
    (hcase : Case.of c.specifier.char = .number base large false) (h : c.Sized ap)
    (hhash : c.has .hash = true → base = .oct ∨ base = .hex) :
    (conversion text (c.directive rest ap)).1 =
        stdNumber base large (c.has .hash) (c.has .minus || c.width.left ap) (c.has .zero) (c.width.places ap)
          (asked (c.precision.given (c.width.next ap))) [] (c.length.unsigned (c.next ap).arg.1) ↔
      ¬ (c.length = .hh ∧ 128 ≤ c.length.unsigned (c.next ap).arg.1) ∧
        NumberConforms base (c.has .hash) (c.has .zero && !(c.has .minus || c.width.left ap))
          (c.width.value ap) (c.precision.given (c.width.next ap)) 0 (c.length.unsigned (c.next ap).arg.1) := by
  have hvalue := getNumber_unsigned c.length (c.next ap).arg.1
  rw [conversion_tiny hcase h fun hh => absurd hh (by decide), if_neg (by decide), if_neg (by decide), hvalue,
    (width_places _ _ h.1).2]
  by_cases hhigh : c.length = .hh ∧ 128 ≤ c.length.unsigned (c.next ap).arg.1
  · rw [if_pos hhigh]
    refine iff_of_false (tinyNumber_ne (by omega) (by omega) _) fun hh => hh.1 hhigh
  · rw [if_neg hhigh, and_iff_right hhigh]
    exact tinyNumber_iff h.1 fun hh => ⟨rfl, hhash hh⟩

lemma charText_std (h : c.Sized ap) (hcase : Case.of c.specifier.char = .char) :
    (conversion text (c.directive rest ap)).1 =
      layout (c.has .minus || c.width.left ap) false (c.width.places ap - 1) [] [(c.next ap).arg.1.setWidth 8] := by
  obtain ⟨hlt, hplaces⟩ := width_places _ _ h.1
  have hchar := @conversion_char text (c.directive rest ap) hcase
  rw [hchar, charText_field h.1 hlt]
  simp only [Conversion.directive, typed_eq]
  rw [hplaces, show ((c.width.value ap) - 1).toNat = (c.width.value ap).toNat - 1 by omega]
  unfold layout
  cases c.has .minus || c.width.left ap
  all_goals simp

lemma stringText_iff (h : c.Sized ap) (hcase : Case.of c.specifier.char = .string)
    (harg : (c.next ap).arg.1 ≠ 0#32) :
    (conversion text (c.directive rest ap)).1 =
        layout (c.has .minus || c.width.left ap) false
          (c.width.places ap -
            (stdString (asked (c.precision.given (c.width.next ap))) (text (c.next ap).arg.1)).length) []
          (stdString (asked (c.precision.given (c.width.next ap))) (text (c.next ap).arg.1)) ↔
      StringConforms (c.width.value ap) (c.precision.given (c.width.next ap)) (text (c.next ap).arg.1) := by
  obtain ⟨hlt, hplaces⟩ := width_places _ _ h.1
  have hstring := @conversion_string text (c.directive rest ap) hcase
  rw [hstring, stringText_field h.1 hlt harg, hplaces]
  simp only [Conversion.directive, typed_eq, value_tiny]
  exact string_iff h.1

/-- **One conversion.**  Where C99 prescribes a text and the field is computed within an `int`, the function gives
that text exactly under the condition. -/
lemma conversion_iff {t : List Byte} (h : c.Sized ap) (ht : c.prescribed text ap = some t) :
    (conversion text (c.directive rest ap)).1 = t ↔ c.Conforms text ap := by
  unfold Conversion.prescribed at ht
  unfold Conversion.Conforms
  cases hsp : c.specifier
  all_goals simp only [hsp] at ht ⊢
  case d =>
    split at ht
    · cases ht
    · rename_i hhash
      obtain rfl := Option.some.inj ht
      exact signed_iff (by rw [hsp]; rfl) h (Bool.eq_false_of_not_eq_true hhash)
  case i =>
    split at ht
    · cases ht
    · rename_i hhash
      obtain rfl := Option.some.inj ht
      exact signed_iff (by rw [hsp]; rfl) h (Bool.eq_false_of_not_eq_true hhash)
  case u =>
    split at ht
    · cases ht
    · rename_i hhash
      obtain rfl := Option.some.inj ht
      exact unsigned_iff (by rw [hsp]; rfl) h fun hh => absurd hh hhash
  case x =>
    obtain rfl := Option.some.inj ht
    exact unsigned_iff (by rw [hsp]; rfl) h fun _ => .inr rfl
  case X =>
    obtain rfl := Option.some.inj ht
    exact unsigned_iff (by rw [hsp]; rfl) h fun _ => .inr rfl
  case o =>
    obtain rfl := Option.some.inj ht
    exact unsigned_iff (by rw [hsp]; rfl) h fun _ => .inl rfl
  case c =>
    split at ht
    · cases ht
    · obtain rfl := Option.some.inj ht
      exact iff_of_true (charText_std h (by rw [hsp]; rfl)) trivial
  case s =>
    split at ht
    · cases ht
    · rename_i hother
      obtain rfl := Option.some.inj ht
      refine stringText_iff h (by rw [hsp]; rfl) fun harg => hother ?_
      simp [harg]
  case percent =>
    split at ht
    · obtain rfl := Option.some.inj ht
      have hcase : Case.of (head (c.directive rest ap).fmt) = .percent := by
        rw [Conversion.directive, hsp]
        rfl
      rw [conversion_percent hcase]
      exact iff_of_true rfl trivial
    · cases ht

/-! ### Whole formats -/

/-- A piece of a format: a character that stands for itself, or a conversion. -/
inductive Piece
  | literal (c : Byte) (h : c ≠ ch '%')
  | conversion (c : Conversion)

def Piece.render : Piece → List Byte
  | .literal c _ => [c]
  | .conversion c => ch '%' :: c.render

/-- The arguments behind a conversion. -/
def Conversion.after (c : Conversion) (ap : VaList) : VaList :=
  if c.specifier = .percent then c.next ap else (c.next ap).arg.2

/-- What C99 prescribes for a format. -/
def prescribedText (text : Word → List Byte) : List Piece → VaList → Option (List Byte)
  | [], _ => some []
  | .literal c _ :: ps, ap => (prescribedText text ps ap).map (c :: ·)
  | .conversion c :: ps, ap =>
    (c.prescribed text ap).bind fun t => (prescribedText text ps (c.after ap)).map (t ++ ·)

/-- Every conversion of a format has the property, with the arguments that are left for it. -/
def Each (P : Conversion → VaList → Prop) : List Piece → VaList → Prop
  | [], _ => True
  | .literal _ _ :: ps, ap => Each P ps ap
  | .conversion c :: ps, ap => P c ap ∧ Each P ps (c.after ap)

lemma conversion_after (text : Word → List Byte) (c : Conversion) (rest : List Byte) (ap : VaList) :
    (conversion text (c.directive rest ap)).2 = c.after ap := by
  have hhead : head (c.directive rest ap).fmt = c.specifier.char := rfl
  unfold Conversion.after
  cases hsp : c.specifier
  all_goals rw [hsp] at hhead
  case percent =>
    rw [conversion_percent (by rw [hhead]; rfl)]
    rfl
  case c =>
    rw [conversion_char (by rw [hhead]; rfl)]
    rfl
  case s =>
    rw [conversion_string (by rw [hhead]; rfl)]
    rfl
  case d =>
    rw [@conversion_number text _ .dec false true (by rw [hhead]; rfl)]
    rfl
  case i =>
    rw [@conversion_number text _ .dec false true (by rw [hhead]; rfl)]
    rfl
  case u =>
    rw [@conversion_number text _ .dec false false (by rw [hhead]; rfl)]
    rfl
  case x =>
    rw [@conversion_number text _ .hex false false (by rw [hhead]; rfl)]
    rfl
  case X =>
    rw [@conversion_number text _ .hex true false (by rw [hhead]; rfl)]
    rfl
  case o =>
    rw [@conversion_number text _ .oct false false (by rw [hhead]; rfl)]
    rfl

lemma fullText_conversion (text : Word → List Byte) (c : Conversion) (rest : List Byte) (ap : VaList) :
    fullText text (ch '%' :: (c.render ++ rest)) ap =
      (conversion text (c.directive rest ap)).1 ++ fullText text rest (c.after ap) := by
  rw [fullText_percent, directive_render, conversion_after]
  rfl

/-- Conversions that each meet their condition give the prescribed text. -/
lemma fullText_prescribed (text : Word → List Byte) (ps : List Piece) (ap : VaList) {t : List Byte}
    (ht : prescribedText text ps ap = some t) (hsized : Each Conversion.Sized ps ap)
    (h : Each (Conversion.Conforms text) ps ap) : fullText text (ps.flatMap Piece.render) ap = t := by
  induction ps generalizing ap t with
  | nil =>
    obtain rfl := Option.some.inj ht
    exact fullText_nil text ap
  | cons p ps ih =>
    rw [List.flatMap_cons]
    cases p with
    | literal c hc =>
      obtain ⟨t', ht', rfl⟩ := Option.map_eq_some_iff.1 ht
      exact (fullText_literal text hc _ ap).trans (congrArg (c :: ·) (ih ap ht' hsized h))
    | conversion c =>
      obtain ⟨u, hu, hrest⟩ := Option.bind_eq_some_iff.1 ht
      obtain ⟨t', ht', rfl⟩ := Option.map_eq_some_iff.1 hrest
      refine (fullText_conversion text c _ ap).trans ?_
      rw [(conversion_iff hsized.1 hu).2 h.1, ih _ ht' hsized.2 h.2]

/-- The pieces of `%+05d %-4s|`. -/
def fields : List Piece :=
  [.conversion ⟨[.plus, .zero], .literal ⟨[ch '5'], by decide, by decide⟩ (by decide), .none, .none, .d⟩,
    .literal (ch ' ') (by decide),
    .conversion ⟨[.minus], .literal ⟨[ch '4'], by decide, by decide⟩ (by decide), .none, .none, .s⟩,
    .literal (ch '|') (by decide)]

/-- `%#o`. -/
def alternateOctal : Conversion := ⟨[.hash], .none, .none, .none, .o⟩

end N32L43x.Klibc.Vsnprintf
