import N32L43x.Klibc.Vsnprintf.Standard

/-!
When the text of a number is the one that C99 prescribes.  Without a precision it is, but for `#` with a zero.  A
precision of zero puts no digits, and one above zero leaves the flag `0` as it is.
-/

namespace N32L43x.Klibc.Vsnprintf

variable {base : Base} {large hash left zero : Bool} {w : ℤ} {p v : ℕ} {given : Option ℤ} {sign : List Byte}

/-! ### Digits -/

/-- The number of digits of a value, where a zero has one. -/
def digitsOf (base : Base) (v : ℕ) : ℕ := if v = 0 then 1 else (Nat.digits base.value v).length

lemma digitsOf_pos (base : Base) (v : ℕ) : 0 < digitsOf base v := by
  unfold digitsOf
  split
  · exact Nat.one_pos
  · rename_i h
    exact List.length_pos_iff.2 (Nat.digits_ne_nil_iff_ne_zero.2 h)

lemma stdDigits_length (base : Base) (large : Bool) (p v : ℕ) :
    (stdDigits base large p v).length =
      if p ≤ (Nat.digits base.value v).length then (Nat.digits base.value v).length else p := by
  rw [stdDigits, List.length_append, List.length_replicate, List.length_reverse, List.length_map]
  split <;> omega

lemma digitChar_ne_zero (large : Bool) {d : ℕ} (h0 : d ≠ 0) (h : d < 16) : digitChar large d ≠ ch '0' := by
  have hall : ∀ d < 16, d ≠ 0 → digitChar large d ≠ ch '0' := by
    cases large
    all_goals decide
  exact hall d h h0

/-- The first digit of a value that is not zero is not a zero. -/
lemma head_stdDigits_ne (hv : v ≠ 0) (hp : p ≤ (Nat.digits base.value v).length) :
    head (stdDigits base large p v) ≠ ch '0' := by
  have hne : Nat.digits base.value v ≠ [] := Nat.digits_ne_nil_iff_ne_zero.2 hv
  have hlast := Nat.getLast_digit_ne_zero base.value hv
  have hlt := Nat.digits_lt_base base.one_lt (List.getLast_mem hne)
  rw [stdDigits, Nat.sub_eq_zero_of_le hp, List.replicate_zero, List.nil_append,
    ← List.dropLast_append_getLast hne, List.map_append, List.reverse_append]
  exact digitChar_ne_zero large hlast (hlt.trans_le base.value_le)

/-- Digits that a precision has filled up start with a zero. -/
lemma stdDigits_zero (hp : (Nat.digits base.value v).length < p) :
    ∃ rest, stdDigits base large p v = ch '0' :: rest := by
  obtain ⟨k, hk⟩ := Nat.exists_eq_add_of_lt hp
  refine ⟨List.replicate k (ch '0') ++ ((Nat.digits base.value v).map (digitChar large)).reverse, ?_⟩
  rw [stdDigits, show p - (Nat.digits base.value v).length = k + 1 by omega, List.replicate_succ,
    List.cons_append]

/-! ### The text of this function -/

/-- `precision` as the function has it. -/
def tinyPrecision : Option ℤ → ℤ
  | none => -1
  | some p => if p < 0 then 0 else p

def tinyDigits (base : Base) (large : Bool) (given : Option ℤ) (v : ℕ) : List Byte :=
  if tinyPrecision given = 0 then [] else stdDigits base large ((asked given).getD 1) v

/-- The digits that are provided for. -/
def tinyCount (base : Base) (given : Option ℤ) (v : ℕ) : ℕ :=
  if tinyPrecision given > digitsOf base v then (tinyPrecision given).toNat else digitsOf base v

def tinyNumber (base : Base) (large hash left zero : Bool) (w : ℤ) (given : Option ℤ) (sign : List Byte) (v : ℕ) :
    List Byte :=
  let front := sign ++ if hash then base.mark large else []
  layout left zero (w - front.length - tinyCount base given v).toNat front (tinyDigits base large given v)

variable {num : Word} {type : Flags}

lemma fillTmp_digitsOf (num : Word) (base : Base) (type : Flags) :
    (fillTmp num base type).length = digitsOf base num.toNat := by
  unfold digitsOf
  by_cases h : num = 0#32
  · subst h
    rfl
  · have hne : num.toNat ≠ 0 := fun h0 => h (BitVec.eq_of_toNat_eq h0)
    rw [if_neg hne, fillTmp_eq h, List.length_map]

lemma digitCount_tiny (num : Word) (base : Base) (given : Option ℤ) (type : Flags) :
    digitCount num base (tinyPrecision given) type = tinyCount base given num.toNat := by
  unfold digitCount tinyCount
  rw [fillTmp_digitsOf]
  split <;> split <;> omega

/-- A precision that puts digits puts as many as the prescribed one. -/
lemma tinyPrecision_asked (h : tinyPrecision given ≠ 0) : 0 < (asked given).getD 1 ∧
    (tinyPrecision given = ((asked given).getD 1 : ℕ) ∨ tinyPrecision given = -1 ∧ (asked given).getD 1 = 1) := by
  cases given with
  | none => exact ⟨Nat.one_pos, .inr ⟨rfl, rfl⟩⟩
  | some p =>
    unfold tinyPrecision asked at *
    dsimp only at *
    by_cases hp : p < 0
    · exact absurd (if_pos hp) h
    · rw [if_neg hp] at h
      rw [if_neg hp, if_neg hp, Option.getD_some]
      omega

lemma paddedDigits_tiny (num : Word) (base : Base) (given : Option ℤ) (type : Flags) :
    paddedDigits num base (tinyPrecision given) type = tinyDigits base type.large given num.toNat := by
  have hpos := (fillTmp_length num base type).1
  unfold paddedDigits tinyDigits
  by_cases hzero : tinyPrecision given = 0
  · rw [if_pos hzero, if_neg (not_not_intro hzero), hzero, List.append_nil,
      show (0 - ((fillTmp num base type).length : ℤ)).toNat = 0 by omega]
    rfl
  · obtain ⟨hone, hasked⟩ := tinyPrecision_asked hzero
    rw [if_neg hzero, if_pos hzero, stdDigits]
    generalize tinyPrecision given = pc at hasked
    generalize (asked given).getD 1 = p at hasked hone
    by_cases hnum : num = 0#32
    · subst hnum
      have hfill : fillTmp 0#32 base type = [ch '0'] := rfl
      have hdigits : Nat.digits base.value (0#32).toNat = [] := Nat.digits_zero base.value
      have hp : p = (pc - 1).toNat + 1 := by omega
      rw [hfill, hdigits, hp]
      simp [List.replicate_succ']
    · rw [fillTmp_eq hnum] at hpos ⊢
      rw [List.length_map] at hpos ⊢
      congr 2
      omega

/-- A number in a field that an `int` can be computed with. -/
lemma numberText_tiny (h0 : -1 ≤ w) (h1 : w < 0x80000000) (hp : tinyPrecision given < 0x7FFFFFE0)
    {qualifier : Byte} (h : type.sign → Short num qualifier) :
    numberText num base qualifier w (tinyPrecision given) type =
      tinyNumber base type.large type.special type.left type.zeropad w given (numberSign num type)
        (if type.sign then num.toInt.natAbs else num.toNat) := by
  obtain ⟨hsign, hvalue⟩ := getSign_value h
  have hpair : getSign num qualifier type = ((getSign num qualifier type).1, (getSign num qualifier type).2) := rfl
  rw [numberText_layout h0 h1 hp hpair, ← hvalue, ← hsign, paddedDigits_tiny, placesLeft, digitCount_tiny]
  unfold tinyNumber
  rw [← prefixText_eq]
  dsimp only
  congr 2
  rw [List.length_append]
  omega

/-! ### Fields that are equal -/

lemma count_replicate_blank (n : ℕ) : (List.replicate n (ch ' ')).count (ch '0') = 0 :=
  List.count_eq_zero.2 fun h => absurd (List.eq_of_mem_replicate h) (by decide)

/-- The zeros in a field: those of its parts, and the padding if that is of zeros. -/
lemma layout_count (left zero : Bool) (pad : ℕ) (front digits : List Byte) :
    (layout left zero pad front digits).count (ch '0') =
      front.count (ch '0') + digits.count (ch '0') + if left = false ∧ zero = true then pad else 0 := by
  unfold layout
  cases left
  all_goals cases zero
  all_goals simp [count_replicate_blank]
  all_goals omega

lemma layout_zeros_iff (left zero : Bool) (pad : ℕ) (front digits : List Byte) :
    layout left zero pad front digits = layout left false pad front digits ↔
      (left = false ∧ zero = true → pad = 0) := by
  constructor
  · rintro h ⟨rfl, rfl⟩
    have hcount := congrArg (List.count (ch '0')) h
    rw [layout_count, layout_count] at hcount
    simpa using hcount
  · intro h
    cases left
    · cases zero
      · rfl
      · rw [h ⟨rfl, rfl⟩]
        simp [layout]
    · rfl

/-- A zero in front can be taken for the first digit. -/
lemma layout_zero_cons (left zero : Bool) (pad : ℕ) (digits : List Byte) :
    layout left zero pad [ch '0'] digits = layout left zero pad [] (ch '0' :: digits) := by
  unfold layout
  cases left
  · cases zero
    · simp
    · simp only [Bool.false_eq_true, if_false, if_true, List.nil_append]
      rw [List.singleton_append, ← List.replicate_succ, List.replicate_succ', List.append_assoc]
      rfl
  · simp

/-- A zero too many shows, unless it is one of the zeros that fill the field. -/
lemma layout_extra_zero_iff {zero' : Bool} (hzero : zero' = true → zero = true) {digits : List Byte}
    (hw : -1 ≤ w) :
    layout left zero (w - 1 - digits.length).toNat [ch '0'] digits =
        layout left zero' (w.toNat - digits.length) [] digits ↔
      left = false ∧ zero' = true ∧ digits.length + 1 ≤ w := by
  constructor
  · intro h
    have hlength := congrArg List.length h
    have hcount := congrArg (List.count (ch '0')) h
    have hone : [ch '0'].count (ch '0') = 1 := rfl
    rw [layout_length, layout_length, List.length_singleton, List.length_nil] at hlength
    rw [layout_count, layout_count, hone, List.count_nil] at hcount
    cases left
    · cases zero'
      · simp only [Bool.false_eq_true, and_false, if_false] at hcount
        omega
      · exact ⟨rfl, rfl, by omega⟩
    · simp only [Bool.true_eq_false, false_and, if_false] at hcount
      omega
  · rintro ⟨rfl, rfl, hle⟩
    rw [hzero rfl, show w.toNat - digits.length = (w - 1 - digits.length).toNat + 1 by omega]
    simp [layout, List.replicate_succ]

/-- The characters of a prefix that are no digits are nowhere else. -/
lemma mark_mem_layout {c : Byte} (hc : c = ch 'x' ∨ c = ch 'X') (left zero : Bool) (pad : ℕ)
    (front digits : List Byte) : c ∈ layout left zero pad front digits ↔ c ∈ front ∨ c ∈ digits := by
  have hblank : c ≠ ch ' ' := by rcases hc with rfl | rfl <;> decide
  have hzero : c ≠ ch '0' := by rcases hc with rfl | rfl <;> decide
  unfold layout
  split_ifs
  all_goals simp [List.mem_replicate, hblank, hzero]

/-! ### The comparison -/

/-- When the text of a number is the prescribed one.  `zeros` is the flag `0` without `-`. -/
def NumberConforms (base : Base) (hash zeros : Bool) (w : ℤ) (given : Option ℤ) (sign v : ℕ) : Prop :=
  match given with
  | none => hash = true → (base = .hex → v ≠ 0) ∧ (base = .oct → v ≠ 0 ∨ zeros = true ∧ 2 ≤ w)
  | some p =>
    if p < 0 then hash = true ∧ base = .oct ∧ v = 0 ∧ w ≤ 1
    else if p = 0 then
      v = 0 ∧ ¬ (hash = true ∧ base = .hex) ∧ w ≤ if hash = true ∧ base = .oct then 1 else (sign : ℤ)
    else
      (hash = true → v ≠ 0 ∧ (base = .oct → p ≤ digitsOf base v)) ∧
        (zeros = true → w ≤ sign + (if hash then (base.mark false).length else 0) +
          if p > digitsOf base v then p else (digitsOf base v : ℤ))

lemma tinyCount_put (h : tinyPrecision given ≠ 0) (base : Base) (large : Bool) (v : ℕ) :
    tinyCount base given v = (stdDigits base large ((asked given).getD 1) v).length := by
  obtain ⟨hone, hasked⟩ := tinyPrecision_asked h
  rw [stdDigits_length]
  unfold tinyCount digitsOf
  by_cases hv : v = 0
  · rw [if_pos hv, hv, Nat.digits_zero, List.length_nil]
    split <;> split <;> omega
  · have hpos := List.length_pos_iff.2 (Nat.digits_ne_nil_iff_ne_zero (b := base.value) |>.2 hv)
    rw [if_neg hv]
    split <;> split <;> omega

/-- Where digits are put, they are the prescribed ones. -/
lemma tinyNumber_put (h : tinyPrecision given ≠ 0) :
    tinyNumber base large hash left zero w given sign v =
      let front := sign ++ if hash then base.mark large else []
      let digits := stdDigits base large ((asked given).getD 1) v
      layout left zero (w - front.length - digits.length).toNat front digits := by
  unfold tinyNumber tinyDigits
  rw [if_neg h, tinyCount_put h base large]

/-- The same parts in a field: only the zeros in the place of blanks can differ. -/
lemma field_iff (hw : -1 ≤ w) (front digits : List Byte) (zero' : Bool) (hzero : zero' = zero ∨ zero' = false) :
    layout left zero (w - front.length - digits.length).toNat front digits =
        layout left zero' (w.toNat - (front ++ digits).length) front digits ↔
      (zero' = zero ∨ ((zero && !left) = true → w ≤ front.length + digits.length)) := by
  have hpad : w.toNat - (front ++ digits).length = (w - front.length - digits.length).toNat := by
    rw [List.length_append]
    omega
  rw [hpad]
  rcases hzero with rfl | rfl
  · simp
  · rw [layout_zeros_iff]
    cases left
    all_goals cases zero
    all_goals simp
    all_goals omega

/-- The first digit is a zero if a precision fills the digits up, or for the value zero. -/
lemma head_stdDigits_iff (hp : 0 < p) :
    head (stdDigits base large p v) = ch '0' ↔ v = 0 ∨ digitsOf base v < p := by
  unfold digitsOf
  by_cases hv : v = 0
  · subst hv
    obtain ⟨rest, hrest⟩ := @stdDigits_zero base large p 0 (by rwa [Nat.digits_zero])
    simp [hrest, head]
  · rw [if_neg hv, or_iff_right hv]
    constructor
    · intro h
      by_contra hle
      exact head_stdDigits_ne hv (not_lt.1 hle) h
    · intro hlt
      obtain ⟨rest, hrest⟩ := @stdDigits_zero base large p v hlt
      rw [hrest]
      rfl

/-- The prefix of a zero is not prescribed. -/
lemma tinyNumber_hex_zero (w' : ℕ) :
    tinyNumber .hex large true left zero w given [] 0 ≠ stdNumber .hex large true left zero w' (asked given) [] 0 := by
  intro h
  have hmark : (if large then ch 'X' else ch 'x') = ch 'x' ∨ (if large then ch 'X' else ch 'x') = ch 'X' := by
    cases large
    · exact .inl rfl
    · exact .inr rfl
  have hmem : (if large then ch 'X' else ch 'x') ∈ tinyNumber .hex large true left zero w given [] 0 := by
    unfold tinyNumber
    dsimp only
    rw [mark_mem_layout hmark]
    exact .inl (List.mem_cons_of_mem _ List.mem_cons_self)
  rw [h, stdNumber, mark_mem_layout hmark] at hmem
  simp [stdDigits] at hmem
  rcases hmark with hmark | hmark
  all_goals rw [hmark] at hmem
  all_goals exact absurd hmem.2 (by decide)

section

variable (hput : tinyPrecision given ≠ 0) (hw : -1 ≤ w)
include hput hw

/-- Without a prefix, or with the prefix of a value that is not zero. -/
lemma put_iff (hplain : hash = true → base = .hex ∧ v ≠ 0) :
    tinyNumber base large hash left zero w given sign v =
        stdNumber base large hash left zero w.toNat (asked given) sign v ↔
      ((asked given).isNone ∨ ((zero && !left) = true → w ≤ sign.length +
        (if hash then (base.mark false).length else 0) + tinyCount base given v)) := by
  have hstd : stdNumber base large hash left zero w.toNat (asked given) sign v =
      let front := sign ++ if hash then base.mark large else []
      let digits := stdDigits base large ((asked given).getD 1) v
      layout left (zero && (asked given).isNone) (w.toNat - (front ++ digits).length) front digits := by
    unfold stdNumber
    cases hash
    · simp
    · obtain ⟨rfl, hv⟩ := hplain rfl
      simp [hv]
  have hmark : (if hash then base.mark large else []).length = if hash then (base.mark false).length else 0 := by
    cases hash
    · rfl
    · cases base <;> rfl
  rw [tinyNumber_put hput, hstd, tinyCount_put hput base large]
  dsimp only
  rw [field_iff hw]
  · rw [List.length_append, hmark]
    cases (asked given).isNone
    · cases zero
      all_goals simp
    · simp
  · cases (asked given).isNone
    · exact .inr (Bool.and_false zero)
    · exact .inl (Bool.and_true zero)

/-- The zero that is always put for `#` is the prescribed one before a first digit that is not a zero. -/
lemma put_oct_iff :
    tinyNumber .oct large true left zero w given [] v =
        stdNumber .oct large true left zero w.toNat (asked given) [] v ↔
      if v ≠ 0 ∧ (asked given).getD 1 ≤ digitsOf .oct v then
        (asked given).isNone ∨ ((zero && !left) = true → w ≤ 1 + tinyCount .oct given v)
      else left = false ∧ (zero && (asked given).isNone) = true ∧ tinyCount .oct given v + 1 ≤ w := by
  have hhead := @head_stdDigits_iff .oct large _ v (tinyPrecision_asked hput).1
  have htiny : tinyNumber .oct large true left zero w given [] v =
      let digits := stdDigits .oct large ((asked given).getD 1) v
      layout left zero (w - 1 - digits.length).toNat [ch '0'] digits := tinyNumber_put hput
  have hstd (digits : List Byte) (h : digits = stdDigits .oct large ((asked given).getD 1) v) :
      stdNumber .oct large true left zero w.toNat (asked given) [] v =
        layout left (zero && (asked given).isNone)
          (w.toNat - (if head digits ≠ ch '0' then ch '0' :: digits else digits).length) []
          (if head digits ≠ ch '0' then ch '0' :: digits else digits) := by
    unfold stdNumber
    simp [h]
  rw [htiny, hstd _ rfl, tinyCount_put hput .oct large]
  generalize stdDigits .oct large ((asked given).getD 1) v = digits at hhead ⊢
  dsimp only
  by_cases hfirst : v ≠ 0 ∧ (asked given).getD 1 ≤ digitsOf .oct v
  · have hne : head digits ≠ ch '0' := by
      rw [Ne, hhead]
      omega
    have hfield := @field_iff left zero w hw [] (ch '0' :: digits) (zero && (asked given).isNone) (by
      cases (asked given).isNone
      · exact .inr (Bool.and_false zero)
      · exact .inl (Bool.and_true zero))
    have hpad : (w - 1 - digits.length).toNat =
        (w - ([] : List Byte).length - (ch '0' :: digits).length).toNat := by
      rw [List.length_nil, List.length_cons]
      omega
    rw [if_pos hfirst, if_pos hne, layout_zero_cons, hpad]
    have hlength : (([] : List Byte).length : ℤ) + (ch '0' :: digits).length = 1 + digits.length := by
      rw [List.length_nil, List.length_cons]
      omega
    rw [hlength] at hfield
    refine hfield.trans ?_
    cases (asked given).isNone
    · cases zero
      all_goals simp
    · simp
  · have heq : head digits = ch '0' := by
      rw [hhead]
      omega
    rw [if_neg hfirst, if_neg (not_not_intro heq)]
    exact layout_extra_zero_iff (fun h => (Bool.and_eq_true_iff.1 h).1) hw

end

lemma tinyCount_none (base : Base) (v : ℕ) : tinyCount base none v = digitsOf base v :=
  if_neg (by rw [tinyPrecision]; omega)

/-- Without a precision. -/
lemma tinyNumber_none_iff (hw : -1 ≤ w) (hhash : hash = true → sign = [] ∧ (base = .oct ∨ base = .hex)) :
    tinyNumber base large hash left zero w none sign v =
        stdNumber base large hash left zero w.toNat (asked none) sign v ↔
      NumberConforms base hash (zero && !left) w none sign.length v := by
  have hput : tinyPrecision none ≠ 0 := by decide
  unfold NumberConforms
  by_cases hoct : hash = true ∧ base = .oct
  · obtain ⟨rfl, rfl⟩ := hoct
    obtain rfl := (hhash rfl).1
    have hpos := digitsOf_pos .oct v
    rw [put_oct_iff hput hw, tinyCount_none]
    by_cases hv : v = 0
    · subst hv
      have hone : digitsOf .oct 0 = 1 := rfl
      rw [hone]
      cases left
      all_goals simp [asked]
    · rw [if_pos ⟨hv, hpos⟩]
      simp [asked, hv]
  · by_cases hv : hash = true ∧ v = 0
    · obtain ⟨rfl, rfl⟩ := hv
      obtain ⟨rfl, rfl | rfl⟩ := hhash rfl
      · exact absurd ⟨rfl, rfl⟩ hoct
      · simp [tinyNumber_hex_zero]
    · have hplain : hash = true → base = .hex ∧ v ≠ 0 := fun hh =>
        ⟨(hhash hh).2.resolve_left fun ho => hoct ⟨hh, ho⟩, fun h0 => hv ⟨hh, h0⟩⟩
      rw [put_iff hput hw hplain]
      refine iff_of_true (.inl rfl) fun hh => ?_
      exact ⟨fun _ => (hplain hh).2, fun ho => absurd ⟨hh, ho⟩ hoct⟩

/-- With a precision above zero. -/
lemma tinyNumber_pos_iff {p : ℤ} (hp : 0 < p) (hw : -1 ≤ w)
    (hhash : hash = true → sign = [] ∧ (base = .oct ∨ base = .hex)) :
    tinyNumber base large hash left zero w (some p) sign v =
        stdNumber base large hash left zero w.toNat (asked (some p)) sign v ↔
      NumberConforms base hash (zero && !left) w (some p) sign.length v := by
  have hprec : tinyPrecision (some p) = p := if_neg (by omega)
  have hput : tinyPrecision (some p) ≠ 0 := by omega
  have hasked : asked (some p) = some p.toNat := if_neg (by omega)
  have hcount : (tinyCount base (some p) v : ℤ) =
      if p > digitsOf base v then p else (digitsOf base v : ℤ) := by
    unfold tinyCount
    rw [hprec]
    split <;> omega
  unfold NumberConforms
  dsimp only
  rw [if_neg (by omega), if_neg (by omega), ← hcount]
  by_cases hoct : hash = true ∧ base = .oct
  · obtain ⟨rfl, rfl⟩ := hoct
    obtain rfl := (hhash rfl).1
    have hone : (([] : List Byte).length : ℤ) +
        ((if true = true then (Base.oct.mark false).length else 0 : ℕ) : ℤ) = 1 := rfl
    rw [put_oct_iff hput hw, hasked, Option.getD_some, hone]
    by_cases hfirst : v ≠ 0 ∧ p.toNat ≤ digitsOf .oct v
    · have hle : p ≤ digitsOf .oct v := by omega
      rw [if_pos hfirst]
      simp [hfirst.1, hle]
    · rw [if_neg hfirst]
      refine iff_of_false (by simp) fun h => hfirst ?_
      obtain ⟨hne, hle⟩ := h.1 rfl
      exact ⟨hne, by have hle := hle rfl; omega⟩
  · by_cases hv : hash = true ∧ v = 0
    · obtain ⟨rfl, rfl⟩ := hv
      obtain ⟨rfl, rfl | rfl⟩ := hhash rfl
      · exact absurd ⟨rfl, rfl⟩ hoct
      · simp [tinyNumber_hex_zero]
    · have hplain : hash = true → base = .hex ∧ v ≠ 0 := fun hh =>
        ⟨(hhash hh).2.resolve_left fun ho => hoct ⟨hh, ho⟩, fun h0 => hv ⟨hh, h0⟩⟩
      have hfirst : hash = true → v ≠ 0 ∧ (base = .oct → p ≤ digitsOf base v) := fun hh =>
        ⟨(hplain hh).2, fun ho => absurd ⟨hh, ho⟩ hoct⟩
      rw [put_iff hput hw hplain, hasked, and_iff_right hfirst]
      simp

/-- With a precision of zero, or below zero, no digits are put. -/
lemma tinyNumber_nonpos {p : ℤ} (hp : p ≤ 0) :
    tinyNumber base large hash left zero w (some p) sign v =
      let front := sign ++ if hash then base.mark large else []
      layout left zero (w - front.length - digitsOf base v).toNat front [] := by
  have hprec : tinyPrecision (some p) = 0 := by
    unfold tinyPrecision
    dsimp only
    split <;> omega
  have hdigits : tinyDigits base large (some p) v = [] := if_pos hprec
  have hcount : tinyCount base (some p) v = digitsOf base v := by
    rw [tinyCount, hprec]
    exact if_neg (by omega)
  unfold tinyNumber
  rw [hdigits, hcount]

lemma layout_no_pad (left zero : Bool) (front digits : List Byte) :
    layout left zero 0 front digits = front ++ digits := by
  unfold layout
  split_ifs
  all_goals simp

/-- A value that is not zero is prescribed with all its digits. -/
lemma stdNumber_length {precision : Option ℕ} (hp : precision.getD 1 ≤ 1) (hv : v ≠ 0) (w' : ℕ)
    (hhash : hash = true → base = .oct ∨ base = .hex) :
    w' ≤ (stdNumber base large hash left zero w' precision sign v).length ∧
      sign.length + (if hash then (base.mark false).length else 0) + digitsOf base v ≤
        (stdNumber base large hash left zero w' precision sign v).length := by
  have hpos := digitsOf_pos base v
  have hdigits : digitsOf base v = (Nat.digits base.value v).length := if_neg hv
  have hfirst := @head_stdDigits_ne base large _ v hv (show precision.getD 1 ≤ _ by omega)
  have hlength := stdDigits_length base large (precision.getD 1) v
  rw [if_pos (by omega), ← hdigits] at hlength
  unfold stdNumber
  generalize stdDigits base large (precision.getD 1) v = digits at hfirst hlength ⊢
  simp only [layout_length, List.length_append]
  cases hash
  · simp
    omega
  · rcases hhash rfl with rfl | rfl
    · simp [hfirst, Base.mark]
      omega
    · simp [hv, Base.mark]
      omega

lemma stdDigits_of_zero (base : Base) (large : Bool) (p : ℕ) :
    stdDigits base large p 0 = List.replicate p (ch '0') := by
  rw [stdDigits, Nat.digits_zero]
  simp

lemma asked_nonpos {p : ℤ} (hp : p ≤ 0) : asked (some p) = if p < 0 then none else some 0 := by
  unfold asked
  dsimp only
  split
  · rfl
  · rw [show p = 0 by omega]
    rfl

/-- A zero without a prefix. -/
lemma nonpos_zero_iff {p : ℤ} (hp : p ≤ 0) (hw : -1 ≤ w) :
    tinyNumber base large false left zero w (some p) sign 0 =
        stdNumber base large false left zero w.toNat (asked (some p)) sign 0 ↔
      ¬ p < 0 ∧ w ≤ sign.length := by
  have hone : digitsOf base 0 = 1 := rfl
  rw [tinyNumber_nonpos hp, hone, asked_nonpos hp]
  by_cases h : p < 0
  · have hstd : stdNumber base large false left zero w.toNat none sign 0 =
        layout left zero (w.toNat - (sign ++ [ch '0']).length) sign [ch '0'] := by
      simp [stdNumber, stdDigits_of_zero]
    rw [if_pos h, hstd]
    refine iff_of_false (fun heq => ?_) fun hh => hh.1 h
    have hlength := congrArg List.length heq
    simp [layout_length] at hlength
    omega
  · have hstd : stdNumber base large false left zero w.toNat (some 0) sign 0 =
        layout left false (w.toNat - sign.length) sign [] := by
      simp [stdNumber, stdDigits_of_zero]
    rw [if_neg h, hstd, and_iff_right h]
    simp only [Bool.false_eq_true, if_false, List.append_nil, Nat.cast_one]
    constructor
    · intro heq
      have hlength := congrArg List.length heq
      rw [layout_length, layout_length, List.length_nil] at hlength
      omega
    · intro hle
      rw [show (w - sign.length - 1).toNat = 0 by omega, show w.toNat - sign.length = 0 by omega,
        layout_no_pad, layout_no_pad]

/-- A zero with `#` and `o`. -/
lemma nonpos_oct_iff {p : ℤ} (hp : p ≤ 0) (hw : -1 ≤ w) :
    tinyNumber .oct large true left zero w (some p) [] 0 =
        stdNumber .oct large true left zero w.toNat (asked (some p)) [] 0 ↔ w ≤ 1 := by
  have hblank : ¬ (0#8 : Byte) = ch '0' := by decide
  have hstd : ∃ zero', stdNumber .oct large true left zero w.toNat (asked (some p)) [] 0 =
      layout left zero' (w.toNat - 1) [] [ch '0'] := by
    rw [asked_nonpos hp]
    by_cases h : p < 0
    · refine ⟨zero, ?_⟩
      rw [if_pos h]
      simp [stdNumber, stdDigits_of_zero, head]
    · refine ⟨false, ?_⟩
      rw [if_neg h]
      simp [stdNumber, stdDigits_of_zero, head, hblank]
  have htiny : tinyNumber .oct large true left zero w (some p) [] 0 =
      layout left zero (w - 1 - 1).toNat [ch '0'] [] := tinyNumber_nonpos hp
  obtain ⟨zero', hstd⟩ := hstd
  rw [htiny, hstd]
  constructor
  · intro heq
    have hlength := congrArg List.length heq
    rw [layout_length, layout_length, List.length_nil, List.length_singleton] at hlength
    omega
  · intro hle
    rw [show (w - 1 - 1).toNat = 0 by omega, show w.toNat - 1 = 0 by omega, layout_no_pad, layout_no_pad]
    rfl

lemma tinyNumber_nonpos_zero {p : ℤ} (hp : p ≤ 0) (hw : -1 ≤ w)
    (hhash : hash = true → sign = [] ∧ (base = .oct ∨ base = .hex)) :
    tinyNumber base large hash left zero w (some p) sign 0 =
        stdNumber base large hash left zero w.toNat (asked (some p)) sign 0 ↔
      NumberConforms base hash (zero && !left) w (some p) sign.length 0 := by
  have hcond : NumberConforms base hash (zero && !left) w (some p) sign.length 0 ↔
      if p < 0 then hash = true ∧ base = .oct ∧ w ≤ 1
      else ¬ (hash = true ∧ base = .hex) ∧ w ≤ if hash = true ∧ base = .oct then 1 else (sign.length : ℤ) := by
    unfold NumberConforms
    dsimp only
    by_cases h : p < 0
    · simp [h]
    · simp [show p = 0 by omega]
  rw [hcond]
  cases hash
  · rw [nonpos_zero_iff hp hw]
    by_cases h : p < 0
    · simp [h]
    · simp [h]
  · obtain ⟨rfl, rfl | rfl⟩ := hhash rfl
    · rw [nonpos_oct_iff hp hw]
      by_cases h : p < 0
      · simp [h]
      · simp [h]
    · refine iff_of_false (tinyNumber_hex_zero _) ?_
      split_ifs <;> simp

lemma tinyNumber_nonpos_iff {p : ℤ} (hp : p ≤ 0) (hw : -1 ≤ w)
    (hhash : hash = true → sign = [] ∧ (base = .oct ∨ base = .hex)) :
    tinyNumber base large hash left zero w (some p) sign v =
        stdNumber base large hash left zero w.toNat (asked (some p)) sign v ↔
      NumberConforms base hash (zero && !left) w (some p) sign.length v := by
  have hasked : (asked (some p)).getD 1 ≤ 1 := by
    unfold asked
    dsimp only
    split
    · exact le_rfl
    · rw [Option.getD_some]
      omega
  by_cases hv : v = 0
  · subst hv
    exact tinyNumber_nonpos_zero hp hw hhash
  · have hpos := digitsOf_pos base v
    have hlong := @stdNumber_length base large hash left zero v sign _ hasked hv w.toNat
      fun hh => (hhash hh).2
    have hfalse : ¬ NumberConforms base hash (zero && !left) w (some p) sign.length v := by
      unfold NumberConforms
      dsimp only
      by_cases hneg : p < 0
      · rw [if_pos hneg]
        exact fun h => hv h.2.2.1
      · rw [if_neg hneg, if_pos (by omega)]
        exact fun h => hv h.1
    refine iff_of_false (fun h => ?_) hfalse
    have hmark : (base.mark large).length = (base.mark false).length := by
      cases base <;> rfl
    have hshort := congrArg List.length h
    rw [tinyNumber_nonpos hp] at hshort
    simp only [layout_length, List.length_append, List.length_nil] at hshort
    cases hash
    · simp at hlong hshort
      omega
    · simp [hmark] at hlong hshort
      omega

/-- **The text of a number is the prescribed one** exactly as far as the condition says. -/
lemma tinyNumber_iff (hw : -1 ≤ w) (hhash : hash = true → sign = [] ∧ (base = .oct ∨ base = .hex)) :
    tinyNumber base large hash left zero w given sign v =
        stdNumber base large hash left zero w.toNat (asked given) sign v ↔
      NumberConforms base hash (zero && !left) w given sign.length v := by
  cases given with
  | none => exact tinyNumber_none_iff hw hhash
  | some p =>
    rcases le_or_gt p 0 with hp | hp
    · exact tinyNumber_nonpos_iff hp hw hhash
    · exact tinyNumber_pos_iff hp hw hhash

end N32L43x.Klibc.Vsnprintf
