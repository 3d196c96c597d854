import Mathlib.Data.Int.Notation
import N32L43x.Klibc.Kstring

/-!
What the string functions with a count promise, and when they keep it: `rt_strncmp` narrows the difference
of two characters to a `signed char`, and `rt_strnlen` looks at a character before it looks at the count.
-/

namespace N32L43x.Klibc

open N32L43x.Lib.CString

variable {n : ℕ} {a b s d : List UInt8}

/-! ### What they promise -/

/-- How two texts compare, by the first characters that differ.  The end of a text is less than every
character. -/
def textSign : List UInt8 → List UInt8 → ℤ
  | [], [] => 0
  | [], _ :: _ => -1
  | _ :: _, [] => 1
  | c :: cs, d :: ct => if c = d then textSign cs ct else ((c.toNat : ℤ) - d.toNat).sign

/-- The promise of `rt_strncmp` for `a` and `b`, of `rt_strnlen` for `s` and of `rt_strncpy` from `s` to
`d`.  An access that leaves an array has no result, so those that have one on the first `n` bytes read no
others. -/
structure Bounded (a b s d : List UInt8) (n : ℕ) : Prop where
  strncmp : ∃ res, rtStrncmp a b n = some res ∧
    res.toInt.sign = textSign ((cString a).take n) ((cString b).take n)
  strcmp : 0 ∈ a → 0 ∈ b → (cString a).length < n → (cString b).length < n →
    ∃ res res', rtStrncmp a b n = some res ∧ rtStrcmp a b = some res' ∧ res.toInt.sign = res'.sign
  strnlen : rtStrnlen s n = some (min (cString s).length n)
  strncpy : rtStrncpy d s n = some (pad n ((cString s).take n) ++ d.drop n)
  strncmpReads : rtStrncmp (a.take n) (b.take n) n ≠ none
  strnlenReads : rtStrnlen (s.take n) n ≠ none
  strncpyReads : rtStrncpy (d.take n) (s.take n) n ≠ none

/-- The first characters that differ, if the count comes that far, differ by what a `signed char` can
hold. -/
def Close (a b : List UInt8) (n : ℕ) : Prop :=
  ∀ k c d, k < n → a[k]? = some c → b[k]? = some d → a.take k = b.take k → 0 ∉ a.take k →
    -128 ≤ (c.toNat : ℤ) - d.toNat ∧ (c.toNat : ℤ) - d.toNat < 128

lemma Readable.take (h : Readable n a) : Readable n (a.take n) := by
  rcases le_or_gt n a.length with hle | hlt
  · exact .inl (by rw [List.length_take, min_eq_left hle])
  · rw [List.take_of_length_le hlt.le]
    exact h

lemma Readable.tail {c : UInt8} (h : Readable (n + 1) (c :: a)) (hc : c ≠ 0) : Readable n a := by
  rcases h with hlen | hmem
  · exact .inl (by simpa using hlen)
  · exact .inr ((List.mem_cons.mp hmem).resolve_left (Ne.symm hc))

lemma cString_zero (a : List UInt8) : cString (0 :: a) = [] := by simp [cString]

lemma cString_cons {c : UInt8} (hc : c ≠ 0) (a : List UInt8) : cString (c :: a) = c :: cString a := by
  simp [cString, hc]

/-! ### `rt_strncmp` -/

/-- A difference of characters that is kept in a `signed char`. -/
lemma toInt_toInt8_sub (c d : UInt8) : (c - d).toInt8.toInt =
    if (c.toNat : ℤ) - d.toNat < -128 then (c.toNat : ℤ) - d.toNat + 256
    else if (c.toNat : ℤ) - d.toNat < 128 then (c.toNat : ℤ) - d.toNat
    else (c.toNat : ℤ) - d.toNat - 256 := by
  have hc := c.toNat_lt
  have hd := d.toNat_lt
  have hbv : (c - d).toInt8.toInt = (c.toBitVec - d.toBitVec).toInt := rfl
  rw [hbv, BitVec.toInt_eq_toNat_cond, BitVec.toNat_sub]
  rw [show c.toBitVec.toNat = c.toNat from rfl, show d.toBitVec.toNat = d.toNat from rfl]
  split_ifs <;> omega

lemma sign_toInt8_sub (c d : UInt8) :
    (c - d).toInt8.toInt.sign = ((c.toNat : ℤ) - d.toNat).sign ↔
      -128 ≤ (c.toNat : ℤ) - d.toNat ∧ (c.toNat : ℤ) - d.toNat < 128 := by
  have hc := c.toNat_lt
  have hd := d.toNat_lt
  rw [toInt_toInt8_sub]
  constructor
  · intro h
    split_ifs at h with h1 h2
    · rw [Int.sign_eq_one_of_pos (by omega), Int.sign_eq_neg_one_of_neg (by omega)] at h
      cases h
    · exact ⟨by omega, h2⟩
    · rw [Int.sign_eq_neg_one_of_neg (by omega), Int.sign_eq_one_of_pos (by omega)] at h
      cases h
  · rintro ⟨h1, h2⟩
    rw [if_neg (by omega), if_pos h2]

lemma close_of_ne {c d : UInt8} (hcd : c ≠ d) : Close (c :: a) (d :: b) (n + 1) ↔
    -128 ≤ (c.toNat : ℤ) - d.toNat ∧ (c.toNat : ℤ) - d.toNat < 128 := by
  constructor
  · intro h
    exact h 0 c d n.succ_pos rfl rfl rfl List.not_mem_nil
  · intro h k c' d' _ hc' hd' htake _
    cases k with
    | zero =>
      obtain rfl : c = c' := Option.some.inj hc'
      obtain rfl : d = d' := Option.some.inj hd'
      exact h
    | succ k =>
      rw [List.take_succ_cons, List.take_succ_cons] at htake
      exact absurd (List.cons.inj htake).1 hcd

lemma close_cons {c : UInt8} (hc : c ≠ 0) :
    Close (c :: a) (c :: b) (n + 1) ↔ Close a b n := by
  constructor
  · intro h k c' d' hk hc' hd' htake hnul
    refine h (k + 1) c' d' (by omega) hc' hd' ?_ ?_
    · rw [List.take_succ_cons, List.take_succ_cons, htake]
    · rw [List.take_succ_cons, List.mem_cons, not_or]
      exact ⟨Ne.symm hc, hnul⟩
  · intro h k c' d' hk hc' hd' htake hnul
    cases k with
    | zero =>
      obtain rfl : c = c' := Option.some.inj hc'
      obtain rfl : c = d' := Option.some.inj hd'
      omega
    | succ k =>
      rw [List.take_succ_cons, List.take_succ_cons] at htake
      rw [List.take_succ_cons, List.mem_cons, not_or] at hnul
      exact h k c' d' (by omega) hc' hd' (List.cons.inj htake).2 hnul.2

lemma close_zero : Close (0 :: a) (0 :: b) n := by
  intro k c d _ hc hd _ hnul
  cases k with
  | zero =>
    obtain rfl : 0 = c := Option.some.inj hc
    obtain rfl : 0 = d := Option.some.inj hd
    decide
  | succ k =>
    rw [List.take_succ_cons] at hnul
    exact absurd List.mem_cons_self hnul

/-- The sign of the difference of the first characters that differ. -/
lemma textSign_of_ne {c d : UInt8} (hcd : c ≠ d) (a b : List UInt8) (n : ℕ) :
    textSign ((cString (c :: a)).take (n + 1)) ((cString (d :: b)).take (n + 1)) =
      ((c.toNat : ℤ) - d.toNat).sign := by
  have hpos : ∀ e : UInt8, e ≠ 0 → 0 < e.toNat := by
    intro e he
    exact Nat.pos_of_ne_zero fun h0 => he (UInt8.toNat_inj.mp h0)
  by_cases hc : c = 0
  · have hd : d ≠ 0 := fun hd => hcd (hc.trans hd.symm)
    rw [hc, cString_zero, cString_cons hd, List.take_succ_cons, List.take_nil, textSign,
      Int.sign_eq_neg_one_of_neg]
    have := hpos d hd
    simp only [UInt8.toNat_zero]
    omega
  · by_cases hd : d = 0
    · rw [hd, cString_zero, cString_cons hc, List.take_succ_cons, List.take_nil, textSign,
        Int.sign_eq_one_of_pos]
      have := hpos c hc
      simp only [UInt8.toNat_zero]
      omega
    · rw [cString_cons hc, cString_cons hd, List.take_succ_cons, List.take_succ_cons, textSign,
        if_neg hcd]

/-- **`rt_strncmp`** has the sign of the comparison if and only if the characters are close. -/
lemma rtStrncmp_sign (ha : Readable n a) (hb : Readable n b) :
    ∃ res, rtStrncmp a b n = some res ∧
      (res.toInt.sign = textSign ((cString a).take n) ((cString b).take n) ↔ Close a b n) := by
  induction n generalizing a b with
  | zero =>
    refine ⟨0, by rw [rtStrncmp], iff_of_true rfl ?_⟩
    intro k c d hk
    exact absurd hk (Nat.not_lt_zero k)
  | succ n ih =>
    cases a with
    | nil => simp [Readable] at ha
    | cons c a =>
      cases b with
      | nil => simp [Readable] at hb
      | cons d b =>
        by_cases hcd : c = d
        · subst hcd
          by_cases hc : c = 0
          · refine ⟨(c - c).toInt8, by rw [rtStrncmp, if_pos (Or.inr hc)], ?_⟩
            rw [hc, cString_zero, cString_zero]
            exact iff_of_true (by simp [textSign]) close_zero
          · obtain ⟨res, hcmp, hiff⟩ := ih (ha.tail hc) (hb.tail hc)
            refine ⟨res, by rw [rtStrncmp, if_neg (by simp [hc]), hcmp], ?_⟩
            rw [cString_cons hc, cString_cons hc, List.take_succ_cons, List.take_succ_cons, textSign,
              if_pos rfl, hiff, close_cons hc]
        · have hres : (c - d).toInt8 ≠ 0 := fun h => hcd ((toInt8_sub_eq_zero c d).mp h)
          refine ⟨(c - d).toInt8, by rw [rtStrncmp, if_pos (Or.inl hres)], ?_⟩
          rw [textSign_of_ne hcd, sign_toInt8_sub, close_of_ne hcd]

/-- `rt_strcmp` has the sign of the comparison. -/
lemma rtStrcmp_sign (ha : 0 ∈ a) (hb : 0 ∈ b) :
    ∃ res, rtStrcmp a b = some res ∧ res.sign = textSign (cString a) (cString b) := by
  induction a generalizing b with
  | nil => simp at ha
  | cons c a ih =>
    cases b with
    | nil => simp at hb
    | cons d b =>
      by_cases hcd : c = d
      · subst hcd
        by_cases hc : c = 0
        · refine ⟨(c.toNat : ℤ) - c.toNat, by rw [rtStrcmp, if_neg fun h => h.1 hc], ?_⟩
          rw [hc, cString_zero, cString_zero]
          simp [textSign]
        · obtain ⟨res, hcmp, hsign⟩ := ih ((List.mem_cons.mp ha).resolve_left (Ne.symm hc))
            ((List.mem_cons.mp hb).resolve_left (Ne.symm hc))
          refine ⟨res, by rw [rtStrcmp, if_pos ⟨hc, rfl⟩, hcmp], ?_⟩
          rw [cString_cons hc, cString_cons hc, textSign, if_pos rfl, hsign]
      · refine ⟨(c.toNat : ℤ) - d.toNat, by rw [rtStrcmp, if_neg fun h => hcd h.2], ?_⟩
        have hne := textSign_of_ne hcd a b (max (cString (c :: a)).length (cString (d :: b)).length)
        rw [List.take_of_length_le (by omega), List.take_of_length_le (by omega)] at hne
        exact hne.symm

/-! ### `rt_strnlen` -/

lemma strnlenLoop_eq {len rest : ℕ} (h : 0 ∈ s ∨ rest < s.length) :
    strnlenLoop (len + rest) s len = some (len + min (cString s).length rest) := by
  induction s generalizing len rest with
  | nil => simp at h
  | cons c s ih =>
    by_cases hc : c = 0
    · rw [strnlenLoop, if_neg fun hcond => hcond.1 hc, hc, cString_zero]
      simp
    · cases rest with
      | zero => rw [strnlenLoop, if_neg fun hcond => absurd hcond.2 (by omega), Nat.min_zero,
        Nat.add_zero]
      | succ rest =>
        have h' : 0 ∈ s ∨ rest < s.length := by
          rcases h with hmem | hlen
          · exact .inl ((List.mem_cons.mp hmem).resolve_left (Ne.symm hc))
          · exact .inr (by simpa using hlen)
        have hih : strnlenLoop (len + 1 + rest) s (len + 1) =
            some (len + 1 + min (cString s).length rest) := ih h'
        rw [strnlenLoop, if_pos ⟨hc, by omega⟩, cString_cons hc, List.length_cons,
          show len + (rest + 1) = len + 1 + rest by omega, hih]
        congr 1
        omega

/-- Without an end the loop reads the character behind the last one. -/
lemma strnlenLoop_none {len rest : ℕ} (h0 : 0 ∉ s) (hlen : s.length ≤ rest) :
    strnlenLoop (len + rest) s len = none := by
  induction s generalizing len rest with
  | nil => rfl
  | cons c s ih =>
    rw [List.mem_cons, not_or] at h0
    rw [List.length_cons] at hlen
    obtain ⟨rest, rfl⟩ : ∃ m, rest = m + 1 := ⟨rest - 1, by omega⟩
    rw [strnlenLoop, if_pos ⟨Ne.symm h0.1, by omega⟩, show len + (rest + 1) = len + 1 + rest by omega]
    exact ih h0.2 (by omega)

lemma rtStrnlen_eq (h : 0 ∈ s) : rtStrnlen s n = some (min (cString s).length n) := by
  have hloop : strnlenLoop (0 + n) s 0 = some (0 + min (cString s).length n) :=
    strnlenLoop_eq (.inl h)
  rwa [Nat.zero_add, Nat.zero_add] at hloop

lemma rtStrnlen_take : rtStrnlen (s.take n) n ≠ none ↔ 0 ∈ s.take n := by
  constructor
  · intro h
    by_contra h0
    apply h
    have hloop : strnlenLoop (0 + n) (s.take n) 0 = none :=
      strnlenLoop_none h0 (List.length_take_le n s)
    rwa [Nat.zero_add] at hloop
  · intro h
    rw [rtStrnlen_eq h]
    exact Option.some_ne_none _

/-! ### `rt_strncpy` -/

lemma rtStrncpy_append (hs : n ≤ s.length) (rest : List UInt8) :
    rtStrncpy d (s ++ rest) n = rtStrncpy d s n := by
  induction n generalizing d s with
  | zero => rw [rtStrncpy, rtStrncpy]
  | succ n ih =>
    cases s with
    | nil => simp at hs
    | cons c s =>
      cases d with
      | nil => rfl
      | cons e d => rw [List.cons_append, rtStrncpy, rtStrncpy, ih (by simpa using hs)]

lemma rtStrncpy_of_readable (hs : Readable n s) (hd : n ≤ d.length) :
    rtStrncpy d s n = some (pad n ((cString s).take n) ++ d.drop n) := by
  by_cases h0 : 0 ∈ s
  · obtain ⟨rest, hrest⟩ := exists_cString h0
    conv_lhs => rw [hrest]
    exact rtStrncpy_eq (zero_notMem_cString s) rest hd
  · have hself : cString s = s := by
      unfold cString
      rw [List.takeWhile_eq_self_iff]
      intro c hc
      exact decide_eq_true fun hc0 => h0 (hc0 ▸ hc)
    rw [hself, ← rtStrncpy_append (hs.resolve_right h0) [0]]
    exact rtStrncpy_eq h0 [] hd

/-! ### Together -/

/-- **The functions keep their promise** if and only if the first characters that differ are close, and
the string of `rt_strnlen` ends within the count. -/
theorem bounded_iff (ha : Readable n a) (hb : Readable n b) (hs : Readable n s) (hd : n ≤ d.length) :
    Bounded a b s d n ↔ Close a b n ∧ 0 ∈ s.take n := by
  obtain ⟨res, hres, hsign⟩ := rtStrncmp_sign ha hb
  constructor
  · intro h
    refine ⟨?_, rtStrnlen_take.mp h.strnlenReads⟩
    obtain ⟨res', hres', hsign'⟩ := h.strncmp
    rw [hres] at hres'
    obtain rfl : res = res' := Option.some.inj hres'
    exact hsign.mp hsign'
  · rintro ⟨hclose, hend⟩
    refine ⟨⟨res, hres, hsign.mpr hclose⟩, ?_, ?_, ?_, ?_, rtStrnlen_take.mpr hend, ?_⟩
    · intro h0a h0b hla hlb
      obtain ⟨res', hres', hsign'⟩ := rtStrcmp_sign h0a h0b
      refine ⟨res, res', hres, hres', ?_⟩
      rw [hsign', hsign.mpr hclose, List.take_of_length_le hla.le, List.take_of_length_le hlb.le]
    · exact rtStrnlen_eq (List.mem_of_mem_take hend)
    · exact rtStrncpy_of_readable hs hd
    · obtain ⟨res', hres', -⟩ := rtStrncmp_sign ha.take hb.take
      rw [hres']
      exact Option.some_ne_none _
    · rw [rtStrncpy_of_readable hs.take (by rw [List.length_take, min_eq_left hd])]
      exact Option.some_ne_none _

/-- A character above 127 compares less than the end of a text. -/
theorem bounded_high_character : rtStrncmp [0x80, 0] [0] 1 = some (-128) ∧
    textSign [0x80] [] = 1 ∧ ¬ Bounded [0x80, 0] [0] [0] [0] 1 := by
  refine ⟨rfl, rfl, fun h => ?_⟩
  obtain ⟨res, hres, hsign⟩ := h.strncmp
  obtain rfl : (-128 : Int8) = res := Option.some.inj hres
  exact absurd hsign (by decide)

theorem bounded_ascii : Bounded [0x61, 0] [0x62, 0] [0x61, 0] [1, 1, 1] 2 ∧
    Close [0x61, 0] [0x62, 0] 2 := by
  have hclose : Close [0x61, 0] [0x62, 0] 2 := (close_of_ne (by decide)).mpr (by decide)
  refine ⟨(bounded_iff ?_ ?_ ?_ ?_).mpr ⟨hclose, by decide⟩, hclose⟩
  · exact .inr (by decide)
  · exact .inr (by decide)
  · exact .inr (by decide)
  · decide

end N32L43x.Klibc
