import Mathlib.Data.BitVec

/-!
Bits and bit fields of a register: what a single bit, a mask and a field read after a write are.
Registers are bit vectors, and everything is stated through `BitVec.getLsbD`.
-/

namespace N32L43x.Lib.Bits

variable {w : ℕ}

/-! ### Single bits -/

/-- The word with bit `k` set only, `1 << k` of the C source. -/
def bit (w k : ℕ) : BitVec w := 1#w <<< k

/-- The bits of `m` that are set in `r`, as a condition: `(r & m) != 0`. -/
def anySet (r m : BitVec w) : Bool := r &&& m != 0#w

@[simp] theorem getLsbD_bit (k i : ℕ) :
    (bit w k).getLsbD i = (decide (i = k) && decide (i < w)) := by
  unfold bit
  rw [BitVec.getLsbD_shiftLeft, BitVec.getLsbD_one]
  by_cases h : i = k
  · subst h
    simp
    omega
  · simp [h]
    omega

theorem anySet_iff {r m : BitVec w} :
    anySet r m = true ↔ ∃ i, r.getLsbD i = true ∧ m.getLsbD i = true := by
  unfold anySet
  rw [bne_iff_ne]
  constructor
  · intro h
    by_contra hno
    refine h (BitVec.eq_of_getLsbD_eq fun i _ => ?_)
    rw [BitVec.getLsbD_and, BitVec.getLsbD_zero]
    by_contra hi
    rw [Bool.not_eq_false, Bool.and_eq_true] at hi
    exact hno ⟨i, hi⟩
  · rintro ⟨i, hr, hm⟩ h
    have := congrArg (fun v : BitVec w => v.getLsbD i) h
    simp [hr, hm] at this

theorem anySet_bit {r : BitVec w} {k : ℕ} : anySet r (bit w k) = r.getLsbD k := by
  rw [Bool.eq_iff_iff, anySet_iff]
  constructor
  · rintro ⟨i, hr, hi⟩
    rw [getLsbD_bit, Bool.and_eq_true, decide_eq_true_eq] at hi
    rwa [← hi.1]
  · intro h
    refine ⟨k, h, ?_⟩
    simp [BitVec.lt_of_getLsbD h]

theorem anySet_or (a b m : BitVec w) : anySet (a ||| b) m = (anySet a m || anySet b m) := by
  rw [Bool.eq_iff_iff, Bool.or_eq_true, anySet_iff, anySet_iff, anySet_iff]
  constructor
  · rintro ⟨i, hi, hm⟩
    rw [BitVec.getLsbD_or, Bool.or_eq_true] at hi
    exact hi.imp (fun ha => ⟨i, ha, hm⟩) fun hb => ⟨i, hb, hm⟩
  · rintro (⟨i, ha, hm⟩ | ⟨i, hb, hm⟩)
    · exact ⟨i, by rw [BitVec.getLsbD_or, ha, Bool.true_or], hm⟩
    · exact ⟨i, by rw [BitVec.getLsbD_or, hb, Bool.or_true], hm⟩

theorem anySet_and (a b m : BitVec w) : anySet (a &&& b) m = anySet a (b &&& m) := by
  unfold anySet
  rw [BitVec.and_assoc]

@[simp] theorem anySet_zero_right (a : BitVec w) : anySet a 0#w = false := by
  unfold anySet
  rw [BitVec.and_zero]
  exact bne_self_eq_false ..

@[simp] theorem anySet_zero_left (m : BitVec w) : anySet 0#w m = false := by
  unfold anySet
  rw [BitVec.zero_and]
  exact bne_self_eq_false ..

theorem anySet_comm (a m : BitVec w) : anySet a m = anySet m a := by
  unfold anySet
  rw [BitVec.and_comm]

theorem anySet_or_right (a m n : BitVec w) : anySet a (m ||| n) = (anySet a m || anySet a n) := by
  rw [anySet_comm, anySet_or, anySet_comm m, anySet_comm n]

/-- The test `(r & bit) == bit`. -/
theorem and_bit_eq_bit_iff {r : BitVec w} {k : ℕ} (hk : k < w) :
    r &&& bit w k = bit w k ↔ anySet r (bit w k) = true := by
  rw [anySet_bit]
  constructor
  · intro h
    have := congrArg (fun v : BitVec w => v.getLsbD k) h
    simpa [hk] using this
  · intro h
    refine BitVec.eq_of_getLsbD_eq fun i hi => ?_
    rw [BitVec.getLsbD_and, getLsbD_bit]
    by_cases hik : i = k
    · simp [hik, h]
    · simp [hik]

/-- Clearing the bits of a mask. -/
theorem getLsbD_and_not {r m : BitVec w} {i : ℕ} :
    (r &&& ~~~m).getLsbD i = true ↔ r.getLsbD i = true ∧ m.getLsbD i ≠ true := by
  rw [BitVec.getLsbD_and, BitVec.getLsbD_not, Bool.and_eq_true, Bool.and_eq_true, decide_eq_true_eq,
    Bool.not_eq_true', ← Bool.not_eq_true]
  exact and_congr_right fun hi => and_iff_right (BitVec.lt_of_getLsbD hi)

theorem getLsbD_setBit (r : BitVec w) (k i : ℕ) :
    (r ||| bit w k).getLsbD i = (r.getLsbD i || (decide (i = k) && decide (i < w))) := by
  rw [BitVec.getLsbD_or, getLsbD_bit]

theorem getLsbD_clearBit (r : BitVec w) (k i : ℕ) :
    (r &&& ~~~bit w k).getLsbD i = (r.getLsbD i && !decide (i = k)) := by
  rw [BitVec.getLsbD_and, BitVec.getLsbD_not, getLsbD_bit]
  by_cases hi : i < w
  · simp [hi]
  · simp [BitVec.getLsbD_of_ge r i (by omega)]

/-- Setting a bit that is clear adds it. -/
theorem or_bit_eq_add {r : BitVec w} {k : ℕ} (h : r.getLsbD k = false) : r ||| bit w k = r + bit w k := by
  refine (BitVec.add_eq_or_of_and_eq_zero r (bit w k) (BitVec.eq_of_getLsbD_eq fun i hi => ?_)).symm
  rw [BitVec.getLsbD_and, getLsbD_bit, BitVec.getLsbD_zero]
  by_cases hk : i = k
  · simp [hk, h]
  · simp [hk]

theorem and_not_bit_of_clear {r : BitVec w} {k : ℕ} (h : r.getLsbD k = false) : r &&& ~~~bit w k = r := by
  refine BitVec.eq_of_getLsbD_eq fun i hi => ?_
  rw [getLsbD_clearBit]
  by_cases hk : i = k
  · simp [hk, h]
  · simp [hk]

/-- Clearing a bit that is set subtracts it. -/
theorem and_not_bit_eq_sub {r : BitVec w} {k : ℕ} (h : r.getLsbD k = true) :
    r &&& ~~~bit w k = r - bit w k := by
  have hclear : (r &&& ~~~bit w k).getLsbD k = false := by simp
  have hback : (r &&& ~~~bit w k) ||| bit w k = r := by
    refine BitVec.eq_of_getLsbD_eq fun i hi => ?_
    rw [getLsbD_setBit, getLsbD_clearBit]
    by_cases hk : i = k
    · simp [hk, h]
      omega
    · simp [hk]
  rw [or_bit_eq_add hclear] at hback
  rw [BitVec.eq_sub_iff_add_eq, hback]

/-- Two words agree where `m` is set. -/
theorem xor_and_eq_zero_iff {a b m : BitVec w} :
    (a ^^^ b) &&& m = 0#w ↔ ∀ i, m.getLsbD i = true → a.getLsbD i = b.getLsbD i := by
  constructor
  · intro h i hm
    have := congrArg (fun v : BitVec w => v.getLsbD i) h
    simpa [hm] using this
  · intro h
    refine BitVec.eq_of_getLsbD_eq fun i _ => ?_
    rw [BitVec.getLsbD_and, BitVec.getLsbD_xor, BitVec.getLsbD_zero]
    rcases hm : m.getLsbD i with _ | _
    · simp
    · simp [h i hm]

/-! ### Bit fields -/

/-- The `n` lowest bits. -/
def lowMask (w n : ℕ) : BitVec w := BitVec.ofNat w (2 ^ n - 1)

/-- The `n` bits of `r` from position `k` on. -/
def field (r : BitVec w) (k n : ℕ) : BitVec w := r >>> k &&& lowMask w n

/-- `r` with the `n` bits from position `k` on replaced: clear the field, then `|=` the value
shifted into place. -/
def setField (r : BitVec w) (k n : ℕ) (v : BitVec w) : BitVec w :=
  r &&& ~~~(lowMask w n <<< k) ||| v <<< k

@[simp] theorem getLsbD_lowMask (n i : ℕ) :
    (lowMask w n).getLsbD i = (decide (i < n) && decide (i < w)) := by
  unfold lowMask
  rw [BitVec.getLsbD_ofNat, Nat.testBit_two_pow_sub_one, Bool.and_comm]

theorem getLsbD_field (r : BitVec w) (k n i : ℕ) :
    (field r k n).getLsbD i = (r.getLsbD (k + i) && decide (i < n)) := by
  unfold field
  rw [BitVec.getLsbD_and, BitVec.getLsbD_ushiftRight, getLsbD_lowMask]
  by_cases h : i < w
  · simp [h]
  · rw [BitVec.getLsbD_of_ge r (k + i) (by omega)]
    simp

theorem getLsbD_setField (r : BitVec w) (k n : ℕ) (v : BitVec w) (i : ℕ) :
    (setField r k n v).getLsbD i =
      ((r.getLsbD i && !(decide (k ≤ i) && decide (i < k + n))) ||
        (decide (k ≤ i) && decide (i < w) && v.getLsbD (i - k))) := by
  unfold setField
  rw [BitVec.getLsbD_or, BitVec.getLsbD_and, BitVec.getLsbD_not, BitVec.getLsbD_shiftLeft,
    BitVec.getLsbD_shiftLeft, getLsbD_lowMask]
  by_cases hi : i < w
  · by_cases hk : k ≤ i
    · have h1 : (i - k < n) = (i < k + n) := propext (by omega)
      have h2 : i - k < w := by omega
      simp [hi, hk, h1, h2, Nat.not_lt.2 hk]
    · simp [hi, hk, Nat.not_le.1 hk]
  · simp [hi, BitVec.getLsbD_of_ge r i (by omega)]

/-- A number below `2 ^ n` has no bits from `n` on. -/
theorem getLsbD_of_toNat_lt {x : BitVec w} {n i : ℕ} (hx : x.toNat < 2 ^ n) (hi : n ≤ i) :
    x.getLsbD i = false := by
  rw [BitVec.getLsbD, Nat.testBit_lt_two_pow]
  exact lt_of_lt_of_le hx (Nat.pow_le_pow_right (by decide) hi)

theorem and_lowMask_eq_iff {a b : BitVec w} {n : ℕ} :
    a &&& lowMask w n = b &&& lowMask w n ↔ ∀ i < n, a.getLsbD i = b.getLsbD i := by
  constructor
  · intro h i hi
    by_cases hw : i < w
    · have := congrArg (fun v : BitVec w => v.getLsbD i) h
      simpa only [BitVec.getLsbD_and, getLsbD_lowMask, hi, hw, decide_true, Bool.and_true] using this
    · rw [BitVec.getLsbD_of_ge a i (by omega), BitVec.getLsbD_of_ge b i (by omega)]
  · intro h
    refine BitVec.eq_of_getLsbD_eq fun i _ => ?_
    rw [BitVec.getLsbD_and, BitVec.getLsbD_and, getLsbD_lowMask]
    by_cases hi : i < n
    · rw [h i hi]
    · simp [hi]

theorem and_lowMask_of_lt {x : BitVec w} {n : ℕ} (hx : x.toNat < 2 ^ n) : x &&& lowMask w n = x := by
  refine BitVec.eq_of_getLsbD_eq fun i hi => ?_
  rw [BitVec.getLsbD_and, getLsbD_lowMask]
  by_cases hin : i < n
  · simp [hin, hi]
  · simp [hin, getLsbD_of_toNat_lt hx (Nat.not_lt.1 hin)]

/-- Reading a field gives back what was written to it. -/
theorem field_setField_same (r : BitVec w) {k n : ℕ} (v : BitVec w) (hk : k + n ≤ w)
    (hv : v.toNat < 2 ^ n) : field (setField r k n v) k n = v := by
  refine BitVec.eq_of_getLsbD_eq fun i hi => ?_
  rw [getLsbD_field, getLsbD_setField]
  by_cases hin : i < n
  · have h1 : k + i < w := by omega
    simp [hin, h1]
  · simp [hin, getLsbD_of_toNat_lt hv (Nat.not_lt.1 hin)]

/-- Writing a field leaves the fields below and above it alone. -/
theorem field_setField_of_disjoint (r : BitVec w) {k n : ℕ} (v : BitVec w) {k' n' : ℕ}
    (hv : v.toNat < 2 ^ n) (h : k' + n' ≤ k ∨ k + n ≤ k') :
    field (setField r k n v) k' n' = field r k' n' := by
  refine BitVec.eq_of_getLsbD_eq fun i _ => ?_
  rw [getLsbD_field, getLsbD_field, getLsbD_setField]
  by_cases hin : i < n'
  · rcases h with h | h
    · have h1 : ¬k ≤ k' + i := by omega
      simp [h1]
    · have h1 : ¬k' + i < k + n := by omega
      have h2 : v.getLsbD (k' + i - k) = false := getLsbD_of_toNat_lt hv (by omega)
      simp [h1, h2]
  · simp [hin]

end N32L43x.Lib.Bits
