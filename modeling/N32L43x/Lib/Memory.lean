import Mathlib.Data.BitVec
import Mathlib.Logic.Function.Basic
import Mathlib.Tactic.IntervalCases

/-!
Memory with addresses of 32 bits, which wrap around.  A range is its first address and its length.  Filling
and copying a range are defined at once; they can be done in parts, from either end.
-/

namespace N32L43x.Lib.Memory

variable {β : Type*}

abbrev Addr := BitVec 32

/-- The memory with `v` in every place of a range. -/
def fill (m : Addr → β) (p : Addr) (v : β) (n : ℕ) : Addr → β :=
  fun a => if (a - p).toNat < n then v else m a

/-- The memory with a range copied as it was before. -/
def copy (m : Addr → β) (dst src : Addr) (n : ℕ) : Addr → β :=
  fun a => if (a - dst).toNat < n then m (src + (a - dst)) else m a

variable {m : Addr → β} {p dst src a : Addr} {v : β} {n k i j : ℕ}

/-! ### Addresses -/

lemma eq_of_toNat_sub (h : (a - p).toNat = i) : a = p + BitVec.ofNat 32 i := by
  rw [← h, BitVec.ofNat_toNat, BitVec.setWidth_eq, BitVec.add_comm, BitVec.sub_add_cancel]

lemma toNat_ofNat_of_lt (h : i < 0x100000000) : (BitVec.ofNat 32 i).toNat = i := by
  rw [BitVec.toNat_ofNat]
  exact Nat.mod_eq_of_lt h

lemma toNat_add_sub (h : i < 0x100000000) : (p + BitVec.ofNat 32 i - p).toNat = i := by
  rw [BitVec.add_comm, BitVec.add_sub_cancel, toNat_ofNat_of_lt h]

/-- The offset from a later address. -/
lemma toNat_sub_add (hn : n < 0x100000000) (h : n ≤ (a - p).toNat) :
    (a - (p + BitVec.ofNat 32 n)).toNat = (a - p).toNat - n := by
  have hlt := (a - p).isLt
  rw [sub_add_eq_sub_sub, BitVec.toNat_sub, toNat_ofNat_of_lt hn]
  omega

/-- An earlier address is as far behind a later one as there are addresses. -/
lemma le_toNat_sub_add (hn : n < 0x100000000) (h : (a - p).toNat < n) :
    0x100000000 - n ≤ (a - (p + BitVec.ofNat 32 n)).toNat := by
  rw [sub_add_eq_sub_sub, BitVec.toNat_sub, toNat_ofNat_of_lt hn]
  omega

lemma add_ofNat_add (p : Addr) (n k : ℕ) :
    p + BitVec.ofNat 32 n + BitVec.ofNat 32 k = p + BitVec.ofNat 32 (n + k) := by
  rw [BitVec.ofNat_add, BitVec.add_assoc]

/-! ### Filling -/

lemma fill_zero : fill m p v 0 = m := by
  funext a
  exact if_neg (Nat.not_lt_zero _)

lemma fill_one : fill m p v 1 = Function.update m p v := by
  funext a
  unfold fill
  by_cases ha : a = p
  · subst ha
    rw [Function.update_self, if_pos (by simp)]
  · rw [Function.update_of_ne ha, if_neg fun hlt => ha ?_]
    have heq := eq_of_toNat_sub (show (a - p).toNat = 0 by omega)
    simpa using heq

/-- **In two parts.** -/
lemma fill_add (h : n + k ≤ 0x100000000) :
    fill m p v (n + k) = fill (fill m p v n) (p + BitVec.ofNat 32 n) v k := by
  funext a
  unfold fill
  rcases Nat.eq_zero_or_pos k with rfl | hk
  · simp
  by_cases hlt : (a - p).toNat < n
  · rw [if_pos (by omega), if_pos hlt, ite_self]
  · rw [toNat_sub_add (by omega) (by omega), if_neg hlt]
    congr 1
    rw [eq_iff_iff]
    omega

/-! ### Copying -/

lemma copy_zero : copy m dst src 0 = m := by
  funext a
  exact if_neg (Nat.not_lt_zero _)

lemma copy_one : copy m dst src 1 = Function.update m dst (m src) := by
  funext a
  unfold copy
  by_cases ha : a = dst
  · subst ha
    rw [Function.update_self, if_pos (by simp)]
    simp
  · rw [Function.update_of_ne ha, if_neg fun hlt => ha ?_]
    have heq := eq_of_toNat_sub (show (a - dst).toNat = 0 by omega)
    simpa using heq

lemma copy_of_lt (h : i < n) (hn : n ≤ 0x100000000) :
    copy m dst src n (dst + BitVec.ofNat 32 i) = m (src + BitVec.ofNat 32 i) := by
  unfold copy
  rw [toNat_add_sub (by omega), if_pos h, BitVec.add_comm dst, BitVec.add_sub_cancel]

lemma copy_of_not_mem (h : ∀ i < n, a ≠ dst + BitVec.ofNat 32 i) : copy m dst src n a = m a := by
  unfold copy
  rw [if_neg fun hlt => h _ hlt (eq_of_toNat_sub rfl)]

/-- One more place, with what the place had at first. -/
lemma copy_succ (h : n < 0x100000000) :
    copy m dst src (n + 1) =
      Function.update (copy m dst src n) (dst + BitVec.ofNat 32 n) (m (src + BitVec.ofNat 32 n)) := by
  funext a
  by_cases ha : a = dst + BitVec.ofNat 32 n
  · rw [ha, Function.update_self, copy_of_lt (by omega) (by omega)]
  · have hne : (a - dst).toNat ≠ n := fun heq => ha (eq_of_toNat_sub heq)
    rw [Function.update_of_ne ha]
    unfold copy
    congr 1
    rw [eq_iff_iff]
    omega

/-- **In two parts, the first one first**, if it does not write what the second one reads. -/
lemma copy_add (h : n + k ≤ 0x100000000)
    (hsep : ∀ i j, i < n → n ≤ j → j < n + k → dst + BitVec.ofNat 32 i ≠ src + BitVec.ofNat 32 j) :
    copy m dst src (n + k) =
      copy (copy m dst src n) (dst + BitVec.ofNat 32 n) (src + BitVec.ofNat 32 n) k := by
  rcases Nat.eq_zero_or_pos k with rfl | hk
  · rw [Nat.add_zero, copy_zero]
  funext a
  have ha : a = dst + BitVec.ofNat 32 (a - dst).toNat := eq_of_toNat_sub rfl
  have hlt := (a - dst).isLt
  set o := (a - dst).toNat with ho
  rcases lt_or_ge o n with hfirst | hsecond
  · have hout : copy (copy m dst src n) (dst + BitVec.ofNat 32 n) (src + BitVec.ofNat 32 n) k a =
        copy m dst src n a := by
      refine if_neg fun hin => ?_
      have hfar := le_toNat_sub_add (p := dst) (a := a) (n := n) (by omega) (by omega)
      omega
    rw [hout, ha, copy_of_lt (by omega) h, copy_of_lt hfirst (by omega)]
  · rcases lt_or_ge o (n + k) with hin | hout
    · have hsplit : n + (o - n) = o := by omega
      rw [ha, copy_of_lt hin h]
      conv_rhs => rw [← hsplit, ← add_ofNat_add, copy_of_lt (by omega) (by omega), add_ofNat_add, hsplit]
      refine (copy_of_not_mem fun i hi => ?_).symm
      exact (hsep i o hi hsecond hin).symm
    · have hfar := toNat_sub_add (p := dst) (a := a) (n := n) (by omega) (by omega)
      unfold copy
      rw [← ho, if_neg (by omega), hfar, ← ho, if_neg (by omega), if_neg (by omega)]

/-- **In two parts, the second one first.** -/
lemma copy_add_down (h : n + k ≤ 0x100000000)
    (hsep : ∀ i j, i < n → n ≤ j → j < n + k → src + BitVec.ofNat 32 i ≠ dst + BitVec.ofNat 32 j) :
    copy m dst src (n + k) =
      copy (copy m (dst + BitVec.ofNat 32 n) (src + BitVec.ofNat 32 n) k) dst src n := by
  rcases Nat.eq_zero_or_pos k with rfl | hk
  · rw [Nat.add_zero, copy_zero]
  funext a
  have ha : a = dst + BitVec.ofNat 32 (a - dst).toNat := eq_of_toNat_sub rfl
  have hlt := (a - dst).isLt
  set o := (a - dst).toNat with ho
  rcases lt_or_ge o n with hfirst | hsecond
  · rw [ha, copy_of_lt (by omega) h, copy_of_lt hfirst (by omega)]
    refine (copy_of_not_mem fun i hi => ?_).symm
    rw [add_ofNat_add]
    exact hsep o (n + i) hfirst (by omega) (by omega)
  · have hout : copy (copy m (dst + BitVec.ofNat 32 n) (src + BitVec.ofNat 32 n) k) dst src n a =
        copy m (dst + BitVec.ofNat 32 n) (src + BitVec.ofNat 32 n) k a := if_neg (by omega)
    rw [hout]
    rcases lt_or_ge o (n + k) with hin | hout
    · have hsplit : n + (o - n) = o := by omega
      rw [ha, copy_of_lt hin h]
      conv_rhs => rw [← hsplit, ← add_ofNat_add, copy_of_lt (by omega) (by omega), add_ofNat_add, hsplit]
    · have hfar := toNat_sub_add (p := dst) (a := a) (n := n) (by omega) (by omega)
      unfold copy
      rw [← ho, if_neg (by omega), hfar, ← ho, if_neg (by omega)]

end N32L43x.Lib.Memory
