import Mathlib.Data.Nat.Init
import Mathlib.Data.BitVec

/-!
Counters of `w` bits that wrap around, seen from the unbounded counter they are the low bits of.
Two values less than half the range apart are compared by their difference, and the comparison
agrees with the one of the unbounded values across every wrap-around.
-/

namespace N32L43x.Lib.Circular

variable {w : ℕ}

/-- `a` is not after `b` on the circle: the way from `a` to `b` is shorter than half of it. -/
def CircLe (a b : BitVec w) : Prop := (b - a).toNat < 2 ^ (w - 1)

instance (a b : BitVec w) : Decidable (CircLe a b) := inferInstanceAs (Decidable (_ < _))

lemma toNat_ofNat_sub {m n : ℕ} (h : n ≤ m) (hlt : m - n < 2 ^ w) :
    (BitVec.ofNat w m - BitVec.ofNat w n).toNat = m - n := by
  have hsum : BitVec.ofNat w m = BitVec.ofNat w (m - n) + BitVec.ofNat w n := by
    rw [← BitVec.ofNat_add, Nat.sub_add_cancel h]
  rw [hsum, BitVec.add_sub_cancel, BitVec.toNat_ofNat, Nat.mod_eq_of_lt hlt]

lemma toNat_ofNat_sub_of_lt {m n : ℕ} (h : m < n) (hlt : n - m < 2 ^ w) :
    (BitVec.ofNat w m - BitVec.ofNat w n).toNat = 2 ^ w - (n - m) := by
  have hneg : BitVec.ofNat w m - BitVec.ofNat w n
      = -(BitVec.ofNat w n - BitVec.ofNat w m) := by
    rw [BitVec.neg_sub, BitVec.add_comm, ← BitVec.sub_eq_add_neg]
  have hsub := toNat_ofNat_sub (w := w) h.le hlt
  rw [hneg, BitVec.toNat_neg, hsub]
  exact Nat.mod_eq_of_lt (by omega)

/-- Values of the unbounded counter less than half the range apart keep their order. -/
lemma circLe_ofNat {m n : ℕ} (h : m ≤ n) (hlt : n - m < 2 ^ (w - 1)) :
    CircLe (BitVec.ofNat w m) (BitVec.ofNat w n) := by
  have hpow : 2 ^ (w - 1) ≤ 2 ^ w := Nat.pow_le_pow_right (by omega) (by omega)
  unfold CircLe
  rw [toNat_ofNat_sub h (by omega)]
  exact hlt

/-- Unbounded values less than the whole range apart are equal if their low bits are. -/
lemma eq_of_ofNat_eq {m n : ℕ} (h : BitVec.ofNat w m = BitVec.ofNat w n)
    (hmn : m ≤ n) (hlt : n - m < 2 ^ w) : m = n := by
  have hsub := toNat_ofNat_sub (w := w) hmn hlt
  rw [h, BitVec.sub_self, BitVec.toNat_zero] at hsub
  omega

end N32L43x.Lib.Circular
