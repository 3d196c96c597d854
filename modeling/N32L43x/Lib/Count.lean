import Mathlib.Data.Fintype.Card
import Mathlib.Data.Finset.Card

/-!
Counting the elements of a finite type with a property that changes at one element only.
-/

namespace N32L43x.Lib.Count

variable {α : Type*} [Fintype α] [DecidableEq α]

/-- How many elements have the property. -/
def count (p : α → Bool) : ℕ := (Finset.univ.filter fun a => p a = true).card

/-- The element at which the property may change, and the others. -/
lemma count_eq (p : α → Bool) (a : α) :
    count p = (p a).toNat + ((Finset.univ.erase a).filter fun b => p b = true).card := by
  unfold count
  rw [← Finset.insert_erase (Finset.mem_univ a), Finset.filter_insert]
  cases h : p a with
  | true =>
    rw [if_pos rfl, Finset.card_insert_of_notMem (by simp), Finset.erase_insert (by simp)]
    simp [Nat.add_comm]
  | false =>
    rw [if_neg nofun, Finset.erase_insert (by simp)]
    simp

/-- **Counting across a change at one element.** -/
theorem count_of_agree {p q : α → Bool} (a : α) (h : ∀ b, b ≠ a → q b = p b) :
    count q + (p a).toNat = count p + (q a).toNat := by
  have hrest : ((Finset.univ.erase a).filter fun b => q b = true) =
      (Finset.univ.erase a).filter fun b => p b = true := by
    refine Finset.filter_congr fun b hb => ?_
    rw [h b (Finset.ne_of_mem_erase hb)]
  rw [count_eq q a, count_eq p a, hrest]
  omega

lemma count_pos {p : α → Bool} {a : α} (h : p a = true) : 0 < count p := by
  rw [count_eq p a, h]
  exact Nat.lt_add_right _ Nat.one_pos

omit [DecidableEq α] in
lemma count_eq_zero {p : α → Bool} (h : ∀ b, p b = false) : count p = 0 := by
  unfold count
  simp [h]

end N32L43x.Lib.Count
