import Mathlib.Data.List.Infix

/-!
The longest common prefix of lists, as a running minimum finds it.
-/

namespace N32L43x.Lib.CommonPrefix

variable {α : Type*} [DecidableEq α]

/-- What two lists begin with. -/
def common : List α → List α → List α
  | c :: a, d :: b => if c = d then c :: common a b else []
  | _, _ => []

/-- What all lists begin with, nothing if there are none. -/
def commonPrefix : List (List α) → List α
  | [] => []
  | a :: l => l.foldl common a

variable {a b p : List α} {l : List (List α)}

lemma common_nil_left (b : List α) : common [] b = [] := rfl

lemma common_nil_right (a : List α) : common a [] = [] := by
  cases a <;> rfl

lemma common_self (a : List α) : common a a = a := by
  induction a with
  | nil => rfl
  | cons c a ih => rw [common, if_pos rfl, ih]

/-- A list begins with what two begin with if both do. -/
lemma prefix_common_iff : p <+: common a b ↔ p <+: a ∧ p <+: b := by
  induction a generalizing b p with
  | nil =>
    rw [common_nil_left]
    refine ⟨fun h => ⟨h, ?_⟩, And.left⟩
    rw [List.prefix_nil.mp h]
    exact List.nil_prefix
  | cons c a ih =>
    cases b with
    | nil =>
      rw [common_nil_right]
      refine ⟨fun h => ⟨?_, h⟩, And.right⟩
      rw [List.prefix_nil.mp h]
      exact List.nil_prefix
    | cons d b =>
      rw [common]
      cases p with
      | nil => simp
      | cons e p =>
        by_cases hcd : c = d
        · rw [if_pos hcd, List.cons_prefix_cons, List.cons_prefix_cons, List.cons_prefix_cons, ih, hcd]
          tauto
        · rw [if_neg hcd, List.cons_prefix_cons, List.cons_prefix_cons]
          refine ⟨fun h => absurd (List.prefix_nil.mp h) (List.cons_ne_nil e p), fun h => ?_⟩
          exact absurd (h.1.1.symm.trans h.2.1) hcd

lemma common_take (a b : List α) (n : ℕ) : common (a.take n) b = (common a b).take n := by
  induction a generalizing b n with
  | nil => simp [common_nil_left]
  | cons c a ih =>
    cases n with
    | zero => simp [common_nil_left]
    | succ n =>
      cases b with
      | nil => simp [common_nil_right]
      | cons d b =>
        rw [List.take_succ_cons, common, common, ih]
        split
        · rfl
        · rfl

lemma prefix_foldl_common_iff : p <+: l.foldl common a ↔ p <+: a ∧ ∀ b ∈ l, p <+: b := by
  induction l generalizing a with
  | nil => simp
  | cons b l ih =>
    rw [List.foldl_cons, ih, prefix_common_iff, List.forall_mem_cons, and_assoc]

/-- **The longest common prefix** begins with what all lists begin with, and with nothing else. -/
theorem prefix_commonPrefix_iff (h : l ≠ []) : p <+: commonPrefix l ↔ ∀ a ∈ l, p <+: a := by
  cases l with
  | nil => exact absurd rfl h
  | cons a l => rw [commonPrefix, prefix_foldl_common_iff, List.forall_mem_cons]

lemma commonPrefix_of_mem (h : a ∈ l) : commonPrefix l <+: a :=
  (prefix_commonPrefix_iff (List.ne_nil_of_mem h)).mp (List.prefix_refl _) a h

end N32L43x.Lib.CommonPrefix
