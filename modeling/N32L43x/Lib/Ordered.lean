import Mathlib.Data.List.Sort

/-!
Insertion into an ordered list where the test that decides the place is only known to agree with
the order on the elements at hand.
-/

namespace N32L43x.Lib.Ordered

variable {α : Type*} {r R : α → α → Prop} [DecidableRel r]

/-- **Ordered insertion.**  If the test `r` places `a` on the right side of every element of an
`R`-ordered list, inserting `a` by it keeps the list `R`-ordered. -/
theorem pairwise_orderedInsert (htrans : ∀ x y z, R x y → R y z → R x z) {a : α} :
    ∀ {l : List α}, l.Pairwise R → (∀ b ∈ l, r a b → R a b) → (∀ b ∈ l, ¬ r a b → R b a) →
      (l.orderedInsert r a).Pairwise R
  | [], _, _, _ => List.pairwise_singleton R a
  | b :: l, hl, hbefore, hafter => by
    rw [List.pairwise_cons] at hl
    obtain ⟨hb, hl'⟩ := hl
    rw [List.orderedInsert_cons]
    split
    · rename_i hab
      have hRab : R a b := hbefore b (List.mem_cons_self ..) hab
      refine List.pairwise_cons.mpr ⟨?_, List.pairwise_cons.mpr ⟨hb, hl'⟩⟩
      intro c hc
      rcases List.mem_cons.mp hc with rfl | hc
      · exact hRab
      · exact htrans a b c hRab (hb c hc)
    · rename_i hab
      refine List.pairwise_cons.mpr ⟨?_, ?_⟩
      · intro c hc
        rcases (List.mem_orderedInsert r).mp hc with rfl | hc
        · exact hafter b (List.mem_cons_self ..) hab
        · exact hb c hc
      · apply pairwise_orderedInsert htrans hl'
        · intro c hc
          exact hbefore c (List.mem_cons_of_mem b hc)
        · intro c hc
          exact hafter c (List.mem_cons_of_mem b hc)

/-- What is inserted stands in front of every element its test stops at. -/
theorem rel_of_pairwise_orderedInsert {a b : α} :
    ∀ {l : List α}, (l.orderedInsert r a).Pairwise R → b ∈ l → r a b → R a b
  | [], _, hb, _ => by cases hb
  | c :: l, hl, hb, hab => by
    rw [List.orderedInsert_cons] at hl
    split at hl
    · exact (List.pairwise_cons.mp hl).1 b hb
    · rename_i hac
      have hbl : b ∈ l := by
        rcases List.mem_cons.mp hb with rfl | hb
        · exact absurd hab hac
        · exact hb
      exact rel_of_pairwise_orderedInsert (List.pairwise_cons.mp hl).2 hbl hab

end N32L43x.Lib.Ordered
