import Mathlib.Data.List.Basic
import Mathlib.Data.List.Nodup
import Mathlib.Data.List.Range
import Mathlib.Logic.Function.Iterate

/-!
A memory after a list of writes, and the addresses that are met on the way along the links in it.
-/

namespace N32L43x.Lib.Writes

variable {A V : Type*}

section Writes

variable [DecidableEq A] {m : A → V} {ws ws' : List (A × V)} {a : A} {v : V}

/-- The memory after the writes, in order. -/
def store (m : A → V) (ws : List (A × V)) : A → V :=
  ws.foldl (fun m w => Function.update m w.1 w.2) m

lemma store_append : store m (ws ++ ws') = store (store m ws) ws' := List.foldl_append

lemma store_snoc : store m (ws ++ [(a, v)]) = Function.update (store m ws) a v := store_append

/-- An address that is not written keeps its value. -/
lemma store_of_not_mem (h : a ∉ ws.map Prod.fst) : store m ws a = m a := by
  induction ws generalizing m with
  | nil => rfl
  | cons w ws ih =>
    rw [List.map_cons, List.mem_cons, not_or] at h
    show store (Function.update m w.1 w.2) ws a = m a
    rw [ih h.2, Function.update_of_ne h.1]

/-- An address that is written once has what was written. -/
lemma store_of_mem (hnd : (ws.map Prod.fst).Nodup) (h : (a, v) ∈ ws) : store m ws a = v := by
  induction ws generalizing m with
  | nil => cases h
  | cons w ws ih =>
    rw [List.map_cons, List.nodup_cons] at hnd
    show store (Function.update m w.1 w.2) ws a = v
    rcases List.mem_cons.mp h with rfl | h
    · rw [store_of_not_mem hnd.1, Function.update_self]
    · exact ih hnd.2 h

end Writes

/-! ### Walks -/

/-- The first `n` addresses from `a` on along the links. -/
def walk (next : A → A) : ℕ → A → List A
  | 0, _ => []
  | n + 1, a => a :: walk next n (next a)

variable {next : A → A} {n : ℕ} {a : A}

lemma iterate_mem_walk {j : ℕ} (hj : j < n) : next^[j] a ∈ walk next n a := by
  induction n generalizing a j with
  | zero => exact absurd hj (Nat.not_lt_zero j)
  | succ n ih =>
    cases j with
    | zero => exact List.mem_cons_self ..
    | succ j =>
      rw [Function.iterate_succ_apply]
      exact List.mem_cons_of_mem a (ih (Nat.lt_of_succ_lt_succ hj))

/-- A walk along addresses that are linked to one another. -/
lemma walk_eq_map {f : ℕ → A} (h0 : 0 < n → f 0 = a) (h : ∀ j, j + 1 < n → next (f j) = f (j + 1)) :
    walk next n a = (List.range n).map f := by
  induction n generalizing f a with
  | zero => rfl
  | succ n ih =>
    obtain rfl := h0 (Nat.succ_pos n)
    rw [List.range_succ_eq_map, List.map_cons, List.map_map, walk]
    refine congrArg (f 0 :: ·) (ih (f := f ∘ Nat.succ) (fun hn => ?_) fun j hj => h (j + 1) (by omega))
    exact (h 0 (by omega)).symm

end N32L43x.Lib.Writes
