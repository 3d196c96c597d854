import Mathlib.Data.List.Range
import Mathlib.Logic.Function.Basic

/-!
Circular buffers: a pool of `size` cells, the offset of the first element and the number of elements.
What such a buffer holds, and what writing behind the last element, writing before the first one and
moving the offset on do to that.
-/

namespace N32L43x.Lib.Ring

variable {α : Type*} {pool : ℕ → α} {size out n : ℕ}

/-- The elements, the first one first. -/
def contents (pool : ℕ → α) (size out n : ℕ) : List α :=
  (List.range n).map fun i => pool ((out + i) % size)

@[simp] lemma length_contents (pool : ℕ → α) (size out n : ℕ) :
    (contents pool size out n).length = n := by
  simp [contents]

@[simp] lemma contents_zero (pool : ℕ → α) (size out : ℕ) : contents pool size out 0 = [] := rfl

/-- An offset that goes at most once round the end. -/
lemma mod_eq_ite {a : ℕ} (h : a < 2 * size) : a % size = if a < size then a else a - size := by
  split
  · exact Nat.mod_eq_of_lt ‹_›
  · rw [Nat.mod_eq_sub_mod (by omega), Nat.mod_eq_of_lt (by omega)]

/-- Two cells of less than one round are different. -/
lemma add_mod_ne {i j : ℕ} (hij : i < j) (hj : j < size) : (out + i) % size ≠ (out + j) % size := by
  intro h
  have hdvd : size ∣ (out + j) - (out + i) :=
    Nat.dvd_of_mod_eq_zero (Nat.sub_mod_eq_zero_of_mod_eq h.symm)
  have hle := Nat.le_of_dvd (by omega) hdvd
  omega

/-- A write to a cell that holds no element. -/
lemma contents_update {k : ℕ} (hk : ∀ i, i < n → (out + i) % size ≠ k) (v : α) :
    contents (Function.update pool k v) size out n = contents pool size out n := by
  apply List.map_congr_left
  intro i hi
  exact Function.update_of_ne (hk i (List.mem_range.mp hi)) _ _

/-- **Behind the last element.** -/
theorem contents_push_back (hn : n < size) (v : α) :
    contents (Function.update pool ((out + n) % size) v) size out (n + 1) =
      contents pool size out n ++ [v] := by
  have hsame : contents (Function.update pool ((out + n) % size) v) size out n =
      contents pool size out n := contents_update (fun i hi => add_mod_ne hi hn) v
  rw [← hsame]
  unfold contents
  rw [List.range_succ, List.map_append, List.map_singleton, Function.update_self]

/-- **From the first element on.** -/
theorem contents_succ (pool : ℕ → α) (size out n : ℕ) :
    contents pool size out (n + 1) = pool (out % size) :: contents pool size ((out + 1) % size) n := by
  unfold contents
  rw [List.range_succ_eq_map, List.map_cons, List.map_map, Nat.add_zero]
  congr 1
  apply List.map_congr_left
  intro i _
  simp only [Function.comp_apply, Nat.mod_add_mod]
  congr 2
  omega

/-- **Before the first element**, where `k` is the cell before it. -/
theorem contents_push_front {k : ℕ} (hk : (k + 1) % size = out) (hsize : k < size) (hn : n < size)
    (v : α) : contents (Function.update pool k v) size k (n + 1) = v :: contents pool size out n := by
  have hfree : ∀ i, i < n → (out + i) % size ≠ k := by
    intro i hi heq
    have hround : (k + (i + 1)) % size = (out + i) % size := by
      rw [← hk, Nat.mod_add_mod]
      congr 1
      omega
    have hne : (k + 0) % size ≠ (k + (i + 1)) % size := add_mod_ne (by omega) (by omega)
    apply hne
    rw [hround, heq, Nat.add_zero, Nat.mod_eq_of_lt hsize]
  rw [contents_succ, Nat.mod_eq_of_lt hsize, Function.update_self, hk, contents_update hfree]

/-! ### Several elements at a time -/

lemma getElem_contents {i : ℕ} (hi : i < (contents pool size out n).length) :
    (contents pool size out n)[i] = pool ((out + i) % size) := by
  simp [contents]

/-- **A part and the rest.** -/
theorem contents_add (pool : ℕ → α) (size out n m : ℕ) : contents pool size out (n + m) =
    contents pool size out n ++ contents pool size ((out + n) % size) m := by
  unfold contents
  rw [List.range_add, List.map_append, List.map_map]
  congr 1
  apply List.map_congr_left
  intro i _
  simp only [Function.comp_apply, Nat.mod_add_mod, Nat.add_assoc]

lemma take_contents {k : ℕ} (hk : k ≤ n) :
    (contents pool size out n).take k = contents pool size out k := by
  obtain ⟨m, rfl⟩ := Nat.exists_eq_add_of_le hk
  rw [contents_add, List.take_left' (length_contents ..)]

lemma drop_contents {k : ℕ} (hk : k ≤ n) :
    (contents pool size out n).drop k = contents pool size ((out + k) % size) (n - k) := by
  obtain ⟨m, rfl⟩ := Nat.exists_eq_add_of_le hk
  rw [contents_add, List.drop_left' (length_contents ..), Nat.add_sub_cancel_left]

/-- The cells from an offset up to the end of the pool. -/
lemma contents_of_le {k : ℕ} (hk : out + k ≤ size) :
    contents pool size out k = (List.range k).map fun i => pool (out + i) := by
  apply List.map_congr_left
  intro i hi
  have hi' := List.mem_range.mp hi
  rw [Nat.mod_eq_of_lt (by omega)]

/-- The elements of `xs` have been written from the offset `k` on, round the end of the pool. -/
structure Written (pool pool' : ℕ → α) (size k : ℕ) (xs : List α) : Prop where
  written : ∀ j (hj : j < xs.length), pool' ((k + j) % size) = xs[j]
  kept : ∀ c, (∀ j < xs.length, c ≠ (k + j) % size) → pool' c = pool c

lemma written_nil (pool : ℕ → α) (size k : ℕ) : Written pool pool size k [] :=
  ⟨fun _ hj => absurd hj (Nat.not_lt_zero _), fun _ _ => rfl⟩

lemma written_update {k : ℕ} (hk : k < size) (v : α) :
    Written pool (Function.update pool k v) size k [v] := by
  refine ⟨fun j hj => ?_, fun c hc => ?_⟩
  · obtain rfl : j = 0 := Nat.lt_one_iff.mp hj
    rw [Nat.add_zero, Nat.mod_eq_of_lt hk, Function.update_self]
    rfl
  · have hck := hc 0 Nat.one_pos
    rw [Nat.add_zero, Nat.mod_eq_of_lt hk] at hck
    exact Function.update_of_ne hck ..

/-- **Behind the last element, over the first ones.**  `d` is by how much the first element moves on. -/
theorem contents_written {pool' : ℕ → α} {xs : List α} {d : ℕ}
    (h : Written pool pool' size ((out + n) % size) xs) (hd : d ≤ n + xs.length)
    (hfit : n + xs.length ≤ size + d) :
    contents pool' size ((out + d) % size) (n + xs.length - d) =
      (contents pool size out n ++ xs).drop d := by
  apply List.ext_getElem
  · simp
  intro i hi hi'
  rw [length_contents] at hi
  rw [getElem_contents, List.getElem_drop, Nat.mod_add_mod]
  by_cases hin : d + i < n
  · rw [List.getElem_append_left (by simpa using hin), getElem_contents]
    rw [← Nat.add_assoc]
    apply h.kept
    intro j hj heq
    rw [Nat.mod_add_mod, Nat.add_assoc, Nat.add_assoc] at heq
    have hne : (out + (d + i) + 0) % size ≠ (out + (d + i) + (n + j - (d + i))) % size :=
      add_mod_ne (by omega) (by omega)
    apply hne
    rw [Nat.add_zero, heq]
    congr 1
    omega
  · rw [List.getElem_append_right (by simpa using hin)]
    have hj : d + i - n < xs.length := by omega
    have hw := h.written (d + i - n) hj
    rw [Nat.mod_add_mod] at hw
    have hidx : out + n + (d + i - n) = out + d + i := by omega
    rw [hidx] at hw
    rw [hw]
    congr 1
    simp

end N32L43x.Lib.Ring
