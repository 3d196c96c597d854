import N32L43x.Lib.Dll
import N32L43x.Memheap.Defs

/-!
What the edits of the block list and of the free list do to the headers: headers that do not overlap are
written and read like records, and every edit puts an item between two others or takes one out.
-/

namespace N32L43x.Memheap

open N32L43x.Lib.Dll

variable {m m' : ℕ → ℕ} {addr : ℕ} {hs : List ℕ} {a b h j n p x : ℕ} {f g nf pf : Field} {v : ℕ}

/-- Two headers are the same one or do not overlap. -/
def Apart (a b : ℕ) : Prop := a = b ∨ a + memheapSize ≤ b ∨ b + memheapSize ≤ a

lemma Field.offset_lt (f : Field) : f.offset + 4 ≤ memheapSize := by
  cases f <;> decide

lemma Field.offset_injective (h : f.offset = g.offset) : f = g := by
  cases f <;> cases g <;> first | rfl | exact absurd h (by decide)

/-- A field that is written is read as written, and no other field of a header is changed. -/
lemma get_put (hap : Apart a j) : get (put m a f v) j g = if j = a ∧ g = f then v else get m j g := by
  unfold get put
  have hf := f.offset_lt
  have hg := g.offset_lt
  by_cases heq : j = a ∧ g = f
  · obtain ⟨rfl, rfl⟩ := heq
    rw [if_pos ⟨rfl, rfl⟩, Function.update_self]
  · rw [if_neg heq, Function.update_of_ne]
    intro hoff
    unfold memheapSize at hf hg
    rcases hap with rfl | hap | hap
    · exact heq ⟨rfl, Field.offset_injective (by omega)⟩
    · unfold memheapSize at hap
      omega
    · unfold memheapSize at hap
      omega

/-- Of the headers `hs`, only the links between `p` and `n` change: they lead to each other. -/
def Cut (nf pf : Field) (hs : List ℕ) (m m' : ℕ → ℕ) (p n : ℕ) : Prop :=
  ∀ j ∈ hs, ∀ g, get m' j g =
    if j = p ∧ g = nf then n else if j = n ∧ g = pf then p else get m j g

/-- Of the headers `hs`, only the links between `a`, `x` and `b` change: they lead from `a` to `x` and on
to `b`, and back. -/
def Join (nf pf : Field) (hs : List ℕ) (m m' : ℕ → ℕ) (a x b : ℕ) : Prop :=
  ∀ j ∈ hs, ∀ g, get m' j g =
    if j = a ∧ g = nf then x
    else if j = b ∧ g = pf then x
    else if j = x ∧ g = pf then a
    else if j = x ∧ g = nf then b
    else get m j g

section Edits

variable (hap : ∀ a ∈ hs, ∀ b ∈ hs, Apart a b)
include hap

lemma get_put_mem (ha : a ∈ hs) (hj : j ∈ hs) :
    get (put m a f v) j g = if j = a ∧ g = f then v else get m j g :=
  get_put (hap a ha j hj)

lemma cut_removeFree (hp : get m x .prevFree ∈ hs) (hn : get m x .nextFree ∈ hs) (hx : x ∈ hs) :
    Cut .nextFree .prevFree hs m (removeFree m x) (get m x .prevFree) (get m x .nextFree) := by
  intro j hj g
  simp [removeFree, get_put_mem hap, hp, hn, hx, hj]

lemma cut_mergeNext (hh : h ∈ hs) (hx : x ∈ hs) (hn : get m x .next ∈ hs) :
    Cut .next .prev hs m (mergeNext m h x) h (get m x .next) := by
  intro j hj g
  simp [mergeNext, get_put_mem hap, hh, hn, hx, hj]

lemma cut_unlinkBlock (hp : get m x .prev ∈ hs) (hn : get m x .next ∈ hs) (hx : x ∈ hs) :
    Cut .next .prev hs m (unlinkBlock m x) (get m x .prev) (get m x .next) := by
  intro j hj g
  have hnext : get (put m (get m x .prev) .next (get m x .next)) x .next = get m x .next := by
    rw [get_put_mem hap hp hx]
    split_ifs <;> rfl
  simp only [unlinkBlock, hnext]
  simp only [get_put_mem hap, hp, hn, hx, hj, reduceCtorEq, and_false, if_false]
  split_ifs with h₁ h₂ <;> first | rfl | exact absurd (h₁.2.symm.trans h₂.2) (by decide)

lemma cut_removeNextPtr (hp : get (removeFree m x) x .prev ∈ hs)
    (hn : get (removeFree m x) x .next ∈ hs) (hx : x ∈ hs) :
    Cut .next .prev hs (removeFree m x) (removeNextPtr m x) (get (removeFree m x) x .prev)
      (get (removeFree m x) x .next) := by
  intro j hj g
  simp [removeNextPtr, get_put_mem hap, hp, hn, hx, hj]

lemma join_insertFree (ha : a ∈ hs) (hx : x ∈ hs) (hxa : x ≠ a) (hb : get m a .nextFree ∈ hs) :
    Join .nextFree .prevFree hs m (insertFree m a x) a x (get m a .nextFree) := by
  intro j hj g
  simp [insertFree, get_put_mem hap, ha, hb, hx, hj, hxa.symm]

lemma join_insertBefore (hn : n ∈ hs) (hx : x ∈ hs) (hxn : x ≠ n) (hp : get m n .prevFree ∈ hs) :
    Join .nextFree .prevFree hs m (insertBefore m n x) (get m n .prevFree) x n := by
  intro j hj g
  -- the order in which the links are written does not matter: they are different fields
  cases g <;> simp [insertBefore, get_put_mem hap, hn, hp, hx, hj, hxn.symm]

lemma join_splitBlock (hh : h ∈ hs) (hx : x ∈ hs) (hxh : x ≠ h) (hn : get m h .next ∈ hs) :
    Join .next .prev hs
      (put (put m x .magic (memheapMagic ||| memheapFreed)) x .poolPtr addr)
      (splitBlock addr m h x) h x (get m h .next) := by
  intro j hj g
  cases g <;> simp [splitBlock, get_put_mem hap, hh, hn, hx, hj, hxh.symm]

end Edits

end N32L43x.Memheap
