import N32L43x.Memheap.Lists

/-!
The blocks of the heap between two calls: they tile the pool in the order of their addresses, and the free
list holds those that are marked free.
-/

namespace N32L43x.Memheap

open N32L43x.Lib.Dll
open N32L43x.Mem (sub32)

variable {m m' : ℕ → ℕ} {addr fh lo hi : ℕ} {bs fs pre post l r : List ℕ} {a b c n x : ℕ}

/-- The header `a` ends before the header `b` begins. -/
def Before (a b : ℕ) : Prop := a + memheapSize ≤ b

lemma Before.trans (hab : Before a b) (hbc : Before b c) : Before a c := by
  unfold Before memheapSize at *
  omega

instance : Trans Before Before Before := ⟨Before.trans⟩

/-- Blocks in the order of their addresses, from `lo` to `hi`. -/
structure Tiles (lo hi : ℕ) (bs : List ℕ) : Prop where
  sorted : bs.IsChain Before
  head : bs.head? = some lo
  last : bs.getLast? = some hi

namespace Tiles

lemma pairwise (h : Tiles lo hi bs) : bs.Pairwise Before := List.isChain_iff_pairwise.mp h.sorted

lemma nodup (h : Tiles lo hi bs) : bs.Nodup := by
  refine h.pairwise.imp ?_
  intro a b hab heq
  unfold Before memheapSize at hab
  omega

/-- A block is put between two neighbours. -/
lemma insert (h : Tiles lo hi (pre ++ a :: n :: post)) (hax : Before a x) (hxn : Before x n) :
    Tiles lo hi (pre ++ a :: x :: n :: post) where
  sorted := by
    have hs := h.sorted
    rw [List.isChain_append_cons_cons] at hs ⊢
    rw [List.isChain_cons_cons]
    exact ⟨hs.1, hax, hxn, hs.2.2⟩
  head := by
    have hh := h.head
    cases pre with
    | nil => exact hh
    | cons p pre => exact hh
  last := by
    have hl := h.last
    rw [List.getLast?_append_cons, List.getLast?_cons_cons] at hl ⊢
    rwa [List.getLast?_cons_cons]

/-- The block between two others is taken out. -/
lemma remove (h : Tiles lo hi (pre ++ a :: x :: n :: post)) : Tiles lo hi (pre ++ a :: n :: post) where
  sorted := by
    have hs := h.sorted
    rw [List.isChain_append_cons_cons, List.isChain_cons_cons] at hs
    rw [List.isChain_append_cons_cons]
    exact ⟨hs.1, hs.2.1.trans hs.2.2.1, hs.2.2.2⟩
  head := by
    have hh := h.head
    cases pre with
    | nil => exact hh
    | cons p pre => exact hh
  last := by
    have hl := h.last
    rw [List.getLast?_append_cons, List.getLast?_cons_cons, List.getLast?_cons_cons] at hl
    rw [List.getLast?_append_cons, List.getLast?_cons_cons]
    exact hl

lemma le_last (h : Tiles lo hi bs) (hb : b ∈ bs) : b ≤ hi := by
  obtain ⟨ys, rfl⟩ := List.getLast?_eq_some_iff.mp h.last
  rcases List.mem_append.mp hb with hb | hb
  · have hlt := (List.pairwise_append.mp h.pairwise).2.2 b hb hi (List.mem_cons_self ..)
    unfold Before at hlt
    omega
  · exact (List.mem_singleton.mp hb).le

lemma head_le (h : Tiles lo hi bs) (hb : b ∈ bs) : lo ≤ b := by
  obtain ⟨ys, rfl⟩ := List.head?_eq_some_iff.mp h.head
  rcases List.mem_cons.mp hb with rfl | hb
  · exact le_rfl
  · have hlt := List.rel_of_pairwise_cons h.pairwise hb
    unfold Before at hlt
    omega

lemma last_mem (h : Tiles lo hi bs) : hi ∈ bs := List.mem_of_getLast? h.last

/-- A block is the last one, or there is another one behind it. -/
lemma exists_behind (h : Tiles lo hi (pre ++ a :: post)) (hne : a ≠ hi) : ∃ n r, post = n :: r := by
  cases post with
  | nil =>
    have hl := h.last
    rw [List.getLast?_append_cons, List.getLast?_singleton] at hl
    exact absurd (Option.some.inj hl) hne
  | cons n r => exact ⟨n, r, rfl⟩

/-- Behind every block but the last one there is another one. -/
lemma exists_next (h : Tiles lo hi bs) (hb : b ∈ bs) (hne : b ≠ hi) :
    ∃ pre n post, bs = pre ++ b :: n :: post := by
  obtain ⟨pre, post, rfl⟩ := List.append_of_mem hb
  obtain ⟨n, r, rfl⟩ := h.exists_behind hne
  exact ⟨pre, n, r, rfl⟩

lemma before (h : Tiles lo hi (pre ++ a :: n :: post)) : Before a n :=
  (List.isChain_append_cons_cons.mp h.sorted).2.1

/-- No two of the headers overlap. -/
lemma apart (h : Tiles lo hi bs) (hout : fh + memheapSize ≤ lo ∨ hi + memheapSize ≤ fh) :
    ∀ a ∈ fh :: bs, ∀ b ∈ fh :: bs, Apart a b := by
  have hfh : ∀ b ∈ bs, fh + memheapSize ≤ b ∨ b + memheapSize ≤ fh := by
    intro b hb
    have hlo := h.head_le hb
    have hhi := h.le_last hb
    omega
  have hbs : ∀ a ∈ bs, ∀ b ∈ bs, Apart a b := by
    intro a ha b hb
    by_cases hab : a = b
    · exact .inl hab
    · have hsym : Std.Symm fun a b => Before a b ∨ Before b a := ⟨fun _ _ => Or.symm⟩
      have hp : bs.Pairwise fun a b => Before a b ∨ Before b a := h.pairwise.imp Or.inl
      exact .inr (hp.forall ha hb hab)
  intro a ha b hb
  rcases List.mem_cons.mp ha with ha | ha
  · rcases List.mem_cons.mp hb with hb | hb
    · exact .inl (ha.trans hb.symm)
    · rw [ha]
      exact .inr (hfh b hb)
  · rcases List.mem_cons.mp hb with hb | hb
    · rw [hb]
      exact .inr (hfh a ha).symm
    · exact hbs a ha b hb

end Tiles

/-- The sum of `MEMITEM_SIZE` over a list of blocks. -/
def freeBytes (m : ℕ → ℕ) : List ℕ → ℕ
  | [] => 0
  | b :: bs => memitemSize m b + freeBytes m bs

lemma memitemSize_congr (h : get m' b .next = get m b .next) : memitemSize m' b = memitemSize m b := by
  unfold memitemSize
  rw [h]

lemma memitemSize_eq (h : get m b .next = n) (hbn : Before b n) (hn : n < 4294967296) :
    memitemSize m b = n - b - memheapSize := by
  unfold memitemSize sub32
  unfold Before memheapSize at *
  rw [h]
  omega

lemma freeBytes_congr (h : ∀ b ∈ bs, get m' b .next = get m b .next) :
    freeBytes m' bs = freeBytes m bs := by
  induction bs with
  | nil => rfl
  | cons b bs ih =>
    simp only [freeBytes]
    rw [memitemSize_congr (h b (List.mem_cons_self ..)), ih fun c hc => h c (List.mem_cons_of_mem b hc)]

lemma freeBytes_perm (h : List.Perm bs fs) : freeBytes m bs = freeBytes m fs := by
  induction h with
  | nil => rfl
  | cons b _ ih => simp only [freeBytes, ih]
  | swap a b l =>
    simp only [freeBytes]
    omega
  | trans _ _ ih₁ ih₂ => rw [ih₁, ih₂]

lemma freeBytes_middle : freeBytes m (l ++ x :: r) = memitemSize m x + freeBytes m (l ++ r) :=
  freeBytes_perm List.perm_middle

/-- The blocks of a part of the list fit between its first and its last header. -/
lemma freeBytes_filter_le {p : ℕ → Bool} (hp : p hi = false) (hhi : hi < 4294967296) :
    ∀ (bs : List ℕ) (a : ℕ),
      Linked (fun a => get m a .next) (fun a => get m a .prev) (a :: bs) →
      (a :: bs).IsChain Before → (a :: bs).getLast? = some hi →
      freeBytes m ((a :: bs).filter p) + a + memheapSize * bs.length ≤ hi ∧ a ≤ hi
  | [], a, _, _, hlast => by
    obtain rfl : a = hi := Option.some.inj hlast
    rw [List.filter_cons_of_neg (by simp [hp])]
    simp [freeBytes]
  | b :: bs, a, hl, hs, hlast => by
    obtain ⟨⟨hnext, -⟩, hl⟩ := List.isChain_cons_cons.mp hl
    obtain ⟨hab, hs⟩ := List.isChain_cons_cons.mp hs
    rw [List.getLast?_cons_cons] at hlast
    obtain ⟨ih, hb⟩ := freeBytes_filter_le hp hhi bs b hl hs hlast
    have hsize := memitemSize_eq hnext hab (by omega)
    unfold Before at hab
    rw [List.length_cons, Nat.mul_succ]
    by_cases hpa : p a = true
    · rw [List.filter_cons_of_pos hpa]
      simp only [freeBytes]
      omega
    · rw [List.filter_cons_of_neg hpa]
      omega

end N32L43x.Memheap
