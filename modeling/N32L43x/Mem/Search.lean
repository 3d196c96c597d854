import N32L43x.Mem.Heap

/-!
What the calls of the heap look for and what they write.  The search of `rt_smem_alloc` starts at the
hint and ends at a bound that depends on the request; between them it misses no free block that is
large enough.  The headers a call writes stand where a block starts, so the payloads keep their bytes.
-/

namespace N32L43x.Mem

variable {m m' m'' : SmallMem} {k l bs : List Blk} {a b : Blk} {size x : ℕ}

/-! ### Where blocks start -/

/-- A block starts at `x`, or the heap ends there. -/
def IsHead (bs : List Blk) (x : ℕ) : Prop := ∃ k l, bs = k ++ l ∧ x = total k

lemma isHead_total (k l : List Blk) : IsHead (k ++ l) (total k) := ⟨k, l, rfl, rfl⟩

lemma isHead_next (k l : List Blk) (b : Blk) : IsHead (k ++ b :: l) (total k + b.size) :=
  ⟨k ++ [b], l, by simp, by simp⟩

lemma isHead_cons : IsHead (b :: bs) x ↔ x = 0 ∨ ∃ y, IsHead bs y ∧ x = b.size + y := by
  constructor
  · rintro ⟨k, l, hsplit, rfl⟩
    cases k with
    | nil => exact .inl rfl
    | cons c k =>
      obtain ⟨rfl, rfl⟩ : b = c ∧ bs = k ++ l := by simpa using hsplit
      exact .inr ⟨total k, isHead_total k l, rfl⟩
  · rintro (rfl | ⟨y, ⟨k, l, rfl, rfl⟩, rfl⟩)
    · exact ⟨[], b :: bs, rfl, rfl⟩
    · exact ⟨b :: k, l, rfl, rfl⟩

/-- The blocks behind `k` start where they did if the sizes in front of them add up to the same. -/
lemma isHead_append_congr {l' : List Blk} (h : ∀ x, IsHead l x → IsHead l' x)
    (hx : IsHead (k ++ l) x) : IsHead (k ++ l') x := by
  induction k generalizing x with
  | nil => exact h x hx
  | cons c k ih =>
    rw [List.cons_append, isHead_cons] at hx ⊢
    rcases hx with rfl | ⟨y, hy, rfl⟩
    · exact .inl rfl
    · exact .inr ⟨y, ih hy, rfl⟩

/-- Joining two blocks starts none. -/
lemma isHead_of_join (hx : IsHead (k ++ a.join b :: l) x) : IsHead (k ++ a :: b :: l) x := by
  refine isHead_append_congr (fun x hx => ?_) hx
  rw [isHead_cons] at hx
  rcases hx with rfl | ⟨y, hy, rfl⟩
  · exact isHead_cons.mpr (.inl rfl)
  · exact isHead_cons.mpr (.inr ⟨b.size + y, isHead_cons.mpr (.inr ⟨y, hy, rfl⟩),
      Nat.add_assoc _ _ _⟩)

/-- A block of the same size in the place of another starts none. -/
lemma isHead_of_size (hsize : a.size = b.size) (hx : IsHead (k ++ a :: l) x) :
    IsHead (k ++ b :: l) x := by
  refine isHead_append_congr (fun x hx => ?_) hx
  rw [isHead_cons] at hx ⊢
  rwa [hsize] at hx

/-- A header lies in front of a payload or behind it. -/
lemma IsHead.apart (h : IsHead bs x) {y : ℕ × ℕ} (hy : y ∈ payloads 0 bs) :
    x + 16 ≤ y.1 ∨ y.1 + y.2 ≤ x := by
  obtain ⟨k, l, rfl, rfl⟩ := h
  rw [payloads_append, List.mem_append] at hy
  rcases hy with hy | hy
  · have := (payloads_bounds hy).2
    omega
  · have := (payloads_bounds hy).1
    omega

/-! ### What a call writes -/

/-- From `m` to `m'` headers have been written at places in `P` only. -/
structure Writes (P : ℕ → Prop) (m m' : SmallMem) : Prop where
  item : ∀ x, ¬ P x → m'.item x = m.item x
  heapPtr : m'.heapPtr = m.heapPtr
  memSizeAligned : m'.memSizeAligned = m.memSizeAligned

/-- The heap is where it was and as large. -/
structure SameHeap (m m' : SmallMem) : Prop where
  heapPtr : m'.heapPtr = m.heapPtr
  memSizeAligned : m'.memSizeAligned = m.memSizeAligned

variable {P Q : ℕ → Prop}

lemma Writes.sameHeap (h : Writes P m m') : SameHeap m m' := ⟨h.heapPtr, h.memSizeAligned⟩

lemma SameHeap.refl (m : SmallMem) : SameHeap m m := ⟨rfl, rfl⟩

lemma SameHeap.trans (h : SameHeap m m') (h' : SameHeap m' m'') : SameHeap m m'' :=
  ⟨h'.heapPtr.trans h.heapPtr, h'.memSizeAligned.trans h.memSizeAligned⟩

lemma Writes.refl (P : ℕ → Prop) (m : SmallMem) : Writes P m m := ⟨fun _ _ => rfl, rfl, rfl⟩

lemma Writes.trans (h : Writes P m m') (h' : Writes P m' m'') : Writes P m m'' where
  item x hx := (h'.item x hx).trans (h.item x hx)
  heapPtr := h'.heapPtr.trans h.heapPtr
  memSizeAligned := h'.memSizeAligned.trans h.memSizeAligned

lemma Writes.mono (h : Writes P m m') (hPQ : ∀ x, P x → Q x) : Writes Q m m' where
  item x hx := h.item x (mt (hPQ x) hx)
  heapPtr := h.heapPtr
  memSizeAligned := h.memSizeAligned

/-- The fields that are not the address or the size of the heap may change. -/
lemma Writes.of_item (h : Writes P m m') (hitem : m''.item = m'.item)
    (hptr : m''.heapPtr = m'.heapPtr) (hsize : m''.memSizeAligned = m'.memSizeAligned) :
    Writes P m m'' :=
  h.trans ⟨fun _ _ => by rw [hitem], hptr, hsize⟩

lemma writes_setPoolPtr {mem : ℕ} (hmem : P mem) (v : PoolPtr) :
    Writes P m (setPoolPtr m mem v) where
  item x hx := by
    have hne : x ≠ mem := by
      rintro rfl
      exact hx hmem
    exact Function.update_of_ne hne _ _
  heapPtr := rfl
  memSizeAligned := rfl

lemma writes_absorb {mem nmem : ℕ} (h₁ : P mem) (h₂ : P nmem) (h₃ : P (m.item nmem).next)
    (hne : mem ≠ nmem) : Writes P m (absorb m mem nmem) where
  item x hx := by
    refine absorb_item_of_ne ?_ ?_ hne ?_
    · rintro rfl
      exact hx h₁
    · rintro rfl
      exact hx h₂
    · rintro rfl
      exact hx h₃
  heapPtr := (absorb_fields m mem nmem).2.1
  memSizeAligned := (absorb_fields m mem nmem).1

/-- Joining two neighbours. -/
lemma Linked.absorb_writes (h : Linked m (k ++ a :: b :: l)) :
    Writes (IsHead (k ++ a :: b :: l)) m (Mem.absorb m (total k) (total k + a.size)) := by
  have hsize := a.size_ge
  have hassoc : k ++ a :: b :: l = (k ++ [a]) ++ b :: l := by simp
  have htotal : total (k ++ [a]) = total k + a.size := by simp
  have hnext : (m.item (total k + a.size)).next = total k + a.size + b.size := by
    have := h
    rw [hassoc] at this
    rw [← htotal]
    exact this.next_eq
  refine writes_absorb (isHead_total _ _) (isHead_next _ _ _) ?_ (by omega)
  rw [hnext, hassoc, ← htotal]
  exact isHead_next _ _ _

/-- **Plugging holes** writes the headers of the blocks there are. -/
lemma Linked.plugHoles_writes (h : Linked m (k ++ b :: l)) (hb : b.used = false) :
    Writes (IsHead (k ++ b :: l)) m (plugHoles m (total k)) := by
  have hforward : ∃ m₁ b' l', Linked m₁ (k ++ b' :: l') ∧ Writes (IsHead (k ++ b :: l)) m m₁ ∧
      (∀ x, IsHead (k ++ b' :: l') x → IsHead (k ++ b :: l) x) ∧
      m₁ = if total k ≠ (m.item (total k)).next ∧ memIsused m (m.item (total k)).next = false ∧
        (m.item (total k)).next ≠ heapEnd m then Mem.absorb m (total k) (m.item (total k)).next
        else m := by
    rw [h.next_eq]
    split
    · rename_i hcond
      cases l with
      | nil =>
        have hend := h.total_eq
        rw [total_append, total_cons, total_nil, Nat.add_zero] at hend
        exact absurd hend hcond.2.2
      | cons c l =>
        exact ⟨_, b.join c, l, h.absorb hb, h.absorb_writes, fun x => isHead_of_join, rfl⟩
    · exact ⟨m, b, l, h, Writes.refl _ _, fun _ hx => hx, rfl⟩
  obtain ⟨m₁, b', l', hlink, hwrites, hheads, hm₁⟩ := hforward
  unfold plugHoles
  dsimp only
  rw [← hm₁]
  split
  · rename_i hcond
    obtain ⟨p, q, hseg, hd, -⟩ := hlink.split
    rw [hd.prev] at hcond ⊢
    rcases List.eq_nil_or_concat k with rfl | ⟨k, c, rfl⟩
    · exact absurd hseg.1.symm hcond.1
    · rw [List.concat_eq_append] at hlink hwrites hheads hseg ⊢
      obtain ⟨r, -, -, hpr, -⟩ := seg_append.mp hseg
      rw [Nat.zero_add] at hpr
      subst hpr
      have hassoc : k ++ [c] ++ b' :: l' = k ++ c :: b' :: l' := by simp
      rw [hassoc] at hlink hheads
      have htotal : total (k ++ [c]) = total k + c.size := by simp
      rw [htotal]
      exact hwrites.trans (hlink.absorb_writes.mono hheads)
  · exact hwrites

lemma Linked.plugHoles_writes_of_item (h : Linked m (k ++ b :: l)) (hb : b.used = false)
    (hitem : m'.item = m.item) (hptr : m'.heapPtr = m.heapPtr)
    (hsize : m'.memSizeAligned = m.memSizeAligned) :
    Writes (IsHead (k ++ b :: l)) m (plugHoles m' (total k)) :=
  ((Writes.refl _ _).of_item hitem hptr hsize).trans
    ((h.of_item m' hitem hsize hptr).plugHoles_writes hb)

/-- **Releasing a block** writes the headers of the blocks there are. -/
lemma Linked.free_writes (h : Linked m (k ++ b :: l)) :
    Writes (IsHead (k ++ b :: l)) m (rtSmemFree m (some (total k + 16))) := by
  have hptr : total k + 16 - sizeofStructMem = total k := Nat.add_sub_cancel _ _
  have hmark : Writes (IsHead (k ++ b :: l)) m (Mem.setPoolPtr m (total k) .freed) :=
    writes_setPoolPtr (isHead_total _ _) _
  have hheads : ∀ x, IsHead (k ++ b.mark false :: l) x → IsHead (k ++ b :: l) x :=
    fun x hx => isHead_of_size (show (b.mark false).size = b.size from rfl) hx
  unfold rtSmemFree
  dsimp only
  rw [hptr]
  split
  · refine hmark.trans (Writes.mono ?_ hheads)
    exact (h.setPoolPtr .freed).plugHoles_writes_of_item rfl rfl rfl rfl
  · refine hmark.trans (Writes.mono ?_ hheads)
    exact (h.setPoolPtr .freed).plugHoles_writes_of_item rfl rfl rfl rfl

/-- Splitting a block. -/
lemma Linked.splitBlock_writes (h : Linked m (k ++ b :: l)) (hal : size % 8 = 0)
    (hfit : size + 32 ≤ b.size) :
    Writes (IsHead (k ++ b.front size hal :: b.rest size hal hfit :: l)) m
      (Mem.splitBlock m (total k) size) := by
  have hend := h.end_ge
  have hbound := h.bound
  have hassoc : k ++ b.front size hal :: b.rest size hal hfit :: l =
      (k ++ [b.front size hal]) ++ b.rest size hal hfit :: l := by simp
  have hptr2 : add32 (add32 (total k) sizeofStructMem) size = total (k ++ [b.front size hal]) := by
    have hfirst : add32 (total k) sizeofStructMem = total k + 16 := add32_of_lt (b := 16) (by omega)
    rw [hfirst, add32_of_lt (by omega), total_append, total_cons, total_nil]
    simp only [Blk.front]
    omega
  have hlast : total k + b.size =
      total (k ++ [b.front size hal]) + (b.rest size hal hfit).size := by
    rw [total_append, total_cons, total_nil]
    simp only [Blk.front, Blk.rest]
    omega
  have hfront : total (k ++ [b.front size hal]) ≠ total k := by
    rw [total_append, total_cons, total_nil]
    simp only [Blk.front]
    omega
  obtain ⟨hmsa, hptr, -, -, -⟩ := splitBlock_fields m (total k) size
  refine ⟨fun x hx => ?_, hptr, hmsa⟩
  refine splitBlock_item_of_ne hptr2 h.next_eq hfront ?_ ?_ ?_
  · rintro rfl
    exact hx (isHead_total _ _)
  · rintro rfl
    rw [hassoc] at hx
    exact hx (isHead_total _ _)
  · rintro rfl
    rw [hassoc, hlast] at hx
    exact absurd (isHead_next _ _ _) hx

/-- **Shrinking a block** writes the headers of the blocks around the cut. -/
lemma Linked.shrink_writes (h : Linked m (k ++ b :: l)) (hal : size % 8 = 0)
    (hfit : size + 32 ≤ b.size) :
    Writes (IsHead (k ++ b.front size hal :: b.rest size hal hfit :: l)) m
      (shrinkBlock m (total k) (b.size - 16) size) := by
  have hend := h.end_ge
  have hbound := h.bound
  have hptr2 : add32 (add32 (total k) sizeofStructMem) size = total (k ++ [b.front size hal]) := by
    have hfirst : add32 (total k) sizeofStructMem = total k + 16 := add32_of_lt (b := 16) (by omega)
    rw [hfirst, add32_of_lt (by omega), total_append, total_cons, total_nil]
    simp only [Blk.front]
    omega
  set m₀ : SmallMem := { m with used := sub32 m.used (sub32 (b.size - 16) size) } with hm₀
  have hlink₀ : Linked m₀ (k ++ b :: l) := h.of_item m₀ rfl rfl rfl
  have hwrites : Writes (IsHead (k ++ b.front size hal :: b.rest size hal hfit :: l)) m
      (Mem.splitBlock m₀ (total k) size) :=
    (show Writes _ m m₀ from ⟨fun _ _ => rfl, rfl, rfl⟩).trans (hlink₀.splitBlock_writes hal hfit)
  have hlink := hlink₀.splitBlock hal hfit
  have hassoc : k ++ b.front size hal :: b.rest size hal hfit :: l =
      (k ++ [b.front size hal]) ++ b.rest size hal hfit :: l := by simp
  rw [hassoc] at hlink hwrites ⊢
  unfold shrinkBlock
  dsimp only
  rw [← hm₀, hptr2]
  split
  · exact hwrites.trans (hlink.plugHoles_writes_of_item rfl rfl rfl rfl)
  · exact hwrites.trans (hlink.plugHoles_writes rfl)

/-- What is done to a block that was found, once the count is right: it is marked, and the hint moves
on. -/
lemma writes_marked {ptr : ℕ} (hptr : P ptr) {m₁ : SmallMem} (hcut : Writes P m m₁)
    (h : (if ptr = (setPoolPtr m₁ ptr .used).lfree then
        (follow (setPoolPtr m₁ ptr .used).item (lfreeStop (setPoolPtr m₁ ptr .used))
          (loopFuel (setPoolPtr m₁ ptr .used)) (setPoolPtr m₁ ptr .used).lfree).map fun lfree =>
            { setPoolPtr m₁ ptr .used with lfree := lfree }
      else some (setPoolPtr m₁ ptr .used)) = some m') : Writes P m m' := by
  have hmark := hcut.trans (writes_setPoolPtr hptr .used)
  split at h
  · obtain ⟨lfree, -, rfl⟩ := Option.map_eq_some_iff.mp h
    exact hmark.of_item rfl rfl rfl
  · obtain rfl := Option.some.inj h
    exact hmark

lemma addUsed_fields (m : SmallMem) (n : ℕ) :
    (addUsed m n).item = m.item ∧ (addUsed m n).heapPtr = m.heapPtr ∧
      (addUsed m n).memSizeAligned = m.memSizeAligned :=
  ⟨rfl, rfl, rfl⟩

lemma Writes.addUsed (h : Writes P m m') (n : ℕ) : Writes P m (addUsed m' n) :=
  h.of_item (addUsed_fields m' n).1 (addUsed_fields m' n).2.1 (addUsed_fields m' n).2.2

/-- Taking a block writes its header and, if it is split, what the cut needs. -/
lemma takeBlock_writes {ptr : ℕ} (hptr : P ptr)
    (hsplit : dataSize m ptr ≥ add32 (add32 size sizeofStructMem) minSizeAligned →
      Writes P m (splitBlock m ptr size))
    (h : takeBlock m ptr size = some m') : Writes P m m' := by
  unfold takeBlock at h
  by_cases hcond : dataSize m ptr ≥ add32 (add32 size sizeofStructMem) minSizeAligned
  · rw [if_pos hcond] at h
    exact writes_marked hptr ((hsplit hcond).addUsed _) h
  · rw [if_neg hcond] at h
    exact writes_marked hptr ((Writes.refl P m).addUsed _) h

/-! ### What a call finds -/

/-- No free block of the list has a payload of `size` bytes. -/
def NoneFits (size : ℕ) (bs : List Blk) : Prop := ∀ b ∈ bs, b.used = false → b.size < size + 16

lemma Linked.dataSize_ge (h : Linked m (k ++ b :: l)) (hsize : size + 16 ≤ b.size) :
    dataSize m (total k) ≥ size := by
  rw [h.dataSize_eq]
  omega

/-- The search passes the blocks that are in use or too small. -/
lemma Linked.noneFits_of_passed {l₁ l₂ : List Blk} (h : Linked m (k ++ (l₁ ++ l₂)))
    (hpassed : ∀ k₁ c k₂, l₁ = k₁ ++ c :: k₂ → allocStop m size (total (k ++ k₁)) = false) :
    NoneFits size l₁ := by
  intro c hc hfree
  obtain ⟨k₁, k₂, rfl⟩ := List.append_of_mem hc
  have hno := hpassed k₁ c k₂ rfl
  have hassoc : k ++ (k₁ ++ c :: k₂ ++ l₂) = (k ++ k₁) ++ c :: (k₂ ++ l₂) := by simp
  rw [hassoc] at h
  by_contra hlarge
  have hdata : dataSize m (total (k ++ k₁)) ≥ size := h.dataSize_ge (by omega)
  have hused := h.isused_eq
  unfold allocStop at hno
  rw [hused, hfree, decide_eq_true hdata] at hno
  simp at hno

/-- **The search is complete.**  It finds the first free block that is large enough, or there is
none. -/
lemma Rep.search_first (h : Rep m bs) (hsize : size ≤ m.memSizeAligned) :
    (∃ k b l, bs = k ++ b :: l ∧
      follow m.item (allocStop m size) (loopFuel m) m.lfree = some (total k) ∧
      total k ≤ sub32 m.memSizeAligned size ∧ b.used = false ∧ size + 16 ≤ b.size ∧
      NoneFits size k) ∨
    ∃ ptr, follow m.item (allocStop m size) (loopFuel m) m.lfree = some ptr ∧
      ¬ ptr ≤ sub32 m.memSizeAligned size ∧ NoneFits size bs := by
  have hbound := h.bound
  have hsub : sub32 m.memSizeAligned size = m.memSizeAligned - size :=
    sub32_of_le hsize (by omega)
  have hend : heapEnd m = m.memSizeAligned + 16 := rfl
  set k := bs.takeWhile Blk.used with hk
  have hsplit : bs = k ++ bs.dropWhile Blk.used := List.takeWhile_append_dropWhile.symm
  have hlfree : m.lfree = total k := h.lfree
  have hlink := h.toLinked
  rw [hsplit] at hlink
  have hstop : allocStop m size (heapEnd m) = true := by
    have hout : ¬ heapEnd m ≤ sub32 m.memSizeAligned size := by omega
    simp [allocStop, hout]
  obtain ⟨l₁, l₂, hl, hfollow, hat, hpassed⟩ := hlink.follow hstop
  rw [← hlfree] at hfollow
  rw [hl] at hlink hsplit
  have hbefore : NoneFits size (k ++ l₁) := by
    intro c hc hfree
    rcases List.mem_append.mp hc with hc | hc
    · rw [List.mem_takeWhile_imp hc] at hfree
      cases hfree
    · exact hlink.noneFits_of_passed hpassed c hc hfree
  rw [← List.append_assoc] at hlink hsplit
  by_cases hin : total (k ++ l₁) ≤ sub32 m.memSizeAligned size
  · left
    cases l₂ with
    | nil =>
      have htotal := hlink.total_eq
      rw [List.append_nil] at htotal
      omega
    | cons b l =>
      have hdata := hlink.dataSize_eq
      have hsb := b.size_ge
      simp only [allocStop, hlink.isused_eq, hdata, hin, not_true_eq_false, decide_false,
        Bool.false_or, Bool.and_eq_true, beq_iff_eq, decide_eq_true_eq] at hat
      exact ⟨k ++ l₁, b, l, hsplit, hfollow, hin, hat.1, by omega, hbefore⟩
  · right
    refine ⟨_, hfollow, hin, ?_⟩
    rw [hsplit]
    intro c hc hfree
    rcases List.mem_append.mp hc with hc | hc
    · exact hbefore c hc hfree
    · -- behind the bound there is no room for the bytes asked for and a header
      obtain ⟨k₁, k₂, rfl⟩ := List.append_of_mem hc
      have htotal := hlink.total_eq
      rw [total_append, total_append k₁, total_cons] at htotal
      omega

/-- The size `rt_smem_alloc` looks for: rounded up to `RT_ALIGN_SIZE`, and `MIN_SIZE_ALIGNED` at
least. -/
def needed (n : ℕ) : ℕ := if rtAlign n < minSizeAligned then minSizeAligned else rtAlign n

lemma needed_aligned (n : ℕ) : needed n % 8 = 0 := by
  unfold needed minSizeAligned rtAlign
  split <;> omega

lemma le_needed {n : ℕ} (h : n < 4294967296 - 8 + 1) : n ≤ needed n := by
  unfold needed minSizeAligned rtAlign add32
  split <;> omega

/-- An allocation of `need` bytes that takes `b`, the first block that is large enough: `c` bytes are
given out. -/
structure Taken (m : SmallMem) (need : ℕ) (k : List Blk) (b : Blk) (l : List Blk) (m' : SmallMem)
    (bs' : List Blk) (c : ℕ) : Prop where
  free : b.used = false
  fits : need + 16 ≤ b.size
  first : NoneFits need k
  rep : Rep m' bs'
  room : need ≤ c
  given : payloads 0 bs' = payloads 0 k ++ (total k + 16, c) :: payloads (total k + b.size) l
  writes : Writes (IsHead bs') m m'

/-- Taking a block, with what it writes. -/
lemma Rep.taken (h : Rep m (k ++ b :: l)) (hb : b.used = false) (hal : size % 8 = 0)
    (hfit : size + 16 ≤ b.size) (hfirst : NoneFits size k) :
    ∃ m' bs' c, Mem.takeBlock m (total k) size = some m' ∧ Taken m size k b l m' bs' c := by
  have hend := h.toLinked.end_ge
  have hbound := h.bound
  have hcond : add32 (add32 size sizeofStructMem) minSizeAligned = size + 32 := by
    have hsize : add32 size sizeofStructMem = size + 16 := add32_of_lt (b := 16) (by omega)
    rw [hsize]
    exact add32_of_lt (b := 16) (by omega)
  by_cases hsplit : size + 48 ≤ b.size
  · obtain ⟨m', hm', hrep⟩ := h.takeBlock_split hb hal hsplit
    have hheads : ∀ x, IsHead (k ++ b.front size hal :: b.rest size hal (by omega) :: l) x →
        IsHead (k ++ (b.front size hal).mark true :: b.rest size hal (by omega) :: l) x :=
      fun x hx => isHead_of_size (show (b.front size hal).size = _ from rfl) hx
    refine ⟨m', _, size, hm', hb, hfit, hfirst, hrep, le_rfl, ?_, ?_⟩
    · rw [payloads_used rfl]
      have hpos : total k + ((b.front size hal).mark true).size +
          (b.rest size hal (by omega)).size = total k + b.size := by
        simp only [Blk.mark, Blk.front, Blk.rest]
        omega
      have hlen : ((b.front size hal).mark true).size - 16 = size := by
        simp only [Blk.mark, Blk.front]
        omega
      rw [← hpos, hlen]
      simp [payloads, Blk.rest]
    · refine takeBlock_writes (isHead_total _ _) (fun _ => ?_) hm'
      exact (h.toLinked.splitBlock_writes hal (by omega)).mono hheads
  · obtain ⟨m', hm', hrep⟩ := h.takeBlock_whole hb hfit (by omega)
    refine ⟨m', _, b.size - 16, hm', hb, hfit, hfirst, hrep, by omega, ?_, ?_⟩
    · rw [payloads_used rfl]
      rfl
    · refine takeBlock_writes (isHead_total _ _) (fun hge => ?_) hm'
      rw [hcond, h.toLinked.dataSize_eq] at hge
      omega

lemma rtSmemAlloc_eq (m : SmallMem) {n : ℕ} (hn : n ≠ 0) :
    rtSmemAlloc m n = if needed n > m.memSizeAligned then some (m, none)
      else (follow m.item (allocStop m (needed n)) (loopFuel m) m.lfree).bind fun ptr =>
        if ptr ≤ sub32 m.memSizeAligned (needed n) then
          (takeBlock m ptr (needed n)).map fun m => (m, some (add32 ptr sizeofStructMem))
        else some (m, none) := by
  unfold rtSmemAlloc
  rw [if_neg hn]
  rfl

/-- **What `rt_smem_alloc` does**, for a request of any size: it returns; null says that no free block
is large enough, and otherwise the first one is taken. -/
theorem Rep.alloc_cases (h : Rep m bs) {n : ℕ} (hn : n ≠ 0) :
    (rtSmemAlloc m n = some (m, none) ∧ NoneFits (needed n) bs) ∨
    ∃ k b l m' bs' c, bs = k ++ b :: l ∧ rtSmemAlloc m n = some (m', some (total k + 16)) ∧
      Taken m (needed n) k b l m' bs' c := by
  rw [rtSmemAlloc_eq m hn]
  split
  · rename_i hbig
    left
    refine ⟨rfl, fun b hb _ => ?_⟩
    obtain ⟨k, l, rfl⟩ := List.append_of_mem hb
    have := h.toLinked.end_ge
    omega
  · rename_i hroom
    rcases h.search_first (show needed n ≤ m.memSizeAligned by omega) with
      ⟨k, b, l, rfl, hfollow, hin, hfree, hfit, hfirst⟩ | ⟨ptr, hfollow, hout, hnone⟩
    · right
      obtain ⟨m', bs', c, htake, htaken⟩ := h.taken hfree (needed_aligned n) hfit hfirst
      have hend := h.toLinked.end_ge
      have hbound := h.bound
      have hp : add32 (total k) sizeofStructMem = total k + 16 := add32_of_lt (b := 16) (by omega)
      refine ⟨k, b, l, m', bs', c, rfl, ?_, htaken⟩
      rw [hfollow, Option.bind_some, if_pos hin, htake, hp]
      rfl
    · left
      refine ⟨?_, hnone⟩
      rw [hfollow, Option.bind_some, if_neg hout]

end N32L43x.Mem
