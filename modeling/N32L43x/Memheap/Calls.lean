import N32L43x.Memheap.Shape

/-!
The calls of the memory heap: each of them comes to an end and leaves a heap whose blocks tile the pool.
-/

namespace N32L43x.Memheap

open N32L43x.Lib.Dll
open N32L43x.Mem (add32 sub32 rtAlign)

variable {s s' : RtMemheap} {m m' : ℕ → ℕ} {hi size newsize : ℕ} {bs bs' fs fs' : List ℕ} {a b : ℕ}

/-- `n` is a value of `rt_size_t`. -/
def IsWord (n : ℕ) : Prop := n < 4294967296

instance (n : ℕ) : Decidable (IsWord n) := inferInstanceAs (Decidable (n < 4294967296))

/-- The heap has the blocks `bs`, the last of which is at `hi`, and the free blocks `fs`. -/
structure Rep (s : RtMemheap) (hi : ℕ) (bs fs : List ℕ) : Prop where
  shape : Shape s.memory s.addr s.freeHeader s.startAddr hi bs fs
  last_eq : hi + memheapSize = s.startAddr + s.poolSize
  poolSize_lt : IsWord s.poolSize
  blockList_eq : s.blockList = s.startAddr
  freeList_eq : s.freeList = s.freeHeader
  available : s.availableSize = freeBytes s.memory fs
  maxUsed : s.maxUsedSize = s.used.foldr max (2 * memheapSize)
  used_le : s.poolSize - s.availableSize ≤ s.maxUsedSize

lemma Rep.freeBytes_le (h : Rep s hi bs fs) {m' : ℕ → ℕ}
    (hs : Shape m' s.addr s.freeHeader s.startAddr hi bs' fs') :
    freeBytes m' fs' + 2 * memheapSize ≤ s.poolSize := by
  have hle := hs.freeBytes_le.1
  have hlast := h.last_eq
  omega

/-! ### The counters -/

lemma sub32_of_le (hab : b ≤ a) (ha : IsWord a) : sub32 a b = a - b := by
  unfold IsWord at ha
  unfold sub32
  omega

lemma add32_of_lt (hab : IsWord (a + b)) : add32 a b = a + b := Nat.mod_eq_of_lt hab

/-- A heap after an allocation: the new memory and the new byte count. -/
def allocated (s : RtMemheap) (m : ℕ → ℕ) (availableSize : ℕ) : RtMemheap :=
  { s with
    memory := m
    availableSize := availableSize
    maxUsedSize := max s.maxUsedSize (sub32 s.poolSize availableSize)
    used := sub32 s.poolSize availableSize :: s.used }

lemma allocated_used : (allocated s m a).used = sub32 s.poolSize a :: s.used := rfl

lemma allocated_maxUsedSize :
    (allocated s m a).maxUsedSize = max s.maxUsedSize (sub32 s.poolSize a) := rfl

lemma allocEnd_used : (allocEnd s).used = sub32 s.poolSize s.availableSize :: s.used := rfl

lemma updateMaxUsed_eq (s : RtMemheap) : updateMaxUsed s =
    { s with maxUsedSize := max s.maxUsedSize (sub32 s.poolSize s.availableSize) } := by
  unfold updateMaxUsed
  split_ifs with h
  · rw [max_eq_right (Nat.le_of_lt h)]
  · rw [max_eq_left (Nat.le_of_not_lt h)]

lemma Rep.allocated (h : Rep s hi bs fs)
    (hs : Shape m' s.addr s.freeHeader s.startAddr hi bs' fs') (ha : a = freeBytes m' fs') :
    Rep (allocated s m' a) hi bs' fs' := by
  have hle := h.freeBytes_le hs
  have hlt := h.poolSize_lt
  refine ⟨hs, h.last_eq, h.poolSize_lt, h.blockList_eq, h.freeList_eq, ha, ?_, ?_⟩
  · rw [allocated_maxUsedSize, allocated_used, List.foldr_cons, h.maxUsed, max_comm]
  · rw [allocated_maxUsedSize, sub32_of_le (by omega) hlt]
    exact le_max_right ..

/-- A heap after a call that takes no bytes. -/
lemma Rep.released (h : Rep s hi bs fs) (hs : Shape m' s.addr s.freeHeader s.startAddr hi bs' fs')
    (ha : a = freeBytes m' fs') (hle : s.availableSize ≤ a) :
    Rep { s with memory := m', availableSize := a } hi bs' fs' := by
  refine ⟨hs, h.last_eq, h.poolSize_lt, h.blockList_eq, h.freeList_eq, ha, h.maxUsed, ?_⟩
  show s.poolSize - a ≤ s.maxUsedSize
  have hused := h.used_le
  omega

/-- An allocation that fails. -/
lemma Rep.allocEnd (h : Rep s hi bs fs) : Rep (allocEnd s) hi bs fs := by
  have hle := h.freeBytes_le h.shape
  have hlt := h.poolSize_lt
  have hav := h.available
  refine ⟨h.shape, h.last_eq, h.poolSize_lt, h.blockList_eq, h.freeList_eq, h.available, ?_, h.used_le⟩
  rw [allocEnd_used, List.foldr_cons, sub32_of_le (by omega) hlt, ← h.maxUsed, max_eq_right h.used_le]
  rfl

/-! ### Allocation -/

lemma blockSize_bounds (h : size ≤ 2147483648) :
    size ≤ blockSize size ∧ memheapMinialloc ≤ blockSize size ∧ blockSize size ≤ 2147483648 := by
  unfold blockSize rtAlign add32 memheapMinialloc
  split_ifs with hlt
  · omega
  · omega

/-- The search stops at the end of the free list or at a block that is large enough. -/
lemma searchFree_spec {fl : ℕ} : ∀ (r : List ℕ) (fuel headerPtr freeSize : ℕ), fl ∉ r →
    r.length + 2 ≤ fuel → freeSize < size → (r ++ [fl]).head? = some headerPtr →
    Linked (fun x => get m x .nextFree) (fun x => get m x .prevFree) (r ++ [fl]) →
    ∃ x n, searchFree m fl size fuel headerPtr freeSize = some (x, n) ∧
      (n < size ∧ (∀ y ∈ r, memitemSize m y < size) ∨ x ∈ r ∧ n = memitemSize m x ∧ size ≤ n)
  | _, 0, _, _, _, hfuel, _, _, _ => absurd hfuel (by omega)
  | [], fuel + 1, headerPtr, freeSize, _, _, hlt, hhead, _ => by
    obtain rfl : fl = headerPtr := Option.some.inj hhead
    refine ⟨fl, freeSize, ?_, .inl ⟨hlt, by simp⟩⟩
    unfold searchFree
    rw [if_neg (fun h => h.1 rfl)]
  | x :: r, fuel + 1, headerPtr, freeSize, hfl, hfuel, hlt, hhead, hl => by
    obtain rfl : x = headerPtr := Option.some.inj hhead
    have hne : x ≠ fl := fun heq => hfl (heq ▸ List.mem_cons_self ..)
    have hfl' : fl ∉ r := fun hmem => hfl (List.mem_cons_of_mem x hmem)
    rw [List.length_cons] at hfuel
    unfold searchFree
    rw [if_pos ⟨hne, hlt⟩]
    by_cases hsmall : memitemSize m x < size
    · -- the block is too small: the search goes on behind it
      have hnext : (r ++ [fl]).head? = some (get m x .nextFree) := by
        cases r with
        | nil => exact congrArg some (List.isChain_cons_cons.mp hl).1.1.symm
        | cons y r => exact congrArg some (List.isChain_cons_cons.mp hl).1.1.symm
      obtain ⟨y, n, hres, hout⟩ := searchFree_spec r fuel (get m x .nextFree) (memitemSize m x) hfl'
        (by omega) hsmall hnext (List.IsChain.tail hl)
      refine ⟨y, n, ?_, ?_⟩
      · simp only [if_pos hsmall]
        exact hres
      · rcases hout with ⟨hout, hall⟩ | ⟨hmem, hn⟩
        · exact .inl ⟨hout, List.forall_mem_cons.mpr ⟨hsmall, hall⟩⟩
        · exact .inr ⟨List.mem_cons_of_mem x hmem, hn⟩
    · refine ⟨x, memitemSize m x, ?_, .inr ⟨List.mem_cons_self .., rfl, Nat.le_of_not_lt hsmall⟩⟩
      simp only [if_neg hsmall]
      obtain ⟨fuel, rfl⟩ : ∃ k, fuel = k + 1 := ⟨fuel - 1, by omega⟩
      unfold searchFree
      rw [if_neg (fun h => hsmall h.2)]

lemma allocEnd_takeBlock_split {x freeSize : ℕ}
    (h : freeSize ≥ add32 (add32 size memheapSize) memheapMinialloc) :
    allocEnd (takeBlock s x size freeSize) =
      allocated s
        (put (insertFree (detachFree (splitBlock s.addr s.memory x (x + size + memheapSize)) x)
          s.freeList (x + size + memheapSize)) x .magic (memheapMagic ||| memheapUsed))
        (sub32 (sub32 s.availableSize size) memheapSize) := by
  simp only [takeBlock, if_pos h, updateMaxUsed_eq, allocEnd, allocated]

lemma allocEnd_takeBlock_whole {x freeSize : ℕ}
    (h : ¬ freeSize ≥ add32 (add32 size memheapSize) memheapMinialloc) :
    allocEnd (takeBlock s x size freeSize) =
      allocated s (put (detachFree s.memory x) x .magic (memheapMagic ||| memheapUsed))
        (sub32 s.availableSize freeSize) := by
  simp only [takeBlock, if_neg h, updateMaxUsed_eq, allocEnd, allocated]

lemma minialloc_le_blockSize (size : ℕ) : memheapMinialloc ≤ blockSize size := by
  unfold blockSize
  split_ifs <;> omega

/-- No free block has `size` bytes, or there are no more than `size` in all. -/
def Refuses (s : RtMemheap) (fs : List ℕ) (size : ℕ) : Prop :=
  size < s.availableSize → ∀ x ∈ fs, memitemSize s.memory x < size

/-- **What an allocation does**, for a request of any size: it comes to an end; it is refused, or a free
block that is large enough is given out. -/
lemma Rep.alloc_cases (h : Rep s hi bs fs) (size : ℕ) :
    rtMemheapAlloc s size = some (Memheap.allocEnd s, rtNull) ∧ Refuses s fs (blockSize size) ∨
    ∃ s' x bs' fs', rtMemheapAlloc s size = some (s', x + memheapSize) ∧ Rep s' hi bs' fs' ∧
      ¬ Refuses s fs (blockSize size) ∧ blockSize size ≤ memitemSize s'.memory x ∧
      ¬ Busy bs fs hi x ∧ ∀ b, Busy bs' fs' hi b ↔ b = x ∨ Busy bs fs hi b := by
  have hmin := minialloc_le_blockSize size
  unfold rtMemheapAlloc
  by_cases hav : blockSize size < s.availableSize
  swap
  · exact .inl ⟨by simp only [if_neg hav], fun hlt => absurd hlt hav⟩
  simp only [if_pos hav]
  have hbound := h.freeBytes_le h.shape
  have hlast := h.last_eq
  have hword := h.poolSize_lt
  have havail := h.available
  have hturns : fs.length + 2 ≤ s.poolSize := by
    have hfuel := h.shape.freeBytes_le.2
    have hlt := h.shape.pool.lt
    rw [hlast] at hfuel
    simp only [memheapSize] at hfuel hlast hbound
    omega
  have hpos : 0 < blockSize size := by
    unfold memheapMinialloc at hmin
    omega
  have hlists := h.shape.lists
  have hfh := h.shape.header_not_mem
  have hhead : (fs ++ [s.freeHeader]).head? = some (get s.memory s.freeHeader .nextFree) := by
    have hl := hlists.freeRing
    cases fs with
    | nil => exact congrArg some (List.isChain_cons_cons.mp hl).1.1.symm
    | cons f fs => exact congrArg some (List.isChain_cons_cons.mp hl).1.1.symm
  have hchain : Linked (fun x => get s.memory x .nextFree) (fun x => get s.memory x .prevFree)
      (fs ++ [s.freeHeader]) := List.IsChain.tail hlists.freeRing
  obtain ⟨x, n, hres, hout⟩ := searchFree_spec fs s.poolSize _ 0 hfh
    hturns hpos hhead hchain
  rw [h.freeList_eq, hres]
  rcases hout with ⟨hout, hall⟩ | ⟨hx, hsize_eq, hn⟩
  · exact .inl ⟨by simp only [if_neg (Nat.not_le_of_lt hout)], fun _ => hall⟩
  rw [hsize_eq] at hn ⊢
  have hgiven : ¬ Refuses s fs (blockSize size) := fun hno => absurd (hno hav x hx) (by omega)
  right
  refine ⟨Memheap.allocEnd (takeBlock s x (blockSize size) (memitemSize s.memory x)), x, ?_⟩
  simp only [if_pos hn]
  obtain ⟨pre, y, post, hbs, hnext, -⟩ := h.shape.exists_next_of_free hx
  obtain ⟨l, r, hfs⟩ := List.append_of_mem hx
  have hnot : ¬ Busy bs fs hi x := fun hb => hb.2.1 hx
  have hmid : freeBytes s.memory fs = memitemSize s.memory x + freeBytes s.memory (l ++ r) := by
    rw [hfs]
    exact freeBytes_middle
  obtain ⟨-, hsx, hxy, hyhi⟩ :=
    (show Lists _ _ _ (pre ++ x :: y :: post) _ _ from hbs ▸ hlists).memitemSize_eq
      (hbs ▸ h.shape.tiles) h.shape.pool
  have hsmall := h.shape.pool.lt_word hyhi
  have hpool := h.shape.pool.small
  have hsum : add32 (add32 (blockSize size) memheapSize) memheapMinialloc =
      blockSize size + memheapSize + memheapMinialloc := by
    unfold IsWord at hword
    unfold add32 memheapSize memheapMinialloc at *
    omega
  by_cases hsplit : memitemSize s.memory x ≥ add32 (add32 (blockSize size) memheapSize) memheapMinialloc
  · -- the end of the block stays free
    rw [allocEnd_takeBlock_split hsplit, h.freeList_eq]
    rw [hsum] at hsplit
    unfold Before at hxy
    obtain ⟨m', hm', hshape, hbytes, hnext', hbusy⟩ := h.shape.takeSplit
      (y := x + blockSize size + memheapSize) hbs hfs
      (by unfold Before; omega) (by unfold Before; unfold memheapSize memheapMinialloc at *; omega)
    rw [← hm']
    have hcount : sub32 (sub32 s.availableSize (blockSize size)) memheapSize =
        freeBytes m' ((x + blockSize size + memheapSize) :: (l ++ r)) := by
      unfold sub32
      unfold IsWord at hword
      unfold memheapSize memheapMinialloc at *
      omega
    refine ⟨_, _, trivial, h.allocated hshape hcount, hgiven, ?_, hnot, hbusy⟩
    show blockSize size ≤ memitemSize m' x
    rw [memitemSize_eq hnext' (by unfold Before; omega)
      (by unfold memheapSize memheapMinialloc at *; omega)]
    omega
  · -- the whole block is taken
    rw [allocEnd_takeBlock_whole hsplit]
    obtain ⟨hshape, hbytes, hnext', hbusy⟩ := h.shape.take hfs
    have hcount : sub32 s.availableSize (memitemSize s.memory x) =
        freeBytes (put (detachFree s.memory x) x .magic (memheapMagic ||| memheapUsed)) (l ++ r) := by
      unfold sub32
      unfold IsWord at hword
      omega
    refine ⟨_, _, trivial, h.allocated hshape hcount, hgiven, ?_, hnot, hbusy⟩
    show blockSize size ≤
      memitemSize (put (detachFree s.memory x) x .magic (memheapMagic ||| memheapUsed)) x
    rw [memitemSize_congr hnext']
    exact hn

/-! ### Release -/

/-- A byte count as `rt_size_t` holds it. -/
def toWord (n : ℕ) : ℕ := n % 4294967296

lemma add32_toWord (a b : ℕ) : add32 (toWord a) b = toWord (a + b) := Nat.mod_add_mod a 4294967296 b

lemma toWord_of_isWord (ha : IsWord a) : toWord a = a := Nat.mod_eq_of_lt ha

/-- The heap with another memory and another byte count. -/
def withBlocks (s : RtMemheap) (m : ℕ → ℕ) (availableSize : ℕ) : RtMemheap :=
  { s with memory := m, availableSize := availableSize }

lemma mergeLeft_of_free (hp : ¬ IsUsed m (get m b .prev)) : mergeLeft (withBlocks s m a) b =
    (withBlocks s (unlinkBlock m b) (add32 a memheapSize), get (unlinkBlock m b) b .prev, false) := by
  unfold mergeLeft
  exact if_neg hp

lemma mergeLeft_of_used (hp : IsUsed m (get m b .prev)) :
    mergeLeft (withBlocks s m a) b = (withBlocks s m a, b, true) := by
  unfold mergeLeft
  exact if_pos hp

lemma mergeRight_of_free (hn : ¬ IsUsed m (get m b .next)) : mergeRight (withBlocks s m a) b =
    withBlocks s (removeFree (mergeNext m b (get m b .next)) (get m b .next))
      (add32 a memheapSize) := by
  unfold mergeRight
  exact if_neg hn

lemma mergeRight_of_used (hn : IsUsed m (get m b .next)) :
    mergeRight (withBlocks s m a) b = withBlocks s m a := by
  unfold mergeRight
  exact if_pos hn

lemma Rep.isWord_available (h : Rep s hi bs fs) : IsWord s.availableSize := by
  have hle := h.freeBytes_le h.shape
  have hav := h.available
  have hlt := h.poolSize_lt
  unfold IsWord at *
  omega

/-- The block is marked free and merged with the one before it, if that one is free. -/
lemma Rep.mergeLeft (h : Rep s hi bs fs) (hb : Busy bs fs hi b) : ∃ m₁ bs₁ c i,
    Memheap.mergeLeft (markFree s b) b = (withBlocks s m₁ (toWord (halfBytes m₁ fs c)), c, i) ∧
      Half m₁ s.addr s.freeHeader s.startAddr hi (s.freeHeader :: bs) bs₁ fs c ∧
      (i = true ↔ c ∉ fs) ∧ freeBytes s.memory fs ≤ halfBytes m₁ fs c ∧
      (∀ d ∈ bs, d ≠ c → get m₁ d .next = get s.memory d .next) ∧
      ∀ d, Busy bs₁ fs hi d ∧ d ≠ c ↔ Busy bs fs hi d ∧ d ≠ b := by
  obtain ⟨hbs, hbf, hbhi⟩ := hb
  have hlists := h.shape.lists
  obtain ⟨m₀, hm₀⟩ : ∃ m₀, m₀ = put s.memory b .magic (memheapMagic ||| memheapFreed) := ⟨_, rfl⟩
  obtain ⟨hmark, hsame⟩ := h.shape.marked hbs
  have hbin : b ∈ s.freeHeader :: bs := List.mem_cons_of_mem _ hbs
  have hprev : get m₀ b .prev = get s.memory b .prev := by
    rw [hm₀, get_put_mem hlists.apart hbin hbin, if_neg (by simp)]
  have hsize : memitemSize m₀ b = memitemSize s.memory b := by
    rw [hm₀]
    exact memitemSize_congr (hsame b hbin)
  have havail : add32 s.availableSize (memitemSize m₀ b) =
      toWord (freeBytes s.memory fs + memitemSize s.memory b) := by
    rw [hsize, ← add32_toWord, toWord_of_isWord (h.available ▸ h.isWord_available), h.available]
  have hstate : markFree s b = withBlocks s m₀ (add32 s.availableSize (memitemSize m₀ b)) := by
    rw [hm₀]
    rfl
  rw [hstate, havail]
  obtain ⟨hpb, hback⟩ := hlists.blockRing.prev_next hlists.blocks_nodup hbs
  have hne : get s.memory b .prev ≠ b := by
    intro heq
    obtain ⟨pre, n, post, hsplit⟩ := h.shape.tiles.exists_next hbs hbhi
    obtain ⟨hbn, -, hlt, -⟩ :=
      (show Lists _ _ _ (pre ++ b :: n :: post) _ _ from hsplit ▸ hlists).memitemSize_eq
        (hsplit ▸ h.shape.tiles) h.shape.pool
    rw [heq] at hback
    unfold Before memheapSize at hlt
    omega
  have hused : IsUsed m₀ (get m₀ b .prev) ↔ get s.memory b .prev ∉ fs := by
    rw [hprev, hm₀, hmark.isUsed_iff hpb, not_or]
    exact and_iff_right hne
  by_cases hp : get s.memory b .prev ∈ fs
  · -- the block before is free: it takes the block in
    obtain ⟨pre, n, post, hsplit, hnext, -⟩ := h.shape.exists_next_of_free hp
    rw [hback] at hnext
    rw [← hnext] at hsplit
    obtain ⟨k, r, hpost⟩ := (show Tiles s.startAddr hi ((pre ++ [get s.memory b .prev]) ++ b :: post) by
      rw [← List.append_cons, ← hsplit]
      exact h.shape.tiles).exists_behind hbhi
    rw [hpost] at hsplit
    obtain ⟨hhalf, hbytes, hheader, hkeep, hbusy⟩ := h.shape.mergeLeft hsplit hp
    rw [← hm₀] at hhalf hbytes hheader hkeep
    have hnot : ¬ IsUsed m₀ (get m₀ b .prev) := fun hu => hused.mp hu hp
    refine ⟨unlinkBlock m₀ b, _, get s.memory b .prev, false, ?_, hhalf, by simp [hp], by omega,
      hkeep, hbusy⟩
    rw [mergeLeft_of_free hnot, hbytes, add32_toWord, hheader]
  · obtain ⟨hhalf, hbytes⟩ := h.shape.markFree hbs hbf hbhi hp
    rw [← hm₀] at hhalf hbytes
    refine ⟨m₀, bs, b, true, ?_, hhalf, by simp [hbf], by omega, fun d hd _ => ?_, fun d => Iff.rfl⟩
    swap
    · rw [hm₀]
      exact hsame d (List.mem_cons_of_mem _ hd)
    rw [mergeLeft_of_used (hused.mpr hp), hbytes]

/-- The block is merged with the one behind it, if that one is free. -/
lemma Half.mergeRight_call {m₁ : ℕ → ℕ} {hs : List ℕ} {c : ℕ}
    (h : Half m₁ s.addr s.freeHeader s.startAddr hi hs bs fs c) : ∃ m₂ bs₂ fs₂,
    Memheap.mergeRight (withBlocks s m₁ (toWord (halfBytes m₁ fs c))) c =
        withBlocks s m₂ (toWord (halfBytes m₂ fs₂ c)) ∧
      Half m₂ s.addr s.freeHeader s.startAddr hi hs bs₂ fs₂ c ∧ get m₂ c .next ∉ fs₂ ∧
      (c ∈ fs₂ ↔ c ∈ fs) ∧ halfBytes m₁ fs c ≤ halfBytes m₂ fs₂ c ∧
      (∀ d ∈ hs, d ≠ c → get m₂ d .next = get m₁ d .next) ∧
      ∀ d, Busy bs₂ fs₂ hi d ∧ d ≠ c ↔ Busy bs fs hi d ∧ d ≠ c := by
  obtain ⟨pre, x, post, hsplit⟩ := h.tiles.exists_next h.block h.not_last
  obtain ⟨hnext, -, hlt, -⟩ :=
    (show Lists _ _ _ (pre ++ c :: x :: post) _ _ from hsplit ▸ h.lists).memitemSize_eq
      (hsplit ▸ h.tiles) h.pool
  have hxc : x ≠ c := by
    unfold Before memheapSize at hlt
    omega
  have hxb : x ∈ bs := by simp [hsplit]
  have hused : IsUsed m₁ (get m₁ c .next) ↔ x ∉ fs := by
    rw [hnext, h.lists.isUsed_iff hxb, not_or]
    exact and_iff_right hxc
  by_cases hx : x ∈ fs
  · have hxhi : x ≠ hi := fun heq => h.last_used (heq ▸ hx)
    obtain ⟨n, r', hpost⟩ := (show Tiles s.startAddr hi ((pre ++ [c]) ++ x :: post) by
      rw [← List.append_cons, ← hsplit]
      exact h.tiles).exists_behind hxhi
    rw [hpost] at hsplit
    obtain ⟨l, r, hfs⟩ := List.append_of_mem hx
    obtain ⟨m₂, hm₂, hhalf, hnext₂, hn, hcf, hbytes, hkeep, hbusy⟩ := h.mergeRight hsplit hfs
    have hnot : ¬ IsUsed m₁ (get m₁ c .next) := fun hu => hused.mp hu hx
    refine ⟨m₂, _, _, ?_, hhalf, hnext₂ ▸ hn, hcf, by omega, hkeep, hbusy⟩
    rw [mergeRight_of_free hnot, hbytes, add32_toWord, hm₂, hnext]
  · refine ⟨m₁, bs, fs, ?_, h, hnext ▸ hx, Iff.rfl, le_rfl, fun _ _ _ => rfl, fun d => Iff.rfl⟩
    rw [mergeRight_of_used (hused.mpr hx)]

/-- **The release of a block comes to an end.** -/
lemma Rep.free (h : Rep s hi bs fs) (hb : Busy bs fs hi b) : ∃ s' bs' fs',
    rtMemheapFree s (b + memheapSize) = some s' ∧ Rep s' hi bs' fs' ∧
      (∀ d, Busy bs' fs' hi d → memitemSize s'.memory d = memitemSize s.memory d) ∧
      ∀ d, Busy bs' fs' hi d ↔ Busy bs fs hi d ∧ d ≠ b := by
  obtain ⟨m₁, bs₁, c, i, hleft, hhalf₁, hi₁, hle₁, hkeep₁, hbusy₁⟩ := h.mergeLeft hb
  obtain ⟨m₂, bs₂, fs₂, hright, hhalf₂, hnext, hcf, hle₂, hkeep₂, hbusy₂⟩ :=
    hhalf₁.mergeRight_call
  have hsizes : ∀ d ∈ bs, d ≠ c → get m₂ d .next = get s.memory d .next := by
    intro d hd hdc
    rw [hkeep₂ d (List.mem_cons_of_mem _ hd) hdc, hkeep₁ d hd hdc]
  have hpool : get s.memory b .poolPtr = s.addr := h.shape.lists.poolPtr b hb.1
  unfold rtMemheapFree
  rw [if_neg (by unfold memheapSize rtNull; omega), Nat.add_sub_cancel, if_neg (not_not.mpr hpool)]
  rw [hleft]
  simp only [hright]
  have havail := h.available
  cases i with
  | true =>
    have hc : c ∉ fs₂ := fun hc => hi₁.mp rfl (hcf.mp hc)
    have hcin : c ∈ s.freeHeader :: bs := hhalf₂.lists.blocks_sub c hhalf₂.block
    have hcw : c ∉ s.freeHeader :: fs₂ := by
      intro hmem
      rcases List.mem_cons.mp hmem with heq | hmem
      · exact hhalf₂.tiles.ne_header hhalf₂.pool hhalf₂.block heq
      · exact hc hmem
    obtain ⟨hins, hkeep⟩ := hhalf₂.lists.insertedBefore hcin hcw
    obtain ⟨hshape, hbytes, hbusy⟩ := hhalf₂.insert hc hnext hins hkeep
    have hword : IsWord (halfBytes m₂ fs₂ c) := by
      have hle := h.freeBytes_le hshape
      have hlt := h.poolSize_lt
      unfold IsWord at *
      omega
    rw [if_pos rfl, toWord_of_isWord hword]
    have hbusy' : ∀ d, Busy bs₂ (c :: fs₂) hi d ↔ Busy bs fs hi d ∧ d ≠ b := by
      intro d
      rw [hbusy, hbusy₂, hbusy₁]
    refine ⟨withBlocks s (insertBefore m₂ (get m₂ s.freeHeader .nextFree) c) (halfBytes m₂ fs₂ c), bs₂,
      c :: fs₂, ?_, h.released hshape hbytes.symm (by omega), fun d hd => ?_, hbusy'⟩
    · show some (withBlocks s (insertBefore m₂ (get m₂ s.freeList .nextFree) c) _) = _
      rw [h.freeList_eq]
      rfl
    · have hdb := ((hbusy' d).mp hd).1.1
      refine memitemSize_congr ?_
      show get (insertBefore m₂ (get m₂ s.freeHeader .nextFree) c) d .next = _
      rw [hkeep d (List.mem_cons_of_mem _ hdb) .next (by decide) (by decide),
        hsizes d hdb ((hbusy d).mp hd).2]
  | false =>
    have hc : c ∈ fs₂ := hcf.mpr (by simpa using hi₁)
    obtain ⟨hshape, hbytes⟩ := hhalf₂.done hc hnext
    have hword : IsWord (halfBytes m₂ fs₂ c) := by
      have hle := h.freeBytes_le hshape
      have hlt := h.poolSize_lt
      unfold IsWord at *
      omega
    rw [if_neg (by decide), toWord_of_isWord hword]
    have hbusy' : ∀ d, Busy bs₂ fs₂ hi d ↔ Busy bs fs hi d ∧ d ≠ b := by
      intro d
      rw [← hbusy₁, ← hbusy₂]
      constructor
      · intro hd
        exact ⟨hd, fun heq => hd.2.1 (heq ▸ hc)⟩
      · exact And.left
    refine ⟨_, bs₂, fs₂, rfl, h.released hshape hbytes.symm (by omega), fun d hd => ?_, hbusy'⟩
    exact memitemSize_congr (hsizes d ((hbusy' d).mp hd).1.1 fun heq => hd.2.1 (heq ▸ hc))

/-! ### Reallocation -/

/-- What is written in the payload of a block in use changes no header. -/
lemma Rep.store (h : Rep s hi bs fs) (hb : Busy bs fs hi b)
    (hm : ∀ a, m' a ≠ s.memory a →
      b + memheapSize ≤ a ∧ a + 4 ≤ b + memheapSize + memitemSize s.memory b) :
    Rep { s with memory := m' } hi bs fs ∧ ∀ d ∈ bs, memitemSize m' d = memitemSize s.memory d := by
  obtain ⟨pre, n, post, hsplit⟩ := h.shape.tiles.exists_next hb.1 hb.2.2
  have htiles : Tiles s.startAddr hi (pre ++ b :: n :: post) := hsplit ▸ h.shape.tiles
  obtain ⟨-, hsize, hbn, hnhi⟩ :=
    (show Lists _ _ _ (pre ++ b :: n :: post) _ _ from hsplit ▸ h.shape.lists).memitemSize_eq
      htiles h.shape.pool
  have hlo := h.shape.tiles.head_le hb.1
  have hout := h.shape.pool.outside
  have hfar : ∀ j ∈ s.freeHeader :: bs, j + memheapSize ≤ b ∨ j = b ∨ n ≤ j := by
    intro j hj
    rcases List.mem_cons.mp hj with hj | hj
    · omega
    · have hp := htiles.pairwise
      rw [hsplit] at hj
      rw [List.append_cons, List.pairwise_append] at hp
      rw [List.append_cons, List.mem_append, List.mem_append, List.mem_singleton] at hj
      rcases hj with (hj | hj) | hj
      · left
        have hp' := htiles.pairwise
        rw [List.pairwise_append] at hp'
        exact hp'.2.2 j hj b (List.mem_cons_self ..)
      · exact .inr (.inl hj)
      · rcases List.mem_cons.mp hj with hj | hj
        · exact .inr (.inr hj.ge)
        · have hnj := List.rel_of_pairwise_cons hp.2.1 hj
          unfold Before at hnj
          omega
  have hsame : ∀ j ∈ s.freeHeader :: bs, ∀ g, get m' j g = get s.memory j g := by
    intro j hj g
    by_contra hne
    obtain ⟨hge, hle⟩ := hm _ hne
    have hg := g.offset_lt
    have hj' := hfar j hj
    unfold Before at hbn
    omega
  have hsizes : ∀ d ∈ bs, memitemSize m' d = memitemSize s.memory d :=
    fun d hd => memitemSize_congr (hsame d (List.mem_cons_of_mem _ hd) .next)
  refine ⟨⟨h.shape.congr hsame, h.last_eq, h.poolSize_lt, h.blockList_eq, h.freeList_eq, ?_, h.maxUsed,
    h.used_le⟩, hsizes⟩
  show s.availableSize = freeBytes m' fs
  rw [h.available]
  exact (freeBytes_congr fun f hf => hsame f (List.mem_cons_of_mem _ (h.shape.sub f hf)) .next).symm

/-- What resizing the block `b` leads to: the block at `x`, which is `b` or was not in use and has `size`
bytes, takes its place. -/
def Resizes (hi : ℕ) (bs fs : List ℕ) (size b : ℕ) (s' : RtMemheap) (x : ℕ) : Prop :=
  ∃ bs' fs', Rep s' hi bs' fs' ∧ size ≤ memitemSize s'.memory x ∧ (x = b ∨ ¬ Busy bs fs hi x) ∧
    ∀ d, Busy bs' fs' hi d ↔ d = x ∨ Busy bs fs hi d ∧ d ≠ b

lemma growBlock_eq {nextPtr oldsize : ℕ} : growBlock s b nextPtr newsize oldsize =
    allocated s
      (insertFree (splitBlock s.addr (removeNextPtr s.memory nextPtr) b (b + memheapSize + newsize))
        s.freeList (b + memheapSize + newsize))
      (sub32 s.availableSize (sub32 newsize oldsize)) := by
  have hstep : ∀ t, t = updateMaxUsed
      { s with availableSize := sub32 s.availableSize (sub32 newsize oldsize) } →
      growBlock s b nextPtr newsize oldsize = allocEnd
        { t with
          memory := insertFree
            (splitBlock t.addr (removeNextPtr t.memory nextPtr) b (b + memheapSize + newsize))
            t.freeList (b + memheapSize + newsize) } := by
    rintro t rfl
    rfl
  rw [hstep _ (updateMaxUsed_eq _).symm]
  simp only [allocEnd, allocated]

/-- The block behind is free and large enough: its header is moved. -/
lemma Rep.grow (h : Rep s hi bs fs) (hb : Busy bs fs hi b) (hn : get s.memory b .next ∈ fs)
    (hgt : newsize > memitemSize s.memory b)
    (hroom : memitemSize s.memory (get s.memory b .next) + memitemSize s.memory b >
      newsize + memheapMinialloc) :
    Resizes hi bs fs newsize b
      (growBlock s b (get s.memory b .next) newsize (memitemSize s.memory b)) b := by
  obtain ⟨pre, x, post, hsplit⟩ := h.shape.tiles.exists_next hb.1 hb.2.2
  obtain ⟨hbx, hsb, hltbx, -⟩ :=
    (show Lists _ _ _ (pre ++ b :: x :: post) _ _ from hsplit ▸ h.shape.lists).memitemSize_eq
      (hsplit ▸ h.shape.tiles) h.shape.pool
  rw [hbx] at hn hroom ⊢
  have hxhi : x ≠ hi := fun heq => h.shape.last_used (heq ▸ hn)
  have hmid : Tiles s.startAddr hi ((pre ++ [b]) ++ x :: post) := by
    rw [← List.append_cons, ← hsplit]
    exact h.shape.tiles
  obtain ⟨n, r', hpost⟩ := hmid.exists_behind hxhi
  rw [hpost] at hsplit hmid
  obtain ⟨hxn, hsx, hltxn, hnhi⟩ :=
    (show Lists _ _ _ ((pre ++ [b]) ++ x :: n :: r') _ _ by
      rw [← List.append_cons, ← hsplit]
      exact h.shape.lists).memitemSize_eq hmid h.shape.pool
  have hnf : n ∉ fs := hxn ▸ h.shape.coalesced x hn
  obtain ⟨l, r, hfs⟩ := List.append_of_mem hn
  have hmem := mem_without (hfs ▸ h.shape.fs_nodup)
  rw [hsx, hsb] at hroom
  unfold Before at hltbx hltxn
  obtain ⟨hshape, hbytes, hbusy⟩ := h.shape.absorb hsplit hfs
  have hbf : b ∉ l ++ r := fun hmemb => hb.2.1 (hfs ▸ ((hmem b).mp hmemb).1)
  obtain ⟨y, hy⟩ : ∃ y, y = b + memheapSize + newsize := ⟨_, rfl⟩
  obtain ⟨hhalf, hyf, hnext, hkeep, hsize, hbusy'⟩ := hshape.splitUsed (y := y) rfl hbf
    (by unfold Before; omega) (by unfold Before; unfold memheapMinialloc at hroom; omega)
  have hyin : y ∈ s.freeHeader :: (pre ++ b :: y :: n :: r') := List.mem_cons_of_mem _ (by simp)
  have hyw : y ∉ s.freeHeader :: (l ++ r) := by
    intro hmemy
    rcases List.mem_cons.mp hmemy with heq | hmemy
    · exact hhalf.tiles.ne_header hhalf.pool hhalf.block heq
    · exact hyf hmemy
  obtain ⟨hins, hkeeps⟩ := hhalf.lists.inserted hyin hyw
  have hnl : n ∉ l ++ r := fun hmemn => hnf (hfs ▸ ((hmem n).mp hmemn).1)
  obtain ⟨hshape', hbytes', hbusy''⟩ := hhalf.insert hyf (by rw [hnext]; exact hnl) hins hkeeps
  have hcount : sub32 s.availableSize (sub32 newsize (memitemSize s.memory b)) =
      freeBytes (insertFree (splitBlock s.addr (removeNextPtr s.memory x) b y) s.freeHeader y)
        (y :: (l ++ r)) := by
    have hword := h.isWord_available
    have hsmall := h.shape.pool.lt_word hnhi
    rw [hbytes']
    unfold halfBytes
    rw [List.erase_of_not_mem hyf, hkeep, hsize]
    have havail := h.available
    rw [hsb] at hgt ⊢
    rw [hsx] at hbytes
    unfold IsWord at hword
    unfold sub32
    unfold memheapSize memheapMinialloc at *
    omega
  rw [growBlock_eq, ← hy, h.freeList_eq]
  refine ⟨_, _, h.allocated hshape' hcount, ?_, .inl rfl, fun d => ?_⟩
  · obtain ⟨-, hgrown, -⟩ := hshape'.lists.memitemSize_eq hshape'.tiles hshape'.pool
    exact le_of_le_of_eq (by omega) hgrown.symm
  rw [hbusy'', hbusy', hbusy]
  constructor
  · intro hd
    by_cases hdb : d = b
    · exact .inl hdb
    · exact .inr ⟨hd, hdb⟩
  · rintro (rfl | hd)
    · exact hb
    · exact hd.1

lemma shrinkBlock_of_used {y : ℕ} (hy : y = b + newsize + memheapSize)
    (hm : m = splitBlock s.addr s.memory b y) (hn : IsUsed m (get m y .next)) :
    shrinkBlock s b newsize = withBlocks s (insertFree m s.freeList y)
      (add32 s.availableSize (memitemSize (insertFree m s.freeList y) y)) := by
  subst hy hm
  unfold shrinkBlock
  simp only [if_pos hn]
  rfl

lemma shrinkBlock_of_free {y : ℕ} (hy : y = b + newsize + memheapSize)
    (hm : m = splitBlock s.addr s.memory b y) (hn : ¬ IsUsed m (get m y .next))
    (hm' : m' = removeFree (mergeNext m y (get m y .next)) (get m y .next)) :
    shrinkBlock s b newsize = withBlocks s (insertFree m' s.freeList y)
      (add32 (sub32 s.availableSize (memitemSize m (get m y .next)))
        (memitemSize (insertFree m' s.freeList y) y)) := by
  subst hy hm hm'
  unfold shrinkBlock
  simp only [if_neg hn]
  rfl

/-- The end of the block is cut off. -/
lemma Rep.shrink (h : Rep s hi bs fs) (hb : Busy bs fs hi b)
    (hlt : newsize + memheapSize + memheapMinialloc < memitemSize s.memory b) :
    Resizes hi bs fs newsize b (shrinkBlock s b newsize) b := by
  obtain ⟨pre, n, post, hsplit⟩ := h.shape.tiles.exists_next hb.1 hb.2.2
  obtain ⟨-, hsb, hltbn, hnhi⟩ :=
    (show Lists _ _ _ (pre ++ b :: n :: post) _ _ from hsplit ▸ h.shape.lists).memitemSize_eq
      (hsplit ▸ h.shape.tiles) h.shape.pool
  rw [hsb] at hlt
  unfold Before at hltbn
  obtain ⟨y, hy⟩ : ∃ y, y = b + newsize + memheapSize := ⟨_, rfl⟩
  obtain ⟨m₁, hm₁⟩ : ∃ m₁, m₁ = splitBlock s.addr s.memory b y := ⟨_, rfl⟩
  obtain ⟨hhalf, hyf, hnext, hkeep, hsize, hbusy⟩ := h.shape.splitUsed (y := y) hsplit hb.2.1
    (by unfold Before; omega) (by unfold Before; omega)
  rw [← hm₁] at hhalf hnext hkeep hsize
  have hyb : ¬ Busy bs fs hi y := fun hy' => ((hbusy y).mpr hy').2 rfl
  have hyn : y ≠ n := by
    unfold memheapSize at *
    omega
  have hused : IsUsed m₁ (get m₁ y .next) ↔ n ∉ fs := by
    rw [hnext, hhalf.lists.isUsed_iff (by simp), not_or]
    exact and_iff_right hyn.symm
  have hword := h.isWord_available
  have havail := h.available
  -- what both cases end with: the new block goes to the front of the free list
  have hfinish : ∀ m₂ bs₂ fs₂ a, Half m₂ s.addr s.freeHeader s.startAddr hi
      (s.freeHeader :: (pre ++ b :: y :: n :: post)) bs₂ fs₂ y → get m₂ y .next ∉ fs₂ → y ∉ fs₂ →
      (∃ post', bs₂ = pre ++ b :: y :: post') → (∀ d, Busy bs₂ fs₂ hi d ∧ d ≠ y ↔ Busy bs fs hi d) →
      a + memitemSize m₂ y = halfBytes m₂ fs₂ y → s.availableSize ≤ halfBytes m₂ fs₂ y →
      Resizes hi bs fs newsize b (withBlocks s (insertFree m₂ s.freeList y)
        (add32 a (memitemSize (insertFree m₂ s.freeList y) y))) b := by
    rintro m₂ _ fs₂ a hhalf₂ hnext₂ hyf₂ ⟨post', rfl⟩ hbusy₂ ha hle
    have hyin : y ∈ s.freeHeader :: (pre ++ b :: y :: n :: post) := List.mem_cons_of_mem _ (by simp)
    have hyw : y ∉ s.freeHeader :: fs₂ := by
      intro hmemy
      rcases List.mem_cons.mp hmemy with heq | hmemy
      · exact hhalf₂.tiles.ne_header hhalf₂.pool hhalf₂.block heq
      · exact hyf₂ hmemy
    obtain ⟨hins, hkeeps⟩ := hhalf₂.lists.inserted hyin hyw
    obtain ⟨hshape, hbytes, hbusy'⟩ := hhalf₂.insert hyf₂ hnext₂ hins hkeeps
    have hsame : memitemSize (insertFree m₂ s.freeHeader y) y = memitemSize m₂ y :=
      memitemSize_congr (hkeeps y hyin .next (by decide) (by decide))
    have hbound := h.freeBytes_le hshape
    have hpool := h.poolSize_lt
    have hsum : IsWord (a + memitemSize m₂ y) := by
      unfold IsWord at *
      omega
    rw [h.freeList_eq, hsame, add32_of_lt hsum, ha]
    refine ⟨_, _, h.released hshape hbytes.symm hle, ?_, .inl rfl, fun d => ?_⟩
    · obtain ⟨-, hcut, -⟩ := hshape.lists.memitemSize_eq hshape.tiles hshape.pool
      exact le_of_le_of_eq (by omega) hcut.symm
    rw [hbusy', hbusy₂]
    constructor
    · intro hd
      by_cases hdb : d = b
      · exact .inl hdb
      · exact .inr ⟨hd, hdb⟩
    · rintro (rfl | hd)
      · exact hb
      · exact hd.1
  by_cases hn : n ∈ fs
  · -- the block behind is free: the new block takes it in
    have hmid : Tiles s.startAddr hi ((pre ++ [b]) ++ n :: post) := by
      rw [← List.append_cons, ← hsplit]
      exact h.shape.tiles
    obtain ⟨k, r', hpost⟩ := hmid.exists_behind fun heq => h.shape.last_used (heq ▸ hn)
    obtain ⟨l, r, hfs⟩ := List.append_of_mem hn
    have hbs₁ : pre ++ b :: y :: n :: post = (pre ++ [b]) ++ y :: n :: k :: r' := by
      rw [hpost]
      simp
    obtain ⟨m₂, hm₂, hhalf₂, hnext₂, hk, hyf₂, hbytes, hsame, hbusy₂⟩ := hhalf.mergeRight hbs₁ hfs
    have hnot : ¬ IsUsed m₁ (get m₁ y .next) := fun hu => hused.mp hu hn
    have hy₂ : y ∉ l ++ r := fun hmem => hyf (hyf₂.mp hmem)
    rw [← hnext] at hm₂
    rw [shrinkBlock_of_free hy hm₁ hnot hm₂, hnext]
    have hin₂ : ∀ f ∈ l ++ r, f ∈ s.freeHeader :: (pre ++ b :: y :: n :: post) := by
      intro f hf
      refine hhalf.lists.frees_sub f (List.mem_cons_of_mem _ ?_)
      rw [hfs]
      exact ((mem_without (hfs ▸ h.shape.fs_nodup)) f).mp hf |>.1
    have hrest : freeBytes m₂ (l ++ r) = freeBytes m₁ (l ++ r) :=
      freeBytes_congr fun f hf => hsame f (hin₂ f hf) fun heq => hy₂ (heq ▸ hf)
    have hmiddle : freeBytes m₁ fs = memitemSize m₁ n + freeBytes m₁ (l ++ r) := by
      rw [hfs]
      exact freeBytes_middle
    have hhalfBytes : halfBytes m₂ (l ++ r) y = memitemSize m₂ y + freeBytes m₂ (l ++ r) := by
      unfold halfBytes
      rw [List.erase_of_not_mem hy₂]
    have hold : halfBytes m₁ fs y = memitemSize m₁ y + freeBytes m₁ fs := by
      unfold halfBytes
      rw [List.erase_of_not_mem hyf]
    have hcount : sub32 s.availableSize (memitemSize m₁ n) + memitemSize m₂ y =
        halfBytes m₂ (l ++ r) y := by
      rw [sub32_of_le (by omega) hword]
      omega
    refine hfinish m₂ _ _ _ hhalf₂ (hnext₂ ▸ hk) hy₂ ⟨k :: r', by simp⟩ ?_ hcount (by omega)
    intro d
    rw [hbusy₂, hbusy]
  · have hpos := hused.mpr hn
    rw [shrinkBlock_of_used hy hm₁ hpos]
    have hhalfBytes : halfBytes m₁ fs y = memitemSize m₁ y + freeBytes m₁ fs := by
      unfold halfBytes
      rw [List.erase_of_not_mem hyf]
    exact hfinish m₁ _ _ _ hhalf (hnext ▸ hn) hyf ⟨n :: post, rfl⟩ hbusy (by omega) (by omega)

/-- The block is replaced by a new one, or stays if there is none. -/
lemma Rep.move (h : Rep s hi bs fs) (hb : Busy bs fs hi b) (hle : newsize ≤ blockSize newsize) :
    moveBlock s (b + memheapSize) newsize (memitemSize s.memory b) =
        some (Memheap.allocEnd s, rtNull) ∧ Refuses s fs (blockSize newsize) ∨
    ∃ s' x, moveBlock s (b + memheapSize) newsize (memitemSize s.memory b) =
        some (s', x + memheapSize) ∧ ¬ Refuses s fs (blockSize newsize) ∧
      Resizes hi bs fs (blockSize newsize) b s' x := by
  unfold moveBlock
  rcases h.alloc_cases newsize with
    ⟨hcall, hno⟩ | ⟨s₁, x, bs₁, fs₁, hcall, hrep, hgiven, hroom, hnot, hbusy⟩
  · rw [hcall]
    exact .inl ⟨if_pos rfl, hno⟩
  have hx : Busy bs₁ fs₁ hi x := (hbusy x).mpr (.inl rfl)
  have hxb : x ≠ b := fun heq => hnot (heq ▸ hb)
  obtain ⟨m₁, hm₁⟩ : ∃ m₁, m₁ = rtMemcpy s₁.memory (x + memheapSize) (b + memheapSize)
      (if memitemSize s.memory b < newsize then memitemSize s.memory b else newsize) := ⟨_, rfl⟩
  have hin : ∀ a, m₁ a ≠ s₁.memory a →
      x + memheapSize ≤ a ∧ a + 4 ≤ x + memheapSize + memitemSize s₁.memory x := by
    intro a ha
    rw [hm₁] at ha
    unfold rtMemcpy at ha
    split_ifs at ha with hrange hrange
    · omega
    · exact absurd rfl ha
    · omega
    · exact absurd rfl ha
  obtain ⟨hrep', hsizes⟩ := hrep.store hx hin
  obtain ⟨s₂, bs₂, fs₂, hfree, hrep₂, hsizes₂, hbusy₂⟩ := hrep'.free ((hbusy b).mpr (.inr hb))
  have hx₂ : Busy bs₂ fs₂ hi x := (hbusy₂ x).mpr ⟨hx, hxb⟩
  refine .inr ⟨s₂, x, ?_, hgiven, bs₂, fs₂, hrep₂, ?_, .inr hnot, ?_⟩
  · rw [hcall]
    simp only [← hm₁]
    rw [if_neg (by unfold memheapSize rtNull; omega), hfree]
    rfl
  · rw [hsizes₂ x hx₂]
    exact le_of_le_of_eq hroom (hsizes x hx.1).symm
  · intro d
    rw [hbusy₂, hbusy]
    constructor
    · rintro ⟨hd | hd, hdb⟩
      · exact .inl hd
      · exact .inr ⟨hd, hdb⟩
    · rintro (rfl | hd)
      · exact ⟨.inl rfl, hxb⟩
      · exact ⟨.inr hd.1, hd.2⟩

/-- A block in use and two headers fit into the address space. -/
lemma Rep.memitemSize_le (h : Rep s hi bs fs) (hb : Busy bs fs hi b) :
    b + memheapSize + memitemSize s.memory b + memheapSize ≤ s.startAddr + s.poolSize ∧
      memitemSize s.memory b + 2 * memheapSize ≤ 4294967296 := by
  obtain ⟨pre, n, post, hsplit⟩ := h.shape.tiles.exists_next hb.1 hb.2.2
  obtain ⟨-, hsize, hbn, hnhi⟩ :=
    (show Lists _ _ _ (pre ++ b :: n :: post) _ _ from hsplit ▸ h.shape.lists).memitemSize_eq
      (hsplit ▸ h.shape.tiles) h.shape.pool
  have hsmall := h.shape.pool.small
  have hlast := h.last_eq
  unfold Before at hbn
  omega

/-- The block behind is free, and the code takes the two for large enough. -/
def Grows (s : RtMemheap) (b size : ℕ) : Prop :=
  ¬ IsUsed s.memory (get s.memory b .next) ∧
    add32 (memitemSize s.memory (get s.memory b .next)) (memitemSize s.memory b) >
      add32 size memheapMinialloc

/-- The block is too small, cannot grow, and cannot be replaced. -/
def Stuck (s : RtMemheap) (fs : List ℕ) (b size : ℕ) : Prop :=
  memitemSize s.memory b < size ∧ ¬ Grows s b size ∧ Refuses s fs size

lemma blockSize_le (size : ℕ) : blockSize size ≤ 4294967288 := by
  unfold blockSize rtAlign add32 memheapMinialloc
  split_ifs <;> omega

lemma blockSize_blockSize (size : ℕ) : blockSize (blockSize size) = blockSize size := by
  unfold blockSize rtAlign add32 memheapMinialloc
  split_ifs <;> omega

/-- A block that the code takes for large enough together with the free one behind it. -/
lemma rtMemheapRealloc_grows (hpos : newsize ≠ 0) (hlt : memitemSize s.memory b < blockSize newsize)
    (hg : Grows s b (blockSize newsize)) : rtMemheapRealloc s (b + memheapSize) newsize =
      some (growBlock s b (get s.memory b .next) (blockSize newsize) (memitemSize s.memory b),
        b + memheapSize) := by
  have hnull : b + memheapSize ≠ rtNull := by
    unfold memheapSize rtNull
    omega
  unfold rtMemheapRealloc
  simp only [if_neg hpos, if_neg hnull, Nat.add_sub_cancel]
  rw [if_pos hlt]
  exact if_pos hg

/-- **What a reallocation does**, if the test for growth does not overflow: it comes to an end; nothing
happens, or a block that is large enough takes the place of the one given. -/
lemma Rep.realloc_cases (h : Rep s hi bs fs) (hb : Busy bs fs hi b) (hpos : newsize ≠ 0)
    (hover : IsWord (blockSize newsize + memheapMinialloc) ∨ ¬ Grows s b (blockSize newsize)) :
    rtMemheapRealloc s (b + memheapSize) newsize = some (Memheap.allocEnd s, rtNull) ∧
        Stuck s fs b (blockSize newsize) ∨
    ∃ s' x, rtMemheapRealloc s (b + memheapSize) newsize = some (s', x + memheapSize) ∧
      ¬ Stuck s fs b (blockSize newsize) ∧ Resizes hi bs fs (blockSize newsize) b s' x := by
  have hnull : b + memheapSize ≠ rtNull := by
    unfold memheapSize rtNull
    omega
  obtain ⟨n, hn⟩ : ∃ n, n = blockSize newsize := ⟨_, rfl⟩
  have hself : blockSize n = n := by
    rw [hn, blockSize_blockSize]
  have hmax : n ≤ 4294967288 := hn ▸ blockSize_le newsize
  have hused := h.shape.isUsed_iff (h.shape.next_mem hb.1)
  by_cases hgt : n > memitemSize s.memory b
  · by_cases hg : Grows s b n
    · -- the block grows over the header behind it
      right
      rw [← hn] at hover
      have hfree : get s.memory b .next ∈ fs := by
        by_contra hno
        exact hg.1 (hused.mpr hno)
      have hroom := hg.2
      rw [add32_of_lt (hover.resolve_right (not_not.mpr hg))] at hroom
      have hle : add32 (memitemSize s.memory (get s.memory b .next)) (memitemSize s.memory b) ≤
          memitemSize s.memory (get s.memory b .next) + memitemSize s.memory b := Nat.mod_le ..
      rw [← hn]
      refine ⟨_, b, ?_, fun hstuck => hstuck.2.1 hg, h.grow hb hfree hgt (by omega)⟩
      rw [rtMemheapRealloc_grows hpos (hn ▸ hgt) (hn ▸ hg), ← hn]
    · -- it is replaced
      have hcall : rtMemheapRealloc s (b + memheapSize) newsize =
          moveBlock s (b + memheapSize) n (memitemSize s.memory b) := by
        unfold rtMemheapRealloc
        simp only [if_neg hpos, if_neg hnull, Nat.add_sub_cancel, ← hn]
        rw [if_pos hgt]
        exact if_neg hg
      rw [hcall, ← hn]
      rcases h.move hb hself.ge with ⟨hmove, hno⟩ | ⟨s', x, hmove, hgiven, hres⟩
      · rw [hself] at hno
        exact .inl ⟨hmove, hgt, hg, hno⟩
      · rw [hself] at hgiven hres
        exact .inr ⟨s', x, hmove, fun hstuck => hgiven hstuck.2.2, hres⟩
  · right
    have hnot : ¬ Stuck s fs b n := fun hstuck => hgt hstuck.1
    have hcall : rtMemheapRealloc s (b + memheapSize) newsize =
        if add32 (add32 n memheapSize) memheapMinialloc ≥ memitemSize s.memory b then
          some (s, b + memheapSize)
        else some (shrinkBlock s b n, b + memheapSize) := by
      unfold rtMemheapRealloc
      simp only [if_neg hpos, if_neg hnull, Nat.add_sub_cancel, ← hn]
      exact if_neg hgt
    rw [hcall, ← hn]
    by_cases hsmall : add32 (add32 n memheapSize) memheapMinialloc ≥ memitemSize s.memory b
    · rw [if_pos hsmall]
      refine ⟨s, b, rfl, hnot, bs, fs, h, Nat.le_of_not_lt hgt, .inl rfl, fun d => ?_⟩
      by_cases hdb : d = b
      · rw [hdb]
        exact iff_of_true hb (.inl rfl)
      · simp [hdb]
    · rw [if_neg hsmall]
      refine ⟨_, b, rfl, hnot, h.shrink hb ?_⟩
      have hfit := h.memitemSize_le hb
      have hsum : add32 (add32 n memheapSize) memheapMinialloc =
          n + memheapSize + memheapMinialloc := by
        unfold add32 memheapSize memheapMinialloc at *
        omega
      omega

end N32L43x.Memheap
