import N32L43x.Mem.Release

/-!
`rt_smem_alloc` and `rt_smem_realloc` on the list of blocks: the search from the hint finds the first
free block that is large enough, a block that is much larger is split, and the hint moves on to the
next free block if its own was taken.
-/

namespace N32L43x.Mem

variable {m : SmallMem} {k l bs : List Blk} {b : Blk} {size : ℕ}

/-! ### The loops -/

/-- **The loop along the chain.**  If it stops at the end of a segment it stops at the first place
where it can: before it the test fails at every block. -/
lemma follow_spec {item : ℕ → MemItem} {stop : ℕ → Bool} : ∀ {l : List Blk} {p o q e fuel : ℕ},
    Seg item p o l q e → stop e = true → l.length < fuel →
    ∃ l₁ l₂, l = l₁ ++ l₂ ∧ follow item stop fuel o = some (o + total l₁) ∧
      stop (o + total l₁) = true ∧
      ∀ k₁ c k₂, l₁ = k₁ ++ c :: k₂ → stop (o + total k₁) = false
  | [], p, o, q, e, fuel + 1, h, he, _ => by
    obtain ⟨-, rfl⟩ := h
    refine ⟨[], [], rfl, by simp [follow, he], by simpa using he, ?_⟩
    intro k₁ c k₂ hnil
    simp at hnil
  | b :: l, p, o, q, e, fuel + 1, h, he, hfuel => by
    by_cases hstop : stop o = true
    · refine ⟨[], b :: l, rfl, by simp [follow, hstop], by simpa using hstop, ?_⟩
      intro k₁ c k₂ hnil
      simp at hnil
    · have hlen : l.length < fuel := by simpa using hfuel
      obtain ⟨l₁, l₂, rfl, hfollow, hat, hbefore⟩ := follow_spec h.2 he hlen
      refine ⟨b :: l₁, l₂, rfl, ?_, ?_, ?_⟩
      · simp only [follow, hstop]
        rw [h.1.next, total_cons, ← Nat.add_assoc]
        exact hfollow
      · rw [total_cons, ← Nat.add_assoc]
        exact hat
      · intro k₁ c k₂ hcons
        rcases k₁ with _ | ⟨b', k₁⟩
        · simpa using hstop
        · obtain ⟨rfl, htail⟩ : b = b' ∧ l₁ = k₁ ++ c :: k₂ := by simpa using hcons
          rw [total_cons, ← Nat.add_assoc]
          exact hbefore k₁ c k₂ htail

lemma Linked.length_lt_fuel (h : Linked m (k ++ l)) : l.length < loopFuel m := by
  have hlen := length_le_total l
  have htotal := h.total_eq
  rw [total_append] at htotal
  unfold loopFuel
  omega

/-- A loop of the heap that starts behind `k`. -/
lemma Linked.follow (h : Linked m (k ++ l)) {stop : ℕ → Bool} (hstop : stop (heapEnd m) = true) :
    ∃ l₁ l₂, l = l₁ ++ l₂ ∧ follow m.item stop (loopFuel m) (total k) = some (total (k ++ l₁)) ∧
      stop (total (k ++ l₁)) = true ∧
      ∀ k₁ c k₂, l₁ = k₁ ++ c :: k₂ → stop (total (k ++ k₁)) = false := by
  obtain ⟨q, hseg⟩ := h.seg
  obtain ⟨r, -, hl⟩ := seg_append.mp hseg
  rw [Nat.zero_add] at hl
  obtain ⟨l₁, l₂, hsplit, hfollow, hat, hbefore⟩ := follow_spec hl hstop h.length_lt_fuel
  refine ⟨l₁, l₂, hsplit, ?_, ?_, ?_⟩
  · rw [total_append]
    exact hfollow
  · rw [total_append]
    exact hat
  · intro k₁ c k₂ hcons
    rw [total_append]
    exact hbefore k₁ c k₂ hcons

/-- The loop that moves the hint past used blocks finds the first free one. -/
lemma Linked.follow_lfree (h : Linked m (k ++ l)) (hk : ∀ c ∈ k, c.used = true) :
    Mem.follow m.item (lfreeStop m) (loopFuel m) (total k) = some (firstFree (k ++ l)) := by
  have hend : lfreeStop m (heapEnd m) = true := by simp [lfreeStop]
  obtain ⟨l₁, l₂, rfl, hfollow, hat, hbefore⟩ := h.follow hend
  have hl₁ : ∀ c ∈ l₁, c.used = true := by
    intro c hc
    obtain ⟨k₁, k₂, rfl⟩ := List.append_of_mem hc
    have hno := hbefore k₁ c k₂ rfl
    have hassoc : k ++ (k₁ ++ c :: k₂ ++ l₂) = (k ++ k₁) ++ c :: (k₂ ++ l₂) := by simp
    rw [hassoc] at h
    have hused := h.isused_eq
    unfold lfreeStop at hno
    rw [hused] at hno
    by_contra hfree
    simp [hfree] at hno
  rw [hfollow, ← List.append_assoc, firstFree_append]
  · have hrest : firstFree l₂ = 0 := by
      cases l₂ with
      | nil => rfl
      | cons c l₂ =>
        rw [← List.append_assoc] at h
        have hused := h.isused_eq
        have hne : total (k ++ l₁) ≠ heapEnd m := by
          have htotal := h.total_eq
          have hsize := c.size_ge
          rw [total_append, total_cons] at htotal
          omega
        unfold lfreeStop at hat
        rw [hused] at hat
        have hfree : c.used = false := by
          rw [decide_eq_true hne, Bool.and_true] at hat
          simpa using hat
        simp [firstFree, hfree]
    rw [hrest, Nat.add_zero]
  · intro c hc
    rcases List.mem_append.mp hc with hc | hc
    · exact hk c hc
    · exact hl₁ c hc

/-! ### Splitting a block -/

/-- The front of a block that is split behind `size` bytes of data. -/
def Blk.front (b : Blk) (size : ℕ) (h : size % 8 = 0) : Blk :=
  ⟨b.used, size + 16, Nat.le_add_left _ _, by omega⟩

/-- The free rest of it. -/
def Blk.rest (b : Blk) (size : ℕ) (h : size % 8 = 0) (hsize : size + 32 ≤ b.size) : Blk :=
  ⟨false, b.size - (size + 16), by unfold sizeofStructMem; omega, by have := b.aligned; omega⟩

lemma splitBlock_fields (m : SmallMem) (ptr size : ℕ) :
    (splitBlock m ptr size).memSizeAligned = m.memSizeAligned ∧
      (splitBlock m ptr size).heapPtr = m.heapPtr ∧ (splitBlock m ptr size).used = m.used ∧
      (splitBlock m ptr size).lfree = m.lfree ∧ (splitBlock m ptr size).max = m.max := by
  unfold splitBlock
  dsimp only
  split <;> exact ⟨rfl, rfl, rfl, rfl, rfl⟩

section SplitBlock

variable {ptr ptr2 nx : ℕ} (hptr2 : add32 (add32 ptr sizeofStructMem) size = ptr2)
  (hnx : (m.item ptr).next = nx) (h₁ : ptr2 ≠ ptr) (h₂ : nx ≠ ptr) (h₃ : nx ≠ ptr2)

include hptr2 hnx h₁

lemma splitBlock_item_of_ne {x : ℕ} (hx₁ : x ≠ ptr) (hx₂ : x ≠ ptr2)
    (hx₃ : x = nx → nx = heapEnd m) : (splitBlock m ptr size).item x = m.item x := by
  unfold splitBlock setPrev setNext setItem
  rw [hptr2, hnx]
  simp only [Function.update_of_ne h₁, Function.update_self]
  split
  · rename_i hend
    have hx : x ≠ nx := fun hx => hend (hx₃ hx)
    simp only [Function.update_of_ne hx, Function.update_of_ne hx₁, Function.update_of_ne hx₂]
  · simp only [Function.update_of_ne hx₁, Function.update_of_ne hx₂]

include h₂ in
lemma splitBlock_item_ptr :
    (splitBlock m ptr size).item ptr = { m.item ptr with next := ptr2 } := by
  unfold splitBlock setPrev setNext setItem
  rw [hptr2, hnx]
  simp only [Function.update_of_ne h₁, Function.update_self]
  split
  · simp only [Function.update_of_ne h₂.symm, Function.update_self, Function.update_of_ne h₁.symm]
  · simp only [Function.update_self, Function.update_of_ne h₁.symm]

include h₃ in
lemma splitBlock_item_ptr2 : (splitBlock m ptr size).item ptr2 = ⟨.freed, nx, ptr⟩ := by
  unfold splitBlock setPrev setNext setItem
  rw [hptr2, hnx]
  simp only [Function.update_of_ne h₁, Function.update_self]
  split
  · simp only [Function.update_of_ne h₃.symm, Function.update_self, Function.update_of_ne h₁]
  · simp only [Function.update_self, Function.update_of_ne h₁]

include h₂ h₃ in
lemma splitBlock_item_next (hend : nx ≠ heapEnd m) :
    (splitBlock m ptr size).item nx = { m.item nx with prev := ptr2 } := by
  unfold splitBlock setPrev setNext setItem
  rw [hptr2, hnx]
  simp only [Function.update_of_ne h₁, Function.update_self]
  split
  · simp only [Function.update_self, Function.update_of_ne h₂, Function.update_of_ne h₃]
  · rename_i hne
    exact absurd hend hne

end SplitBlock

/-- **Splitting.**  The last block leaves the end of the heap alone. -/
lemma Linked.splitBlock (h : Linked m (k ++ b :: l)) (hal : size % 8 = 0)
    (hfit : size + 32 ≤ b.size) :
    Linked (splitBlock m (total k) size) (k ++ b.front size hal :: b.rest size hal hfit :: l) := by
  obtain ⟨p, q, hk, hb, hl⟩ := h.split
  have hend := h.end_ge
  have hbound := h.bound
  obtain ⟨hmsa, hptr, -, -, -⟩ := splitBlock_fields m (total k) size
  have hheap : heapEnd m = m.memSizeAligned + 16 := rfl
  have hend' : heapEnd (Mem.splitBlock m (total k) size) = heapEnd m := by
    unfold heapEnd
    rw [hmsa]
  have hptr2 : add32 (add32 (total k) sizeofStructMem) size = total k + (size + 16) := by
    unfold sizeofStructMem
    rw [add32_of_lt (a := total k) (by omega), add32_of_lt (by omega)]
    omega
  have hat := splitBlock_item_ptr hptr2 hb.next (by omega) (by omega)
  have hat2 := splitBlock_item_ptr2 hptr2 hb.next (by omega) (by omega)
  have haway : ∀ x, x ≠ total k → x ≠ total k + (size + 16) → (x = total k + b.size →
      total k + b.size = heapEnd m) → (Mem.splitBlock m (total k) size).item x = m.item x :=
    fun x => splitBlock_item_of_ne hptr2 hb.next (by omega)
  constructor
  · have htail : ∃ q', Seg (Mem.splitBlock m (total k) size).item (total k + (size + 16))
        (total k + b.size) l q' (heapEnd m) := by
      cases l with
      | nil => exact ⟨_, rfl, hl.2⟩
      | cons c l' =>
        rw [total_cons] at hend
        have hsc := c.size_ge
        have hafter := splitBlock_item_next hptr2 hb.next (by omega) (by omega) (by omega)
          (by omega)
        exact hl.reprev hafter fun x hx _ => haway x (by omega) (by omega) (by omega)
    obtain ⟨q', hl'⟩ := htail
    have hpos : total k + (b.front size hal).size + (b.rest size hal hfit).size =
        total k + b.size := by
      simp only [Blk.front, Blk.rest]
      omega
    rw [hend']
    refine ⟨q', seg_join (p := p) ?_ ⟨?_, ?_, ?_⟩ ⟨⟨?_, ?_, ?_⟩, ?_⟩⟩
    · exact hk.congr fun x _ hx => haway x (by omega) (by omega) (by omega)
    · rw [hat]
      exact hb.used
    · rw [hat]
      rfl
    · rw [hat]
      exact hb.prev
    · have hused := congrArg (fun it => decide (it.poolPtr = .used)) hat2
      exact hused
    · have hnext := congrArg MemItem.next hat2
      exact hnext.trans hpos.symm
    · exact congrArg MemItem.prev hat2
    · rw [hpos]
      exact hl'
  · unfold memIsused
    rw [hend', haway (heapEnd m) (by omega) (by omega) fun heq => heq.symm]
    exact h.endUsed
  · rw [hptr]
    exact h.aligned
  · rw [hmsa]
    exact h.bound

/-! ### Taking a block -/

lemma Linked.dataSize_eq (h : Linked m (k ++ b :: l)) : dataSize m (total k) = b.size - 16 := by
  have hend := h.end_ge
  have hbound := h.bound
  have hsize := b.size_ge
  unfold dataSize sizeofStructMem
  rw [h.next_eq, add32_of_lt (by omega), sub32_of_le (by omega) (by omega)]
  omega

lemma firstFree_eq_total_iff : firstFree k = total k ↔ ∀ c ∈ k, c.used = true := by
  constructor
  · intro heq c hc
    by_contra hfree
    have hlt := (firstFree_append_of_exists ⟨c, hc, by simpa using hfree⟩ []).2
    omega
  · intro hall
    unfold firstFree
    rw [List.takeWhile_eq_self_iff.mpr hall]

lemma noFreePair_mark (h : NoFreePair (k ++ b :: l)) {u : Blk} (hu : u.used = true)
    {l' : List Blk} (hl' : NoFreePair l') : NoFreePair (k ++ u :: l') := by
  unfold NoFreePair at *
  rw [List.isChain_append, List.isChain_cons] at h ⊢
  refine ⟨h.1, ⟨fun c _ => .inl hu, hl'⟩, fun a _ c hc => ?_⟩
  obtain rfl : u = c := by simpa using hc
  exact .inr hu

/-- What is left to do once the block is marked: the hint moves on if its block was taken. -/
lemma Linked.advance {m₁ : SmallMem} {u : Blk} {l' : List Blk} (h : Linked m₁ (k ++ u :: l'))
    (hold : m₁.lfree = firstFree k) (hused : m₁.used = usedTotal (k ++ u :: l'))
    (hpair : NoFreePair (k ++ u :: l')) :
    ∃ m', (if total k = m₁.lfree then
        (Mem.follow m₁.item (lfreeStop m₁) (loopFuel m₁) m₁.lfree).map fun lfree =>
          { m₁ with lfree := lfree }
        else some m₁) = some m' ∧ Rep m' (k ++ u :: l') := by
  by_cases hlfree : total k = m₁.lfree
  · have hall : ∀ c ∈ k, c.used = true := firstFree_eq_total_iff.mp (by omega)
    refine ⟨{ m₁ with lfree := firstFree (k ++ u :: l') }, ?_,
      ⟨⟨h.of_item _ rfl rfl rfl, rfl, hused⟩, hpair⟩⟩
    rw [if_pos hlfree, ← hlfree, h.follow_lfree hall]
    rfl
  · refine ⟨m₁, if_neg hlfree, ⟨⟨h, ?_, hused⟩, hpair⟩⟩
    have hex : ∃ c ∈ k, c.used = false := by
      by_contra hall
      push Not at hall
      refine hlfree ?_
      rw [hold, eq_comm, firstFree_eq_total_iff]
      intro c hc
      simpa using hall c hc
    rw [hold]
    exact (firstFree_append_of_exists hex _).1.symm

/-- Taking a free block that is much larger: it is split. -/
lemma Rep.takeBlock_split (h : Rep m (k ++ b :: l)) (hb : b.used = false) (hal : size % 8 = 0)
    (hfit : size + 48 ≤ b.size) :
    ∃ m', takeBlock m (total k) size = some m' ∧
      Rep m' (k ++ (b.front size hal).mark true :: b.rest size hal (by omega) :: l) := by
  have hend := h.toLinked.end_ge
  have hbound := h.bound
  have hlfree := h.lfree
  rw [firstFree_append_free k l hb] at hlfree
  obtain ⟨-, hl, -, hhead⟩ := (noFreePair_free hb).mp h.noFreePair
  have hle := usedTotal_le k
  have hle' := usedTotal_le l
  have hsize : add32 size sizeofStructMem = size + 16 := add32_of_lt (b := 16) (by omega)
  have hcond : dataSize m (total k) ≥ add32 (add32 size sizeofStructMem) minSizeAligned := by
    have hmin : add32 (size + 16) minSizeAligned = size + 32 := add32_of_lt (b := 16) (by omega)
    rw [h.toLinked.dataSize_eq, hsize, hmin]
    omega
  obtain ⟨-, -, hused, hhint, -⟩ := splitBlock_fields m (total k) size
  have hlink := ((h.toLinked.splitBlock hal (by omega)).of_item
    (addUsed (splitBlock m (total k) size) (size + 16)) rfl rfl rfl).setPoolPtr .used
  have hcount : add32 m.used (size + 16) =
      usedTotal (k ++ (b.front size hal).mark true :: b.rest size hal (by omega) :: l) := by
    have hsum : usedTotal (k ++ (b.front size hal).mark true :: b.rest size hal (by omega) :: l) =
        usedTotal k + (size + 16 + usedTotal l) := by
      simp [usedTotal_cons, Blk.rest, Blk.mark, Blk.front]
    have hold : m.used = usedTotal k + usedTotal l := by
      rw [h.used]
      simp [usedTotal_cons, hb]
    rw [hold, hsum, add32_of_lt (by omega)]
    omega
  have hrest : NoFreePair (b.rest size hal (by omega) :: l) :=
    (noFreePair_free (k := []) rfl).mpr ⟨List.isChain_nil, hl, by simp, hhead⟩
  unfold Mem.takeBlock
  rw [if_pos hcond, hsize]
  refine hlink.advance (hhint.trans hlfree) ?_ (noFreePair_mark h.noFreePair rfl hrest)
  show add32 (splitBlock m (total k) size).used (size + 16) = _
  rw [hused]
  exact hcount

/-- Taking a free block that fits. -/
lemma Rep.takeBlock_whole (h : Rep m (k ++ b :: l)) (hb : b.used = false)
    (hfit : size + 16 ≤ b.size) (hsmall : b.size < size + 48) :
    ∃ m', takeBlock m (total k) size = some m' ∧ Rep m' (k ++ b.mark true :: l) := by
  have hend := h.toLinked.end_ge
  have hbound := h.bound
  have hlfree := h.lfree
  rw [firstFree_append_free k l hb] at hlfree
  obtain ⟨-, hl⟩ := noFreePair_sides h.noFreePair
  have hle := usedTotal_le k
  have hle' := usedTotal_le l
  have hcond : ¬ dataSize m (total k) ≥ add32 (add32 size sizeofStructMem) minSizeAligned := by
    have hsize : add32 size sizeofStructMem = size + 16 := add32_of_lt (b := 16) (by omega)
    have hmin : add32 (size + 16) minSizeAligned = size + 32 := add32_of_lt (b := 16) (by omega)
    rw [h.toLinked.dataSize_eq, hsize, hmin]
    omega
  have hnext : sub32 (m.item (total k)).next (total k) = b.size := by
    rw [h.toLinked.next_eq, sub32_of_le (by omega) (by omega)]
    omega
  have hlink := (h.toLinked.of_item (addUsed m b.size) rfl rfl rfl).setPoolPtr .used
  have hcount : add32 m.used b.size = usedTotal (k ++ b.mark true :: l) := by
    have hsum : usedTotal (k ++ b.mark true :: l) = usedTotal k + (b.size + usedTotal l) := by
      simp [usedTotal_cons, Blk.mark]
    have hold : m.used = usedTotal k + usedTotal l := by
      rw [h.used]
      simp [usedTotal_cons, hb]
    rw [hold, hsum, add32_of_lt (by omega)]
    omega
  unfold Mem.takeBlock
  rw [if_neg hcond, hnext]
  exact hlink.advance hlfree hcount (noFreePair_mark h.noFreePair rfl hl)

/-- **Taking a free block** adds one payload to the list and leaves the others where they are. -/
theorem Rep.takeBlock (h : Rep m (k ++ b :: l)) (hb : b.used = false) (hal : size % 8 = 0)
    (hfit : size + 16 ≤ b.size) :
    ∃ m' bs c, takeBlock m (total k) size = some m' ∧ Rep m' bs ∧ size ≤ c ∧
      payloads 0 bs = payloads 0 k ++ (total k + 16, c) :: payloads (total k + b.size) l := by
  by_cases hsplit : size + 48 ≤ b.size
  · obtain ⟨m', hm', hrep⟩ := h.takeBlock_split hb hal hsplit
    refine ⟨m', _, size, hm', hrep, le_rfl, ?_⟩
    rw [payloads_used rfl]
    have hpos : total k + ((b.front size hal).mark true).size +
        (b.rest size hal (by omega)).size = total k + b.size := by
      simp only [Blk.mark, Blk.front, Blk.rest]
      omega
    have hskip : payloads (total k + ((b.front size hal).mark true).size)
        (b.rest size hal (by omega) :: l) = payloads (total k + b.size) l := by
      rw [← hpos]
      simp [payloads, Blk.rest]
    have hlen : ((b.front size hal).mark true).size - 16 = size := by
      simp only [Blk.mark, Blk.front]
      omega
    rw [hskip, hlen]
  · obtain ⟨m', hm', hrep⟩ := h.takeBlock_whole hb hfit (by omega)
    refine ⟨m', _, b.size - 16, hm', hrep, by omega, ?_⟩
    rw [payloads_used rfl]
    rfl

/-! ### `rt_smem_alloc` -/

lemma rtAlign_spec {n : ℕ} (h : n < 4294967296 - 8) :
    rtAlign n % 8 = 0 ∧ n ≤ rtAlign n ∧ (rtAlign n = 0 ↔ n = 0) := by
  unfold rtAlign add32
  omega

/-- The search finds a free block that is large enough, or reports that there is none. -/
lemma Rep.search (h : Rep m bs) (hsize : size ≤ m.memSizeAligned) :
    ∃ ptr, follow m.item (allocStop m size) (loopFuel m) m.lfree = some ptr ∧
      (ptr ≤ sub32 m.memSizeAligned size → ∃ k b l, bs = k ++ b :: l ∧ ptr = total k ∧
        b.used = false ∧ size + 16 ≤ b.size) := by
  have hbound := h.bound
  have hsub : sub32 m.memSizeAligned size = m.memSizeAligned - size :=
    sub32_of_le hsize (by omega)
  set k := bs.takeWhile Blk.used with hk
  have hsplit : bs = k ++ bs.dropWhile Blk.used := List.takeWhile_append_dropWhile.symm
  have hlfree : m.lfree = total k := h.lfree
  have hlink := h.toLinked
  rw [hsplit] at hlink
  have hend : allocStop m size (heapEnd m) = true := by
    have hout : ¬ heapEnd m ≤ sub32 m.memSizeAligned size := by
      rw [hsub]
      unfold heapEnd sizeofStructMem
      omega
    simp [allocStop, hout]
  obtain ⟨l₁, l₂, hl, hfollow, hat, -⟩ := hlink.follow hend
  refine ⟨total (k ++ l₁), by rw [hlfree]; exact hfollow, fun hin => ?_⟩
  rw [hl, ← List.append_assoc] at hlink hsplit
  cases l₂ with
  | nil =>
    have htotal := hlink.total_eq
    rw [List.append_nil] at htotal
    rw [htotal, hsub] at hin
    unfold heapEnd sizeofStructMem at hin
    omega
  | cons b l =>
    have hdata := hlink.dataSize_eq
    have hsb := b.size_ge
    simp only [allocStop, hlink.isused_eq, hdata, hin, not_true_eq_false, decide_false,
      Bool.false_or, Bool.and_eq_true, beq_iff_eq, decide_eq_true_eq] at hat
    exact ⟨k ++ l₁, b, l, hsplit, rfl, hat.1, by omega⟩

/-- **Allocating** always returns: null with nothing changed, or the new payload of a block that has
room for the bytes asked for, with the other payloads where they were. -/
theorem Rep.alloc (h : Rep m bs) {n : ℕ} (hn : n < 4294967296 - 8) :
    rtSmemAlloc m n = some (m, none) ∨
    ∃ m' bs' p c k l, rtSmemAlloc m n = some (m', some p) ∧ Rep m' bs' ∧ n ≤ c ∧
      payloads 0 bs = k ++ l ∧ payloads 0 bs' = k ++ (p, c) :: l := by
  obtain ⟨hal, hge, -⟩ := rtAlign_spec hn
  have hbound := h.bound
  unfold rtSmemAlloc
  split
  · exact .inl rfl
  · dsimp only
    set size := if rtAlign n < minSizeAligned then minSizeAligned else rtAlign n with hsize
    have hal' : size % 8 = 0 ∧ n ≤ size := by
      rw [hsize]
      unfold minSizeAligned
      split <;> omega
    split
    · exact .inl rfl
    · rename_i hroom
      obtain ⟨ptr, hfollow, hfound⟩ := h.search (show size ≤ m.memSizeAligned by omega)
      rw [hfollow, Option.bind_some]
      by_cases hin : ptr ≤ sub32 m.memSizeAligned size
      · obtain ⟨k, b, l, rfl, rfl, hfree, hfit⟩ := hfound hin
        obtain ⟨m', bs', c, htake, hrep, hc, hpay⟩ := h.takeBlock hfree hal'.1 hfit
        right
        have hend := h.toLinked.end_ge
        have hp : add32 (total k) sizeofStructMem = total k + 16 := by
          unfold sizeofStructMem
          rw [add32_of_lt (by omega)]
        refine ⟨m', bs', total k + 16, c, payloads 0 k, payloads (total k + b.size) l, ?_, hrep,
          by omega, payloads_free hfree, hpay⟩
        rw [if_pos hin, htake, hp]
        rfl
      · left
        rw [if_neg hin]

end N32L43x.Mem
