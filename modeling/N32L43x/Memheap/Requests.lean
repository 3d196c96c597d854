import N32L43x.Memheap.Sound

/-!
What a request of the memory heap gets, for every size of 32 bits: whether a free block is found, how
large the block returned is, and what a failed request leaves behind.
-/

namespace N32L43x.Memheap

open N32L43x.Lib.Dll N32L43x.Lib.Run
open N32L43x.Mem (add32 sub32 rtAlign)

variable {s s' : RtMemheap} {hi size newsize n k : ℕ} {bs fs : List ℕ} {b p x : ℕ}

/-! ### What a request asks for -/

/-- A block is reached from the first one. -/
inductive IsBlock (s : RtMemheap) : ℕ → Prop
  | first : IsBlock s s.blockList
  | next {b : ℕ} : IsBlock s b → IsBlock s (get s.memory b .next)

def FreeBlock (s : RtMemheap) (b : ℕ) : Prop := IsBlock s b ∧ ¬ IsUsed s.memory b

/-- A size rounded up to `RT_ALIGN_SIZE` and `RT_MEMHEAP_MINIALLOC`, without overflow. -/
def roundUp (n : ℕ) : ℕ := if (n + 7) / 8 * 8 < memheapMinialloc then memheapMinialloc else (n + 7) / 8 * 8

/-- `p` is the payload of a block in use, which has `n` bytes before the end of the pool. -/
def Room (s : RtMemheap) (p n : ℕ) : Prop :=
  ∃ b, p = b + memheapSize ∧ IsBlock s b ∧ IsUsed s.memory b ∧ n ≤ memitemSize s.memory b ∧
    p + n + memheapSize ≤ s.startAddr + s.poolSize

/-- The blocks, the free list and the byte count are the same. -/
def Unchanged (s s' : RtMemheap) : Prop :=
  s'.memory = s.memory ∧ s'.blockList = s.blockList ∧ s'.freeList = s.freeList ∧
    s'.availableSize = s.availableSize

/-- A request comes to an end.  It is granted if and only if a free block is large enough, what is
returned is large enough, and a request that fails changes nothing. -/
def Served (s : System) : Action → Prop
  | .alloc n => ∃ heap p, rtMemheapAlloc s.heap n = some (heap, p) ∧
      (p ≠ rtNull ↔ ∃ b, FreeBlock s.heap b ∧ roundUp n ≤ memitemSize s.heap.memory b) ∧
      (p ≠ rtNull → Room heap p n) ∧ (p = rtNull → n ≠ 0 → Unchanged s.heap heap)
  | .realloc ptr n => ∃ heap p, rtMemheapRealloc s.heap ptr n = some (heap, p) ∧
      (p ≠ rtNull → Room heap p n) ∧ (p = rtNull → n ≠ 0 → Unchanged s.heap heap)
  | .free _ => True
  | .store _ _ => True

/-- Calls on live blocks or with `RT_NULL`, with sizes of 32 bits, and stores into live blocks. -/
def Requested (s : System) : Action → Prop
  | .alloc size => IsWord size
  | .realloc ptr newsize => (ptr ∈ s.live ∨ ptr = rtNull) ∧ IsWord newsize
  | .free ptr => ptr ∈ s.live ∨ ptr = rtNull
  | .store a _ =>
    ∃ ptr ∈ s.live, ptr ≤ a ∧ a + 4 ≤ ptr + memitemSize s.heap.memory (ptr - memheapSize)

/-! ### When it is served -/

/-- There are no more than `k` bytes, or no free block has that many. -/
def Refused (s : RtMemheap) (k : ℕ) : Prop :=
  k < s.availableSize → ∀ b, FreeBlock s b → memitemSize s.memory b < k

/-- One free block has `k` bytes, and these are all there are. -/
def ExactFit (s : RtMemheap) (k : ℕ) : Prop :=
  s.availableSize = k ∧ ∃ b, FreeBlock s b ∧ memitemSize s.memory b = k

/-- An allocation of a size that can be rounded up in 32 bits is not for exactly the bytes there are; a
size that cannot, which the code takes for the smallest one, is refused.  So is a reallocation of such a
size, or of one for which the test for growth overflows. -/
def Fine (s : System) : Action → Prop
  | .alloc n => n ≤ 4294967288 ∧ ¬ ExactFit s.heap (roundUp n) ∨
      4294967288 < n ∧ Refused s.heap memheapMinialloc
  | .realloc ptr n =>
    if ptr = rtNull then n ≤ 4294967288 ∨ Refused s.heap memheapMinialloc
    else n ≤ 4294967272 ∨
      memitemSize s.heap.memory (ptr - memheapSize) < blockSize n ∧
        ¬ Grows s.heap (ptr - memheapSize) (blockSize n) ∧ Refused s.heap (blockSize n)
  | .free _ => True
  | .store _ _ => True

/-! ### The blocks -/

lemma isBlock_of_linked : ∀ (l : List ℕ) (a : ℕ), IsBlock s a →
    Linked (fun b => get s.memory b .next) (fun b => get s.memory b .prev) (a :: l) →
    ∀ b ∈ a :: l, IsBlock s b
  | [], a, ha, _, b, hb => List.mem_singleton.mp hb ▸ ha
  | c :: l, a, ha, hl, b, hb => by
    rcases List.mem_cons.mp hb with rfl | hb
    · exact ha
    · have hc : get s.memory a .next = c := (List.isChain_cons_cons.mp hl).1.1
      exact isBlock_of_linked l c (hc ▸ ha.next) (List.IsChain.tail hl) b hb

lemma Rep.isBlock_iff (h : Rep s hi bs fs) (b : ℕ) : IsBlock s b ↔ b ∈ bs := by
  constructor
  · intro hb
    induction hb with
    | first =>
      rw [h.blockList_eq]
      exact List.mem_of_head? h.shape.tiles.head
    | next _ ih => exact h.shape.next_mem ih
  · intro hb
    obtain ⟨l, hl⟩ := List.head?_eq_some_iff.mp h.shape.tiles.head
    have hlinked := h.shape.lists.blockRing.linked
    rw [hl] at hb hlinked
    exact isBlock_of_linked l s.startAddr (h.blockList_eq ▸ .first) hlinked b hb

lemma Rep.freeBlock_iff (h : Rep s hi bs fs) (b : ℕ) : FreeBlock s b ↔ b ∈ fs := by
  unfold FreeBlock
  rw [h.isBlock_iff]
  constructor
  · rintro ⟨hb, hu⟩
    by_contra hno
    exact hu ((h.shape.isUsed_iff hb).mpr hno)
  · intro hb
    exact ⟨h.shape.sub b hb, fun hu => (h.shape.isUsed_iff (h.shape.sub b hb)).mp hu hb⟩

lemma Rep.refused_iff (h : Rep s hi bs fs) (k : ℕ) : Refused s k ↔ Refuses s fs k := by
  unfold Refused Refuses
  simp only [h.freeBlock_iff]

lemma Rep.le_available (h : Rep s hi bs fs) (hb : b ∈ fs) : memitemSize s.memory b ≤ s.availableSize := by
  rw [h.available, freeBytes_erase hb]
  exact Nat.le_add_right ..

/-- A block in use has room for its size. -/
lemma Rep.room (h : Rep s hi bs fs) (hb : Busy bs fs hi x) (hle : n ≤ memitemSize s.memory x) :
    Room s (x + memheapSize) n := by
  have hfit := (h.memitemSize_le hb).1
  exact ⟨x, rfl, (h.isBlock_iff x).mpr hb.1, (h.shape.isUsed_iff hb.1).mpr hb.2.1, hle, by omega⟩

lemma Rep.end_le (h : Rep s hi bs fs) : s.startAddr + s.poolSize ≤ 4294967296 := by
  have hsmall := h.shape.pool.small
  have hlast := h.last_eq
  omega

lemma not_room (hend : s.startAddr + s.poolSize ≤ 4294967296) (hn : 4294967272 < n) : ¬ Room s p n := by
  rintro ⟨b, rfl, -, -, -, hle⟩
  unfold memheapSize at hle
  omega

lemma unchanged_allocEnd (s : RtMemheap) : Unchanged s (allocEnd s) := ⟨rfl, rfl, rfl, rfl⟩

/-! ### The sizes -/

lemma blockSize_eq_roundUp (hn : n ≤ 4294967288) : blockSize n = roundUp n := by
  have hsum : rtAlign n = (n + 7) / 8 * 8 := by
    unfold rtAlign add32
    omega
  unfold blockSize roundUp
  rw [hsum]

lemma blockSize_of_overflow (hn : 4294967288 < n) (hw : IsWord n) : blockSize n = memheapMinialloc := by
  have hsum : rtAlign n = 0 := by
    unfold rtAlign add32
    unfold IsWord at hw
    omega
  unfold blockSize
  rw [hsum]
  exact if_pos (by decide)

lemma le_roundUp (n : ℕ) : n ≤ roundUp n := by
  unfold roundUp memheapMinialloc
  split_ifs <;> omega

lemma memitemSize_lt (m : ℕ → ℕ) (b : ℕ) : memitemSize m b < 4294967296 := by
  unfold memitemSize sub32
  omega

lemma lt_roundUp_of_overflow (hn : 4294967288 < n) (m : ℕ → ℕ) (b : ℕ) : memitemSize m b < roundUp n := by
  have hlt := memitemSize_lt m b
  unfold roundUp memheapMinialloc
  split_ifs <;> omega

lemma isWord_of_le (hn : n ≤ 4294967272) : IsWord (blockSize n + memheapMinialloc) := by
  rw [blockSize_eq_roundUp (by omega)]
  unfold IsWord roundUp memheapMinialloc
  split_ifs <;> omega

/-! ### The requests -/

/-- An allocation is served if and only if its size is fine. -/
lemma Rep.served_alloc (h : Rep s hi bs fs) (live : List ℕ) (hn : IsWord n) :
    Served ⟨s, live⟩ (.alloc n) ↔ Fine ⟨s, live⟩ (.alloc n) := by
  unfold Served Fine
  simp only [h.refused_iff, h.freeBlock_iff, ExactFit]
  rcases h.alloc_cases n with
    ⟨hcall, hno⟩ | ⟨s', x, bs', fs', hcall, hrep, hgiven, hroom, -, hbusy⟩
  · -- the request is refused
    have hserved : (∃ heap p, rtMemheapAlloc s n = some (heap, p) ∧
        (p ≠ rtNull ↔ ∃ b, b ∈ fs ∧ roundUp n ≤ memitemSize s.memory b) ∧
        (p ≠ rtNull → Room heap p n) ∧ (p = rtNull → n ≠ 0 → Unchanged s heap)) ↔
        ∀ b ∈ fs, memitemSize s.memory b < roundUp n := by
      rw [hcall]
      constructor
      · rintro ⟨heap, p, heq, hiff, -⟩ b hb
        obtain ⟨-, rfl⟩ := Prod.mk.inj (Option.some.inj heq)
        by_contra hge
        exact hiff.mpr ⟨b, hb, Nat.le_of_not_lt hge⟩ rfl
      · intro hall
        refine ⟨_, _, rfl, ?_, fun hp => absurd rfl hp, fun _ _ => unchanged_allocEnd s⟩
        refine iff_of_false (fun hp => hp rfl) ?_
        rintro ⟨b, hb, hge⟩
        exact absurd (hall b hb) (Nat.not_lt_of_le hge)
    rw [hserved]
    by_cases hsmall : n ≤ 4294967288
    · rw [blockSize_eq_roundUp hsmall] at hno
      constructor
      · intro hall
        refine .inl ⟨hsmall, ?_⟩
        rintro ⟨-, b, hb, heq⟩
        exact absurd (hall b hb) (heq ▸ lt_irrefl _)
      · rintro (⟨-, hexact⟩ | ⟨hlarge, -⟩) b hb
        · -- a block that is large enough has all the bytes there are
          by_contra hge
          have hle := h.le_available hb
          by_cases hlt : roundUp n < s.availableSize
          · exact hge (hno hlt b hb)
          · exact hexact ⟨by omega, b, hb, by omega⟩
        · omega
    · have hlarge := Nat.lt_of_not_le hsmall
      rw [blockSize_of_overflow hlarge hn] at hno
      exact iff_of_true (fun b _ => lt_roundUp_of_overflow hlarge s.memory b) (.inr ⟨hlarge, hno⟩)
  · -- a block is given out
    have hnull : x + memheapSize ≠ rtNull := by
      unfold rtNull memheapSize
      omega
    by_cases hsmall : n ≤ 4294967288
    · rw [blockSize_eq_roundUp hsmall] at hgiven hroom
      unfold Refuses at hgiven
      push Not at hgiven
      obtain ⟨hlt, b, hb, hge⟩ := hgiven
      refine iff_of_true ?_ (.inl ⟨hsmall, fun hexact => absurd hexact.1 hlt.ne'⟩)
      refine ⟨s', _, hcall, iff_of_true hnull ⟨b, hb, hge⟩, fun _ => ?_, fun hp => absurd hp hnull⟩
      exact hrep.room ((hbusy x).mpr (.inl rfl)) ((le_roundUp n).trans hroom)
    · have hlarge := Nat.lt_of_not_le hsmall
      rw [blockSize_of_overflow hlarge hn] at hgiven
      refine iff_of_false ?_ ?_
      · rintro ⟨heap, p, heq, hiff, -⟩
        rw [hcall] at heq
        obtain ⟨-, rfl⟩ := Prod.mk.inj (Option.some.inj heq)
        obtain ⟨b, -, hge⟩ := hiff.mp hnull
        exact absurd (lt_roundUp_of_overflow hlarge s.memory b) (Nat.not_lt_of_le hge)
      · rintro (⟨hle, -⟩ | ⟨-, hno⟩)
        · exact hsmall hle
        · exact hgiven hno

/-- What `Served` says of a reallocation that returns `p`. -/
lemma served_realloc_iff {heap : RtMemheap} {ptr : ℕ} {live : List ℕ}
    (hcall : rtMemheapRealloc s ptr n = some (heap, p)) : Served ⟨s, live⟩ (.realloc ptr n) ↔
      (p ≠ rtNull → Room heap p n) ∧ (p = rtNull → n ≠ 0 → Unchanged s heap) := by
  unfold Served
  simp only [hcall]
  constructor
  · rintro ⟨heap', p', heq, hs⟩
    obtain ⟨rfl, rfl⟩ := Prod.mk.inj (Option.some.inj heq)
    exact hs
  · intro hs
    exact ⟨heap, p, rfl, hs⟩

/-- A reallocation of a live block. -/
lemma Rep.served_realloc (h : Rep s hi bs fs) (hb : Busy bs fs hi b) (live : List ℕ)
    (hpos : n ≠ 0) :
    Served ⟨s, live⟩ (.realloc (b + memheapSize) n) ↔ Fine ⟨s, live⟩ (.realloc (b + memheapSize) n) := by
  have hnull : ∀ y, y + memheapSize ≠ rtNull := by
    intro y
    unfold rtNull memheapSize
    omega
  have hfine : Fine ⟨s, live⟩ (.realloc (b + memheapSize) n) ↔
      n ≤ 4294967272 ∨ Stuck s fs b (blockSize n) := by
    simp only [Fine, Stuck, if_neg (hnull b), Nat.add_sub_cancel, h.refused_iff]
  rw [hfine]
  by_cases hover : IsWord (blockSize n + memheapMinialloc) ∨ ¬ Grows s b (blockSize n)
  · rcases h.realloc_cases hb hpos hover with
      ⟨hcall, hstuck⟩ | ⟨s', x, hcall, hstuck, bs', fs', hrep, hroom, -, hbusy⟩
    · rw [served_realloc_iff hcall]
      exact iff_of_true ⟨fun hp => absurd rfl hp, fun _ _ => unchanged_allocEnd s⟩ (.inr hstuck)
    · rw [served_realloc_iff hcall]
      by_cases hsmall : n ≤ 4294967272
      · rw [blockSize_eq_roundUp (by omega)] at hroom
        refine iff_of_true ⟨fun _ => ?_, fun hp => absurd hp (hnull x)⟩ (.inl hsmall)
        exact hrep.room ((hbusy x).mpr (.inl rfl)) ((le_roundUp n).trans hroom)
      · refine iff_of_false (fun hs => ?_) (fun hor => hor.elim hsmall hstuck)
        exact not_room hrep.end_le (Nat.lt_of_not_le hsmall) (hs.1 (hnull x))
  · -- the code takes the block behind for large enough
    rw [not_or, not_not] at hover
    obtain ⟨hword, hg⟩ := hover
    have hlarge : ¬ n ≤ 4294967272 := fun hle => hword (isWord_of_le hle)
    have hlt : memitemSize s.memory b < blockSize n := by
      have hfit := (h.memitemSize_le hb).2
      unfold IsWord memheapMinialloc at hword
      unfold memheapSize at hfit
      omega
    rw [served_realloc_iff (rtMemheapRealloc_grows hpos hlt hg)]
    refine iff_of_false (fun hs => ?_) (fun hor => hor.elim hlarge fun hstuck => hstuck.2.1 hg)
    have hroom := hs.1 (hnull b)
    rw [growBlock_eq] at hroom
    exact not_room (s := Memheap.allocated s _ _) h.end_le (Nat.lt_of_not_le hlarge) hroom

/-- A reallocation of `RT_NULL`. -/
lemma Rep.served_realloc_null (h : Rep s hi bs fs) (live : List ℕ) (hpos : n ≠ 0) (hn : IsWord n) :
    Served ⟨s, live⟩ (.realloc rtNull n) ↔ Fine ⟨s, live⟩ (.realloc rtNull n) := by
  have hfine : Fine ⟨s, live⟩ (.realloc rtNull n) ↔
      n ≤ 4294967288 ∨ Refuses s fs memheapMinialloc := by
    simp only [Fine, if_pos, h.refused_iff]
  have hcall : rtMemheapRealloc s rtNull n = rtMemheapAlloc s (blockSize n) := by
    unfold rtMemheapRealloc
    rw [if_neg hpos]
    exact if_pos rfl
  rw [hfine]
  rcases h.alloc_cases (blockSize n) with
    ⟨halloc, hno⟩ | ⟨s', x, bs', fs', halloc, hrep, hgiven, hroom, -, hbusy⟩
  · rw [served_realloc_iff (hcall.trans halloc)]
    rw [blockSize_blockSize] at hno
    refine iff_of_true ⟨fun hp => absurd rfl hp, fun _ _ => unchanged_allocEnd s⟩ ?_
    by_cases hsmall : n ≤ 4294967288
    · exact .inl hsmall
    · exact .inr (blockSize_of_overflow (Nat.lt_of_not_le hsmall) hn ▸ hno)
  · have hnull : x + memheapSize ≠ rtNull := by
      unfold rtNull memheapSize
      omega
    rw [served_realloc_iff (hcall.trans halloc)]
    rw [blockSize_blockSize] at hgiven hroom
    by_cases hsmall : n ≤ 4294967288
    · rw [blockSize_eq_roundUp hsmall] at hroom
      refine iff_of_true ⟨fun _ => ?_, fun hp => absurd hp hnull⟩ (.inl hsmall)
      exact hrep.room ((hbusy x).mpr (.inl rfl)) ((le_roundUp n).trans hroom)
    · have hlarge := Nat.lt_of_not_le hsmall
      rw [blockSize_of_overflow hlarge hn] at hgiven
      refine iff_of_false (fun hs => ?_) (fun hor => hor.elim hsmall hgiven)
      exact not_room hrep.end_le (by omega) (hs.1 hnull)

/-- A request is served if and only if it is fine. -/
lemma Inv.served_iff {s : System} (h : Inv s) {a : Action} (ha : Requested s a) :
    Served s a ↔ Fine s a := by
  cases a with
  | alloc n =>
    obtain ⟨hi, bs, fs, hrep, -⟩ := h
    exact hrep.served_alloc s.live ha
  | realloc ptr n =>
    obtain ⟨hp, hn⟩ := ha
    by_cases hpos : n = 0
    · -- the block is given back
      obtain ⟨heap, hcall, -⟩ := h.free hp
      have hfine : Fine s (.realloc ptr n) := by
        simp only [Fine, hpos]
        split_ifs <;> exact .inl (Nat.zero_le _)
      refine iff_of_true ⟨heap, rtNull, ?_, fun hp => absurd rfl hp, fun _ hno => absurd hpos hno⟩ hfine
      unfold rtMemheapRealloc
      rw [if_pos hpos, hcall]
      rfl
    obtain ⟨hi, bs, fs, hrep, hlive⟩ := h
    rcases hp with hp | rfl
    · obtain ⟨b, hb, rfl⟩ := (hlive.2 ptr).mp hp
      exact hrep.served_realloc hb s.live hpos
    · exact hrep.served_realloc_null s.live hpos hn
  | free ptr => exact Iff.rfl
  | store a value => exact Iff.rfl

/-- **Every request is served, in every state that is reached, if and only if it is fine.**  The steps
before it are calls on live blocks in which no growth overflows. -/
theorem requests_served_iff (addr freeHeader : ℕ) (m : ℕ → ℕ) (startAddr size : ℕ)
    (hsize : 2 * memheapSize + memheapMinialloc ≤ size) (hword : IsWord size)
    (hend : startAddr + size ≤ 4294967296)
    (hout : freeHeader + memheapSize ≤ startAddr ∨ startAddr + size ≤ freeHeader) (as : List Action)
    (s : System) (has : Along step Contained (System.init addr freeHeader m startAddr size) as)
    (hrun : exec step (System.init addr freeHeader m startAddr size) as = some s) (a : Action)
    (ha : Requested s a) : Served s a ↔ Fine s a := by
  have hstep : ∀ s a s', Inv s → Contained s a → step s a = some s' → Inv s' := by
    intro s a s' h hc hs
    obtain ⟨t, ht, hinv⟩ := h.step_contained a hc
    rw [hs] at ht
    obtain rfl := Option.some.inj ht
    exact hinv
  exact (exec_inv_of_along hstep as _ s (Inv.init hsize hword hend hout) has hrun).served_iff ha

/-- A block that has grown is to grow again. -/
theorem requests_served_iff_grown : ∃ s,
    exec step (System.init 4 0x800 (fun _ => 0) 0x1000 256)
      [.alloc 16, .realloc 0x1018 64, .alloc 16, .free 0x1070] = some s ∧
    Served s (.realloc 0x1018 100) := by
  have hrun : (exec step (System.init 4 0x800 (fun _ => 0) 0x1000 256)
      [.alloc 16, .realloc 0x1018 64, .alloc 16, .free 0x1070]).map
      (fun s => decide (0x1018 ∈ s.live)) = some true := by decide +kernel
  obtain ⟨s, hs, hlive⟩ := Option.map_eq_some_iff.mp hrun
  have hallowed : Along step Allowed (System.init 4 0x800 (fun _ => 0) 0x1000 256)
      [.alloc 16, .realloc 0x1018 64, .alloc 16, .free 0x1070] := by decide +kernel
  refine ⟨s, hs, (requests_served_iff 4 0x800 (fun _ => 0) 0x1000 256 (by decide) (by decide)
    (by decide) (.inl (by decide)) _ s (hallowed.imp fun _ _ ha => ha.contained) hs
    (.realloc 0x1018 100)
    ⟨.inl (of_decide_eq_true hlive), by decide⟩).mpr ?_⟩
  simp [Fine, rtNull]

/-- The only free block has 208 bytes.  A request for them is refused. -/
theorem requests_not_served : ¬ ∀ (addr freeHeader : ℕ) (m : ℕ → ℕ) (startAddr size : ℕ),
    2 * memheapSize + memheapMinialloc ≤ size → IsWord size → startAddr + size ≤ 4294967296 →
    (freeHeader + memheapSize ≤ startAddr ∨ startAddr + size ≤ freeHeader) →
    ∀ (as : List Action) (s : System),
      Along step Requested (System.init addr freeHeader m startAddr size) as →
      exec step (System.init addr freeHeader m startAddr size) as = some s →
      ∀ a, Requested s a → Served s a := by
  intro h
  obtain ⟨heap, p, hcall, hiff, -⟩ := h 4 0x800 (fun _ => 0) 0x1000 256 (by decide) (by decide)
    (by decide) (.inl (by decide)) [] _ trivial rfl (.alloc 208) (by show IsWord 208; decide)
  have hnull : (rtMemheapAlloc (System.init 4 0x800 (fun _ => 0) 0x1000 256).heap 208).map
      (fun r => r.2) = some rtNull := by decide +kernel
  rw [hcall] at hnull
  refine hiff.mpr ⟨0x1000, ⟨.first, ?_⟩, ?_⟩ (Option.some.inj hnull)
  · decide +kernel
  · decide +kernel

end N32L43x.Memheap
