import N32L43x.Object.Heap

/-!
The memory of a pool: the headers that a constructor writes, and the blocks that its free list leads to, are
in the memory that the pool was given, and no two blocks overlap.
-/

namespace N32L43x.Object

open N32L43x.Mem N32L43x.Lib.Run N32L43x.Lib.Writes

/-- The headers are written in the `bytes` bytes at `lo`.  Whatever else is in the memory, the free list
leads to as many blocks as the object says, with a header and as many bytes as it says; these are there, and
do not overlap. -/
structure Contained (p : Pool) (header lo bytes : ℕ) : Prop where
  writes : ∀ w ∈ p.writes, lo ≤ w.1 ∧ w.1 + sizeofPtr ≤ lo + bytes
  inside : ∀ m, ∀ b ∈ walk (store m p.writes) p.count p.freeList,
    lo ≤ b ∧ b + header + p.blockSize ≤ lo + bytes
  apart : ∀ m, (walk (store m p.writes) p.count p.freeList).Pairwise fun a b =>
    a + header + p.blockSize ≤ b ∨ b + header + p.blockSize ≤ a

variable {pool stride count i j lo bytes blockSize n header : ℕ} {m : ℕ → ℕ}

/-! ### Addresses -/

lemma blockAt_zero (hpool : pool < 4294967296) : blockAt pool stride 0 = pool := by
  unfold blockAt
  omega

lemma blockAt_of_lt (h : pool + i * stride < 4294967296) : blockAt pool stride i = pool + i * stride :=
  Nat.mod_eq_of_lt h

/-- Where a block is decides where the next one is. -/
lemma blockAt_succ_congr (h : blockAt pool stride i = blockAt pool stride j) :
    blockAt pool stride (i + 1) = blockAt pool stride (j + 1) := by
  unfold blockAt at *
  rw [Nat.succ_mul, Nat.succ_mul, ← Nat.add_assoc, ← Nat.add_assoc]
  exact Nat.ModEq.add_right stride h

lemma mul_le_of_lt (stride : ℕ) (hi : i < count) : i * stride + stride ≤ count * stride := by
  rw [← Nat.succ_mul]
  exact Nat.mul_le_mul_right _ hi

/-- The blocks of a pool that does not reach the end of the address space. -/
lemma blockAt_of_fits (hpos : 0 < stride) (hfit : pool + count * stride ≤ 4294967296) (hi : i < count) :
    blockAt pool stride i = pool + i * stride := by
  have hle := mul_le_of_lt stride hi
  exact blockAt_of_lt (by omega)

lemma blockAt_gap (hpos : 0 < stride) (hfit : pool + count * stride ≤ 4294967296) (hij : i < j)
    (hj : j < count) : blockAt pool stride i + stride ≤ blockAt pool stride j := by
  have hle := mul_le_of_lt stride hij
  rw [blockAt_of_fits hpos hfit hj, blockAt_of_fits hpos hfit (hij.trans hj)]
  omega

lemma blockAt_ne (hpos : 0 < stride) (hfit : pool + count * stride ≤ 4294967296) (hi : i < count)
    (hj : j < count) (hne : i ≠ j) : blockAt pool stride i ≠ blockAt pool stride j := by
  rcases Nat.lt_or_gt_of_ne hne with hij | hij
  · have hgap := blockAt_gap hpos hfit hij hj
    omega
  · have hgap := blockAt_gap hpos hfit hij hi
    omega

/-- Blocks one behind the other, in a memory that holds them all. -/
lemma strided_inside (hpos : 0 < stride) (hend : pool + bytes ≤ 4294967296)
    (hfit : count * stride ≤ bytes) (hblock : header + blockSize ≤ stride) (hi : i < count) :
    pool ≤ blockAt pool stride i ∧ blockAt pool stride i + header + blockSize ≤ pool + bytes := by
  have hle := mul_le_of_lt stride hi
  rw [blockAt_of_fits hpos (by omega) hi]
  omega

/-- A pool whose free list leads to blocks one behind the other, in any order, in a memory that holds
them all. -/
lemma contained_of_walk {p : Pool} {f : ℕ → ℕ} (hpos : 0 < stride) (hend : pool + bytes ≤ 4294967296)
    (hfit : count * stride ≤ bytes) (hblock : header + p.blockSize ≤ stride)
    (hheader : sizeofPtr ≤ header) (hwrites : ∀ w ∈ p.writes, ∃ i < count, w.1 = blockAt pool stride i)
    (hwalk : ∀ m, walk (store m p.writes) p.count p.freeList =
      (List.range count).map fun i => blockAt pool stride (f i))
    (hf : ∀ i < count, f i < count) (hne : ∀ i j, i < j → j < count → f i ≠ f j) :
    Contained p header pool bytes := by
  have hroom : pool + count * stride ≤ 4294967296 := by omega
  have hin : ∀ i < count, _ := fun i hi => strided_inside hpos hend hfit hblock hi
  refine ⟨fun w hw => ?_, fun m b hb => ?_, fun m => ?_⟩
  · obtain ⟨i, hi, hw⟩ := hwrites w hw
    have hi := hin i hi
    rw [hw]
    omega
  · rw [hwalk] at hb
    obtain ⟨i, hi, rfl⟩ := List.mem_map.mp hb
    exact hin _ (hf i (List.mem_range.mp hi))
  · rw [hwalk, List.pairwise_map]
    refine List.pairwise_lt_range.imp_of_mem fun {i j} hi hj hij => ?_
    have hj := List.mem_range.mp hj
    rcases Nat.lt_or_gt_of_ne (hne i j hij hj) with hlt | hlt
    · have hgap := blockAt_gap hpos hroom hlt (hf j hj)
      omega
    · have hgap := blockAt_gap hpos hroom hlt (hf i (hij.trans hj))
      omega

/-! ### Memory pools -/

lemma linkBlocks_writes (pool blockSize count : ℕ) : (linkBlocks pool blockSize count).writes =
    (List.range count).map (fun i => (blockAt pool (blockSize + sizeofPtr) i,
      blockAt pool (blockSize + sizeofPtr) (i + 1))) ++
      [(blockAt pool (blockSize + sizeofPtr) (sub32 count 1), rtNull)] := rfl

lemma sub32_one (hn : 0 < n) (hle : n ≤ 4294967296) : sub32 n 1 = n - 1 := by
  unfold sub32
  omega

/-- The loop links every block to the next one, also where the addresses overflow. -/
lemma store_link (hj : j < n) : store m ((List.range n).map fun i =>
    (blockAt pool stride i, blockAt pool stride (i + 1))) (blockAt pool stride j) =
      blockAt pool stride (j + 1) := by
  induction n with
  | zero => exact absurd hj (Nat.not_lt_zero j)
  | succ n ih =>
    rw [List.range_succ, List.map_append, List.map_singleton, store_snoc]
    by_cases heq : blockAt pool stride j = blockAt pool stride n
    · rw [heq, Function.update_self]
      exact (blockAt_succ_congr heq).symm
    · rw [Function.update_of_ne heq]
      refine ih (Nat.lt_of_le_of_ne (Nat.le_of_lt_succ hj) ?_)
      rintro rfl
      exact heq rfl

/-- The links of a pool: the block at the end of the list has none. -/
lemma store_linkBlocks (hj : j < count) (hcount : count ≤ 4294967296) :
    store m (linkBlocks pool blockSize count).writes (blockAt pool (blockSize + sizeofPtr) j) =
      if blockAt pool (blockSize + sizeofPtr) j = blockAt pool (blockSize + sizeofPtr) (count - 1) then
        rtNull else blockAt pool (blockSize + sizeofPtr) (j + 1) := by
  rw [linkBlocks_writes, store_snoc, sub32_one (by omega) hcount]
  by_cases heq : blockAt pool (blockSize + sizeofPtr) j =
      blockAt pool (blockSize + sizeofPtr) (count - 1)
  · rw [if_pos heq, heq, Function.update_self]
  · rw [if_neg heq, Function.update_of_ne heq, store_link hj]

/-- A memory pool that the memory has room for. -/
lemma linkBlocks_contained (hcount : 0 < count) (hend : pool + bytes ≤ 4294967296)
    (hfit : count * (blockSize + sizeofPtr) ≤ bytes) :
    Contained (linkBlocks pool blockSize count) sizeofPtr pool bytes := by
  have hpos : 0 < blockSize + sizeofPtr := Nat.add_pos_right _ (by decide)
  have hle : count ≤ count * (blockSize + sizeofPtr) := Nat.le_mul_of_pos_right _ hpos
  have hroom : pool + count * (blockSize + sizeofPtr) ≤ 4294967296 := by omega
  refine contained_of_walk (f := id) hpos hend hfit (Nat.add_comm ..).le le_rfl (fun w hw => ?_)
    (fun m => ?_) (fun _ hi => hi) fun i j hij _ => hij.ne
  · rw [linkBlocks_writes, List.mem_append, List.mem_map, List.mem_singleton] at hw
    rcases hw with ⟨i, hi, rfl⟩ | rfl
    · exact ⟨i, List.mem_range.mp hi, rfl⟩
    · refine ⟨count - 1, by omega, ?_⟩
      show blockAt _ _ (sub32 count 1) = _
      rw [sub32_one hcount (by omega)]
  · show walk _ count pool = _
    refine walk_eq_map (fun _ => ?_) fun j hj => ?_
    · rw [id, blockAt_of_fits hpos hroom hcount, Nat.zero_mul, Nat.add_zero]
    · rw [id, store_linkBlocks (by omega) (by omega),
        if_neg (blockAt_ne hpos hroom (by omega) (by omega) (by omega))]
      rfl

/-- A memory pool that the memory has no room for: the block that does not fit is on the list, unless the
list has ended before. -/
lemma not_linkBlocks_contained (hpool : 0 < pool) (hend : pool + bytes < 4294967296)
    (hcount : count ≤ 4294967296) (hfit : bytes < count * (blockSize + sizeofPtr)) :
    ¬ Contained (linkBlocks pool blockSize count) sizeofPtr pool bytes := by
  intro hc
  have hpos : 0 < blockSize + sizeofPtr := Nat.add_pos_right _ (by decide)
  obtain ⟨next, hnext⟩ : ∃ next, next = store (fun _ => 0) (linkBlocks pool blockSize count).writes :=
    ⟨_, rfl⟩
  have hin : ∀ j < count, pool ≤ next^[j] pool ∧
      next^[j] pool + sizeofPtr + blockSize ≤ pool + bytes := by
    intro j hj
    refine hc.inside (fun _ => 0) _ ?_
    rw [hnext]
    exact iterate_mem_walk hj
  have hwalk : ∀ j < count, next^[j] pool = blockAt pool (blockSize + sizeofPtr) j := by
    intro j
    induction j with
    | zero =>
      intro _
      have hlt : pool < 4294967296 := by omega
      exact (blockAt_zero hlt).symm
    | succ j ih =>
      intro hj
      have hlow := (hin (j + 1) hj).1
      rw [Function.iterate_succ_apply', ih (by omega), hnext, store_linkBlocks (by omega) hcount] at hlow ⊢
      split_ifs at hlow ⊢
      · unfold rtNull at hlow
        omega
      · rfl
  -- the first block that does not fit
  have hdiv := Nat.div_mul_le_self bytes (blockSize + sizeofPtr)
  have hlt : bytes / (blockSize + sizeofPtr) < count := Nat.div_lt_of_lt_mul (Nat.mul_comm .. ▸ hfit)
  have hover : bytes < bytes / (blockSize + sizeofPtr) * (blockSize + sizeofPtr) +
      (blockSize + sizeofPtr) := by
    rw [← Nat.succ_mul]
    exact Nat.lt_mul_of_div_lt (Nat.lt_succ_self _) hpos
  have hhigh := (hin _ hlt).2
  rw [hwalk _ hlt, blockAt_of_lt (by omega)] at hhigh
  omega

/-- A memory pool without blocks: `offset - 1` is the block before the first one. -/
lemma linkBlocks_zero_iff (hpool : pool < 4294967296) (hstride : blockSize + sizeofPtr < 4294967296)
    (hend : pool + bytes ≤ 4294967296) : Contained (linkBlocks pool blockSize 0) sizeofPtr pool bytes ↔
      pool < blockSize + sizeofPtr ∧ 4294967296 + sizeofPtr ≤ blockSize + sizeofPtr + bytes := by
  have haddr : blockAt pool (blockSize + sizeofPtr) (sub32 0 1) =
      if pool < blockSize + sizeofPtr then pool + 4294967296 - (blockSize + sizeofPtr)
      else pool - (blockSize + sizeofPtr) := by
    have hsub : sub32 0 1 = 4294967295 := by decide
    unfold blockAt
    rw [hsub]
    split_ifs <;> omega
  constructor
  · intro hc
    have hw := hc.writes (blockAt pool (blockSize + sizeofPtr) (sub32 0 1), rtNull) (by
      rw [linkBlocks_writes]
      exact List.mem_append_right _ (List.mem_singleton_self _))
    dsimp only at hw
    rw [haddr] at hw
    unfold sizeofPtr at *
    split_ifs at hw <;> omega
  · rintro ⟨hlow, hhigh⟩
    rw [if_pos hlow] at haddr
    refine ⟨fun w hw => ?_, fun m b hb => (List.not_mem_nil hb).elim, fun m => List.Pairwise.nil⟩
    have hw' : w = (blockAt pool (blockSize + sizeofPtr) (sub32 0 1), rtNull) := by
      rw [linkBlocks_writes] at hw
      exact List.mem_singleton.mp hw
    rw [hw', haddr]
    dsimp only
    unfold sizeofPtr at *
    omega

/-! ### Message queues -/

/-- The address behind which a message is linked: the one before it. -/
def linkBefore (pool stride temp : ℕ) : ℕ := if temp = 0 then rtNull else blockAt pool stride (temp - 1)

lemma foldl_initMessage (pool stride n : ℕ) (p : Pool) (hp : p.freeList = rtNull) :
    (List.range n).foldl (initMessage pool stride) p =
      { p with
        freeList := linkBefore pool stride n
        writes := p.writes ++
          (List.range n).map fun i => (blockAt pool stride i, linkBefore pool stride i) } := by
  induction n with
  | zero =>
    rw [List.range_zero, List.map_nil, List.append_nil]
    show p = { p with freeList := rtNull }
    rw [← hp]
  | succ n ih =>
    rw [List.range_succ, List.foldl_append, ih, List.foldl_cons, List.foldl_nil, List.map_append,
      List.map_singleton, ← List.append_assoc]
    rfl

lemma linkMessages_eq (pool stride msgSize count : ℕ) : linkMessages pool stride msgSize count =
    { start := pool
      blockSize := msgSize
      count := count
      freeList := linkBefore pool stride count
      writes := (List.range count).map fun i => (blockAt pool stride i, linkBefore pool stride i) } :=
  foldl_initMessage pool stride count _ rfl

/-- A message queue that the memory has room for. -/
lemma linkMessages_contained {msgSize : ℕ} (hpos : sizeofMqMessage + msgSize ≤ stride)
    (hend : pool + bytes ≤ 4294967296) (hfit : count * stride ≤ bytes) :
    Contained (linkMessages pool stride msgSize count) sizeofMqMessage pool bytes := by
  have hstride : 0 < stride := Nat.lt_of_lt_of_le (Nat.add_pos_left (by decide) _) hpos
  have hroom : pool + count * stride ≤ 4294967296 := by omega
  rw [linkMessages_eq]
  have hkeys : (((List.range count).map fun i => (blockAt pool stride i, linkBefore pool stride i)).map
      Prod.fst).Nodup := by
    rw [List.map_map]
    refine List.Nodup.map_on (fun i hi j hj heq => ?_) List.nodup_range
    by_contra hne
    exact blockAt_ne hstride hroom (List.mem_range.mp hi) (List.mem_range.mp hj) hne heq
  refine contained_of_walk (f := fun i => count - 1 - i) hstride hend hfit hpos (by decide)
    (fun w hw => ?_) (fun m => ?_) (fun i hi => by omega) fun i j hij hj => by omega
  · obtain ⟨i, hi, rfl⟩ := List.mem_map.mp hw
    exact ⟨i, List.mem_range.mp hi, rfl⟩
  · refine walk_eq_map (fun hcount => ?_) fun j hj => ?_
    · replace hcount : 0 < count := hcount
      show _ = linkBefore pool stride count
      unfold linkBefore
      rw [if_neg (by omega), Nat.sub_zero]
    · replace hj : j + 1 < count := hj
      refine store_of_mem hkeys (List.mem_map.mpr ⟨count - 1 - j, List.mem_range.mpr (by omega), ?_⟩)
      refine Prod.ext rfl ?_
      show linkBefore pool stride (count - 1 - j) = _
      unfold linkBefore
      rw [if_neg (by omega), show count - 1 - j - 1 = count - 1 - (j + 1) by omega]

/-- Messages that are recorded as larger than they are overlap, unless there is only one. -/
lemma linkMessages_contained_iff {msgSize : ℕ} (hpool : pool < 4294967296)
    (hend : pool + bytes ≤ 4294967296) (hcount : 0 < count) (hfit : count * stride ≤ bytes)
    (hpos : sizeofMqMessage ≤ stride) (hlarge : stride < sizeofMqMessage + msgSize) :
    Contained (linkMessages pool stride msgSize count) sizeofMqMessage pool bytes ↔
      count = 1 ∧ sizeofMqMessage + msgSize ≤ bytes := by
  have hstride : 0 < stride := Nat.lt_of_lt_of_le (by decide) hpos
  have hroom : pool + count * stride ≤ 4294967296 := by omega
  rw [linkMessages_eq]
  constructor
  · intro hc
    obtain ⟨n, rfl⟩ : ∃ n, count = n + 1 := ⟨count - 1, by omega⟩
    cases n with
    | zero =>
      have hin := hc.inside (fun _ => 0) (blockAt pool stride 0) (List.mem_cons_self ..)
      rw [blockAt_zero hpool] at hin
      dsimp only at hin
      omega
    | succ n =>
      -- the first two messages of the list are neighbours
      have hnext : ∀ m, store m ((List.range (n + 1 + 1)).map fun i =>
          (blockAt pool stride i, linkBefore pool stride i)) (blockAt pool stride (n + 1)) =
            blockAt pool stride n := by
        intro m
        rw [List.range_succ, List.map_append, List.map_singleton, store_snoc, Function.update_self]
        rfl
      have happart := hc.apart (fun _ => 0)
      have hfree : linkBefore pool stride (n + 1 + 1) = blockAt pool stride (n + 1) := rfl
      dsimp only at happart
      rw [hfree, walk, walk, hnext] at happart
      have hpair := List.rel_of_pairwise_cons happart (List.mem_cons_self ..)
      rw [blockAt_of_fits hstride hroom (Nat.lt_succ_self _),
        blockAt_of_fits hstride hroom (show n < n + 1 + 1 by omega), Nat.succ_mul] at hpair
      omega
  · rintro ⟨rfl, hbytes⟩
    have hfree : linkBefore pool stride 1 = pool := blockAt_zero hpool
    refine ⟨fun w hw => ?_, fun m b hb => ?_, fun m => ?_⟩
    · obtain ⟨i, hi, rfl⟩ := List.mem_map.mp hw
      obtain rfl : i = 0 := by
        have hi := List.mem_range.mp hi
        omega
      show pool ≤ blockAt pool stride 0 ∧ blockAt pool stride 0 + sizeofPtr ≤ pool + bytes
      rw [blockAt_zero hpool]
      unfold sizeofPtr
      unfold sizeofMqMessage at hbytes
      omega
    · dsimp only at hb ⊢
      rw [hfree] at hb
      obtain rfl := List.mem_singleton.mp hb
      omega
    · exact List.pairwise_singleton _ _

/-! ### The constructors -/

/-- A call of a constructor of a pool. -/
inductive PoolCall
  | mpInit (mp start size blockSize : ℕ)
  | mpCreate (blockCount blockSize : ℕ)
  | mqInit (mq msgPool msgSize poolSize : ℕ)
  | mqCreate (msgSize maxMsgs : ℕ)

/-- `n` is a value of `rt_size_t` other than `0`. -/
def Positive (n : ℕ) : Prop := 0 < n ∧ n < 4294967296

/-- The sizes and counts are positive, and the memory that is given is in the address space. -/
def Proper : PoolCall → Prop
  | .mpInit _ start size blockSize =>
    Positive size ∧ Positive blockSize ∧ 0 < start ∧ start + size ≤ 4294967296
  | .mpCreate blockCount blockSize => Positive blockCount ∧ Positive blockSize
  | .mqInit _ msgPool msgSize poolSize =>
    Positive msgSize ∧ Positive poolSize ∧ 0 < msgPool ∧ msgPool + poolSize ≤ 4294967296
  | .mqCreate msgSize maxMsgs => Positive msgSize ∧ Positive maxMsgs

/-- The pool is in the live block that starts where it does. -/
def InBlock (k : Kernel) (p : Pool) (header : ℕ) : Prop :=
  ∃ start, p.start = k.store.addrOf start ∧ Live k.store.mem start ∧
    Contained p header p.start (payloadSize k.store.mem start)

/-- What is promised of a constructor: if it succeeds, the pool is in the memory that is given, or in that
allocated for it. -/
def Sound (k : Kernel) : PoolCall → Prop
  | .mpInit mp start size blockSize =>
    Contained (rtMpInit k mp start size blockSize).2 sizeofPtr start size
  | .mpCreate blockCount blockSize => ∃ k' r, rtMpCreate k blockCount blockSize = some (k', r) ∧
      ∀ p, r = some p → InBlock k' p sizeofPtr
  | .mqInit mq msgPool msgSize poolSize => ∀ p, (rtMqInit k mq msgPool msgSize poolSize).2 = some p →
      Contained p sizeofMqMessage msgPool poolSize
  | .mqCreate msgSize maxMsgs => ∃ k' r, rtMqCreate k msgSize maxMsgs = some (k', r) ∧
      ∀ p, r = some p → InBlock k' p sizeofMqMessage

/-- The condition: a memory pool that is given memory has room for a block there, or is so large that the
stray header comes round to it; a message size can be rounded up in 32 bits, or there is no message, or the
one there is fits as it is recorded; the size of a pool that is allocated can be computed in 32 bits, or its
memory is refused. -/
def Fits (k : Kernel) : PoolCall → Prop
  | .mpInit _ start size blockSize => rtAlign blockSize + sizeofPtr ≤ rtAlignDown size ∨
      start < rtAlign blockSize + sizeofPtr ∧
        4294967296 + sizeofPtr ≤ rtAlign blockSize + sizeofPtr + size
  | .mpCreate blockCount blockSize => blockCount * (rtAlign blockSize + sizeofPtr) ≤ 4294967288 ∨
      NoRoom k .memPool (Store.mul32 (rtAlign blockSize + sizeofPtr) blockCount)
  | .mqInit _ _ msgSize poolSize => msgSize ≤ 4294967288 ∨ uint16 (poolSize / sizeofMqMessage) = 0 ∨
      uint16 (poolSize / sizeofMqMessage) = 1 ∧ sizeofMqMessage + uint16 msgSize ≤ poolSize
  | .mqCreate msgSize maxMsgs =>
    msgSize ≤ 4294967288 ∧ uint16 maxMsgs * messageStride msgSize ≤ 4294967288 ∨
      NoRoom k .messageQueue (Store.mul32 (messageStride msgSize) (uint16 maxMsgs))

lemma rtAlign_le_max (n : ℕ) : rtAlign n ≤ 4294967288 := by
  unfold rtAlign add32
  omega

lemma le_rtAlign_of_le (h : n ≤ 4294967288) : n ≤ rtAlign n := by
  unfold rtAlign add32
  omega

/-- The messages of a queue have room for what is recorded as their size. -/
lemma le_messageStride {msgSize : ℕ} (h : msgSize ≤ 4294967288) (hpos : messageStride msgSize ≠ 0) :
    sizeofMqMessage + uint16 msgSize ≤ messageStride msgSize := by
  have hle := le_rtAlign_of_le h
  have hmax := rtAlign_le_max msgSize
  have hmod : rtAlign msgSize % 8 = 0 := by
    unfold rtAlign
    omega
  unfold messageStride add32 sizeofMqMessage uint16 at *
  omega

lemma messageStride_of_overflow {msgSize : ℕ} (h : 4294967288 < msgSize) (hlt : msgSize < 4294967296) :
    messageStride msgSize = sizeofMqMessage := by
  have hzero : rtAlign msgSize = 0 := by
    unfold rtAlign add32
    omega
  unfold messageStride add32 sizeofMqMessage
  rw [hzero]

/-! ### Memory that is given -/

lemma sound_mpInit_iff (k : Kernel) {mp start size blockSize : ℕ}
    (hp : Proper (.mpInit mp start size blockSize)) :
    Sound k (.mpInit mp start size blockSize) ↔ Fits k (.mpInit mp start size blockSize) := by
  obtain ⟨hsize, hblock, hstart, hend⟩ := hp
  have hmax := rtAlign_le_max blockSize
  obtain ⟨n, hn⟩ : ∃ n, n = rtAlignDown size / (rtAlign blockSize + sizeofPtr) := ⟨_, rfl⟩
  have hdown : rtAlignDown size ≤ size := Nat.div_mul_le_self size 8
  show Contained (linkBlocks start (rtAlign blockSize)
    (rtAlignDown size / (rtAlign blockSize + sizeofPtr))) sizeofPtr start size ↔
      rtAlign blockSize + sizeofPtr ≤ rtAlignDown size ∨ start < rtAlign blockSize + sizeofPtr ∧
        4294967296 + sizeofPtr ≤ rtAlign blockSize + sizeofPtr + size
  rw [← hn]
  by_cases hfit : rtAlign blockSize + sizeofPtr ≤ rtAlignDown size
  · have hmul := Nat.div_mul_le_self (rtAlignDown size) (rtAlign blockSize + sizeofPtr)
    refine iff_of_true (linkBlocks_contained ?_ hend ?_) (.inl hfit)
    · rw [hn]
      exact Nat.div_pos hfit (Nat.add_pos_right _ (by decide))
    · rw [hn]
      omega
  · rw [Nat.div_eq_of_lt (Nat.lt_of_not_le hfit)] at hn
    rw [hn, linkBlocks_zero_iff (by have := hsize.1; omega) (by unfold sizeofPtr; omega) hend]
    exact (or_iff_right hfit).symm

lemma sound_mqInit_iff (k : Kernel) {mq msgPool msgSize poolSize : ℕ}
    (hp : Proper (.mqInit mq msgPool msgSize poolSize)) :
    Sound k (.mqInit mq msgPool msgSize poolSize) ↔ Fits k (.mqInit mq msgPool msgSize poolSize) := by
  obtain ⟨hmsg, hsize, hstart, hend⟩ := hp
  obtain ⟨n, hn⟩ : ∃ n, n = uint16 (poolSize / messageStride msgSize) := ⟨_, rfl⟩
  have hle : n * messageStride msgSize ≤ poolSize := by
    have hmod : n ≤ poolSize / messageStride msgSize := hn ▸ Nat.mod_le ..
    exact (Nat.mul_le_mul_right _ hmod).trans (Nat.div_mul_le_self ..)
  have hsound : Sound k (.mqInit mq msgPool msgSize poolSize) ↔ (n ≠ 0 →
      Contained (linkMessages msgPool (messageStride msgSize) (uint16 msgSize) n) sizeofMqMessage
        msgPool poolSize) := by
    unfold Sound rtMqInit
    simp only [← hn]
    by_cases hzero : n = 0
    · simp [hzero]
    · simp [hzero]
  rw [hsound]
  by_cases hsmall : msgSize ≤ 4294967288
  · refine iff_of_true (fun hzero => ?_) (.inl hsmall)
    refine linkMessages_contained (le_messageStride hsmall fun hstride => hzero ?_) hend hle
    rw [hn, hstride, Nat.div_zero]
    rfl
  · have hstride := messageStride_of_overflow (Nat.lt_of_not_le hsmall) hmsg.2
    have hlarge : sizeofMqMessage < sizeofMqMessage + uint16 msgSize := by
      have := hmsg.2
      unfold sizeofMqMessage uint16
      omega
    rw [hstride] at hn hle ⊢
    show _ ↔ msgSize ≤ 4294967288 ∨ uint16 (poolSize / sizeofMqMessage) = 0 ∨
      uint16 (poolSize / sizeofMqMessage) = 1 ∧ sizeofMqMessage + uint16 msgSize ≤ poolSize
    rw [← hn, or_iff_right hsmall]
    by_cases hzero : n = 0
    · exact iff_of_true (fun hno => absurd hzero hno) (.inl hzero)
    · rw [linkMessages_contained_iff (by have := hsize.1; omega) hend (by omega) hle le_rfl hlarge,
        or_iff_right hzero]
      exact ⟨fun h => h hzero, fun h _ => h⟩

/-! ### Memory that is allocated -/

variable {k k' : Kernel} {live : ℕ × ℕ → Prop} {type : ObjectClass} {start d size : ℕ}

/-- Where an allocated pool is. -/
lemma Created.bounds (h : Created k type size k' start d) : Live k'.store.mem start ∧
    0 < k'.store.addrOf start ∧ k'.store.addrOf start + d + 16 < 4294967296 ∧
      payloadSize k'.store.mem start = d := by
  obtain ⟨live', hheap, hlive⟩ := h.heap
  obtain ⟨-, hpos, hend, hsize⟩ := hheap.bounds hlive
  exact ⟨(hheap.live_iff start).mpr ⟨d, hlive⟩, hpos, hend, hsize⟩

/-- The block that is allocated is the one with its address. -/
lemma Created.inBlock_iff (h : Created k type size k' start d) {p : Pool}
    (hstart : p.start = k'.store.addrOf start) :
    InBlock k' p header ↔ Contained p header (k'.store.addrOf start) d := by
  obtain ⟨hlive, -, -, hsize⟩ := h.bounds
  constructor
  · rintro ⟨start', haddr, hlive', hc⟩
    obtain ⟨live', hheap, hd⟩ := h.heap
    obtain ⟨d', hd'⟩ := (hheap.live_iff start').mp hlive'
    have hlt := (hheap.bounds hd).1
    have hlt' := (hheap.bounds hd').1
    obtain rfl : start = start' := by
      rw [hstart] at haddr
      unfold Store.addrOf add32 at haddr
      omega
    rwa [hsize, hstart] at hc
  · intro hc
    refine ⟨start, hstart, hlive, ?_⟩
    rwa [hsize, hstart]

/-- A size that was computed without overflow is there. -/
lemma Created.le (h : Created k type (Store.mul32 i j) k' start d) (hle : j * i ≤ 4294967288) :
    j * i ≤ d := by
  have hmul : Store.mul32 i j = j * i := by
    unfold Store.mul32
    rw [Nat.mul_comm]
    exact Nat.mod_eq_of_lt (by omega)
  have hneeded := le_needed (n := j * i) (by omega)
  have henough := h.enough
  rw [hmul] at henough
  omega

lemma Heap.sound_mpCreate_iff (h : Heap k.store live) {blockCount blockSize : ℕ}
    (hp : Proper (.mpCreate blockCount blockSize)) :
    Sound k (.mpCreate blockCount blockSize) ↔ Fits k (.mpCreate blockCount blockSize) := by
  obtain ⟨hcount, -⟩ := hp
  obtain ⟨size, hsize⟩ : ∃ size, size = Store.mul32 (rtAlign blockSize + sizeofPtr) blockCount :=
    ⟨_, rfl⟩
  have hcall : rtMpCreate k blockCount blockSize = (Object.createWith k .memPool size).map fun r =>
      (r.1, r.2.map fun p => linkBlocks (r.1.store.addrOf p.2) (rtAlign blockSize) blockCount) := by
    rw [hsize]
    rfl
  show (∃ k' r, rtMpCreate k blockCount blockSize = some (k', r) ∧
    ∀ p, r = some p → InBlock k' p sizeofPtr) ↔
      blockCount * (rtAlign blockSize + sizeofPtr) ≤ 4294967288 ∨ NoRoom k .memPool _
  rw [← hsize, hcall]
  rcases h.createWith .memPool size with
    ⟨k', hcreate, -, -, hno⟩ | ⟨k', object, start, d, hcreate, hcreated⟩
  · rw [hcreate]
    exact iff_of_true ⟨k', none, rfl, by rintro p ⟨⟩⟩ (.inr hno)
  obtain ⟨-, hpos, hend, -⟩ := hcreated.bounds
  rw [hcreate, or_iff_left hcreated.room]
  obtain ⟨p, hp⟩ : ∃ p, p = linkBlocks (k'.store.addrOf start) (rtAlign blockSize) blockCount := ⟨_, rfl⟩
  have hres : (∃ k₂ r, (some (k', some (object, start))).map (fun r : Kernel × Option (ℕ × ℕ) =>
      (r.1, r.2.map fun p => linkBlocks (r.1.store.addrOf p.2) (rtAlign blockSize) blockCount)) =
        some (k₂, r) ∧ ∀ p, r = some p → InBlock k₂ p sizeofPtr) ↔ InBlock k' p sizeofPtr := by
    constructor
    · rintro ⟨k₂, r, heq, hin⟩
      obtain ⟨rfl, rfl⟩ := Prod.mk.inj (Option.some.inj heq)
      exact hin p (congrArg some hp.symm)
    · intro hin
      refine ⟨k', some p, by rw [hp]; rfl, ?_⟩
      rintro _ ⟨⟩
      exact hin
  rw [hres, hcreated.inBlock_iff (by rw [hp]; rfl), hp]
  constructor
  · intro hc
    by_contra hover
    exact not_linkBlocks_contained hpos (by omega) (Nat.le_of_lt hcount.2) (by omega) hc
  · intro hle
    rw [hsize] at hcreated
    exact linkBlocks_contained hcount.1 (by omega) (hcreated.le hle)

lemma Heap.sound_mqCreate (h : Heap k.store live) {msgSize maxMsgs : ℕ}
    (hfits : Fits k (.mqCreate msgSize maxMsgs)) : Sound k (.mqCreate msgSize maxMsgs) := by
  obtain ⟨size, hsize⟩ : ∃ size, size = Store.mul32 (messageStride msgSize) (uint16 maxMsgs) := ⟨_, rfl⟩
  have hcall : rtMqCreate k msgSize maxMsgs = (Object.createWith k .messageQueue size).map fun r =>
      (r.1, r.2.map fun p => linkMessages (r.1.store.addrOf p.2) (messageStride msgSize)
        (uint16 msgSize) (uint16 maxMsgs)) := by
    rw [hsize]
    rfl
  replace hfits : msgSize ≤ 4294967288 ∧ uint16 maxMsgs * messageStride msgSize ≤ 4294967288 ∨
      NoRoom k .messageQueue size := hsize ▸ hfits
  show ∃ k' r, rtMqCreate k msgSize maxMsgs = some (k', r) ∧
    ∀ p, r = some p → InBlock k' p sizeofMqMessage
  rw [hcall]
  rcases h.createWith .messageQueue size with
    ⟨k', hcreate, -, -, -⟩ | ⟨k', object, start, d, hcreate, hcreated⟩
  · rw [hcreate]
    exact ⟨k', none, rfl, by rintro p ⟨⟩⟩
  rw [hcreate]
  refine ⟨k', _, rfl, ?_⟩
  rintro p ⟨⟩
  obtain ⟨hsmall, hle⟩ := hfits.resolve_right hcreated.room
  obtain ⟨-, -, hend, -⟩ := hcreated.bounds
  show InBlock k' (linkMessages (k'.store.addrOf start) (messageStride msgSize) (uint16 msgSize)
    (uint16 maxMsgs)) sizeofMqMessage
  refine (hcreated.inBlock_iff ?_).mpr ?_
  · rw [linkMessages_eq]
  · have hroom : k'.store.addrOf start + d ≤ 4294967296 := by omega
    rw [hsize] at hcreated
    refine linkMessages_contained (le_messageStride hsmall fun hzero => ?_) hroom (hcreated.le hle)
    -- a request for no bytes is refused
    apply hcreated.room
    intro k₂ object' _
    left
    rw [hzero]
    unfold Store.mul32
    rw [Nat.zero_mul]

/-- **A constructor keeps to the memory of its pool, and the pool is there**, if and only if the call fits; a
message queue that is created where it does not may be sound by chance.  The heap is that of any program that
has kept to its pointers and to sizes in range. -/
theorem pools_sound_iff {m : SmallMem} {sizeofSmallMem beginAddr size : ℕ}
    {garbage : ℕ → MemItem} (hinit : rtSmemInit sizeofSmallMem beginAddr size garbage = some m)
    (pool : ℕ) (byte : ℕ → BitVec 8) (as : List Client.Action) (c : Client)
    (hvalid : Along Client.step (fun c a => Client.Valid c a ∧ Client.InRange c a)
      ⟨⟨m, pool, byte⟩, fun _ => none⟩ as)
    (hrun : exec Client.step ⟨⟨m, pool, byte⟩, fun _ => none⟩ as = some c)
    (objectList : ObjectClass → List ℕ) (layout : Layout) (f : PoolCall) (hf : Proper f) :
    (Fits ⟨c.store, objectList, layout⟩ f → Sound ⟨c.store, objectList, layout⟩ f) ∧
      ((∀ msgSize maxMsgs, f ≠ .mqCreate msgSize maxMsgs) →
        Sound ⟨c.store, objectList, layout⟩ f → Fits ⟨c.store, objectList, layout⟩ f) := by
  obtain ⟨live, h⟩ := heap_of_run hinit pool byte hvalid hrun
  have h : Heap (Kernel.mk c.store objectList layout).store live := h
  cases f with
  | mpInit mp start size blockSize =>
    have hiff := sound_mpInit_iff ⟨c.store, objectList, layout⟩ hf
    exact ⟨hiff.mpr, fun _ => hiff.mp⟩
  | mpCreate blockCount blockSize =>
    have hiff := h.sound_mpCreate_iff hf
    exact ⟨hiff.mpr, fun _ => hiff.mp⟩
  | mqInit mq msgPool msgSize poolSize =>
    have hiff := sound_mqInit_iff ⟨c.store, objectList, layout⟩ hf
    exact ⟨hiff.mpr, fun _ => hiff.mp⟩
  | mqCreate msgSize maxMsgs => exact ⟨h.sound_mqCreate, fun hno => absurd rfl (hno msgSize maxMsgs)⟩

/-- A pool of ten blocks on a heap of one kilobyte. -/
theorem pools_sound_iff_ten :
    ∃ m, rtSmemInit 56 0x20000000 1024 (fun _ => ⟨.null, 0, 0⟩) = some m ∧
      Sound ⟨⟨m, 0x20000000, fun _ => 0⟩, fun _ => [], ⟨fun _ => 64, 100, 40, 88⟩⟩ (.mpCreate 10 20) := by
  obtain ⟨m, hm⟩ := Option.isSome_iff_exists.mp
    (show (rtSmemInit 56 0x20000000 1024 fun _ => ⟨.null, 0, 0⟩).isSome by decide +kernel)
  exact ⟨m, hm, (pools_sound_iff hm 0x20000000 (fun _ => 0) []
    ⟨⟨m, 0x20000000, fun _ => 0⟩, fun _ => none⟩ trivial rfl (fun _ => []) ⟨fun _ => 64, 100, 40, 88⟩
    (.mpCreate 10 20) ⟨⟨by decide, by decide⟩, by decide, by decide⟩).1 (.inl (by decide))⟩

/-- A pool of 8 bytes has no room for a block of 8 bytes and its header: the word 12 bytes before the pool
is written. -/
theorem mpInit_not_sound :
    ∃ m, rtSmemInit 56 0x20000000 1024 (fun _ => ⟨.null, 0, 0⟩) = some m ∧
      ¬ Sound ⟨⟨m, 0x20000000, fun _ => 0⟩, fun _ => [], ⟨fun _ => 64, 100, 40, 88⟩⟩
        (.mpInit 0x20001000 0x20002000 8 8) := by
  obtain ⟨m, hm⟩ := Option.isSome_iff_exists.mp
    (show (rtSmemInit 56 0x20000000 1024 fun _ => ⟨.null, 0, 0⟩).isSome by decide +kernel)
  refine ⟨m, hm, fun hsound => ?_⟩
  have hfits := (sound_mpInit_iff _ ⟨⟨by decide, by decide⟩, ⟨by decide, by decide⟩, by decide,
    by decide⟩).mp hsound
  rcases hfits with hfits | ⟨hfits, -⟩
  · exact absurd hfits (by decide)
  · exact absurd hfits (by decide)

end N32L43x.Object
