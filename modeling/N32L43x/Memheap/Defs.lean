import Mathlib.Data.List.Basic
import Mathlib.Logic.Function.Basic
import N32L43x.Mem.Defs

/-!
The memory heap of `rt-thread/src/memheap.c`.

The memory holds a word at every address, and a block header is the six words behind its address: a
header that is moved may be written over another one.  The calls are taken one after the other, as the
semaphore of the heap makes them.
-/

namespace N32L43x.Memheap

open N32L43x.Mem (add32 sub32 rtAlign rtAlignDown)

/-- The fields of `struct rt_memheap_item`. -/
inductive Field
  | magic
  | poolPtr
  | next
  | prev
  | nextFree
  | prevFree
deriving DecidableEq

def Field.offset : Field → ℕ
  | .magic => 0
  | .poolPtr => 4
  | .next => 8
  | .prev => 12
  | .nextFree => 16
  | .prevFree => 20

/-- `item->f`. -/
def get (m : ℕ → ℕ) (item : ℕ) (f : Field) : ℕ := m (item + f.offset)

/-- `item->f = value`. -/
def put (m : ℕ → ℕ) (item : ℕ) (f : Field) (value : ℕ) : ℕ → ℕ :=
  Function.update m (item + f.offset) value

/-- `RT_NULL`. -/
def rtNull : ℕ := 0

/-- `RT_MEMHEAP_MAGIC`. -/
def memheapMagic : ℕ := 0x1ea01ea0

/-- `RT_MEMHEAP_USED`. -/
def memheapUsed : ℕ := 0x01

/-- `RT_MEMHEAP_FREED`. -/
def memheapFreed : ℕ := 0x00

/-- `RT_MEMHEAP_SIZE`. -/
def memheapSize : ℕ := 24

/-- `RT_MEMHEAP_MINIALLOC`. -/
def memheapMinialloc : ℕ := 16

/-- `RT_MEMHEAP_IS_USED(item)`. -/
def IsUsed (m : ℕ → ℕ) (item : ℕ) : Prop := get m item .magic &&& memheapUsed ≠ 0

instance (m : ℕ → ℕ) (item : ℕ) : Decidable (IsUsed m item) :=
  inferInstanceAs (Decidable (_ ≠ _))

/-- `MEMITEM_SIZE(item)`. -/
def memitemSize (m : ℕ → ℕ) (item : ℕ) : ℕ := sub32 (sub32 (get m item .next) item) memheapSize

/-- `struct rt_memheap` at the address `addr`.  The last field is not in the code: the values of
`pool_size - available_size` at the ends of the allocations so far, the last one first. -/
structure RtMemheap where
  addr : ℕ
  /-- the address of `free_header` -/
  freeHeader : ℕ
  /-- the word at an address -/
  memory : ℕ → ℕ
  startAddr : ℕ
  poolSize : ℕ
  availableSize : ℕ
  maxUsedSize : ℕ
  blockList : ℕ
  freeList : ℕ
  used : List ℕ

/-! ### The two lists -/

/-- The block `newPtr` is cut off from the block `headerPtr`: it becomes a free block of the pool, behind
`headerPtr` in the block list. -/
def splitBlock (addr : ℕ) (m : ℕ → ℕ) (headerPtr newPtr : ℕ) : ℕ → ℕ :=
  let m := put m newPtr .magic (memheapMagic ||| memheapFreed)
  let m := put m newPtr .poolPtr addr
  let m := put m newPtr .prev headerPtr
  let m := put m newPtr .next (get m headerPtr .next)
  let m := put m (get m headerPtr .next) .prev newPtr
  put m headerPtr .next newPtr

/-- The block behind `headerPtr`, which is `nextPtr`, becomes a part of it. -/
def mergeNext (m : ℕ → ℕ) (headerPtr nextPtr : ℕ) : ℕ → ℕ :=
  let m := put m (get m nextPtr .next) .prev headerPtr
  put m headerPtr .next (get m nextPtr .next)

/-- A block is taken out of the block list. -/
def unlinkBlock (m : ℕ → ℕ) (headerPtr : ℕ) : ℕ → ℕ :=
  let m := put m (get m headerPtr .prev) .next (get m headerPtr .next)
  put m (get m headerPtr .next) .prev (get m headerPtr .prev)

/-- An item is taken out of the free list. -/
def removeFree (m : ℕ → ℕ) (item : ℕ) : ℕ → ℕ :=
  let m := put m (get m item .nextFree) .prevFree (get m item .prevFree)
  put m (get m item .prevFree) .nextFree (get m item .nextFree)

/-- `removeFree` where the links of the item are cleared. -/
def detachFree (m : ℕ → ℕ) (item : ℕ) : ℕ → ℕ :=
  let m := removeFree m item
  let m := put m item .nextFree rtNull
  put m item .prevFree rtNull

/-- An item is put at the front of the free list. -/
def insertFree (m : ℕ → ℕ) (freeList item : ℕ) : ℕ → ℕ :=
  let m := put m item .nextFree (get m freeList .nextFree)
  let m := put m item .prevFree freeList
  let m := put m (get m freeList .nextFree) .prevFree item
  put m freeList .nextFree item

/-- An item is put before the item `n` of the free list. -/
def insertBefore (m : ℕ → ℕ) (n item : ℕ) : ℕ → ℕ :=
  let m := put m item .nextFree n
  let m := put m item .prevFree (get m n .prevFree)
  let m := put m (get m n .prevFree) .nextFree item
  put m n .prevFree item

/-- `_remove_next_ptr`. -/
def removeNextPtr (m : ℕ → ℕ) (nextPtr : ℕ) : ℕ → ℕ :=
  let m := removeFree m nextPtr
  let m := put m (get m nextPtr .next) .prev (get m nextPtr .prev)
  put m (get m nextPtr .prev) .next (get m nextPtr .next)

/-! ### Initialization -/

/-- The fields that `rt_memheap_init` sets before the two headers are linked. -/
def initItem (addr : ℕ) (m : ℕ → ℕ) (item : ℕ) : ℕ → ℕ :=
  let m := put m item .magic (memheapMagic ||| memheapFreed)
  let m := put m item .poolPtr addr
  let m := put m item .next rtNull
  let m := put m item .prev rtNull
  let m := put m item .nextFree item
  put m item .prevFree item

/-- `rt_memheap_init`, over whatever the memory holds. -/
def rtMemheapInit (addr freeHeader : ℕ) (m : ℕ → ℕ) (startAddr size : ℕ) : RtMemheap :=
  let poolSize := rtAlignDown size
  let availableSize := sub32 poolSize (2 * memheapSize)
  let m := initItem addr m freeHeader
  let item := startAddr
  let m := initItem addr m item
  let m := put m item .next (item + availableSize + memheapSize)
  let m := put m item .prev (get m item .next)
  let m := insertFree m freeHeader item
  let tailer := get m item .next
  let m := put m tailer .magic (memheapMagic ||| memheapUsed)
  let m := put m tailer .poolPtr addr
  let m := put m tailer .next startAddr
  let m := put m tailer .prev startAddr
  let m := put m tailer .prevFree rtNull
  let m := put m tailer .nextFree rtNull
  { addr := addr
    freeHeader := freeHeader
    memory := m
    startAddr := startAddr
    poolSize := poolSize
    availableSize := availableSize
    maxUsedSize := sub32 poolSize availableSize
    blockList := startAddr
    freeList := freeHeader
    used := [] }

/-! ### Allocation -/

/-- The search of `rt_memheap_alloc` from the item `headerPtr` on, if it ends within `fuel` turns: the
item and the size it stops at. -/
def searchFree (m : ℕ → ℕ) (freeList size : ℕ) : ℕ → ℕ → ℕ → Option (ℕ × ℕ)
  | 0, _, _ => none
  | fuel + 1, headerPtr, freeSize =>
    if headerPtr ≠ freeList ∧ freeSize < size then
      let freeSize := memitemSize m headerPtr
      if freeSize < size then searchFree m freeList size fuel (get m headerPtr .nextFree) freeSize
      else searchFree m freeList size fuel headerPtr freeSize
    else some (headerPtr, freeSize)

/-- `max_used_size` is brought up to date. -/
def updateMaxUsed (s : RtMemheap) : RtMemheap :=
  if sub32 s.poolSize s.availableSize > s.maxUsedSize then
    { s with maxUsedSize := sub32 s.poolSize s.availableSize }
  else s

/-- The end of an allocation. -/
def allocEnd (s : RtMemheap) : RtMemheap :=
  { s with used := sub32 s.poolSize s.availableSize :: s.used }

/-- The block that was found is split or taken as a whole. -/
def takeBlock (s : RtMemheap) (headerPtr size freeSize : ℕ) : RtMemheap :=
  let s :=
    if freeSize ≥ add32 (add32 size memheapSize) memheapMinialloc then
      let newPtr := headerPtr + size + memheapSize
      let m := splitBlock s.addr s.memory headerPtr newPtr
      let m := detachFree m headerPtr
      let m := insertFree m s.freeList newPtr
      updateMaxUsed
        { s with memory := m, availableSize := sub32 (sub32 s.availableSize size) memheapSize }
    else
      let s := updateMaxUsed { s with availableSize := sub32 s.availableSize freeSize }
      { s with memory := detachFree s.memory headerPtr }
  { s with memory := put s.memory headerPtr .magic (memheapMagic ||| memheapUsed) }

/-- A size as the heap serves it. -/
def blockSize (size : ℕ) : ℕ :=
  if rtAlign size < memheapMinialloc then memheapMinialloc else rtAlign size

/-- `rt_memheap_alloc`, and the address it returns, if its loop ends. -/
def rtMemheapAlloc (s : RtMemheap) (size : ℕ) : Option (RtMemheap × ℕ) :=
  let size := blockSize size
  if size < s.availableSize then
    match searchFree s.memory s.freeList size s.poolSize (get s.memory s.freeList .nextFree) 0 with
    | none => none
    | some (headerPtr, freeSize) =>
      if freeSize ≥ size then
        some (allocEnd (takeBlock s headerPtr size freeSize), headerPtr + memheapSize)
      else some (allocEnd s, rtNull)
  else some (allocEnd s, rtNull)

/-! ### Release -/

/-- A block that is being freed is merged with the block before it, if that one is free.  The block that
is left, and `insert_header`. -/
def mergeLeft (s : RtMemheap) (headerPtr : ℕ) : RtMemheap × ℕ × Bool :=
  if IsUsed s.memory (get s.memory headerPtr .prev) then (s, headerPtr, true)
  else
    let m := unlinkBlock s.memory headerPtr
    ({ s with memory := m, availableSize := add32 s.availableSize memheapSize },
      get m headerPtr .prev, false)

/-- A block that is being freed is merged with the block behind it, if that one is free. -/
def mergeRight (s : RtMemheap) (headerPtr : ℕ) : RtMemheap :=
  if IsUsed s.memory (get s.memory headerPtr .next) then s
  else
    let newPtr := get s.memory headerPtr .next
    { s with
      memory := removeFree (mergeNext s.memory headerPtr newPtr) newPtr
      availableSize := add32 s.availableSize memheapSize }

/-- The block is marked free and counted. -/
def markFree (s : RtMemheap) (headerPtr : ℕ) : RtMemheap :=
  let m := put s.memory headerPtr .magic (memheapMagic ||| memheapFreed)
  { s with memory := m, availableSize := add32 s.availableSize (memitemSize m headerPtr) }

/-- `rt_memheap_free` in its pool.  `none` if the header does not lead to this pool. -/
def rtMemheapFree (s : RtMemheap) (ptr : ℕ) : Option RtMemheap :=
  if ptr = rtNull then some s
  else if get s.memory (ptr - memheapSize) .poolPtr ≠ s.addr then none
  else
    let left := mergeLeft (markFree s (ptr - memheapSize)) (ptr - memheapSize)
    let s := mergeRight left.1 left.2.1
    if left.2.2 then
      some { s with memory := insertBefore s.memory (get s.memory s.freeList .nextFree) left.2.1 }
    else some s

/-! ### Reallocation -/

/-- `rt_memcpy` of `n` bytes: the words that lie within them. -/
def rtMemcpy (m : ℕ → ℕ) (dst src n : ℕ) : ℕ → ℕ := fun a =>
  if dst ≤ a ∧ a + 4 ≤ dst + n then m (src + (a - dst)) else m a

/-- The header of the free block behind a block is moved away from it. -/
def growBlock (s : RtMemheap) (headerPtr nextPtr newsize oldsize : ℕ) : RtMemheap :=
  let s := updateMaxUsed
    { s with availableSize := sub32 s.availableSize (sub32 newsize oldsize) }
  let m := removeNextPtr s.memory nextPtr
  let nextPtr := headerPtr + memheapSize + newsize
  let m := splitBlock s.addr m headerPtr nextPtr
  allocEnd { s with memory := insertFree m s.freeList nextPtr }

/-- The end of a block is cut off and merged with the block behind it, if that one is free. -/
def shrinkBlock (s : RtMemheap) (headerPtr newsize : ℕ) : RtMemheap :=
  let newPtr := headerPtr + newsize + memheapSize
  let m := splitBlock s.addr s.memory headerPtr newPtr
  let s :=
    if IsUsed m (get m newPtr .next) then { s with memory := m }
    else
      let freePtr := get m newPtr .next
      { s with
        memory := removeFree (mergeNext m newPtr freePtr) freePtr
        availableSize := sub32 s.availableSize (memitemSize m freePtr) }
  let m := insertFree s.memory s.freeList newPtr
  { s with memory := m, availableSize := add32 s.availableSize (memitemSize m newPtr) }

/-- A block is replaced by a new one. -/
def moveBlock (s : RtMemheap) (ptr newsize oldsize : ℕ) : Option (RtMemheap × ℕ) :=
  match rtMemheapAlloc s newsize with
  | none => none
  | some (s, newPtr) =>
    if newPtr = rtNull then some (s, rtNull)
    else
      let m := rtMemcpy s.memory newPtr ptr (if oldsize < newsize then oldsize else newsize)
      (rtMemheapFree { s with memory := m } ptr).map fun s => (s, newPtr)

/-- `rt_memheap_realloc`, and the address it returns, if its loops end. -/
def rtMemheapRealloc (s : RtMemheap) (ptr newsize : ℕ) : Option (RtMemheap × ℕ) :=
  if newsize = 0 then (rtMemheapFree s ptr).map fun s => (s, rtNull)
  else
    let newsize := blockSize newsize
    if ptr = rtNull then rtMemheapAlloc s newsize
    else
      let headerPtr := ptr - memheapSize
      let oldsize := memitemSize s.memory headerPtr
      if newsize > oldsize then
        let nextPtr := get s.memory headerPtr .next
        -- `nextsize` is an `rt_int32_t`, but the sum is taken in `rt_size_t`
        if ¬ IsUsed s.memory nextPtr ∧
            add32 (memitemSize s.memory nextPtr) oldsize > add32 newsize memheapMinialloc then
          some (growBlock s headerPtr nextPtr newsize oldsize, ptr)
        else moveBlock s ptr newsize oldsize
      else if add32 (add32 newsize memheapSize) memheapMinialloc ≥ oldsize then some (s, ptr)
      else some (shrinkBlock s headerPtr newsize, ptr)

/-! ### Programs -/

/-- The heap, and the addresses that were returned and are not yet given back. -/
structure System where
  heap : RtMemheap
  live : List ℕ

def System.init (addr freeHeader : ℕ) (m : ℕ → ℕ) (startAddr size : ℕ) : System :=
  ⟨rtMemheapInit addr freeHeader m startAddr size, []⟩

inductive Action
  | alloc (size : ℕ)
  | realloc (ptr newsize : ℕ)
  | free (ptr : ℕ)
  /-- a word is stored in a live block -/
  | store (a value : ℕ)
deriving DecidableEq

/-- What is live once a call has returned `ptr`. -/
def hold (live : List ℕ) (ptr : ℕ) : List ℕ := if ptr = rtNull then live else ptr :: live

/-- What is live once `rt_memheap_realloc` has returned `res`: a block that could not be moved stays. -/
def liveAfterRealloc (live : List ℕ) (ptr newsize res : ℕ) : List ℕ :=
  if newsize ≠ 0 ∧ res = rtNull then live else hold (live.erase ptr) res

/-- A call, if it comes to an end. -/
def step (s : System) : Action → Option System
  | .alloc size => (rtMemheapAlloc s.heap size).map fun r => ⟨r.1, hold s.live r.2⟩
  | .realloc ptr newsize =>
    (rtMemheapRealloc s.heap ptr newsize).map fun r =>
      ⟨r.1, liveAfterRealloc s.live ptr newsize r.2⟩
  | .free ptr => (rtMemheapFree s.heap ptr).map fun heap => ⟨heap, s.live.erase ptr⟩
  | .store a value =>
    some { s with heap := { s.heap with memory := Function.update s.heap.memory a value } }

/-- Calls on live blocks or with `RT_NULL`, with sizes below `2^31`, and stores into live blocks. -/
def Allowed (s : System) : Action → Prop
  | .alloc size => size < 0x80000000
  | .realloc ptr newsize => (ptr ∈ s.live ∨ ptr = rtNull) ∧ newsize < 0x80000000
  | .free ptr => ptr ∈ s.live ∨ ptr = rtNull
  | .store a _ =>
    ∃ ptr ∈ s.live, ptr ≤ a ∧ a + 4 ≤ ptr + memitemSize s.heap.memory (ptr - memheapSize)

instance (s : System) (a : Action) : Decidable (Allowed s a) :=
  match a with
  | .alloc size => inferInstanceAs (Decidable (size < 0x80000000))
  | .realloc ptr newsize =>
    inferInstanceAs (Decidable ((ptr ∈ s.live ∨ ptr = rtNull) ∧ newsize < 0x80000000))
  | .free ptr => inferInstanceAs (Decidable (ptr ∈ s.live ∨ ptr = rtNull))
  | .store a _ =>
    inferInstanceAs (Decidable (∃ ptr ∈ s.live, ptr ≤ a ∧
      a + 4 ≤ ptr + memitemSize s.heap.memory (ptr - memheapSize)))

end N32L43x.Memheap
