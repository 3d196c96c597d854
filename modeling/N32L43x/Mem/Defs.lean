import Mathlib.Logic.Function.Basic
import Mathlib.Data.Nat.Init
import N32L43x.Lib.Run

/-!
The small memory heap of `rt-thread/src/mem.c`.

A position in the heap is its offset from `heap_ptr`; pointers into it are compared as offsets.
`rt_size_t` has 32 bits.  The header at every offset is modelled, whether or not one stands there:
what lies under a payload is arbitrary, and the owner of the payload may write it.
-/

namespace N32L43x.Mem

open N32L43x.Lib.Run

/-- Addition of `rt_size_t`. -/
def add32 (a b : ℕ) : ℕ := (a + b) % 4294967296

/-- Subtraction of `rt_size_t`. -/
def sub32 (a b : ℕ) : ℕ := (a + 4294967296 - b) % 4294967296

/-- `RT_ALIGN(size, RT_ALIGN_SIZE)`. -/
def rtAlign (size : ℕ) : ℕ := add32 size 7 / 8 * 8

/-- `RT_ALIGN_DOWN(size, RT_ALIGN_SIZE)`. -/
def rtAlignDown (size : ℕ) : ℕ := size / 8 * 8

/-- `SIZEOF_STRUCT_MEM`. -/
def sizeofStructMem : ℕ := 16

/-- `MIN_SIZE`. -/
def minSize : ℕ := 12

/-- `MIN_SIZE_ALIGNED`. -/
def minSizeAligned : ℕ := 16

/-- The values of `pool_ptr`: null, or the heap with the used bit clear (`MEM_FREED`) or set
(`MEM_USED`). -/
inductive PoolPtr
  | null
  | freed
  | used
deriving DecidableEq

/-- `struct rt_small_mem_item`. -/
structure MemItem where
  poolPtr : PoolPtr
  next : ℕ
  prev : ℕ

/-- `struct rt_small_mem` with the headers in its heap. -/
structure SmallMem where
  heapPtr : ℕ
  memSizeAligned : ℕ
  lfree : ℕ
  used : ℕ
  max : ℕ
  item : ℕ → MemItem

/-- `heap_end`. -/
def heapEnd (m : SmallMem) : ℕ := m.memSizeAligned + sizeofStructMem

/-- `MEM_ISUSED`. -/
def memIsused (m : SmallMem) (mem : ℕ) : Bool := decide ((m.item mem).poolPtr = .used)

def setItem (m : SmallMem) (mem : ℕ) (it : MemItem) : SmallMem :=
  { m with item := Function.update m.item mem it }

def setPoolPtr (m : SmallMem) (mem : ℕ) (p : PoolPtr) : SmallMem :=
  setItem m mem { m.item mem with poolPtr := p }

def setNext (m : SmallMem) (mem next : ℕ) : SmallMem :=
  setItem m mem { m.item mem with next := next }

def setPrev (m : SmallMem) (mem prev : ℕ) : SmallMem :=
  setItem m mem { m.item mem with prev := prev }

/-- `rt_smem_init`, over whatever is in the memory; the size of `struct rt_small_mem` is the
compiler's. -/
def rtSmemInit (sizeofSmallMem beginAddr size : ℕ) (garbage : ℕ → MemItem) : Option SmallMem :=
  let startAddr := add32 (rtAlign beginAddr) sizeofSmallMem
  let beginAlign := rtAlign startAddr
  let endAlign := rtAlignDown (add32 beginAddr size)
  if endAlign > 2 * sizeofStructMem ∧ sub32 endAlign (2 * sizeofStructMem) ≥ startAddr then
    let memSize := sub32 (sub32 endAlign beginAlign) (2 * sizeofStructMem)
    let m : SmallMem := ⟨beginAlign, memSize, 0, 0, 0, garbage⟩
    let m := setItem m 0 ⟨.freed, heapEnd m, 0⟩
    some (setItem m (heapEnd m) ⟨.used, heapEnd m, heapEnd m⟩)
  else none

/-! ### Releasing -/

/-- Both halves of `plug_holes`: the block `mem` takes in the free block `nmem` that follows it. -/
def absorb (m : SmallMem) (mem nmem : ℕ) : SmallMem :=
  let m := if m.lfree = nmem then { m with lfree := mem } else m
  let m := setPoolPtr m nmem .null
  let m := setNext m mem (m.item nmem).next
  setPrev m (m.item nmem).next mem

/-- `plug_holes`. -/
def plugHoles (m : SmallMem) (mem : ℕ) : SmallMem :=
  -- plug hole forward
  let nmem := (m.item mem).next
  let m := if mem ≠ nmem ∧ memIsused m nmem = false ∧ nmem ≠ heapEnd m then absorb m mem nmem else m
  -- plug hole backward
  let pmem := (m.item mem).prev
  if pmem ≠ mem ∧ memIsused m pmem = false then absorb m pmem mem else m

/-- `rt_smem_free`. -/
def rtSmemFree (m : SmallMem) : Option ℕ → SmallMem
  | none => m
  | some rmem =>
    let mem := rmem - sizeofStructMem
    let m := setPoolPtr m mem .freed
    let m := if mem < m.lfree then { m with lfree := mem } else m
    let m := { m with used := sub32 m.used (sub32 (m.item mem).next mem) }
    plugHoles m mem

/-! ### Allocating -/

/-- A loop along the `next` offsets that ends where `stop` holds, `none` if it runs for longer than
`fuel` turns. -/
def follow (item : ℕ → MemItem) (stop : ℕ → Bool) : ℕ → ℕ → Option ℕ
  | 0, _ => none
  | fuel + 1, ptr => if stop ptr then some ptr else follow item stop fuel (item ptr).next

/-- `mem->next - (ptr + SIZEOF_STRUCT_MEM)`. -/
def dataSize (m : SmallMem) (ptr : ℕ) : ℕ := sub32 (m.item ptr).next (add32 ptr sizeofStructMem)

/-- The loop of `rt_smem_alloc` ends at `ptr`: past the last place for the block, or at a free block
that is large enough. -/
def allocStop (m : SmallMem) (size ptr : ℕ) : Bool :=
  decide (¬ ptr ≤ sub32 m.memSizeAligned size) ||
    (memIsused m ptr == false && decide (dataSize m ptr ≥ size))

/-- The loop that looks for the next free block ends at `ptr`. -/
def lfreeStop (m : SmallMem) (ptr : ℕ) : Bool :=
  !(memIsused m ptr && decide (ptr ≠ heapEnd m))

/-- A turn of a loop moves on by a header at least. -/
def loopFuel (m : SmallMem) : ℕ := heapEnd m + 1

/-- A new free block inside the block at `ptr`, behind `size` bytes of data. -/
def splitBlock (m : SmallMem) (ptr size : ℕ) : SmallMem :=
  let ptr2 := add32 (add32 ptr sizeofStructMem) size
  let m := setItem m ptr2 ⟨.freed, (m.item ptr).next, ptr⟩
  let m := setNext m ptr ptr2
  if (m.item ptr2).next ≠ heapEnd m then setPrev m (m.item ptr2).next ptr2 else m

/-- `small_mem->parent.used += n` with the maximum after it. -/
def addUsed (m : SmallMem) (n : ℕ) : SmallMem :=
  let used := add32 m.used n
  { m with used := used, max := if m.max < used then used else m.max }

/-- The body of the loop of `rt_smem_alloc` for a block that is large enough. -/
def takeBlock (m : SmallMem) (ptr size : ℕ) : Option SmallMem :=
  let m :=
    if dataSize m ptr ≥ add32 (add32 size sizeofStructMem) minSizeAligned then
      addUsed (splitBlock m ptr size) (add32 size sizeofStructMem)
    else addUsed m (sub32 (m.item ptr).next ptr)
  let m := setPoolPtr m ptr .used
  if ptr = m.lfree then
    (follow m.item (lfreeStop m) (loopFuel m) m.lfree).map fun lfree => { m with lfree := lfree }
  else some m

/-- `rt_smem_alloc`; `none` stands for a call that does not return. -/
def rtSmemAlloc (m : SmallMem) (size : ℕ) : Option (SmallMem × Option ℕ) :=
  if size = 0 then some (m, none)
  else
    let size := rtAlign size
    let size := if size < minSizeAligned then minSizeAligned else size
    if size > m.memSizeAligned then some (m, none)
    else
      (follow m.item (allocStop m size) (loopFuel m) m.lfree).bind fun ptr =>
        if ptr ≤ sub32 m.memSizeAligned size then
          (takeBlock m ptr size).map fun m => (m, some (add32 ptr sizeofStructMem))
        else some (m, none)

/-- The part of `rt_smem_realloc` that shrinks a block in place. -/
def shrinkBlock (m : SmallMem) (ptr size newsize : ℕ) : SmallMem :=
  let m := { m with used := sub32 m.used (sub32 size newsize) }
  let m := splitBlock m ptr newsize
  let ptr2 := add32 (add32 ptr sizeofStructMem) newsize
  let m := if ptr2 < m.lfree then { m with lfree := ptr2 } else m
  plugHoles m ptr2

/-- `rt_smem_realloc`; the copy of the data into a new block is left out. -/
def rtSmemRealloc (m : SmallMem) (rmem : Option ℕ) (newsize : ℕ) :
    Option (SmallMem × Option ℕ) :=
  let newsize := rtAlign newsize
  if newsize > m.memSizeAligned then some (m, none)
  else if newsize = 0 then some (rtSmemFree m rmem, none)
  else
    match rmem with
    | none => rtSmemAlloc m newsize
    | some p =>
      let ptr := p - sizeofStructMem
      let size := sub32 (sub32 (m.item ptr).next ptr) sizeofStructMem
      if size = newsize then some (m, some p)
      else if add32 (add32 newsize sizeofStructMem) minSize < size then
        some (shrinkBlock m ptr size newsize, some p)
      else
        (rtSmemAlloc m newsize).map fun (m, nmem) =>
          match nmem with
          | none => (m, none)
          | some q => (rtSmemFree m (some p), some q)

/-! ### A program that uses the heap -/

/-- The heap and the blocks the program holds: which pointers, and the number of bytes it has asked
for behind each. -/
structure Sys where
  mem : SmallMem
  live : ℕ → Option ℕ

inductive Action
  | alloc (size : ℕ)
  | realloc (rmem : Option ℕ) (newsize : ℕ)
  | free (rmem : Option ℕ)
  /-- the program writes to one of its blocks, whatever a header read there would give -/
  | store (o : ℕ) (it : MemItem)

/-- The pointer a call returned, if it is not null, is live from then on. -/
def hold (live : ℕ → Option ℕ) (size : ℕ) : Option ℕ → ℕ → Option ℕ
  | none => live
  | some p => Function.update live p (some size)

/-- A pointer that was handed back is not live any more. -/
def drop (live : ℕ → Option ℕ) : Option ℕ → ℕ → Option ℕ
  | none => live
  | some p => Function.update live p none

/-- What is live after `rt_smem_realloc` has returned `res`: null with a new size that is not `0`
leaves the old block as it was. -/
def liveAfterRealloc (live : ℕ → Option ℕ) (rmem : Option ℕ) (newsize : ℕ) (res : Option ℕ) :
    ℕ → Option ℕ :=
  if newsize = 0 then drop live rmem
  else
    match res with
    | none => live
    | some q => hold (drop live rmem) newsize (some q)

def step (s : Sys) : Action → Option Sys
  | .alloc size =>
    (rtSmemAlloc s.mem size).map fun (m, res) => ⟨m, hold s.live size res⟩
  | .realloc rmem newsize =>
    (rtSmemRealloc s.mem rmem newsize).map fun (m, res) =>
      ⟨m, liveAfterRealloc s.live rmem newsize res⟩
  | .free rmem => some ⟨rtSmemFree s.mem rmem, drop s.live rmem⟩
  | .store o it => some { s with mem := setItem s.mem o it }

/-- The pointer handed to a call is null or live. -/
def IsLive (s : Sys) (rmem : Option ℕ) : Prop := ∀ p ∈ rmem, (s.live p).isSome

/-- What the heap asks of its user: sizes that do not wrap around when they are
rounded up, calls on live blocks only, and writes inside live blocks only. -/
def Valid (s : Sys) : Action → Prop
  | .alloc size => size < 4294967296 - 8
  | .realloc rmem newsize => newsize < 4294967296 - 8 ∧ IsLive s rmem
  | .free rmem => IsLive s rmem
  | .store o _ => ∃ p n, s.live p = some n ∧ p ≤ o ∧ o < p + n

end N32L43x.Mem
