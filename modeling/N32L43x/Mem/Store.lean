import Mathlib.Order.Bounds.Defs
import N32L43x.Mem.Search

/-!
The small memory heap with the bytes of its memory, and any program that uses it: it calls the heap on
live blocks, with requests of any size, and writes to their payloads.

A header that a call writes is put over the bytes of its place, and a write to a payload changes what
a header read there would be.
-/

namespace N32L43x.Mem

open N32L43x.Lib.Run

/-! ### Words in memory -/

/-- The bytes of a word in memory, the lowest first. -/
def wordByte (w : ℕ) : ℕ → BitVec 8
  | 0 => BitVec.ofNat 8 w
  | 1 => BitVec.ofNat 8 (w / 256)
  | 2 => BitVec.ofNat 8 (w / 65536)
  | _ => BitVec.ofNat 8 (w / 16777216)

/-- The word at `o`. -/
def wordAt (byte : ℕ → BitVec 8) (o : ℕ) : ℕ :=
  (byte o).toNat + 256 * (byte (o + 1)).toNat + 65536 * (byte (o + 2)).toNat +
    16777216 * (byte (o + 3)).toNat

/-- The word in `pool_ptr`, of a heap whose `struct rt_small_mem` is at `pool`. -/
def poolWord (pool : ℕ) : PoolPtr → ℕ
  | .null => 0
  | .freed => pool
  | .used => pool + 1

/-- The bytes of a `struct rt_small_mem_item`. -/
def headerByte (pool : ℕ) (it : MemItem) (i : ℕ) : BitVec 8 :=
  if i < 4 then wordByte (poolWord pool it.poolPtr) i
  else if i < 8 then wordByte it.next (i - 4)
  else wordByte it.prev (i - 8)

/-- What a header read at `o` would be. -/
def headerAt (byte : ℕ → BitVec 8) (o : ℕ) : MemItem where
  poolPtr :=
    if wordAt byte o % 2 = 1 then .used else if wordAt byte o = 0 then .null else .freed
  next := wordAt byte (o + 4)
  prev := wordAt byte (o + 8)

/-- The bytes of a `struct rt_small_mem_item`: `MIN_SIZE` is their number too. -/
def sizeofItem : ℕ := 12

/-! ### The heap with its memory -/

/-- The heap, the address of its `struct rt_small_mem`, and the bytes of its memory by their
offsets. -/
structure Store where
  mem : SmallMem
  pool : ℕ
  byte : ℕ → BitVec 8

/-- A call has written a header at `x`. -/
def written (m m' : SmallMem) (x : ℕ) : Bool :=
  !(decide ((m'.item x).poolPtr = (m.item x).poolPtr) && decide ((m'.item x).next = (m.item x).next) &&
    decide ((m'.item x).prev = (m.item x).prev))

/-- The heap as a call leaves it, with the bytes of the headers it has written. -/
def Store.put (s : Store) (m : SmallMem) : Store where
  mem := m
  pool := s.pool
  byte o :=
    match (List.range sizeofItem).find? fun i => decide (i ≤ o) && written s.mem m (o - i) with
    | some i => headerByte s.pool (m.item (o - i)) i
    | none => s.byte o

/-- A write of `n` bytes at `o`. -/
def Store.write (s : Store) (o n : ℕ) (v : ℕ → BitVec 8) : Store :=
  let byte := fun x => if o ≤ x ∧ x < o + n then v (x - o) else s.byte x
  { s with
    byte := byte
    mem := { s.mem with
      item := fun x => if x < o + n ∧ o < x + sizeofItem then headerAt byte x else s.mem.item x } }

/-- `rt_memcpy`, of bytes that lie apart from where they go. -/
def Store.rtMemcpy (s : Store) (dst src count : ℕ) : Store :=
  s.write dst count fun i => s.byte (src + i)

/-- `rt_smem_alloc`. -/
def Store.rtSmemAlloc (s : Store) (size : ℕ) : Option (Store × Option ℕ) :=
  (Mem.rtSmemAlloc s.mem size).map fun r => (s.put r.1, r.2)

/-- `rt_smem_free`. -/
def Store.rtSmemFree (s : Store) (rmem : Option ℕ) : Store := s.put (Mem.rtSmemFree s.mem rmem)

/-- The end of `rt_smem_realloc`: the data goes to the block that was found. -/
def Store.expand (p count : ℕ) (r : Store × Option ℕ) : Store × Option ℕ :=
  match r.2 with
  | none => (r.1, none)
  | some q => ((r.1.rtMemcpy q p count).rtSmemFree (some p), some q)

/-- `rt_smem_realloc`. -/
def Store.rtSmemRealloc (s : Store) (rmem : Option ℕ) (newsize : ℕ) :
    Option (Store × Option ℕ) :=
  let newsize := rtAlign newsize
  if newsize > s.mem.memSizeAligned then some (s, none)
  else if newsize = 0 then some (s.rtSmemFree rmem, none)
  else
    match rmem with
    | none => s.rtSmemAlloc newsize
    | some p =>
      let ptr := p - sizeofStructMem
      let size := sub32 (sub32 (s.mem.item ptr).next ptr) sizeofStructMem
      if size = newsize then some (s, some p)
      else if add32 (add32 newsize sizeofStructMem) minSize < size then
        some (s.put (shrinkBlock s.mem ptr size newsize), some p)
      else
        (s.rtSmemAlloc newsize).map (Store.expand p (if size < newsize then size else newsize))

/-! ### Blocks in the chain -/

/-- The offsets the chain of headers leads to from the start of the heap. -/
inductive OnChain (m : SmallMem) : ℕ → Prop
  | start : OnChain m 0
  | next {o : ℕ} : OnChain m o → o ≠ heapEnd m → OnChain m (m.item o).next

/-- A block starts at `o`. -/
def BlockAt (m : SmallMem) (o : ℕ) : Prop := OnChain m o ∧ o ≠ heapEnd m

/-- `p` is the payload of a block in use. -/
def Live (m : SmallMem) (p : ℕ) : Prop :=
  ∃ o, BlockAt m o ∧ memIsused m o = true ∧ p = o + sizeofStructMem

/-- The bytes of the payload at `p`. -/
def payloadSize (m : SmallMem) (p : ℕ) : ℕ := dataSize m (p - sizeofStructMem)

/-- The block at `o` is free and has a payload of `need` bytes. -/
def Fits (m : SmallMem) (need o : ℕ) : Prop :=
  BlockAt m o ∧ memIsused m o = false ∧ need ≤ dataSize m o

/-! ### Any program -/

namespace Store

inductive Action
  | alloc (size : BitVec 32)
  | realloc (rmem : Option ℕ) (newsize : BitVec 32)
  | free (rmem : Option ℕ)
  | write (o : ℕ) (v : BitVec 8)

def step (s : Store) : Action → Option Store
  | .alloc size => (s.rtSmemAlloc size.toNat).map Prod.fst
  | .realloc rmem newsize => (s.rtSmemRealloc rmem newsize.toNat).map Prod.fst
  | .free rmem => some (s.rtSmemFree rmem)
  | .write o v => some (s.write o 1 fun _ => v)

/-- Requests may be of any size; calls are on live blocks, and writes in their payloads. -/
def Valid (s : Store) : Action → Prop
  | .alloc _ => True
  | .realloc rmem _ => ∀ p ∈ rmem, Live s.mem p
  | .free rmem => ∀ p ∈ rmem, Live s.mem p
  | .write o _ => ∃ p, Live s.mem p ∧ p ≤ o ∧ o < p + payloadSize s.mem p

end Store

end N32L43x.Mem
