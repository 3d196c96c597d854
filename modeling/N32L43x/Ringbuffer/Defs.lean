import Mathlib.Data.BitVec
import Mathlib.Data.List.Range
import Mathlib.Logic.Function.Basic

/-!
`components/drivers/ipc/ringbuffer.c`.  An offset has 31 bits and a mirror bit, which is turned over each
time the offset comes to the end of the buffer.
-/

namespace N32L43x.Ringbuffer

abbrev Byte := BitVec 8

/-- `struct rt_ringbuffer`, and the memory that `buffer_ptr` points to. -/
structure RtRingbuffer where
  bufferPtr : ℕ → Byte
  readMirror : Bool
  readIndex : ℕ
  writeMirror : Bool
  writeIndex : ℕ
  bufferSize : ℕ

/-- `enum rt_ringbuffer_state`. -/
inductive RingbufferState
  | empty
  | full
  | halffull
deriving DecidableEq

/-- What is stored in a field of 31 bits. -/
def index (n : ℕ) : ℕ := n % 0x80000000

/-- `rt_memcpy(&dst[offset], src, length)`. -/
def rtMemcpy (dst : ℕ → Byte) (offset : ℕ) (src : List Byte) (i : ℕ) : Byte :=
  if offset ≤ i then (src[i - offset]?).getD (dst i) else dst i

/-- `length` bytes at `&src[offset]`. -/
def bytesAt (src : ℕ → Byte) (offset length : ℕ) : List Byte :=
  (List.range length).map fun i => src (offset + i)

/-- `rt_ringbuffer_init`. -/
def rtRingbufferInit (pool : ℕ → Byte) (size : ℕ) : RtRingbuffer where
  bufferPtr := pool
  readMirror := false
  readIndex := 0
  writeMirror := false
  writeIndex := 0
  -- `RT_ALIGN_DOWN(size, RT_ALIGN_SIZE)`
  bufferSize := size - size % 8

/-- `rt_ringbuffer_status`. -/
def rtRingbufferStatus (rb : RtRingbuffer) : RingbufferState :=
  if rb.readIndex = rb.writeIndex then
    if rb.readMirror = rb.writeMirror then .empty else .full
  else .halffull

/-- `rt_ringbuffer_data_len`. -/
def rtRingbufferDataLen (rb : RtRingbuffer) : ℕ :=
  match rtRingbufferStatus rb with
  | .empty => 0
  | .full => rb.bufferSize
  | .halffull =>
    if rb.writeIndex > rb.readIndex then rb.writeIndex - rb.readIndex
    else rb.bufferSize - (rb.readIndex - rb.writeIndex)

/-- `rt_ringbuffer_space_len`. -/
def rtRingbufferSpaceLen (rb : RtRingbuffer) : ℕ := rb.bufferSize - rtRingbufferDataLen rb

/-- The end of `rt_ringbuffer_put` and of `rt_ringbuffer_put_force`, up to the write offset: all of `ptr` is
copied, in one part or in two. -/
def copyIn (rb : RtRingbuffer) (ptr : List Byte) : RtRingbuffer :=
  if rb.bufferSize - rb.writeIndex > ptr.length then
    { rb with
      bufferPtr := rtMemcpy rb.bufferPtr rb.writeIndex ptr
      writeIndex := index (rb.writeIndex + ptr.length) }
  else
    let first := rb.bufferSize - rb.writeIndex
    { rb with
      bufferPtr := rtMemcpy (rtMemcpy rb.bufferPtr rb.writeIndex (ptr.take first)) 0 (ptr.drop first)
      writeMirror := !rb.writeMirror
      writeIndex := index (ptr.length - first) }

/-- `rt_ringbuffer_put`, and the length it returns. -/
def rtRingbufferPut (rb : RtRingbuffer) (ptr : List Byte) : RtRingbuffer × ℕ :=
  let size := rtRingbufferSpaceLen rb
  if size = 0 then (rb, 0)
  else
    -- drop some data
    let ptr := if size < ptr.length then ptr.take size else ptr
    (copyIn rb ptr, ptr.length)

/-- `rt_ringbuffer_put_force`. -/
def rtRingbufferPutForce (rb : RtRingbuffer) (ptr : List Byte) : RtRingbuffer × ℕ :=
  let spaceLength := rtRingbufferSpaceLen rb
  let ptr := if ptr.length > rb.bufferSize then ptr.drop (ptr.length - rb.bufferSize) else ptr
  let wraps := ¬ rb.bufferSize - rb.writeIndex > ptr.length
  let rb := copyIn rb ptr
  let rb :=
    if ptr.length > spaceLength then
      { rb with
        readMirror :=
          if wraps ∧ rb.writeIndex ≤ rb.readIndex then !rb.readMirror else rb.readMirror
        readIndex := rb.writeIndex }
    else rb
  (rb, ptr.length)

/-- `rt_ringbuffer_get`, the bytes it copies to `ptr` and the length it returns. -/
def rtRingbufferGet (rb : RtRingbuffer) (length : ℕ) : RtRingbuffer × List Byte × ℕ :=
  let size := rtRingbufferDataLen rb
  if size = 0 then (rb, [], 0)
  else
    let length := if size < length then size else length
    if rb.bufferSize - rb.readIndex > length then
      ({ rb with readIndex := index (rb.readIndex + length) },
        bytesAt rb.bufferPtr rb.readIndex length, length)
    else
      let first := rb.bufferSize - rb.readIndex
      ({ rb with readMirror := !rb.readMirror, readIndex := index (length - first) },
        bytesAt rb.bufferPtr rb.readIndex first ++ bytesAt rb.bufferPtr 0 (length - first), length)

/-- `rt_ringbuffer_peek`: the offset that `*ptr` points to, and the length it returns. -/
def rtRingbufferPeek (rb : RtRingbuffer) : RtRingbuffer × Option ℕ × ℕ :=
  let size := rtRingbufferDataLen rb
  if size = 0 then (rb, none, 0)
  else if rb.bufferSize - rb.readIndex > size then
    ({ rb with readIndex := index (rb.readIndex + size) }, some rb.readIndex, size)
  else
    ({ rb with readMirror := !rb.readMirror, readIndex := 0 }, some rb.readIndex,
      rb.bufferSize - rb.readIndex)

/-- `rt_ringbuffer_putchar`. -/
def rtRingbufferPutchar (rb : RtRingbuffer) (ch : Byte) : RtRingbuffer × ℕ :=
  if rtRingbufferSpaceLen rb = 0 then (rb, 0)
  else
    let rb' := { rb with bufferPtr := Function.update rb.bufferPtr rb.writeIndex ch }
    if rb.writeIndex = rb.bufferSize - 1 then
      ({ rb' with writeMirror := !rb.writeMirror, writeIndex := 0 }, 1)
    else ({ rb' with writeIndex := index (rb.writeIndex + 1) }, 1)

/-- `rt_ringbuffer_putchar_force`. -/
def rtRingbufferPutcharForce (rb : RtRingbuffer) (ch : Byte) : RtRingbuffer × ℕ :=
  let oldState := rtRingbufferStatus rb
  let rb' := { rb with bufferPtr := Function.update rb.bufferPtr rb.writeIndex ch }
  if rb.writeIndex = rb.bufferSize - 1 then
    let rb' := { rb' with writeMirror := !rb.writeMirror, writeIndex := 0 }
    if oldState = .full then
      ({ rb' with readMirror := !rb.readMirror, readIndex := rb'.writeIndex }, 1)
    else (rb', 1)
  else
    let rb' := { rb' with writeIndex := index (rb.writeIndex + 1) }
    if oldState = .full then ({ rb' with readIndex := rb'.writeIndex }, 1) else (rb', 1)

/-- `rt_ringbuffer_getchar`: the byte it stores to `*ch`, and the length it returns. -/
def rtRingbufferGetchar (rb : RtRingbuffer) : RtRingbuffer × Option Byte × ℕ :=
  if rtRingbufferDataLen rb = 0 then (rb, none, 0)
  else
    let ch := rb.bufferPtr rb.readIndex
    if rb.readIndex = rb.bufferSize - 1 then
      ({ rb with readMirror := !rb.readMirror, readIndex := 0 }, some ch, 1)
    else ({ rb with readIndex := index (rb.readIndex + 1) }, some ch, 1)

/-- `rt_ringbuffer_reset`. -/
def rtRingbufferReset (rb : RtRingbuffer) : RtRingbuffer :=
  { rb with readMirror := false, readIndex := 0, writeMirror := false, writeIndex := 0 }

/-! ### The calls -/

inductive Op
  | put (ptr : List Byte)
  | putForce (ptr : List Byte)
  | get (length : ℕ)
  | peek
  | putchar (ch : Byte)
  | putcharForce (ch : Byte)
  | getchar
  | dataLen
  | reset
deriving DecidableEq

/-- What a call delivers: the bytes, and the length it returns. -/
structure Result where
  bytes : List Byte
  length : ℕ
deriving DecidableEq

def call (rb : RtRingbuffer) : Op → RtRingbuffer × Result
  | .put ptr => let (rb, n) := rtRingbufferPut rb ptr; (rb, ⟨[], n⟩)
  | .putForce ptr => let (rb, n) := rtRingbufferPutForce rb ptr; (rb, ⟨[], n⟩)
  | .get length => let (rb, bytes, n) := rtRingbufferGet rb length; (rb, ⟨bytes, n⟩)
  | .peek =>
    let (rb', ptr, n) := rtRingbufferPeek rb
    (rb', ⟨ptr.elim [] fun offset => bytesAt rb.bufferPtr offset n, n⟩)
  | .putchar ch => let (rb, n) := rtRingbufferPutchar rb ch; (rb, ⟨[], n⟩)
  | .putcharForce ch => let (rb, n) := rtRingbufferPutcharForce rb ch; (rb, ⟨[], n⟩)
  | .getchar => let (rb, ch, n) := rtRingbufferGetchar rb; (rb, ⟨ch.toList, n⟩)
  | .dataLen => (rb, ⟨[], rtRingbufferDataLen rb⟩)
  | .reset => (rtRingbufferReset rb, ⟨[], 0⟩)

/-! ### The specification

A queue of at most `capacity` bytes.  What a peek removes depends on where the bytes are. -/

/-- The effect of a call on the queue, and what it delivers; `together` is how many bytes from the first one
on may lie together. -/
def apply (capacity together : ℕ) (queue : List Byte) : Op → List Byte × Result
  | .put ptr =>
    let n := min ptr.length (capacity - queue.length)
    (queue ++ ptr.take n, ⟨[], n⟩)
  | .putForce ptr =>
    let all := queue ++ ptr
    (all.drop (all.length - capacity), ⟨[], min ptr.length capacity⟩)
  | .get length => (queue.drop length, ⟨queue.take length, min length queue.length⟩)
  | .peek => (queue.drop together, ⟨queue.take together, min together queue.length⟩)
  | .putchar ch =>
    if queue.length < capacity then (queue ++ [ch], ⟨[], 1⟩) else (queue, ⟨[], 0⟩)
  | .putcharForce ch =>
    let all := queue ++ [ch]
    (all.drop (all.length - capacity), ⟨[], 1⟩)
  | .getchar => (queue.drop 1, ⟨queue.take 1, min 1 queue.length⟩)
  | .dataLen => (queue, ⟨[], queue.length⟩)
  | .reset => ([], ⟨[], 0⟩)

end N32L43x.Ringbuffer
