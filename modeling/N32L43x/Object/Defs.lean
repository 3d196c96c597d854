import N32L43x.Lib.Writes
import N32L43x.Mem.Kservice
import N32L43x.Mempool.Defs

/-!
The objects of `rt-thread/src/object.c` and the constructors of pools and queues, which enter an object in
the list of its class and take memory from the system heap.

An object is its address.  The heap is a small memory heap, and a pointer into it is an offset from
`heap_ptr`, as for the calls of the heap.  What an object holds is not in the bytes of the heap: a
constructor returns the fields that are of interest, and the words it has written in the pool.
-/

namespace N32L43x.Object

open N32L43x.Mem

/-- The classes of `enum rt_object_class_type` that the constructors use. -/
inductive ObjectClass
  | thread
  | semaphore
  | mailBox
  | messageQueue
  | memPool
  | timer
deriving DecidableEq

/-- What the compiler decides: the sizes of the structures, and where a structure is in another one. -/
structure Layout where
  /-- `information->object_size` -/
  objectSize : ObjectClass → ℕ
  sizeofWorkqueue : ℕ
  /-- the offset of `sem` in `struct rt_workqueue` -/
  workqueueSem : ℕ
  /-- the offset of `thread_timer` in `struct rt_thread` -/
  threadTimer : ℕ

/-- The system heap and `_object_container`. -/
structure Kernel where
  store : Store
  /-- the objects of a class, the one entered last in front -/
  objectList : ObjectClass → List ℕ
  layout : Layout

/-! ### Objects -/

/-- `rt_object_init`. -/
def rtObjectInit (k : Kernel) (type : ObjectClass) (object : ℕ) : Kernel :=
  { k with objectList := Function.update k.objectList type (object :: k.objectList type) }

/-- `rt_object_detach`. -/
def rtObjectDetach (k : Kernel) (type : ObjectClass) (object : ℕ) : Kernel :=
  { k with objectList := Function.update k.objectList type ((k.objectList type).erase object) }

/-- `RT_KERNEL_MALLOC`, if its loop ends. -/
def rtKernelMalloc (k : Kernel) (size : ℕ) : Option (Kernel × Option ℕ) :=
  (k.store.rtMalloc size).map fun r => ({ k with store := r.1 }, r.2)

/-- `RT_KERNEL_FREE`. -/
def rtKernelFree (k : Kernel) (ptr : ℕ) : Kernel := { k with store := k.store.rtFree (some ptr) }

/-- `rt_object_allocate`. -/
def rtObjectAllocate (k : Kernel) (type : ObjectClass) : Option (Kernel × Option ℕ) :=
  (rtKernelMalloc k (k.layout.objectSize type)).map fun r =>
    match r.2 with
    | none => (r.1, none)
    | some object => (rtObjectInit r.1 type (r.1.store.addrOf object), some object)

/-- `rt_object_delete`. -/
def rtObjectDelete (k : Kernel) (type : ObjectClass) (object : ℕ) : Kernel :=
  rtKernelFree (rtObjectDetach k type (k.store.addrOf object)) object

/-- An object and `size` bytes for it.  If these cannot be had, the object is deleted. -/
def createWith (k : Kernel) (type : ObjectClass) (size : ℕ) : Option (Kernel × Option (ℕ × ℕ)) :=
  (rtObjectAllocate k type).bind fun r =>
    match r.2 with
    | none => some (r.1, none)
    | some object =>
      (rtKernelMalloc r.1 size).map fun r =>
        match r.2 with
        | none => (rtObjectDelete r.1 type object, none)
        | some start => (r.1, some (object, start))

/-! ### Pools -/

/-- The blocks of a memory pool or a message queue, as the object describes them.  The last field is not in
the code: the words that the constructor has written in the headers of the blocks, in order. -/
structure Pool where
  /-- `start_address`, `msg_pool` -/
  start : ℕ
  /-- `block_size`, `msg_size` -/
  blockSize : ℕ
  /-- `block_total_count`, `max_msgs` -/
  count : ℕ
  /-- `block_list`, `msg_queue_free` -/
  freeList : ℕ
  writes : List (ℕ × ℕ)

/-- `RT_NULL`. -/
def rtNull : ℕ := 0

/-- `sizeof(rt_uint8_t *)`. -/
def sizeofPtr : ℕ := 4

/-- `sizeof(struct rt_mq_message)`: the link and the length. -/
def sizeofMqMessage : ℕ := 8

/-- `pool + i * stride`. -/
def blockAt (pool stride i : ℕ) : ℕ := (pool + i * stride) % 4294967296

/-- The pool of `block_total_count` blocks at `block_ptr`: each header is linked to the next one, and the
header at `offset - 1` to none. -/
def linkBlocks (blockPtr blockSize blockTotalCount : ℕ) : Pool where
  start := blockPtr
  blockSize := blockSize
  count := blockTotalCount
  freeList := blockPtr
  writes :=
    (List.range blockTotalCount).map (fun offset =>
      (blockAt blockPtr (blockSize + sizeofPtr) offset,
        blockAt blockPtr (blockSize + sizeofPtr) (offset + 1))) ++
      [(blockAt blockPtr (blockSize + sizeofPtr) (sub32 blockTotalCount 1), rtNull)]

/-- `rt_mp_init`. -/
def rtMpInit (k : Kernel) (mp start size blockSize : ℕ) : Kernel × Pool :=
  let size := rtAlignDown size
  let blockSize := rtAlign blockSize
  (rtObjectInit k .memPool mp, linkBlocks start blockSize (size / (blockSize + sizeofPtr)))

/-- `rt_mp_create`. -/
def rtMpCreate (k : Kernel) (blockCount blockSize : ℕ) : Option (Kernel × Option Pool) :=
  let blockSize := rtAlign blockSize
  (createWith k .memPool (Store.mul32 (blockSize + sizeofPtr) blockCount)).map fun r =>
    (r.1, r.2.map fun p => linkBlocks (r.1.store.addrOf p.2) blockSize blockCount)

/-- A turn of the loop of `rt_mq_init`: the message `temp` goes to the front of the free list. -/
def initMessage (msgPool stride : ℕ) (p : Pool) (temp : ℕ) : Pool :=
  { p with
    freeList := blockAt msgPool stride temp
    writes := p.writes ++ [(blockAt msgPool stride temp, p.freeList)] }

/-- The pool of `max_msgs` messages at `msg_pool`. -/
def linkMessages (msgPool stride msgSize maxMsgs : ℕ) : Pool :=
  (List.range maxMsgs).foldl (initMessage msgPool stride)
    { start := msgPool
      blockSize := msgSize
      count := maxMsgs
      freeList := rtNull
      writes := [] }

/-- A value as a field of type `rt_uint16_t` holds it. -/
def uint16 (n : ℕ) : ℕ := n % 65536

/-- `msg_align_size + sizeof(struct rt_mq_message)`. -/
def messageStride (msgSize : ℕ) : ℕ := add32 (rtAlign msgSize) sizeofMqMessage

/-- `rt_mq_init`, which returns `-RT_EINVAL` if there is no pool.  A quotient by `0` is `0`, as the
processor has it. -/
def rtMqInit (k : Kernel) (mq msgPool msgSize poolSize : ℕ) : Kernel × Option Pool :=
  let maxMsgs := uint16 (poolSize / messageStride msgSize)
  (rtObjectInit k .messageQueue mq,
    if maxMsgs = 0 then none
    else some (linkMessages msgPool (messageStride msgSize) (uint16 msgSize) maxMsgs))

/-- `rt_mq_create`. -/
def rtMqCreate (k : Kernel) (msgSize maxMsgs : ℕ) : Option (Kernel × Option Pool) :=
  let maxMsgs := uint16 maxMsgs
  (createWith k .messageQueue (Store.mul32 (messageStride msgSize) maxMsgs)).map fun r =>
    (r.1, r.2.map fun p =>
      linkMessages (r.1.store.addrOf p.2) (messageStride msgSize) (uint16 msgSize) maxMsgs)

/-! ### Other constructors -/

/-- `rt_mb_create`. -/
def rtMbCreate (k : Kernel) (size : ℕ) : Option (Kernel × Option ℕ) :=
  (createWith k .mailBox (uint16 size * sizeofPtr)).map fun r => (r.1, r.2.map Prod.fst)

/-- `rt_thread_create`.  The thread has a timer. -/
def rtThreadCreate (k : Kernel) (stackSize : ℕ) : Option (Kernel × Option ℕ) :=
  (createWith k .thread stackSize).map fun r =>
    match r.2 with
    | none => (r.1, none)
    | some p =>
      (rtObjectInit r.1 .timer (r.1.store.addrOf p.1 + r.1.layout.threadTimer), some p.1)

/-- `rt_workqueue_create`, up to the start of its thread. -/
def rtWorkqueueCreate (k : Kernel) (stackSize : ℕ) : Option (Kernel × Option ℕ) :=
  (rtKernelMalloc k k.layout.sizeofWorkqueue).bind fun r =>
    match r.2 with
    | none => some (r.1, none)
    | some queue =>
      let sem := r.1.store.addrOf queue + r.1.layout.workqueueSem
      (rtThreadCreate (rtObjectInit r.1 .semaphore sem) stackSize).map fun r =>
        match r.2 with
        | none => (rtKernelFree (rtObjectDetach r.1 .semaphore sem) queue, none)
        | some _ => (r.1, some queue)

end N32L43x.Object
