import Mathlib.Data.List.Basic
import Mathlib.Logic.Function.Basic
import N32L43x.Ipc.Wait

/-!
The memory pool of `rt-thread/src/mempool.c`.

An agent is a thread or an interrupt handler that calls the pool.  A section under the spin lock is one
step.  Agents interleave freely: which of them the scheduler runs next, when a timer expires, how long a
thread sleeps and whether the scheduler could suspend a caller or make a waiter ready are open.
-/

namespace N32L43x.Mempool

open N32L43x.Ipc

/-- Where an agent stands in its call. -/
inductive Pc
  | idle
  | allocEntry (time : BitVec 32)
  /-- after the call of `rt_thread_suspend_to_list` -/
  | allocWait (time : BitVec 32)
  | freeEntry (block : ℕ)
  /-- `mp` is read from the header of the block -/
  | freeRead (blockPtr mp : ℕ)
  /-- what `rt_mp_alloc` returns, `0` for `RT_NULL` and for the end of `rt_mp_free` -/
  | done (block : ℕ)
  /-- an address is followed that is not the one of an object -/
  | fault
deriving DecidableEq

/-- `struct rt_mempool` at the address `mp`, the memory and the agents.  The last two fields are not in
the code: the headers of the blocks that are taken from the pool and not yet linked back, and those among
them that are passed to `rt_mp_free`. -/
structure RtMempool (Ag : Type*) where
  mp : ℕ
  /-- the word at an address; the headers are words that do not overlap -/
  memory : ℕ → ℕ
  startAddress : ℕ
  size : ℕ
  blockSize : ℕ
  blockList : ℕ
  blockTotalCount : ℕ
  blockFreeCount : ℕ
  suspendThread : List Ag
  /-- `thread->error` -/
  error : Ag → IpcErr
  pc : Ag → Pc
  live : List ℕ
  freeing : List ℕ

/-- `RT_NULL`. -/
def rtNull : ℕ := 0

/-- `RT_ALIGN(size, RT_ALIGN_SIZE)`. -/
def rtAlign (size : ℕ) : ℕ := (size + 7) % 0x100000000 / 8 * 8

/-- `RT_ALIGN_DOWN(size, RT_ALIGN_SIZE)`. -/
def rtAlignDown (size : ℕ) : ℕ := size / 8 * 8

/-- `sizeof(rt_uint8_t *)`. -/
def sizeofPtr : ℕ := 4

/-- `block_ptr + offset * (block_size + sizeof(rt_uint8_t *))`. -/
def blockAddr (blockPtr blockSize offset : ℕ) : ℕ :=
  (blockPtr + offset * (blockSize + sizeofPtr)) % 0x100000000

/-- One turn of the loop of `rt_mp_init`: a header is linked to the next one. -/
def initBlock (blockPtr blockSize : ℕ) (memory : ℕ → ℕ) (offset : ℕ) : ℕ → ℕ :=
  Function.update memory (blockAddr blockPtr blockSize offset) (blockAddr blockPtr blockSize (offset + 1))

/-- `rt_mp_init` over whatever the memory holds. -/
def rtMpInit {Ag : Type*} (mp : ℕ) (memory : ℕ → ℕ) (start size blockSize : ℕ) : RtMempool Ag :=
  let size := rtAlignDown size
  let blockSize := rtAlign blockSize
  let blockTotalCount := size / (blockSize + sizeofPtr)
  let linked := (List.range blockTotalCount).foldl (initBlock start blockSize) memory
  { mp := mp
    memory := Function.update linked
      (blockAddr start blockSize ((blockTotalCount + 0xffffffff) % 0x100000000)) rtNull
    startAddress := start
    size := size
    blockSize := blockSize
    blockList := start
    blockTotalCount := blockTotalCount
    blockFreeCount := blockTotalCount
    suspendThread := []
    error := fun _ => .eok
    pc := fun _ => .idle
    live := []
    freeing := [] }

variable {Ag : Type*} [DecidableEq Ag]

def setPc (p : RtMempool Ag) (ag : Ag) (pc : Pc) : RtMempool Ag :=
  { p with pc := Function.update p.pc ag pc }

def setError (p : RtMempool Ag) (ag : Ag) (e : IpcErr) : RtMempool Ag :=
  { p with error := Function.update p.error ag e }

/-- What the scheduler and the clock decide about a step: the ticks since the suspension, whether the
caller could be suspended, and whether the waiter it wakes could be made ready. -/
structure Env where
  elapsed : BitVec 32
  suspended : Bool
  ready : Bool

/-- `rt_susp_list_dequeue(list, RT_EOK)`: if the head of the list could not be made ready, the list and
the thread stay as they are. -/
def dequeue (p : RtMempool Ag) (ready : Bool) : RtMempool Ag :=
  match p.suspendThread with
  | [] => p
  | t :: ts => if ready then setError { p with suspendThread := ts } t .eok else p

/-- The loop of `rt_mp_alloc` from its head, and what follows it.  Whether the caller could be suspended
is not looked at. -/
def allocLoop (p : RtMempool Ag) (ag : Ag) (time : BitVec 32) (env : Env) : RtMempool Ag :=
  if p.blockFreeCount = 0 then
    if time = 0 then setPc p ag (.done rtNull)
    else
      let p := setError p ag .eok
      let p := if env.suspended then { p with suspendThread := p.suspendThread ++ [ag] } else p
      setPc p ag (.allocWait time)
  else
    let p := { p with blockFreeCount := p.blockFreeCount - 1 }
    let blockPtr := p.blockList
    if blockPtr = rtNull then setPc p ag .fault
    else
      setPc { p with
        blockList := p.memory blockPtr
        memory := Function.update p.memory blockPtr p.mp
        live := blockPtr :: p.live } ag (.done (blockPtr + sizeofPtr))

/-- The section of `rt_mp_free`. -/
def freeSection (p : RtMempool Ag) (ag : Ag) (blockPtr mp : ℕ) (env : Env) : RtMempool Ag :=
  if mp = p.mp then
    setPc
      (dequeue { p with
        blockFreeCount := p.blockFreeCount + 1
        memory := Function.update p.memory blockPtr p.blockList
        blockList := blockPtr
        live := p.live.erase blockPtr
        freeing := p.freeing.erase blockPtr } env.ready) ag (.done rtNull)
  else setPc p ag .fault

/-- `time -= rt_tick_get() - before_sleep`, if the wait had an end. -/
def remaining (time elapsed : BitVec 32) : BitVec 32 :=
  if 0 < time.toInt then Wait.timeoutLeft time elapsed else time

/-- The next step of an agent. -/
def runAgent (p : RtMempool Ag) (ag : Ag) (env : Env) : Option (RtMempool Ag) :=
  match p.pc ag with
  | .idle => none
  | .allocEntry time => some (allocLoop p ag time env)
  | .allocWait time =>
    if ag ∈ p.suspendThread then none
    else if p.error ag ≠ .eok then some (setPc p ag (.done rtNull))
    else some (allocLoop p ag (remaining time env.elapsed) env)
  | .freeEntry block =>
    if block = rtNull then some (setPc p ag (.done rtNull))
    else
      let blockPtr := block - sizeofPtr
      some (setPc p ag (.freeRead blockPtr (p.memory blockPtr)))
  | .freeRead blockPtr mp => some (freeSection p ag blockPtr mp env)
  | .done _ => some (setPc p ag .idle)
  | .fault => none

inductive Action (Ag : Type*)
  | alloc (ag : Ag) (time : BitVec 32)
  /-- `rt_mp_free` of a block in use -/
  | free (ag : Ag) (blockPtr : ℕ)
  /-- `rt_mp_free(RT_NULL)` -/
  | freeNull (ag : Ag)
  | run (ag : Ag) (env : Env)
  /-- the timer of a waiting agent expires -/
  | expire (ag : Ag)
  /-- `rt_thread_resume` -/
  | threadResume (ag : Ag)
  /-- a word is stored in a block in use -/
  | store (blockPtr addr value : ℕ)

def step (p : RtMempool Ag) : Action Ag → Option (RtMempool Ag)
  | .alloc ag time =>
    match p.pc ag with
    | .idle => some (setPc p ag (.allocEntry time))
    | _ => none
  | .free ag blockPtr =>
    match p.pc ag with
    | .idle =>
      if blockPtr ∈ p.live ∧ blockPtr ∉ p.freeing then
        some (setPc { p with freeing := blockPtr :: p.freeing } ag (.freeEntry (blockPtr + sizeofPtr)))
      else none
    | _ => none
  | .freeNull ag =>
    match p.pc ag with
    | .idle => some (setPc p ag (.freeEntry rtNull))
    | _ => none
  | .run ag env => runAgent p ag env
  | .expire ag =>
    match p.pc ag with
    | .allocWait _ =>
      some (setError { p with suspendThread := p.suspendThread.filter (· ≠ ag) } ag .etimeout)
    | _ => none
  | .threadResume ag => some { p with suspendThread := p.suspendThread.filter (· ≠ ag) }
  | .store blockPtr addr value =>
    if blockPtr ∈ p.live ∧ blockPtr + sizeofPtr ≤ addr ∧
        addr + sizeofPtr ≤ blockPtr + sizeofPtr + p.blockSize then
      some { p with memory := Function.update p.memory addr value }
    else none

end N32L43x.Mempool
