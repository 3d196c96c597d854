import N32L43x.Ipc.Err
import N32L43x.Lib.Atomic
import Mathlib.Data.BitVec

/-!
The data queue of `components/drivers/ipc/dataqueue.c`.

An agent is a thread or an interrupt handler that calls the queue.  A section under the spin lock is one
step.  Agents interleave freely: which of them the scheduler runs next, when a timer expires and whether
the scheduler could suspend a caller or make a waiter ready are open.
-/

namespace N32L43x.Dataqueue

open N32L43x.Ipc N32L43x.Lib.Atomic

/-- `struct rt_data_item`. -/
structure RtDataItem where
  dataPtr : BitVec 32
  dataSize : BitVec 32
deriving DecidableEq

/-- The calls. -/
inductive Op
  | push (item : RtDataItem) (timeout : ℤ)
  | pop (timeout : ℤ)
  | reset
  | len
deriving DecidableEq

/-- What a call that succeeds delivers. -/
inductive Result
  | pushed
  | popped (item : RtDataItem)
  | wasReset
  | length (n : ℕ)
deriving DecidableEq

/-- Where an agent stands in its call. -/
inductive Pc
  | idle
  | pushEntry (item : RtDataItem) (timeout : ℤ)
  /-- suspended, or resumed and not yet run -/
  | pushWait (item : RtDataItem) (timeout : ℤ)
  | popEntry (timeout : ℤ)
  | popWait (timeout : ℤ)
  | resetEntry
  /-- in the first call of `rt_susp_list_resume_all_irq` -/
  | resetPop
  /-- in the second one -/
  | resetPush
  | lenEntry
  /-- the queue was not empty; before the critical section -/
  | lenCount
  | done (res : Except IpcErr Result)
deriving DecidableEq

/-- `struct rt_data_queue` and the agents.  The indices have 15 bits, `size` and `lwm` 16. -/
structure RtDataQueue (Ag : Type*) where
  queue : ℕ → RtDataItem
  size : ℕ
  lwm : ℕ
  getIndex : ℕ
  isEmpty : Bool
  putIndex : ℕ
  isFull : Bool
  suspendedPushList : List Ag
  suspendedPopList : List Ag
  /-- `thread->error` -/
  error : Ag → IpcErr
  pc : Ag → Pc

variable {Ag : Type*} [DecidableEq Ag]

omit [DecidableEq Ag] in
/-- `rt_data_queue_init` over whatever the memory holds. -/
def rtDataQueueInit (queue : ℕ → RtDataItem) (size lwm : ℕ) : RtDataQueue Ag where
  queue := queue
  size := size % 0x10000
  lwm := lwm % 0x10000
  getIndex := 0
  isEmpty := true
  putIndex := 0
  isFull := false
  suspendedPushList := []
  suspendedPopList := []
  error := fun _ => .eok
  pc := fun _ => .idle

def setPc (q : RtDataQueue Ag) (ag : Ag) (pc : Pc) : RtDataQueue Ag :=
  { q with pc := Function.update q.pc ag pc }

def setError (q : RtDataQueue Ag) (ag : Ag) (e : IpcErr) : RtDataQueue Ag :=
  { q with error := Function.update q.error ag e }

/-- What the scheduler decides about a step: whether the caller could be suspended, and whether the
waiter it wakes could be made ready. -/
structure Env where
  suspended : Bool
  ready : Bool

/-! ### The items -/

/-- An index goes on by one. -/
def nextIndex (size index : ℕ) : ℕ :=
  let index := (index + 1) % 0x8000
  if index = size then 0 else index

omit [DecidableEq Ag] in
/-- An item is stored at `put_index`. -/
def put (q : RtDataQueue Ag) (item : RtDataItem) : RtDataQueue Ag :=
  let putIndex := nextIndex q.size q.putIndex
  { q with
    queue := Function.update q.queue q.putIndex item
    putIndex := putIndex
    isEmpty := false
    isFull := if putIndex = q.getIndex then true else q.isFull }

omit [DecidableEq Ag] in
/-- The item at `get_index` is taken. -/
def take (q : RtDataQueue Ag) : RtDataQueue Ag :=
  let getIndex := nextIndex q.size q.getIndex
  { q with
    getIndex := getIndex
    isFull := false
    isEmpty := if q.putIndex = getIndex then true else q.isEmpty }

omit [DecidableEq Ag] in
/-- The critical section of `rt_data_queue_len`, where the length has 16 bits. -/
def count (q : RtDataQueue Ag) : BitVec 16 :=
  if q.putIndex > q.getIndex then BitVec.ofNat 16 q.putIndex - BitVec.ofNat 16 q.getIndex
  else BitVec.ofNat 16 q.size + BitVec.ofNat 16 q.putIndex - BitVec.ofNat 16 q.getIndex

omit [DecidableEq Ag] in
/-- `rt_data_queue_len`, when nothing comes in between. -/
def rtDataQueueLen (q : RtDataQueue Ag) : ℕ := if q.isEmpty then 0 else (count q).toNat

/-! ### Waking a waiter

`rt_susp_list_dequeue`: if the head of the list could not be made ready, the list and the thread stay as
they are. -/

omit [DecidableEq Ag] in
/-- With `RT_THREAD_RESUME_RES_THR_ERR`. -/
def dequeuePop (q : RtDataQueue Ag) (ready : Bool) : RtDataQueue Ag :=
  match q.suspendedPopList with
  | [] => q
  | _ :: ts => if ready then { q with suspendedPopList := ts } else q

omit [DecidableEq Ag] in
/-- With `RT_THREAD_RESUME_RES_THR_ERR`. -/
def dequeuePush (q : RtDataQueue Ag) (ready : Bool) : RtDataQueue Ag :=
  match q.suspendedPushList with
  | [] => q
  | _ :: ts => if ready then { q with suspendedPushList := ts } else q

/-! ### The calls -/

/-- The loop of `rt_data_queue_push` from its head, and what follows it. -/
def pushLoop (q : RtDataQueue Ag) (ag : Ag) (item : RtDataItem) (timeout : ℤ) (env : Env) :
    RtDataQueue Ag :=
  if q.isFull then
    if timeout = 0 then setPc q ag (.done (.error .etimeout))
    else
      let q := setError q ag .eok
      if env.suspended then
        setPc { q with suspendedPushList := q.suspendedPushList ++ [ag] } ag (.pushWait item timeout)
      else setPc q ag (.done (.error .error))
  else setPc (dequeuePop (put q item) env.ready) ag (.done (.ok .pushed))

/-- The loop of `rt_data_queue_pop` from its head, and what follows it. -/
def popLoop (q : RtDataQueue Ag) (ag : Ag) (timeout : ℤ) (env : Env) : Option (RtDataQueue Ag) :=
  if q.isEmpty then
    if timeout = 0 then some (setPc q ag (.done (.error .etimeout)))
    else
      let q := setError q ag .eok
      if env.suspended then
        some (setPc { q with suspendedPopList := q.suspendedPopList ++ [ag] } ag (.popWait timeout))
      -- the loop would go on for ever, with the lock held
      else none
  else
    let item := q.queue q.getIndex
    let q := take q
    let q := if rtDataQueueLen q ≤ q.lwm then dequeuePush q env.ready else q
    some (setPc q ag (.done (.ok (.popped item))))

/-- The next step of an agent. -/
def runAgent (q : RtDataQueue Ag) (ag : Ag) (env : Env) : Option (RtDataQueue Ag) :=
  match q.pc ag with
  | .idle => none
  | .pushEntry item timeout => some (pushLoop q ag item timeout env)
  | .pushWait item timeout =>
    if ag ∈ q.suspendedPushList then none
    else if q.error ag ≠ .eok then some (setPc q ag (.done (.error (q.error ag))))
    else some (pushLoop q ag item timeout env)
  | .popEntry timeout => popLoop q ag timeout env
  | .popWait timeout =>
    if ag ∈ q.suspendedPopList then none
    else if q.error ag ≠ .eok then some (setPc q ag (.done (.error (q.error ag))))
    else popLoop q ag timeout env
  | .resetEntry =>
    some (setPc { q with getIndex := 0, putIndex := 0, isEmpty := true, isFull := false } ag .resetPop)
  | .resetPop =>
    match q.suspendedPopList with
    | t :: ts =>
      if env.ready then some (setError { q with suspendedPopList := ts } t rtError)
      else some (setPc q ag .resetPush)
    | [] => some (setPc q ag .resetPush)
  | .resetPush =>
    match q.suspendedPushList with
    | t :: ts =>
      if env.ready then some (setError { q with suspendedPushList := ts } t rtError)
      else some (setPc q ag (.done (.ok .wasReset)))
    | [] => some (setPc q ag (.done (.ok .wasReset)))
  | .lenEntry =>
    if q.isEmpty then some (setPc q ag (.done (.ok (.length 0)))) else some (setPc q ag .lenCount)
  | .lenCount => some (setPc q ag (.done (.ok (.length (count q).toNat))))
  | .done _ => some (setPc q ag .idle)

/-- The entry of a call. -/
def entryPc : Op → Pc
  | .push item timeout => .pushEntry item timeout
  | .pop timeout => .popEntry timeout
  | .reset => .resetEntry
  | .len => .lenEntry

inductive Action (Ag : Type*)
  | call (ag : Ag) (op : Op)
  | run (ag : Ag) (env : Env)
  /-- the timer of a waiting agent expires -/
  | expire (ag : Ag)

def step (q : RtDataQueue Ag) : Action Ag → Option (RtDataQueue Ag)
  | .call ag op =>
    match q.pc ag with
    | .idle => some (setPc q ag (entryPc op))
    | _ => none
  | .run ag env => runAgent q ag env
  | .expire ag =>
    if ag ∈ q.suspendedPushList ∨ ag ∈ q.suspendedPopList then
      some (setError
        { q with
          suspendedPushList := q.suspendedPushList.filter (· ≠ ag)
          suspendedPopList := q.suspendedPopList.filter (· ≠ ag) } ag .etimeout)
    else none

/-! ### The specification

A sequence of at most `size` items. -/

/-- A call without the time it may wait. -/
inductive AbsOp
  | push (item : RtDataItem)
  | pop
  | reset
  | len
deriving DecidableEq

/-- The effect of a call, and what it delivers. -/
def apply (size : ℕ) (items : List RtDataItem) : AbsOp → Option (List RtDataItem × Result)
  | .push item => if items.length < size then some (items ++ [item], .pushed) else none
  | .pop =>
    match items with
    | [] => none
    | item :: items => some (items, .popped item)
  | .reset => some ([], .wasReset)
  | .len => some (items, .length items.length)

/-- The call an operation is. -/
def Op.abs : Op → AbsOp
  | .push item _ => .push item
  | .pop _ => .pop
  | .reset => .reset
  | .len => .len

/-- What is seen of an agent that goes on from `pc` to `pc'`: the return of a call, a failure when it is
decided, and the moment a call has its effect. -/
def runLabel (ag : Ag) (pc pc' : Pc) : List (Label Ag AbsOp Result IpcErr) :=
  match pc, pc' with
  | .done res, _ => [.ret ag res]
  | .resetEntry, _ => [.commit ag]
  | .resetPop, _ => []
  | .resetPush, _ => []
  | _, .done (.error e) => [.fail ag e]
  | _, .done (.ok _) => [.commit ag]
  | _, _ => []

/-- What is seen of a step. -/
def label (q : RtDataQueue Ag) (a : Action Ag) (q' : RtDataQueue Ag) :
    List (Label Ag AbsOp Result IpcErr) :=
  match a with
  | .call ag op => [.call ag op.abs]
  | .expire _ => []
  | .run ag _ => runLabel ag (q.pc ag) (q'.pc ag)

end N32L43x.Dataqueue
