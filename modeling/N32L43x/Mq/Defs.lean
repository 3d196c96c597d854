import Mathlib.Data.Nat.Init
import Mathlib.Logic.Function.Basic
import N32L43x.Ipc.Err
import N32L43x.Lib.Run

/-!
The message queue of `rt-thread/src/ipc.c`, without message priorities
(`RT_USING_MESSAGEQUEUE_PRIORITY` is off).

An agent is a thread or an interrupt handler that calls the queue.  A section under the spin lock is
one step; what a call does outside it, filling a node or reading it, is one step for each byte.
Agents interleave freely: which of them the scheduler runs next, when a timer expires and whether the
scheduler could make a waiter ready are open.
-/

namespace N32L43x.Mq

open N32L43x.Ipc N32L43x.Lib.Run

/-- A message. -/
abbrev Msg := List UInt8

/-- `struct rt_mq_message` and the buffer behind it. -/
structure MqMessage where
  next : Option ℕ
  length : ℕ
  data : ℕ → UInt8

/-- The calls. -/
inductive Op
  /-- `rt_mq_send_wait`; `rt_mq_send` is the one with `timeout` `0` -/
  | send (buffer : Msg) (timeout : ℤ)
  /-- `rt_mq_urgent` -/
  | urgent (buffer : Msg)
  /-- `rt_mq_recv` -/
  | recv (size : ℕ) (timeout : ℤ)
deriving DecidableEq

/-- What a call returns. -/
inductive Result
  /-- `RT_EOK` -/
  | ok
  /-- the bytes copied to the buffer, whose number is the return value -/
  | bytes (buffer : Msg)
  | err (e : IpcErr)
deriving DecidableEq

/-- Where an agent stands in its call. -/
inductive Pc
  | idle
  | sendEntry (buffer : Msg) (timeout : ℤ)
  /-- suspended, or resumed and not yet run -/
  | sendWait (buffer : Msg) (timeout : ℤ)
  | urgentEntry (buffer : Msg)
  /-- a node is taken from the free list -/
  | taken (urgent : Bool) (buffer : Msg) (msg : ℕ)
  /-- its first `i` bytes are copied -/
  | copying (urgent : Bool) (buffer : Msg) (msg : ℕ) (i : ℕ)
  | recvEntry (size : ℕ) (timeout : ℤ)
  | recvWait (size : ℕ) (timeout : ℤ)
  /-- a node is taken from the queue -/
  | recvTaken (size : ℕ) (msg : ℕ)
  | recvCopying (msg : ℕ) (len : ℕ) (buffer : Msg)
  | done (res : Result)
deriving DecidableEq

/-- `struct rt_messagequeue`, its nodes and the agents. -/
structure Mq (Ag : Type*) where
  node : ℕ → MqMessage
  msgSize : ℕ
  maxMsgs : ℕ
  entry : ℕ
  msgQueueHead : Option ℕ
  msgQueueTail : Option ℕ
  msgQueueFree : Option ℕ
  suspendThread : List Ag
  suspendSenderThread : List Ag
  /-- `thread->error` -/
  error : Ag → IpcErr
  pc : Ag → Pc

/-- `RT_MQ_ENTRY_MAX`. -/
def rtMqEntryMax : ℕ := 65535

/-- `sizeof(struct rt_mq_message)`. -/
def sizeofMqMessage : ℕ := 8

/-- `RT_ALIGN(size, RT_ALIGN_SIZE)`. -/
def rtAlign (size : ℕ) : ℕ := (size + 7) % 4294967296 / 8 * 8

variable {Ag : Type*} [DecidableEq Ag]

/-- One turn of the loop of `rt_mq_init`: node `temp` goes on the free list. -/
def initNode (q : Mq Ag) (temp : ℕ) : Mq Ag :=
  { q with
    node := Function.update q.node temp { q.node temp with next := q.msgQueueFree }
    msgQueueFree := some temp }

/-- `rt_mq_init` over whatever the pool holds, `none` if the pool has no room for a message. -/
def rtMqInit (msgSize poolSize : ℕ) (garbage : ℕ → MqMessage) : Option (Mq Ag) :=
  let maxMsgs := poolSize / (rtAlign msgSize + sizeofMqMessage) % 65536
  if maxMsgs = 0 then none
  else
    let q : Mq Ag :=
      { node := garbage, msgSize := msgSize % 65536, maxMsgs := maxMsgs, entry := 0
        msgQueueHead := none, msgQueueTail := none, msgQueueFree := none
        suspendThread := [], suspendSenderThread := []
        error := fun _ => .eok, pc := fun _ => .idle }
    some ((List.range maxMsgs).foldl initNode q)

def setPc (q : Mq Ag) (ag : Ag) (pc : Pc) : Mq Ag :=
  { q with pc := Function.update q.pc ag pc }

def setError (q : Mq Ag) (ag : Ag) (e : IpcErr) : Mq Ag :=
  { q with error := Function.update q.error ag e }

def setNode (q : Mq Ag) (msg : ℕ) (m : MqMessage) : Mq Ag :=
  { q with node := Function.update q.node msg m }

/-- The timeout that is left after a wait. -/
def remaining (timeout : ℤ) (elapsed : ℕ) : ℤ :=
  if timeout > 0 then if timeout - elapsed < 0 then 0 else timeout - elapsed else timeout

/-! ### Waking a waiter

`rt_susp_list_dequeue(list, RT_EOK)`: `ready` tells whether `rt_sched_thread_ready` could make the
head of the list ready; if it could not, the list and the thread stay as they are. -/

def dequeueReceiver (q : Mq Ag) (ready : Bool) : Mq Ag :=
  match q.suspendThread with
  | [] => q
  | t :: ts => if ready then setError { q with suspendThread := ts } t .eok else q

def dequeueSender (q : Mq Ag) (ready : Bool) : Mq Ag :=
  match q.suspendSenderThread with
  | [] => q
  | t :: ts => if ready then setError { q with suspendSenderThread := ts } t .eok else q

/-! ### Sending

`enqueue` is `rt_susp_list_enqueue` with the flag of the queue, in order of arrival or of
priority. -/

variable (enqueue : List Ag → Ag → List Ag)

/-- The loop of `_rt_mq_send_wait` from its head, up to the end of the section under the lock. -/
def sendLoop (q : Mq Ag) (ag : Ag) (buffer : Msg) (timeout : ℤ) : Mq Ag :=
  match q.msgQueueFree with
  | some msg => setPc { q with msgQueueFree := (q.node msg).next } ag (.taken false buffer msg)
  | none =>
    let q := setError q ag .eintr
    if timeout = 0 then setPc q ag (.done (.err .efull))
    else
      setPc { q with suspendSenderThread := enqueue q.suspendSenderThread ag } ag
        (.sendWait buffer timeout)

/-- Linking a node at the tail, as `_rt_mq_send_wait` does. -/
def linkTail (q : Mq Ag) (msg : ℕ) : Mq Ag :=
  let q :=
    match q.msgQueueTail with
    | some t => setNode q t { q.node t with next := some msg }
    | none => q
  { q with
    msgQueueTail := some msg
    msgQueueHead :=
      match q.msgQueueHead with
      | none => some msg
      | some h => some h }

/-- Linking a node at the head, as `rt_mq_urgent` does. -/
def linkHead (q : Mq Ag) (msg : ℕ) : Mq Ag :=
  let q := setNode q msg { q.node msg with next := q.msgQueueHead }
  { q with
    msgQueueHead := some msg
    msgQueueTail :=
      match q.msgQueueTail with
      | none => some msg
      | some t => some t }

/-- The last section of a send: the filled node is linked, counted, and a receiver woken. -/
def link (q : Mq Ag) (ag : Ag) (urgent : Bool) (msg : ℕ) (ready : Bool) : Mq Ag :=
  let q := if urgent then linkHead q msg else linkTail q msg
  if q.entry < rtMqEntryMax then
    setPc (dequeueReceiver { q with entry := q.entry + 1 } ready) ag (.done .ok)
  else setPc q ag (.done (.err .efull))

/-! ### Receiving -/

/-- The loop of `_rt_mq_recv` from its head, up to the end of the section under the lock; `none`
stands for the use of a null `msg_queue_head`. -/
def recvLoop (q : Mq Ag) (ag : Ag) (size : ℕ) (timeout : ℤ) : Option (Mq Ag) :=
  if q.entry = 0 then
    let q := setError q ag .eintr
    if timeout = 0 then some (setPc (setError q ag .etimeout) ag (.done (.err .etimeout)))
    else
      some (setPc { q with suspendThread := enqueue q.suspendThread ag } ag
        (.recvWait size timeout))
  else
    match q.msgQueueHead with
    | none => none
    | some msg =>
      let q :=
        { q with
          msgQueueHead := (q.node msg).next
          msgQueueTail := if q.msgQueueTail = some msg then none else q.msgQueueTail
          entry := if q.entry > 0 then q.entry - 1 else q.entry }
      some (setPc q ag (.recvTaken size msg))

/-- The last section of a receive: the node goes to the free list, and a sender is woken. -/
def putFree (q : Mq Ag) (ag : Ag) (msg : ℕ) (buffer : Msg) (ready : Bool) : Mq Ag :=
  let q := setNode q msg { q.node msg with next := q.msgQueueFree }
  setPc (dequeueSender { q with msgQueueFree := some msg } ready) ag (.done (.bytes buffer))

/-! ### The agents -/

/-- The next step of an agent.  `elapsed` is the time it has waited, if it was suspended, and `ready`
whether the waiter it wakes, if it wakes one, could be made ready. -/
def runAgent (q : Mq Ag) (ag : Ag) (elapsed : ℕ) (ready : Bool) : Option (Mq Ag) :=
  match q.pc ag with
  | .idle => none
  | .sendEntry buffer timeout =>
    if buffer.length > q.msgSize then some (setPc q ag (.done (.err .error)))
    else if q.msgQueueFree = none ∧ timeout = 0 then some (setPc q ag (.done (.err .efull)))
    else some (sendLoop enqueue q ag buffer timeout)
  | .sendWait buffer timeout =>
    if ag ∈ q.suspendSenderThread then none
    else if q.error ag ≠ .eok then some (setPc q ag (.done (.err (q.error ag))))
    else some (sendLoop enqueue q ag buffer (remaining timeout elapsed))
  | .urgentEntry buffer =>
    if buffer.length > q.msgSize then some (setPc q ag (.done (.err .error)))
    else
      match q.msgQueueFree with
      | none => some (setPc q ag (.done (.err .efull)))
      | some msg =>
        some (setPc { q with msgQueueFree := (q.node msg).next } ag (.taken true buffer msg))
  | .taken urgent buffer msg =>
    let next := if urgent then (q.node msg).next else none
    some (setPc (setNode q msg { q.node msg with next := next, length := buffer.length }) ag
      (.copying urgent buffer msg 0))
  | .copying urgent buffer msg i =>
    match buffer[i]? with
    | some byte =>
      let data := Function.update (q.node msg).data i byte
      some (setPc (setNode q msg { q.node msg with data := data }) ag
        (.copying urgent buffer msg (i + 1)))
    | none => some (link q ag urgent msg ready)
  | .recvEntry size timeout =>
    if q.entry = 0 ∧ timeout = 0 then some (setPc q ag (.done (.err .etimeout)))
    else recvLoop enqueue q ag size timeout
  | .recvWait size timeout =>
    if ag ∈ q.suspendThread then none
    else if q.error ag ≠ .eok then some (setPc q ag (.done (.err (q.error ag))))
    else recvLoop enqueue q ag size (remaining timeout elapsed)
  | .recvTaken size msg =>
    let len := if (q.node msg).length > size then size else (q.node msg).length
    some (setPc q ag (.recvCopying msg len []))
  | .recvCopying msg len buffer =>
    if buffer.length < len then
      some (setPc q ag (.recvCopying msg len (buffer ++ [(q.node msg).data buffer.length])))
    else some (putFree q ag msg buffer ready)
  | .done _ => some (setPc q ag .idle)

/-- The entry of a call. -/
def entryPc : Op → Pc
  | .send buffer timeout => .sendEntry buffer timeout
  | .urgent buffer => .urgentEntry buffer
  | .recv size timeout => .recvEntry size timeout

inductive Action (Ag : Type*)
  | call (ag : Ag) (op : Op)
  | run (ag : Ag) (elapsed : ℕ) (ready : Bool)
  /-- the timer of a waiting agent expires -/
  | expire (ag : Ag)
deriving DecidableEq

def step (q : Mq Ag) : Action Ag → Option (Mq Ag)
  | .call ag op => if q.pc ag = .idle then some (setPc q ag (entryPc op)) else none
  | .run ag elapsed ready => runAgent enqueue q ag elapsed ready
  | .expire ag =>
    if ag ∈ q.suspendThread ∨ ag ∈ q.suspendSenderThread then
      some (setError
        { q with
          suspendThread := q.suspendThread.filter (· ≠ ag)
          suspendSenderThread := q.suspendSenderThread.filter (· ≠ ag) } ag .etimeout)
    else none

end N32L43x.Mq
