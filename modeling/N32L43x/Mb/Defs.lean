import N32L43x.Ipc.Err
import N32L43x.Lib.Atomic
import Mathlib.Data.BitVec

/-!
The mailbox of `rt-thread/src/ipc.c`.

An agent is a thread or an interrupt handler that calls the mailbox.  A section under the spin lock is
one step.  Agents interleave freely: which of them the scheduler runs next, when a timer expires and
whether the scheduler could suspend a caller or make a waiter ready are open.
-/

namespace N32L43x.Mb

open N32L43x.Ipc N32L43x.Lib.Atomic

/-- `rt_ubase_t`. -/
abbrev Word := BitVec 32

/-- The calls. -/
inductive Op
  /-- `rt_mb_send_wait` and its variants; `rt_mb_send` is the one with `timeout` `0` -/
  | send (value : Word) (timeout : ℤ)
  /-- `rt_mb_urgent` -/
  | urgent (value : Word)
  /-- `rt_mb_recv` and its variants -/
  | recv (timeout : ℤ)
deriving DecidableEq

/-- What a call that succeeds delivers. -/
inductive Result
  | sent
  | mail (value : Word)
deriving DecidableEq

/-- Where an agent stands in its call. -/
inductive Pc
  | idle
  | sendEntry (value : Word) (timeout : ℤ)
  /-- suspended, or resumed and not yet run -/
  | sendWait (value : Word) (timeout : ℤ)
  | urgentEntry (value : Word)
  | recvEntry (timeout : ℤ)
  | recvWait (timeout : ℤ)
  | done (res : Except IpcErr Result)

/-- `struct rt_mailbox` and the agents. -/
structure Mailbox (Ag : Type*) where
  msgPool : ℕ → Word
  size : ℕ
  entry : ℕ
  inOffset : ℕ
  outOffset : ℕ
  suspendThread : List Ag
  suspendSenderThread : List Ag
  /-- `thread->error` -/
  error : Ag → IpcErr
  pc : Ag → Pc

/-- `RT_MB_ENTRY_MAX`. -/
def rtMbEntryMax : ℕ := 65535

variable {Ag : Type*} [DecidableEq Ag]

omit [DecidableEq Ag] in
/-- `rt_mb_init` over whatever the pool holds. -/
def rtMbInit (msgPool : ℕ → Word) (size : ℕ) : Mailbox Ag where
  msgPool := msgPool
  size := size % 0x10000
  entry := 0
  inOffset := 0
  outOffset := 0
  suspendThread := []
  suspendSenderThread := []
  error := fun _ => .eok
  pc := fun _ => .idle

def setPc (mb : Mailbox Ag) (ag : Ag) (pc : Pc) : Mailbox Ag :=
  { mb with pc := Function.update mb.pc ag pc }

def setError (mb : Mailbox Ag) (ag : Ag) (e : IpcErr) : Mailbox Ag :=
  { mb with error := Function.update mb.error ag e }

/-- The timeout that is left after a wait. -/
def remaining (timeout : ℤ) (elapsed : ℕ) : ℤ :=
  if timeout > 0 then if timeout - elapsed < 0 then 0 else timeout - elapsed else timeout

/-- What the scheduler and the clock decide about a step: the ticks since the suspension, whether the
caller could be suspended, and whether the waiter it wakes could be made ready. -/
structure Env where
  elapsed : ℕ
  suspended : Bool
  ready : Bool

/-! ### Waking a waiter

`rt_susp_list_dequeue(list, RT_EOK)`: if the head of the list could not be made ready, the list and the
thread stay as they are. -/

def dequeueReceiver (mb : Mailbox Ag) (ready : Bool) : Mailbox Ag :=
  match mb.suspendThread with
  | [] => mb
  | t :: ts => if ready then setError { mb with suspendThread := ts } t .eok else mb

def dequeueSender (mb : Mailbox Ag) (ready : Bool) : Mailbox Ag :=
  match mb.suspendSenderThread with
  | [] => mb
  | t :: ts => if ready then setError { mb with suspendSenderThread := ts } t .eok else mb

/-! ### The pool -/

omit [DecidableEq Ag] in
/-- A mail is put at `in_offset`, which moves on. -/
def putBack (mb : Mailbox Ag) (value : Word) : Mailbox Ag :=
  let inOffset := (mb.inOffset + 1) % 0x10000
  { mb with
    msgPool := Function.update mb.msgPool mb.inOffset value
    inOffset := if inOffset ≥ mb.size then 0 else inOffset }

omit [DecidableEq Ag] in
/-- `out_offset` moves back, and a mail is put there. -/
def putFront (mb : Mailbox Ag) (value : Word) : Mailbox Ag :=
  let outOffset := if mb.outOffset > 0 then mb.outOffset - 1 else (mb.size + 0xffff) % 0x10000
  { mb with msgPool := Function.update mb.msgPool outOffset value, outOffset := outOffset }

omit [DecidableEq Ag] in
/-- `out_offset` moves on, and there is one mail less. -/
def takeFront (mb : Mailbox Ag) : Mailbox Ag :=
  let outOffset := (mb.outOffset + 1) % 0x10000
  { mb with
    outOffset := if outOffset ≥ mb.size then 0 else outOffset
    entry := if mb.entry > 0 then mb.entry - 1 else mb.entry }

/-! ### The calls

`enqueue` is `rt_susp_list_enqueue` with the flag of the mailbox, in order of arrival or of priority. -/

variable (enqueue : List Ag → Ag → List Ag)

/-- The loop of `_rt_mb_send_wait` from its head, and what follows it. -/
def sendLoop (mb : Mailbox Ag) (ag : Ag) (value : Word) (timeout : ℤ) (env : Env) : Mailbox Ag :=
  if mb.entry = mb.size then
    let mb := setError mb ag .eintr
    if timeout = 0 then setPc mb ag (.done (.error .efull))
    else if env.suspended then
      setPc { mb with suspendSenderThread := enqueue mb.suspendSenderThread ag } ag
        (.sendWait value timeout)
    else setPc mb ag (.done (.error .error))
  else
    let mb := putBack mb value
    if mb.entry < rtMbEntryMax then
      setPc (dequeueReceiver { mb with entry := mb.entry + 1 } env.ready) ag (.done (.ok .sent))
    else setPc mb ag (.done (.error .efull))

/-- `rt_mb_urgent`. -/
def urgent (mb : Mailbox Ag) (ag : Ag) (value : Word) (env : Env) : Mailbox Ag :=
  if mb.entry = mb.size then setPc mb ag (.done (.error .efull))
  else
    let mb := putFront mb value
    let mb := { mb with entry := (mb.entry + 1) % 0x10000 }
    setPc (dequeueReceiver mb env.ready) ag (.done (.ok .sent))

/-- The loop of `_rt_mb_recv` from its head, and what follows it. -/
def recvLoop (mb : Mailbox Ag) (ag : Ag) (timeout : ℤ) (env : Env) : Mailbox Ag :=
  if mb.entry = 0 then
    let mb := setError mb ag .eintr
    if timeout = 0 then setPc (setError mb ag .etimeout) ag (.done (.error .etimeout))
    else if env.suspended then
      setPc { mb with suspendThread := enqueue mb.suspendThread ag } ag (.recvWait timeout)
    else setPc mb ag (.done (.error .error))
  else
    let value := mb.msgPool mb.outOffset
    setPc (dequeueSender (takeFront mb) env.ready) ag (.done (.ok (.mail value)))

/-- The next step of an agent. -/
def runAgent (mb : Mailbox Ag) (ag : Ag) (env : Env) : Option (Mailbox Ag) :=
  match mb.pc ag with
  | .idle => none
  | .sendEntry value timeout =>
    if mb.entry = mb.size ∧ timeout = 0 then some (setPc mb ag (.done (.error .efull)))
    else some (sendLoop enqueue mb ag value timeout env)
  | .sendWait value timeout =>
    if ag ∈ mb.suspendSenderThread then none
    else if mb.error ag ≠ .eok then some (setPc mb ag (.done (.error (mb.error ag))))
    else some (sendLoop enqueue mb ag value (remaining timeout env.elapsed) env)
  | .urgentEntry value => some (urgent mb ag value env)
  | .recvEntry timeout =>
    if mb.entry = 0 ∧ timeout = 0 then some (setPc mb ag (.done (.error .etimeout)))
    else some (recvLoop enqueue mb ag timeout env)
  | .recvWait timeout =>
    if ag ∈ mb.suspendThread then none
    else if mb.error ag ≠ .eok then some (setPc mb ag (.done (.error (mb.error ag))))
    else some (recvLoop enqueue mb ag (remaining timeout env.elapsed) env)
  | .done _ => some (setPc mb ag .idle)

/-- The entry of a call. -/
def entryPc : Op → Pc
  | .send value timeout => .sendEntry value timeout
  | .urgent value => .urgentEntry value
  | .recv timeout => .recvEntry timeout

inductive Action (Ag : Type*)
  | call (ag : Ag) (op : Op)
  | run (ag : Ag) (env : Env)
  /-- the timer of a waiting agent expires -/
  | expire (ag : Ag)

def step (mb : Mailbox Ag) : Action Ag → Option (Mailbox Ag)
  | .call ag op =>
    match mb.pc ag with
    | .idle => some (setPc mb ag (entryPc op))
    | _ => none
  | .run ag env => runAgent enqueue mb ag env
  | .expire ag =>
    if ag ∈ mb.suspendThread ∨ ag ∈ mb.suspendSenderThread then
      some (setError
        { mb with
          suspendThread := mb.suspendThread.filter (· ≠ ag)
          suspendSenderThread := mb.suspendSenderThread.filter (· ≠ ag) } ag .etimeout)
    else none

/-! ### The specification

A sequence of at most `size` words. -/

/-- A call without the time it may wait. -/
inductive AbsOp
  | send (value : Word)
  | urgent (value : Word)
  | recv

/-- The effect of a call, and what it delivers: a send appends, an urgent send prepends, and a receive
removes the head and delivers it. -/
def apply (size : ℕ) (mails : List Word) : AbsOp → Option (List Word × Result)
  | .send value => if mails.length < size then some (mails ++ [value], .sent) else none
  | .urgent value => if mails.length < size then some (value :: mails, .sent) else none
  | .recv =>
    match mails with
    | [] => none
    | value :: mails => some (mails, .mail value)

/-- The call an operation is. -/
def Op.abs : Op → AbsOp
  | .send value _ => .send value
  | .urgent value => .urgent value
  | .recv _ => .recv

/-- What is seen of an agent that goes on from `pc` to `pc'`: the return of a call, a failure when it
is decided, and the moment a mail is put or taken. -/
def runLabel (ag : Ag) (pc pc' : Pc) : List (Label Ag AbsOp Result IpcErr) :=
  match pc, pc' with
  | .done res, _ => [.ret ag res]
  | _, .done (.error e) => [.fail ag e]
  | _, .done (.ok _) => [.commit ag]
  | _, _ => []

/-- What is seen of a step. -/
def label (mb : Mailbox Ag) (a : Action Ag) (mb' : Mailbox Ag) : List (Label Ag AbsOp Result IpcErr) :=
  match a with
  | .call ag op => [.call ag op.abs]
  | .expire _ => []
  | .run ag _ => runLabel ag (mb.pc ag) (mb'.pc ag)

end N32L43x.Mb
