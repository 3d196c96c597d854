import N32L43x.Waitqueue.Defs

/-!
The condition variable of `components/drivers/ipc/condvar.c`, its wait queue and the one mutex it is used
with.

The agents are threads.  They interleave freely wherever neither the scheduler nor the interrupts are
locked: which of them runs next, when a timer expires and which waiter of the mutex is the most urgent are
open.  A section under a spin lock is one step, and so is each access to `waiting_mtx` and `waiters_cnt`
without one.  Nothing but a timer resumes a thread beside the functions modelled here.
-/

namespace N32L43x.Condvar

open N32L43x.Ipc N32L43x.Waitqueue

/-- `rt_condvar_signal` and `rt_condvar_broadcast`. -/
inductive Waker
  | signal
  | broadcast
deriving DecidableEq

/-- The calls. -/
inductive Call
  | timedwait (timeout : BitVec 32)
  | wake (waker : Waker)
deriving DecidableEq

/-- Where a thread is. -/
inductive Pc
  | idle
  /-- in a `rt_mutex_take` of its own, suspended, or resumed and not yet run -/
  | lockWait
  /-- before the first read of `waiting_mtx` in `CV_ASSERT_LOCKED` -/
  | asserting (call : Call)
  /-- before the second, which follows if the first is not zero -/
  | asserted (call : Call)
  /-- before the first critical section of `rt_condvar_timedwait` -/
  | joining (timeout : BitVec 32)
  /-- before `waiters_cnt` is increased -/
  | joined (timeout : BitVec 32)
  /-- before the scheduler is locked -/
  | counted (timeout : BitVec 32)
  /-- before `rt_mutex_release` -/
  | inqueued (rc : ℤ)
  /-- suspended, or resumed and not yet run -/
  | sleeping (rc : ℤ)
  /-- before `rt_wqueue_remove` -/
  | leaving (rc : ℤ)
  /-- before `waiters_cnt` is decreased -/
  | removed (rc : ℤ)
  /-- before `rt_mutex_take` -/
  | retaking (rc : ℤ)
  /-- in it, suspended, or resumed and not yet run -/
  | takeWait (rc : ℤ)
  | returns (rc : ℤ)
  /-- before `waiters_cnt` is read -/
  | checking (waker : Waker)
  /-- before `rt_wqueue_wakeup` or `rt_wqueue_wakeup_all` -/
  | waking (waker : Waker)
  /-- before the flag of the queue is cleared -/
  | clearing
deriving DecidableEq

/-- What resumes a thread. -/
inductive Cause
  | waker (waker : Waker)
  | timeout
deriving DecidableEq

/-- `struct rt_thread`.  The last two fields are history that no operation reads. -/
structure Thread where
  /-- whether `stat` is `RT_THREAD_SUSPEND` -/
  suspended : Bool
  /-- the thread timer runs -/
  timerActive : Bool
  error : IpcErr
  pc : Pc
  /-- when it was suspended in the wait queue -/
  since : ℕ
  /-- what has resumed it, if it has been resumed since then -/
  resumedBy : Option Cause
deriving DecidableEq

/-- `struct rt_condvar`, the mutex and the threads. -/
structure RtCondvar (Ag : Type) where
  event : RtWqueue Ag
  waitersCnt : ℤ
  /-- `waiting_mtx` is the mutex, and not zero -/
  waitingMtx : Bool
  owner : Option Ag
  hold : ℕ
  /-- the threads that wait for the mutex -/
  suspendThread : List Ag
  thread : Ag → Thread
  /-- the thread that has locked the scheduler -/
  critical : Option Ag
  /-- an assertion has failed -/
  failed : Bool
  /-- history: the number of suspensions in the wait queue -/
  clock : ℕ

/-- `RT_WAITING_FOREVER`, as an `rt_tick_t`. -/
def rtWaitingForever : BitVec 32 := 0xffffffff#32

/-- `RT_MUTEX_HOLD_MAX`. -/
def rtMutexHoldMax : ℕ := 255

variable {Ag : Type} [DecidableEq Ag]

omit [DecidableEq Ag] in
/-- `rt_condvar_init`, with the mutex free. -/
def rtCondvarInit : RtCondvar Ag where
  event := ⟨.clean, []⟩
  waitersCnt := 0
  waitingMtx := false
  owner := none
  hold := 0
  suspendThread := []
  thread := fun _ => ⟨false, false, .eok, .idle, 0, none⟩
  critical := none
  failed := false
  clock := 0

def setThread (cv : RtCondvar Ag) (t : Ag) (th : Thread) : RtCondvar Ag :=
  { cv with thread := Function.update cv.thread t th }

def setPc (cv : RtCondvar Ag) (t : Ag) (pc : Pc) : RtCondvar Ag :=
  setThread cv t { cv.thread t with pc := pc }

omit [DecidableEq Ag] in
/-- The thread stops at an assertion. -/
def fail (cv : RtCondvar Ag) : RtCondvar Ag := { cv with failed := true }

/-- `rt_sched_thread_ready` of a suspended thread, which stops its timer. -/
def Thread.ready (th : Thread) : Thread := { th with suspended := false, timerActive := false }

/-! ### The mutex -/

/-- `rt_mutex_take`, up to the end of its first critical section: what it returns, or `none` if the thread
is suspended. -/
def rtMutexTake (cv : RtCondvar Ag) (t : Ag) (timeout : ℤ) : RtCondvar Ag × Option IpcErr :=
  let cv := setThread cv t { cv.thread t with error := .eok }
  if cv.owner = some t then
    if cv.hold < rtMutexHoldMax then ({ cv with hold := cv.hold + 1 }, some .eok)
    else (cv, some .efull)
  else if cv.owner = none then ({ cv with owner := some t, hold := 1 }, some .eok)
  -- `RT_ETIMEOUT`, which is not negated here
  else if timeout = 0 then (setThread cv t { cv.thread t with error := .other 2 }, some .etimeout)
  else
    ({ setThread cv t { cv.thread t with suspended := true, timerActive := decide (0 < timeout) } with
      suspendThread := cv.suspendThread ++ [t] }, none)

/-- The rest of `rt_mutex_take`, once the thread runs again. -/
def takeResult (cv : RtCondvar Ag) (t : Ag) : IpcErr :=
  if cv.owner = some t then .eok
  else if (cv.thread t).error = .eok then .eintr
  else (cv.thread t).error

/-- The mutex is given to the most urgent thread that waits for it, or becomes free. -/
def handOver (cv : RtCondvar Ag) (next : Option Ag) : Option (RtCondvar Ag) :=
  match next with
  | none => if cv.suspendThread = [] then some { cv with owner := none, hold := 0 } else none
  | some u =>
    if u ∈ cv.suspendThread then
      some { setThread cv u (cv.thread u).ready with
        owner := some u, hold := 1, suspendThread := cv.suspendThread.filter (· ≠ u) }
    else none

/-- `rt_mutex_release`, where `next` is the first of the threads that wait. -/
def rtMutexRelease (cv : RtCondvar Ag) (t : Ag) (next : Option Ag) : Option (RtCondvar Ag × IpcErr) :=
  if cv.owner ≠ some t then
    some (setThread cv t { cv.thread t with error := .error }, .error)
  else if cv.hold - 1 = 0 then (handOver cv next).map fun cv => (cv, .eok)
  else some ({ cv with hold := cv.hold - 1 }, .eok)

/-! ### The wait queue -/

/-- `_waitq_inqueue`. -/
def waitqInqueue (cv : RtCondvar Ag) (t : Ag) (timeout : BitVec 32) : RtCondvar Ag × ℤ :=
  let cv := setThread cv t { cv.thread t with resumedBy := none }
  if cv.event.flag ≠ .wakeup then
    -- `rt_thread_suspend_with_flag`
    if (cv.thread t).suspended then (cv, IpcErr.error.value)
    else
      ({ setThread cv t { cv.thread t with
          suspended := true
          timerActive := decide (timeout ≠ rtWaitingForever)
          since := cv.clock } with
        event := { cv.event with waitingList := cv.event.waitingList ++ [t] }
        clock := cv.clock + 1 }, IpcErr.eok.value)
  else (cv, IpcErr.eok.value)

/-- `rt_thread_resume` of a suspended thread, whose error number was set before. -/
def Thread.resumed (th : Thread) (waker : Waker) : Thread :=
  { th with
    suspended := false, timerActive := false, error := .eok, resumedBy := some (.waker waker) }

/-- The loop of `rt_wqueue_wakeup`: the thread that it resumes. -/
def wakeupLoop (thread : Ag → Thread) : List Ag → (Ag → Thread) × Option Ag
  | [] => (thread, none)
  | t :: list =>
    if (thread t).suspended then (Function.update thread t ((thread t).resumed .signal), some t)
    else wakeupLoop (Function.update thread t { thread t with error := .eok }) list

/-- The loop of `rt_wqueue_wakeup_all`. -/
def wakeupAllLoop (thread : Ag → Thread) : List Ag → Ag → Thread
  | [] => thread
  | t :: list =>
    if (thread t).suspended then
      wakeupAllLoop (Function.update thread t ((thread t).resumed .broadcast)) list
    else wakeupAllLoop (Function.update thread t { thread t with error := .eok }) list

/-- `rt_wqueue_wakeup` and `rt_wqueue_wakeup_all`. -/
def rtWqueueWakeup (cv : RtCondvar Ag) : Waker → RtCondvar Ag
  | .signal =>
    match wakeupLoop cv.thread cv.event.waitingList with
    | (thread, none) => { cv with thread := thread, event := { cv.event with flag := .wakeup } }
    | (thread, some t) =>
      { cv with thread := thread, event := ⟨.wakeup, cv.event.waitingList.filter (· ≠ t)⟩ }
  | .broadcast =>
    { cv with
      thread := wakeupAllLoop cv.thread cv.event.waitingList
      event := { cv.event with flag := .wakeup } }

/-! ### The calls -/

/-- What follows the assertion at the head of a call. -/
def Call.entered : Call → Pc
  | .timedwait timeout => .joining timeout
  | .wake waker => .checking waker

/-- `rc = rt_get_errno(); rc = rc > 0 ? -rc : rc;`. -/
def errnoRc (rc : IpcErr) : ℤ := if 0 < rc.value then -rc.value else rc.value

/-- The next step of a thread. -/
def runThread (cv : RtCondvar Ag) (t : Ag) (next : Option Ag) : Option (RtCondvar Ag) :=
  match (cv.thread t).pc with
  | .idle => none
  | .lockWait => if (cv.thread t).suspended then none else some (setPc cv t .idle)
  | .asserting call =>
    if cv.waitingMtx then some (setPc cv t (.asserted call)) else some (setPc cv t call.entered)
  | .asserted call =>
    -- a mutex that is zero by now has no owner
    if cv.waitingMtx ∧ cv.owner = some t then some (setPc cv t call.entered) else some (fail cv)
  | .joining timeout =>
    -- the mutex is the same in all calls: it is in `waiting_mtx`, or is put there
    some (setPc { cv with waitingMtx := true } t (.joined timeout))
  | .joined timeout => some (setPc { cv with waitersCnt := cv.waitersCnt + 1 } t (.counted timeout))
  | .counted timeout =>
    let (cv, rc) := waitqInqueue { cv with critical := some t } t timeout
    some (setPc cv t (.inqueued rc))
  | .inqueued rc =>
    (rtMutexRelease cv t next).map fun (cv, ret) =>
      if ret = .eok then setPc { cv with critical := none } t (.sleeping rc) else fail cv
  | .sleeping rc =>
    if rc ≠ IpcErr.eok.value then some (setPc cv t (.leaving rc))
    else if (cv.thread t).suspended then none
    else some (setPc cv t (.leaving (errnoRc (cv.thread t).error)))
  | .leaving rc =>
    some (setPc { cv with
      event := { cv.event with waitingList := cv.event.waitingList.filter (· ≠ t) } } t (.removed rc))
  | .removed rc =>
    if cv.waitersCnt = 1 then
      if cv.waitingMtx then
        some (setPc { cv with waitersCnt := cv.waitersCnt - 1, waitingMtx := false } t (.retaking rc))
      else some (fail cv)
    else some (setPc { cv with waitersCnt := cv.waitersCnt - 1 } t (.retaking rc))
  | .retaking rc =>
    -- `RT_WAITING_FOREVER` is -1
    match rtMutexTake cv t (-1) with
    | (cv, some ret) => some (if ret = .eok then setPc cv t (.returns rc) else fail cv)
    | (cv, none) => some (setPc cv t (.takeWait rc))
  | .takeWait rc =>
    if (cv.thread t).suspended then none
    else some (if takeResult cv t = .eok then setPc cv t (.returns rc) else fail cv)
  | .returns _ => some (setPc cv t .idle)
  | .checking waker => some (setPc cv t (if 0 < cv.waitersCnt then .waking waker else .clearing))
  | .waking waker => some (setPc (rtWqueueWakeup cv waker) t .clearing)
  | .clearing => some (setPc { cv with event := { cv.event with flag := .clean } } t .idle)

/-- What can happen next. -/
inductive Action (Ag : Type)
  /-- a thread takes the mutex -/
  | lock (t : Ag) (timeout : ℤ)
  /-- a thread that holds the mutex releases it -/
  | unlock (t : Ag) (next : Option Ag)
  /-- a thread that holds the mutex once calls the condition variable -/
  | call (t : Ag) (call : Call)
  /-- a thread goes on with its call -/
  | run (t : Ag) (next : Option Ag)
  /-- a thread does something else, which may leave an error number -/
  | other (t : Ag) (err : IpcErr)
  /-- the tick handler calls `_thread_timeout` -/
  | expire (t : Ag)

/-- No other thread has locked the scheduler, and no assertion has failed. -/
def CanRun (cv : RtCondvar Ag) (t : Ag) : Prop :=
  cv.failed = false ∧ (cv.critical = none ∨ cv.critical = some t)

instance (cv : RtCondvar Ag) (t : Ag) : Decidable (CanRun cv t) := inferInstanceAs (Decidable (_ ∧ _))

/-- The thread can run and is not in a call. -/
def CanCall (cv : RtCondvar Ag) (t : Ag) : Prop := CanRun cv t ∧ (cv.thread t).pc = .idle

instance (cv : RtCondvar Ag) (t : Ag) : Decidable (CanCall cv t) := inferInstanceAs (Decidable (_ ∧ _))

/-- One step. -/
def step (cv : RtCondvar Ag) : Action Ag → Option (RtCondvar Ag)
  | .lock t timeout =>
    if CanCall cv t then
      match rtMutexTake cv t timeout with
      | (cv, some _) => some cv
      | (cv, none) => some (setPc cv t .lockWait)
    else none
  | .unlock t next =>
    if CanCall cv t ∧ cv.owner = some t then (rtMutexRelease cv t next).map Prod.fst else none
  | .call t call =>
    if CanCall cv t ∧ cv.owner = some t ∧ cv.hold = 1 then some (setPc cv t (.asserting call)) else none
  | .run t next => if CanRun cv t then runThread cv t next else none
  | .other t err =>
    if CanCall cv t then some (setThread cv t { cv.thread t with error := err }) else none
  | .expire t =>
    if cv.failed = false ∧ (cv.thread t).timerActive = true then
      some { setThread cv t { (cv.thread t).ready with error := .etimeout, resumedBy := some .timeout } with
        suspendThread := cv.suspendThread.filter (· ≠ t) }
    else none

end N32L43x.Condvar
