import N32L43x.Ipc.Err
import N32L43x.Sched.Look
import Mathlib.Data.List.Sort

/-!
What the communication objects are made of: the scheduler, the suspend lists, the error number of a
thread and its timer.  The node of a thread is in one list at a time, so `rt_list_remove` takes it out
of whichever that is.  A spin lock locks the scheduler, on one processor; `rt_sched_lock` disables the
interrupts.
-/

namespace N32L43x.Ipc

open N32L43x.Sched

/-- How the threads of a suspend list queue. -/
inductive IpcFlag where
  | fifo
  | prio
deriving DecidableEq

/-- The suspend lists of the objects. -/
inductive SuspList (Oid : Type) where
  | sem (o : Oid)
  | mutex (o : Oid)
  | event (o : Oid)
  | mailbox (o : Oid)
  | mailboxSender (o : Oid)
  | messagequeue (o : Oid)
  | messagequeueSender (o : Oid)
deriving DecidableEq

/-- The kernel below the objects. -/
structure Kernel (Tid Oid : Type) where
  sched : SchedState Tid
  /-- `thread->error`, without its sign -/
  error : Tid → IpcErr
  /-- `RT_TIMER_FLAG_ACTIVATED` of `thread->thread_timer` -/
  timerActive : Tid → Bool
  suspendThread : SuspList Oid → List Tid
  /-- how often a thread was put in a suspend list, and the number of the last time for each; not in
  the source -/
  arrivals : ℕ
  arrival : Tid → ℕ

namespace Kernel

variable {Tid Oid : Type} (k : Kernel Tid Oid)

/-- The thread as far as the scheduler does not decide it. -/
def look (t : Tid) : Look := k.sched.look t

/-- `rt_sched_thread_get_curr_prio`. -/
def prio (t : Tid) : Fin 32 := (k.look t).currentPriority

/-- `rt_sched_thread_is_suspended`. -/
def Suspended (t : Tid) : Prop := (k.look t).life = .suspended

variable [DecidableEq Tid]

instance (t : Tid) : Decidable (k.Suspended t) := inferInstanceAs (Decidable (_ = _))

/-! ### Lists -/

/-- `rt_list_remove` of the node of a thread. -/
def listRemove (t : Tid) : Kernel Tid Oid :=
  { k with
    sched := k.sched.listRemove t
    suspendThread := fun l => (k.suspendThread l).filter (· ≠ t) }

/-- The place of a thread in a suspend list: behind the others, or before the first that is less
urgent. -/
def enqueued (list : List Tid) (t : Tid) : IpcFlag → List Tid
  | .fifo => list ++ [t]
  | .prio => list.orderedInsert (fun t sthread => k.prio t < k.prio sthread) t

/-! ### Scheduling -/

/-- `rt_schedule`, once the scheduler is started. -/
def rtSchedule : Kernel Tid Oid :=
  { k with sched := rtSchedUnlockNResched k.sched }

/-- `rt_enter_critical`, `rt_spin_lock` and `rt_spin_lock_irqsave`. -/
def rtSpinLock : Kernel Tid Oid :=
  { k with sched := { k.sched with lockNest := k.sched.lockNest + 1 } }

/-- `rt_exit_critical`, `rt_spin_unlock` and `rt_spin_unlock_irqrestore`. -/
def rtSpinUnlock : Kernel Tid Oid :=
  let k := { k with sched := { k.sched with lockNest := k.sched.lockNest - 1 } }
  if k.sched.lockNest = 0 then k.rtSchedule else k

/-! ### Suspending and resuming -/

/-- `rt_timer_control` with `RT_TIMER_CTRL_SET_TIME` and `rt_timer_start`, of the timer of a
thread. -/
def rtTimerStart (t : Tid) : Kernel Tid Oid :=
  { k with
    sched := k.sched.modify t fun th => { th with ttmrSet := true }
    timerActive := Function.update k.timerActive t true }

/-- The timers after `rt_sched_thread_timer_stop`. -/
def timersStopped (t : Tid) : Tid → Bool :=
  if (k.look t).ttmrSet then Function.update k.timerActive t false else k.timerActive

/-- `rt_sched_thread_ready`.  The timer of the thread may have run out already: then it cannot be
stopped and the thread is left to `_thread_timeout`. -/
def rtSchedThreadReady (t : Tid) : Kernel Tid Oid × RtErr :=
  if k.Suspended t then
    let timerStop : RtErr := if k.timerActive t then .eok else .error
    match Sched.rtSchedThreadReady k.sched t timerStop with
    | (sched, .eok) =>
      ({ k.listRemove t with sched := sched, timerActive := k.timersStopped t }, .eok)
    | (sched, err) => ({ k with sched := sched, timerActive := k.timersStopped t }, err)
  else (k, .einval)

/-- `rt_thread_resume`. -/
def rtThreadResume (t : Tid) : Kernel Tid Oid × RtErr :=
  match k.rtSchedThreadReady t with
  | (k, .eok) => (k.rtSchedule, .eok)
  | (k, err) => (k, err)

/-- `rt_susp_list_dequeue` with an error number that is not negative. -/
def rtSuspListDequeue (suspList : SuspList Oid) (threadError : IpcErr) :
    Kernel Tid Oid × Option Tid :=
  match k.suspendThread suspList with
  | [] => (k, none)
  | t :: _ =>
    match k.rtSchedThreadReady t with
    | (k, .eok) => ({ k with error := Function.update k.error t threadError }, some t)
    | (k, _) => (k, none)

/-- The loop of `rt_susp_list_resume_all`, for at most `n` dequeues. -/
def resumeLoop (suspList : SuspList Oid) (threadError : IpcErr) : ℕ → Kernel Tid Oid → Kernel Tid Oid
  | 0, k => k
  | n + 1, k =>
    match k.rtSuspListDequeue suspList threadError with
    | (k, some _) => resumeLoop suspList threadError n k
    | (k, none) => k

/-- `rt_susp_list_resume_all` with the interrupts disabled: no thread joins the list meanwhile, so the
last dequeue is one that fails. -/
def rtSuspListResumeAll (suspList : SuspList Oid) (threadError : IpcErr) : Kernel Tid Oid :=
  resumeLoop suspList threadError ((k.suspendThread suspList).length + 1) k

/-- `_thread_timeout`. -/
def threadTimeout (t : Tid) : Kernel Tid Oid :=
  let k := { k with error := Function.update k.error t .etimeout }
  let k := k.listRemove t
  let k := { k with sched := rtSchedInsertThread k.sched t }
  k.rtSchedule

variable [DecidableEq Oid]

/-- `rt_susp_list_enqueue`. -/
def rtSuspListEnqueue (suspList : SuspList Oid) (t : Tid) (ipcFlags : IpcFlag) : Kernel Tid Oid :=
  { k with
    suspendThread := Function.update k.suspendThread suspList
      (k.enqueued (k.suspendThread suspList) t ipcFlags)
    arrivals := k.arrivals + 1
    arrival := Function.update k.arrival t k.arrivals }

/-- `rt_thread_suspend_to_list`. -/
def rtThreadSuspendToList (t : Tid) (suspList : Option (SuspList Oid)) (ipcFlags : IpcFlag)
    (suspendFlag : SuspendFlag) : Kernel Tid Oid × RtErr :=
  match Sched.rtThreadSuspendToList k.sched t suspendFlag with
  | (sched, .eok) =>
    let k := { k with sched := sched, timerActive := k.timersStopped t }
    match suspList with
    | none => (k, .eok)
    | some suspList => (k.rtSuspListEnqueue suspList t ipcFlags, .eok)
  | (_, err) => (k, err)

end Kernel

end N32L43x.Ipc
