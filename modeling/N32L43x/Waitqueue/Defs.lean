import N32L43x.Ipc.Kernel
import N32L43x.Lib.Run

/-!
`components/drivers/ipc/waitqueue.c`: a wait queue, with the threads that wait at it, whoever wakes them
up, and the timers of the threads.
-/

namespace N32L43x.Waitqueue

open N32L43x.Sched N32L43x.Ipc

/-- `RT_WQ_FLAG_CLEAN` and `RT_WQ_FLAG_WAKEUP`. -/
inductive WqFlag where
  | clean
  | wakeup
deriving DecidableEq

/-- `rt_wqueue_t`.  A node of the waiting list is on the stack of its thread. -/
structure RtWqueue (Tid : Type) where
  flag : WqFlag
  waitingList : List Tid

/-- Where a thread is in `_rt_wqueue_wait`. -/
inductive Pc where
  | run
  /-- before its first critical section -/
  | entering (tick : ℤ) (suspendFlag : SuspendFlag)
  /-- before its call of `rt_schedule` -/
  | waiting
  /-- after its call of `rt_schedule` -/
  | woken
  /-- before its call of `rt_wqueue_remove` -/
  | leaving
  /-- after it -/
  | removed
  | returns (ret : IpcErr)
deriving DecidableEq

/-- The wait queue and who uses it.  The last three fields are not in the source. -/
structure System (Tid Oid : Type) where
  kernel : Kernel Tid Oid
  queue : RtWqueue Tid
  pc : Tid → Pc
  /-- the timer that the tick handler has taken off the list and whose `_thread_timeout` it has not
  called yet -/
  firing : Option Tid
  /-- a wake-up found no thread in the waiting list, and no wait has begun since -/
  early : Bool
  /-- the wait of this thread was the first to begin after such a wake-up -/
  owed : Tid → Bool
  /-- a thread has gone through the end of its wait since the last wake-up, or there was none -/
  left : Bool

/-- What can happen next. -/
inductive Action (Tid Oid : Type) where
  /-- the running thread calls `rt_wqueue_wait` or one of its variants -/
  | wait (condition tick : ℤ) (suspendFlag : SuspendFlag)
  /-- the running thread goes on with its call -/
  | resume
  /-- a thread or an interrupt handler calls `rt_wqueue_wakeup` -/
  | wakeup
  /-- `rt_schedule`, at the end of this call or at any other time -/
  | schedule
  /-- somebody calls `rt_thread_resume` -/
  | threadResume (t : Tid)
  /-- the running thread waits for something else -/
  | suspend (suspList : Option (SuspList Oid)) (ipcFlags : IpcFlag) (suspendFlag : SuspendFlag)
  /-- somebody calls `rt_susp_list_dequeue` -/
  | dequeue (suspList : SuspList Oid) (threadError : IpcErr)
  /-- the first half of `rt_thread_startup` -/
  | startup (t : Tid)
  /-- the tick handler finds that the timer of a thread has run out -/
  | timerExpires (t : Tid)
  /-- the tick handler calls `_thread_timeout` -/
  | timeoutFunc
  /-- the tick handler charges the running thread -/
  | tickIncrease

variable {Tid Oid : Type} [DecidableEq Tid] [DecidableEq Oid]

/-- The thread that runs when no handler does. -/
def System.running (s : System Tid Oid) : Option Tid :=
  match s.firing, s.kernel.sched.currentThread with
  | none, some t => if (s.kernel.look t).life = .live then some t else none
  | _, _ => none

/-! ### The calls -/

/-- The loop of `rt_wqueue_wakeup`: the thread that it resumes. -/
def wakeupLoop (k : Kernel Tid Oid) : List Tid → Kernel Tid Oid × Option Tid
  | [] => (k, none)
  | pollingThread :: list =>
    let k := { k with error := Function.update k.error pollingThread .eok }
    match k.rtThreadResume pollingThread with
    | (k, .eok) => (k, some pollingThread)
    | (k, _) => wakeupLoop k list

/-- `rt_wqueue_wakeup`, up to the end of its critical section. -/
def rtWqueueWakeup (k : Kernel Tid Oid) (queue : RtWqueue Tid) : Kernel Tid Oid × RtWqueue Tid :=
  let k := k.rtSpinLock
  match wakeupLoop k queue.waitingList with
  | (k, none) => (k.rtSpinUnlock, { queue with flag := .wakeup })
  | (k, some t) =>
    (k.rtSpinUnlock, ⟨.wakeup, queue.waitingList.filter (· ≠ t)⟩)

/-- The first critical section of `_rt_wqueue_wait`. -/
def rtWqueueWait (k : Kernel Tid Oid) (queue : RtWqueue Tid) (tid : Tid) (tick : ℤ)
    (suspendFlag : SuspendFlag) : Kernel Tid Oid × RtWqueue Tid × Pc :=
  let k := k.rtSpinLock
  let k := { k with error := Function.update k.error tid .eok }
  if queue.flag = .wakeup then
    -- already wakeup
    (k.rtSpinUnlock, { queue with flag := .clean }, .leaving)
  else
    match k.rtThreadSuspendToList tid none .fifo suspendFlag with
    | (k, .eok) =>
      -- `RT_WAITING_FOREVER` is -1
      let k := if tick ≠ -1 then k.rtTimerStart tid else k
      (k.rtSpinUnlock, { queue with waitingList := queue.waitingList ++ [tid] }, .waiting)
    | (k, _) => (k.rtSpinUnlock, queue, .returns .eintr)

/-- The running thread goes on with its call. -/
def resume (s : System Tid Oid) (t : Tid) : Option (System Tid Oid) :=
  match s.pc t with
  | .run => none
  | .entering tick suspendFlag =>
    let (kernel, queue, pc) := rtWqueueWait s.kernel s.queue t tick suspendFlag
    some { s with
      kernel := kernel, queue := queue, pc := Function.update s.pc t pc
      owed := Function.update s.owed t false, left := s.left || pc = .leaving }
  | .waiting => some { s with kernel := s.kernel.rtSchedule, pc := Function.update s.pc t .woken }
  | .woken =>
    some { s with
      kernel := s.kernel.rtSpinLock.rtSpinUnlock, queue := { s.queue with flag := .clean }
      pc := Function.update s.pc t .leaving, left := true }
  | .leaving =>
    some { s with
      kernel := s.kernel.rtSpinLock.rtSpinUnlock
      queue := { s.queue with waitingList := s.queue.waitingList.filter (· ≠ t) }
      pc := Function.update s.pc t .removed }
  | .removed => some { s with pc := Function.update s.pc t (.returns (s.kernel.error t)) }
  | .returns _ => some { s with pc := Function.update s.pc t .run }

/-- One step of the system. -/
def step (s : System Tid Oid) : Action Tid Oid → Option (System Tid Oid)
  | .wait condition tick suspendFlag =>
    s.running.bind fun t =>
      if s.pc t = .run then
        if condition ≠ 0 ∨ tick = 0 then
          some { s with pc := Function.update s.pc t (.returns .eok) }
        else
          some { s with
            pc := Function.update s.pc t (.entering tick suspendFlag)
            early := false, owed := Function.update s.owed t s.early }
      else none
  | .resume => s.running.bind (resume s)
  | .wakeup =>
    let (kernel, queue) := rtWqueueWakeup s.kernel s.queue
    some { s with
      kernel := kernel, queue := queue, early := s.early || s.queue.waitingList = [], left := false }
  | .schedule => some { s with kernel := s.kernel.rtSchedule }
  | .threadResume t => some { s with kernel := (s.kernel.rtThreadResume t).1 }
  | .suspend suspList ipcFlags suspendFlag =>
    s.running.bind fun t =>
      if s.pc t = .run then
        some { s with kernel := (s.kernel.rtThreadSuspendToList t suspList ipcFlags suspendFlag).1 }
      else none
  | .dequeue suspList threadError =>
    some { s with kernel := (s.kernel.rtSuspListDequeue suspList threadError).1 }
  | .startup t =>
    if (s.kernel.look t).life = .init then
      some { s with kernel := { s.kernel with sched := rtSchedThreadStartup s.kernel.sched t } }
    else none
  | .timerExpires t =>
    if s.firing = none ∧ s.kernel.timerActive t = true then
      some { s with
        kernel := { s.kernel with timerActive := Function.update s.kernel.timerActive t false }
        firing := some t }
    else none
  | .timeoutFunc => s.firing.map fun t => { s with kernel := s.kernel.threadTimeout t, firing := none }
  | .tickIncrease =>
    s.kernel.sched.currentThread.map fun t =>
      { s with kernel := { s.kernel with sched := rtSchedTickIncrease s.kernel.sched t 1 } }

omit [DecidableEq Tid] [DecidableEq Oid] in
/-- `rt_wqueue_init`, when nobody has waited yet. -/
def System.init (sched : SchedState Tid) : System Tid Oid where
  kernel :=
    { sched := sched, error := fun _ => .eok, timerActive := fun _ => false
      suspendThread := fun _ => [], arrivals := 0, arrival := fun _ => 0 }
  queue := ⟨.clean, []⟩
  pc := fun _ => .run
  firing := none
  early := false
  owed := fun _ => false
  left := true

end N32L43x.Waitqueue
