import N32L43x.Ipc.Kernel
import N32L43x.Lib.Run

/-!
The semaphores of `ipc.c`, with the threads and interrupt handlers that use them and the timers of
the threads.  A thread that waits without limit has no timer.  The tick handler takes a timer that
has run out off the timer list and clears `RT_TIMER_FLAG_ACTIVATED`, enables the interrupts and then
calls `_thread_timeout`: an interrupt handler may run in between.  When a timer runs out is left
open.
-/

namespace N32L43x.Sem

open N32L43x.Sched N32L43x.Ipc

/-- `struct rt_semaphore`, without its suspend list. -/
structure Semaphore where
  value : ℕ
  maxValue : ℕ
  flag : IpcFlag

variable {Tid Oid : Type} [DecidableEq Tid] [DecidableEq Oid]

/-- `_rt_sem_take` up to the end of its critical section: what it returns, `none` if the thread
waits. -/
def rtSemTake (k : Kernel Tid Oid) (sem : Semaphore) (thread : Tid) (o : Oid) (timeout : ℤ)
    (suspendFlag : SuspendFlag) : Kernel Tid Oid × Semaphore × Option IpcErr :=
  let k := k.rtSpinLock
  if 0 < sem.value then (k.rtSpinUnlock, { sem with value := sem.value - 1 }, some .eok)
  else if timeout = 0 then (k.rtSpinUnlock, sem, some .etimeout)
  else
    let k := { k with error := Function.update k.error thread .eintr }
    match k.rtThreadSuspendToList thread (some (.sem o)) sem.flag suspendFlag with
    | (k, .eok) =>
      let k := if 0 < timeout then k.rtTimerStart thread else k
      (k.rtSpinUnlock, sem, none)
    | (k, _) => (k.rtSpinUnlock, sem, some .error)

omit [DecidableEq Oid] in
/-- `rt_sem_release` up to the end of its critical section: what it returns, and `need_schedule`. -/
def rtSemRelease (k : Kernel Tid Oid) (sem : Semaphore) (o : Oid) :
    Kernel Tid Oid × Semaphore × IpcErr × Bool :=
  let k := k.rtSpinLock
  match k.suspendThread (.sem o) with
  | _ :: _ =>
    -- the result of `rt_susp_list_dequeue` is not looked at
    let k := (k.rtSuspListDequeue (.sem o) .eok).1
    (k.rtSpinUnlock, sem, .eok, true)
  | [] =>
    if sem.value < sem.maxValue then
      (k.rtSpinUnlock, { sem with value := sem.value + 1 }, .eok, false)
    else (k.rtSpinUnlock, sem, .efull, false)

/-! ### The system -/

/-- Where a thread is. -/
inductive Pc (Oid : Type) where
  | run
  /-- in `rt_sem_take`, before its call of `rt_schedule` -/
  | waiting (o : Oid)
  /-- in `rt_sem_take`, after its call of `rt_schedule` -/
  | woken (o : Oid)
  | takeReturns (o : Oid) (ret : IpcErr)
  /-- in `rt_sem_release`, before its call of `rt_schedule` -/
  | releasing (o : Oid)
  | releaseReturns (o : Oid) (ret : IpcErr)
deriving DecidableEq

/-- The semaphores and who uses them.  The last two fields count the calls that have returned
`RT_EOK`. -/
structure System (Tid Oid : Type) where
  kernel : Kernel Tid Oid
  sem : Oid → Semaphore
  pc : Tid → Pc Oid
  /-- the timer that the tick handler has taken off the list and whose `_thread_timeout` it has not
  called yet -/
  firing : Option Tid
  takes : Oid → ℕ
  releases : Oid → ℕ

/-- What can happen next. -/
inductive Action (Tid Oid : Type) where
  /-- the running thread calls `rt_sem_take` or one of its variants, or `rt_sem_trytake` -/
  | take (o : Oid) (timeout : ℤ) (suspendFlag : SuspendFlag)
  | release (o : Oid)
  /-- the running thread goes on with its call -/
  | resume
  /-- an interrupt handler calls `rt_sem_trytake` -/
  | isrTrytake (o : Oid)
  | isrRelease (o : Oid)
  /-- the tick handler finds that the timer of a thread has run out -/
  | timerExpires (t : Tid)
  /-- the tick handler calls `_thread_timeout` -/
  | timeoutFunc
  /-- the tick handler charges the running thread -/
  | tickIncrease

/-- One more call that has returned `RT_EOK`. -/
def counted (n : Oid → ℕ) (o : Oid) (ret : IpcErr) : Oid → ℕ :=
  if ret = .eok then Function.update n o (n o + 1) else n

/-- The thread that runs when no handler does. -/
def System.running (s : System Tid Oid) : Option Tid :=
  match s.firing, s.kernel.sched.currentThread with
  | none, some t => if (s.kernel.look t).life = .live then some t else none
  | _, _ => none

/-- The running thread goes on with its call. -/
def resume (s : System Tid Oid) (t : Tid) : Option (System Tid Oid) :=
  match s.pc t with
  | .run => none
  | .waiting o =>
    some { s with kernel := s.kernel.rtSchedule, pc := Function.update s.pc t (.woken o) }
  | .woken o => some { s with pc := Function.update s.pc t (.takeReturns o (s.kernel.error t)) }
  | .takeReturns o ret =>
    some { s with pc := Function.update s.pc t .run, takes := counted s.takes o ret }
  | .releasing o =>
    some { s with kernel := s.kernel.rtSchedule, pc := Function.update s.pc t (.releaseReturns o .eok) }
  | .releaseReturns o ret =>
    some { s with pc := Function.update s.pc t .run, releases := counted s.releases o ret }

/-- One step of the system. -/
def step (s : System Tid Oid) : Action Tid Oid → Option (System Tid Oid)
  | .take o timeout suspendFlag =>
    s.running.bind fun t =>
      if s.pc t = .run then
        let (kernel, sem, ret) := rtSemTake s.kernel (s.sem o) t o timeout suspendFlag
        let pc := match ret with
          | none => .waiting o
          | some ret => .takeReturns o ret
        some { s with
          kernel := kernel, sem := Function.update s.sem o sem, pc := Function.update s.pc t pc }
      else none
  | .release o =>
    s.running.bind fun t =>
      if s.pc t = .run then
        let (kernel, sem, ret, needSchedule) := rtSemRelease s.kernel (s.sem o) o
        let pc := if needSchedule then .releasing o else .releaseReturns o ret
        some { s with
          kernel := kernel, sem := Function.update s.sem o sem, pc := Function.update s.pc t pc }
      else none
  | .resume => s.running.bind (resume s)
  | .isrTrytake o =>
    s.kernel.sched.currentThread.bind fun t =>
      let (kernel, sem, ret) := rtSemTake s.kernel (s.sem o) t o 0 .uninterruptible
      let takes := match ret with
        | none => s.takes
        | some ret => counted s.takes o ret
      some { s with kernel := kernel, sem := Function.update s.sem o sem, takes := takes }
  | .isrRelease o =>
    let (kernel, sem, ret, needSchedule) := rtSemRelease s.kernel (s.sem o) o
    some { s with
      kernel := if needSchedule then kernel.rtSchedule else kernel
      sem := Function.update s.sem o sem, releases := counted s.releases o ret }
  | .timerExpires t =>
    if s.firing = none ∧ s.kernel.timerActive t = true then
      some { s with
        kernel := { s.kernel with timerActive := Function.update s.kernel.timerActive t false }
        firing := some t }
    else none
  | .timeoutFunc => s.firing.map fun t => { s with kernel := s.kernel.threadTimeout t, firing := none }
  | .tickIncrease =>
    s.kernel.sched.currentThread.map fun t =>
      { s with kernel := { s.kernel with sched := rtSchedTickIncrease s.kernel.sched t 1 } }

end N32L43x.Sem
