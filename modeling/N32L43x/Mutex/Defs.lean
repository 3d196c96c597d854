import N32L43x.Ipc.Kernel
import N32L43x.Lib.Run

/-!
The mutexes of `ipc.c` with priority inheritance and priority ceilings, and what `thread.c` does to
them when a thread ends.  The suspend lists of mutexes are ordered by priority, whatever flag a mutex
was made with.  A priority of `0xff` stands for none.
-/

namespace N32L43x.Mutex

open N32L43x.Sched N32L43x.Ipc

/-- `struct rt_mutex`, without its suspend list. -/
structure RtMutex (Tid : Type) where
  owner : Option Tid
  hold : ℕ
  priority : ℕ
  ceilingPriority : ℕ

/-- `RT_MUTEX_HOLD_MAX`. -/
def holdMax : ℕ := 255

/-- The kernel with the mutexes. -/
structure State (Tid Oid : Type) where
  kernel : Kernel Tid Oid
  mutex : Oid → RtMutex Tid
  /-- `thread->pending_object`, which is only ever set to a mutex -/
  pendingObject : Tid → Option Oid
  takenObjectList : Tid → List Oid

namespace State

variable {Tid Oid : Type} (s : State Tid Oid)

/-- The threads that wait for a mutex. -/
def waiters (m : Oid) : List Tid := s.kernel.suspendThread (.mutex m)

def prio (t : Tid) : Fin 32 := s.kernel.prio t

/-- The priority of the first thread that waits, `0xff` if there is none. -/
def waitersPriority (m : Oid) : ℕ :=
  match s.waiters m with
  | [] => 0xff
  | th :: _ => s.prio th

/-- `_thread_get_mutex_priority`. -/
def threadGetMutexPriority (t : Tid) : Fin 32 :=
  (s.takenObjectList t).foldl (fun priority m =>
    let mutex := s.mutex m
    let mutexPrio :=
      if mutex.priority < mutex.ceilingPriority then mutex.priority else mutex.ceilingPriority
    if mutexPrio < priority.val then toPriority mutexPrio else priority)
    (s.kernel.look t).initPriority

def lock : State Tid Oid := { s with kernel := s.kernel.rtSpinLock }

variable [DecidableEq Tid]

def unlock : State Tid Oid := { s with kernel := s.kernel.rtSpinUnlock }

def schedule : State Tid Oid := { s with kernel := s.kernel.rtSchedule }

def setError (t : Tid) (e : IpcErr) : State Tid Oid :=
  { s with kernel := { s.kernel with error := Function.update s.kernel.error t e } }

/-- `rt_sched_thread_change_priority`. -/
def changePriority (t : Tid) (priority : Fin 32) : State Tid Oid :=
  { s with kernel := { s.kernel with sched := rtSchedUpdatePriority s.kernel.sched t priority false } }

variable [DecidableEq Oid]

omit [DecidableEq Tid] in
def setMutex (m : Oid) (mutex : RtMutex Tid) : State Tid Oid :=
  { s with mutex := Function.update s.mutex m mutex }

omit [DecidableEq Tid] in
/-- `_mutex_update_priority`, and the same lines elsewhere. -/
def mutexUpdatePriority (m : Oid) : State Tid Oid :=
  s.setMutex m { s.mutex m with priority := s.waitersPriority m }

/-! ### Priority inheritance -/

/-- A thread that waits for a mutex is put in its place in the list again. -/
def requeue (t : Tid) (m : Oid) : State Tid Oid :=
  { s with kernel := (s.kernel.listRemove t).rtSuspListEnqueue (.mutex m) t .prio }

/-- The loop of `_thread_update_priority`, for a thread whose priority was changed.  It does not end
within the fuel, or reads the owner of a mutex that has none, if the result is `none`. -/
def updateLoop : ℕ → State Tid Oid → Tid → Option (State Tid Oid)
  | 0, _, _ => none
  | fuel + 1, s, t =>
    if s.kernel.Suspended t then
      match s.pendingObject t with
      | none => some s
      | some m =>
        let s := (s.requeue t m).mutexUpdatePriority m
        match (s.mutex m).owner with
        | none => none
        | some owner =>
          let mutexPriority := s.threadGetMutexPriority owner
          if mutexPriority ≠ s.prio owner then
            updateLoop fuel (s.changePriority owner mutexPriority) owner
          else some s
    else some s

/-- `_thread_update_priority`. -/
def threadUpdatePriority (fuel : ℕ) (t : Tid) (priority : Fin 32) : Option (State Tid Oid) :=
  updateLoop fuel (s.changePriority t priority) t

/-- The owner of a mutex is given the priority that its mutexes ask for. -/
def refreshOwner (fuel : ℕ) (m : Oid) : Option (State Tid Oid) :=
  match (s.mutex m).owner with
  | none => some s
  | some owner =>
    let priority := s.threadGetMutexPriority owner
    if priority ≠ s.prio owner then s.threadUpdatePriority fuel owner priority else some s

omit [DecidableEq Tid] [DecidableEq Oid] in
/-- `need_update`: the owner of the mutex has the priority of the thread. -/
def needUpdate (t : Tid) (m : Oid) : Bool :=
  match (s.mutex m).owner with
  | none => false
  | some owner => decide (s.prio owner = s.prio t)

/-- The mutex is refreshed after a waiter has left, and its owner if that has the priority of the
waiter. -/
def waiterLeft (fuel : ℕ) (t : Tid) (m : Oid) : Option (State Tid Oid) :=
  if s.needUpdate t m then (s.mutexUpdatePriority m).refreshOwner fuel m
  else some (s.mutexUpdatePriority m)

/-! ### `rt_mutex_take` -/

/-- `_rt_mutex_take` until the thread is suspended.  It returns with the spin lock released, or goes
on with the spin lock held and the thread in the list. -/
def takeEnter (fuel : ℕ) (t : Tid) (m : Oid) (timeout : ℤ) (suspendFlag : SuspendFlag) :
    Option (State Tid Oid × Option IpcErr) :=
  let s := s.lock.setError t .eok
  let mutex := s.mutex m
  if mutex.owner = some t then
    if mutex.hold < holdMax then
      some ((s.setMutex m { mutex with hold := mutex.hold + 1 }).unlock, some .eok)
    else some (s.unlock, some .efull)
  else
    match mutex.owner with
    | none =>
      let s := s.setMutex m { mutex with owner := some t, priority := 0xff, hold := 1 }
      let s? :=
        if mutex.ceilingPriority ≠ 0xff ∧ mutex.ceilingPriority < (s.prio t).val then
          s.threadUpdatePriority fuel t (toPriority mutex.ceilingPriority)
        else some s
      s?.map fun s =>
        let taken := Function.update s.takenObjectList t (m :: s.takenObjectList t)
        ({ s with takenObjectList := taken }.unlock, some .eok)
    | some _ =>
      if timeout = 0 then some ((s.setError t .etimeout).unlock, some .etimeout)
      else
        match s.kernel.rtThreadSuspendToList t (some (.mutex m)) .prio suspendFlag with
        | (kernel, .eok) =>
          some ({ s with
            kernel := kernel, pendingObject := Function.update s.pendingObject t (some m) }, none)
        | (kernel, _) => some ({ s with kernel := kernel }.unlock, some .error)

/-- `_rt_mutex_take` where the priority is passed on to the mutex and its owner. -/
def takeBoost (fuel : ℕ) (t : Tid) (m : Oid) : Option (State Tid Oid) :=
  let priority := s.prio t
  if priority.val < (s.mutex m).priority then
    let s := s.setMutex m { s.mutex m with priority := priority }
    match (s.mutex m).owner with
    | none => none
    | some owner =>
      if priority < s.prio owner then s.threadUpdatePriority fuel owner priority else some s
  else some s

/-- `_rt_mutex_take` after its call of `rt_schedule`: the thread owns the mutex, or it was woken for
another reason. -/
def takeFinish (fuel : ℕ) (t : Tid) (m : Oid) : Option (State Tid Oid × IpcErr) :=
  let s := s.lock
  if (s.mutex m).owner = some t then some (s.unlock, .eok)
  else
    let ret := if s.kernel.error t = .eok then .eintr else s.kernel.error t
    (s.waiterLeft fuel t m).map fun s => (s.unlock, ret)

/-! ### `rt_mutex_release` -/

/-- `_check_and_update_prio`. -/
def checkAndUpdatePrio (t : Tid) (m : Oid) : State Tid Oid × Bool :=
  let mutex := s.mutex m
  if mutex.ceilingPriority ≠ 0xff ∨ (s.prio t).val = mutex.priority then
    (s.changePriority t (s.threadGetMutexPriority t), true)
  else (s, false)

omit [DecidableEq Oid] in
/-- The loop of `rt_mutex_release` over the threads that wait, as many times as there are. -/
def wakeLoop (m : Oid) : ℕ → Kernel Tid Oid → Kernel Tid Oid × Option Tid
  | 0, k => (k, none)
  | n + 1, k =>
    match k.suspendThread (.mutex m) with
    | [] => (k, none)
    | nextThread :: _ =>
      match (k.listRemove nextThread).rtSchedThreadReady nextThread with
      | (k, .eok) => (k, some nextThread)
      | (k, _) => wakeLoop m n k

/-- `rt_mutex_release` where nobody holds the mutex any more. -/
def handOver (m : Oid) : State Tid Oid × Bool :=
  let (kernel, nextThread) := wakeLoop m (s.waiters m).length s.kernel
  let s := { s with kernel := kernel }
  match nextThread with
  | some next =>
    let s := s.setMutex m { s.mutex m with owner := some next, hold := 1 }
    let s := { s with
      takenObjectList := Function.update s.takenObjectList next (m :: s.takenObjectList next)
      pendingObject := Function.update s.pendingObject next none }
    (s.mutexUpdatePriority m, true)
  | none => (s.setMutex m { s.mutex m with owner := none, priority := 0xff }, false)

/-- `rt_mutex_release` by a thread, up to the end of its critical section: what it returns, and
`need_schedule`. -/
def rtMutexRelease (t : Tid) (m : Oid) : State Tid Oid × IpcErr × Bool :=
  let s := s.lock
  let mutex := s.mutex m
  if mutex.owner ≠ some t then ((s.setError t .error).unlock, .error, false)
  else
    let s := s.setMutex m { mutex with hold := (mutex.hold + 255) % 256 }
    if (s.mutex m).hold = 0 then
      let s := { s with takenObjectList := fun u => (s.takenObjectList u).filter (· ≠ m) }
      let (s, needSchedule) := s.checkAndUpdatePrio t m
      let (s, handed) := s.handOver m
      (s.unlock, .eok, needSchedule || handed)
    else (s.unlock, .eok, false)

/-! ### Ceilings and the end of a thread -/

/-- `rt_mutex_setprioceiling` of a priority below `RT_THREAD_PRIORITY_MAX`. -/
def rtMutexSetprioceiling (fuel : ℕ) (m : Oid) (priority : Fin 32) : Option (State Tid Oid) :=
  let s := s.lock
  let s := s.setMutex m { s.mutex m with ceilingPriority := priority }
  (s.refreshOwner fuel m).map fun s => s.unlock

/-- `rt_mutex_drop_thread`. -/
def rtMutexDropThread (fuel : ℕ) (m : Oid) (t : Tid) : Option (State Tid Oid) :=
  let s := s.lock
  let s := { s with kernel := s.kernel.listRemove t }
  (s.waiterLeft fuel t m).map fun s => s.unlock

/-- The loop of `_thread_detach_from_mutex` over the mutexes of a thread, in the context of the
thread `self`. -/
def releaseTaken (self : Tid) (taken : List Oid) : State Tid Oid :=
  taken.foldl (fun s m =>
    let s := s.setMutex m { s.mutex m with hold := 1 }
    let (s, _, needSchedule) := s.rtMutexRelease self m
    if needSchedule then s.schedule else s) s

/-- `_thread_detach_from_mutex`. -/
def threadDetachFromMutex (fuel : ℕ) (self t : Tid) : Option (State Tid Oid) :=
  let s := s.lock
  let s? : Option (State Tid Oid) := match s.pendingObject t with
    | none => some s
    | some m => (s.rtMutexDropThread fuel m t).map fun s =>
      { s with pendingObject := Function.update s.pendingObject t none }
  s?.map fun s => (s.releaseTaken self (s.takenObjectList t)).unlock

omit [DecidableEq Oid] in
/-- `rt_thread_close`: the node of a thread that was started is taken out of the list it is in. -/
def rtThreadClose (t : Tid) : State Tid Oid :=
  let life := (s.kernel.look t).life
  if life = .closed then s
  else
    let kernel := if life = .init then s.kernel else s.kernel.listRemove t
    { s with
      kernel := { kernel with
        sched := Sched.rtThreadClose s.kernel.sched t
        timerActive := Function.update s.kernel.timerActive t false } }

/-- `_thread_detach`, which `rt_thread_detach` and `rt_thread_delete` call, and `_thread_exit` for the
thread itself. -/
def threadDetach (fuel : ℕ) (self t : Tid) : Option (State Tid Oid) :=
  let s := s.lock.rtThreadClose t
  (s.threadDetachFromMutex fuel self t).map fun s => s.unlock

end State

/-! ### The system -/

/-- Where a thread is.  With the spin lock held, it goes on although it is suspended. -/
inductive Pc (Oid : Type) where
  | run
  /-- `rt_mutex_take` has put the thread in the list, and holds the spin lock -/
  | queued (m : Oid) (timeout : ℤ)
  /-- and has passed its priority on -/
  | boosted (m : Oid) (timeout : ℤ)
  /-- and has started its timer -/
  | timed (m : Oid)
  /-- the spin lock is released, `rt_schedule` is to be called -/
  | waiting (m : Oid)
  /-- the thread is back from `rt_schedule` -/
  | woken (m : Oid)
  /-- `pending_object` is to be cleared before the return -/
  | failed (m : Oid)
  /-- `rt_mutex_release` calls `rt_schedule` -/
  | releasing
deriving DecidableEq

/-- The thread holds the spin lock of a mutex. -/
def Pc.locked {Oid : Type} : Pc Oid → Bool
  | .queued .. | .boosted .. | .timed _ => true
  | _ => false

structure System (Tid Oid : Type) where
  st : State Tid Oid
  pc : Tid → Pc Oid
  /-- how the threads of the other objects queue -/
  flag : SuspList Oid → IpcFlag

variable {Tid Oid : Type} [DecidableEq Tid] [DecidableEq Oid]

/-- What can happen next. -/
inductive Action (Tid Oid : Type) where
  /-- the running thread calls `rt_mutex_take` or one of its variants -/
  | take (m : Oid) (timeout : ℤ) (suspendFlag : SuspendFlag)
  | release (m : Oid)
  | setprioceiling (m : Oid) (priority : Fin 32)
  /-- the running thread calls `rt_thread_detach` or `rt_thread_delete` -/
  | detach (t : Tid)
  /-- the function of the running thread returns -/
  | exit
  /-- the running thread goes on with its call -/
  | resume
  | yield
  /-- the timer of a thread runs out -/
  | timerExpires (t : Tid)
  | tickIncrease
  /-- `rt_thread_control` with `RT_THREAD_CTRL_CHANGE_PRIORITY` -/
  | changePriority (t : Tid) (priority : Fin 32)
  /-- the running thread waits in the list of an object of another kind -/
  | wait (l : SuspList Oid) (timeout : ℤ) (suspendFlag : SuspendFlag)
  /-- the first thread in the list of an object of another kind is resumed -/
  | dequeue (l : SuspList Oid) (threadError : IpcErr)

/-- The thread that runs when no handler does. -/
def System.running (s : System Tid Oid) : Option Tid :=
  match s.st.kernel.sched.currentThread with
  | none => none
  | some t =>
    if (s.st.kernel.look t).life = .live ∨ (s.pc t).locked = true then some t else none

/-- The thread that runs and is in no call. -/
def System.caller (s : System Tid Oid) : Option Tid :=
  match s.running with
  | none => none
  | some t => if s.pc t = .run then some t else none

def System.goto (s : System Tid Oid) (st : State Tid Oid) (t : Tid) (pc : Pc Oid) :
    System Tid Oid :=
  { s with st := st, pc := Function.update s.pc t pc }

/-- The running thread goes on with its call. -/
def resume (fuel : ℕ) (s : System Tid Oid) (t : Tid) : Option (System Tid Oid) :=
  match s.pc t with
  | .run => none
  | .queued m timeout => (s.st.takeBoost fuel t m).map fun st => s.goto st t (.boosted m timeout)
  | .boosted m timeout =>
    let kernel := if 0 < timeout then s.st.kernel.rtTimerStart t else s.st.kernel
    some (s.goto { s.st with kernel := kernel } t (.timed m))
  | .timed m => some (s.goto s.st.unlock t (.waiting m))
  | .waiting m => some (s.goto s.st.schedule t (.woken m))
  | .woken m =>
    (s.st.takeFinish fuel t m).map fun (st, ret) =>
      s.goto st t (if ret = .eok then .run else .failed m)
  | .failed _ =>
    let pending := Function.update s.st.pendingObject t none
    some (s.goto { s.st with pendingObject := pending } t .run)
  | .releasing => some (s.goto s.st.schedule t .run)

/-- The list of an object of another kind. -/
def notMutex : SuspList Oid → Bool
  | .mutex _ => false
  | _ => true

/-- A thread waits in a list, in a critical section of its own. -/
def State.waitOn (st : State Tid Oid) (t : Tid) (l : SuspList Oid) (flag : IpcFlag) (timeout : ℤ)
    (suspendFlag : SuspendFlag) : State Tid Oid :=
  match st.kernel.rtSpinLock.rtThreadSuspendToList t (some l) flag suspendFlag with
  | (kernel, .eok) =>
    { st with kernel := (if 0 < timeout then kernel.rtTimerStart t else kernel).rtSpinUnlock }
  | (kernel, _) => { st with kernel := kernel.rtSpinUnlock }

/-- One step of the system, where the loops of `_thread_update_priority` end within the fuel. -/
def step (fuel : ℕ) (s : System Tid Oid) : Action Tid Oid → Option (System Tid Oid)
  | .take m timeout suspendFlag =>
    s.caller.bind fun t =>
      (s.st.takeEnter fuel t m timeout suspendFlag).map fun (st, ret) =>
        s.goto st t (if ret.isSome then .run else .queued m timeout)
  | .release m =>
    s.caller.map fun t =>
      let (st, _, needSchedule) := s.st.rtMutexRelease t m
      s.goto st t (if needSchedule then .releasing else .run)
  | .setprioceiling m priority =>
    s.caller.bind fun _ =>
      (s.st.rtMutexSetprioceiling fuel m priority).map fun st => { s with st := st }
  | .detach t =>
    s.caller.bind fun self => (s.st.threadDetach fuel self t).map fun st => { s with st := st }
  | .exit =>
    s.caller.bind fun t =>
      (s.st.threadDetach fuel t t).map fun st => { s with st := st.schedule }
  | .resume => s.running.bind (resume fuel s)
  | .yield =>
    s.caller.map fun t =>
      { s with st := { s.st with kernel := { s.st.kernel with
        sched := rtThreadYield s.st.kernel.sched t } } }
  | .timerExpires t =>
    if s.st.kernel.timerActive t = true then
      let kernel := { s.st.kernel with timerActive := Function.update s.st.kernel.timerActive t false }
      some { s with st := { s.st with kernel := kernel.threadTimeout t } }
    else none
  | .tickIncrease =>
    s.st.kernel.sched.currentThread.map fun t =>
      { s with st := { s.st with kernel := { s.st.kernel with
        sched := rtSchedTickIncrease s.st.kernel.sched t 1 } } }
  | .changePriority t priority =>
    s.caller.map fun _ => { s with st := s.st.changePriority t priority }
  | .wait l timeout suspendFlag =>
    s.caller.bind fun t =>
      if notMutex l then
        some { s with st := s.st.waitOn t l (s.flag l) timeout suspendFlag }
      else none
  | .dequeue l threadError =>
    if notMutex l then
      let kernel := (s.st.kernel.rtSpinLock.rtSuspListDequeue l threadError).1
      some { s with st := { s.st with kernel := kernel.rtSpinUnlock } }
    else none

end N32L43x.Mutex
