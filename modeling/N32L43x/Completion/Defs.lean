import N32L43x.Ipc.Kernel
import N32L43x.Lib.Run

/-!
`components/drivers/ipc/completion_up.c`: a completion, with the thread that waits for it, whoever wakes
it up, and the timers of the threads.  One thread at a time waits.
-/

namespace N32L43x.Completion

open N32L43x.Sched N32L43x.Ipc

/-- `susp_thread_n_flag`: the thread, and `RT_COMPLETED` in the lowest bit. -/
structure Word (Tid : Type) where
  thread : Option Tid
  completed : Bool
deriving DecidableEq

/-- Where the thread that waits is in `rt_completion_wait_flags`. -/
inductive Pc where
  /-- before its first critical section -/
  | entering (timeout : ℤ) (suspendFlag : SuspendFlag)
  /-- before its call of `rt_schedule` -/
  | waiting (suspendFlag : SuspendFlag)
  /-- after it -/
  | woken (suspendFlag : SuspendFlag)
  | returns (ret : IpcErr)
deriving DecidableEq

/-- The completion and who uses it. -/
structure System (Tid Oid : Type) where
  kernel : Kernel Tid Oid
  suspThreadNFlag : Word Tid
  waiter : Option (Tid × Pc)
  /-- the timer that the tick handler has taken off the list and whose `_thread_timeout` it has not
  called yet -/
  firing : Option Tid

/-- What can happen next. -/
inductive Action (Tid Oid : Type) where
  /-- the running thread calls `rt_completion_wait_flags` or one of its variants -/
  | wait (timeout : ℤ) (suspendFlag : SuspendFlag)
  /-- the running thread goes on with its call -/
  | resume
  /-- a thread or an interrupt handler calls `rt_completion_wakeup_by_errno`; the number is `none` if it
  is negative -/
  | wakeup (threadErrno : Option IpcErr)
  /-- `rt_schedule`, at any time -/
  | schedule
  /-- somebody calls `rt_thread_resume`, but not for the thread that waits -/
  | threadResume (t : Tid)
  /-- the running thread waits for something else -/
  | suspend (suspList : Option (SuspList Oid)) (ipcFlags : IpcFlag) (suspendFlag : SuspendFlag)
  /-- somebody calls `rt_susp_list_dequeue` -/
  | dequeue (suspList : SuspList Oid) (threadError : IpcErr)
  /-- the first half of `rt_thread_startup` -/
  | startup (t : Tid)
  /-- the tick handler finds that the timer of a thread has run out -/
  | timerExpires (t : Tid)
  /-- the tick handler calls `_thread_timeout` -/
  | timeoutFunc
  /-- the tick handler charges the running thread -/
  | tickIncrease

variable {Tid Oid : Type} [DecidableEq Tid] [DecidableEq Oid]

/-- The thread that runs when no handler does. -/
def System.running (s : System Tid Oid) : Option Tid :=
  match s.firing, s.kernel.sched.currentThread with
  | none, some t => if (s.kernel.look t).life = .live then some t else none
  | _, _ => none

/-- The thread that waits. -/
def System.waits (s : System Tid Oid) (t : Tid) : Bool := s.waiter.any fun w => w.1 = t

/-- A thread that is suspended, or was and has not looked at the word since. -/
def Pc.sleeps : Pc → Bool
  | .waiting _ => true
  | .woken _ => true
  | _ => false

def System.sleeper (s : System Tid Oid) : Option Tid :=
  s.waiter.bind fun w => if w.2.sleeps then some w.1 else none

/-! ### The calls -/

/-- From `__try_again` on, up to the end of the critical section. -/
def tryAgain (k : Kernel Tid Oid) (word : Word Tid) (thread : Tid) (timeout : ℤ)
    (suspendFlag : SuspendFlag) : Kernel Tid Oid × Word Tid × Pc :=
  if word.completed = false then
    if timeout = 0 then (k.rtSpinUnlock, word, .returns .etimeout)
    else
      let k := { k with error := Function.update k.error thread .eok }
      match k.rtThreadSuspendToList thread none .fifo suspendFlag with
      | (k, .eok) =>
        let k := if 0 < timeout then k.rtTimerStart thread else k
        (k.rtSpinUnlock, ⟨some thread, false⟩, .waiting suspendFlag)
      | (k, _) => (k.rtSpinUnlock, ⟨none, false⟩, .returns .error)
  else (k.rtSpinUnlock, ⟨none, false⟩, .returns .eok)

/-- The critical section of `rt_completion_wait_flags` after its call of `rt_schedule`. -/
def recheck (k : Kernel Tid Oid) (word : Word Tid) (thread : Tid) (suspendFlag : SuspendFlag) :
    Kernel Tid Oid × Word Tid × Pc :=
  let k := k.rtSpinLock
  if word ≠ ⟨some thread, false⟩ then
    -- completion may be completed after we suspend
    tryAgain k word thread 0 suspendFlag
  else
    -- no changes, waiting failed
    (k.rtSpinUnlock, ⟨none, false⟩, .returns (k.error thread))

omit [DecidableEq Oid] in
/-- The error number of a thread that is woken; it stays what it is if the one given is negative. -/
def setErrno (k : Kernel Tid Oid) (thread : Tid) : Option IpcErr → Kernel Tid Oid
  | some threadErrno => { k with error := Function.update k.error thread threadErrno }
  | none => k

omit [DecidableEq Oid] in
/-- `rt_completion_wakeup_by_errno`: what it returns. -/
def rtCompletionWakeupByErrno (k : Kernel Tid Oid) (word : Word Tid) (threadErrno : Option IpcErr) :
    Kernel Tid Oid × Word Tid × IpcErr :=
  let k := k.rtSpinLock
  if word.completed = true then (k.rtSpinUnlock, word, .ebusy)
  else
    match word.thread with
    | some suspendThread =>
      match (setErrno k suspendThread threadErrno).rtThreadResume suspendThread with
      | (k, .eok) => (k.rtSpinUnlock, ⟨none, true⟩, .eok)
      | (k, _) => (k.rtSpinUnlock, ⟨none, true⟩, .eempty)
    | none => (k.rtSpinUnlock, ⟨none, true⟩, .eempty)

/-- The running thread goes on with its call. -/
def resume (s : System Tid Oid) (t : Tid) : Option (System Tid Oid) :=
  match s.waiter with
  | none => none
  | some (thread, pc) =>
    if thread = t then
      match pc with
      | .entering timeout suspendFlag =>
        let (kernel, word, pc) :=
          tryAgain s.kernel.rtSpinLock s.suspThreadNFlag t timeout suspendFlag
        some { s with kernel := kernel, suspThreadNFlag := word, waiter := some (t, pc) }
      | .waiting suspendFlag =>
        some { s with kernel := s.kernel.rtSchedule, waiter := some (t, .woken suspendFlag) }
      | .woken suspendFlag =>
        let (kernel, word, pc) := recheck s.kernel s.suspThreadNFlag t suspendFlag
        some { s with kernel := kernel, suspThreadNFlag := word, waiter := some (t, pc) }
      | .returns _ => some { s with waiter := none }
    else none

/-- One step of the system. -/
def step (s : System Tid Oid) : Action Tid Oid → Option (System Tid Oid)
  | .wait timeout suspendFlag =>
    s.running.bind fun t =>
      if s.waiter = none then some { s with waiter := some (t, .entering timeout suspendFlag) } else none
  | .resume => s.running.bind (resume s)
  | .wakeup threadErrno =>
    let (kernel, word, _) := rtCompletionWakeupByErrno s.kernel s.suspThreadNFlag threadErrno
    some { s with kernel := kernel, suspThreadNFlag := word }
  | .schedule => some { s with kernel := s.kernel.rtSchedule }
  | .threadResume t =>
    if s.waits t then none else some { s with kernel := (s.kernel.rtThreadResume t).1 }
  | .suspend suspList ipcFlags suspendFlag =>
    s.running.bind fun t =>
      if s.waits t then none
      else some { s with kernel := (s.kernel.rtThreadSuspendToList t suspList ipcFlags suspendFlag).1 }
  | .dequeue suspList threadError =>
    some { s with kernel := (s.kernel.rtSuspListDequeue suspList threadError).1 }
  | .startup t =>
    if (s.kernel.look t).life = .init then
      some { s with kernel := { s.kernel with sched := rtSchedThreadStartup s.kernel.sched t } }
    else none
  | .timerExpires t =>
    if s.firing = none ∧ s.kernel.timerActive t = true then
      some { s with
        kernel := { s.kernel with timerActive := Function.update s.kernel.timerActive t false }
        firing := some t }
    else none
  | .timeoutFunc => s.firing.map fun t => { s with kernel := s.kernel.threadTimeout t, firing := none }
  | .tickIncrease =>
    s.kernel.sched.currentThread.map fun t =>
      { s with kernel := { s.kernel with sched := rtSchedTickIncrease s.kernel.sched t 1 } }

omit [DecidableEq Tid] [DecidableEq Oid] in
/-- `rt_completion_init`, when nobody has waited yet. -/
def System.init (sched : SchedState Tid) : System Tid Oid where
  kernel :=
    { sched := sched, error := fun _ => .eok, timerActive := fun _ => false
      suspendThread := fun _ => [], arrivals := 0, arrival := fun _ => 0 }
  suspThreadNFlag := ⟨none, false⟩
  waiter := none
  firing := none

/-! ### The specification

A token, which a wake-up leaves and a wait takes. -/

/-- What is seen of a run: the calls and returns, and when it is decided what a wait returns. -/
inductive Event where
  | waitCalled
  | waitDecides (ret : IpcErr)
  | waitReturns (ret : IpcErr)
  | wakeup (ret : IpcErr)
deriving DecidableEq

/-- The wait that is under way, and what it will return once that is decided. -/
inductive Wait where
  | idle
  | called
  | decided (ret : IpcErr)
deriving DecidableEq

structure Token where
  available : Bool
  wait : Wait
deriving DecidableEq

def specStep (q : Token) : Event → Option Token
  | .waitCalled => if q.wait = .idle then some { q with wait := .called } else none
  | .waitDecides ret =>
    -- it succeeds if and only if there is a token, and takes it
    if q.wait = .called ∧ (ret = .eok ↔ q.available = true) then some ⟨false, .decided ret⟩ else none
  | .waitReturns ret => if q.wait = .decided ret then some { q with wait := .idle } else none
  | .wakeup ret =>
    -- it is refused if and only if there is a token already
    if ret = .ebusy ↔ q.available = true then some { q with available := true } else none

/-- A wake-up that is not refused. -/
def Event.accepted : Event → Bool
  | .wakeup ret => ret ≠ .ebusy
  | _ => false

/-- A wait that returns `RT_EOK`. -/
def Event.succeeds : Event → Bool
  | .waitReturns ret => ret = .eok
  | _ => false

/-- How many accepted wake-ups no wait has returned `RT_EOK` for. -/
def Token.outstanding (q : Token) : ℕ :=
  q.available.toNat + if q.wait = .decided .eok then 1 else 0

/-- How far a wait is. -/
def Pc.wait : Pc → Wait
  | .entering .. => .called
  | .waiting _ => .called
  | .woken _ => .called
  | .returns ret => .decided ret

/-- The token and the wait. -/
def System.token (s : System Tid Oid) : Token :=
  ⟨s.suspThreadNFlag.completed, s.waiter.elim .idle fun w => w.2.wait⟩

/-- What is seen of a step of the wait. -/
def seen : Wait → Wait → List Event
  | .called, .decided ret => [.waitDecides ret]
  | .decided ret, _ => [.waitReturns ret]
  | _, _ => []

/-- What is seen of a step. -/
def label (s : System Tid Oid) (a : Action Tid Oid) (s' : System Tid Oid) : List Event :=
  match a with
  | .wait .. => [.waitCalled]
  | .resume => seen s.token.wait s'.token.wait
  | .wakeup threadErrno =>
    [.wakeup (rtCompletionWakeupByErrno s.kernel s.suspThreadNFlag threadErrno).2.2]
  | _ => []

end N32L43x.Completion
