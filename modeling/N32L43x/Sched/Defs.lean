import N32L43x.Lib.Bits
import N32L43x.RtErr
import Mathlib.Logic.Function.Basic

/-!
The uniprocessor scheduler: the ready lists with their bitmap, the scheduling fields of a thread, and
the operations of `scheduler_up.c`, `scheduler_comm.c` and `thread.c` on them.  There are 32
priorities.  A thread is in at most one list through its node; of the lists, the ready ones are
modelled.  `RT_ASSERT` is compiled out; what it asks of a caller is a guard of the step.
-/

namespace N32L43x.Sched

open N32L43x.Lib.Bits

/-! ### The first bit set -/

/-- `__lowest_bit_bitmap`: the lowest bit that is set in a byte. -/
def lowestBitBitmap : List ℕ :=
  [0, 0, 1, 0, 2, 0, 1, 0, 3, 0, 1, 0, 2, 0, 1, 0,
   4, 0, 1, 0, 2, 0, 1, 0, 3, 0, 1, 0, 2, 0, 1, 0,
   5, 0, 1, 0, 2, 0, 1, 0, 3, 0, 1, 0, 2, 0, 1, 0,
   4, 0, 1, 0, 2, 0, 1, 0, 3, 0, 1, 0, 2, 0, 1, 0,
   6, 0, 1, 0, 2, 0, 1, 0, 3, 0, 1, 0, 2, 0, 1, 0,
   4, 0, 1, 0, 2, 0, 1, 0, 3, 0, 1, 0, 2, 0, 1, 0,
   5, 0, 1, 0, 2, 0, 1, 0, 3, 0, 1, 0, 2, 0, 1, 0,
   4, 0, 1, 0, 2, 0, 1, 0, 3, 0, 1, 0, 2, 0, 1, 0,
   7, 0, 1, 0, 2, 0, 1, 0, 3, 0, 1, 0, 2, 0, 1, 0,
   4, 0, 1, 0, 2, 0, 1, 0, 3, 0, 1, 0, 2, 0, 1, 0,
   5, 0, 1, 0, 2, 0, 1, 0, 3, 0, 1, 0, 2, 0, 1, 0,
   4, 0, 1, 0, 2, 0, 1, 0, 3, 0, 1, 0, 2, 0, 1, 0,
   6, 0, 1, 0, 2, 0, 1, 0, 3, 0, 1, 0, 2, 0, 1, 0,
   4, 0, 1, 0, 2, 0, 1, 0, 3, 0, 1, 0, 2, 0, 1, 0,
   5, 0, 1, 0, 2, 0, 1, 0, 3, 0, 1, 0, 2, 0, 1, 0,
   4, 0, 1, 0, 2, 0, 1, 0, 3, 0, 1, 0, 2, 0, 1, 0]

/-- `__rt_ffs`: the first bit set, counted from 1, and 0 if there is none. -/
def rtFfs (value : BitVec 32) : ℕ :=
  if value = 0#32 then 0
  else if value &&& 0xff#32 ≠ 0#32 then lowestBitBitmap.getD (value &&& 0xff#32).toNat 0 + 1
  else if value &&& 0xff00#32 ≠ 0#32 then
    lowestBitBitmap.getD ((value &&& 0xff00#32) >>> 8).toNat 0 + 9
  else if value &&& 0xff0000#32 ≠ 0#32 then
    lowestBitBitmap.getD ((value &&& 0xff0000#32) >>> 16).toNat 0 + 17
  else lowestBitBitmap.getD ((value &&& 0xff000000#32) >>> 24).toNat 0 + 25

/-! ### The state -/

/-- The suspend flags. -/
inductive SuspendFlag where
  | interruptible
  | killable
  | uninterruptible
deriving DecidableEq

/-- The status of a thread, without `RT_THREAD_STAT_YIELD`. -/
inductive ThreadStat where
  | init
  | close
  | ready
  | running
  | suspend (flag : SuspendFlag)
deriving DecidableEq

/-- The scheduling fields of `struct rt_thread`. -/
structure Thread where
  stat : ThreadStat
  /-- `RT_THREAD_STAT_YIELD` -/
  yield : Bool
  initPriority : Fin 32
  currentPriority : Fin 32
  numberMask : BitVec 32
  initTick : ℕ
  remainingTick : ℕ
  /-- `sched_flag_ttmr_set` -/
  ttmrSet : Bool

/-- The scheduler and its threads. -/
structure SchedState (Tid : Type) where
  thread : Tid → Thread
  /-- `rt_thread_priority_table` -/
  priorityTable : Fin 32 → List Tid
  /-- `rt_thread_ready_priority_group` -/
  readyPriorityGroup : BitVec 32
  currentThread : Option Tid
  /-- `rt_scheduler_lock_nest` -/
  lockNest : ℕ

variable {Tid : Type} [DecidableEq Tid]

/-- A write to the fields of a thread. -/
def SchedState.modify (s : SchedState Tid) (t : Tid) (f : Thread → Thread) : SchedState Tid :=
  { s with thread := Function.update s.thread t (f (s.thread t)) }

/-- The bit of a priority, `1 << priority`. -/
def maskOf (priority : Fin 32) : BitVec 32 := bit 32 priority

/-- `rt_sched_thread_init_ctx` and `rt_sched_thread_init_priv`. -/
def rtSchedThreadInit (tick : ℕ) (priority : Fin 32) : Thread where
  stat := .init
  yield := false
  initPriority := priority
  currentPriority := priority
  numberMask := 0#32
  initTick := tick
  remainingTick := tick
  ttmrSet := false

/-- The state after `rt_system_scheduler_init`, with threads that were only initialised. -/
def SchedState.init (tick : Tid → ℕ) (priority : Tid → Fin 32) : SchedState Tid where
  thread := fun t => rtSchedThreadInit (tick t) (priority t)
  priorityTable := fun _ => []
  readyPriorityGroup := 0#32
  currentThread := none
  lockNest := 0

/-! ### The ready lists -/

/-- `rt_list_remove` of the node of a thread. -/
def SchedState.listRemove (s : SchedState Tid) (t : Tid) : SchedState Tid :=
  { s with priorityTable := fun p => (s.priorityTable p).filter (· ≠ t) }

/-- `rt_sched_insert_thread`: behind the list of its priority if the thread has used up its time
slice, else before it. -/
def rtSchedInsertThread (s : SchedState Tid) (t : Tid) : SchedState Tid :=
  if s.currentThread = some t then s.modify t fun th => { th with stat := .running }
  else
    let s := s.modify t fun th => { th with stat := .ready }
    let th := s.thread t
    let list := s.priorityTable th.currentPriority
    let list := if th.yield then list ++ [t] else t :: list
    { s with
      priorityTable := Function.update s.priorityTable th.currentPriority list
      readyPriorityGroup := s.readyPriorityGroup ||| th.numberMask }

/-- `rt_sched_remove_thread`. -/
def rtSchedRemoveThread (s : SchedState Tid) (t : Tid) : SchedState Tid :=
  let s := s.listRemove t
  let th := s.thread t
  if s.priorityTable th.currentPriority = [] then
    { s with readyPriorityGroup := s.readyPriorityGroup &&& ~~~th.numberMask }
  else s

/-- `_scheduler_get_highest_priority_thread`: the first thread of the list that the bitmap names. -/
def SchedState.highest (s : SchedState Tid) : Fin 32 × Option Tid :=
  let p := Fin.ofNat 32 (rtFfs s.readyPriorityGroup - 1)
  (p, (s.priorityTable p).head?)

/-- A priority that is kept as a wider number. -/
def toPriority (n : ℕ) : Fin 32 := Fin.ofNat 32 n

lemma toPriority_val {n : ℕ} (h : n < 32) : (toPriority n).val = n := Nat.mod_eq_of_lt h

/-! ### Scheduling -/

/-- The choice of `rt_schedule` between the first ready thread and the current one, and whether the
current one goes back to the ready lists. -/
def SchedState.choose (s : SchedState Tid) (curr first : Tid) (p : Fin 32) : Tid × Bool :=
  let th := s.thread curr
  if th.stat = .running then
    if th.currentPriority < p then (curr, false)
    else if th.currentPriority = p ∧ th.yield = false then (curr, false)
    else (first, true)
  else (first, false)

/-- `rt_schedule`, for the current thread. -/
def rtSchedule (s : SchedState Tid) (curr : Tid) : SchedState Tid :=
  if s.lockNest = 0 ∧ s.readyPriorityGroup ≠ 0#32 then
    let (p, first) := s.highest
    match first with
    | none => s
    | some first =>
      let (toThread, needInsert) := s.choose curr first p
      if toThread ≠ curr then
        let s := { s with currentThread := some toThread }
        let s := if needInsert then rtSchedInsertThread s curr else s
        let s := s.modify curr fun th => { th with yield := false }
        let s := rtSchedRemoveThread s toThread
        s.modify toThread fun th => { th with stat := .running }
      else
        let s := rtSchedRemoveThread s curr
        s.modify curr fun th => { th with stat := .running }
  else s

/-- `rt_sched_unlock_n_resched`. -/
def rtSchedUnlockNResched (s : SchedState Tid) : SchedState Tid :=
  match s.currentThread with
  | none => s
  | some curr => rtSchedule s curr

/-- `rt_system_scheduler_start`, with the thread it switches to. -/
def rtSystemSchedulerStart (s : SchedState Tid) (toThread : Tid) : SchedState Tid :=
  let s := { s with currentThread := some toThread }
  let s := rtSchedRemoveThread s toThread
  s.modify toThread fun th => { th with stat := .running, yield := false }

/-! ### Operations on threads -/

/-- `rt_sched_thread_startup`. -/
def rtSchedThreadStartup (s : SchedState Tid) (t : Tid) : SchedState Tid :=
  s.modify t fun th =>
    { th with
      numberMask := maskOf th.currentPriority
      stat := .suspend .interruptible
      yield := false }

/-- `rt_sched_thread_is_suspended`. -/
def ThreadStat.isSuspended : ThreadStat → Bool
  | .suspend _ => true
  | _ => false

/-- `rt_sched_thread_ready`; the timer of the thread may have run out already, which the result of
`rt_timer_stop` tells. -/
def rtSchedThreadReady (s : SchedState Tid) (t : Tid) (timerStop : RtErr) : SchedState Tid × RtErr :=
  if (s.thread t).stat.isSuspended then
    let err := if (s.thread t).ttmrSet then timerStop else .eok
    let s := s.modify t fun th => { th with ttmrSet := false }
    if err = .eok then (rtSchedInsertThread (s.listRemove t) t, err) else (s, err)
  else (s, .einval)

/-- `rt_thread_resume`. -/
def rtThreadResume (s : SchedState Tid) (t : Tid) (timerStop : RtErr) : SchedState Tid × RtErr :=
  let (s, err) := rtSchedThreadReady s t timerStop
  if err = .eok then (rtSchedUnlockNResched s, .eok) else (s, err)

/-- `_thread_timeout`. -/
def threadTimeout (s : SchedState Tid) (t : Tid) : SchedState Tid :=
  rtSchedUnlockNResched (rtSchedInsertThread (s.listRemove t) t)

/-- `rt_thread_suspend_to_list`. -/
def rtThreadSuspendToList (s : SchedState Tid) (t : Tid) (flag : SuspendFlag) : SchedState Tid × RtErr :=
  if (s.thread t).stat = .ready ∨ (s.thread t).stat = .running then
    let s := rtSchedRemoveThread s t
    let s := s.modify t fun th => { th with stat := .suspend flag }
    -- `rt_sched_thread_timer_stop`
    (s.modify t fun th => { th with ttmrSet := false }, .eok)
  else (s, .error)

/-- `rt_sched_thread_yield`. -/
def rtSchedThreadYield (s : SchedState Tid) (t : Tid) : SchedState Tid :=
  s.modify t fun th => { th with remainingTick := th.initTick, yield := true }

/-- `rt_thread_yield`, of the current thread. -/
def rtThreadYield (s : SchedState Tid) (t : Tid) : SchedState Tid :=
  rtSchedUnlockNResched (rtSchedThreadYield s t)

/-- `rt_sched_tick_increase`, for the current thread. -/
def rtSchedTickIncrease (s : SchedState Tid) (t : Tid) (tick : ℕ) : SchedState Tid :=
  let s := s.modify t fun th => { th with remainingTick := th.remainingTick - tick }
  if (s.thread t).remainingTick ≠ 0 then s
  else rtSchedUnlockNResched (rtSchedThreadYield s t)

/-- The new priority of a thread, with its mask. -/
def Thread.setPriority (th : Thread) (priority : Fin 32) (updateInitPrio : Bool) : Thread :=
  { th with
    initPriority := if updateInitPrio then priority else th.initPriority
    currentPriority := priority
    numberMask := maskOf priority }

/-- `_rt_sched_update_priority`. -/
def rtSchedUpdatePriority (s : SchedState Tid) (t : Tid) (priority : Fin 32) (updateInitPrio : Bool) :
    SchedState Tid :=
  if (s.thread t).stat = .ready then
    let s := rtSchedRemoveThread s t
    let s := s.modify t fun th =>
      { th.setPriority priority updateInitPrio with stat := .init, yield := false }
    rtSchedInsertThread s t
  else s.modify t fun th => th.setPriority priority updateInitPrio

/-- `rt_thread_close`. -/
def rtThreadClose (s : SchedState Tid) (t : Tid) : SchedState Tid :=
  if (s.thread t).stat = .close then s
  else
    let s := if (s.thread t).stat ≠ .init then rtSchedRemoveThread s t else s
    s.modify t fun th => { th with stat := .close, yield := false }

/-! ### Steps -/

/-- What can happen next.  Interrupts are off within each of these. -/
inductive Action (Tid : Type) where
  /-- the first half of `rt_thread_startup`; `rt_thread_resume` is the second -/
  | startup (t : Tid)
  | resume (t : Tid) (timerStop : RtErr)
  /-- the timer of a suspended thread runs out -/
  | timeout (t : Tid)
  /-- the timer of a thread is started -/
  | timerStart (t : Tid)
  /-- `rt_thread_suspend` asserts that the thread is the current one; nothing here depends on it -/
  | suspend (t : Tid) (flag : SuspendFlag)
  | yield
  | tickIncrease (tick : ℕ)
  | changePriority (t : Tid) (priority : Fin 32) (updateInitPrio : Bool)
  | close (t : Tid)
  | schedule
  | schedulerStart
  | enterCritical
  /-- `rt_exit_critical` up to its call of `rt_schedule`, before which interrupts are enabled -/
  | exitCritical

/-- One step of the system. -/
def step (s : SchedState Tid) : Action Tid → Option (SchedState Tid)
  | .startup t => if (s.thread t).stat = .init then some (rtSchedThreadStartup s t) else none
  | .resume t timerStop => some (rtThreadResume s t timerStop).1
  | .timeout t => if (s.thread t).stat.isSuspended then some (threadTimeout s t) else none
  | .timerStart t => some (s.modify t fun th => { th with ttmrSet := true })
  | .suspend t flag => some (rtThreadSuspendToList s t flag).1
  | .yield => s.currentThread.map (rtThreadYield s)
  | .tickIncrease tick => s.currentThread.map fun t => rtSchedTickIncrease s t tick
  | .changePriority t priority updateInitPrio =>
    some (rtSchedUpdatePriority s t priority updateInitPrio)
  | .close t => some (rtThreadClose s t)
  | .schedule => s.currentThread.map (rtSchedule s)
  | .schedulerStart =>
    if s.currentThread = none ∧ s.readyPriorityGroup ≠ 0#32 then
      s.highest.2.map (rtSystemSchedulerStart s)
    else none
  | .enterCritical => some { s with lockNest := s.lockNest + 1 }
  | .exitCritical => some { s with lockNest := s.lockNest - 1 }

end N32L43x.Sched
