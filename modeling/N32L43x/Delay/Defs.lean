import N32L43x.Ipc.Err
import N32L43x.Lib.Run
import N32L43x.Timer.Defs

/-!
The delays of `thread.c`, with the timers they wait for.  A delay runs with the scheduler locked and the
interrupts enabled; the calls it makes disable them.  Which of the threads that can run does is left to
the scheduler, so that the status of a thread is reduced to whether it is suspended.
-/

namespace N32L43x.Delay

open N32L43x.Timer N32L43x.Ipc

/-- `RT_TICK_PER_SECOND`. -/
def rtTickPerSecond : ℕ := 1000

/-- `rt_tick_from_millisecond`, with its branch for `RT_TICK_PER_SECOND == 1000u`; `RT_WAITING_FOREVER` is
`-1`. -/
def rtTickFromMillisecond (ms : BitVec 32) : BitVec 32 :=
  if ms.toInt < 0 then 0xffffffff#32 else ms

/-- The two ways to sleep. -/
inductive Routine
  /-- `_thread_sleep` -/
  | sleep
  /-- `rt_thread_delay_until` -/
  | delayUntil
deriving DecidableEq

/-- Where a thread is in a delay. -/
inductive Pc
  /-- in none -/
  | idle
  /-- `rt_thread_delay_until`, before it reads the tick -/
  | reading
  /-- before `rt_thread_suspend_with_flag` -/
  | suspending (r : Routine) (tick : BitVec 32)
  /-- before `rt_timer_control` -/
  | setting (r : Routine) (tick : BitVec 32)
  /-- before `rt_timer_start` -/
  | starting (r : Routine)
  /-- `_thread_sleep`, before it sets the error number to `-RT_EINTR` -/
  | marking
  /-- it leaves the critical section and is switched away from -/
  | sleeping (r : Routine)
deriving DecidableEq

/-- Who made a thread ready again. -/
inductive Waker
  /-- `_thread_timeout` -/
  | timeout
  /-- `rt_thread_resume` -/
  | threadResume
deriving DecidableEq

/-- A thread.  From `asked` on the fields are history that no operation reads: the ticks that the delay
asks for, the time of the call, who has made the thread ready since, and of the calls of
`rt_thread_delay_until` the first time, the deadlines of the timer so far, and whether one was late. -/
structure Thread where
  /-- `rt_sched_thread_is_suspended` -/
  suspended : Bool
  /-- `sched_flag_ttmr_set` -/
  ttmrSet : Bool
  error : IpcErr
  pc : Pc
  /-- the variable that `rt_thread_delay_until` is given the address of -/
  tick : BitVec 32
  /-- the increment it is given with it -/
  incTick : BitVec 32
  asked : ℤ
  since : ℕ
  waker : Option Waker
  start : BitVec 32
  deadlines : List (BitVec 32)
  late : Bool

/-- A call of `rt_thread_delay` or `rt_thread_mdelay` that has returned. -/
structure Return (Tid : Type) where
  thread : Tid
  asked : ℤ
  since : ℕ
  now : ℕ
  waker : Option Waker
  ret : IpcErr

/-- The threads, their timers among all others, and the delays that have returned. -/
structure System (Tid App : Type) where
  thread : Tid → Thread
  timers : TimerState (Tid ⊕ App)
  log : List (Return Tid)

variable {Tid App : Type} [DecidableEq Tid] [DecidableEq App]

/-- A write to the fields of a thread. -/
def System.modify (s : System Tid App) (t : Tid) (f : Thread → Thread) : System Tid App :=
  { s with thread := Function.update s.thread t (f (s.thread t)) }

/-- `rt_sched_thread_timer_stop`: its result, and the timers after it. -/
def rtSchedThreadTimerStop (s : System Tid App) (t : Tid) : System Tid App × RtErr :=
  if (s.thread t).ttmrSet then
    let (timers, err) := rtTimerStop s.timers (.inl t)
    (System.modify { s with timers := timers } t fun th => { th with ttmrSet := false }, err)
  else (s, .eok)

/-- `rt_thread_suspend_with_flag`. -/
def rtThreadSuspendWithFlag (s : System Tid App) (t : Tid) : System Tid App × RtErr :=
  if (s.thread t).suspended then (s, .error)
  else ((rtSchedThreadTimerStop (s.modify t fun th => { th with suspended := true }) t).1, .eok)

/-- `rt_thread_resume`, by `rt_sched_thread_ready`. -/
def rtThreadResume (s : System Tid App) (t : Tid) : System Tid App × RtErr :=
  if (s.thread t).suspended then
    match rtSchedThreadTimerStop s t with
    | (s, .eok) =>
      (s.modify t fun th => { th with suspended := false, waker := some .threadResume }, .eok)
    | (s, err) => (s, err)
  else (s, .einval)

/-- `_thread_timeout`. -/
def threadTimeout (s : System Tid App) (t : Tid) : System Tid App :=
  s.modify t fun th => { th with error := .etimeout, suspended := false, waker := some .timeout }

/-- `rt_timer_control` with `RT_TIMER_CTRL_SET_TIME`, of the timer of a thread. -/
def rtTimerSetTime (s : System Tid App) (t : Tid) (tick : BitVec 32) : System Tid App :=
  { s with timers := (rtTimerControl s.timers (.inl t) (.setTime tick)).1 }

/-- `rt_timer_start`, of the timer of a thread. -/
def threadTimerStart (s : System Tid App) (t : Tid) : System Tid App :=
  System.modify { s with timers := (rtTimerStart s.timers (.inl t)).1 } t fun th =>
    { th with ttmrSet := true }

/-! ### The delays -/

/-- A call of `_thread_sleep` returns. -/
def sleepReturns (s : System Tid App) (t : Tid) (ret : IpcErr) : System Tid App :=
  let th := s.thread t
  let s := s.modify t fun th => { th with pc := .idle }
  { s with log := s.log ++ [⟨t, th.asked, th.since, s.timers.now, th.waker, ret⟩] }

/-- `_thread_sleep`, up to its first call. -/
def threadSleep (s : System Tid App) (t : Tid) (tick : BitVec 32) (asked : ℤ) : System Tid App :=
  let s := s.modify t fun th => { th with asked := asked, since := s.timers.now, waker := none }
  if tick = 0#32 then sleepReturns s t .einval
  else s.modify t fun th => { th with error := .eok, pc := .suspending .sleep tick }

/-- `rt_thread_delay`. -/
def rtThreadDelay (s : System Tid App) (t : Tid) (tick : BitVec 32) : System Tid App :=
  threadSleep s t tick tick.toNat

/-- The ticks of a number of milliseconds, rounded up. -/
def ceilTicks (ms : BitVec 32) : ℤ := -(-(ms.toInt * rtTickPerSecond) / 1000)

/-- `rt_thread_mdelay`. -/
def rtThreadMdelay (s : System Tid App) (t : Tid) (ms : BitVec 32) : System Tid App :=
  threadSleep s t (rtTickFromMillisecond ms) (ceilTicks ms)

/-- `rt_thread_delay_until`, from where it reads the tick up to its first call. -/
def delayUntilRead (s : System Tid App) (t : Tid) : System Tid App :=
  let curTick := s.timers.tick
  let th := s.thread t
  if curTick - th.tick < th.incTick then
    let tick := th.tick + th.incTick
    s.modify t fun th => { th with tick := tick, pc := .suspending .delayUntil (tick - curTick) }
  else s.modify t fun th => { th with tick := curTick, pc := .idle, late := true }

/-- A delay after its call of `rt_thread_suspend_with_flag`; `rt_thread_delay_until` does not look at the
result. -/
def afterSuspend (s : System Tid App) (t : Tid) (tick : BitVec 32) : RtErr → Routine → System Tid App
  | .eok, r => s.modify t fun th => { th with pc := .setting r tick }
  | _, .sleep => sleepReturns s t .error
  | _, .delayUntil => s.modify t fun th => { th with pc := .setting .delayUntil tick }

/-- A delay goes on. -/
def goOn (s : System Tid App) (t : Tid) : System Tid App :=
  match (s.thread t).pc with
  | .idle => s
  | .reading => delayUntilRead s t
  | .suspending r tick =>
    let (s, err) := rtThreadSuspendWithFlag s t
    afterSuspend s t tick err r
  | .setting r tick => (rtTimerSetTime s t tick).modify t fun th => { th with pc := .starting r }
  | .starting .sleep => (threadTimerStart s t).modify t fun th => { th with pc := .marking }
  | .starting .delayUntil =>
    let s := threadTimerStart s t
    s.modify t fun th =>
      { th with
        pc := .sleeping .delayUntil
        deadlines := th.deadlines ++ [(s.timers.timer (.inl t)).timeoutTick] }
  | .marking => s.modify t fun th => { th with error := .eintr, pc := .sleeping .sleep }
  | .sleeping r =>
    let s := s.modify t fun th => { th with error := if th.error = .etimeout then .eok else th.error }
    match r with
    -- what `rt_thread_suspend_with_flag` returned, not the error number
    | .sleep => sleepReturns s t .eok
    | .delayUntil => s.modify t fun th => { th with pc := .idle }

/-- A thread that is asleep goes on when it is made ready; on its way there it is not switched away
from. -/
def Thread.goes (th : Thread) : Bool :=
  match th.pc with
  | .sleeping _ => !th.suspended
  | _ => true

/-! ### Steps -/

inductive Action (Tid App : Type)
  /-- a thread calls `rt_thread_delay` -/
  | delay (t : Tid) (tick : BitVec 32)
  /-- a thread calls `rt_thread_mdelay` -/
  | mdelay (t : Tid) (ms : BitVec 32)
  /-- a thread sets the variable for `rt_thread_delay_until`, and decides on the increment -/
  | setTick (t : Tid) (tick incTick : BitVec 32)
  /-- a thread calls `rt_thread_delay_until` with them -/
  | delayUntil (t : Tid)
  /-- a thread goes on with its delay -/
  | goOn (t : Tid)
  /-- somebody calls `rt_thread_resume` -/
  | threadResume (t : Tid)
  /-- a thread is suspended in another call -/
  | suspend (t : Tid)
  /-- a thread starts its timer in another call -/
  | threadTimer (t : Tid) (time : BitVec 32)
  /-- somebody makes a call on a timer that is not one of a thread -/
  | timer (c : Call App)
  /-- the tick interrupt counts the tick -/
  | tick
  /-- `rt_timer_check` is entered -/
  | check
  /-- the callback of a timer runs to its end, that of a thread being `_thread_timeout` -/
  | ret

/-- A call on one of the other timers. -/
def appCall : Call App → Call (Tid ⊕ App)
  | .start a => .start (.inr a)
  | .stop a => .stop (.inr a)
  | .control a cmd => .control (.inr a) cmd
  | .detach a => .detach (.inr a)

/-- The thread runs while no interrupt handler is active, and is in no delay. -/
def System.Outside (s : System Tid App) (t : Tid) : Prop :=
  s.timers.pc = .idle ∧ (s.thread t).pc = .idle

instance (s : System Tid App) (t : Tid) : Decidable (s.Outside t) := inferInstanceAs (Decidable (_ ∧ _))

/-- The callback of a timer. -/
def timeoutFunc (s : System Tid App) : Tid ⊕ App → System Tid App
  | .inl t => threadTimeout s t
  | .inr _ => s

def step (s : System Tid App) : Action Tid App → Option (System Tid App)
  | .delay t tick =>
    if s.Outside t ∧ (s.thread t).suspended = false then some (rtThreadDelay s t tick) else none
  | .mdelay t ms =>
    if s.Outside t ∧ (s.thread t).suspended = false then some (rtThreadMdelay s t ms) else none
  | .setTick t tick incTick =>
    if s.Outside t ∧ (s.thread t).suspended = false then
      some (s.modify t fun th =>
        { th with tick := tick, incTick := incTick, start := tick, deadlines := [], late := false })
    else none
  | .delayUntil t =>
    if s.Outside t ∧ (s.thread t).suspended = false then
      some (s.modify t fun th => { th with error := .eok, pc := .reading })
    else none
  | .goOn t =>
    if s.timers.pc = .idle ∧ (s.thread t).goes = true then some (goOn s t) else none
  | .threadResume t => some (rtThreadResume s t).1
  | .suspend t => if s.Outside t then some (rtThreadSuspendWithFlag s t).1 else none
  | .threadTimer t time =>
    if s.Outside t then some (threadTimerStart (rtTimerSetTime s t time) t) else none
  | .timer c => some { s with timers := call s.timers (appCall c) }
  | .tick => (Timer.step s.timers .tick).map fun timers => { s with timers := timers }
  | .check => (Timer.step s.timers .check).map fun timers => { s with timers := timers }
  | .ret =>
    match s.timers.pc with
    | .callback i =>
      let s := timeoutFunc s i
      (Timer.step s.timers .ret).map fun timers => { s with timers := timers }
    | _ => none

omit [DecidableEq Tid] [DecidableEq App] in
/-- Threads that run, and their timers as `rt_thread_init` leaves them among others, at any tick. -/
def init (tick : BitVec 32) (periodic : App → Bool) (time : App → BitVec 32) : System Tid App where
  thread _ :=
    { suspended := false, ttmrSet := false, error := .eok, pc := .idle, tick := 0#32, incTick := 0#32
      asked := 0, since := 0, waker := none, start := 0#32, deadlines := [], late := false }
  timers := Timer.init tick (Sum.elim (fun _ => false) periodic) (Sum.elim (fun _ => 0#32) time)
  log := []

end N32L43x.Delay
