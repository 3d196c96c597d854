import Mathlib.Data.List.Sort
import Mathlib.Data.BitVec
import N32L43x.Lib.Run
import N32L43x.RtErr

/-!
The hard timers of `rt-thread/src/timer.c`, configured with one list
(`RT_TIMER_SKIP_LIST_LEVEL` is `1`) and no soft timers.

An operation on a timer runs with interrupts off and is one step.  `_timer_check` runs in the tick
interrupt and releases its lock around each callback, so it is a small machine of its own: a
callback is the stretch between the step that pops a due timer and the step in which it returns,
and every operation on any timer may come in between, from the callback or from another handler.
-/

namespace N32L43x.Timer

open N32L43x.Lib.Run

variable {Id : Type*} [DecidableEq Id]

/-- `RT_TICK_MAX`. -/
def rtTickMax : ℕ := 0xffffffff

/-- `struct rt_timer`.  The last two fields are history that no operation reads: the deadline on a
clock that does not wrap around, and the number of the start that set it. -/
structure RtTimer where
  /-- `RT_TIMER_FLAG_PERIODIC` -/
  periodic : Bool
  /-- `RT_TIMER_FLAG_ACTIVATED` -/
  activated : Bool
  initTick : BitVec 32
  timeoutTick : BitVec 32
  deadline : ℕ
  stamp : ℕ

/-- Where the tick interrupt stands. -/
inductive CheckPc (Id : Type*)
  /-- not in it -/
  | idle
  /-- the tick is counted, `rt_timer_check` not yet entered -/
  | entered
  /-- in the callback of a timer -/
  | callback (t : Id)
deriving DecidableEq

/-- What a check does that can be seen from outside, with the time on the clock that does not wrap
around. -/
inductive Event (Id : Type*)
  | fire (t : Id) (now : ℕ)
  | done (now : ℕ)
deriving DecidableEq

/-- The timers, `_timer_list`, the local variables of the check, and three history variables that
no operation reads: the clock that does not wrap around, the number of starts so far and what the
checks have done. -/
structure TimerState (Id : Type*) where
  /-- `rt_tick` -/
  tick : BitVec 32
  timer : Id → RtTimer
  timerList : List Id
  /-- the temporary list of `_timer_check` -/
  list : List Id
  pc : CheckPc Id
  now : ℕ
  starts : ℕ
  log : List (Event Id)

/-- `_timer_remove`: the node of the timer leaves whichever list it is linked in. -/
def timerRemove (s : TimerState Id) (t : Id) : TimerState Id :=
  { s with timerList := s.timerList.erase t, list := s.list.erase t }

/-- The assignment of one timer's record. -/
def setTimer (s : TimerState Id) (t : Id) (tm : RtTimer) : TimerState Id :=
  { s with timer := Function.update s.timer t tm }

/-- The clearing of `RT_TIMER_FLAG_ACTIVATED`. -/
def deactivate (s : TimerState Id) (t : Id) : TimerState Id :=
  setTimer s t { s.timer t with activated := false }

/-- The test that ends the search of `_timer_start` in front of `b`: the deadlines differ, and the
one of `b` is the later one. -/
def BreaksAt (timer : Id → RtTimer) (a b : Id) : Prop :=
  (timer b).timeoutTick - (timer a).timeoutTick ≠ 0#32 ∧
    ((timer b).timeoutTick - (timer a).timeoutTick).toNat < rtTickMax / 2

instance (timer : Id → RtTimer) : DecidableRel (BreaksAt timer) :=
  fun _ _ => inferInstanceAs (Decidable (_ ∧ _))

/-- `_timer_start`. -/
def timerStart (s : TimerState Id) (t : Id) : TimerState Id :=
  let s := timerRemove s t
  let s := setTimer s t
    { s.timer t with
      activated := true
      timeoutTick := s.tick + (s.timer t).initTick
      deadline := s.now + (s.timer t).initTick.toNat
      stamp := s.starts }
  { s with timerList := s.timerList.orderedInsert (BreaksAt s.timer) t, starts := s.starts + 1 }

/-- `rt_timer_start`. -/
def rtTimerStart (s : TimerState Id) (t : Id) : TimerState Id × RtErr :=
  (timerStart s t, .eok)

/-- `rt_timer_stop`. -/
def rtTimerStop (s : TimerState Id) (t : Id) : TimerState Id × RtErr :=
  if (s.timer t).activated = false then (s, .error)
  else (deactivate (timerRemove s t) t, .eok)

/-- `rt_timer_detach`. -/
def rtTimerDetach (s : TimerState Id) (t : Id) : TimerState Id × RtErr :=
  (deactivate (timerRemove s t) t, .eok)

/-- The commands of `rt_timer_control` that write. -/
inductive Ctrl
  | setTime (time : BitVec 32)
  | setOneshot
  | setPeriodic
deriving DecidableEq

/-- `rt_timer_control`. -/
def rtTimerControl (s : TimerState Id) (t : Id) : Ctrl → TimerState Id × RtErr
  | .setTime time =>
    let s := if (s.timer t).activated then deactivate (timerRemove s t) t else s
    (setTimer s t { s.timer t with initTick := time }, .eok)
  | .setOneshot => (setTimer s t { s.timer t with periodic := false }, .eok)
  | .setPeriodic => (setTimer s t { s.timer t with periodic := true }, .eok)

/-! ### The check -/

/-- The due timer `t` leaves the list for the temporary one, and its callback is called. -/
def popTimer (s : TimerState Id) (t : Id) : TimerState Id :=
  let s := timerRemove s t
  let s := if (s.timer t).periodic then s else deactivate s t
  { s with list := t :: s.list, pc := .callback t, log := s.log ++ [.fire t s.now] }

/-- The check returns. -/
def endCheck (s : TimerState Id) : TimerState Id :=
  { s with list := [], pc := .idle, log := s.log ++ [.done s.now] }

/-- One turn of the loop of `_timer_check` up to the callback: the head of the list is popped if
the tick has reached it, otherwise the check is over. -/
def timerCheckLoop (s : TimerState Id) : TimerState Id :=
  match s.timerList with
  | [] => endCheck s
  | t :: _ =>
    if (s.tick - (s.timer t).timeoutTick).toNat < rtTickMax / 2 then popTimer s t else endCheck s

/-- The rest of the turn, after the callback of `t` has returned: a timer that is still in the
temporary list was neither started nor stopped nor detached, and a periodic one starts again. -/
def timerCheckReturn (s : TimerState Id) (t : Id) : TimerState Id :=
  if s.list = [] then s
  else
    let s := timerRemove s t
    if (s.timer t).periodic ∧ (s.timer t).activated then timerStart (deactivate s t) t else s

/-- A call on a timer. -/
inductive Call (Id : Type*)
  | start (t : Id)
  | stop (t : Id)
  | control (t : Id) (cmd : Ctrl)
  | detach (t : Id)
deriving DecidableEq

/-- The state after a call. -/
def call (s : TimerState Id) : Call Id → TimerState Id
  | .start t => (rtTimerStart s t).1
  | .stop t => (rtTimerStop s t).1
  | .control t cmd => (rtTimerControl s t cmd).1
  | .detach t => (rtTimerDetach s t).1

inductive Action (Id : Type*)
  /-- a call, from a thread, a handler or a callback -/
  | call (c : Call Id)
  /-- the tick interrupt counts the tick (`rt_tick_increase`) -/
  | tick
  /-- `rt_timer_check` is entered -/
  | check
  /-- the running callback returns -/
  | ret
deriving DecidableEq

def step (s : TimerState Id) : Action Id → Option (TimerState Id)
  | .call c => some (call s c)
  | .tick =>
    if s.pc = .idle then
      some { s with tick := s.tick + 1#32, now := s.now + 1, pc := .entered }
    else none
  | .check => if s.pc = .entered then some (timerCheckLoop { s with list := [] }) else none
  | .ret =>
    match s.pc with
    | .callback t => some (timerCheckLoop (timerCheckReturn s t))
    | _ => none

/-- The timers as `rt_timer_init` leaves them, at any tick. -/
def init (tick : BitVec 32) (periodic : Id → Bool) (time : Id → BitVec 32) : TimerState Id where
  tick := tick
  timer t := ⟨periodic t, false, time t, 0#32, 0, 0⟩
  timerList := []
  list := []
  pc := .idle
  now := tick.toNat
  starts := 0
  log := []

/-- The time an action sets, if it sets one. -/
def timeOf : Action Id → Option (BitVec 32)
  | .call (.control _ (.setTime time)) => some time
  | _ => none

/-- The time an action sets is in the range `rt_timer_control` asks for. -/
def TimeBelow (a : Action Id) : Prop := ∀ time ∈ timeOf a, time.toNat < rtTickMax / 2

end N32L43x.Timer
