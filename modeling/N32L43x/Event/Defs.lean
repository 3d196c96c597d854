import Mathlib.Data.BitVec
import N32L43x.Ipc.Kernel
import N32L43x.Lib.Run

/-!
The events of `ipc.c`, with the threads that receive them, whoever sends or resets them, and the timers
of the threads.  The tick handler takes a timer that has run out off the timer list and clears
`RT_TIMER_FLAG_ACTIVATED`, enables the interrupts and then calls `_thread_timeout`: an interrupt handler
may run in between.  When a timer runs out is left open.
-/

namespace N32L43x.Event

open N32L43x.Sched N32L43x.Ipc

/-- `rt_uint32_t`, a set of events. -/
abbrev EventSet := BitVec 32

/-- `RT_EVENT_FLAG_AND`. -/
def rtEventFlagAnd : BitVec 8 := 0x01#8

/-- `RT_EVENT_FLAG_OR`. -/
def rtEventFlagOr : BitVec 8 := 0x02#8

/-- `RT_EVENT_FLAG_CLEAR`. -/
def rtEventFlagClear : BitVec 8 := 0x04#8

/-- `struct rt_event`, without its suspend list. -/
structure RtEvent where
  set : EventSet
  flag : IpcFlag

/-- `event_set` and `event_info` of a thread. -/
structure Waiter where
  eventSet : EventSet
  eventInfo : BitVec 8

/-- The arguments of `rt_event_recv`, apart from the timeout. -/
structure Call where
  set : EventSet
  option : BitVec 8
  /-- whether `recved` is not null -/
  recved : Bool
deriving DecidableEq

/-- One of `RT_EVENT_FLAG_AND` and `RT_EVENT_FLAG_OR` is given. -/
def Asserted (option : BitVec 8) : Prop :=
  option &&& rtEventFlagAnd ≠ 0#8 ∨ option &&& rtEventFlagOr ≠ 0#8

instance (option : BitVec 8) : Decidable (Asserted option) := inferInstanceAs (Decidable (_ ∨ _))

/-- `RT_EVENT_FLAG_CLEAR` is given. -/
def Clears (option : BitVec 8) : Prop := option &&& rtEventFlagClear ≠ 0#8

instance (option : BitVec 8) : Decidable (Clears option) := inferInstanceAs (Decidable (_ ≠ _))

/-- The condition of a receive of `set`, where `event` has been sent. -/
def Matches (option : BitVec 8) (set event : EventSet) : Prop :=
  if option &&& rtEventFlagAnd ≠ 0#8 then event &&& set = set
  else if option &&& rtEventFlagOr ≠ 0#8 then event &&& set ≠ 0#32
  else False

instance (option : BitVec 8) (set event : EventSet) : Decidable (Matches option set event) := by
  unfold Matches
  infer_instance

variable {Tid Oid : Type} [DecidableEq Tid] [DecidableEq Oid]

/-! ### The calls -/

/-- How `_rt_event_recv` goes on after its critical section. -/
inductive Outcome where
  /-- it returns an error -/
  | fails (ret : IpcErr)
  /-- it waits -/
  | waits
  /-- it has set `*recved`, and returns `thread->error` -/
  | received (recved : Option EventSet)

/-- `_rt_event_recv` up to the end of its critical section. -/
def rtEventRecv (k : Kernel Tid Oid) (waiter : Tid → Waiter) (event : RtEvent) (thread : Tid) (o : Oid)
    (call : Call) (timeout : ℤ) (suspendFlag : SuspendFlag) :
    Kernel Tid Oid × (Tid → Waiter) × RtEvent × Outcome :=
  if call.set = 0#32 then (k, waiter, event, .fails .error)
  else
    let k := { k with error := Function.update k.error thread .eintr }
    let k := k.rtSpinLock
    if Matches call.option call.set event.set then
      let k := { k with error := Function.update k.error thread .eok }
      let recved := if call.recved then some (event.set &&& call.set) else none
      let waiter := Function.update waiter thread ⟨event.set &&& call.set, call.option⟩
      let event := if Clears call.option then { event with set := event.set &&& ~~~call.set } else event
      (k.rtSpinUnlock, waiter, event, .received recved)
    else if timeout = 0 then
      let k := { k with error := Function.update k.error thread .etimeout }
      (k.rtSpinUnlock, waiter, event, .fails .etimeout)
    else
      let waiter := Function.update waiter thread ⟨call.set, call.option⟩
      match k.rtThreadSuspendToList thread (some (.event o)) event.flag suspendFlag with
      | (k, .eok) =>
        let k := if 0 < timeout then k.rtTimerStart thread else k
        (k.rtSpinUnlock, waiter, event, .waits)
      | (k, _) => (k.rtSpinUnlock, waiter, event, .fails .error)

/-- What the loop of `rt_event_send` changes. -/
structure Scan (Tid Oid : Type) where
  kernel : Kernel Tid Oid
  waiter : Tid → Waiter
  needClearSet : EventSet
  needSchedule : Bool

omit [DecidableEq Oid] in
/-- The body of the loop for a thread whose condition is satisfied.  The result of
`rt_sched_thread_ready` is not looked at. -/
def Scan.satisfy (sc : Scan Tid Oid) (event : EventSet) (thread : Tid) : Scan Tid Oid :=
  let w := sc.waiter thread
  let w := if w.eventInfo &&& rtEventFlagAnd ≠ 0#8 then w else { w with eventSet := w.eventSet &&& event }
  let k := (sc.kernel.rtSchedThreadReady thread).1
  { kernel := { k with error := Function.update k.error thread .eok }
    waiter := Function.update sc.waiter thread w
    needClearSet := if Clears w.eventInfo then sc.needClearSet ||| w.eventSet else sc.needClearSet
    needSchedule := true }

omit [DecidableEq Oid] in
/-- The loop of `rt_event_send` over the suspend list. -/
def scan (event : EventSet) : List Tid → Scan Tid Oid → Scan Tid Oid × IpcErr
  | [], sc => (sc, .eok)
  | thread :: list, sc =>
    if Asserted (sc.waiter thread).eventInfo then
      if Matches (sc.waiter thread).eventInfo (sc.waiter thread).eventSet event then
        scan event list (sc.satisfy event thread)
      else scan event list sc
    else (sc, .einval)

omit [DecidableEq Oid] in
/-- `rt_event_send` up to the end of its critical section: what it returns, and `need_schedule`. -/
def rtEventSend (k : Kernel Tid Oid) (waiter : Tid → Waiter) (event : RtEvent) (o : Oid) (set : EventSet) :
    Kernel Tid Oid × (Tid → Waiter) × RtEvent × IpcErr × Bool :=
  if set = 0#32 then (k, waiter, event, .error, false)
  else
    let k := k.rtSpinLock
    let event := { event with set := event.set ||| set }
    match scan event.set (k.suspendThread (.event o)) ⟨k, waiter, 0#32, false⟩ with
    | (sc, .eok) =>
      let event := if sc.needClearSet ≠ 0#32 then { event with set := event.set &&& ~~~sc.needClearSet }
        else event
      (sc.kernel.rtSpinUnlock, sc.waiter, event, .eok, sc.needSchedule)
    | (sc, err) => (sc.kernel.rtSpinUnlock, sc.waiter, event, err, false)

omit [DecidableEq Oid] in
/-- `rt_event_control` with `RT_IPC_CMD_RESET`, up to the end of its critical section. -/
def rtEventReset (k : Kernel Tid Oid) (event : RtEvent) (o : Oid) : Kernel Tid Oid × RtEvent :=
  let k := k.rtSpinLock
  let k := k.rtSuspListResumeAll (.event o) .error
  (k.rtSpinUnlock, { event with set := 0#32 })

/-! ### The system -/

/-- Where a thread is in `rt_event_recv`. -/
inductive Pc (Oid : Type) where
  | run
  /-- before its call of `rt_schedule` -/
  | waiting (o : Oid) (call : Call)
  /-- after its call of `rt_schedule` -/
  | woken (o : Oid) (call : Call)
  /-- after the critical section in which `*recved` is set -/
  | received (o : Oid) (call : Call) (recved : Option EventSet)
  | returns (o : Oid) (call : Call) (ret : IpcErr) (recved : Option EventSet)
deriving DecidableEq

/-- The events and who uses them.  The last field is the set of the event at the instant when the
condition of the call a thread is in was found satisfied; it is not in the source. -/
structure System (Tid Oid : Type) where
  kernel : Kernel Tid Oid
  event : Oid → RtEvent
  waiter : Tid → Waiter
  pc : Tid → Pc Oid
  /-- the timer that the tick handler has taken off the list and whose `_thread_timeout` it has not
  called yet -/
  firing : Option Tid
  satisfied : Tid → Option EventSet

/-- What can happen next. -/
inductive Action (Tid Oid : Type) where
  /-- the running thread calls `rt_event_recv` or one of its variants -/
  | recv (o : Oid) (call : Call) (timeout : ℤ) (suspendFlag : SuspendFlag)
  /-- the running thread goes on with its call -/
  | resume
  /-- a thread or an interrupt handler calls `rt_event_send` -/
  | send (o : Oid) (set : EventSet)
  /-- a thread or an interrupt handler calls `rt_event_control` with `RT_IPC_CMD_RESET` -/
  | reset (o : Oid)
  /-- `rt_schedule`, at the end of these calls or at any other time -/
  | schedule
  /-- the tick handler finds that the timer of a thread has run out -/
  | timerExpires (t : Tid)
  /-- the tick handler calls `_thread_timeout` -/
  | timeoutFunc
  /-- the tick handler charges the running thread -/
  | tickIncrease

/-- The thread that runs when no handler does. -/
def System.running (s : System Tid Oid) : Option Tid :=
  match s.firing, s.kernel.sched.currentThread with
  | none, some t => if (s.kernel.look t).life = .live then some t else none
  | _, _ => none

/-- The threads of the suspend list of an event whose condition `set` satisfies. -/
def System.Served (s : System Tid Oid) (o : Oid) (set : EventSet) (t : Tid) : Prop :=
  t ∈ s.kernel.suspendThread (.event o) ∧ Matches (s.waiter t).eventInfo (s.waiter t).eventSet set

instance (s : System Tid Oid) (o : Oid) (set : EventSet) (t : Tid) : Decidable (s.Served o set t) :=
  inferInstanceAs (Decidable (_ ∧ _))

omit [DecidableEq Oid] in
/-- The running thread goes on with its call. -/
def resume (s : System Tid Oid) (t : Tid) : Option (System Tid Oid) :=
  match s.pc t with
  | .run => none
  | .waiting o call =>
    some { s with kernel := s.kernel.rtSchedule, pc := Function.update s.pc t (.woken o call) }
  | .woken o call =>
    if s.kernel.error t ≠ .eok then
      some { s with pc := Function.update s.pc t (.returns o call (s.kernel.error t) none) }
    else
      let recved := if call.recved then some (s.waiter t).eventSet else none
      some { s with
        kernel := s.kernel.rtSpinLock.rtSpinUnlock
        pc := Function.update s.pc t (.received o call recved) }
  | .received o call recved =>
    some { s with pc := Function.update s.pc t (.returns o call (s.kernel.error t) recved) }
  | .returns .. =>
    some { s with pc := Function.update s.pc t .run, satisfied := Function.update s.satisfied t none }

/-- One step of the system. -/
def step (s : System Tid Oid) : Action Tid Oid → Option (System Tid Oid)
  | .recv o call timeout suspendFlag =>
    s.running.bind fun t =>
      if s.pc t = .run then
        let (kernel, waiter, event, outcome) :=
          rtEventRecv s.kernel s.waiter (s.event o) t o call timeout suspendFlag
        let s' := { s with kernel := kernel, waiter := waiter, event := Function.update s.event o event }
        match outcome with
        | .fails ret => some { s' with pc := Function.update s.pc t (.returns o call ret none) }
        | .waits => some { s' with pc := Function.update s.pc t (.waiting o call) }
        | .received recved =>
          some { s' with
            pc := Function.update s.pc t (.received o call recved)
            satisfied := Function.update s.satisfied t (some (s.event o).set) }
      else none
  | .resume => s.running.bind (resume s)
  | .send o set =>
    let (kernel, waiter, event, _) := rtEventSend s.kernel s.waiter (s.event o) o set
    let sent := (s.event o).set ||| set
    some { s with
      kernel := kernel, waiter := waiter, event := Function.update s.event o event
      satisfied := fun t => if set ≠ 0#32 ∧ s.Served o sent t then some sent else s.satisfied t }
  | .reset o =>
    let (kernel, event) := rtEventReset s.kernel (s.event o) o
    some { s with kernel := kernel, event := Function.update s.event o event }
  | .schedule => some { s with kernel := s.kernel.rtSchedule }
  | .timerExpires t =>
    if s.firing = none ∧ s.kernel.timerActive t = true then
      some { s with
        kernel := { s.kernel with timerActive := Function.update s.kernel.timerActive t false }
        firing := some t }
    else none
  | .timeoutFunc => s.firing.map fun t => { s with kernel := s.kernel.threadTimeout t, firing := none }
  | .tickIncrease =>
    s.kernel.sched.currentThread.map fun t =>
      { s with kernel := { s.kernel with sched := rtSchedTickIncrease s.kernel.sched t 1 } }

omit [DecidableEq Tid] [DecidableEq Oid] in
/-- `rt_event_init` of all events, when nobody has waited yet. -/
def System.init (sched : SchedState Tid) (flag : Oid → IpcFlag) (waiter : Tid → Waiter) :
    System Tid Oid where
  kernel :=
    { sched := sched, error := fun _ => .eok, timerActive := fun _ => false
      suspendThread := fun _ => [], arrivals := 0, arrival := fun _ => 0 }
  event := fun o => ⟨0#32, flag o⟩
  waiter := waiter
  pc := fun _ => .run
  firing := none
  satisfied := fun _ => none

end N32L43x.Event
