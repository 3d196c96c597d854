import N32L43x.Lib.Run
import N32L43x.Sched.Look

/-!
How a thread ends: `_thread_exit`, `_thread_detach` and `rt_thread_close` of `rt-thread/src/thread.c`, and
`rt_defunct_execute` of `rt-thread/src/defunct.c`, in which the idle thread takes to pieces what has ended.

A thread is its address, and stands for the memory there: when it has been freed it can be a thread again.
Under the lock of the scheduler interrupt handlers go on; in `rt_defunct_execute`, all other threads do.
-/

namespace N32L43x.Defunct

open N32L43x.Sched

/-! ### The list -/

/-- The nodes of the list: the one of a thread, and `none` for `_rt_thread_defunct`. -/
structure Nodes (Tid : Type) where
  next : Option Tid → Option Tid
  prev : Option Tid → Option Tid

variable {Tid : Type} [DecidableEq Tid]

/-- `rt_list_insert_after`. -/
def Nodes.insertAfter (d : Nodes Tid) (l n : Option Tid) : Nodes Tid :=
  let d := { d with prev := Function.update d.prev (d.next l) n }
  let d := { d with next := Function.update d.next n (d.next l) }
  let d := { d with next := Function.update d.next l n }
  { d with prev := Function.update d.prev n l }

/-- `rt_list_remove`. -/
def Nodes.remove (d : Nodes Tid) (n : Option Tid) : Nodes Tid :=
  let d := { d with prev := Function.update d.prev (d.next n) (d.prev n) }
  let d := { d with next := Function.update d.next (d.prev n) (d.next n) }
  { next := Function.update d.next n n, prev := Function.update d.prev n n }

/-! ### The state -/

/-- Where a thread stands in `_thread_exit` or `_thread_detach`. -/
inductive EndPc (Tid : Type)
  | idle
  /-- before `rt_thread_close` -/
  | close (t : Tid)
  /-- before `rt_thread_defunct_enqueue`, with the `thread_status` that `rt_thread_close` has found -/
  | enqueue (t : Tid) (threadStatus : ThreadStat)
  /-- before `rt_exit_critical_safe` -/
  | leave
deriving DecidableEq

/-- Where the idle thread stands in `rt_defunct_execute`. -/
inductive ExecPc (Tid : Type)
  | dequeue
  /-- with a thread out of the list -/
  | detach (t : Tid)
  /-- before the call of `cleanup` -/
  | cleanup (t : Tid) (cleanup objectIsSystemobject : Bool)
  /-- before the stack is freed -/
  | freeStack (t : Tid)
  /-- before `rt_object_delete` -/
  | delete (t : Tid)

/-- How often something was done with a thread. -/
structure Counts where
  /-- it was put into the list -/
  ended : ℕ
  /-- its `cleanup` was due -/
  cleanedUp : ℕ
  /-- its `cleanup` was called -/
  called : ℕ
  stackFreed : ℕ
  deleted : ℕ

structure State (Tid : Type) where
  sched : SchedState Tid
  nodes : Nodes Tid
  /-- The object is in the list of its class, and its type is set. -/
  object : Tid → Bool
  /-- `cleanup` is not `RT_NULL`. -/
  cleanup : Tid → Bool
  ending : Tid → EndPc Tid
  exec : ExecPc Tid
  count : Tid → Counts

/-- Threads that were initialised, before the scheduler starts. -/
def State.init (tick : Tid → ℕ) (priority : Tid → Fin 32) : State Tid where
  sched := SchedState.init tick priority
  nodes := { next := id, prev := id }
  object := fun _ => true
  cleanup := fun _ => false
  ending := fun _ => .idle
  exec := .dequeue
  count := fun _ => ⟨0, 0, 0, 0, 0⟩

def State.counts (s : State Tid) (t : Tid) (f : Counts → Counts) : State Tid :=
  { s with count := Function.update s.count t (f (s.count t)) }

/-! ### The end of a thread -/

/-- `rt_thread_defunct_enqueue`. -/
def rtThreadDefunctEnqueue (s : State Tid) (t : Tid) : State Tid :=
  { s with nodes := s.nodes.insertAfter none (some t) }.counts t fun k => { k with ended := k.ended + 1 }

/-- `rt_thread_defunct_dequeue`. -/
def rtThreadDefunctDequeue (s : State Tid) : State Tid × Option Tid :=
  match s.nodes.next none with
  | none => (s, none)
  | some t => ({ s with nodes := s.nodes.remove (some t) }, some t)

/-- `_thread_detach`, and `_thread_exit` where the caller is the thread itself, from `rt_enter_critical` on. -/
def threadDetach (s : State Tid) (c t : Tid) : State Tid :=
  { s with
    sched := { s.sched with lockNest := s.sched.lockNest + 1 }
    ending := Function.update s.ending c (.close t) }

/-- The caller goes on. -/
def detachGoesOn (s : State Tid) (c : Tid) : Option (State Tid) :=
  match s.ending c with
  | .idle => none
  | .close t =>
    some { s with
      sched := rtThreadClose s.sched t
      ending := Function.update s.ending c (.enqueue t (s.sched.thread t).stat) }
  | .enqueue t _ => some { rtThreadDefunctEnqueue s t with ending := Function.update s.ending c .leave }
  | .leave =>
    some { s with
      sched := { s.sched with lockNest := s.sched.lockNest - 1 }
      ending := Function.update s.ending c .idle }

/-- `rt_defunct_execute` goes on.  `system` tells which threads are static objects; an object that was
detached is of no class, and not a static one any more. -/
def rtDefunctExecute (system : Tid → Bool) (s : State Tid) : State Tid :=
  match s.exec with
  | .dequeue =>
    match rtThreadDefunctDequeue s with
    | (s, none) => s
    | (s, some t) => { s with exec := .detach t }
  | .detach t =>
    let objectIsSystemobject := s.object t && system t
    { s with
      object := if objectIsSystemobject then Function.update s.object t false else s.object
      exec := .cleanup t (s.cleanup t) objectIsSystemobject }
  | .cleanup t cleanup objectIsSystemobject =>
    { s.counts t fun k =>
        { k with cleanedUp := k.cleanedUp + 1, called := if cleanup then k.called + 1 else k.called } with
      exec := if objectIsSystemobject then .dequeue else .freeStack t }
  | .freeStack t =>
    { s.counts t fun k => { k with stackFreed := k.stackFreed + 1 } with exec := .delete t }
  | .delete t =>
    { s.counts t fun k => { k with deleted := k.deleted + 1 } with
      object := Function.update s.object t false
      exec := .dequeue }

/-! ### Steps -/

inductive Action (Tid : Type)
  /-- what the scheduler does, and what other calls make it do -/
  | sched (a : Sched.Action Tid)
  /-- `rt_thread_init`, or `rt_thread_create` with the memory of this thread -/
  | init (t : Tid) (tick : ℕ) (priority : Fin 32)
  | setCleanup (t : Tid) (cleanup : Bool)
  /-- the running thread ends a thread -/
  | detach (t : Tid)
  /-- the running thread goes on with that -/
  | goOn
  /-- the idle thread goes on -/
  | idle

/-- An action of the scheduler that is left to it: a thread is closed by a step of its own, and who is about
to end a thread does not leave the critical section for another reason. -/
def Other (s : State Tid) : Sched.Action Tid → Bool
  | .close _ => false
  | .exitCritical =>
    match s.sched.currentThread with
    | none => true
    | some c =>
      match s.ending c with
      | .idle => true
      | _ => false
  | _ => true

def step (system : Tid → Bool) (idle : Tid) (s : State Tid) : Action Tid → Option (State Tid)
  | .sched a => if Other s a then (Sched.step s.sched a).map fun sched => { s with sched := sched } else none
  | .init t tick priority =>
    if s.object t then none
    else some { s with
      sched := s.sched.modify t fun _ => rtSchedThreadInit tick priority
      object := Function.update s.object t true
      cleanup := Function.update s.cleanup t false }
  | .setCleanup t cleanup =>
    if s.object t then some { s with cleanup := Function.update s.cleanup t cleanup } else none
  | .detach t =>
    match s.sched.currentThread with
    | none => none
    | some c =>
      match s.ending c with
      | .idle => some (threadDetach s c t)
      | _ => none
  | .goOn => s.sched.currentThread.bind (detachGoesOn s)
  | .idle =>
    if s.sched.currentThread = some idle then
      match s.ending idle with
      | .idle => some (rtDefunctExecute system s)
      | _ => none
    else none

end N32L43x.Defunct
