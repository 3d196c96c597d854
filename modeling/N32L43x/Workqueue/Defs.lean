import Mathlib.Data.BitVec
import Mathlib.Data.List.Sort
import N32L43x.Lib.Run
import N32L43x.RtErr

/-!
The work queue of `components/drivers/ipc/workqueue.c`.

Agents are threads and interrupt handlers.  A section under the spin lock is one step, and so is each read
of a list that `rt_workqueue_cancel_all_work` makes without it: the scheduler is locked there, but
handlers run.  When the wait of the worker ends is left open.
-/

namespace N32L43x.Workqueue

/-- `RT_TICK_MAX`. -/
def rtTickMax : ℕ := 0xffffffff

/-- `struct rt_work`.  The last field is history that no operation reads: the deadline on a clock that does
not wrap around. -/
structure RtWork where
  timeoutTick : BitVec 32
  deadline : ℕ

/-- A node of a list, or the head of the list. -/
inductive Entry (W : Type*)
  | work (w : W)
  | listHead
deriving DecidableEq

/-- The two lists. -/
inductive Which
  | workList
  | delayedList
deriving DecidableEq

/-- Where an agent stands in `rt_workqueue_cancel_all_work`. -/
inductive Pc (W : Type*)
  | idle
  /-- before `rt_list_isempty` -/
  | test (list : Which)
  /-- before `rt_list_first_entry` -/
  | first (list : Which)
  /-- before `_workqueue_cancel_work` -/
  | cancel (list : Which) (entry : Entry W)
deriving DecidableEq

/-- What happens to the items, with the deadline and the time on the clock that does not wrap around. -/
inductive Event (W : Type*)
  | submitted (w : W)
  | cancelled (w : W)
  /-- moved from `delayed_list` to `work_list` by the worker -/
  | moved (w : W) (deadline now : ℕ)
  /-- taken by the worker, which calls its function -/
  | executed (w : W)
deriving DecidableEq

/-- `struct rt_workqueue`, its items and the agents, and history: the clock that does not wrap around and
what has happened. -/
structure RtWorkqueue (W Ag : Type*) where
  /-- `rt_tick` -/
  tick : BitVec 32
  work : W → RtWork
  workList : List W
  delayedList : List W
  /-- set while the worker runs the function of the item -/
  workCurrent : Option W
  pc : Ag → Pc W
  /-- fields of the queue were overwritten as if they were fields of an item -/
  corrupted : Bool
  now : ℕ
  log : List (Event W)

/-- `rt_workqueue_create` at any tick. -/
def rtWorkqueueCreate {W Ag : Type*} (tick : BitVec 32) (work : W → RtWork) : RtWorkqueue W Ag where
  tick := tick
  work := work
  workList := []
  delayedList := []
  workCurrent := none
  pc := fun _ => .idle
  corrupted := false
  now := tick.toNat
  log := []

section Items

variable {W Ag : Type*} [DecidableEq W]

/-- `rt_list_remove` of the node of an item. -/
def listRemove (q : RtWorkqueue W Ag) (w : W) : RtWorkqueue W Ag :=
  { q with workList := q.workList.filter (· ≠ w), delayedList := q.delayedList.filter (· ≠ w) }

/-- The test that ends the search of `_workqueue_submit_work` in front of `tmp`. -/
def NotAfter (work : W → RtWork) (w tmp : W) : Prop :=
  ((work tmp).timeoutTick - (work w).timeoutTick).toNat < rtTickMax / 2

instance (work : W → RtWork) : DecidableRel (NotAfter work) :=
  fun _ _ => inferInstanceAs (Decidable (_ < _))

/-- `_workqueue_submit_work`, which is `rt_workqueue_submit_work` and, with `0`, `rt_workqueue_dowork`. -/
def workqueueSubmitWork (q : RtWorkqueue W Ag) (w : W) (ticks : BitVec 32) : RtWorkqueue W Ag × RtErr :=
  let q := listRemove q w
  if ticks = 0#32 then
    ({ q with workList := q.workList ++ [w], log := q.log ++ [.submitted w] }, .eok)
  else if ticks.toNat < rtTickMax / 2 then
    let work := Function.update q.work w ⟨q.tick + ticks, q.now + ticks.toNat⟩
    ({ q with
      work := work
      delayedList := q.delayedList.orderedInsert (NotAfter work) w
      log := q.log ++ [.submitted w] }, .eok)
  else (q, .error)

/-- `rt_workqueue_urgent_work`. -/
def rtWorkqueueUrgentWork (q : RtWorkqueue W Ag) (w : W) : RtWorkqueue W Ag × RtErr :=
  let q := listRemove q w
  ({ q with workList := w :: q.workList, log := q.log ++ [.submitted w] }, .eok)

/-- `_workqueue_cancel_work`, which is `rt_workqueue_cancel_work`. -/
def workqueueCancelWork (q : RtWorkqueue W Ag) (w : W) : RtWorkqueue W Ag × RtErr :=
  ({ listRemove q w with log := q.log ++ [.cancelled w] },
    if q.workCurrent ≠ some w then .eok else .ebusy)

/-- `_workqueue_cancel_work` of the head of a list: the head is taken out of the ring of the items, and the
fields of an item that would lie behind it are overwritten. -/
def cancelListHead (q : RtWorkqueue W Ag) : Which → RtWorkqueue W Ag
  | .workList => { q with workList := [], corrupted := true }
  | .delayedList => { q with delayedList := [], corrupted := true }

/-- `_workqueue_cancel_work` of what `rt_list_first_entry` gave. -/
def cancelEntry (q : RtWorkqueue W Ag) (list : Which) : Entry W → RtWorkqueue W Ag
  | .work w => (workqueueCancelWork q w).1
  | .listHead => cancelListHead q list

/-- The items of a list. -/
def listOf (q : RtWorkqueue W Ag) : Which → List W
  | .workList => q.workList
  | .delayedList => q.delayedList

/-- `rt_list_first_entry`. -/
def firstEntry : List W → Entry W
  | [] => .listHead
  | w :: _ => .work w

/-- The item is due. -/
def Due (q : RtWorkqueue W Ag) (w : W) : Prop := (q.tick - (q.work w).timeoutTick).toNat < rtTickMax / 2

instance (q : RtWorkqueue W Ag) (w : W) : Decidable (Due q w) := inferInstanceAs (Decidable (_ < _))

/-- The timer check of `_workqueue_thread_entry`, over the items that `delayed_list` still holds. -/
def timerCheck (q : RtWorkqueue W Ag) : List W → RtWorkqueue W Ag
  | [] => q
  | w :: rest =>
    if Due q w then
      timerCheck
        { q with
          delayedList := rest
          workList := q.workList ++ [w]
          log := q.log ++ [.moved w (q.work w).deadline q.now] } rest
    else q

/-- The section of `_workqueue_thread_entry`: if there is no work, the worker waits and comes back. -/
def workerSection (q : RtWorkqueue W Ag) : RtWorkqueue W Ag :=
  let q := timerCheck q q.delayedList
  match q.workList with
  | [] => q
  | w :: rest =>
    { q with workList := rest, workCurrent := some w, log := q.log ++ [.executed w] }

end Items

section Agents

variable {W Ag : Type*} [DecidableEq W] [DecidableEq Ag]

def setPc (q : RtWorkqueue W Ag) (ag : Ag) (pc : Pc W) : RtWorkqueue W Ag :=
  { q with pc := Function.update q.pc ag pc }

/-- The next step of an agent in `rt_workqueue_cancel_all_work`. -/
def runAgent (q : RtWorkqueue W Ag) (ag : Ag) : Option (RtWorkqueue W Ag) :=
  match q.pc ag with
  | .idle => none
  | .test list =>
    if listOf q list ≠ [] then some (setPc q ag (.first list))
    else
      match list with
      | .workList => some (setPc q ag (.test .delayedList))
      | .delayedList => some (setPc q ag .idle)
  | .first list => some (setPc q ag (.cancel list (firstEntry (listOf q list))))
  | .cancel list entry => some (setPc (cancelEntry q list entry) ag (.test list))

inductive Action (W Ag : Type*)
  | submit (w : W) (ticks : BitVec 32)
  | urgent (w : W)
  | cancel (w : W)
  | cancelAll (ag : Ag)
  | run (ag : Ag)
  /-- the section of the worker -/
  | worker
  /-- the function of the item returns to the worker -/
  | finish
  | tickIncrease

def step (q : RtWorkqueue W Ag) : Action W Ag → Option (RtWorkqueue W Ag)
  | .submit w ticks => some (workqueueSubmitWork q w ticks).1
  | .urgent w => some (rtWorkqueueUrgentWork q w).1
  | .cancel w => some (workqueueCancelWork q w).1
  | .cancelAll ag =>
    match q.pc ag with
    | .idle => some (setPc q ag (.test .workList))
    | _ => none
  | .run ag => runAgent q ag
  | .worker => if q.workCurrent = none then some (workerSection q) else none
  | .finish => if q.workCurrent = none then none else some { q with workCurrent := none }
  | .tickIncrease => some { q with tick := q.tick + 1#32, now := q.now + 1 }

end Agents

/-! ### What is counted -/

/-- The submissions of an item: all of them; those that a later one superseded, that were cancelled, and
that the worker took; and whether there is one left. -/
structure Tally where
  submissions : ℕ
  superseded : ℕ
  cancelled : ℕ
  executions : ℕ
  pending : Bool

variable {W : Type*} [DecidableEq W]

def Tally.add (w : W) (t : Tally) : Event W → Tally
  | .submitted w' =>
    if w' = w then
      { t with
        submissions := t.submissions + 1, superseded := t.superseded + t.pending.toNat, pending := true }
    else t
  | .cancelled w' =>
    if w' = w then { t with cancelled := t.cancelled + t.pending.toNat, pending := false } else t
  | .moved _ _ _ => t
  | .executed w' =>
    if w' = w then { t with executions := t.executions + 1, pending := false } else t

/-- What has happened to the item. -/
def tally (w : W) (log : List (Event W)) : Tally := log.foldl (Tally.add w) ⟨0, 0, 0, 0, false⟩

omit [DecidableEq W] in
/-- The deadline of an item that is moved. -/
def Event.movedDeadline : Event W → Option ℕ
  | .moved _ deadline _ => some deadline
  | _ => none

omit [DecidableEq W] in
/-- The deadlines of the items the worker has moved, in the order of the moves. -/
def moves (log : List (Event W)) : List ℕ := log.filterMap Event.movedDeadline

end N32L43x.Workqueue
