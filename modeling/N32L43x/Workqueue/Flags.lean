import N32L43x.Workqueue.Executions

/-!
What an item of a work queue says about itself: two bits of its `flags`, and the pointer to the queue.  The
operations change them beside the lists.
-/

namespace N32L43x.Workqueue

open N32L43x.Lib.Run

variable {W Ag : Type*} [DecidableEq W]

/-! ### The operations -/

/-- `work->flags`. -/
structure Flags where
  /-- `RT_WORK_STATE_PENDING` -/
  pending : Bool
  /-- `RT_WORK_STATE_SUBMITTING` -/
  submitting : Bool
deriving DecidableEq

/-- `flags = 0`. -/
def Flags.zero : Flags := ⟨false, false⟩

/-- A work queue with these fields of its items. -/
structure Items (W Ag : Type*) where
  q : RtWorkqueue W Ag
  flags : W → Flags
  /-- `work->workqueue` points to the queue -/
  workqueue : W → Bool

namespace Items

/-- `_workqueue_submit_work`. -/
def submitWork (s : Items W Ag) (w : W) (ticks : BitVec 32) : Items W Ag × RtErr :=
  let r := workqueueSubmitWork s.q w ticks
  let s := { s with q := r.1, flags := Function.update s.flags w .zero }
  if ticks = 0#32 then
    ({ s with
      flags := Function.update s.flags w { s.flags w with pending := true }
      workqueue := Function.update s.workqueue w true }, r.2)
  else if ticks.toNat < rtTickMax / 2 then
    ({ s with
      flags := Function.update s.flags w { s.flags w with submitting := true }
      workqueue := Function.update s.workqueue w true }, r.2)
  else (s, r.2)

/-- `rt_workqueue_urgent_work`, which leaves the fields of the item alone. -/
def urgentWork (s : Items W Ag) (w : W) : Items W Ag × RtErr :=
  let r := rtWorkqueueUrgentWork s.q w
  ({ s with q := r.1 }, r.2)

/-- `_workqueue_cancel_work`. -/
def cancelWork (s : Items W Ag) (w : W) : Items W Ag × RtErr :=
  let r := workqueueCancelWork s.q w
  ({ q := r.1
     flags := Function.update s.flags w .zero
     workqueue := Function.update s.workqueue w false }, r.2)

/-- `_workqueue_cancel_work` of what `rt_list_first_entry` gave. -/
def cancelEntry (s : Items W Ag) (list : Which) : Entry W → Items W Ag
  | .work w => (s.cancelWork w).1
  | .listHead => { s with q := cancelListHead s.q list }

/-- The timer check of `_workqueue_thread_entry`. -/
def timerCheck (s : Items W Ag) : List W → Items W Ag
  | [] => s
  | w :: rest =>
    if Due s.q w then
      timerCheck
        { s with
          q := { s.q with
            delayedList := rest
            workList := s.q.workList ++ [w]
            log := s.q.log ++ [.moved w (s.q.work w).deadline s.q.now] }
          flags := Function.update s.flags w { s.flags w with submitting := false, pending := true } } rest
    else s

/-- The section of `_workqueue_thread_entry`. -/
def workerSection (s : Items W Ag) : Items W Ag :=
  let s := s.timerCheck s.q.delayedList
  match s.q.workList with
  | [] => s
  | w :: rest =>
    { q := { s.q with workList := rest, workCurrent := some w, log := s.q.log ++ [.executed w] }
      flags := Function.update s.flags w { s.flags w with pending := false }
      workqueue := Function.update s.workqueue w false }

/-- No item has been submitted. -/
def create (tick : BitVec 32) (work : W → RtWork) : Items W Ag :=
  ⟨rtWorkqueueCreate tick work, fun _ => .zero, fun _ => false⟩

section Agents

variable [DecidableEq Ag]

/-- The next step of an agent in `rt_workqueue_cancel_all_work`. -/
def runAgent (s : Items W Ag) (ag : Ag) : Option (Items W Ag) :=
  match s.q.pc ag with
  | .cancel list entry =>
    let s := s.cancelEntry list entry
    some { s with q := setPc s.q ag (.test list) }
  | _ => (Workqueue.runAgent s.q ag).map fun q => { s with q := q }

def step (s : Items W Ag) : Action W Ag → Option (Items W Ag)
  | .submit w ticks => some (s.submitWork w ticks).1
  | .urgent w => some (s.urgentWork w).1
  | .cancel w => some (s.cancelWork w).1
  | .run ag => s.runAgent ag
  | .worker => if s.q.workCurrent = none then some s.workerSection else none
  | a => (Workqueue.step s.q a).map fun q => { s with q := q }

end Agents

/-! ### The queue is the one without these fields -/

variable {s s' : Items W Ag} {w u : W} {ticks : BitVec 32} {a : Action W Ag}

lemma q_submitWork (s : Items W Ag) (w : W) (ticks : BitVec 32) :
    (s.submitWork w ticks).1.q = (workqueueSubmitWork s.q w ticks).1 ∧
      (s.submitWork w ticks).2 = (workqueueSubmitWork s.q w ticks).2 := by
  unfold submitWork
  split
  · exact ⟨rfl, rfl⟩
  · split <;> exact ⟨rfl, rfl⟩

lemma q_timerCheck : ∀ (rest : List W) (s : Items W Ag),
    (s.timerCheck rest).q = Workqueue.timerCheck s.q rest
  | [], _ => rfl
  | w :: rest, s => by
    unfold timerCheck Workqueue.timerCheck
    split
    · exact q_timerCheck rest _
    · rfl

lemma q_workerSection (s : Items W Ag) : s.workerSection.q = Workqueue.workerSection s.q := by
  have hq := q_timerCheck s.q.delayedList s
  unfold workerSection Workqueue.workerSection
  rw [← hq]
  dsimp only
  cases hlist : (s.timerCheck s.q.delayedList).q.workList with
  | nil => rfl
  | cons w rest => rfl

lemma q_cancelEntry (s : Items W Ag) (list : Which) (entry : Entry W) :
    (s.cancelEntry list entry).q = Workqueue.cancelEntry s.q list entry := by
  cases entry with
  | work w => rfl
  | listHead => rfl

omit [DecidableEq W] in
lemma map_q (s : Items W Ag) (x : Option (RtWorkqueue W Ag)) :
    (x.map fun q => { s with q := q }).map Items.q = x := by
  cases x with
  | none => rfl
  | some q => rfl

/-- The fields are beside the queue: a step does to it what it does without them. -/
lemma map_q_step [DecidableEq Ag] (s : Items W Ag) (a : Action W Ag) :
    (s.step a).map Items.q = Workqueue.step s.q a := by
  cases a with
  | submit w ticks => exact congrArg some (q_submitWork s w ticks).1
  | urgent w => rfl
  | cancel w => rfl
  | cancelAll ag => exact map_q s _
  | run ag =>
    show (s.runAgent ag).map Items.q = Workqueue.runAgent s.q ag
    unfold runAgent
    cases hpc : s.q.pc ag with
    | cancel list entry =>
      unfold Workqueue.runAgent
      rw [hpc]
      exact congrArg (fun q => some (setPc q ag (.test list))) (q_cancelEntry s list entry)
    | idle => exact map_q s _
    | test list => exact map_q s _
    | first list => exact map_q s _
  | worker =>
    show (if s.q.workCurrent = none then some s.workerSection else none).map Items.q =
      if s.q.workCurrent = none then some (Workqueue.workerSection s.q) else none
    split
    · exact congrArg some (q_workerSection s)
    · rfl
  | finish => exact map_q s _
  | tickIncrease => rfl

/-! ### Errors -/

/-- A submission that reports an error has changed nothing. -/
def ErrorAtomic (s : Items W Ag) (w : W) (ticks : BitVec 32) : Prop :=
  (s.submitWork w ticks).2 ≠ .eok →
    (s.submitWork w ticks).1.q.workList = s.q.workList ∧
    (s.submitWork w ticks).1.q.delayedList = s.q.delayedList ∧
    (s.submitWork w ticks).1.q.work = s.q.work ∧
    (s.submitWork w ticks).1.flags = s.flags ∧ (s.submitWork w ticks).1.workqueue = s.workqueue

/-- The result and the fields of a submission with a delay out of range. -/
lemma submitWork_of_error (s : Items W Ag) (w : W) (h : ¬ ticks.toNat < rtTickMax / 2) :
    s.submitWork w ticks = (⟨listRemove s.q w, Function.update s.flags w .zero, s.workqueue⟩, .error) := by
  have hzero : ticks ≠ 0#32 := by
    rintro rfl
    exact h (by decide)
  have hq : workqueueSubmitWork s.q w ticks = (listRemove s.q w, .error) := by
    unfold workqueueSubmitWork
    rw [if_neg hzero, if_neg h]
  unfold submitWork
  rw [if_neg hzero, if_neg h, hq]

lemma submitWork_eok (s : Items W Ag) (w : W) (h : ticks.toNat < rtTickMax / 2) :
    (s.submitWork w ticks).2 = .eok := by
  rw [(q_submitWork s w ticks).2]
  unfold workqueueSubmitWork
  by_cases hzero : ticks = 0#32
  · rw [if_pos hzero]
  · rw [if_neg hzero, if_pos h]

lemma filter_ne_eq_self_iff {l : List W} : l.filter (fun u => decide (u ≠ w)) = l ↔ w ∉ l := by
  rw [List.filter_eq_self]
  constructor
  · intro h hw
    simpa using h w hw
  · intro h u hu
    exact decide_eq_true fun heq => h (heq ▸ hu)

/-- **A submission that fails has changed nothing** exactly if it does not fail, or the item was idle. -/
theorem submitWork_atomic_iff (s : Items W Ag) (w : W) (ticks : BitVec 32) :
    ErrorAtomic s w ticks ↔
      ticks.toNat < rtTickMax / 2 ∨
        w ∉ s.q.workList ∧ w ∉ s.q.delayedList ∧ s.flags w = Flags.zero := by
  by_cases h : ticks.toNat < rtTickMax / 2
  · exact iff_of_true (fun herr => absurd (submitWork_eok s w h) herr) (.inl h)
  · unfold ErrorAtomic
    rw [submitWork_of_error s w h]
    constructor
    · intro hsame
      obtain ⟨hwork, hdelayed, -, hflags, -⟩ := hsame (by rintro ⟨⟩)
      have hw : Function.update s.flags w Flags.zero w = s.flags w := congrFun hflags w
      rw [Function.update_self] at hw
      exact .inr ⟨filter_ne_eq_self_iff.mp hwork, filter_ne_eq_self_iff.mp hdelayed, hw.symm⟩
    · rintro (hlt | ⟨hwork, hdelayed, hflags⟩) -
      · exact absurd hlt h
      · refine ⟨filter_ne_eq_self_iff.mpr hwork, filter_ne_eq_self_iff.mpr hdelayed, rfl, ?_, rfl⟩
        show Function.update s.flags w .zero = s.flags
        rw [← hflags, Function.update_eq_self]

/-- An item that waits for its turn is submitted again with a delay out of range. -/
theorem submitWork_not_atomic :
    ∃ s : Items Bool Unit,
      exec step (create 0#32 fun _ => ⟨0#32, 0⟩) [.submit false 0#32] = some s ∧
      ¬ ErrorAtomic s false 0x80000000#32 := by
  refine ⟨_, rfl, fun hatomic => ?_⟩
  have hsame := hatomic (by decide)
  exact absurd hsame.1 (by decide)

/-! ### Agreement -/

/-- What the items say about themselves is where they are. -/
structure Agree (s : Items W Ag) : Prop where
  pending : ∀ w, (s.flags w).pending = true ↔ w ∈ s.q.workList
  submitting : ∀ w, (s.flags w).submitting = true ↔ w ∈ s.q.delayedList
  workqueue : ∀ w, s.workqueue w = true ↔ w ∈ s.q.workList ∨ w ∈ s.q.delayedList

/-- The condition on an action: only an item on `work_list` is submitted as urgent, only an item on no list
is submitted with a delay out of range, and `rt_workqueue_cancel_all_work` reads the first item of a list that
has one. -/
def Kept [DecidableEq Ag] (s : Items W Ag) : Action W Ag → Prop
  | .submit w ticks => ticks.toNat < rtTickMax / 2 ∨ w ∉ s.q.workList ∧ w ∉ s.q.delayedList
  | .urgent w => w ∈ s.q.workList
  | .run ag => ∀ list, s.q.pc ag = .first list → listOf s.q list ≠ []
  | _ => True

/-- What holds between the steps. -/
structure Inv (s : Items W Ag) : Prop where
  agree : Agree s
  nodup : (s.q.workList ++ s.q.delayedList).Nodup
  noHead : NoHead s.q

/-- Only one item changes. -/
lemma Agree.change (h : Agree s) (w : W)
    (hother : ∀ u, u ≠ w → s'.flags u = s.flags u ∧ s'.workqueue u = s.workqueue u ∧
      (u ∈ s'.q.workList ↔ u ∈ s.q.workList) ∧ (u ∈ s'.q.delayedList ↔ u ∈ s.q.delayedList))
    (hpending : (s'.flags w).pending = true ↔ w ∈ s'.q.workList)
    (hsubmitting : (s'.flags w).submitting = true ↔ w ∈ s'.q.delayedList)
    (hworkqueue : s'.workqueue w = true ↔ w ∈ s'.q.workList ∨ w ∈ s'.q.delayedList) : Agree s' := by
  refine ⟨fun u => ?_, fun u => ?_, fun u => ?_⟩
  · by_cases hu : u = w
    · exact hu ▸ hpending
    · obtain ⟨hflags, -, hwork, -⟩ := hother u hu
      rw [hflags, hwork]
      exact h.pending u
  · by_cases hu : u = w
    · exact hu ▸ hsubmitting
    · obtain ⟨hflags, -, -, hdelayed⟩ := hother u hu
      rw [hflags, hdelayed]
      exact h.submitting u
  · by_cases hu : u = w
    · exact hu ▸ hworkqueue
    · obtain ⟨-, hqueue, hwork, hdelayed⟩ := hother u hu
      rw [hqueue, hwork, hdelayed]
      exact h.workqueue u

lemma mem_filter_ne {l : List W} : u ∈ l.filter (fun v => decide (v ≠ w)) ↔ u ∈ l ∧ u ≠ w := by
  rw [List.mem_filter, decide_eq_true_eq]

/-- The item is on no list, and the others are where they were. -/
lemma Inv.removed (h : Inv s) (w : W) :
    (w :: ((listRemove s.q w).workList ++ (listRemove s.q w).delayedList)).Nodup := by
  refine List.nodup_cons.mpr ⟨fun hw => ?_, ?_⟩
  · rcases List.mem_append.mp hw with hw | hw
    · exact (mem_filter_ne.mp hw).2 rfl
    · exact (mem_filter_ne.mp hw).2 rfl
  · exact h.nodup.sublist (List.filter_sublist.append List.filter_sublist)

lemma Inv.submit (h : Inv s) (hkept : ticks.toNat < rtTickMax / 2 ∨ w ∉ s.q.workList ∧ w ∉ s.q.delayedList) :
    Inv (s.submitWork w ticks).1 := by
  have hnd := h.removed w
  obtain ⟨hw, -⟩ := List.nodup_cons.mp hnd
  rw [List.mem_append, not_or] at hw
  by_cases hzero : ticks = 0#32
  · have hs : (s.submitWork w ticks).1 =
        ⟨{ listRemove s.q w with
            workList := (listRemove s.q w).workList ++ [w], log := s.q.log ++ [.submitted w] },
          Function.update (Function.update s.flags w .zero) w
            { Function.update s.flags w .zero w with pending := true },
          Function.update s.workqueue w true⟩ := by
      unfold submitWork workqueueSubmitWork
      simp only [if_pos hzero]
      rfl
    rw [hs]
    refine ⟨h.agree.change w (fun u hu => ⟨?_, ?_, ?_, ?_⟩) ?_ ?_ ?_, ?_, h.noHead⟩
    · simp only [Function.update_of_ne hu]
    · exact Function.update_of_ne hu _ _
    · simp only [listRemove, List.mem_append, mem_filter_ne, List.mem_singleton]
      tauto
    · simp only [listRemove, mem_filter_ne]
      tauto
    · simp
    · simp only [Function.update_self]
      exact iff_of_false (by decide) hw.2
    · simp
    · refine (List.Perm.nodup_iff ?_).mp hnd
      show (w :: (_ ++ _)).Perm ((_ ++ [w]) ++ _)
      rw [List.append_assoc]
      exact List.perm_middle.symm
  by_cases hlt : ticks.toNat < rtTickMax / 2
  · have hs : (s.submitWork w ticks).1 =
        ⟨{ listRemove s.q w with
            work := Function.update s.q.work w ⟨s.q.tick + ticks, s.q.now + ticks.toNat⟩
            delayedList := (listRemove s.q w).delayedList.orderedInsert
              (NotAfter (Function.update s.q.work w ⟨s.q.tick + ticks, s.q.now + ticks.toNat⟩)) w
            log := s.q.log ++ [.submitted w] },
          Function.update (Function.update s.flags w .zero) w
            { Function.update s.flags w .zero w with submitting := true },
          Function.update s.workqueue w true⟩ := by
      unfold submitWork workqueueSubmitWork
      simp only [if_neg hzero, if_pos hlt]
      rfl
    rw [hs]
    refine ⟨h.agree.change w (fun u hu => ⟨?_, ?_, ?_, ?_⟩) ?_ ?_ ?_, ?_, h.noHead⟩
    · simp only [Function.update_of_ne hu]
    · exact Function.update_of_ne hu _ _
    · simp only [listRemove, mem_filter_ne]
      tauto
    · simp only [listRemove, List.mem_orderedInsert, mem_filter_ne]
      tauto
    · simp only [Function.update_self]
      exact iff_of_false (by decide) hw.1
    · simp
    · simp
    · refine (List.Perm.nodup_iff ?_).mp hnd
      refine List.perm_middle.symm.trans ?_
      exact (List.perm_orderedInsert _ w _).symm.append_left _
  · obtain ⟨hwork, hdelayed⟩ := hkept.resolve_left hlt
    rw [submitWork_of_error s w hlt]
    refine ⟨h.agree.change w (fun u hu => ⟨?_, rfl, ?_, ?_⟩) ?_ ?_ ?_, (List.nodup_cons.mp hnd).2, h.noHead⟩
    · exact Function.update_of_ne hu _ _
    · simp only [listRemove, mem_filter_ne]
      tauto
    · simp only [listRemove, mem_filter_ne]
      tauto
    · simp only [Function.update_self]
      exact iff_of_false (by decide) hw.1
    · simp only [Function.update_self]
      exact iff_of_false (by decide) hw.2
    · refine iff_of_false (fun hqueue => ?_) (not_or.mpr hw)
      exact ((h.agree.workqueue w).mp hqueue).elim hwork hdelayed

lemma Inv.urgent (h : Inv s) (hkept : w ∈ s.q.workList) : Inv (s.urgentWork w).1 := by
  have hnd := h.removed w
  obtain ⟨hw, -⟩ := List.nodup_cons.mp hnd
  rw [List.mem_append, not_or] at hw
  have hdelayed : w ∉ s.q.delayedList := by
    intro hmem
    exact (List.nodup_append.mp h.nodup).2.2 w hkept w hmem rfl
  refine ⟨h.agree.change w (fun u hu => ⟨rfl, rfl, ?_, ?_⟩) ?_ ?_ ?_, hnd, h.noHead⟩
  · simp only [urgentWork, rtWorkqueueUrgentWork, listRemove, List.mem_cons, mem_filter_ne]
    tauto
  · simp only [urgentWork, rtWorkqueueUrgentWork, listRemove, mem_filter_ne]
    tauto
  · exact iff_of_true ((h.agree.pending w).mpr hkept) List.mem_cons_self
  · exact iff_of_false (fun hsub => hdelayed ((h.agree.submitting w).mp hsub)) hw.2
  · exact iff_of_true ((h.agree.workqueue w).mpr (.inl hkept)) (.inl List.mem_cons_self)

lemma Inv.cancel (h : Inv s) (w : W) : Inv (s.cancelWork w).1 := by
  have hnd := h.removed w
  obtain ⟨hw, hnd'⟩ := List.nodup_cons.mp hnd
  rw [List.mem_append, not_or] at hw
  refine ⟨h.agree.change w (fun u hu => ⟨?_, ?_, ?_, ?_⟩) ?_ ?_ ?_, hnd', h.noHead⟩
  · exact Function.update_of_ne hu _ _
  · exact Function.update_of_ne hu _ _
  · simp only [cancelWork, workqueueCancelWork, listRemove, mem_filter_ne]
    tauto
  · simp only [cancelWork, workqueueCancelWork, listRemove, mem_filter_ne]
    tauto
  · simp only [cancelWork, Function.update_self]
    exact iff_of_false (by decide) hw.1
  · simp only [cancelWork, Function.update_self]
    exact iff_of_false (by decide) hw.2
  · simp only [cancelWork, Function.update_self]
    exact iff_of_false (by decide) (not_or.mpr hw)

lemma Inv.timerCheck : ∀ (rest : List W) (s : Items W Ag), s.q.delayedList = rest → Inv s →
    Inv (s.timerCheck rest)
  | [], _, _, h => h
  | w :: rest, s, hlist, h => by
    unfold Items.timerCheck
    split
    · refine Inv.timerCheck rest _ rfl ?_
      have hnd := h.nodup
      rw [hlist] at hnd
      have hperm : (s.q.workList ++ w :: rest).Perm ((s.q.workList ++ [w]) ++ rest) := by
        rw [List.append_assoc]
        exact List.Perm.refl _
      have hwork : w ∉ s.q.workList :=
        fun hmem => (List.nodup_append.mp hnd).2.2 w hmem w List.mem_cons_self rfl
      have hrest : w ∉ rest := (List.nodup_cons.mp (List.nodup_append.mp hnd).2.1).1
      refine ⟨h.agree.change w (fun u hu => ⟨?_, rfl, ?_, ?_⟩) ?_ ?_ ?_, (hperm.nodup_iff).mp hnd, h.noHead⟩
      · exact Function.update_of_ne hu _ _
      · simp only [List.mem_append, List.mem_singleton, hu, or_false]
      · rw [hlist]
        simp only [List.mem_cons, hu, false_or]
      · simp
      · simp only [Function.update_self]
        exact iff_of_false (by decide) hrest
      · refine iff_of_true ((h.agree.workqueue w).mpr (.inr ?_)) (.inl (by simp))
        rw [hlist]
        exact List.mem_cons_self
    · exact h

lemma Inv.workerSection (h : Inv s) : Inv s.workerSection := by
  have hcheck := Inv.timerCheck s.q.delayedList s rfl h
  unfold Items.workerSection
  dsimp only
  cases hlist : (s.timerCheck s.q.delayedList).q.workList with
  | nil => exact hcheck
  | cons w rest =>
    have hnd := hcheck.nodup
    rw [hlist, List.cons_append] at hnd
    obtain ⟨hw, hnd'⟩ := List.nodup_cons.mp hnd
    rw [List.mem_append, not_or] at hw
    refine ⟨hcheck.agree.change w (fun u hu => ⟨?_, ?_, ?_, Iff.rfl⟩) ?_ ?_ ?_, hnd', hcheck.noHead⟩
    · exact Function.update_of_ne hu _ _
    · exact Function.update_of_ne hu _ _
    · rw [hlist]
      simp only [List.mem_cons, hu, false_or]
    · simp only [Function.update_self]
      exact iff_of_false (by decide) hw.1
    · simp only [Function.update_self]
      exact hcheck.agree.submitting w
    · simp only [Function.update_self]
      exact iff_of_false (by decide) (not_or.mpr hw)

variable [DecidableEq Ag]

omit [DecidableEq W] in
lemma Inv.setPc (h : Inv s) {ag : Ag} {pc : Pc W} (hpc : ∀ list, pc ≠ .cancel list .listHead) :
    Inv { s with q := setPc s.q ag pc } :=
  ⟨⟨h.agree.pending, h.agree.submitting, h.agree.workqueue⟩, h.nodup, h.noHead.setPc hpc⟩

lemma Inv.runAgent (h : Inv s) {ag : Ag} (hkept : ∀ list, s.q.pc ag = .first list → listOf s.q list ≠ [])
    (hs : s.runAgent ag = some s') : Inv s' := by
  unfold Items.runAgent at hs
  cases hpc : s.q.pc ag with
  | cancel list entry =>
    rw [hpc] at hs
    cases hs
    cases entry with
    | work w => exact (h.cancel w).setPc (by rintro _ ⟨⟩)
    | listHead => exact absurd hpc (h.noHead ag list)
  | idle =>
    rw [hpc] at hs
    unfold Workqueue.runAgent at hs
    simp only [hpc] at hs
    cases hs
  | test list =>
    rw [hpc] at hs
    unfold Workqueue.runAgent at hs
    simp only [hpc] at hs
    split at hs
    · cases hs
      exact h.setPc (by rintro _ ⟨⟩)
    · cases list with
      | workList =>
        cases hs
        exact h.setPc (by rintro _ ⟨⟩)
      | delayedList =>
        cases hs
        exact h.setPc (by rintro _ ⟨⟩)
  | first list =>
    rw [hpc] at hs
    unfold Workqueue.runAgent at hs
    simp only [hpc] at hs
    cases hs
    refine h.setPc fun list' heq => ?_
    have hne := hkept list hpc
    cases hlist : listOf s.q list with
    | nil => exact hne hlist
    | cons w rest =>
      rw [hlist] at heq
      cases heq

/-- **Every step** within the condition keeps the agreement. -/
lemma Inv.step (h : Inv s) (hkept : Kept s a) (hs : s.step a = some s') : Inv s' := by
  cases a with
  | submit w ticks =>
    cases hs
    exact h.submit hkept
  | urgent w =>
    cases hs
    exact h.urgent hkept
  | cancel w =>
    cases hs
    exact h.cancel w
  | run ag => exact h.runAgent hkept hs
  | cancelAll ag =>
    obtain ⟨q, hq, rfl⟩ := Option.map_eq_some_iff.mp hs
    unfold Workqueue.step at hq
    cases hpc : s.q.pc ag with
    | idle =>
      simp only [hpc] at hq
      cases hq
      exact h.setPc (by rintro _ ⟨⟩)
    | test list => simp [hpc] at hq
    | first list => simp [hpc] at hq
    | cancel list entry => simp [hpc] at hq
  | worker =>
    obtain ⟨-, hs⟩ := Option.ite_none_right_eq_some.mp hs
    cases hs
    exact h.workerSection
  | finish =>
    obtain ⟨q, hq, rfl⟩ := Option.map_eq_some_iff.mp hs
    obtain ⟨-, hq⟩ := Option.ite_none_left_eq_some.mp hq
    cases hq
    exact ⟨⟨h.agree.pending, h.agree.submitting, h.agree.workqueue⟩, h.nodup, h.noHead⟩
  | tickIncrease =>
    cases hs
    exact ⟨⟨h.agree.pending, h.agree.submitting, h.agree.workqueue⟩, h.nodup, h.noHead⟩

omit [DecidableEq W] [DecidableEq Ag] in
lemma inv_create (tick : BitVec 32) (work : W → RtWork) : Inv (create tick work : Items W Ag) := by
  refine ⟨⟨fun w => ?_, fun w => ?_, fun w => ?_⟩, List.nodup_nil, noHead_rtWorkqueueCreate tick work⟩
  · exact iff_of_false Bool.false_ne_true List.not_mem_nil
  · exact iff_of_false Bool.false_ne_true List.not_mem_nil
  · exact iff_of_false Bool.false_ne_true (not_or.mpr ⟨List.not_mem_nil, List.not_mem_nil⟩)

omit [DecidableEq Ag] in
/-- An urgent submission keeps the agreement only if the item is on `work_list`. -/
lemma mem_of_agree_urgent (h : Agree s) (h' : Agree (s.urgentWork w).1) : w ∈ s.q.workList :=
  (h.pending w).mp ((h'.pending w).mpr List.mem_cons_self)

omit [DecidableEq Ag] in
/-- A failing submission keeps the agreement only if the item is on no list. -/
lemma notMem_of_agree_submit (h : Agree s) (hticks : ¬ ticks.toNat < rtTickMax / 2)
    (h' : Agree (s.submitWork w ticks).1) : w ∉ s.q.workList ∧ w ∉ s.q.delayedList := by
  rw [submitWork_of_error s w hticks] at h'
  have hnot : ¬ s.workqueue w = true := by
    rw [h'.workqueue w]
    simp [listRemove]
  exact not_or.mp fun hmem => hnot ((h.workqueue w).mpr hmem)

/-- **The items of a work queue know where they are** after every run within the condition, and a submission
out of it ends that. -/
theorem flags_agree (tick : BitVec 32) (work : W → RtWork) (as : List (Action W Ag)) (s : Items W Ag)
    (hkept : Along Items.step Kept (create tick work) as)
    (hrun : exec Items.step (create tick work) as = some s) :
    Agree s ∧
      (∀ w ticks, Agree (s.submitWork w ticks).1 ↔ Kept s (.submit w ticks)) ∧
      ∀ w, Agree (s.urgentWork w).1 ↔ Kept s (.urgent w) := by
  have h : Inv s :=
    exec_inv_of_along (fun s a s' (h : Inv s) hk hs => h.step hk hs) as _ s (inv_create tick work) hkept hrun
  refine ⟨h.agree, fun w ticks => ⟨fun h' => ?_, fun hk => (h.submit hk).agree⟩,
    fun w => ⟨fun h' => mem_of_agree_urgent h.agree h', fun hk => (h.urgent hk).agree⟩⟩
  by_cases hticks : ticks.toNat < rtTickMax / 2
  · exact .inl hticks
  · exact .inr (notMem_of_agree_submit h.agree hticks h')

/-- An item is submitted, becomes urgent and is executed. -/
theorem flags_agree_urgent :
    ∃ s : Items Bool Unit,
      exec Items.step (create 0#32 fun _ => ⟨0#32, 0⟩) [.submit false 0#32, .urgent false, .worker] = some s ∧
      Agree s ∧
        (∀ w ticks, Agree (s.submitWork w ticks).1 ↔ Kept s (.submit w ticks)) ∧
        ∀ w, Agree (s.urgentWork w).1 ↔ Kept s (.urgent w) := by
  refine ⟨_, rfl, flags_agree 0#32 (fun _ => ⟨0#32, 0⟩)
    [.submit false 0#32, .urgent false, .worker] _ ⟨?_, ?_, trivial, trivial⟩ rfl⟩
  · exact .inl (by decide)
  · exact List.mem_cons_self

/-- An idle item is submitted as urgent. -/
theorem flags_not_agree_urgent :
    ∃ s : Items Bool Unit,
      exec Items.step (create 0#32 fun _ => ⟨0#32, 0⟩) [.urgent false] = some s ∧ ¬ Agree s := by
  refine ⟨_, rfl, fun hagree => ?_⟩
  have hpending := (hagree.pending false).mpr List.mem_cons_self
  exact absurd hpending (by decide)

end Items

end N32L43x.Workqueue
