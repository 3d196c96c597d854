import N32L43x.Lib.Circular
import N32L43x.Lib.Ordered
import N32L43x.Workqueue.Defs

/-!
The items of a work queue: on which list they are, in what order they become due, and how often their
functions are called.
-/

namespace N32L43x.Workqueue

open N32L43x.Lib.Run N32L43x.Lib.Circular N32L43x.Lib.Ordered

variable {W Ag : Type*} [DecidableEq W] {q q' : RtWorkqueue W Ag} {w u : W} {log : List (Event W)}
  {e : Event W} {t : Tally}

/-! ### Counting -/

/-- Each submission came to one end, or is pending. -/
def Tally.Counted (t : Tally) : Prop :=
  t.executions + t.superseded + t.cancelled + t.pending.toNat = t.submissions

lemma tally_append (w : W) (log : List (Event W)) (e : Event W) :
    tally w (log ++ [e]) = (tally w log).add w e := by
  unfold tally
  rw [List.foldl_append]
  rfl

lemma Tally.Counted.submitted (h : t.Counted) :
    (t.add w (.submitted w)).Counted ∧ (t.add w (.submitted w)).pending = true := by
  have hadd : t.add w (.submitted w) = { t with
      submissions := t.submissions + 1, superseded := t.superseded + t.pending.toNat,
      pending := true } := if_pos rfl
  rw [hadd]
  refine ⟨?_, rfl⟩
  unfold Tally.Counted at *
  simp only [Bool.toNat_true]
  omega

lemma Tally.Counted.cancelled (h : t.Counted) :
    (t.add w (.cancelled w)).Counted ∧ (t.add w (.cancelled w)).pending = false := by
  have hadd : t.add w (.cancelled w) = { t with
      cancelled := t.cancelled + t.pending.toNat, pending := false } := if_pos rfl
  rw [hadd]
  refine ⟨?_, rfl⟩
  unfold Tally.Counted at *
  simp only [Bool.toNat_false]
  omega

lemma Tally.Counted.executed (h : t.Counted) (hpending : t.pending = true) :
    (t.add w (.executed w)).Counted ∧ (t.add w (.executed w)).pending = false := by
  have hadd : t.add w (.executed w) = { t with executions := t.executions + 1, pending := false } :=
    if_pos rfl
  rw [hadd]
  refine ⟨?_, rfl⟩
  unfold Tally.Counted at *
  rw [hpending] at h
  simp only [Bool.toNat_true, Bool.toNat_false] at *
  omega

/-- The item an event is about. -/
def Event.item : Event W → W
  | .submitted w => w
  | .cancelled w => w
  | .moved w _ _ => w
  | .executed w => w

/-- What happens to another item does not matter. -/
lemma Tally.add_of_ne (t : Tally) (h : e.item ≠ w) : t.add w e = t := by
  cases e with
  | submitted w' => exact if_neg h
  | cancelled w' => exact if_neg h
  | moved w' d now => rfl
  | executed w' => exact if_neg h

/-- Each submission is accounted for, and a pending item is on one of the lists. -/
structure Held (q : RtWorkqueue W Ag) : Prop where
  nodup : (q.workList ++ q.delayedList).Nodup
  counted : ∀ w, (tally w q.log).Counted
  pending : ∀ w, (tally w q.log).pending = true ↔ w ∈ q.workList ++ q.delayedList

/-- Something happens to the item `w` only. -/
lemma Held.add (h : Held q) (hlog : q'.log = q.log ++ [e])
    (hnodup : (q'.workList ++ q'.delayedList).Nodup)
    (hother : ∀ u, u ≠ e.item → (u ∈ q'.workList ++ q'.delayedList ↔ u ∈ q.workList ++ q.delayedList))
    (hself : ((tally e.item q.log).add e.item e).Counted ∧
      (((tally e.item q.log).add e.item e).pending = true ↔ e.item ∈ q'.workList ++ q'.delayedList)) :
    Held q' := by
  refine ⟨hnodup, fun u => ?_, fun u => ?_⟩
  · rw [hlog, tally_append]
    by_cases hu : u = e.item
    · rw [hu]
      exact hself.1
    · rw [Tally.add_of_ne _ fun heq => hu heq.symm]
      exact h.counted u
  · rw [hlog, tally_append]
    by_cases hu : u = e.item
    · rw [hu]
      exact hself.2
    · rw [Tally.add_of_ne _ fun heq => hu heq.symm, hother u hu]
      exact h.pending u

lemma mem_listRemove (q : RtWorkqueue W Ag) (w u : W) :
    u ∈ (listRemove q w).workList ++ (listRemove q w).delayedList ↔
      u ∈ q.workList ++ q.delayedList ∧ u ≠ w := by
  unfold listRemove
  simp only [List.mem_append, List.mem_filter, decide_eq_true_eq, or_and_right]

lemma Held.nodup_listRemove (h : Held q) (w : W) :
    ((listRemove q w).workList ++ (listRemove q w).delayedList).Nodup := by
  have hsub : ((listRemove q w).workList ++ (listRemove q w).delayedList).Sublist
      (q.workList ++ q.delayedList) := List.filter_sublist.append List.filter_sublist
  exact h.nodup.sublist hsub

/-! ### Deadlines -/

/-- The deadlines of the delayed items lie less than half the range of the tick apart and ahead, the list
is in their order, and what was moved had been due before. -/
structure Times (q : RtWorkqueue W Ag) : Prop where
  tick : q.tick = BitVec.ofNat 32 q.now
  timeout : ∀ w ∈ q.delayedList, (q.work w).timeoutTick = BitVec.ofNat 32 (q.work w).deadline
  upper : ∀ w ∈ q.delayedList, (q.work w).deadline < q.now + rtTickMax / 2
  near : ∀ w ∈ q.delayedList, ∀ u ∈ q.delayedList,
    (q.work w).deadline < (q.work u).deadline + rtTickMax / 2
  sorted : q.delayedList.Pairwise fun w u => (q.work w).deadline ≤ (q.work u).deadline
  moved : ∀ w deadline now, .moved w deadline now ∈ q.log → deadline ≤ now
  past : ∀ d ∈ moves q.log, d ≤ q.now ∧ ∀ w ∈ q.delayedList, d ≤ (q.work w).deadline
  ordered : (moves q.log).Pairwise (· ≤ ·)

omit [DecidableEq W] in
lemma moves_append (log : List (Event W)) (e : Event W) :
    moves (log ++ [e]) = moves log ++ e.movedDeadline.toList := by
  unfold moves
  rw [List.filterMap_append]
  cases he : e.movedDeadline with
  | none => rw [List.filterMap_cons_none he]; rfl
  | some d => rw [List.filterMap_cons_some he]; rfl

omit [DecidableEq W] in
/-- Items leave the list, and something happens that is no move. -/
lemma Times.sublist (h : Times q) (htick : q'.tick = q.tick) (hnow : q'.now = q.now)
    (hwork : q'.work = q.work) (hsub : q'.delayedList.Sublist q.delayedList)
    (hlog : q'.log = q.log ∨ ∃ e : Event W, e.movedDeadline = none ∧ q'.log = q.log ++ [e]) : Times q' := by
  have hmoves : moves q'.log = moves q.log := by
    rcases hlog with hlog | ⟨e, he, hlog⟩
    · rw [hlog]
    · rw [hlog, moves_append, he, Option.toList_none, List.append_nil]
  have hmoved : ∀ w deadline now, Event.moved w deadline now ∈ q'.log → .moved w deadline now ∈ q.log := by
    intro w deadline now hmem
    rcases hlog with hlog | ⟨e, he, hlog⟩
    · rwa [hlog] at hmem
    · rw [hlog] at hmem
      rcases List.mem_append.mp hmem with hmem | hmem
      · exact hmem
      · rw [← List.mem_singleton.mp hmem] at he
        cases he
  refine ⟨?_, ?_, ?_, ?_, ?_, ?_, ?_, ?_⟩
  · rw [htick, hnow]
    exact h.tick
  · intro w hw
    rw [hwork]
    exact h.timeout w (hsub.subset hw)
  · intro w hw
    rw [hwork, hnow]
    exact h.upper w (hsub.subset hw)
  · intro w hw u hu
    rw [hwork]
    exact h.near w (hsub.subset hw) u (hsub.subset hu)
  · rw [hwork]
    exact h.sorted.sublist hsub
  · intro w deadline now hmem
    exact h.moved w deadline now (hmoved w deadline now hmem)
  · intro d hd
    rw [hmoves] at hd
    rw [hnow, hwork]
    exact ⟨(h.past d hd).1, fun w hw => (h.past d hd).2 w (hsub.subset hw)⟩
  · rw [hmoves]
    exact h.ordered

/-- The deadline `deadline` lies less than half the range of the tick away from those of the other items. -/
def Near (q : RtWorkqueue W Ag) (w : W) (deadline : ℕ) : Prop :=
  ∀ u ∈ q.delayedList, u ≠ w → (q.work u).deadline < deadline + rtTickMax / 2 ∧
    deadline < (q.work u).deadline + rtTickMax / 2

omit [DecidableEq W] in
/-- The wrapping comparison is the one of the deadlines. -/
lemma notAfter_iff {work : W → RtWork} (hw : (work w).timeoutTick = BitVec.ofNat 32 (work w).deadline)
    (hu : (work u).timeoutTick = BitVec.ofNat 32 (work u).deadline)
    (hlow : (work u).deadline < (work w).deadline + rtTickMax / 2)
    (hhigh : (work w).deadline < (work u).deadline + rtTickMax / 2) :
    NotAfter work w u ↔ (work w).deadline ≤ (work u).deadline := by
  have hmax : rtTickMax / 2 = 2147483647 := rfl
  unfold NotAfter
  rw [hw, hu]
  constructor
  · intro hlt
    by_contra hnot
    rw [toNat_ofNat_sub_of_lt (by omega) (by omega)] at hlt
    omega
  · intro hle
    rw [toNat_ofNat_sub hle (by omega)]
    omega

/-- An item is put into the list. -/
lemma Times.insert (h : Times q) (hw : w ∉ q.delayedList) {ticks : BitVec 32} (hpos : ticks ≠ 0#32)
    (hticks : ticks.toNat < rtTickMax / 2) (hnear : Near q w (q.now + ticks.toNat)) :
    let work := Function.update q.work w ⟨q.tick + ticks, q.now + ticks.toNat⟩
    Times { q with
      work := work
      delayedList := q.delayedList.orderedInsert (NotAfter work) w
      log := q.log ++ [.submitted w] } := by
  intro work
  have hself : work w = ⟨q.tick + ticks, q.now + ticks.toNat⟩ := Function.update_self ..
  have hne : ∀ u ∈ q.delayedList, u ≠ w := fun u hu heq => hw (heq ▸ hu)
  have hother : ∀ u ∈ q.delayedList, work u = q.work u := fun u hu => Function.update_of_ne (hne u hu) ..
  have hmem : ∀ u, u ∈ q.delayedList.orderedInsert (NotAfter work) w ↔ u = w ∨ u ∈ q.delayedList :=
    fun u => List.mem_orderedInsert _
  have htimeout : (work w).timeoutTick = BitVec.ofNat 32 (work w).deadline := by
    rw [hself]
    show q.tick + ticks = BitVec.ofNat 32 (q.now + ticks.toNat)
    rw [h.tick, BitVec.ofNat_add, BitVec.ofNat_toNat, BitVec.setWidth_eq]
  have htimeouts : ∀ u ∈ q.delayedList, (work u).timeoutTick = BitVec.ofNat 32 (work u).deadline := by
    intro u hu
    rw [hother u hu]
    exact h.timeout u hu
  have hdeadline : (work w).deadline = q.now + ticks.toNat := by rw [hself]
  have hposNat : 0 < ticks.toNat := by
    rcases Nat.eq_zero_or_pos ticks.toNat with hzero | hpos'
    · exact absurd (BitVec.eq_of_toNat_eq hzero) hpos
    · exact hpos'
  have hnears : ∀ u ∈ q.delayedList, (work u).deadline < (work w).deadline + rtTickMax / 2 ∧
      (work w).deadline < (work u).deadline + rtTickMax / 2 := by
    intro u hu
    rw [hdeadline, hother u hu]
    exact hnear u hu (hne u hu)
  have hmoves : moves (q.log ++ [.submitted w]) = moves q.log := by
    rw [moves_append]
    exact List.append_nil _
  have hhalf : 0 < rtTickMax / 2 := by decide
  refine ⟨h.tick, ?_, ?_, ?_, ?_, ?_, ?_, ?_⟩
  · intro u hu
    rcases (hmem u).mp hu with rfl | hu
    · exact htimeout
    · exact htimeouts u hu
  · intro u hu
    simp only at hu ⊢
    rcases (hmem u).mp hu with rfl | hu
    · rw [hdeadline]
      omega
    · rw [hother u hu]
      exact h.upper u hu
  · intro u hu v hv
    show (work u).deadline < (work v).deadline + rtTickMax / 2
    rcases (hmem u).mp hu with heq | hu' <;> rcases (hmem v).mp hv with heq' | hv'
    · rw [heq, heq']
      omega
    · rw [heq]
      exact (hnears v hv').2
    · rw [heq']
      exact (hnears u hu').1
    · rw [hother u hu', hother v hv']
      exact h.near u hu' v hv'
  · have hsorted : q.delayedList.Pairwise fun u v => (work u).deadline ≤ (work v).deadline := by
      refine h.sorted.imp_of_mem fun {u v} hu hv huv => ?_
      rw [hother u hu, hother v hv]
      exact huv
    have hiff : ∀ u ∈ q.delayedList, NotAfter work w u ↔ (work w).deadline ≤ (work u).deadline :=
      fun u hu => notAfter_iff htimeout (htimeouts u hu) (hnears u hu).1 (hnears u hu).2
    refine pairwise_orderedInsert (fun _ _ _ hxy hyz => hxy.trans hyz) hsorted ?_ ?_
    · intro u hu hnot
      exact (hiff u hu).mp hnot
    · intro u hu hnot
      exact (not_le.mp (mt (hiff u hu).mpr hnot)).le
  · intro v deadline now hv
    rcases List.mem_append.mp hv with hv | hv
    · exact h.moved v deadline now hv
    · cases List.mem_singleton.mp hv
  · intro d hd
    simp only at hd ⊢
    rw [hmoves] at hd
    refine ⟨(h.past d hd).1, fun u hu => ?_⟩
    rcases (hmem u).mp hu with rfl | hu
    · rw [hdeadline]
      exact (h.past d hd).1.trans (Nat.le_add_right _ _)
    · rw [hother u hu]
      exact (h.past d hd).2 u hu
  · simp only
    rw [hmoves]
    exact h.ordered

omit [DecidableEq W] in
/-- The worker tests the deadline. -/
lemma Times.due (h : Times q) (hw : w ∈ q.delayedList) (hdue : Due q w) : (q.work w).deadline ≤ q.now := by
  have hupper := h.upper w hw
  have hmax : rtTickMax / 2 = 2147483647 := rfl
  unfold Due at hdue
  rw [h.tick, h.timeout w hw] at hdue
  by_contra hnot
  rw [toNat_ofNat_sub_of_lt (by omega) (by omega)] at hdue
  omega

omit [DecidableEq W] in
/-- The first item is moved. -/
lemma Times.move (h : Times q) {rest : List W} (hlist : q.delayedList = w :: rest) (hdue : Due q w) :
    Times { q with
      delayedList := rest
      workList := q.workList ++ [w]
      log := q.log ++ [.moved w (q.work w).deadline q.now] } := by
  have hmem : w ∈ q.delayedList := by
    rw [hlist]
    exact List.mem_cons_self
  have hle := h.due hmem hdue
  have hsorted := h.sorted
  rw [hlist] at hsorted
  have hrest : ∀ u ∈ rest, u ∈ q.delayedList := by
    intro u hu
    rw [hlist]
    exact List.mem_cons_of_mem w hu
  have hmoves : moves (q.log ++ [.moved w (q.work w).deadline q.now]) =
      moves q.log ++ [(q.work w).deadline] := moves_append _ _
  refine ⟨h.tick, fun u hu => h.timeout u (hrest u hu), fun u hu => h.upper u (hrest u hu),
    fun u hu v hv => h.near u (hrest u hu) v (hrest v hv), (List.pairwise_cons.mp hsorted).2, ?_, ?_, ?_⟩
  · intro v deadline now hv
    rcases List.mem_append.mp hv with hv | hv
    · exact h.moved v deadline now hv
    · cases List.mem_singleton.mp hv
      exact hle
  · intro d hd
    simp only at hd ⊢
    rw [hmoves] at hd
    rcases List.mem_append.mp hd with hd | hd
    · exact ⟨(h.past d hd).1, fun u hu => (h.past d hd).2 u (hrest u hu)⟩
    · rw [List.mem_singleton.mp hd]
      exact ⟨hle, (List.pairwise_cons.mp hsorted).1⟩
  · simp only
    rw [hmoves]
    refine List.pairwise_append.mpr ⟨h.ordered, List.pairwise_singleton _ _, fun d hd d' hd' => ?_⟩
    rw [List.mem_singleton.mp hd']
    exact (h.past d hd).2 w hmem

/-! ### The operations -/

/-- What holds of a queue. -/
structure Inv (q : RtWorkqueue W Ag) : Prop where
  held : Held q
  times : Times q
  sane : q.corrupted = false

/-- An item is put on one of the lists, and that is its submission. -/
lemma Held.submit (h : Held q) (w : W) (hlog : q'.log = q.log ++ [.submitted w])
    (hperm : (q'.workList ++ q'.delayedList).Perm
      (w :: ((listRemove q w).workList ++ (listRemove q w).delayedList))) : Held q' := by
  have hself := (h.counted w).submitted (w := w)
  refine h.add hlog ?_ (fun u hu => ?_) ⟨hself.1, iff_of_true hself.2 ?_⟩
  · refine hperm.nodup_iff.mpr (List.nodup_cons.mpr ⟨fun hmem => ?_, h.nodup_listRemove w⟩)
    exact ((mem_listRemove q w w).mp hmem).2 rfl
  · rw [hperm.mem_iff, List.mem_cons, mem_listRemove]
    exact ⟨fun hmem => hmem.elim (fun heq => absurd heq hu) And.left, fun hmem => .inr ⟨hmem, hu⟩⟩
  · exact hperm.mem_iff.mpr List.mem_cons_self

lemma Times.listRemove (h : Times q) (w : W) : Times (listRemove q w) :=
  h.sublist rfl rfl rfl List.filter_sublist (.inl rfl)

/-- **`_workqueue_submit_work`.** -/
lemma Inv.submit (h : Inv q) {ticks : BitVec 32} (hticks : ticks.toNat < rtTickMax / 2)
    (hnear : ticks ≠ 0#32 → Near q w (q.now + ticks.toNat)) : Inv (workqueueSubmitWork q w ticks).1 := by
  unfold workqueueSubmitWork
  by_cases hzero : ticks = 0#32
  · simp only [if_pos hzero]
    refine ⟨h.held.submit w rfl ?_, ?_, h.sane⟩
    · show ((Workqueue.listRemove q w).workList ++ [w] ++ (Workqueue.listRemove q w).delayedList).Perm _
      rw [List.append_assoc]
      exact List.perm_middle
    · exact h.times.sublist rfl rfl rfl List.filter_sublist (.inr ⟨_, rfl, rfl⟩)
  · simp only [if_neg hzero, if_pos hticks]
    refine ⟨h.held.submit w rfl ?_, ?_, h.sane⟩
    · exact ((List.perm_orderedInsert _ w _).append_left _).trans List.perm_middle
    · have hout : w ∉ (Workqueue.listRemove q w).delayedList := by
        intro hmem
        exact ((mem_listRemove q w w).mp (List.mem_append_right _ hmem)).2 rfl
      refine (h.times.listRemove w).insert hout hzero hticks fun u hu hne => ?_
      exact hnear hzero u (List.filter_sublist.subset hu) hne

/-- **`rt_workqueue_urgent_work`.** -/
lemma Inv.urgent (h : Inv q) (w : W) : Inv (rtWorkqueueUrgentWork q w).1 := by
  refine ⟨h.held.submit w rfl (List.Perm.refl _), ?_, h.sane⟩
  exact h.times.sublist rfl rfl rfl List.filter_sublist (.inr ⟨_, rfl, rfl⟩)

/-- **`_workqueue_cancel_work`.** -/
lemma Inv.cancel (h : Inv q) (w : W) : Inv (workqueueCancelWork q w).1 := by
  have hself := (h.held.counted w).cancelled (w := w)
  refine ⟨h.held.add rfl (h.held.nodup_listRemove w) (fun u hu => ?_) ⟨hself.1, iff_of_false ?_ ?_⟩, ?_,
    h.sane⟩
  · exact (mem_listRemove q w u).trans ⟨And.left, fun hmem => ⟨hmem, hu⟩⟩
  · exact ne_true_of_eq_false hself.2
  · exact fun hmem => ((mem_listRemove q w w).mp hmem).2 rfl
  · exact h.times.sublist rfl rfl rfl List.filter_sublist (.inr ⟨_, rfl, rfl⟩)

/-- The timer check keeps the invariant. -/
lemma Inv.timerCheck : ∀ (rest : List W) (q : RtWorkqueue W Ag), q.delayedList = rest → Inv q →
    Inv (timerCheck q rest)
  | [], _, _, h => h
  | w :: rest, q, hlist, h => by
    unfold Workqueue.timerCheck
    by_cases hdue : Due q w
    · rw [if_pos hdue]
      refine Inv.timerCheck rest _ rfl ⟨?_, h.times.move hlist hdue, h.sane⟩
      have hperm : (q.workList ++ [w] ++ rest).Perm (q.workList ++ q.delayedList) := by
        rw [hlist, List.append_assoc]
        rfl
      have hself : (tally w q.log).add w (.moved w (q.work w).deadline q.now) = tally w q.log := rfl
      refine h.held.add rfl (hperm.nodup_iff.mpr h.held.nodup) (fun u _ => hperm.mem_iff) ?_
      show ((tally w q.log).add w _).Counted ∧ (((tally w q.log).add w _).pending = true ↔ _)
      rw [hself]
      exact ⟨h.held.counted w, (h.held.pending w).trans hperm.mem_iff.symm⟩
    · rw [if_neg hdue]
      exact h

/-- **The section of the worker.** -/
lemma Inv.workerSection (h : Inv q) : Inv (workerSection q) := by
  have hcheck := Inv.timerCheck q.delayedList q rfl h
  unfold Workqueue.workerSection
  obtain ⟨q₁, hq₁⟩ : ∃ q₁, q₁ = Workqueue.timerCheck q q.delayedList := ⟨_, rfl⟩
  rw [← hq₁] at hcheck ⊢
  cases hlist : q₁.workList with
  | nil =>
    simp only [hlist]
    exact hcheck
  | cons w rest =>
    simp only [hlist]
    have hnodup := hcheck.held.nodup
    have hmem : w ∈ q₁.workList ++ q₁.delayedList := by
      rw [hlist]
      exact List.mem_cons_self
    have hself := (hcheck.held.counted w).executed (w := w) ((hcheck.held.pending w).mpr hmem)
    rw [hlist, List.cons_append] at hnodup
    obtain ⟨hout, hnodup'⟩ := List.nodup_cons.mp hnodup
    refine ⟨hcheck.held.add rfl hnodup' (fun u hu => ?_) ⟨hself.1, iff_of_false ?_ hout⟩, ?_, hcheck.sane⟩
    · rw [hlist, List.cons_append, List.mem_cons]
      exact ⟨.inr, fun hmem => hmem.resolve_left hu⟩
    · exact ne_true_of_eq_false hself.2
    · exact hcheck.times.sublist rfl rfl rfl (List.Sublist.refl _) (.inr ⟨_, rfl, rfl⟩)

/-! ### Every run -/

section Runs

variable [DecidableEq Ag]

/-- No agent takes the head of a list for an item. -/
def NoHead (q : RtWorkqueue W Ag) : Prop := ∀ ag list, q.pc ag ≠ .cancel list .listHead

/-- The condition on an action: delays and deadlines are in range, and `rt_workqueue_cancel_all_work` reads
the first item of a list that has one. -/
def Within (q : RtWorkqueue W Ag) : Action W Ag → Prop
  | .submit w ticks =>
    ticks.toNat < rtTickMax / 2 ∧ (ticks ≠ 0#32 → Near q w (q.now + ticks.toNat))
  | .run ag => ∀ list, q.pc ag = .first list → listOf q list ≠ []
  | _ => True

lemma Inv.setPc (h : Inv q) (ag : Ag) (pc : Pc W) : Inv (setPc q ag pc) :=
  ⟨⟨h.held.nodup, h.held.counted, h.held.pending⟩,
    ⟨h.times.tick, h.times.timeout, h.times.upper, h.times.near, h.times.sorted, h.times.moved,
      h.times.past, h.times.ordered⟩, h.sane⟩

omit [DecidableEq W] in
lemma NoHead.setPc (h : NoHead q) {ag : Ag} {pc : Pc W} (hpc : ∀ list, pc ≠ .cancel list .listHead) :
    NoHead (setPc q ag pc) := by
  intro ag' list
  show Function.update q.pc ag pc ag' ≠ _
  by_cases hag : ag' = ag
  · rw [hag, Function.update_self]
    exact hpc list
  · rw [Function.update_of_ne hag]
    exact h ag' list

/-- **A step of `rt_workqueue_cancel_all_work`.** -/
lemma Inv.runAgent (h : Inv q) (hhead : NoHead q) {ag : Ag}
    (hwithin : ∀ list, q.pc ag = .first list → listOf q list ≠ []) (hs : runAgent q ag = some q') :
    Inv q' ∧ NoHead q' := by
  unfold Workqueue.runAgent at hs
  cases hpc : q.pc ag with
  | idle =>
    rw [hpc] at hs
    cases hs
  | test list =>
    rw [hpc] at hs
    simp only at hs
    split at hs
    · cases hs
      exact ⟨h.setPc ag _, hhead.setPc (by intro _ heq; cases heq)⟩
    · cases list with
      | workList =>
        cases hs
        exact ⟨h.setPc ag _, hhead.setPc (by intro _ heq; cases heq)⟩
      | delayedList =>
        cases hs
        exact ⟨h.setPc ag _, hhead.setPc (by intro _ heq; cases heq)⟩
  | first list =>
    rw [hpc] at hs
    cases hs
    refine ⟨h.setPc ag _, hhead.setPc fun list' heq => ?_⟩
    have hne := hwithin list hpc
    cases hlist : listOf q list with
    | nil => exact hne hlist
    | cons w rest =>
      rw [hlist] at heq
      cases heq
  | cancel list entry =>
    rw [hpc] at hs
    cases hs
    cases entry with
    | work w =>
      have hhead' : NoHead (workqueueCancelWork q w).1 := hhead
      exact ⟨(h.cancel w).setPc ag _, hhead'.setPc (by intro _ heq; cases heq)⟩
    | listHead => exact absurd hpc (hhead ag list)

omit [DecidableEq W] [DecidableEq Ag] in
lemma timerCheck_pc : ∀ (rest : List W) (q : RtWorkqueue W Ag), (timerCheck q rest).pc = q.pc
  | [], _ => rfl
  | w :: rest, q => by
    unfold timerCheck
    split
    · exact timerCheck_pc rest _
    · rfl

omit [DecidableEq W] [DecidableEq Ag] in
lemma workerSection_pc (q : RtWorkqueue W Ag) : (workerSection q).pc = q.pc := by
  unfold workerSection
  have hpc := timerCheck_pc q.delayedList q
  simp only
  split
  · exact hpc
  · exact hpc

/-- **Every step** keeps the invariant. -/
lemma Inv.step (h : Inv q) (hhead : NoHead q) {a : Action W Ag} (hwithin : Within q a)
    (hs : step q a = some q') : Inv q' ∧ NoHead q' := by
  cases a with
  | submit w ticks =>
    cases hs
    refine ⟨h.submit hwithin.1 hwithin.2, ?_⟩
    have hpc : (workqueueSubmitWork q w ticks).1.pc = q.pc := by
      unfold workqueueSubmitWork
      simp only
      split
      · rfl
      · split
        · rfl
        · rfl
    unfold NoHead
    rw [hpc]
    exact hhead
  | urgent w =>
    cases hs
    exact ⟨h.urgent w, hhead⟩
  | cancel w =>
    cases hs
    exact ⟨h.cancel w, hhead⟩
  | cancelAll ag =>
    unfold Workqueue.step at hs
    simp only at hs
    split at hs
    · cases hs
      exact ⟨h.setPc ag _, hhead.setPc (by intro _ heq; cases heq)⟩
    · cases hs
  | run ag => exact h.runAgent hhead hwithin hs
  | worker =>
    unfold Workqueue.step at hs
    simp only at hs
    split at hs
    · cases hs
      refine ⟨h.workerSection, ?_⟩
      unfold NoHead
      rw [workerSection_pc]
      exact hhead
    · cases hs
  | finish =>
    unfold Workqueue.step at hs
    simp only at hs
    split at hs
    · cases hs
    · cases hs
      exact ⟨⟨⟨h.held.nodup, h.held.counted, h.held.pending⟩,
        ⟨h.times.tick, h.times.timeout, h.times.upper, h.times.near, h.times.sorted, h.times.moved,
          h.times.past, h.times.ordered⟩, h.sane⟩, hhead⟩
  | tickIncrease =>
    cases hs
    have htick : q.tick + 1#32 = BitVec.ofNat 32 (q.now + 1) := by
      rw [h.times.tick, BitVec.ofNat_add]
    refine ⟨⟨⟨h.held.nodup, h.held.counted, h.held.pending⟩, ⟨htick, h.times.timeout, fun w hw => ?_,
      h.times.near, h.times.sorted, h.times.moved, fun d hd => ?_, h.times.ordered⟩, h.sane⟩, hhead⟩
    · have hupper := h.times.upper w hw
      show (q.work w).deadline < q.now + 1 + rtTickMax / 2
      omega
    · exact ⟨(h.times.past d hd).1.trans (Nat.le_succ q.now), (h.times.past d hd).2⟩

omit [DecidableEq W] [DecidableEq Ag] in
lemma inv_rtWorkqueueCreate [DecidableEq W] (tick : BitVec 32) (work : W → RtWork) :
    Inv (rtWorkqueueCreate tick work : RtWorkqueue W Ag) := by
  refine ⟨⟨List.nodup_nil, fun w => rfl, fun w => ?_⟩, ⟨?_, ?_, ?_, ?_, List.Pairwise.nil, ?_, ?_,
    List.Pairwise.nil⟩, rfl⟩
  · exact iff_of_false Bool.false_ne_true List.not_mem_nil
  · exact (BitVec.ofNat_toNat 32 tick ▸ (BitVec.setWidth_eq tick).symm)
  · intro w hw
    cases hw
  · intro w hw
    cases hw
  · intro w hw
    cases hw
  · intro w deadline now hw
    cases hw
  · intro d hd
    cases hd

omit [DecidableEq W] [DecidableEq Ag] in
lemma noHead_rtWorkqueueCreate (tick : BitVec 32) (work : W → RtWork) :
    NoHead (rtWorkqueueCreate tick work : RtWorkqueue W Ag) := by
  intro ag list heq
  cases heq

/-- What a work queue is meant to keep. -/
structure Sound (q : RtWorkqueue W Ag) : Prop where
  /-- an item is on one list at most -/
  once : (q.workList ++ q.delayedList).Nodup
  /-- the delayed items are in circular order -/
  sorted : q.delayedList.Pairwise fun w u =>
    ((q.work u).timeoutTick - (q.work w).timeoutTick).toNat < rtTickMax / 2
  /-- no item is moved before its deadline -/
  due : ∀ w deadline now, .moved w deadline now ∈ q.log → deadline ≤ now
  /-- items are moved in the order of their deadlines -/
  ordered : (moves q.log).Pairwise (· ≤ ·)
  /-- a submission that was not superseded or cancelled was executed, or is pending -/
  counted : ∀ w, (tally w q.log).executions + (tally w q.log).superseded + (tally w q.log).cancelled +
    (if w ∈ q.workList ++ q.delayedList then 1 else 0) = (tally w q.log).submissions

omit [DecidableEq Ag] in
lemma Inv.sound (h : Inv q) : Sound q := by
  refine ⟨h.held.nodup, ?_, h.times.moved, h.times.ordered, fun w => ?_⟩
  · refine h.times.sorted.imp_of_mem fun {w u} hw hu hle => ?_
    have hnear := h.times.near u hu w hw
    have hmax : rtTickMax / 2 = 2147483647 := rfl
    rw [h.times.timeout w hw, h.times.timeout u hu, toNat_ofNat_sub hle (by omega)]
    omega
  · have hcounted := h.held.counted w
    unfold Tally.Counted at hcounted
    by_cases hmem : w ∈ q.workList ++ q.delayedList
    · rw [if_pos hmem]
      rw [(h.held.pending w).mpr hmem] at hcounted
      exact hcounted
    · rw [if_neg hmem]
      rw [eq_false_of_ne_true fun hpending => hmem ((h.held.pending w).mp hpending)] at hcounted
      exact hcounted

/-- **A work queue keeps its items in order and loses none**, whoever submits and cancels them and at
whatever tick, as long as delays and deadlines are in range and `rt_workqueue_cancel_all_work` reads the
first item of no empty list; and no field of the queue is overwritten. -/
theorem workqueue_sound (tick : BitVec 32) (work : W → RtWork) (as : List (Action W Ag))
    (hwithin : Along step Within (rtWorkqueueCreate tick work : RtWorkqueue W Ag) as)
    (q : RtWorkqueue W Ag) (hrun : exec step (rtWorkqueueCreate tick work) as = some q) :
    Sound q ∧ q.corrupted = false := by
  have hinv : Inv q ∧ NoHead q := by
    refine exec_inv_of_along (I := fun q => Inv q ∧ NoHead q) (C := Within) (fun q a q' h hc hs => ?_)
      as _ q ⟨inv_rtWorkqueueCreate tick work, noHead_rtWorkqueueCreate tick work⟩ hwithin hrun
    exact h.1.step h.2 hc hs
  exact ⟨hinv.1.sound, hinv.1.sane⟩

end Runs

instance (q : RtWorkqueue W Ag) (w : W) (deadline : ℕ) : Decidable (Near q w deadline) :=
  inferInstanceAs (Decidable (∀ u ∈ q.delayedList, u ≠ w →
    (q.work u).deadline < deadline + rtTickMax / 2 ∧ deadline < (q.work u).deadline + rtTickMax / 2))

instance (q : RtWorkqueue W Ag) (a : Action W Ag) : Decidable (Within q a) :=
  match a with
  | .submit w ticks => inferInstanceAs (Decidable
      (ticks.toNat < rtTickMax / 2 ∧ (ticks ≠ 0#32 → Near q w (q.now + ticks.toNat))))
  | .run ag =>
    match h : q.pc ag with
    | .first list => decidable_of_iff (listOf q list ≠ [])
        ⟨fun hne list' heq => by cases h.symm.trans heq; exact hne, fun hall => hall list h⟩
    | .idle => isTrue fun _ heq => by cases h.symm.trans heq
    | .test _ => isTrue fun _ heq => by cases h.symm.trans heq
    | .cancel _ _ => isTrue fun _ heq => by cases h.symm.trans heq
  | .urgent _ => isTrue trivial
  | .cancel _ => isTrue trivial
  | .cancelAll _ => isTrue trivial
  | .worker => isTrue trivial
  | .finish => isTrue trivial
  | .tickIncrease => isTrue trivial

/-- An item is delayed and superseded, another one is cancelled with all, the first one is submitted again
and executed. -/
def superseded : List (Action Bool Unit) :=
  [.submit false 2#32, .submit false 1#32, .urgent true, .cancelAll (), .run (), .run (), .run (), .run (),
    .run (), .run (), .run (), .run (), .submit false 1#32, .tickIncrease, .worker, .finish]

theorem workqueue_sound_superseded :
    ∃ q : RtWorkqueue Bool Unit,
      exec step (rtWorkqueueCreate 0xffffffff#32 fun _ => ⟨0#32, 0⟩) superseded = some q ∧
      (tally false q.log).executions = 1 ∧ (tally false q.log).submissions = 3 ∧
      Sound q ∧ q.corrupted = false := by
  have hrun : ∃ q ∈ exec step (rtWorkqueueCreate 0xffffffff#32 fun _ => ⟨0#32, 0⟩ : RtWorkqueue Bool Unit)
      superseded, (tally false q.log).executions = 1 ∧ (tally false q.log).submissions = 3 := by
    decide +kernel
  obtain ⟨q, hq, hexecutions, hsubmissions⟩ := hrun
  exact ⟨q, hq, hexecutions, hsubmissions,
    workqueue_sound 0xffffffff#32 (fun _ => ⟨0#32, 0⟩) superseded (by decide +kernel) q hq⟩

/-- A handler submits the only item again, with a delay, before `rt_workqueue_cancel_all_work` reads the
first one, and another item before what was read is cancelled. -/
def emptied : List (Action Bool Unit) :=
  [.submit false 0#32, .cancelAll (), .run (), .submit false 10#32, .run (), .submit true 0#32, .run ()]

/-- The second item is on no list, though nobody has cancelled it. -/
theorem workqueue_loses :
    ∃ q : RtWorkqueue Bool Unit,
      exec step (rtWorkqueueCreate 0#32 fun _ => ⟨0#32, 0⟩) emptied = some q ∧
      (tally true q.log).submissions = 1 ∧ (tally true q.log).executions = 0 ∧
      (tally true q.log).superseded = 0 ∧ (tally true q.log).cancelled = 0 ∧
      true ∉ q.workList ++ q.delayedList ∧ ¬ Sound q := by
  have hrun : ∃ q ∈ exec step (rtWorkqueueCreate 0#32 fun _ => ⟨0#32, 0⟩ : RtWorkqueue Bool Unit) emptied,
      (tally true q.log).submissions = 1 ∧ (tally true q.log).executions = 0 ∧
      (tally true q.log).superseded = 0 ∧ (tally true q.log).cancelled = 0 ∧
      true ∉ q.workList ++ q.delayedList := by
    decide +kernel
  obtain ⟨q, hq, hsubmissions, hexecutions, hsuperseded, hcancelled, hmem⟩ := hrun
  refine ⟨q, hq, hsubmissions, hexecutions, hsuperseded, hcancelled, hmem, fun hsound => ?_⟩
  have hcounted := hsound.counted true
  rw [if_neg hmem, hsubmissions, hexecutions, hsuperseded, hcancelled] at hcounted
  omega

end N32L43x.Workqueue
