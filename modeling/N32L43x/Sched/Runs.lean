import N32L43x.Sched.Schedule
import N32L43x.Lib.Run

/-!
The scheduler over whole runs: every step keeps the invariant of the ready queue, and the mask of a
thread follows its priority from the first time it is written.
-/

namespace N32L43x.Sched

open N32L43x.Lib.Run

variable {Tid : Type} [DecidableEq Tid] {s : SchedState Tid} {t : Tid} {f : Thread → Thread}

/-! ### The steps -/

lemma stat_of_isSuspended {th : Thread} (h : th.stat.isSuspended = true) :
    th.stat ≠ .init ∧ th.stat ≠ .close ∧ th.stat ≠ .ready ∧ th.stat ≠ .running := by
  cases hs : th.stat <;> simp_all [ThreadStat.isSuspended]

namespace Inv

/-- A suspended thread that leaves the list it waits in and becomes ready. -/
lemma wakeUp (h : Inv s) (hsus : (s.thread t).stat.isSuspended = true) :
    Inv (rtSchedInsertThread (s.listRemove t) t) := by
  obtain ⟨hi, hcl, hr, -⟩ := stat_of_isSuspended hsus
  rw [h.toQueue.listRemove_eq hr]
  exact h.insert hr (h.masked t hi hcl)

/-- A ready thread that is taken out of its list and inserted again. -/
lemma reinsert (h : Inv s) (hr : (s.thread t).stat = .ready) :
    Inv (rtSchedInsertThread (s.listRemove t) t) := by
  have hc : s.currentThread ≠ some t := fun hc => (h.current t hc).1 hr
  have hc' : (s.listRemove t).currentThread ≠ some t := hc
  have hm : (s.thread t).numberMask = maskOf (s.thread t).currentPriority := by
    refine h.masked t ?_ ?_ <;> rw [hr] <;> nofun
  have hthread : (rtSchedInsertThread (s.listRemove t) t).thread = s.thread := by
    rw [insert_thread hc']
    funext u
    by_cases hu : u = t
    · subst hu
      rw [modify_thread_same]
      change { s.thread u with stat := .ready } = s.thread u
      rw [← hr]
    · rw [modify_thread_of_ne hu]
      rfl
  have hmem : ∀ u p, u ∈ (rtSchedInsertThread (s.listRemove t) t).priorityTable p ↔
      u ∈ s.priorityTable p := by
    intro u p
    rw [insert_priorityTable hc']
    by_cases hp : p = (s.thread t).currentPriority
    · subst hp
      have hupd : Function.update (s.listRemove t).priorityTable
          ((s.listRemove t).thread t).currentPriority ((s.listRemove t).insertedList t)
          (s.thread t).currentPriority = (s.listRemove t).insertedList t := Function.update_self ..
      rw [hupd, Queue.mem_insertedList]
      change u = t ∨ u ∈ (s.priorityTable (s.thread t).currentPriority).filter (· ≠ t) ↔ _
      rw [List.mem_filter, decide_eq_true_eq]
      by_cases hu : u = t
      · subst hu
        exact iff_of_true (.inl rfl) ((h.mem_iff u _).2 ⟨hr, rfl⟩)
      · rw [or_iff_right hu, and_iff_left hu]
    · have hupd : Function.update (s.listRemove t).priorityTable
          ((s.listRemove t).thread t).currentPriority ((s.listRemove t).insertedList t) p =
          (s.priorityTable p).filter (· ≠ t) := Function.update_of_ne hp ..
      rw [hupd, h.toQueue.filter_eq fun _ => Ne.symm hp]
  refine ⟨⟨fun p => ?_, fun u p => ?_, fun p => ?_, fun u => ?_⟩, fun u hu => ?_, fun u hu => ?_⟩
  · rw [insert_readyPriorityGroup hc']
    change (s.readyPriorityGroup ||| (s.thread t).numberMask).getLsbD p = true ↔ _
    have hne : (rtSchedInsertThread (s.listRemove t) t).priorityTable p ≠ [] ↔
        s.priorityTable p ≠ [] := by
      rw [← List.length_pos_iff, ← List.length_pos_iff, List.length_pos_iff_exists_mem,
        List.length_pos_iff_exists_mem]
      exact exists_congr fun u => hmem u p
    rw [hm, getLsbD_setMask, hne, ← h.bit_iff, Bool.or_eq_true, decide_eq_true_eq]
    refine or_iff_left_of_imp ?_
    rintro rfl
    exact (h.bit_iff _).2 (List.ne_nil_of_mem ((h.mem_iff t _).2 ⟨hr, rfl⟩))
  · rw [hmem, hthread]
    exact h.mem_iff u p
  · rw [insert_priorityTable hc']
    by_cases hp : p = (s.thread t).currentPriority
    · subst hp
      have hupd : Function.update (s.listRemove t).priorityTable
          ((s.listRemove t).thread t).currentPriority ((s.listRemove t).insertedList t)
          (s.thread t).currentPriority = (s.listRemove t).insertedList t := Function.update_self ..
      have hnot : t ∉ (s.priorityTable (s.thread t).currentPriority).filter (· ≠ t) := by simp
      rw [hupd]
      unfold SchedState.insertedList
      simp only
      split
      · refine List.nodup_append.2 ⟨(h.nodup _).filter _, List.nodup_singleton t, ?_⟩
        rintro a ha b hb rfl
        rw [List.mem_singleton] at hb
        exact hnot (hb ▸ ha)
      · exact List.nodup_cons.2 ⟨hnot, (h.nodup _).filter _⟩
    · have hupd : Function.update (s.listRemove t).priorityTable
          ((s.listRemove t).thread t).currentPriority ((s.listRemove t).insertedList t) p =
          (s.priorityTable p).filter (· ≠ t) := Function.update_of_ne hp ..
      rw [hupd]
      exact (h.nodup p).filter _
  · rw [hthread]
    exact h.masked u
  · rw [hthread] at hu
    rw [insert_currentThread]
    exact h.running u hu
  · rw [insert_currentThread] at hu
    rw [hthread]
    exact h.current u hu

/-- `_thread_timeout` of a thread that can run already. -/
lemma wakeUp_of_live (h : Inv s) (hlive : (s.thread t).stat = .ready ∨ (s.thread t).stat = .running) :
    Inv (rtSchedInsertThread (s.listRemove t) t) := by
  rcases hlive with hr | hrun
  · exact h.reinsert hr
  · have hr : (s.thread t).stat ≠ .ready := by
      rw [hrun]
      nofun
    have hm : (s.thread t).numberMask = maskOf (s.thread t).currentPriority := by
      refine h.masked t ?_ ?_ <;> rw [hrun] <;> nofun
    rw [h.toQueue.listRemove_eq hr]
    exact h.insert hr hm

lemma rtSchedThreadReady (h : Inv s) (timerStop : RtErr) :
    Inv (rtSchedThreadReady s t timerStop).1 := by
  unfold Sched.rtSchedThreadReady
  by_cases hsus : (s.thread t).stat.isSuspended = true
  · rw [if_pos hsus]
    have h' : Inv (s.modify t fun th => { th with ttmrSet := false }) :=
      h.modify_rest rfl rfl rfl
    simp only
    generalize (if (s.thread t).ttmrSet = true then timerStop else .eok) = err
    split
    · refine h'.wakeUp ?_
      rw [modify_thread_same]
      exact hsus
    · exact h'
  · rw [if_neg hsus]
    exact h

lemma rtSchedThreadYield (h : Inv s) : Inv (rtSchedThreadYield s t) :=
  h.modify_rest rfl rfl rfl

lemma rtSchedUnlockNResched (h : Inv s) : Inv (rtSchedUnlockNResched s) := by
  unfold Sched.rtSchedUnlockNResched
  split
  · exact h
  · rename_i c hc
    exact h.rtSchedule hc

lemma rtSchedThreadStartup (h : Inv s) (hi : (s.thread t).stat = .init) :
    Inv (rtSchedThreadStartup s t) := by
  refine h.modify (by rw [hi]; nofun) nofun (fun _ _ => rfl) nofun ?_
  intro hc
  exact absurd hi (h.current t hc).2

lemma rtThreadSuspendToList (h : Inv s) (flag : SuspendFlag) :
    Inv (rtThreadSuspendToList s t flag).1 := by
  unfold Sched.rtThreadSuspendToList
  split
  · rename_i hstat
    have hm : (s.thread t).numberMask = maskOf (s.thread t).currentPriority := by
      refine h.masked t ?_ ?_ <;> rcases hstat with hstat | hstat <;> rw [hstat] <;> nofun
    have h' : Inv ((rtSchedRemoveThread s t).modify t fun th => { th with stat := .suspend flag }) :=
      h.remove hm nofun (fun _ _ => hm) nofun (fun _ => nofun)
    exact h'.modify_rest (t := t) (f := fun th => { th with ttmrSet := false }) rfl rfl rfl
  · exact h

lemma rtSchedUpdatePriority (h : Inv s) (priority : Fin 32) (updateInitPrio : Bool) :
    Inv (rtSchedUpdatePriority s t priority updateInitPrio) := by
  unfold Sched.rtSchedUpdatePriority
  by_cases hr : (s.thread t).stat = .ready
  · rw [if_pos hr]
    -- a ready thread is not the current one, and its new status is no obstacle to its insertion
    have hc : s.currentThread ≠ some t := fun hc => (h.current t hc).1 hr
    have hm := h.masked t (by simp [hr]) (by simp [hr])
    have h' := h.remove (f := fun th =>
        { th.setPriority priority updateInitPrio with stat := .init, yield := false }) hm nofun
      (fun hi => absurd rfl hi) nofun (fun hc' => absurd hc' hc)
    refine h'.insert ?_ ?_
    · rw [modify_thread_same]
      nofun
    · rw [modify_thread_same]
      rfl
  · rw [if_neg hr]
    refine h.modify hr hr (fun _ _ => rfl) (h.running t) fun hc => (h.current t hc).2

lemma rtThreadClose (h : Inv s) : Inv (rtThreadClose s t) := by
  unfold Sched.rtThreadClose
  by_cases hcl : (s.thread t).stat = .close
  · rw [if_pos hcl]
    exact h
  rw [if_neg hcl]
  simp only
  by_cases hi : (s.thread t).stat = .init
  · rw [if_neg (not_not.2 hi)]
    exact h.modify (by rw [hi]; nofun) nofun (fun _ hcl' => absurd rfl hcl') nofun (fun _ => nofun)
  · rw [if_pos hi]
    exact h.remove (h.masked t hi hcl) nofun (fun _ hcl' => absurd rfl hcl') nofun (fun _ => nofun)

/-- The switch to the first thread of all. -/
lemma rtSystemSchedulerStart (h : Inv s) (hc : s.currentThread = none)
    (hr : (s.thread t).stat = .ready) : Inv (rtSystemSchedulerStart s t) where
  toQueue := by
    have h1 := h.toQueue.withCurrent (some t) s.lockNest
    have hm := h.masked t (by simp [hr]) (by simp [hr])
    exact h1.remove (f := fun th => { th with stat := .running, yield := false }) hm nofun
      fun _ _ => hm
  running t' ht' := by
    by_cases ht : t' = t
    · subst ht
      unfold Sched.rtSystemSchedulerStart
      rw [modify_currentThread, remove_currentThread]
    · unfold Sched.rtSystemSchedulerStart at ht'
      rw [modify_thread_of_ne ht, remove_thread] at ht'
      have := h.running t' ht'
      rw [hc] at this
      cases this
  current t' ht' := by
    unfold Sched.rtSystemSchedulerStart at ht' ⊢
    rw [modify_currentThread, remove_currentThread] at ht'
    obtain rfl := Option.some.inj ht'
    rw [modify_thread_same]
    exact ⟨nofun, nofun⟩

end Inv

/-- The state in which an action calls `rt_schedule`, if it does. -/
def beforeSchedule (s : SchedState Tid) : Action Tid → Option (SchedState Tid)
  | .resume t timerStop =>
    if (rtSchedThreadReady s t timerStop).2 = .eok then some (rtSchedThreadReady s t timerStop).1
    else none
  | .timeout t =>
    if (s.thread t).stat.isSuspended then some (rtSchedInsertThread (s.listRemove t) t) else none
  | .yield => s.currentThread.map (rtSchedThreadYield s)
  | .tickIncrease tick => s.currentThread.bind fun t =>
    let s := s.modify t fun th => { th with remainingTick := th.remainingTick - tick }
    if (s.thread t).remainingTick ≠ 0 then none else some (rtSchedThreadYield s t)
  | .schedule => s.currentThread.map fun _ => s
  | _ => none

/-- The states in which `rt_schedule` is called. -/
inductive CallState (s : SchedState Tid) : Action Tid → SchedState Tid → Prop
  | resume (t : Tid) (timerStop : RtErr) (hok : (rtSchedThreadReady s t timerStop).2 = .eok) :
    CallState s (.resume t timerStop) (rtSchedThreadReady s t timerStop).1
  | timeout (t : Tid) (hsus : (s.thread t).stat.isSuspended = true) :
    CallState s (.timeout t) (rtSchedInsertThread (s.listRemove t) t)
  | yield (c : Tid) (hc : s.currentThread = some c) : CallState s .yield (rtSchedThreadYield s c)
  | tickIncrease (c : Tid) (tick : ℕ) (hc : s.currentThread = some c)
    (hrem : (s.thread c).remainingTick - tick = 0) :
    CallState s (.tickIncrease tick) (rtSchedThreadYield
      (s.modify c fun th => { th with remainingTick := th.remainingTick - tick }) c)
  | schedule (c : Tid) (hc : s.currentThread = some c) : CallState s .schedule s

lemma callState_of_beforeSchedule {a : Action Tid} {s1 : SchedState Tid}
    (hs : beforeSchedule s a = some s1) : CallState s a s1 := by
  cases a with
  | resume t timerStop =>
    simp only [beforeSchedule] at hs
    split at hs
    · rename_i hok
      obtain rfl := Option.some.inj hs
      exact .resume t timerStop hok
    · cases hs
  | timeout t =>
    simp only [beforeSchedule] at hs
    split at hs
    · rename_i hsus
      obtain rfl := Option.some.inj hs
      exact .timeout t hsus
    · cases hs
  | yield =>
    simp only [beforeSchedule, Option.map_eq_some_iff] at hs
    obtain ⟨c, hc, rfl⟩ := hs
    exact .yield c hc
  | tickIncrease tick =>
    simp only [beforeSchedule, Option.bind_eq_some_iff] at hs
    obtain ⟨c, hc, hs⟩ := hs
    split at hs
    · cases hs
    · rename_i hrem
      obtain rfl := Option.some.inj hs
      rw [modify_thread_same, not_not] at hrem
      exact .tickIncrease c tick hc hrem
  | schedule =>
    simp only [beforeSchedule, Option.map_eq_some_iff] at hs
    obtain ⟨c, hc, rfl⟩ := hs
    exact .schedule c hc
  | startup | timerStart | suspend | changePriority | close | schedulerStart | enterCritical
  | exitCritical => cases hs

/-- A step that calls `rt_schedule` ends with it. -/
lemma step_of_beforeSchedule {a : Action Tid} {s1 : SchedState Tid}
    (hs : beforeSchedule s a = some s1) : step s a = some (rtSchedUnlockNResched s1) := by
  cases callState_of_beforeSchedule hs with
  | resume t timerStop hok => simp only [step, rtThreadResume, if_pos hok]
  | timeout t hsus => simp only [step, threadTimeout, if_pos hsus]
  | yield c hc => simp only [step, hc, Option.map_some, rtThreadYield]
  | tickIncrease c tick hc hrem =>
    simp only [step, hc, Option.map_some, rtSchedTickIncrease]
    rw [modify_thread_same, if_neg (not_not.2 hrem)]
  | schedule c hc => simp only [step, hc, Option.map_some, rtSchedUnlockNResched]

lemma Inv.beforeSchedule (h : Inv s) {a : Action Tid} {s1 : SchedState Tid}
    (hs : beforeSchedule s a = some s1) : Inv s1 := by
  cases callState_of_beforeSchedule hs with
  | resume t timerStop hok => exact h.rtSchedThreadReady timerStop
  | timeout t hsus => exact h.wakeUp hsus
  | yield c hc => exact h.rtSchedThreadYield
  | tickIncrease c tick hc hrem =>
    have h' := h.modify_rest (t := c)
      (f := fun th => { th with remainingTick := th.remainingTick - tick }) rfl rfl rfl
    exact h'.rtSchedThreadYield
  | schedule c hc => exact h

/-- What a step can do. -/
inductive Outcome (s : SchedState Tid) : Action Tid → SchedState Tid → Prop
  | startup (t : Tid) (hi : (s.thread t).stat = .init) :
    Outcome s (.startup t) (rtSchedThreadStartup s t)
  | resume (t : Tid) (timerStop : RtErr) :
    Outcome s (.resume t timerStop) (rtSchedThreadReady s t timerStop).1
  | timerStart (t : Tid) :
    Outcome s (.timerStart t) (s.modify t fun th => { th with ttmrSet := true })
  | suspend (t : Tid) (flag : SuspendFlag) :
    Outcome s (.suspend t flag) (rtThreadSuspendToList s t flag).1
  | tickIncrease (c : Tid) (tick : ℕ) :
    Outcome s (.tickIncrease tick)
      (s.modify c fun th => { th with remainingTick := th.remainingTick - tick })
  | changePriority (t : Tid) (priority : Fin 32) (updateInitPrio : Bool) :
    Outcome s (.changePriority t priority updateInitPrio)
      (rtSchedUpdatePriority s t priority updateInitPrio)
  | close (t : Tid) : Outcome s (.close t) (rtThreadClose s t)
  | schedulerStart (first : Tid) (hc : s.currentThread = none)
    (hg : s.readyPriorityGroup ≠ 0#32) (hfirst : s.highest.2 = some first) :
    Outcome s .schedulerStart (rtSystemSchedulerStart s first)
  | enterCritical : Outcome s .enterCritical { s with lockNest := s.lockNest + 1 }
  | exitCritical : Outcome s .exitCritical { s with lockNest := s.lockNest - 1 }
  | reschedule (a : Action Tid) (s1 : SchedState Tid) (hb : beforeSchedule s a = some s1) :
    Outcome s a (rtSchedUnlockNResched s1)

lemma step_outcome {a : Action Tid} {s' : SchedState Tid} (hs : step s a = some s') :
    Outcome s a s' := by
  rcases hb : beforeSchedule s a with _ | s1
  · cases a with
    | startup t =>
      simp only [step] at hs
      split at hs
      · rename_i hi
        obtain rfl := Option.some.inj hs
        exact .startup t hi
      · cases hs
    | resume t timerStop =>
      have herr : (rtSchedThreadReady s t timerStop).2 ≠ .eok := by
        intro hok
        simp [beforeSchedule, hok] at hb
      simp only [step, rtThreadResume, if_neg herr] at hs
      obtain rfl := Option.some.inj hs
      exact .resume t timerStop
    | timeout t =>
      simp only [step] at hs
      split at hs
      · rename_i hsus
        simp [beforeSchedule, hsus] at hb
      · cases hs
    | timerStart t =>
      obtain rfl := Option.some.inj hs
      exact .timerStart t
    | suspend t flag =>
      obtain rfl := Option.some.inj hs
      exact .suspend t flag
    | yield | schedule =>
      simp only [beforeSchedule, Option.map_eq_none_iff] at hb
      simp only [step, hb, Option.map_none] at hs
      cases hs
    | tickIncrease tick =>
      simp only [step, Option.map_eq_some_iff] at hs
      obtain ⟨c, hc, rfl⟩ := hs
      simp only [beforeSchedule, hc, Option.bind_some] at hb
      unfold rtSchedTickIncrease
      simp only
      split
      · exact .tickIncrease c tick
      · rename_i hrem
        rw [if_neg hrem] at hb
        cases hb
    | changePriority t priority updateInitPrio =>
      obtain rfl := Option.some.inj hs
      exact .changePriority t priority updateInitPrio
    | close t =>
      obtain rfl := Option.some.inj hs
      exact .close t
    | schedulerStart =>
      simp only [step] at hs
      split at hs
      · rename_i hg
        rw [Option.map_eq_some_iff] at hs
        obtain ⟨first, hfirst, rfl⟩ := hs
        exact .schedulerStart first hg.1 hg.2 hfirst
      · cases hs
    | enterCritical =>
      obtain rfl := Option.some.inj hs
      exact .enterCritical
    | exitCritical =>
      obtain rfl := Option.some.inj hs
      exact .exitCritical
  · rw [step_of_beforeSchedule hb] at hs
    obtain rfl := Option.some.inj hs
    exact .reschedule a s1 hb

/-- Every step keeps the invariant. -/
theorem inv_step {a : Action Tid} {s' : SchedState Tid} (h : Inv s) (hs : step s a = some s') :
    Inv s' := by
  cases step_outcome hs with
  | startup t hi => exact h.rtSchedThreadStartup hi
  | resume t timerStop => exact h.rtSchedThreadReady timerStop
  | timerStart t => exact h.modify_rest rfl rfl rfl
  | suspend t' flag => exact h.rtThreadSuspendToList flag
  | tickIncrease c tick => exact h.modify_rest rfl rfl rfl
  | changePriority t priority updateInitPrio => exact h.rtSchedUpdatePriority priority updateInitPrio
  | close t => exact h.rtThreadClose
  | schedulerStart first hc hg hfirst =>
    obtain ⟨first', hfirst', hr, -⟩ := h.highest_spec hg
    rw [hfirst] at hfirst'
    obtain rfl := Option.some.inj hfirst'
    exact h.rtSystemSchedulerStart hc hr
  | enterCritical => exact ⟨h.toQueue.withCurrent _ _, h.running, h.current⟩
  | exitCritical => exact ⟨h.toQueue.withCurrent _ _, h.running, h.current⟩
  | reschedule _ s1 hb => exact (h.beforeSchedule hb).rtSchedUnlockNResched

/-! ### The masks -/

/-- The priority of a thread and its mask. -/
def SchedState.prio (s : SchedState Tid) (t : Tid) : Fin 32 × BitVec 32 :=
  ((s.thread t).currentPriority, (s.thread t).numberMask)

section Prio

variable {u : Tid}

@[simp] lemma prio_modify (hf : ∀ th, (f th).currentPriority = th.currentPriority ∧
    (f th).numberMask = th.numberMask) : (s.modify t f).prio u = s.prio u := by
  unfold SchedState.prio
  by_cases hu : u = t
  · subst hu
    rw [modify_thread_same, (hf _).1, (hf _).2]
  · rw [modify_thread_of_ne hu]

lemma prio_of_ne (hu : u ≠ t) : (s.modify t f).prio u = s.prio u := by
  unfold SchedState.prio
  rw [modify_thread_of_ne hu]

lemma prio_listRemove : (s.listRemove t).prio u = s.prio u := rfl

@[simp] lemma prio_remove : (rtSchedRemoveThread s t).prio u = s.prio u := by
  unfold SchedState.prio
  rw [remove_thread]

@[simp] lemma prio_insert : (rtSchedInsertThread s t).prio u = s.prio u := by
  by_cases hc : s.currentThread = some t
  · rw [insert_current hc]
    exact prio_modify fun _ => ⟨rfl, rfl⟩
  · unfold SchedState.prio
    rw [insert_thread hc]
    exact prio_modify fun _ => ⟨rfl, rfl⟩

@[simp] lemma prio_switchTo (c first : Tid) (needInsert : Bool) :
    (switchTo s c first needInsert).prio u = s.prio u := by
  unfold switchTo
  simp only [prio_modify, prio_remove, and_self, implies_true]
  split
  · rw [prio_insert]
    rfl
  · rfl

lemma prio_rtSchedule (h : Inv s) {c : Tid} (hc : s.currentThread = some c) :
    (rtSchedule s c).prio u = s.prio u := by
  rcases rtSchedule_cases h hc with ⟨heq, -⟩ | ⟨first, -, -, ⟨heq, -⟩ | ⟨needInsert, heq, -⟩⟩
  · rw [heq]
  · rw [heq]
    simp
  · rw [heq, prio_switchTo]

lemma prio_rtSchedUnlockNResched (h : Inv s) : (rtSchedUnlockNResched s).prio u = s.prio u := by
  unfold rtSchedUnlockNResched
  split
  · rfl
  · rename_i c hc
    exact prio_rtSchedule h hc

lemma prio_rtSchedThreadReady (timerStop : RtErr) :
    (rtSchedThreadReady s t timerStop).1.prio u = s.prio u := by
  unfold rtSchedThreadReady
  by_cases hsus : (s.thread t).stat.isSuspended = true
  · rw [if_pos hsus]
    simp only
    generalize (if (s.thread t).ttmrSet = true then timerStop else .eok) = err
    split
    · rw [prio_insert, prio_listRemove]
      simp
    · simp
  · rw [if_neg hsus]

lemma prio_beforeSchedule {a : Action Tid} {s1 : SchedState Tid}
    (hs : beforeSchedule s a = some s1) : s1.prio u = s.prio u := by
  cases callState_of_beforeSchedule hs with
  | resume t timerStop hok => exact prio_rtSchedThreadReady timerStop
  | timeout t hsus => rw [prio_insert, prio_listRemove]
  | yield c hc => simp [rtSchedThreadYield]
  | tickIncrease c tick hc hrem => simp [rtSchedThreadYield]
  | schedule c hc => rfl

end Prio

/-- The actions that write the mask of a thread. -/
def Action.setsMask (t : Tid) : Action Tid → Bool
  | .startup t' => t' = t
  | .changePriority t' _ _ => t' = t
  | _ => false

/-- The other steps keep the mask and the priority. -/
lemma prio_step {a : Action Tid} {s' : SchedState Tid} (h : Inv s) (hs : step s a = some s')
    (ha : a.setsMask t = false) : s'.prio t = s.prio t := by
  cases step_outcome hs with
  | startup t' hi => exact prio_of_ne (Ne.symm (of_decide_eq_false ha))
  | resume t' timerStop => exact prio_rtSchedThreadReady timerStop
  | timerStart t' => simp
  | suspend t' flag =>
    unfold rtThreadSuspendToList
    split
    · simp
    · rfl
  | tickIncrease c tick => simp
  | changePriority t' priority updateInitPrio =>
    have ht : t ≠ t' := Ne.symm (of_decide_eq_false ha)
    unfold rtSchedUpdatePriority
    split
    · simp only [prio_insert]
      rw [prio_of_ne ht, prio_remove]
    · exact prio_of_ne ht
  | close t' =>
    unfold rtThreadClose
    split
    · rfl
    · simp only [prio_modify, and_self, implies_true]
      split
      · exact prio_remove
      · rfl
  | schedulerStart first hc hg hfirst =>
    unfold rtSystemSchedulerStart
    simp only [prio_modify, prio_remove, and_self, implies_true]
    rfl
  | enterCritical => rfl
  | exitCritical => rfl
  | reschedule _ s1 hb =>
    rw [prio_rtSchedUnlockNResched (h.beforeSchedule hb), prio_beforeSchedule hb]

lemma mask_of_setsMask {a : Action Tid} {s' : SchedState Tid} (hs : step s a = some s')
    (ha : a.setsMask t = true) : (s'.prio t).2 = maskOf (s'.prio t).1 := by
  cases a with
  | startup t' =>
    obtain rfl := of_decide_eq_true ha
    simp only [step] at hs
    split at hs
    · obtain rfl := Option.some.inj hs
      simp [rtSchedThreadStartup, SchedState.prio]
    · cases hs
  | changePriority t' priority updateInitPrio =>
    obtain rfl := of_decide_eq_true ha
    obtain rfl := Option.some.inj hs
    unfold rtSchedUpdatePriority
    split
    · simp only [prio_insert]
      simp [SchedState.prio, Thread.setPriority]
    · simp [SchedState.prio, Thread.setPriority]
  | _ => cases ha

/-- The mask of a thread after a run: the bit of its priority once an action has written it. -/
lemma mask_exec {s' : SchedState Tid} (as : List (Action Tid)) (h : Inv s)
    (hs : exec step s as = some s') :
    if as.any (Action.setsMask t) then (s'.prio t).2 = maskOf (s'.prio t).1
    else s'.prio t = s.prio t := by
  induction as generalizing s with
  | nil =>
    obtain rfl : s = s' := by simpa [exec] using hs
    exact rfl
  | cons a as ih =>
    rcases hstep : step s a with _ | s1
    · rw [exec_cons_none hstep] at hs
      cases hs
    · rw [exec_cons_some hstep] at hs
      have ih := ih (inv_step h hstep) hs
      rw [List.any_cons]
      by_cases has : as.any (Action.setsMask t) = true
      · rw [has, Bool.or_true, if_pos rfl]
        rw [if_pos has] at ih
        exact ih
      · rw [if_neg has] at ih
        rw [Bool.eq_false_of_not_eq_true has, Bool.or_false, ih]
        by_cases ha : a.setsMask t = true
        · rw [if_pos ha]
          exact mask_of_setsMask hstep ha
        · rw [if_neg ha]
          exact prio_step h hstep (Bool.eq_false_of_not_eq_true ha)

/-! ### Runs -/

omit [DecidableEq Tid] in
lemma inv_init (tick : Tid → ℕ) (priority : Tid → Fin 32) :
    Inv (SchedState.init tick priority) where
  bit_iff p := by simp [SchedState.init]
  mem_iff t p := by simp [SchedState.init, rtSchedThreadInit]
  nodup p := List.nodup_nil
  masked t hi := absurd rfl hi
  running t ht := by cases ht
  current t ht := by cases ht

/-- In every state of every run the bitmap has the bits of the lists that are not empty, a thread is
in the list of its priority once if it is ready and in none else, and its mask is the bit of its
priority from the time it is started up or its priority is changed.  Where an action calls
`rt_schedule` and the scheduler is not locked, it selects a most urgent one of the ready threads and
the current thread, if that is running. -/
theorem readyQueue_of_run (tick : Tid → ℕ) (priority : Tid → Fin 32) (as : List (Action Tid))
    {s : SchedState Tid} (hs : exec step (SchedState.init tick priority) as = some s) :
    (∀ p : Fin 32, s.readyPriorityGroup.getLsbD p = true ↔ s.priorityTable p ≠ []) ∧
    (∀ t p, (s.priorityTable p).count t =
      if (s.thread t).stat = .ready ∧ (s.thread t).currentPriority = p then 1 else 0) ∧
    (∀ t, (s.thread t).numberMask =
      if as.any (Action.setsMask t) then maskOf (s.thread t).currentPriority else 0#32) ∧
    ∀ a s1 c, beforeSchedule s a = some s1 → s1.currentThread = some c → s1.lockNest = 0 →
      (∃ t, s1.Candidate t) → Selects s1 c := by
  have h : Inv s := exec_inv (fun _ _ _ => inv_step) as _ s (inv_init tick priority) hs
  refine ⟨h.bit_iff, fun t p => ?_, fun t => ?_, fun a s1 c hb hc hlock hex => ?_⟩
  · by_cases ht : (s.thread t).stat = .ready ∧ (s.thread t).currentPriority = p
    · rw [if_pos ht]
      exact List.count_eq_one_of_mem (h.nodup p) ((h.mem_iff t p).2 ht)
    · rw [if_neg ht]
      exact List.count_eq_zero_of_not_mem fun hmem => ht ((h.mem_iff t p).1 hmem)
  · have hm := mask_exec (t := t) as (inv_init tick priority) hs
    by_cases has : as.any (Action.setsMask t) = true
    · rw [if_pos has] at hm ⊢
      exact hm
    · rw [if_neg has] at hm ⊢
      exact congrArg Prod.snd hm
  · exact (h.beforeSchedule hb).selects hc hlock hex

section Two

/-- Two threads, of the priorities 5 and 10, are started up and the scheduler is started. -/
def twoThreads : List (Action (Fin 2)) :=
  [.startup 0, .resume 0 .eok, .startup 1, .resume 1 .eok, .schedulerStart]

/-- The priorities of the two threads. -/
def twoPriorities (t : Fin 2) : Fin 32 := ⟨5 * (t.val + 1), by omega⟩

theorem readyQueue_of_run_two : ∃ s : SchedState (Fin 2),
    exec step (SchedState.init (fun _ => 10) twoPriorities) (twoThreads ++ [.suspend 0 .killable]) =
      some s ∧
    s.currentThread = some 0 ∧ s.readyPriorityGroup = 0x400#32 ∧
    (∀ p : Fin 32, s.readyPriorityGroup.getLsbD p = true ↔ s.priorityTable p ≠ []) ∧
    Selects s 0 := by
  have h : (exec step (SchedState.init (fun _ => 10) twoPriorities)
      (twoThreads ++ [.suspend 0 .killable])).map (fun s =>
        (s.currentThread, s.readyPriorityGroup, s.lockNest, (s.thread 1).stat)) =
      some (some 0, 0x400#32, 0, .ready) := by
    decide +kernel
  obtain ⟨s, hs, h⟩ := Option.map_eq_some_iff.1 h
  simp only [Prod.mk.injEq] at h
  obtain ⟨hc, hg, hlock, hr⟩ := h
  obtain ⟨hbit, -, -, hsel⟩ := readyQueue_of_run _ _ _ hs
  refine ⟨s, hs, hc, hg, hbit, hsel .schedule s 0 ?_ hc hlock ⟨1, .inl hr⟩⟩
  simp [beforeSchedule, hc]

/-- A thread that was only initialised has no mask, and a current thread that has suspended itself
gives way to a less urgent one. -/
theorem readyQueue_fails :
    ((SchedState.init (fun _ => 10) twoPriorities).thread 0).numberMask ≠
      maskOf ((SchedState.init (fun _ => 10) twoPriorities).thread 0).currentPriority ∧
    (exec step (SchedState.init (fun _ => 10) twoPriorities)
      (twoThreads ++ [.suspend 0 .killable])).map (fun s =>
        (s.currentThread, (rtSchedule s 0).currentThread, (s.thread 0).currentPriority,
          (s.thread 1).currentPriority)) = some (some 0, some 1, 5, 10) := by
  decide +kernel

end Two

end N32L43x.Sched
