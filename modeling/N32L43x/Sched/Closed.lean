import N32L43x.Sched.Look

/-!
Closed threads under the steps of the scheduler: no step but the close itself closes a thread or opens one
again, a closed thread is not switched to, and with the scheduler locked nothing is.
-/

namespace N32L43x.Sched

variable {Tid : Type} {s s' s₁ : SchedState Tid} {t c : Tid} {a : Action Tid}

def SchedState.Closed (s : SchedState Tid) (t : Tid) : Prop := (s.thread t).stat = .close

/-- The same threads are closed. -/
def SameClosed (s s' : SchedState Tid) : Prop := ∀ t, s'.Closed t ↔ s.Closed t

lemma closed_iff_life : s.Closed t ↔ (s.look t).life = .closed := by
  unfold SchedState.Closed SchedState.look Thread.look
  cases (s.thread t).stat <;> simp [ThreadStat.life]

lemma sameClosed_of_look (h : s'.look = s.look) : SameClosed s s' := by
  intro u
  rw [closed_iff_life, closed_iff_life, h]

lemma SameClosed.trans (h : SameClosed s s₁) (h' : SameClosed s₁ s') : SameClosed s s' :=
  fun u => (h' u).trans (h u)

variable [DecidableEq Tid]

/-- A thread that is not closed is written, and is not closed then. -/
lemma sameClosed_update {x : Look} (h : s'.look = Function.update s.look t x) (hopen : ¬ s.Closed t)
    (hx : x.life ≠ .closed) : SameClosed s s' := by
  intro u
  rw [closed_iff_life, closed_iff_life, h]
  by_cases hu : u = t
  · subst hu
    rw [Function.update_self]
    exact iff_of_false hx fun hc => hopen (closed_iff_life.mpr hc)
  · rw [Function.update_of_ne hu]

/-- A write to other fields. -/
lemma sameClosed_modify_rest {f : Thread → Thread} (hf : (f (s.thread t)).stat = (s.thread t).stat) :
    SameClosed s (s.modify t f) := by
  intro u
  unfold SchedState.Closed
  by_cases hu : u = t
  · subst hu
    rw [modify_thread_same, hf]
  · rw [modify_thread_of_ne hu]

omit [DecidableEq Tid] in
lemma not_closed_of_isSuspended (h : (s.thread t).stat.isSuspended = true) : ¬ s.Closed t := by
  intro hc
  rw [hc] at h
  cases h

lemma sameClosed_rtSchedThreadReady (timerStop : RtErr) :
    SameClosed s (rtSchedThreadReady s t timerStop).1 := by
  unfold rtSchedThreadReady
  split
  case isFalse => exact fun _ => Iff.rfl
  case isTrue hsus =>
    simp only
    generalize (if (s.thread t).ttmrSet = true then timerStop else .eok) = err
    have hmod : SameClosed s (s.modify t fun th => { th with ttmrSet := false }) := sameClosed_modify_rest rfl
    split
    · refine hmod.trans (sameClosed_update look_insert ?_ (by simp))
      intro hc
      exact not_closed_of_isSuspended hsus ((hmod t).mp hc)
    · exact hmod

lemma sameClosed_modify {f : Thread → Thread} (hopen : ¬ s.Closed t) (hf : (f (s.thread t)).stat ≠ .close) :
    SameClosed s (s.modify t f) := by
  refine sameClosed_update look_modify hopen fun hc => hf ?_
  revert hc
  unfold Thread.look
  cases (f (s.thread t)).stat <;> simp [ThreadStat.life]

/-- Up to the call of `rt_schedule`. -/
lemma sameClosed_beforeSchedule (hs : beforeSchedule s a = some s₁) : SameClosed s s₁ := by
  cases callState_of_beforeSchedule hs with
  | resume t timerStop => exact sameClosed_rtSchedThreadReady timerStop
  | timeout t hsus =>
    exact sameClosed_update look_insert (not_closed_of_isSuspended hsus) (by simp)
  | yield c => exact sameClosed_of_look (look_modify_of_eq rfl)
  | tickIncrease c tick =>
    refine sameClosed_of_look ?_
    unfold rtSchedThreadYield
    rw [look_modify_of_eq rfl, look_modify_of_eq rfl]
  | schedule => exact fun _ => Iff.rfl

/-- **A thread is closed by its close alone**, and stays closed. -/
theorem sameClosed_step (h : Inv s) (ha : ∀ t, a ≠ .close t) (hs : step s a = some s') : SameClosed s s' := by
  cases step_outcome hs with
  | startup t hi =>
    refine sameClosed_modify (fun hc => ?_) (by simp)
    cases hi.symm.trans hc
  | resume t timerStop => exact sameClosed_rtSchedThreadReady timerStop
  | timerStart t => exact sameClosed_modify_rest rfl
  | suspend t flag =>
    unfold rtThreadSuspendToList
    split
    case isFalse => exact fun _ => Iff.rfl
    case isTrue hlive =>
      have hopen : ¬ s.Closed t := by
        intro hc
        rcases hlive with hlive | hlive <;> cases hlive.symm.trans hc
      have hremove : SameClosed s (rtSchedRemoveThread s t) := sameClosed_of_look look_remove
      have hsuspend := sameClosed_modify (f := fun th => { th with stat := .suspend flag })
        (fun hc => hopen ((hremove t).mp hc)) (by simp)
      dsimp only
      exact (hremove.trans hsuspend).trans (sameClosed_modify_rest rfl)
  | tickIncrease c tick => exact sameClosed_of_look (look_modify_of_eq rfl)
  | changePriority t priority updateInitPrio =>
    intro u
    rw [closed_iff_life, closed_iff_life, look_rtSchedUpdatePriority]
    by_cases hu : u = t
    · subst hu
      rw [Function.update_self]
    · rw [Function.update_of_ne hu]
  | close t => exact absurd rfl (ha t)
  | schedulerStart first hc hg hfirst =>
    obtain ⟨first', hfirst', hready, -⟩ := h.highest_spec hg
    obtain rfl := Option.some.inj (hfirst.symm.trans hfirst')
    have hremove : SameClosed s (rtSchedRemoveThread { s with currentThread := some first } first) :=
      sameClosed_of_look look_remove
    have hrun : ∀ th : Thread, { th with stat := .running, yield := false }.stat ≠ .close :=
      fun _ he => by cases he
    unfold rtSystemSchedulerStart
    refine hremove.trans (sameClosed_modify (fun hc' => ?_) (hrun _))
    cases hready.symm.trans ((hremove first).mp hc')
  | enterCritical => exact fun _ => Iff.rfl
  | exitCritical => exact fun _ => Iff.rfl
  | reschedule _ s₁ hb =>
    exact (sameClosed_beforeSchedule hb).trans
      (sameClosed_of_look (look_rtSchedUnlockNResched (h.beforeSchedule hb)))

lemma sameCpu_beforeSchedule (hs : beforeSchedule s a = some s₁) : SameCpu s s₁ := by
  cases callState_of_beforeSchedule hs with
  | resume t timerStop => exact sameCpu_rtSchedThreadReady timerStop
  | timeout t => exact ⟨insert_currentThread, insert_lockNest⟩
  | yield c => exact ⟨rfl, rfl⟩
  | tickIncrease c tick => exact ⟨rfl, rfl⟩
  | schedule => exact ⟨rfl, rfl⟩

/-- `rt_schedule` goes on with the thread or switches to one that is ready. -/
lemma current_rtSchedUnlockNResched (h : Inv s) (ht : (rtSchedUnlockNResched s).currentThread = some t) :
    s.currentThread = some t ∨ (s.thread t).stat = .ready := by
  unfold rtSchedUnlockNResched at ht
  split at ht
  · exact .inl ht
  · rename_i c hc
    rcases rtSchedule_cases h hc with ⟨heq, -⟩ | ⟨first, hready, -, ⟨heq, -⟩ | ⟨needInsert, heq, -⟩⟩
    · rw [heq] at ht
      exact .inl ht
    · rw [heq] at ht
      exact .inl (by simpa using ht)
    · rw [heq, switchTo_currentThread] at ht
      obtain rfl := Option.some.inj ht
      exact .inr hready

/-- **A closed thread is not switched to.** -/
theorem current_step (h : Inv s) (hs : step s a = some s') (ht : s'.currentThread = some t) :
    s.currentThread = some t ∨ ¬ s.Closed t := by
  cases step_outcome hs with
  | startup t' => exact .inl ht
  | resume t' timerStop => exact .inl ((sameCpu_rtSchedThreadReady timerStop).1.symm.trans ht)
  | timerStart t' => exact .inl ht
  | suspend t' flag => exact .inl ((sameCpu_rtThreadSuspendToList flag).1.symm.trans ht)
  | tickIncrease c tick => exact .inl ht
  | changePriority t' p u => exact .inl ((sameCpu_rtSchedUpdatePriority p u).1.symm.trans ht)
  | close t' => exact .inl (sameCpu_rtThreadClose.1.symm.trans ht)
  | schedulerStart first hc hg hfirst =>
    obtain ⟨first', hfirst', hready, -⟩ := h.highest_spec hg
    obtain rfl := Option.some.inj (hfirst.symm.trans hfirst')
    unfold rtSystemSchedulerStart at ht
    simp only [modify_currentThread, remove_currentThread] at ht
    obtain rfl := Option.some.inj ht
    exact .inr fun hc' => by cases hready.symm.trans hc'
  | enterCritical => exact .inl ht
  | exitCritical => exact .inl ht
  | reschedule _ s₁ hb =>
    rcases current_rtSchedUnlockNResched (h.beforeSchedule hb) ht with ht | hready
    · exact .inl ((sameCpu_beforeSchedule hb).1.symm.trans ht)
    · refine .inr fun hc => ?_
      cases hready.symm.trans ((sameClosed_beforeSchedule hb t).mpr hc)

/-- **With the scheduler locked the running thread goes on.** -/
theorem locked_step (hlock : 0 < s.lockNest) (hc : s.currentThread = some c) (ha : a ≠ .exitCritical)
    (hs : step s a = some s') : s'.currentThread = some c ∧ 0 < s'.lockNest := by
  have hsame : SameCpu s s' → s'.currentThread = some c ∧ 0 < s'.lockNest := by
    rintro ⟨hcur, hnest⟩
    exact ⟨hcur.trans hc, by omega⟩
  cases step_outcome hs with
  | startup t => exact ⟨hc, hlock⟩
  | resume t timerStop => exact hsame (sameCpu_rtSchedThreadReady timerStop)
  | timerStart t => exact ⟨hc, hlock⟩
  | suspend t flag => exact hsame (sameCpu_rtThreadSuspendToList flag)
  | tickIncrease c tick => exact ⟨hc, hlock⟩
  | changePriority t p u => exact hsame (sameCpu_rtSchedUpdatePriority p u)
  | close t => exact hsame sameCpu_rtThreadClose
  | schedulerStart first hnone => cases hc.symm.trans hnone
  | enterCritical => exact ⟨hc, Nat.succ_pos _⟩
  | exitCritical => exact absurd rfl ha
  | reschedule _ s₁ hb =>
    have hcpu := sameCpu_beforeSchedule hb
    have hlock' : 0 < s₁.lockNest := by rw [hcpu.2]; exact hlock
    have hsched := rtSchedUnlockNResched_of_locked hlock'
    exact hsame (hsched.symm ▸ hcpu)

end N32L43x.Sched
