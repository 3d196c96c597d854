import N32L43x.Sched.Look

/-!
The slices: every thread always has something left of its slice, and only a thread that runs is about to give
way.
-/

namespace N32L43x.Sched

variable {Tid : Type} [DecidableEq Tid]

/-! ### The slices -/

variable {s s' s₁ : SchedState Tid} {t u c : Tid} {f : Thread → Thread}

/-- The slices are what they were. -/
def SameTicks (s s' : SchedState Tid) : Prop :=
  ∀ u, (s'.thread u).remainingTick = (s.thread u).remainingTick ∧ (s'.thread u).initTick = (s.thread u).initTick

omit [DecidableEq Tid] in
lemma SameTicks.trans (h : SameTicks s s₁) (h' : SameTicks s₁ s') : SameTicks s s' :=
  fun u => ⟨(h' u).1.trans (h u).1, (h' u).2.trans (h u).2⟩

lemma sameTicks_modify (hr : (f (s.thread t)).remainingTick = (s.thread t).remainingTick)
    (hi : (f (s.thread t)).initTick = (s.thread t).initTick) : SameTicks s (s.modify t f) := by
  intro u
  by_cases hu : u = t
  · subst hu
    rw [modify_thread_same]
    exact ⟨hr, hi⟩
  · rw [modify_thread_of_ne hu]
    exact ⟨rfl, rfl⟩

lemma sameTicks_remove : SameTicks s (rtSchedRemoveThread s t) := by
  intro u
  rw [remove_thread]
  exact ⟨rfl, rfl⟩

lemma sameTicks_insert : SameTicks s (rtSchedInsertThread s t) := by
  by_cases hc : s.currentThread = some t
  · rw [insert_current hc]
    exact sameTicks_modify rfl rfl
  · intro u
    have hmod := sameTicks_modify (s := s) (t := t) (f := fun th => { th with stat := .ready }) rfl rfl u
    rwa [← insert_thread hc] at hmod

lemma sameTicks_switchTo {first : Tid} {needInsert : Bool} : SameTicks s (switchTo s c first needInsert) := by
  have hinsert : SameTicks s (if needInsert then rtSchedInsertThread { s with currentThread := some first } c
      else { s with currentThread := some first }) := by
    have hcur : SameTicks s { s with currentThread := some first } := fun _ => ⟨rfl, rfl⟩
    split
    · exact hcur.trans sameTicks_insert
    · exact hcur
  unfold switchTo
  exact ((hinsert.trans (sameTicks_modify rfl rfl)).trans sameTicks_remove).trans (sameTicks_modify rfl rfl)

lemma sameTicks_rtSchedThreadReady (timerStop : RtErr) : SameTicks s (rtSchedThreadReady s t timerStop).1 := by
  unfold rtSchedThreadReady
  split
  · simp only
    generalize (if (s.thread t).ttmrSet = true then timerStop else .eok) = err
    have hmod : SameTicks s (s.modify t fun th => { th with ttmrSet := false }) := sameTicks_modify rfl rfl
    split
    · exact hmod.trans sameTicks_insert
    · exact hmod
  · exact fun _ => ⟨rfl, rfl⟩

lemma sameTicks_rtSchedUpdatePriority (priority : Fin 32) (updateInitPrio : Bool) :
    SameTicks s (rtSchedUpdatePriority s t priority updateInitPrio) := by
  unfold rtSchedUpdatePriority
  split
  · exact (sameTicks_remove.trans (sameTicks_modify rfl rfl)).trans sameTicks_insert
  · exact sameTicks_modify rfl rfl

lemma sameTicks_rtThreadClose : SameTicks s (rtThreadClose s t) := by
  unfold rtThreadClose
  split
  · exact fun _ => ⟨rfl, rfl⟩
  · dsimp only
    split
    · exact sameTicks_remove.trans (sameTicks_modify rfl rfl)
    · exact sameTicks_modify rfl rfl

lemma sameTicks_rtSchedule (h : Inv s) (hc : s.currentThread = some c) : SameTicks s (rtSchedule s c) := by
  rcases rtSchedule_cases h hc with ⟨heq, -⟩ | ⟨first, -, -, ⟨heq, -⟩ | ⟨needInsert, heq, -⟩⟩
  · rw [heq]
    exact fun _ => ⟨rfl, rfl⟩
  · rw [heq]
    exact sameTicks_remove.trans (sameTicks_modify rfl rfl)
  · rw [heq]
    exact sameTicks_switchTo

lemma sameTicks_rtSchedUnlockNResched (h : Inv s) : SameTicks s (rtSchedUnlockNResched s) := by
  unfold rtSchedUnlockNResched
  split
  · exact fun _ => ⟨rfl, rfl⟩
  · rename_i c hc
    exact sameTicks_rtSchedule h hc

/-- Every thread has something left, and gets something anew. -/
def SchedState.Full (s : SchedState Tid) : Prop :=
  ∀ u, 0 < (s.thread u).remainingTick ∧ 0 < (s.thread u).initTick

omit [DecidableEq Tid] in
lemma SchedState.Full.congr (h : s.Full) (hs : SameTicks s s') : s'.Full := by
  intro u
  rw [(hs u).1, (hs u).2]
  exact h u

/-- A thread gets a slice anew. -/
lemma SchedState.Full.yield (h : ∀ u, 0 < (s.thread u).initTick)
    (hc : ∀ u, u ≠ c → 0 < (s.thread u).remainingTick) : (rtSchedThreadYield s c).Full := by
  intro u
  unfold rtSchedThreadYield
  by_cases hu : u = c
  · subst hu
    rw [modify_thread_same]
    exact ⟨h u, h u⟩
  · rw [modify_thread_of_ne hu]
    exact ⟨hc u hu, h u⟩

/-- What a tick does. -/
lemma tickIncrease_cases {tick : ℕ} (hs : step s (.tickIncrease tick) = some s') :
    ∃ c, s.currentThread = some c ∧
      ((s.thread c).remainingTick - tick ≠ 0 ∧
          s' = (s.modify c fun th => { th with remainingTick := th.remainingTick - tick }) ∨
        (s.thread c).remainingTick - tick = 0 ∧ s' = rtSchedUnlockNResched (rtSchedThreadYield
          (s.modify c fun th => { th with remainingTick := th.remainingTick - tick }) c)) := by
  obtain ⟨c, hc, rfl⟩ := Option.map_eq_some_iff.mp hs
  refine ⟨c, hc, ?_⟩
  unfold rtSchedTickIncrease
  dsimp only
  rw [modify_thread_same]
  by_cases hrem : (s.thread c).remainingTick - tick ≠ 0
  · rw [if_pos hrem]
    exact .inl ⟨hrem, rfl⟩
  · rw [if_neg hrem]
    exact .inr ⟨not_not.mp hrem, rfl⟩

lemma SchedState.Full.tick (h : s.Full) (hinv : Inv s) {tick : ℕ}
    (hs : Sched.step s (.tickIncrease tick) = some s') : s'.Full := by
  obtain ⟨c, -, ⟨hrem, rfl⟩ | ⟨-, rfl⟩⟩ := tickIncrease_cases hs
  · intro u
    by_cases hu : u = c
    · subst hu
      rw [modify_thread_same]
      exact ⟨Nat.pos_of_ne_zero hrem, (h u).2⟩
    · rw [modify_thread_of_ne hu]
      exact h u
  · have hinv' : Inv (rtSchedThreadYield
        (s.modify c fun th => { th with remainingTick := th.remainingTick - tick }) c) :=
      (hinv.modify_rest rfl rfl rfl).rtSchedThreadYield
    refine SchedState.Full.congr (.yield (fun u => ?_) fun u hu => ?_) (sameTicks_rtSchedUnlockNResched hinv')
    · by_cases hu : u = c
      · subst hu
        rw [modify_thread_same]
        exact (h u).2
      · rw [modify_thread_of_ne hu]
        exact (h u).2
    · rw [modify_thread_of_ne hu]
      exact (h u).1

lemma SchedState.Full.step {a : Action Tid} (h : s.Full) (hinv : Inv s) (hs : Sched.step s a = some s') :
    s'.Full := by
  cases step_outcome hs with
  | startup t => exact h.congr (sameTicks_modify rfl rfl)
  | resume t timerStop => exact h.congr (sameTicks_rtSchedThreadReady timerStop)
  | timerStart t => exact h.congr (sameTicks_modify rfl rfl)
  | suspend t flag =>
    unfold rtThreadSuspendToList
    split
    · dsimp only
      exact h.congr ((sameTicks_remove.trans (sameTicks_modify rfl rfl)).trans (sameTicks_modify rfl rfl))
    · exact h
  | tickIncrease c tick => exact h.tick hinv hs
  | changePriority t priority updateInitPrio =>
    exact h.congr (sameTicks_rtSchedUpdatePriority priority updateInitPrio)
  | close t => exact h.congr sameTicks_rtThreadClose
  | schedulerStart first =>
    have hcur : SameTicks s { s with currentThread := some first } := fun _ => ⟨rfl, rfl⟩
    unfold rtSystemSchedulerStart
    exact h.congr ((hcur.trans sameTicks_remove).trans (sameTicks_modify rfl rfl))
  | enterCritical => exact h
  | exitCritical => exact h
  | reschedule _ s₁ hb =>
    have hsched := sameTicks_rtSchedUnlockNResched (hinv.beforeSchedule hb)
    cases callState_of_beforeSchedule hb with
    | resume t timerStop => exact (h.congr (sameTicks_rtSchedThreadReady timerStop)).congr hsched
    | timeout t =>
      have hlist : SameTicks s (s.listRemove t) := fun _ => ⟨rfl, rfl⟩
      exact (h.congr (hlist.trans sameTicks_insert)).congr hsched
    | yield c => exact SchedState.Full.congr (.yield (fun u => (h u).2) fun u _ => (h u).1) hsched
    | tickIncrease c tick => exact h.tick hinv hs
    | schedule => exact h.congr hsched

/-! ### Who is about to give way -/

/-- Only a thread that runs is about to give way. -/
def SchedState.Flagged (s : SchedState Tid) : Prop :=
  ∀ u, (s.thread u).yield = true → (s.thread u).stat = .running

/-- The thread that `rt_schedule` switches to is the first of its list. -/
lemma rtSchedule_first (h : Inv s) (hc : s.currentThread = some c) :
    rtSchedule s c = s ∨
    (rtSchedule s c = (rtSchedRemoveThread s c).modify c (fun th => { th with stat := .running }) ∧
      (s.thread c).stat = .running) ∨
    ∃ first rest needInsert, s.priorityTable (s.thread first).currentPriority = first :: rest ∧
      (s.thread first).stat = .ready ∧ rtSchedule s c = switchTo s c first needInsert ∧
      ((s.thread c).stat = .running ↔ needInsert = true) := by
  by_cases hg : s.lockNest = 0 ∧ s.readyPriorityGroup ≠ 0#32
  · obtain ⟨first, hfirst, hr, hprio, -⟩ := h.highest_spec hg.2
    have hne : first ≠ c := by
      rintro rfl
      exact (h.current first hc).1 hr
    have hhead : (s.priorityTable (s.thread first).currentPriority).head? = some first := by
      rw [hprio]
      exact hfirst
    obtain ⟨rest, hrest⟩ := List.head?_eq_some_iff.mp hhead
    unfold rtSchedule
    rw [if_pos hg, show s.highest = (s.highest.1, some first) from Prod.ext rfl hfirst, ← hprio]
    simp only
    rcases choose_spec (s := s) c first (s.thread first).currentPriority with
      (⟨hch, hrun, -⟩ | ⟨hch, hrun, -⟩) | ⟨hch, hrun⟩
    · rw [hch]
      exact .inr (.inl ⟨if_neg (not_not.2 rfl), hrun⟩)
    · rw [hch]
      exact .inr (.inr ⟨first, rest, true, hrest, hr, if_pos hne, iff_of_true hrun rfl⟩)
    · rw [hch]
      exact .inr (.inr ⟨first, rest, false, hrest, hr, if_pos hne, iff_of_false hrun nofun⟩)
  · refine .inl ?_
    unfold rtSchedule
    rw [if_neg hg]

variable (s) in
/-- The two threads of a switch. -/
lemma switchTo_threads {first : Tid} (needInsert : Bool) (hcf : first ≠ c) :
    (switchTo s c first needInsert).thread first = { s.thread first with stat := .running } ∧
      (switchTo s c first needInsert).thread c =
        { s.thread c with stat := if needInsert then .ready else (s.thread c).stat, yield := false } := by
  have hne : ({ s with currentThread := some first } : SchedState Tid).currentThread ≠ some c := by
    simpa using hcf
  unfold switchTo
  dsimp only
  rw [modify_thread_same, modify_thread_of_ne (Ne.symm hcf), remove_thread, modify_thread_same,
    modify_thread_of_ne hcf]
  cases needInsert
  · exact ⟨rfl, rfl⟩
  · rw [if_pos rfl, if_pos rfl, insert_thread hne, modify_thread_of_ne hcf, modify_thread_same]
    exact ⟨rfl, rfl⟩

lemma SchedState.Flagged.modify (h : s.Flagged)
    (ht : (f (s.thread t)).yield = true → (f (s.thread t)).stat = .running) : (s.modify t f).Flagged :=
  forall_modify (P := fun _ th => th.yield = true → th.stat = .running) h ht

lemma SchedState.Flagged.insert (h : s.Flagged) (ht : (s.thread t).yield = false) :
    (rtSchedInsertThread s t).Flagged := by
  have hmod : (s.modify t fun th => { th with stat := .ready }).Flagged :=
    h.modify fun hy => by cases ht.symm.trans hy
  by_cases hc : s.currentThread = some t
  · rw [insert_current hc]
    exact h.modify fun hy => by cases ht.symm.trans hy
  · unfold SchedState.Flagged
    rw [insert_thread hc]
    exact hmod

lemma SchedState.Flagged.remove (h : s.Flagged) : (rtSchedRemoveThread s t).Flagged := by
  unfold SchedState.Flagged
  rw [remove_thread]
  exact h

lemma SchedState.Flagged.resched (h : s.Flagged) (hinv : Inv s) : (rtSchedUnlockNResched s).Flagged := by
  unfold rtSchedUnlockNResched
  split
  · exact h
  rename_i c hc
  rcases rtSchedule_first hinv hc with heq | ⟨heq, hrun⟩ | ⟨first, rest, needInsert, -, hready, heq, -⟩
  · rw [heq]
    exact h
  · rw [heq]
    exact h.remove.modify fun _ => rfl
  · have hcf : first ≠ c := by
      rintro rfl
      exact (hinv.current first hc).1 hready
    obtain ⟨hthreadFirst, hthreadC⟩ := switchTo_threads s needInsert hcf
    rw [heq]
    intro u
    by_cases huf : u = first
    · subst huf
      rw [hthreadFirst]
      exact fun _ => rfl
    · by_cases huc : u = c
      · subst huc
        rw [hthreadC]
        exact fun hy => by cases hy
      · rw [switchTo_thread_of_ne huf huc]
        exact h u

lemma SchedState.Flagged.rtSchedThreadReady (h : s.Flagged) (timerStop : RtErr) :
    (rtSchedThreadReady s t timerStop).1.Flagged := by
  unfold Sched.rtSchedThreadReady
  split
  case isFalse => exact h
  case isTrue hsus =>
    dsimp only
    generalize (if (s.thread t).ttmrSet = true then timerStop else .eok) = err
    have hmod : (s.modify t fun th => { th with ttmrSet := false }).Flagged := h.modify (h t)
    have hyield : (s.thread t).yield = false := by
      refine Bool.eq_false_iff.mpr fun hy => ?_
      rw [h t hy] at hsus
      cases hsus
    split
    · refine SchedState.Flagged.insert (s := (s.modify t _).listRemove t) hmod ?_
      show ((s.modify t fun th => { th with ttmrSet := false }).thread t).yield = false
      rw [modify_thread_same]
      exact hyield
    · exact hmod

/-- A thread suspends itself, and no slice ends while the thread is about to sleep. -/
def Tidy (s : SchedState Tid) : Action Tid → Prop
  | .suspend u _ => s.currentThread = some u ∧ (s.thread u).yield = false
  | .yield => ∀ c, s.currentThread = some c → (s.thread c).stat = .running
  | .tickIncrease tick => ∀ c, s.currentThread = some c →
    (s.thread c).stat = .running ∨ tick < (s.thread c).remainingTick
  | _ => True

lemma SchedState.Flagged.rtSchedUpdatePriority (h : s.Flagged) (priority : Fin 32) (updateInitPrio : Bool) :
    (rtSchedUpdatePriority s t priority updateInitPrio).Flagged := by
  unfold Sched.rtSchedUpdatePriority
  split
  · have hset : ((rtSchedRemoveThread s t).modify t fun th =>
        { th.setPriority priority updateInitPrio with stat := .init, yield := false }).Flagged :=
      h.remove.modify fun hy => by cases hy
    exact hset.insert (by rw [modify_thread_same])
  · exact h.modify (h t)

lemma SchedState.Flagged.rtThreadClose (h : s.Flagged) : (rtThreadClose s t).Flagged := by
  unfold Sched.rtThreadClose
  split
  · exact h
  · dsimp only
    split
    · exact h.remove.modify fun hy => by cases hy
    · exact h.modify fun hy => by cases hy

/-- In a tidy step only a thread that runs comes to be about to give way. -/
lemma SchedState.Flagged.step {a : Action Tid} (h : s.Flagged) (hinv : Inv s) (hC : Tidy s a)
    (hs : Sched.step s a = some s') : s'.Flagged := by
  cases a with
  | startup u =>
    simp only [Sched.step] at hs
    split at hs
    · obtain rfl := Option.some.inj hs
      exact h.modify fun hy => by cases hy
    · cases hs
  | resume u timerStop =>
    obtain rfl := Option.some.inj hs
    have h' := h.rtSchedThreadReady timerStop (t := u)
    unfold rtThreadResume
    dsimp only
    split
    · exact h'.resched (hinv.rtSchedThreadReady timerStop)
    · exact h'
  | timeout u =>
    simp only [Sched.step] at hs
    split at hs
    case isFalse => cases hs
    case isTrue hsus =>
      obtain rfl := Option.some.inj hs
      have hyield : (s.thread u).yield = false := by
        refine Bool.eq_false_iff.mpr fun hy => ?_
        rw [h u hy] at hsus
        cases hsus
      exact (SchedState.Flagged.insert (s := s.listRemove u) h hyield).resched (hinv.wakeUp hsus)
  | timerStart u =>
    obtain rfl := Option.some.inj hs
    exact h.modify (h u)
  | suspend u flag =>
    obtain rfl := Option.some.inj hs
    unfold rtThreadSuspendToList
    split
    · have hsuspend : ((rtSchedRemoveThread s u).modify u fun th => { th with stat := .suspend flag }).Flagged := by
        refine h.remove.modify fun hy => ?_
        rw [remove_thread] at hy
        cases hC.2.symm.trans hy
      dsimp only
      exact hsuspend.modify (hsuspend u)
    · exact h
  | yield =>
    obtain ⟨c, hc, rfl⟩ := Option.map_eq_some_iff.mp hs
    exact SchedState.Flagged.resched (h.modify fun _ => hC c hc) hinv.rtSchedThreadYield
  | tickIncrease tick =>
    obtain ⟨c, hc, hcases⟩ := tickIncrease_cases hs
    have htick : (s.modify c fun th => { th with remainingTick := th.remainingTick - tick }).Flagged :=
      h.modify (h c)
    rcases hcases with ⟨-, rfl⟩ | ⟨hrem, rfl⟩
    · exact htick
    · -- the slice is used up, by a thread that runs
      have hrun : (s.thread c).stat = .running := (hC c hc).resolve_right fun hlt => by omega
      have hinv' : Inv (s.modify c fun th => { th with remainingTick := th.remainingTick - tick }) :=
        hinv.modify_rest rfl rfl rfl
      refine SchedState.Flagged.resched (htick.modify fun _ => ?_) hinv'.rtSchedThreadYield
      rw [modify_thread_same]
      exact hrun
  | changePriority u priority updateInitPrio =>
    obtain rfl := Option.some.inj hs
    exact h.rtSchedUpdatePriority priority updateInitPrio
  | close u =>
    obtain rfl := Option.some.inj hs
    exact h.rtThreadClose
  | schedule =>
    obtain ⟨c, hc, rfl⟩ := Option.map_eq_some_iff.mp hs
    have h' := h.resched hinv
    unfold rtSchedUnlockNResched at h'
    rw [hc] at h'
    exact h'
  | schedulerStart =>
    simp only [Sched.step] at hs
    split at hs
    · obtain ⟨first, -, rfl⟩ := Option.map_eq_some_iff.mp hs
      have hcur : SchedState.Flagged { s with currentThread := some first } := h
      unfold rtSystemSchedulerStart
      exact hcur.remove.modify fun hy => by cases hy
    · cases hs
  | enterCritical =>
    obtain rfl := Option.some.inj hs
    exact h
  | exitCritical =>
    obtain rfl := Option.some.inj hs
    exact h

end N32L43x.Sched
