import N32L43x.Sched.Slices
import N32L43x.Sched.Closed
import Mathlib.Data.Fintype.Basic

/-!
Preemption: whether the thread that runs is a most urgent one of those that can.  What every other call
does to the scheduler it does between `rt_spin_lock` and `rt_spin_unlock`, which on one processor are
`rt_enter_critical` and `rt_exit_critical`, so that `rt_schedule` follows; `rt_thread_control` changes a
priority outside of them.
-/

namespace N32L43x.Sched

open N32L43x.Lib.Run

variable {Tid : Type} [DecidableEq Tid]

/-! ### The calls -/

/-- What a call does to the scheduler. -/
inductive Event (Tid : Type) where
  | action (a : Action Tid)
  /-- `rt_sched_thread_ready` of a waiter, as `rt_susp_list_dequeue` and `rt_mutex_release` call it -/
  | ready (t : Tid) (timerStop : RtErr)

/-- The scheduler on its processor. -/
structure Cpu (Tid : Type) where
  sched : SchedState Tid
  /-- `rt_exit_critical` has unlocked the scheduler, and `rt_schedule` has not run since -/
  due : Bool

/-- The processor before the scheduler starts. -/
def Cpu.init (tick : Tid → ℕ) (priority : Tid → Fin 32) : Cpu Tid where
  sched := SchedState.init tick priority
  due := false

/-- Whether `rt_schedule` runs within an action, with the scheduler unlocked. -/
def SchedState.reschedules (s : SchedState Tid) (a : Action Tid) : Bool :=
  s.lockNest = 0 ∧ (beforeSchedule s a).isSome

/-- Whether `rt_schedule` is to be called after an action. -/
def Cpu.dueAfter (m : Cpu Tid) : Action Tid → Bool
  | .exitCritical => if m.sched.lockNest ≤ 1 then m.sched.currentThread.isSome else m.due
  | a => if m.sched.reschedules a then false else m.due

/-- One step of the processor.  The callers of `rt_sched_thread_ready` hold a spin lock. -/
def Cpu.step (m : Cpu Tid) : Event Tid → Option (Cpu Tid)
  | .action a => (Sched.step m.sched a).map fun s => ⟨s, m.dueAfter a⟩
  | .ready t timerStop =>
    if 0 < m.sched.lockNest then some ⟨(rtSchedThreadReady m.sched t timerStop).1, m.due⟩ else none

/-! ### The most urgent thread -/

/-- No thread is ready that is more urgent than the one that runs. -/
def SchedState.MostUrgent (s : SchedState Tid) : Prop :=
  ∀ c, s.currentThread = some c → (s.thread c).stat = .running →
    ∀ u, (s.thread u).stat = .ready → (s.thread c).currentPriority ≤ (s.thread u).currentPriority

/-- The thread that runs is a most urgent one, if threads can be switched. -/
def Cpu.MostUrgent (m : Cpu Tid) : Prop :=
  m.sched.lockNest = 0 → m.due = false → m.sched.MostUrgent

/-- A new priority of `t` neither puts the thread that runs behind a ready one nor a ready one before it. -/
def SchedState.KeepsOrder (s : SchedState Tid) (t : Tid) (priority : Fin 32) : Prop :=
  ∀ c, s.currentThread = some c → (s.thread c).stat = .running →
    (t = c → ∀ u, (s.thread u).stat = .ready → priority ≤ (s.thread u).currentPriority) ∧
      ((s.thread t).stat = .ready → (s.thread c).currentPriority ≤ priority)

/-- A change of priority while threads can be switched keeps the order. -/
def Cpu.InOrder (m : Cpu Tid) : Event Tid → Prop
  | .action (.changePriority t priority _) =>
    m.sched.lockNest = 0 → m.due = false → m.sched.KeepsOrder t priority
  | _ => True

/-! ### `rt_schedule` -/

variable {s s' : SchedState Tid} {t c : Tid} {f : Thread → Thread}

/-- The thread keeps its priority, and becomes neither ready nor running. -/
def Thread.Settles (th th' : Thread) : Prop :=
  th'.currentPriority = th.currentPriority ∧ (th'.stat = .running → th.stat = .running) ∧
    (th'.stat = .ready → th.stat = .ready)

lemma Thread.Settles.refl (th : Thread) : th.Settles th := ⟨rfl, id, id⟩

/-- A thread that can no longer run. -/
lemma Thread.Settles.of_stat {th th' : Thread} (hprio : th'.currentPriority = th.currentPriority)
    (hrun : th'.stat ≠ .running) (hready : th'.stat ≠ .ready) : th.Settles th' :=
  ⟨hprio, fun he => absurd he hrun, fun he => absurd he hready⟩

omit [DecidableEq Tid] in
/-- With no more threads ready, and none more running, a most urgent one still runs. -/
lemma SchedState.MostUrgent.congr (h : s.MostUrgent) (hcur : s'.currentThread = s.currentThread)
    (hall : ∀ u, (s.thread u).Settles (s'.thread u)) : s'.MostUrgent := by
  intro c hc hcrun u hu
  rw [(hall c).1, (hall u).1]
  exact h c (hcur.symm.trans hc) ((hall c).2.1 hcrun) u ((hall u).2.2 hu)

lemma SchedState.MostUrgent.modify (h : s.MostUrgent) (ht : (s.thread t).Settles (f (s.thread t))) :
    (s.modify t f).MostUrgent :=
  h.congr rfl (forall_modify (P := fun u th => (s.thread u).Settles th) (fun _ => .refl _) ht)

lemma SchedState.MostUrgent.remove (h : s.MostUrgent) : (rtSchedRemoveThread s t).MostUrgent := by
  refine h.congr remove_currentThread fun u => ?_
  rw [remove_thread]
  exact .refl _

/-- **After `rt_schedule` a most urgent thread runs**, whatever happened before. -/
lemma Inv.mostUrgent_rtSchedule (h : Inv s) (hc : s.currentThread = some c) (hlock : s.lockNest = 0) :
    (Sched.rtSchedule s c).MostUrgent := by
  rcases rtSchedule_cases h hc with
    ⟨heq, hgroup⟩ | ⟨first, hfirst, hmin, ⟨heq, hrun, hle⟩ | ⟨needInsert, heq, hins, hle⟩⟩
  · -- nothing is ready
    rw [heq]
    intro _ _ _ u hu
    have hmem := (h.mem_iff u _).mpr ⟨hu, rfl⟩
    have hbit := (h.bit_iff (s.thread u).currentPriority).mpr (List.ne_nil_of_mem hmem)
    rw [hgroup hlock, BitVec.getLsbD_zero] at hbit
    cases hbit
  · rw [heq]
    have hs : s.MostUrgent := by
      intro d hd _ u hu
      obtain rfl := Option.some.inj (hc.symm.trans hd)
      exact hle.trans (hmin u hu)
    refine hs.remove.modify ⟨rfl, fun _ => ?_, fun he => by cases he⟩
    rw [remove_thread]
    exact hrun
  · rw [heq]
    have hcf : first ≠ c := by
      rintro rfl
      exact (h.current first hc).1 hfirst
    obtain ⟨hthreadFirst, hthreadC⟩ := switchTo_threads s needInsert hcf
    intro d hd _ u hu
    rw [switchTo_currentThread] at hd
    obtain rfl := Option.some.inj hd
    rw [hthreadFirst]
    dsimp only
    by_cases huf : u = first
    · rw [huf, hthreadFirst]
    by_cases huc : u = c
    · subst huc
      rw [hthreadC] at hu ⊢
      dsimp only at hu ⊢
      cases needInsert with
      | true => exact hle (hins.mpr rfl)
      | false => exact absurd hu (h.current u hc).1
    · rw [switchTo_thread_of_ne huf huc] at hu ⊢
      exact hmin u hu

lemma Inv.mostUrgent_resched (h : Inv s) (hlock : s.lockNest = 0) :
    (Sched.rtSchedUnlockNResched s).MostUrgent := by
  unfold Sched.rtSchedUnlockNResched
  split
  · rename_i hnone
    intro c hc
    rw [hnone] at hc
    cases hc
  · rename_i c hc
    exact h.mostUrgent_rtSchedule hc hlock

/-! ### The other steps -/

lemma lockNest_of_beforeSchedule {a : Action Tid} {s₁ : SchedState Tid} (hb : beforeSchedule s a = some s₁) :
    s₁.lockNest = s.lockNest :=
  (sameCpu_beforeSchedule hb).2

/-- A change of priority and the order of the threads. -/
lemma Inv.update_thread (h : Inv s) (priority : Fin 32) (updateInitPrio : Bool) (u : Tid) :
    ((Sched.rtSchedUpdatePriority s t priority updateInitPrio).thread u).stat = (s.thread u).stat ∧
      ((Sched.rtSchedUpdatePriority s t priority updateInitPrio).thread u).currentPriority =
        if u = t then priority else (s.thread u).currentPriority := by
  unfold Sched.rtSchedUpdatePriority
  split
  · rename_i hready
    -- a ready thread is not the current one, so it becomes ready again
    have hne : s.currentThread ≠ some t := fun hc => (h.current t hc).1 hready
    dsimp only
    rw [insert_thread (by rwa [modify_currentThread, remove_currentThread])]
    by_cases hu : u = t
    · subst hu
      rw [modify_thread_same, modify_thread_same, if_pos rfl]
      exact ⟨hready.symm, rfl⟩
    · rw [modify_thread_of_ne hu, modify_thread_of_ne hu, remove_thread, if_neg hu]
      exact ⟨rfl, rfl⟩
  · by_cases hu : u = t
    · subst hu
      rw [modify_thread_same, if_pos rfl]
      exact ⟨rfl, rfl⟩
    · rw [modify_thread_of_ne hu, if_neg hu]
      exact ⟨rfl, rfl⟩

/-- **What a change of priority does to the order.** -/
lemma SchedState.MostUrgent.update_iff (h : s.MostUrgent) (hinv : Inv s) {priority : Fin 32}
    {updateInitPrio : Bool} :
    (rtSchedUpdatePriority s t priority updateInitPrio).MostUrgent ↔ s.KeepsOrder t priority := by
  have hthread := hinv.update_thread (t := t) priority updateInitPrio
  have hcur := (sameCpu_rtSchedUpdatePriority (s := s) (t := t) priority updateInitPrio).1
  constructor
  · intro h' c hc hrun
    have hle := h' c (hcur.trans hc) ((hthread c).1.trans hrun)
    refine ⟨?_, fun ht => ?_⟩
    · rintro rfl u hu
      have hut : u ≠ t := by
        rintro rfl
        cases hrun.symm.trans hu
      have hlu := hle u ((hthread u).1.trans hu)
      rwa [(hthread t).2, if_pos rfl, (hthread u).2, if_neg hut] at hlu
    · have hct : c ≠ t := by
        rintro rfl
        cases hrun.symm.trans ht
      have hlt := hle t ((hthread t).1.trans ht)
      rwa [(hthread c).2, if_neg hct, (hthread t).2, if_pos rfl] at hlt
  · intro hkeeps c hc hrun u hu
    rw [hcur] at hc
    rw [(hthread c).1] at hrun
    rw [(hthread u).1] at hu
    rw [(hthread c).2, (hthread u).2]
    obtain ⟨hself, hother⟩ := hkeeps c hc hrun
    by_cases hct : c = t
    · have hut : u ≠ t := by
        rintro rfl
        rw [hct] at hrun
        cases hrun.symm.trans hu
      rw [if_pos hct, if_neg hut]
      exact hself hct.symm u hu
    · rw [if_neg hct]
      by_cases hut : u = t
      · rw [if_pos hut]
        exact hother (hut ▸ hu)
      · rw [if_neg hut]
        exact h c hc hrun u hu

lemma SchedState.MostUrgent.close (h : s.MostUrgent) : (rtThreadClose s t).MostUrgent := by
  unfold rtThreadClose
  split
  · exact h
  · dsimp only
    split
    · exact h.remove.modify (.of_stat rfl (by simp) (by simp))
    · exact h.modify (.of_stat rfl (by simp) (by simp))

lemma SchedState.MostUrgent.suspend (h : s.MostUrgent) (flag : SuspendFlag) :
    (rtThreadSuspendToList s t flag).1.MostUrgent := by
  unfold rtThreadSuspendToList
  split
  · exact (h.remove.modify (.of_stat rfl (by simp) (by simp))).modify ⟨rfl, id, id⟩
  · exact h

/-- A thread whose timer ran out is not made ready. -/
lemma SchedState.MostUrgent.notReady (h : s.MostUrgent) {timerStop : RtErr}
    (hb : beforeSchedule s (.resume t timerStop) = none) : (rtSchedThreadReady s t timerStop).1.MostUrgent := by
  have hfail : (rtSchedThreadReady s t timerStop).2 ≠ .eok := by
    intro hok
    rw [beforeSchedule, if_pos hok] at hb
    cases hb
  unfold rtSchedThreadReady at hfail ⊢
  split
  · rename_i hsus
    rw [if_pos hsus] at hfail
    revert hfail
    dsimp only
    generalize (if (s.thread t).ttmrSet = true then timerStop else .eok) = err
    intro hfail
    split
    · rename_i hok
      rw [if_pos hok] at hfail
      exact absurd hok hfail
    · exact h.modify ⟨rfl, id, id⟩
  · exact h

/-- The scheduler starts with a most urgent thread. -/
lemma Inv.mostUrgent_start (h : Inv s) (hg : s.readyPriorityGroup ≠ 0#32) (hfirst : s.highest.2 = some t) :
    (Sched.rtSystemSchedulerStart s t).MostUrgent := by
  obtain ⟨first, hfirst', hready, hprio, hmin⟩ := h.highest_spec hg
  obtain rfl := Option.some.inj (hfirst.symm.trans hfirst')
  have hs : ({ s with currentThread := some t } : SchedState Tid).MostUrgent := by
    intro c hc _ u hu
    obtain rfl := Option.some.inj hc
    exact hprio.trans_le (hmin u hu)
  intro c hc hrun u hu
  unfold Sched.rtSystemSchedulerStart at hc hu ⊢
  dsimp only at hc hu ⊢
  rw [modify_currentThread, remove_currentThread] at hc
  obtain rfl := Option.some.inj hc
  have hut : u ≠ t := by
    rintro rfl
    rw [modify_thread_same] at hu
    cases hu
  rw [modify_thread_of_ne hut, remove_thread] at hu ⊢
  rw [modify_thread_same, remove_thread]
  exact hprio.trans_le (hmin u hu)

/-! ### Runs -/

variable {m m' : Cpu Tid} {a : Action Tid}

lemma Cpu.dueAfter_of_none (hb : beforeSchedule m.sched a = none) (ha : a ≠ .exitCritical) :
    m.dueAfter a = m.due := by
  have hno : m.sched.reschedules a = false := by simp [SchedState.reschedules, hb]
  unfold Cpu.dueAfter
  split
  · exact absurd rfl ha
  · rw [hno, if_neg Bool.false_ne_true]

/-- With the scheduler unlocked, the action after which a most urgent thread runs. -/
lemma Cpu.MostUrgent.of_sameCpu (h : m.MostUrgent) (hcpu : SameCpu m.sched s')
    (hb : beforeSchedule m.sched a = none) (ha : a ≠ .exitCritical)
    (hs : m.sched.lockNest = 0 → m.due = false → m.sched.MostUrgent → s'.MostUrgent) :
    (⟨s', m.dueAfter a⟩ : Cpu Tid).MostUrgent := by
  intro hlock hdue
  dsimp only at hlock hdue
  rw [hcpu.2] at hlock
  rw [Cpu.dueAfter_of_none hb ha] at hdue
  exact hs hlock hdue (h hlock hdue)

lemma Cpu.MostUrgent.action (h : m.MostUrgent) (hinv : Inv m.sched) (hok : m.InOrder (.action a))
    (hs : Sched.step m.sched a = some s') : (⟨s', m.dueAfter a⟩ : Cpu Tid).MostUrgent := by
  rcases hb : beforeSchedule m.sched a with _ | s₁
  · cases step_outcome hs with
    | startup t =>
      exact h.of_sameCpu ⟨rfl, rfl⟩ hb (by simp) fun _ _ hu => hu.modify (.of_stat rfl (by simp) (by simp))
    | resume t timerStop =>
      exact h.of_sameCpu (sameCpu_rtSchedThreadReady timerStop) hb (by simp) fun _ _ hu => hu.notReady hb
    | timerStart t => exact h.of_sameCpu ⟨rfl, rfl⟩ hb (by simp) fun _ _ hu => hu.modify ⟨rfl, id, id⟩
    | suspend t flag =>
      exact h.of_sameCpu (sameCpu_rtThreadSuspendToList flag) hb (by simp) fun _ _ hu => hu.suspend flag
    | tickIncrease c tick => exact h.of_sameCpu ⟨rfl, rfl⟩ hb (by simp) fun _ _ hu => hu.modify ⟨rfl, id, id⟩
    | changePriority t priority updateInitPrio =>
      exact h.of_sameCpu (sameCpu_rtSchedUpdatePriority priority updateInitPrio) hb (by simp)
        fun hlock hdue hu => (hu.update_iff hinv).mpr (hok hlock hdue)
    | close t => exact h.of_sameCpu sameCpu_rtThreadClose hb (by simp) fun _ _ hu => hu.close
    | schedulerStart first hc hg hfirst => exact fun _ _ => hinv.mostUrgent_start hg hfirst
    | enterCritical => exact fun hlock => by cases hlock
    | exitCritical =>
      -- `rt_schedule` is to be called, unless the scheduler has not started
      intro hlock hdue c hc
      have hle : m.sched.lockNest ≤ 1 := Nat.sub_eq_zero_iff_le.mp hlock
      simp only [Cpu.dueAfter, if_pos hle] at hdue
      dsimp only at hc
      rw [hc] at hdue
      cases hdue
    | reschedule _ s₁ hb' => cases hb.symm.trans hb'
  · obtain rfl := Option.some.inj ((step_of_beforeSchedule hb).symm.trans hs)
    have hinv' := hinv.beforeSchedule hb
    by_cases hlock : s₁.lockNest = 0
    · exact fun _ _ => hinv'.mostUrgent_resched hlock
    · intro hlock'
      dsimp only at hlock'
      rw [rtSchedUnlockNResched_of_locked (Nat.pos_of_ne_zero hlock)] at hlock'
      exact absurd hlock' hlock

/-- What holds of every state of a run whose changes of priority keep the order. -/
structure Cpu.Good (m : Cpu Tid) : Prop where
  inv : Inv m.sched
  mostUrgent : m.MostUrgent

lemma Cpu.Good.step {e : Event Tid} (h : m.Good) (hok : m.InOrder e) (hs : m.step e = some m') : m'.Good := by
  cases e with
  | action a =>
    obtain ⟨s', hs', rfl⟩ := Option.map_eq_some_iff.mp hs
    exact ⟨inv_step h.inv hs', h.mostUrgent.action h.inv hok hs'⟩
  | ready t timerStop =>
    simp only [Cpu.step] at hs
    split at hs
    case isFalse => cases hs
    case isTrue hlock =>
      obtain rfl := Option.some.inj hs
      refine ⟨h.inv.rtSchedThreadReady timerStop, fun hlock' => ?_⟩
      dsimp only at hlock'
      rw [(sameCpu_rtSchedThreadReady timerStop).2] at hlock'
      omega

/-- A change of priority that does not keep the order leaves a more urgent thread waiting. -/
lemma Cpu.Good.not_mostUrgent {e : Event Tid} (h : m.Good) (hok : ¬ m.InOrder e) (hs : m.step e = some m') :
    ¬ m'.MostUrgent := by
  cases e with
  | ready t timerStop => exact absurd trivial hok
  | action a =>
    cases a with
    | changePriority t priority updateInitPrio =>
      obtain rfl := Option.some.inj hs
      intro h'
      refine hok fun hlock hdue => ((h.mostUrgent hlock hdue).update_iff h.inv).mp (h' ?_ ?_)
      · exact (sameCpu_rtSchedUpdatePriority priority updateInitPrio).2.trans hlock
      · have ha : m.dueAfter (.changePriority t priority updateInitPrio) = m.due :=
          Cpu.dueAfter_of_none rfl (by simp)
        exact ha.trans hdue
    | _ => exact absurd trivial hok

/-- **The most urgent thread runs.**  In all the states of a run in which threads can be switched the thread
that runs is a most urgent one, if and only if no change of priority outside of a critical section makes a ready
thread more urgent than it or it less urgent than a ready one. -/
theorem most_urgent_runs_iff (tick : Tid → ℕ) (priority : Tid → Fin 32) (es : List (Event Tid))
    (hrun : exec Cpu.step (Cpu.init tick priority) es = some m) :
    (∀ es', es' <+: es → ∀ m', exec Cpu.step (Cpu.init tick priority) es' = some m' → m'.MostUrgent) ↔
      Along Cpu.step Cpu.InOrder (Cpu.init tick priority) es := by
  have hinit : (Cpu.init tick priority).Good :=
    ⟨inv_init tick priority, fun _ _ c hc => by cases hc⟩
  exact states_iff_along (fun _ _ _ h hok hs => h.step hok hs) (fun _ _ _ h hok hs => h.not_mostUrgent hok hs)
    (fun _ h => h.mostUrgent) es _ m hinit hrun

section Three

instance SchedState.KeepsOrder.decidable [Fintype Tid] (s : SchedState Tid) (t : Tid) (priority : Fin 32) :
    Decidable (s.KeepsOrder t priority) :=
  inferInstanceAs (Decidable (∀ _, _ → _ → (_ → ∀ _, _ → _) ∧ (_ → _)))

instance Cpu.InOrder.decidable [Fintype Tid] (m : Cpu Tid) : ∀ e, Decidable (m.InOrder e)
  | .action (.changePriority t priority _) =>
    inferInstanceAs (Decidable (_ → _ → m.sched.KeepsOrder t priority))
  | .action (.startup _) | .action (.resume ..) | .action (.timeout _) | .action (.timerStart _)
  | .action (.suspend ..) | .action .yield | .action (.tickIncrease _) | .action (.close _)
  | .action .schedule | .action .schedulerStart | .action .enterCritical | .action .exitCritical
  | .ready .. => isTrue trivial

/-- The thread `t` runs and releases a semaphore that `u` waits for; `v` is ready. -/
def releaseTo (t u v : Tid) : List (Event Tid) :=
  [.action (.startup t), .action (.resume t .eok), .action (.startup u), .action (.startup v),
    .action (.resume v .eok), .action .schedulerStart, .action .enterCritical, .ready u .eok,
    .action .exitCritical, .action .schedule]

/-- The priorities 20, 10 and 15. -/
def threePriorities (t : Fin 3) : Fin 32 := ⟨20 - 10 * t.val % 15, by omega⟩

theorem most_urgent_runs_iff_releaseTo :
    (∃ m, exec Cpu.step (Cpu.init (fun _ => 10) threePriorities) (releaseTo 0 1 2) = some m ∧
      m.sched.currentThread = some 1 ∧ m.MostUrgent) ∧
    ¬ ∀ es, es <+: releaseTo 0 1 2 ++ [.action (.changePriority 2 5 false)] →
      ∀ m, exec Cpu.step (Cpu.init (fun _ => 10) threePriorities) es = some m → m.MostUrgent := by
  have hgood : Along Cpu.step Cpu.InOrder (Cpu.init (fun _ => 10) threePriorities) (releaseTo 0 1 2) ∧
      ∃ m ∈ exec Cpu.step (Cpu.init (fun _ => 10) threePriorities) (releaseTo 0 1 2),
        m.sched.currentThread = some 1 := by
    decide +kernel
  have hbad : ¬ Along Cpu.step Cpu.InOrder (Cpu.init (fun _ => 10) threePriorities)
        (releaseTo 0 1 2 ++ [.action (.changePriority 2 5 false)]) ∧
      (exec Cpu.step (Cpu.init (fun _ => 10) threePriorities)
        (releaseTo 0 1 2 ++ [.action (.changePriority 2 5 false)])).isSome = true := by
    decide +kernel
  obtain ⟨hC, m, hm, hcur⟩ := hgood
  obtain ⟨m', hm'⟩ := Option.isSome_iff_exists.mp hbad.2
  refine ⟨⟨m, hm, hcur, ?_⟩, fun hall => hbad.1 ?_⟩
  · exact (most_urgent_runs_iff _ _ _ hm).mpr hC _ List.prefix_rfl m hm
  · exact (most_urgent_runs_iff _ _ _ hm').mp hall

end Three

end N32L43x.Sched
