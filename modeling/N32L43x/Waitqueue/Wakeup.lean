import N32L43x.Ipc.Timeout
import N32L43x.Waitqueue.Defs

/-!
When an early wake-up is kept for the next wait.  The flag remembers it, but every thread that comes to
the end of its wait resets the flag, also one that was woken before.
-/

namespace N32L43x.Waitqueue

open N32L43x.Sched N32L43x.Ipc N32L43x.Lib.Run

variable {Tid Oid : Type} [DecidableEq Tid] [DecidableEq Oid] {s s' : System Tid Oid}
  {k k' : Kernel Tid Oid} {firing : Option Tid} {t u : Tid}

/-! ### The kernel -/

omit [DecidableEq Oid] in
lemma timed_wakeupLoop (list : List Tid) :
    ∀ {k : Kernel Tid Oid}, Timed k firing → Timed (wakeupLoop k list).1 firing := by
  induction list with
  | nil => exact fun h => h
  | cons t list ih =>
    intro k h
    have h' : Timed { k with error := Function.update k.error t .eok } firing :=
      h.keep h.inv rfl rfl rfl
    have hresume := h'.rtThreadResume t
    unfold wakeupLoop
    simp only
    split
    · rename_i heq
      rw [heq] at hresume
      exact hresume
    · rename_i heq
      rw [heq] at hresume
      exact ih hresume

omit [DecidableEq Oid] in
lemma timed_rtWqueueWakeup (h : Timed k firing) (queue : RtWqueue Tid) :
    Timed (rtWqueueWakeup k queue).1 firing := by
  have hloop := timed_wakeupLoop queue.waitingList h.rtSpinLock
  unfold rtWqueueWakeup
  simp only
  split
  all_goals
    rename_i heq
    rw [heq] at hloop
    exact hloop.rtSpinUnlock

/-- The thread is suspended, without a list and perhaps with a timer. -/
lemma suspend_of_live (h : Timed k firing) (hlive : (k.look t).life = .live) (hf : firing ≠ some t)
    (suspendFlag : SuspendFlag) (tick : ℤ) :
    ∃ k', k.rtThreadSuspendToList t none .fifo suspendFlag = (k', .eok) ∧
      Timed (if tick ≠ -1 then k'.rtTimerStart t else k') firing ∧
      (if tick ≠ -1 then k'.rtTimerStart t else k').Suspended t := by
  obtain ⟨k', hsuspend, htimed, hlook, -⟩ := h.rtThreadSuspendToList hlive hf none .fifo suspendFlag
  have hsus : k'.Suspended t := by
    unfold Kernel.Suspended
    rw [hlook, Function.update_self]
  refine ⟨k', hsuspend, ?_⟩
  split
  · exact htimed.rtTimerStart hsus hf
  · exact ⟨htimed, hsus⟩

/-! ### The first critical section -/

/-- **A wait suspends the thread if and only if the flag is not set.** -/
lemma rtWqueueWait_spec (h : Timed k firing) (hlive : (k.look t).life = .live) (hf : firing ≠ some t)
    (queue : RtWqueue Tid) (tick : ℤ) (suspendFlag : SuspendFlag) :
    let (k', queue', pc) := rtWqueueWait k queue t tick suspendFlag
    Timed k' firing ∧ (pc = .leaving ↔ queue.flag = .wakeup) ∧ (k'.Suspended t ↔ pc ≠ .leaving) ∧
      queue'.flag = if pc = .leaving then .clean else queue.flag := by
  have hq := Kernel.quiet_rtSpinLock h.inv
  let k₀ : Kernel Tid Oid :=
    { k.rtSpinLock with error := Function.update k.rtSpinLock.error t .eok }
  have h₀ : Timed k₀ firing := (h.quiet hq).keep hq.inv rfl rfl rfl
  unfold rtWqueueWait
  simp only
  by_cases hflag : queue.flag = .wakeup
  · rw [if_pos hflag]
    have hq' := Kernel.quiet_rtSpinUnlock h₀.inv
    refine ⟨h₀.quiet hq', iff_of_true rfl hflag, iff_of_false ?_ fun hne => hne rfl, rfl⟩
    rw [hq'.suspended_iff]
    exact Timeout.not_suspended_of_live hlive
  · rw [if_neg hflag]
    obtain ⟨k₁, hsuspend, htimed, hsus⟩ := suspend_of_live h₀ hlive hf suspendFlag tick
    have hq' := Kernel.quiet_rtSpinUnlock htimed.inv
    rw [hsuspend]
    refine ⟨htimed.quiet hq', iff_of_false ?_ hflag, iff_of_true ?_ ?_, ?_⟩
    · intro hpc
      cases hpc
    · exact (hq'.suspended_iff t).mpr hsus
    · intro hpc
      cases hpc
    · rfl

/-! ### The invariant -/

/-- The flag is what is left of the last wake-up. -/
structure Good (s : System Tid Oid) : Prop where
  timed : Timed s.kernel s.firing
  flag : s.queue.flag = .wakeup ↔ s.left = false

namespace Good

omit [DecidableEq Tid] [DecidableEq Oid] in
/-- A step that leaves the flag alone. -/
lemma keep (h : Good s) {s' : System Tid Oid} (htimed : Timed s'.kernel s'.firing)
    (hflag : s'.queue.flag = s.queue.flag) (hleft : s'.left = s.left) : Good s' := by
  refine ⟨htimed, ?_⟩
  rw [hflag, hleft]
  exact h.flag

omit [DecidableEq Tid] [DecidableEq Oid] in
lemma firing_of_running (ht : s.running = some t) : s.firing = none := by
  unfold System.running at ht
  split at ht
  · assumption
  · cases ht

omit [DecidableEq Tid] [DecidableEq Oid] in
lemma live_of_running (ht : s.running = some t) : (s.kernel.look t).life = .live := by
  unfold System.running at ht
  split at ht
  · split at ht
    · rename_i hlive
      cases ht
      exact hlive
    · cases ht
  · cases ht

omit [DecidableEq Tid] [DecidableEq Oid] in
lemma not_firing_of_running (ht : s.running = some t) : s.firing ≠ some t := by
  rw [firing_of_running ht]
  exact Option.some_ne_none t ∘ Eq.symm

/-- The running thread goes on with its wait. -/
lemma resume (h : Good s) (ht : s.running = some t) (hs : resume s t = some s') : Good s' := by
  unfold Waitqueue.resume at hs
  cases hpc : s.pc t with
  | run =>
    rw [hpc] at hs
    cases hs
  | entering tick suspendFlag =>
    simp only [hpc] at hs
    have hwait := rtWqueueWait_spec h.timed (live_of_running ht) (not_firing_of_running ht) s.queue
      tick suspendFlag
    rcases hw : rtWqueueWait s.kernel s.queue t tick suspendFlag with ⟨k', queue', pc⟩
    rw [hw] at hwait hs
    obtain ⟨htimed, hleaving, -, hflag⟩ := hwait
    cases hs
    refine ⟨htimed, ?_⟩
    simp only
    rw [hflag]
    by_cases hl : pc = .leaving
    · rw [if_pos hl, decide_eq_true hl, Bool.or_true]
      exact iff_of_false (fun hc => by cases hc) (fun hc => by cases hc)
    · rw [if_neg hl, decide_eq_false hl, Bool.or_false]
      exact h.flag
  | waiting =>
    simp only [hpc] at hs
    cases hs
    exact h.keep (h.timed.quiet (Kernel.quiet_rtSchedule h.timed.inv)) rfl rfl
  | woken =>
    simp only [hpc] at hs
    cases hs
    refine ⟨h.timed.rtSpinLock.rtSpinUnlock, ?_⟩
    exact iff_of_false (fun hc => by cases hc) (fun hc => by cases hc)
  | leaving =>
    simp only [hpc] at hs
    cases hs
    exact h.keep (h.timed.rtSpinLock.rtSpinUnlock) rfl rfl
  | removed =>
    simp only [hpc] at hs
    cases hs
    exact h.keep h.timed rfl rfl
  | returns ret =>
    simp only [hpc] at hs
    cases hs
    exact h.keep h.timed rfl rfl

/-- Every step keeps the invariant. -/
lemma step (h : Good s) {a : Action Tid Oid} (hs : step s a = some s') : Good s' := by
  cases a with
  | wait condition tick suspendFlag =>
    obtain ⟨t, ht, hs⟩ := Option.bind_eq_some_iff.mp hs
    split at hs
    · split at hs
      all_goals
        cases hs
        exact h.keep h.timed rfl rfl
    · cases hs
  | resume =>
    obtain ⟨t, ht, hs⟩ := Option.bind_eq_some_iff.mp hs
    exact h.resume ht hs
  | wakeup =>
    cases hs
    refine ⟨timed_rtWqueueWakeup h.timed s.queue, iff_of_true ?_ rfl⟩
    simp only
    split <;> rfl
  | schedule =>
    cases hs
    exact h.keep (h.timed.quiet (Kernel.quiet_rtSchedule h.timed.inv)) rfl rfl
  | threadResume t =>
    cases hs
    exact h.keep (h.timed.rtThreadResume t) rfl rfl
  | suspend l flag suspendFlag =>
    obtain ⟨t, ht, hs⟩ := Option.bind_eq_some_iff.mp hs
    split at hs
    · obtain ⟨k', hsuspend, htimed, -⟩ := h.timed.rtThreadSuspendToList (live_of_running ht)
        (not_firing_of_running ht) l flag suspendFlag
      cases hs
      rw [hsuspend]
      exact h.keep htimed rfl rfl
    · cases hs
  | dequeue l threadError =>
    cases hs
    exact h.keep (h.timed.rtSuspListDequeue l threadError) rfl rfl
  | startup t =>
    simp only [Waitqueue.step] at hs
    split at hs
    · rename_i hinit
      cases hs
      have hf : s.firing ≠ some t := by
        intro hf
        rcases ((h.timed.at_thread t).fires hf).1 with hsus | hlive
        · cases hinit.symm.trans hsus
        · cases hinit.symm.trans hlive
      exact h.keep (h.timed.rtSchedThreadStartup hinit hf).1 rfl rfl
    · cases hs
  | timerExpires t =>
    simp only [Waitqueue.step] at hs
    split at hs
    · rename_i ht
      cases hs
      have htimed := h.timed
      rw [ht.1] at htimed
      exact h.keep (htimed.expires ht.2) rfl rfl
    · cases hs
  | timeoutFunc =>
    obtain ⟨t, ht, rfl⟩ := Option.map_eq_some_iff.mp hs
    have htimed := h.timed
    rw [ht] at htimed
    exact h.keep (htimed.timesOut htimed.timesOut_threadTimeout) rfl rfl
  | tickIncrease =>
    obtain ⟨t, ht, rfl⟩ := Option.map_eq_some_iff.mp hs
    exact h.keep (h.timed.quiet (Kernel.quiet_rtSchedTickIncrease h.timed.inv ht)) rfl rfl

omit [DecidableEq Tid] [DecidableEq Oid] in
lemma init {sched : SchedState Tid} (hinv : Inv sched) (hset : ∀ t, (sched.look t).ttmrSet = false) :
    Good (System.init sched : System Tid Oid) where
  timed := (Timeout.good_init hinv hset).timed
  flag := iff_of_false (fun hc => by cases hc) (fun hc => by cases hc)

end Good

/-! ### Early wake-ups -/

/-- The running thread, when it comes to the first critical section of a wait that is the next one after
an early wake-up. -/
def System.due (s : System Tid Oid) : Option Tid :=
  s.running.filter fun t =>
    s.owed t && match s.pc t with
      | .entering .. => true
      | _ => false

/-- A wait that is the next one after an early wake-up goes on to its end, and the thread is not
suspended. -/
def Kept (s : System Tid Oid) : Action Tid Oid → Prop
  | .resume => ∀ t ∈ s.due, ∃ s' ∈ step s .resume, s'.pc t = .leaving ∧ ¬ s'.kernel.Suspended t
  | _ => True

/-- No thread has gone through the end of a wait since the last wake-up. -/
def InTime (s : System Tid Oid) : Action Tid Oid → Prop
  | .resume => ∀ t ∈ s.due, s.left = false
  | _ => True

instance (s : System Tid Oid) (a : Action Tid Oid) : Decidable (Kept s a) :=
  match a with
  | .resume => inferInstanceAs
      (Decidable (∀ t ∈ s.due, ∃ s' ∈ step s .resume, s'.pc t = .leaving ∧ ¬ s'.kernel.Suspended t))
  | .wait .. => isTrue trivial
  | .wakeup => isTrue trivial
  | .schedule => isTrue trivial
  | .threadResume _ => isTrue trivial
  | .suspend .. => isTrue trivial
  | .dequeue .. => isTrue trivial
  | .startup _ => isTrue trivial
  | .timerExpires _ => isTrue trivial
  | .timeoutFunc => isTrue trivial
  | .tickIncrease => isTrue trivial

instance (s : System Tid Oid) (a : Action Tid Oid) : Decidable (InTime s a) :=
  match a with
  | .resume => inferInstanceAs (Decidable (∀ t ∈ s.due, s.left = false))
  | .wait .. => isTrue trivial
  | .wakeup => isTrue trivial
  | .schedule => isTrue trivial
  | .threadResume _ => isTrue trivial
  | .suspend .. => isTrue trivial
  | .dequeue .. => isTrue trivial
  | .startup _ => isTrue trivial
  | .timerExpires _ => isTrue trivial
  | .timeoutFunc => isTrue trivial
  | .tickIncrease => isTrue trivial

/-- **One step.** -/
lemma kept_iff (h : Good s) (a : Action Tid Oid) : Kept s a ↔ InTime s a := by
  cases a with
  | resume =>
    have hdue : ∀ t ∈ s.due,
        (∃ s' ∈ step s .resume, s'.pc t = .leaving ∧ ¬ s'.kernel.Suspended t) ↔ s.left = false := by
      intro t ht
      obtain ⟨ht, hdue⟩ := Option.filter_eq_some_iff.mp ht
      cases hpc : s.pc t with
      | entering tick suspendFlag =>
        have hwait := rtWqueueWait_spec h.timed (Good.live_of_running ht)
          (Good.not_firing_of_running ht) s.queue tick suspendFlag
        rcases hw : rtWqueueWait s.kernel s.queue t tick suspendFlag with ⟨k', queue', pc⟩
        rw [hw] at hwait
        obtain ⟨-, hleaving, hsus, -⟩ := hwait
        have hstep : step s .resume = some { s with
            kernel := k', queue := queue', pc := Function.update s.pc t pc
            owed := Function.update s.owed t false, left := s.left || pc = .leaving } := by
          simp only [step, ht, Option.bind_some, Waitqueue.resume, hpc, hw]
        rw [← h.flag, ← hleaving, hstep]
        constructor
        · rintro ⟨s', hs', hpc', -⟩
          obtain rfl := Option.some.inj hs'
          exact (Function.update_self t pc s.pc).symm.trans hpc'
        · intro hl
          refine ⟨_, rfl, ?_, ?_⟩
          · exact (Function.update_self t pc s.pc).trans hl
          · rw [hsus]
            exact fun hne => hne hl
      | _ => simp [hpc] at hdue
    exact forall₂_congr hdue
  | _ => exact Iff.rfl

/-- In every run the next wait after every early wake-up returns without suspending its thread if and
only if no thread has gone through the end of a wait since the last wake-up when the next wait looks at the
flag. -/
theorem early_wakeup_kept_iff {sched : SchedState Tid} (hinv : Inv sched)
    (hset : ∀ t, (sched.look t).ttmrSet = false) (as : List (Action Tid Oid)) :
    Along step Kept (System.init sched) as ↔ Along step InTime (System.init sched) as :=
  along_iff_of_inv (fun _ _ _ h _ hs => h.step hs) (fun _ a h => kept_iff h a) as _
    (Good.init hinv hset)

section Two

/-- A wake-up before the wait. -/
def earlyWakeup : List (Action (Fin 2) Unit) := [.wakeup, .wait 0 10 .uninterruptible, .resume]

/-- A thread waits and is woken; before it runs there is a second wake-up; it comes to the end of its
wait, and waits again. -/
def secondWakeup : List (Action (Fin 2) Unit) :=
  [.wait 0 (-1) .uninterruptible, .resume, .wakeup, .wakeup] ++ List.replicate 5 .resume ++
    [.wait 0 (-1) .uninterruptible, .resume]

theorem early_wakeup_kept_iff_earlyWakeup : ∃ sched : SchedState (Fin 2),
    Along step Kept (System.init sched) earlyWakeup ∧
      ∃ s, exec step (System.init sched) earlyWakeup = some s ∧ s.pc 0 = .leaving := by
  obtain ⟨sched, hsched, hinv, hset⟩ := Timeout.booted_twoThreads
  have hrun : ∀ sched ∈ exec Sched.step (SchedState.init (fun _ => 10) twoPriorities) twoThreads,
      Along step InTime (System.init sched) earlyWakeup ∧
      ∃ s ∈ exec step (System.init sched) earlyWakeup, s.pc 0 = .leaving := by
    decide +kernel
  obtain ⟨hC, s, hs, hpc⟩ := hrun sched hsched
  exact ⟨sched, (early_wakeup_kept_iff hinv hset _).mpr hC, s, hs, hpc⟩

/-- The second wake-up is lost. -/
theorem early_wakeup_lost : ∃ sched : SchedState (Fin 2), Inv sched ∧
    (∀ t, (sched.look t).ttmrSet = false) ∧ ¬ Along step Kept (System.init sched) secondWakeup ∧
    ∃ s, exec step (System.init sched) secondWakeup = some s ∧ s.pc 0 = .waiting ∧
      s.kernel.Suspended 0 := by
  obtain ⟨sched, hsched, hinv, hset⟩ := Timeout.booted_twoThreads
  have hrun : ∀ sched ∈ exec Sched.step (SchedState.init (fun _ => 10) twoPriorities) twoThreads,
      ¬ Along step Kept (System.init sched) secondWakeup ∧
      ∃ s ∈ exec step (System.init sched) secondWakeup, s.pc 0 = .waiting ∧ s.kernel.Suspended 0 := by
    decide +kernel
  obtain ⟨hnot, s, hs, hpc, hsus⟩ := hrun sched hsched
  exact ⟨sched, hinv, hset, hnot, s, hs, hpc, hsus⟩

end Two

end N32L43x.Waitqueue
