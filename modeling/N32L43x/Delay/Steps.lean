import N32L43x.Delay.Thread

/-!
Every step of the system: a thread that does not act is left alone, one that acts keeps its invariant, and
the delays that return end well.
-/

namespace N32L43x.Delay

open N32L43x.Timer N32L43x.Ipc N32L43x.Lib.Run

variable {Tid App : Type} [DecidableEq Tid] [DecidableEq App] {s s' : System Tid App} {t u : Tid}

/-- The invariant. -/
structure Inv (s : System Tid App) : Prop where
  clock : Clock s
  thread : ∀ t, ThreadInv s t
  log : ∀ r ∈ s.log, r.EndsWell

omit [DecidableEq Tid] [DecidableEq App] in
lemma inv_init (tick : BitVec 32) (periodic : App → Bool) (time : App → BitVec 32) :
    Inv (init tick periodic time : System Tid App) where
  clock := ⟨tidy_init _ _ _, (BitVec.ofNat_toNat 32 tick).symm ▸ by simp [init, Timer.init]⟩
  thread t := ⟨fun hlink => absurd hlink List.not_mem_nil, rfl, Nat.zero_le _, trivial⟩
  log := by simp [init]

/-- The thread whose step an action is; the tick is everybody's. -/
def Acts (s : System Tid App) (t : Tid) : Action Tid App → Prop
  | .delay u _ | .mdelay u _ | .setTick u _ _ | .delayUntil u | .goOn u | .threadResume u | .suspend u
  | .threadTimer u _ => u = t
  | .tick => True
  | .ret => s.timers.pc = .callback (.inl t)
  | .timer _ | .check => False

omit [DecidableEq App] in
lemma leaves_threadSleep (s : System Tid App) (hut : t ≠ u) (tick : BitVec 32) (asked : ℤ) :
    Leaves t s (threadSleep s u tick asked) := by
  unfold threadSleep
  dsimp only
  split
  · exact (leaves_modify s hut _).trans (leaves_sleepReturns _ hut _)
  · exact (leaves_modify s hut _).trans (leaves_modify _ hut _)

omit [DecidableEq App] in
/-- The callback of another timer. -/
lemma leaves_timeoutFunc (s : System Tid App) {i : Tid ⊕ App} (hi : i ≠ .inl t) :
    Leaves t s (timeoutFunc s i) := by
  cases i with
  | inl u =>
    have hut : t ≠ u := by
      rintro rfl
      exact hi rfl
    unfold timeoutFunc threadTimeout
    exact leaves_modify s hut _
  | inr a => exact Leaves.refl t s

omit [DecidableEq App] in
lemma timeoutFunc_timers (s : System Tid App) (i : Tid ⊕ App) :
    (timeoutFunc s i).timers = s.timers ∧ (timeoutFunc s i).log = s.log := by
  cases i <;> exact ⟨rfl, rfl⟩

/-- **A step leaves a thread alone that does not act.** -/
lemma Inv.leaves_step (h : Inv s) {a : Action Tid App} (hs : step s a = some s') (ht : ¬ Acts s t a) :
    Leaves t s s' := by
  cases a with
  | delay u tick =>
    simp only [step, Option.ite_none_right_eq_some, Option.some.injEq] at hs
    obtain ⟨-, rfl⟩ := hs
    exact leaves_threadSleep s (Ne.symm ht) _ _
  | mdelay u ms =>
    simp only [step, Option.ite_none_right_eq_some, Option.some.injEq] at hs
    obtain ⟨-, rfl⟩ := hs
    exact leaves_threadSleep s (Ne.symm ht) _ _
  | setTick u tick incTick =>
    simp only [step, Option.ite_none_right_eq_some, Option.some.injEq] at hs
    obtain ⟨-, rfl⟩ := hs
    exact leaves_modify s (Ne.symm ht) _
  | delayUntil u =>
    simp only [step, Option.ite_none_right_eq_some, Option.some.injEq] at hs
    obtain ⟨-, rfl⟩ := hs
    exact leaves_modify s (Ne.symm ht) _
  | goOn u =>
    simp only [step, Option.ite_none_right_eq_some, Option.some.injEq] at hs
    obtain ⟨-, rfl⟩ := hs
    exact h.clock.leaves_goOn (Ne.symm ht)
  | threadResume u =>
    obtain rfl := Option.some.inj hs
    exact h.clock.leaves_threadResume (Ne.symm ht)
  | suspend u =>
    simp only [step, Option.ite_none_right_eq_some, Option.some.injEq] at hs
    obtain ⟨-, rfl⟩ := hs
    exact h.clock.leaves_suspend (Ne.symm ht)
  | threadTimer u time =>
    simp only [step, Option.ite_none_right_eq_some, Option.some.injEq] at hs
    obtain ⟨-, rfl⟩ := hs
    exact (h.clock.leaves_setTime (Ne.symm ht) time).trans
      ((h.clock.setTime u time).leaves_timerStart (Ne.symm ht))
  | timer c =>
    obtain rfl := Option.some.inj hs
    refine h.clock.leaves_timerCall ?_
    cases c <;> exact Sum.inl_ne_inr
  | tick => exact absurd trivial ht
  | check =>
    obtain ⟨tm, hcheck, rfl⟩ := Option.map_eq_some_iff.mp hs
    exact (h.clock.checkStep hcheck).2 t
  | ret =>
    simp only [step] at hs
    split at hs
    · next i hpc =>
      obtain ⟨tm, hret, rfl⟩ := Option.map_eq_some_iff.mp hs
      have hi : i ≠ .inl t := by
        rintro rfl
        exact ht hpc
      have hfirst := leaves_timeoutFunc s hi
      have hclock : Clock (timeoutFunc s i) := by
        obtain ⟨htimers, -⟩ := timeoutFunc_timers s i
        refine ⟨?_, ?_⟩
        · rw [htimers]
          exact h.clock.tidy
        · rw [htimers]
          exact h.clock.tick
      refine hfirst.trans ((hclock.retStep hret).2 t ?_)
      rw [(timeoutFunc_timers s i).1]
      exact (h.thread t).oneshot
    · cases hs

lemma ceilTicks_eq (ms : BitVec 32) : ceilTicks ms = ms.toInt := by
  have htps : (rtTickPerSecond : ℤ) = 1000 := rfl
  unfold ceilTicks
  rw [htps]
  omega

/-- A number of milliseconds asks for no more ticks than it becomes, and is in range. -/
lemma asks_mdelay (ms : BitVec 32) : ceilTicks ms ≤ 0 ∨
    ((rtTickFromMillisecond ms).toNat : ℤ) = ceilTicks ms ∧
      (rtTickFromMillisecond ms).toNat ≤ longestDelay := by
  have hlongest : longestDelay = 2147483650 := rfl
  rw [ceilTicks_eq, hlongest]
  unfold rtTickFromMillisecond
  split
  · next hneg => exact .inl hneg.le
  · next hpos =>
    have hcond := BitVec.toInt_eq_toNat_cond ms
    right
    split at hcond
    · next hlt => exact ⟨hcond.symm, by omega⟩
    · have hlt := ms.isLt
      omega

/-- The thread that acts. -/
lemma Inv.own_step (h : Inv s) {a : Action Tid App} (hr : InRange a) (hs : step s a = some s')
    (ht : Acts s t a) : ThreadInv s' t := by
  cases a with
  | delay u tick =>
    obtain rfl : u = t := ht
    simp only [step, Option.ite_none_right_eq_some, Option.some.injEq] at hs
    obtain ⟨⟨hout, -⟩, rfl⟩ := hs
    exact (h.thread u).threadSleep hout.2 (.inr ⟨rfl, hr⟩)
  | mdelay u ms =>
    obtain rfl : u = t := ht
    simp only [step, Option.ite_none_right_eq_some, Option.some.injEq] at hs
    obtain ⟨⟨hout, -⟩, rfl⟩ := hs
    exact (h.thread u).threadSleep hout.2 (asks_mdelay ms)
  | setTick u tick incTick =>
    obtain rfl : u = t := ht
    simp only [step, Option.ite_none_right_eq_some, Option.some.injEq] at hs
    obtain ⟨⟨hout, -⟩, rfl⟩ := hs
    refine (h.thread u).modify (fun hset => hset) (h.thread u).since ?_
    show SleepAt _ u (s.thread u).pc
    rw [hout.2]
    trivial
  | delayUntil u =>
    obtain rfl : u = t := ht
    simp only [step, Option.ite_none_right_eq_some, Option.some.injEq] at hs
    obtain ⟨-, rfl⟩ := hs
    refine (h.thread u).modify (fun hset => hset) (h.thread u).since ?_
    trivial
  | goOn u =>
    obtain rfl : u = t := ht
    simp only [step, Option.ite_none_right_eq_some, Option.some.injEq] at hs
    obtain ⟨⟨hpc, -⟩, rfl⟩ := hs
    exact (h.thread u).goOn h.clock hpc
  | threadResume u =>
    obtain rfl : u = t := ht
    obtain rfl := Option.some.inj hs
    exact (h.thread u).threadResume h.clock
  | suspend u =>
    obtain rfl : u = t := ht
    simp only [step, Option.ite_none_right_eq_some, Option.some.injEq] at hs
    obtain ⟨hout, rfl⟩ := hs
    exact (h.thread u).suspend h.clock hout.2
  | threadTimer u time =>
    obtain rfl : u = t := ht
    simp only [step, Option.ite_none_right_eq_some, Option.some.injEq] at hs
    obtain ⟨hout, rfl⟩ := hs
    exact (h.thread u).threadTimer h.clock hout.2 time
  | timer c => exact ht.elim
  | tick =>
    obtain ⟨tm, htick, rfl⟩ := Option.map_eq_some_iff.mp hs
    exact (h.thread t).tick htick
  | check => exact ht.elim
  | ret =>
    simp only [step] at hs
    split at hs
    · next i hpc =>
      obtain rfl : i = .inl t := by
        have hcall : s.timers.pc = .callback (.inl t) := ht
        rw [hpc] at hcall
        injection hcall
      obtain ⟨tm, hret, rfl⟩ := Option.map_eq_some_iff.mp hs
      have hclock : Clock (threadTimeout s t) := h.clock.modify t _
      have hthread : ThreadInv (threadTimeout s t) t := (h.thread t).threadTimeout ht
      exact hthread.leaves hclock ((hclock.retStep hret).2 t hthread.oneshot)
    · cases hs

omit [DecidableEq App] in
lemma clock_threadSleep (h : Clock s) (t : Tid) (tick : BitVec 32) (asked : ℤ) :
    Clock (threadSleep s t tick asked) := by
  unfold threadSleep
  dsimp only
  split
  · exact (h.modify t _).sleepReturns t _
  · exact (h.modify t _).modify t _

omit [DecidableEq App] in
lemma clock_timeoutFunc (h : Clock s) (i : Tid ⊕ App) : Clock (timeoutFunc s i) := by
  cases i with
  | inl t =>
    unfold timeoutFunc threadTimeout
    exact h.modify t _
  | inr a => exact h

/-- The clock and the lists at every step. -/
lemma Clock.step {a : Action Tid App} (h : Clock s) (hs : step s a = some s') : Clock s' := by
  cases a with
  | delay t tick =>
    simp only [Delay.step, Option.ite_none_right_eq_some, Option.some.injEq] at hs
    obtain ⟨-, rfl⟩ := hs
    exact clock_threadSleep h t _ _
  | mdelay t ms =>
    simp only [Delay.step, Option.ite_none_right_eq_some, Option.some.injEq] at hs
    obtain ⟨-, rfl⟩ := hs
    exact clock_threadSleep h t _ _
  | setTick t tick incTick =>
    simp only [Delay.step, Option.ite_none_right_eq_some, Option.some.injEq] at hs
    obtain ⟨-, rfl⟩ := hs
    exact h.modify t _
  | delayUntil t =>
    simp only [Delay.step, Option.ite_none_right_eq_some, Option.some.injEq] at hs
    obtain ⟨-, rfl⟩ := hs
    exact h.modify t _
  | goOn t =>
    simp only [Delay.step, Option.ite_none_right_eq_some, Option.some.injEq] at hs
    obtain ⟨-, rfl⟩ := hs
    exact h.goOn t
  | threadResume t =>
    obtain rfl := Option.some.inj hs
    exact h.threadResume t
  | suspend t =>
    simp only [Delay.step, Option.ite_none_right_eq_some, Option.some.injEq] at hs
    obtain ⟨-, rfl⟩ := hs
    exact h.suspend t
  | threadTimer t time =>
    simp only [Delay.step, Option.ite_none_right_eq_some, Option.some.injEq] at hs
    obtain ⟨-, rfl⟩ := hs
    exact (h.setTime t time).timerStart t
  | timer c =>
    obtain rfl := Option.some.inj hs
    exact h.timerCall _
  | tick =>
    obtain ⟨tm, htick, rfl⟩ := Option.map_eq_some_iff.mp hs
    exact h.tickStep htick
  | check =>
    obtain ⟨tm, hcheck, rfl⟩ := Option.map_eq_some_iff.mp hs
    exact (h.checkStep hcheck).1
  | ret =>
    simp only [Delay.step] at hs
    split at hs
    · next i hpc =>
      obtain ⟨tm, hret, rfl⟩ := Option.map_eq_some_iff.mp hs
      exact ((clock_timeoutFunc h i).retStep hret).1
    · cases hs

lemma resume_log (s : System Tid App) (t : Tid) : (rtThreadResume s t).1.log = s.log := by
  have hstop : (rtSchedThreadTimerStop s t).1.log = s.log := by
    rcases timerStop_cases s t with ⟨-, heq⟩ | ⟨-, heq⟩
    · rw [heq]
    · rw [heq]
      rfl
  rcases resume_cases s t with heq | heq | heq
  · rw [heq]
  · rw [heq, hstop]
  · rw [heq, modify_log, hstop]

omit [DecidableEq App] in
lemma threadSleep_log (s : System Tid App) (t : Tid) (tick : BitVec 32) (asked : ℤ) :
    ∃ rs, (threadSleep s t tick asked).log = s.log ++ rs ∧ ∀ r ∈ rs, r.Ends s := by
  unfold threadSleep
  dsimp only
  split
  · rw [sleepReturns_log, modify_log]
    refine ⟨_, rfl, fun r hr => ?_⟩
    rw [List.mem_singleton.mp hr]
    exact ⟨by rintro ⟨⟩, by rintro ⟨⟩⟩
  · exact ⟨[], (List.append_nil _).symm, by simp⟩

/-- What a step adds to the returns. -/
lemma Inv.log_step (h : Inv s) {a : Action Tid App} (hs : step s a = some s') :
    ∃ rs, s'.log = s.log ++ rs ∧ ∀ r ∈ rs, r.Ends s := by
  have hnil (heq : s'.log = s.log) : ∃ rs, s'.log = s.log ++ rs ∧ ∀ r ∈ rs, r.Ends s :=
    ⟨[], heq.trans (List.append_nil _).symm, by simp⟩
  cases a with
  | delay t tick =>
    simp only [step, Option.ite_none_right_eq_some, Option.some.injEq] at hs
    obtain ⟨-, rfl⟩ := hs
    exact threadSleep_log s t _ _
  | mdelay t ms =>
    simp only [step, Option.ite_none_right_eq_some, Option.some.injEq] at hs
    obtain ⟨-, rfl⟩ := hs
    exact threadSleep_log s t _ _
  | setTick t tick incTick =>
    simp only [step, Option.ite_none_right_eq_some, Option.some.injEq] at hs
    obtain ⟨-, rfl⟩ := hs
    exact hnil rfl
  | delayUntil t =>
    simp only [step, Option.ite_none_right_eq_some, Option.some.injEq] at hs
    obtain ⟨-, rfl⟩ := hs
    exact hnil rfl
  | goOn t =>
    simp only [step, Option.ite_none_right_eq_some, Option.some.injEq] at hs
    obtain ⟨⟨-, hgo⟩, rfl⟩ := hs
    exact (h.thread t).log_goOn hgo
  | threadResume t =>
    obtain rfl := Option.some.inj hs
    exact hnil (resume_log s t)
  | suspend t =>
    simp only [step, Option.ite_none_right_eq_some, Option.some.injEq] at hs
    obtain ⟨-, rfl⟩ := hs
    exact hnil (suspend_log s t)
  | threadTimer t time =>
    simp only [step, Option.ite_none_right_eq_some, Option.some.injEq] at hs
    obtain ⟨-, rfl⟩ := hs
    exact hnil rfl
  | timer c =>
    obtain rfl := Option.some.inj hs
    exact hnil rfl
  | tick =>
    obtain ⟨tm, -, rfl⟩ := Option.map_eq_some_iff.mp hs
    exact hnil rfl
  | check =>
    obtain ⟨tm, -, rfl⟩ := Option.map_eq_some_iff.mp hs
    exact hnil rfl
  | ret =>
    simp only [step] at hs
    split at hs
    · next i hpc =>
      obtain ⟨tm, -, rfl⟩ := Option.map_eq_some_iff.mp hs
      exact hnil (timeoutFunc_timers s i).2
    · cases hs

/-- **The invariant at every step.** -/
theorem Inv.step {a : Action Tid App} (h : Inv s) (hr : InRange a) (hs : step s a = some s') : Inv s' where
  clock := h.clock.step hs
  thread t := by
    by_cases ht : Acts s t a
    · exact h.own_step hr hs ht
    · exact (h.thread t).leaves h.clock (h.leaves_step hs ht)
  log := by
    obtain ⟨rs, heq, hrs⟩ := h.log_step hs
    rw [heq]
    intro r hr'
    rcases List.mem_append.mp hr' with hr' | hr'
    · exact h.log r hr'
    · exact (hrs r hr').well

end N32L43x.Delay
