import N32L43x.Delay.Steps

/-!
Delays are not early.  The timer of a thread counts a deadline as passed only when it is, as long as the
delay is not much longer than half the range of the tick; and the deadlines of `rt_thread_delay_until` keep
their distance, as long as no tick is counted while it sets the timer.
-/

namespace N32L43x.Delay

open N32L43x.Timer N32L43x.Ipc N32L43x.Lib.Run

variable {Tid App : Type} [DecidableEq Tid] [DecidableEq App] {s s' : System Tid App} {t u : Tid}

/-! ### The fields that the calls of a thread leave alone -/

/-- What a thread has for its calls of `rt_thread_delay_until`. -/
structure SameHistory (th th' : Thread) : Prop where
  tick : th'.tick = th.tick
  incTick : th'.incTick = th.incTick
  start : th'.start = th.start
  deadlines : th'.deadlines = th.deadlines
  late : th'.late = th.late

lemma SameHistory.refl (th : Thread) : SameHistory th th := ⟨rfl, rfl, rfl, rfl, rfl⟩

/-- The timer of the thread is stopped. -/
lemma timerStop_spec (s : System Tid App) (t : Tid) :
    SameHistory (s.thread t) ((rtSchedThreadTimerStop s t).1.thread t) ∧
      ((rtSchedThreadTimerStop s t).1.thread t).waker = (s.thread t).waker ∧
      ((rtSchedThreadTimerStop s t).1.thread t).pc = (s.thread t).pc ∧
      (rtSchedThreadTimerStop s t).1.timers.tick = s.timers.tick := by
  rcases timerStop_cases s t with ⟨-, heq⟩ | ⟨-, heq⟩
  · rw [heq]
    exact ⟨SameHistory.refl _, rfl, rfl, rfl⟩
  · rw [heq, modify_thread_self]
    exact ⟨⟨rfl, rfl, rfl, rfl, rfl⟩, rfl, rfl, call_tick _ _⟩

/-- The thread is suspended. -/
lemma suspend_spec (s : System Tid App) (t : Tid) :
    SameHistory (s.thread t) ((rtThreadSuspendWithFlag s t).1.thread t) ∧
      ((rtThreadSuspendWithFlag s t).1.thread t).waker = (s.thread t).waker ∧
      ((rtThreadSuspendWithFlag s t).1.thread t).pc = (s.thread t).pc ∧
      (rtThreadSuspendWithFlag s t).1.timers.tick = s.timers.tick := by
  rcases suspend_cases s t with ⟨heq, -⟩ | heq
  · rw [heq]
    exact ⟨SameHistory.refl _, rfl, rfl, rfl⟩
  · rw [heq]
    obtain ⟨hsame, hwaker, hpc, htick⟩ := timerStop_spec (s.modify t fun th => { th with suspended := true }) t
    rw [modify_thread_self] at hsame hwaker hpc
    exact ⟨⟨hsame.tick, hsame.incTick, hsame.start, hsame.deadlines, hsame.late⟩, hwaker, hpc, htick⟩

/-- Somebody calls `rt_thread_resume`. -/
lemma resume_spec (s : System Tid App) (t : Tid) :
    SameHistory (s.thread t) ((rtThreadResume s t).1.thread t) ∧
      ((rtThreadResume s t).1.thread t).pc = (s.thread t).pc := by
  obtain ⟨hsame, -, hpc, -⟩ := timerStop_spec s t
  rcases resume_cases s t with heq | heq | heq
  · rw [heq]
    exact ⟨SameHistory.refl _, rfl⟩
  · rw [heq]
    exact ⟨hsame, hpc⟩
  · rw [heq, modify_thread_self]
    exact ⟨⟨hsame.tick, hsame.incTick, hsame.start, hsame.deadlines, hsame.late⟩, hpc⟩

omit [DecidableEq App] in
/-- `_thread_sleep` is called. -/
lemma threadSleep_spec (s : System Tid App) (t : Tid) (tick : BitVec 32) (asked : ℤ) :
    SameHistory (s.thread t) ((threadSleep s t tick asked).thread t) ∧
      ((threadSleep s t tick asked).thread t).waker = none ∧
      (((threadSleep s t tick asked).thread t).pc = .idle ∨
        ((threadSleep s t tick asked).thread t).pc = .suspending .sleep tick) := by
  unfold threadSleep
  dsimp only
  split
  · rw [sleepReturns_thread, modify_thread_self, modify_thread_self]
    exact ⟨⟨rfl, rfl, rfl, rfl, rfl⟩, rfl, .inl rfl⟩
  · rw [modify_thread_self, modify_thread_self]
    exact ⟨⟨rfl, rfl, rfl, rfl, rfl⟩, rfl, .inr rfl⟩

/-! ### Who wakes a thread up -/

/-- Nobody but its timer has woken a thread up in its sleep. -/
def NotResumed (s : System Tid App) (t : Tid) : Prop :=
  (s.thread t).pc.sleeps = true → (s.thread t).waker ≠ some .threadResume

/-- A thread that goes on keeps its waker, and does not get into a sleep. -/
lemma goOn_waker (h : ThreadInv s t) (hc : Clock s) :
    ((goOn s t).thread t).waker = (s.thread t).waker ∧
      (((goOn s t).thread t).pc.sleeps = true → (s.thread t).pc.sleeps = true) := by
  unfold goOn
  cases hat : (s.thread t).pc with
  | idle => exact ⟨rfl, fun hs => by rwa [hat] at hs⟩
  | reading =>
    show ((delayUntilRead s t).thread t).waker = _ ∧ (((delayUntilRead s t).thread t).pc.sleeps = true → _)
    unfold delayUntilRead
    dsimp only
    split
    · rw [modify_thread_self]
      exact ⟨rfl, id⟩
    · rw [modify_thread_self]
      exact ⟨rfl, id⟩
  | suspending r tick =>
    obtain ⟨-, hwaker, -⟩ := suspend_spec s t
    show ((afterSuspend (rtThreadSuspendWithFlag s t).1 t tick (rtThreadSuspendWithFlag s t).2 r).thread
      t).waker = _ ∧ (((afterSuspend (rtThreadSuspendWithFlag s t).1 t tick
        (rtThreadSuspendWithFlag s t).2 r).thread t).pc.sleeps = true → _)
    rcases afterSuspend_cases (rtThreadSuspendWithFlag s t).1 t tick (rtThreadSuspendWithFlag s t).2 r with
      heq | ⟨-, rfl, heq⟩
    · rw [heq, modify_thread_self]
      refine ⟨hwaker, ?_⟩
      cases r <;> exact id
    · rw [heq, sleepReturns_thread, modify_thread_self]
      exact ⟨hwaker, fun _ => rfl⟩
  | setting r tick =>
    obtain ⟨hthread, -⟩ := h.setTime hc tick
    dsimp only
    rw [modify_thread_self, hthread]
    cases r <;> exact ⟨rfl, id⟩
  | starting r =>
    obtain ⟨hthread, -⟩ := threadTimerStart_spec s t
    cases r with
    | sleep =>
      dsimp only
      rw [modify_thread_self, hthread]
      exact ⟨rfl, id⟩
    | delayUntil =>
      dsimp only
      rw [modify_thread_self, hthread]
      exact ⟨rfl, id⟩
  | marking =>
    dsimp only
    rw [modify_thread_self]
    exact ⟨rfl, id⟩
  | sleeping r =>
    cases r with
    | sleep =>
      dsimp only
      rw [sleepReturns_thread, modify_thread_self, modify_thread_self]
      exact ⟨rfl, fun _ => rfl⟩
    | delayUntil =>
      dsimp only
      rw [modify_thread_self, modify_thread_self]
      exact ⟨rfl, id⟩

omit [DecidableEq Tid] [DecidableEq App] in
lemma NotResumed.same (h : NotResumed s t) (hpc : (s'.thread t).pc = (s.thread t).pc)
    (hwaker : (s'.thread t).waker = (s.thread t).waker) : NotResumed s' t := by
  unfold NotResumed
  rw [hpc, hwaker]
  exact h

/-- No step within the condition ends a sleep by `rt_thread_resume`. -/
lemma NotResumed.step (hn : NotResumed s t) (h : Inv s) {a : Action Tid App} (hk : KeepsDelays s a)
    (hs : step s a = some s') : NotResumed s' t := by
  by_cases ht : Acts s t a
  · cases a with
    | delay u tick =>
      obtain rfl : u = t := ht
      simp only [Delay.step, Option.ite_none_right_eq_some, Option.some.injEq] at hs
      obtain ⟨-, rfl⟩ := hs
      intro _
      rw [rtThreadDelay, (threadSleep_spec s u tick _).2.1]
      rintro ⟨⟩
    | mdelay u ms =>
      obtain rfl : u = t := ht
      simp only [Delay.step, Option.ite_none_right_eq_some, Option.some.injEq] at hs
      obtain ⟨-, rfl⟩ := hs
      intro _
      rw [rtThreadMdelay, (threadSleep_spec s u _ _).2.1]
      rintro ⟨⟩
    | setTick u tick incTick =>
      obtain rfl : u = t := ht
      simp only [Delay.step, Option.ite_none_right_eq_some, Option.some.injEq] at hs
      obtain ⟨-, rfl⟩ := hs
      refine hn.same ?_ ?_
      · rw [modify_thread_self]
      · rw [modify_thread_self]
    | delayUntil u =>
      obtain rfl : u = t := ht
      simp only [Delay.step, Option.ite_none_right_eq_some, Option.some.injEq] at hs
      obtain ⟨-, rfl⟩ := hs
      unfold NotResumed
      rw [modify_thread_self]
      rintro ⟨⟩
    | goOn u =>
      obtain rfl : u = t := ht
      simp only [Delay.step, Option.ite_none_right_eq_some, Option.some.injEq] at hs
      obtain ⟨-, rfl⟩ := hs
      obtain ⟨hwaker, hsleeps⟩ := goOn_waker (h.thread u) h.clock
      intro hsl
      rw [hwaker]
      exact hn (hsleeps hsl)
    | threadResume u =>
      obtain rfl : u = t := ht
      obtain rfl := Option.some.inj hs
      have hout : (s.thread u).pc.sleeps = false := hk
      intro hsl
      rw [(resume_spec s u).2, hout] at hsl
      cases hsl
    | suspend u =>
      obtain rfl : u = t := ht
      simp only [Delay.step, Option.ite_none_right_eq_some, Option.some.injEq] at hs
      obtain ⟨-, rfl⟩ := hs
      obtain ⟨-, hwaker, hpc, -⟩ := suspend_spec s u
      exact hn.same hpc hwaker
    | threadTimer u time =>
      obtain rfl : u = t := ht
      simp only [Delay.step, Option.ite_none_right_eq_some, Option.some.injEq] at hs
      obtain ⟨-, rfl⟩ := hs
      obtain ⟨hthread, -⟩ := threadTimerStart_spec (rtTimerSetTime s u time) u
      refine hn.same ?_ ?_
      · rw [hthread]
        rfl
      · rw [hthread]
        rfl
    | timer c => exact ht.elim
    | tick =>
      obtain ⟨tm, -, rfl⟩ := Option.map_eq_some_iff.mp hs
      exact hn
    | check => exact ht.elim
    | ret =>
      have hcall : s.timers.pc = .callback (.inl t) := ht
      simp only [Delay.step, hcall] at hs
      obtain ⟨tm, -, rfl⟩ := Option.map_eq_some_iff.mp hs
      have hwaker : ((threadTimeout s t).thread t).waker = some .timeout := by
        unfold threadTimeout
        rw [modify_thread_self]
      intro _
      show ((threadTimeout s t).thread t).waker ≠ _
      rw [hwaker]
      rintro ⟨⟩
  · have hl := h.leaves_step hs ht
    exact hn.same (by rw [hl.thread]) (by rw [hl.thread])

/-! ### The wake-ups of `rt_thread_delay_until` -/

lemma wakeups_succ (start incTick : BitVec 32) (n : ℕ) : wakeups start incTick (n + 1) =
    wakeups start incTick n ++ [start + BitVec.ofNat 32 (n + 1) * incTick] := by
  simp [wakeups, List.range_succ]

/-- The variable of the thread is the time of the wake-up number `n`. -/
def Thread.At (th : Thread) (n : ℕ) : Prop := th.tick = th.start + BitVec.ofNat 32 n * th.incTick

/-- The timer of a thread in `rt_thread_delay_until` is set for the next wake-up. -/
def UntilAt (s : System Tid App) (t : Tid) : Pc → Prop
  | .suspending .delayUntil left | .setting .delayUntil left =>
    s.timers.tick + left = (s.thread t).tick ∧ (s.thread t).At ((s.thread t).deadlines.length + 1)
  | .starting .delayUntil =>
    s.timers.tick + (s.timers.timer (.inl t)).initTick = (s.thread t).tick ∧
      (s.thread t).At ((s.thread t).deadlines.length + 1)
  | _ => (s.thread t).At (s.thread t).deadlines.length

/-- The invariant of a thread that calls `rt_thread_delay_until`. -/
def UntilInv (s : System Tid App) (t : Tid) : Prop :=
  (s.thread t).late = false →
    (s.thread t).deadlines = wakeups (s.thread t).start (s.thread t).incTick (s.thread t).deadlines.length ∧
      UntilAt s t (s.thread t).pc

omit [DecidableEq Tid] [DecidableEq App] in
/-- A step that leaves the variables of the thread alone, outside of the setting of its timer. -/
lemma UntilInv.same (h : UntilInv s t) (hsame : SameHistory (s.thread t) (s'.thread t))
    (hat : UntilAt s t (s.thread t).pc → (s.thread t).late = false → UntilAt s' t (s'.thread t).pc) :
    UntilInv s' t := by
  intro hlate
  rw [hsame.late] at hlate
  obtain ⟨hdead, hpc⟩ := h hlate
  rw [hsame.deadlines, hsame.start, hsame.incTick]
  exact ⟨hdead, hat hpc hlate⟩

lemma SameHistory.at_iff {th th' : Thread} (h : SameHistory th th') (n : ℕ) : th'.At n ↔ th.At n := by
  unfold Thread.At
  rw [h.tick, h.start, h.incTick]

omit [DecidableEq Tid] [DecidableEq App] in
/-- Where the thread sets no timer, only its variable counts. -/
lemma untilAt_of_not_approaches {pc : Pc} (hpc : pc.approaches = false) :
    UntilAt s t pc ↔ (s.thread t).At (s.thread t).deadlines.length := by
  cases pc with
  | suspending r tick =>
    cases r with
    | sleep => exact Iff.rfl
    | delayUntil => cases hpc
  | setting r tick =>
    cases r with
    | sleep => exact Iff.rfl
    | delayUntil => cases hpc
  | starting r =>
    cases r with
    | sleep => exact Iff.rfl
    | delayUntil => cases hpc
  | idle | reading | marking | sleeping r => exact Iff.rfl

omit [DecidableEq Tid] [DecidableEq App] in
/-- A step from and to places where the thread sets no timer. -/
lemma UntilInv.rest (h : UntilInv s t) (hsame : SameHistory (s.thread t) (s'.thread t))
    (hpc : (s.thread t).pc.approaches = false) (hpc' : (s'.thread t).pc.approaches = false) :
    UntilInv s' t := by
  refine h.same hsame fun hat _ => ?_
  rw [untilAt_of_not_approaches hpc] at hat
  rw [untilAt_of_not_approaches hpc', hsame.deadlines, hsame.at_iff]
  exact hat

omit [DecidableEq Tid] [DecidableEq App] in
/-- A step that leaves the clock and the thread alone. -/
lemma UntilInv.keep (h : UntilInv s t) (hsame : SameHistory (s.thread t) (s'.thread t))
    (hpc : (s'.thread t).pc = (s.thread t).pc) (htick : s'.timers.tick = s.timers.tick)
    (hinit : (s'.timers.timer (.inl t)).initTick = (s.timers.timer (.inl t)).initTick) :
    UntilInv s' t := by
  refine h.same hsame fun hat _ => ?_
  rw [hpc]
  have hrest (hno : (s.thread t).pc.approaches = false) : UntilAt s' t (s.thread t).pc := by
    rw [untilAt_of_not_approaches hno] at hat ⊢
    rw [hsame.deadlines, hsame.at_iff]
    exact hat
  cases hp : (s.thread t).pc with
  | suspending r tick =>
    rw [hp] at hat hrest
    cases r with
    | sleep => exact hrest rfl
    | delayUntil =>
      refine ⟨?_, ?_⟩
      · rw [htick, hsame.tick]
        exact hat.1
      · rw [hsame.deadlines, hsame.at_iff]
        exact hat.2
  | setting r tick =>
    rw [hp] at hat hrest
    cases r with
    | sleep => exact hrest rfl
    | delayUntil =>
      refine ⟨?_, ?_⟩
      · rw [htick, hsame.tick]
        exact hat.1
      · rw [hsame.deadlines, hsame.at_iff]
        exact hat.2
  | starting r =>
    rw [hp] at hat hrest
    cases r with
    | sleep => exact hrest rfl
    | delayUntil =>
      refine ⟨?_, ?_⟩
      · rw [htick, hinit, hsame.tick]
        exact hat.1
      · rw [hsame.deadlines, hsame.at_iff]
        exact hat.2
  | idle | reading | marking | sleeping r =>
    rw [hp] at hrest
    exact hrest rfl

omit [DecidableEq App] in
/-- `rt_thread_delay_until` reads the tick, and is not late. -/
lemma UntilInv.read (h : UntilInv s t) (hat : (s.thread t).pc = .reading) :
    UntilInv (delayUntilRead s t) t := by
  unfold delayUntilRead
  dsimp only
  split
  · intro hlate
    rw [modify_thread_self] at hlate ⊢
    obtain ⟨hdead, hnow⟩ := h hlate
    rw [hat] at hnow
    have hnow : (s.thread t).tick =
      (s.thread t).start + BitVec.ofNat 32 (s.thread t).deadlines.length * (s.thread t).incTick := hnow
    refine ⟨hdead, ?_, ?_⟩
    · rw [modify_thread_self, modify_timers]
      generalize (s.thread t).tick + (s.thread t).incTick = tick
      bv_omega
    · rw [modify_thread_self]
      show (s.thread t).tick + (s.thread t).incTick = _ + _ * _
      rw [hnow, BitVec.ofNat_add, BitVec.add_mul, BitVec.one_mul, BitVec.add_assoc]
  · intro hlate
    rw [modify_thread_self] at hlate
    cases hlate

/-- **The timer of `rt_thread_delay_until` is started for the next wake-up.** -/
lemma UntilInv.started (h : UntilInv s t) (hat : (s.thread t).pc = .starting .delayUntil) :
    UntilInv ((threadTimerStart s t).modify t fun th =>
      { th with
        pc := .sleeping .delayUntil
        deadlines := th.deadlines ++ [((threadTimerStart s t).timers.timer (.inl t)).timeoutTick] }) t := by
  obtain ⟨hthread, -, -, htimeout, -⟩ := threadTimerStart_spec s t
  intro hlate
  rw [modify_thread_self, hthread] at hlate ⊢
  obtain ⟨hdead, hnext⟩ := h hlate
  rw [hat] at hnext
  obtain ⟨htick, hnext⟩ := hnext
  have hnext : (s.thread t).tick =
    (s.thread t).start + BitVec.ofNat 32 ((s.thread t).deadlines.length + 1) * (s.thread t).incTick := hnext
  refine ⟨?_, ?_⟩
  · show (s.thread t).deadlines ++ [_] = wakeups _ _ ((s.thread t).deadlines ++ [_]).length
    rw [List.length_append, List.length_singleton, wakeups_succ, ← hdead, htimeout, htick, hnext]
  · show Thread.At _ _
    rw [modify_thread_self, hthread]
    show (s.thread t).tick = _ + BitVec.ofNat 32 ((s.thread t).deadlines ++ [_]).length * _
    rw [List.length_append, List.length_singleton]
    exact hnext

/-- The thread that goes on. -/
lemma UntilInv.goOn (h : UntilInv s t) (hi : ThreadInv s t) (hc : Clock s) : UntilInv (goOn s t) t := by
  unfold Delay.goOn
  cases hat : (s.thread t).pc with
  | idle => exact h
  | reading => exact h.read hat
  | suspending r tick =>
    obtain ⟨hsame, -, -, htick⟩ := suspend_spec s t
    show UntilInv (afterSuspend (rtThreadSuspendWithFlag s t).1 t tick (rtThreadSuspendWithFlag s t).2 r) t
    rcases afterSuspend_cases (rtThreadSuspendWithFlag s t).1 t tick (rtThreadSuspendWithFlag s t).2 r with
      heq | ⟨-, rfl, heq⟩
    · rw [heq]
      have hsame' : SameHistory (s.thread t) (((rtThreadSuspendWithFlag s t).1.modify t fun th =>
          { th with pc := .setting r tick }).thread t) := by
        rw [modify_thread_self]
        exact ⟨hsame.tick, hsame.incTick, hsame.start, hsame.deadlines, hsame.late⟩
      cases r with
      | sleep =>
        refine h.rest hsame' ?_ ?_
        · rw [hat]
          rfl
        · rw [modify_thread_self]
          rfl
      | delayUntil =>
        refine h.same hsame' fun hnext _ => ?_
        rw [hat] at hnext
        rw [modify_thread_self]
        refine ⟨?_, ?_⟩
        · rw [hsame'.tick, modify_timers, htick]
          exact hnext.1
        · rw [hsame'.deadlines, hsame'.at_iff]
          exact hnext.2
    · rw [heq]
      refine h.rest ?_ ?_ ?_
      · rw [sleepReturns_thread, modify_thread_self]
        exact ⟨hsame.tick, hsame.incTick, hsame.start, hsame.deadlines, hsame.late⟩
      · rw [hat]
        rfl
      · rw [sleepReturns_thread, modify_thread_self]
        rfl
  | setting r tick =>
    obtain ⟨hthread, -, hinit, -, -, htick, -⟩ := hi.setTime hc tick
    have hsame : SameHistory (s.thread t) (((rtTimerSetTime s t tick).modify t fun th =>
        { th with pc := .starting r }).thread t) := by
      rw [modify_thread_self, hthread]
      exact ⟨rfl, rfl, rfl, rfl, rfl⟩
    cases r with
    | sleep =>
      refine h.rest hsame ?_ ?_
      · rw [hat]
        rfl
      · rw [modify_thread_self]
        rfl
    | delayUntil =>
      refine h.same hsame fun hnext _ => ?_
      rw [hat] at hnext
      rw [modify_thread_self]
      refine ⟨?_, ?_⟩
      · rw [hsame.tick, modify_timers, htick, hinit]
        exact hnext.1
      · rw [hsame.deadlines, hsame.at_iff]
        exact hnext.2
  | starting r =>
    cases r with
    | sleep =>
      obtain ⟨hthread, -⟩ := threadTimerStart_spec s t
      refine h.rest ?_ ?_ ?_
      · rw [modify_thread_self, hthread]
        exact ⟨rfl, rfl, rfl, rfl, rfl⟩
      · rw [hat]
        rfl
      · rw [modify_thread_self]
        rfl
    | delayUntil => exact h.started hat
  | marking =>
    refine h.rest ?_ ?_ ?_
    · rw [modify_thread_self]
      exact ⟨rfl, rfl, rfl, rfl, rfl⟩
    · rw [hat]
      rfl
    · rw [modify_thread_self]
      rfl
  | sleeping r =>
    have hno : (s.thread t).pc.approaches = false := by
      rw [hat]
      cases r <;> rfl
    cases r with
    | sleep =>
      refine h.rest ?_ hno ?_
      · dsimp only
        rw [sleepReturns_thread, modify_thread_self, modify_thread_self]
        exact ⟨rfl, rfl, rfl, rfl, rfl⟩
      · dsimp only
        rw [sleepReturns_thread, modify_thread_self]
        rfl
    | delayUntil =>
      refine h.rest ?_ hno ?_
      · dsimp only
        rw [modify_thread_self, modify_thread_self]
        exact ⟨rfl, rfl, rfl, rfl, rfl⟩
      · dsimp only
        rw [modify_thread_self]
        rfl

/-- Every step within the condition. -/
lemma UntilInv.step (hu : UntilInv s t) (h : Inv s) {a : Action Tid App} (hk : KeepsDelays s a)
    (hs : step s a = some s') : UntilInv s' t := by
  by_cases ht : Acts s t a
  · cases a with
    | delay u tick =>
      obtain rfl : u = t := ht
      simp only [Delay.step, Option.ite_none_right_eq_some, Option.some.injEq] at hs
      obtain ⟨⟨hout, -⟩, rfl⟩ := hs
      obtain ⟨hsame, -, hpc⟩ := threadSleep_spec s u tick tick.toNat
      refine hu.rest hsame (by rw [hout.2]; rfl) ?_
      rcases hpc with hpc | hpc <;> exact congrArg Pc.approaches hpc
    | mdelay u ms =>
      obtain rfl : u = t := ht
      simp only [Delay.step, Option.ite_none_right_eq_some, Option.some.injEq] at hs
      obtain ⟨⟨hout, -⟩, rfl⟩ := hs
      obtain ⟨hsame, -, hpc⟩ := threadSleep_spec s u (rtTickFromMillisecond ms) (ceilTicks ms)
      refine hu.rest hsame (by rw [hout.2]; rfl) ?_
      rcases hpc with hpc | hpc <;> exact congrArg Pc.approaches hpc
    | setTick u tick incTick =>
      obtain rfl : u = t := ht
      simp only [Delay.step, Option.ite_none_right_eq_some, Option.some.injEq] at hs
      obtain ⟨⟨hout, -⟩, rfl⟩ := hs
      intro _
      rw [modify_thread_self]
      refine ⟨rfl, ?_⟩
      show UntilAt _ u (s.thread u).pc
      rw [hout.2]
      show Thread.At _ _
      rw [modify_thread_self]
      show tick = tick + BitVec.ofNat 32 0 * incTick
      simp
    | delayUntil u =>
      obtain rfl : u = t := ht
      simp only [Delay.step, Option.ite_none_right_eq_some, Option.some.injEq] at hs
      obtain ⟨⟨hout, -⟩, rfl⟩ := hs
      refine hu.rest ?_ (by rw [hout.2]; rfl) ?_
      · rw [modify_thread_self]
        exact ⟨rfl, rfl, rfl, rfl, rfl⟩
      · rw [modify_thread_self]
        rfl
    | goOn u =>
      obtain rfl : u = t := ht
      simp only [Delay.step, Option.ite_none_right_eq_some, Option.some.injEq] at hs
      obtain ⟨-, rfl⟩ := hs
      exact hu.goOn (h.thread u) h.clock
    | threadResume u =>
      obtain rfl : u = t := ht
      obtain rfl := Option.some.inj hs
      obtain ⟨hsame, hpc⟩ := resume_spec s u
      obtain ⟨-, -, hf, -, htick, -⟩ := (h.thread u).timerStop h.clock
      refine hu.keep hsame hpc ?_ ?_
      · rcases resume_cases s u with heq | heq | heq
        · rw [heq]
        · rw [heq, htick]
        · rw [heq, modify_timers, htick]
      · rcases resume_cases s u with heq | heq | heq
        · rw [heq]
        · rw [heq, hf.initTick]
        · rw [heq, modify_timers, hf.initTick]
    | suspend u =>
      obtain rfl : u = t := ht
      simp only [Delay.step, Option.ite_none_right_eq_some, Option.some.injEq] at hs
      obtain ⟨hout, rfl⟩ := hs
      obtain ⟨hsame, -, hpc, -⟩ := suspend_spec s u
      refine hu.rest hsame (by rw [hout.2]; rfl) ?_
      rw [hpc, hout.2]
      rfl
    | threadTimer u time =>
      obtain rfl : u = t := ht
      simp only [Delay.step, Option.ite_none_right_eq_some, Option.some.injEq] at hs
      obtain ⟨hout, rfl⟩ := hs
      obtain ⟨hthread, -⟩ := threadTimerStart_spec (rtTimerSetTime s u time) u
      have hthread : (threadTimerStart (rtTimerSetTime s u time) u).thread u =
        { s.thread u with ttmrSet := true } := hthread
      refine hu.rest ?_ (by rw [hout.2]; rfl) ?_
      · rw [hthread]
        exact ⟨rfl, rfl, rfl, rfl, rfl⟩
      · rw [hthread]
        show (s.thread u).pc.approaches = false
        rw [hout.2]
        rfl
    | timer c => exact ht.elim
    | tick =>
      obtain ⟨tm, -, rfl⟩ := Option.map_eq_some_iff.mp hs
      have hno : ∀ u, (s.thread u).pc.approaches = false := hk
      exact hu.rest (SameHistory.refl _) (hno t) (hno t)
    | check => exact ht.elim
    | ret =>
      have hcall : s.timers.pc = .callback (.inl t) := ht
      simp only [Delay.step, hcall] at hs
      obtain ⟨tm, hret, rfl⟩ := Option.map_eq_some_iff.mp hs
      have hclock : Clock (threadTimeout s t) := h.clock.modify t _
      have hl := (hclock.retStep hret).2 t (h.thread t).oneshot
      have hthread : (threadTimeout s t).thread t =
          { s.thread t with error := .etimeout, suspended := false, waker := some .timeout } :=
        modify_thread_self _
      refine hu.keep ?_ ?_ hl.tick hl.frames.initTick
      · show SameHistory _ ((threadTimeout s t).thread t)
        rw [hthread]
        exact ⟨rfl, rfl, rfl, rfl, rfl⟩
      · show ((threadTimeout s t).thread t).pc = _
        rw [hthread]
  · have hl := h.leaves_step hs ht
    refine hu.keep ?_ (by rw [hl.thread]) hl.tick hl.frames.initTick
    rw [hl.thread]
    exact SameHistory.refl _

/-! ### Every run -/

/-- What holds in every run within the condition. -/
structure Keeps (s : System Tid App) : Prop where
  inv : Inv s
  notResumed : ∀ t, NotResumed s t
  until_ : ∀ t, UntilInv s t
  log : ∀ r ∈ s.log, r.Kept

omit [DecidableEq Tid] [DecidableEq App] in
lemma KeepsDelays.inRange {a : Action Tid App} (h : KeepsDelays s a) : InRange a := by
  cases a with
  | delay t tick => exact h
  | _ => trivial

lemma Keeps.step {a : Action Tid App} (h : Keeps s) (hk : KeepsDelays s a) (hs : step s a = some s') :
    Keeps s' where
  inv := h.inv.step hk.inRange hs
  notResumed t := (h.notResumed t).step h.inv hk hs
  until_ t := (h.until_ t).step h.inv hk hs
  log := by
    obtain ⟨rs, heq, hrs⟩ := h.inv.log_step hs
    rw [heq]
    intro r hr
    rcases List.mem_append.mp hr with hr | hr
    · exact h.log r hr
    · intro hok
      obtain ⟨t, hsl, hwaker⟩ := (hrs r hr).sleeps hok
      refine ((hrs r hr).well hok).resolve_left ?_
      rw [hwaker]
      exact h.notResumed t hsl

/-- Whatever else happens, a delay in range that returns `RT_EOK` was as long as asked, or somebody called
`rt_thread_resume`. -/
theorem delays_end_well (tick : BitVec 32) (periodic : App → Bool) (time : App → BitVec 32)
    (as : List (Action Tid App)) (hr : ∀ a ∈ as, InRange a)
    (hs : exec step (init tick periodic time) as = some s) : ∀ r ∈ s.log, r.EndsWell := by
  have hstep : ∀ (s : System Tid App) a s', Inv s → InRange a → step s a = some s' → Inv s' :=
    fun _ _ _ h hr hs => h.step hr hs
  exact (exec_inv_of_along hstep as _ s (inv_init tick periodic time) (along_of_forall as _ hr) hs).log

instance (r : Return Tid) : Decidable r.Kept := inferInstanceAs (Decidable (_ → _))

instance (th : Thread) : Decidable th.Periodic := inferInstanceAs (Decidable (_ → _))

instance [Fintype Tid] (s : System Tid App) (a : Action Tid App) : Decidable (KeepsDelays s a) :=
  match a with
  | .delay _ tick => inferInstanceAs (Decidable (tick.toNat ≤ longestDelay))
  | .threadResume t => inferInstanceAs (Decidable ((s.thread t).pc.sleeps = false))
  | .tick => inferInstanceAs (Decidable (∀ t, (s.thread t).pc.approaches = false))
  | .mdelay .. | .setTick .. | .delayUntil _ | .goOn _ | .suspend _ | .threadTimer .. | .timer _ | .check | .ret =>
    isTrue trivial

/-- A tick, and the check after it, which finds nothing due. -/
def tickOnly : List (Action Unit Unit) := [.tick, .check]

/-- A tick that wakes a thread up. -/
def tickWakes : List (Action Unit Unit) := [.tick, .check, .ret]

/-- A delay of two ticks, and a wake-up after three. -/
def keptRun : List (Action Unit Unit) :=
  [.delay () 2#32, .goOn (), .goOn (), .goOn (), .goOn ()] ++ tickOnly ++ tickWakes ++ [.goOn ()] ++
    [.setTick () 2#32 3#32, .delayUntil (), .goOn (), .goOn (), .goOn (), .goOn ()] ++ tickOnly

/-- A delay of more than half the range of the tick. -/
def longRun : List (Action Unit Unit) :=
  [.delay () 0x80000003#32, .goOn (), .goOn (), .goOn (), .goOn ()] ++ tickWakes ++ [.goOn ()]

/-- A thread that is resumed in its sleep. -/
def resumedRun : List (Action Unit Unit) :=
  [.delay () 10#32, .goOn (), .goOn (), .goOn (), .goOn (), .threadResume (), .goOn ()]

/-- A tick that is counted while `rt_thread_delay_until` sets its timer. -/
def tickedRun : List (Action Unit Unit) :=
  [.setTick () 0#32 10#32, .delayUntil (), .goOn (), .goOn ()] ++ tickOnly ++ [.goOn (), .goOn ()]

/-- The state that a run leads to from tick zero. -/
def runFrom (as : List (Action Unit Unit)) : Option (System Unit Unit) :=
  exec step (init 0#32 (fun _ => false) (fun _ => 0#32)) as

end N32L43x.Delay
