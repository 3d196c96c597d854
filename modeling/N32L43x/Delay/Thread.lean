import N32L43x.Delay.Inv

/-!
The invariant of a thread at its own steps, and in the tick interrupt.
-/

namespace N32L43x.Delay

open N32L43x.Timer N32L43x.Ipc N32L43x.Lib.Run

variable {Tid App : Type} [DecidableEq Tid] [DecidableEq App] {s s' : System Tid App} {t u : Tid}

/-! ### The thread that goes on -/

omit [DecidableEq App] in
/-- A write to the fields of a thread. -/
lemma ThreadInv.modify (h : ThreadInv s t) {f : Thread → Thread}
    (hactive : (s.thread t).ttmrSet = true → (f (s.thread t)).ttmrSet = true)
    (hsince : (f (s.thread t)).since ≤ s.timers.now)
    (hsleep : SleepAt (s.modify t f) t (f (s.thread t)).pc) : ThreadInv (s.modify t f) t where
  active hlink := by
    rw [modify_thread_self]
    exact (h.active hlink).imp_right hactive
  oneshot := h.oneshot
  since := by
    rw [modify_thread_self]
    exact hsince
  sleep := by
    rw [modify_thread_self]
    exact hsleep

/-- The timer of a thread is stopped: it is in no list. -/
lemma ThreadInv.timerStop (h : ThreadInv s t) (hc : Clock s) :
    (rtSchedThreadTimerStop s t).1.thread t = { s.thread t with ttmrSet := false } ∧
      .inl t ∉ (rtSchedThreadTimerStop s t).1.timers.timerList ∧
      Frames (.inl t) s.timers (rtSchedThreadTimerStop s t).1.timers ∧
      (rtSchedThreadTimerStop s t).1.timers.now = s.timers.now ∧
      (rtSchedThreadTimerStop s t).1.timers.tick = s.timers.tick ∧
      (rtSchedThreadTimerStop s t).1.timers.pc = s.timers.pc ∧
      (rtSchedThreadTimerStop s t).1.log = s.log := by
  rcases timerStop_cases s t with ⟨hset, heq⟩ | ⟨-, heq⟩
  · rw [heq]
    refine ⟨?_, fun hlink => ?_, Frames.refl _ _, rfl, rfl, rfl, rfl⟩
    · rw [← hset]
    · have hset' := (h.active hlink).2
      rw [hset] at hset'
      cases hset'
  · rw [heq]
    refine ⟨modify_thread_self _, fun hlink => ?_, frames_stop hc.tidy _ _, call_now _ _, call_tick _ _,
      call_pc _ _, rfl⟩
    have hlink' : .inl t ∈ (rtTimerStop s.timers (.inl t)).1.timerList := hlink
    unfold rtTimerStop at hlink'
    split at hlink'
    · next hact =>
      have hact' := (h.active hlink').1
      rw [hact] at hact'
      cases hact'
    · exact not_mem_deactivate hc.tidy _ hlink'

/-- The time of a timer is set: it is in no list. -/
lemma ThreadInv.setTime (h : ThreadInv s t) (hc : Clock s) (tick : BitVec 32) :
    (rtTimerSetTime s t tick).thread t = s.thread t ∧
      .inl t ∉ (rtTimerSetTime s t tick).timers.timerList ∧
      ((rtTimerSetTime s t tick).timers.timer (.inl t)).initTick = tick ∧
      ((rtTimerSetTime s t tick).timers.timer (.inl t)).periodic = false ∧
      (rtTimerSetTime s t tick).timers.now = s.timers.now ∧
      (rtTimerSetTime s t tick).timers.tick = s.timers.tick ∧
      (rtTimerSetTime s t tick).timers.pc = s.timers.pc := by
  have hnow := call_now s.timers (.control (.inl t) (.setTime tick))
  have htick := call_tick s.timers (.control (.inl t) (.setTime tick))
  have hpc := call_pc s.timers (.control (.inl t) (.setTime tick))
  refine ⟨rfl, fun hlink => ?_, ?_, ?_, hnow, htick, hpc⟩
  · have hlink' : .inl t ∈ (rtTimerControl s.timers (.inl t) (.setTime tick)).1.timerList := hlink
    simp only [rtTimerControl] at hlink'
    split at hlink'
    · exact not_mem_deactivate hc.tidy _ hlink'
    · next hact => exact hact (h.active hlink').1
  · simp [rtTimerSetTime, rtTimerControl, setTimer]
  · have hone := h.oneshot
    simp only [rtTimerSetTime, rtTimerControl, setTimer]
    split
    · simpa [deactivate, setTimer, timerRemove] using hone
    · simpa using hone

/-- The timer of a thread is started. -/
lemma threadTimerStart_spec (s : System Tid App) (t : Tid) :
    (threadTimerStart s t).thread t = { s.thread t with ttmrSet := true } ∧
      ((threadTimerStart s t).timers.timer (.inl t)).activated = true ∧
      ((threadTimerStart s t).timers.timer (.inl t)).periodic = (s.timers.timer (.inl t)).periodic ∧
      ((threadTimerStart s t).timers.timer (.inl t)).timeoutTick =
        s.timers.tick + (s.timers.timer (.inl t)).initTick ∧
      (threadTimerStart s t).timers.now = s.timers.now ∧
      (threadTimerStart s t).timers.tick = s.timers.tick ∧
      (threadTimerStart s t).timers.pc = s.timers.pc := by
  refine ⟨modify_thread_self _, ?_, ?_, timerStart_timeoutTick _ _, rfl, rfl, rfl⟩
  · simp [threadTimerStart, rtTimerStart, timerStart, setTimer]
  · simp [threadTimerStart, rtTimerStart, timerStart, setTimer, timerRemove]

omit [DecidableEq App] in
lemma sleepReturns_thread (s : System Tid App) (t : Tid) (ret : IpcErr) :
    (sleepReturns s t ret).thread = (s.modify t fun th => { th with pc := .idle }).thread := rfl

omit [DecidableEq App] in
lemma leaves_sleepReturns (s : System Tid App) (hut : u ≠ t) (ret : IpcErr) :
    Leaves u s (sleepReturns s t ret) := by
  refine Leaves.of_pc ?_ (Frames.refl _ _) rfl rfl rfl
  rw [sleepReturns_thread, modify_thread_of_ne hut]

omit [DecidableEq App] in
/-- A thread that leaves its delay. -/
lemma ThreadInv.sleepReturns (h : ThreadInv s t) (ret : IpcErr) : ThreadInv (sleepReturns s t ret) t where
  active hlink := by
    rw [sleepReturns_thread, modify_thread_self]
    exact h.active hlink
  oneshot := h.oneshot
  since := by
    rw [sleepReturns_thread, modify_thread_self]
    exact h.since
  sleep := by
    rw [sleepReturns_thread, modify_thread_self]
    trivial

omit [DecidableEq App] in
lemma Clock.sleepReturns (h : Clock s) (t : Tid) (ret : IpcErr) : Clock (sleepReturns s t ret) :=
  ⟨h.tidy, h.tick⟩

omit [DecidableEq App] in
lemma afterSuspend_cases (s : System Tid App) (t : Tid) (tick : BitVec 32) (err : RtErr) (r : Routine) :
    afterSuspend s t tick err r = s.modify t (fun th => { th with pc := .setting r tick }) ∨
      err ≠ .eok ∧ r = .sleep ∧ afterSuspend s t tick err r = sleepReturns s t .error := by
  cases r with
  | sleep =>
    cases err with
    | eok => exact .inl rfl
    | _ => exact .inr ⟨RtErr.noConfusion, rfl, rfl⟩
  | delayUntil => cases err <;> exact .inl rfl

/-- The clock goes on as before. -/
lemma Clock.goOn (h : Clock s) (t : Tid) : Clock (goOn s t) := by
  unfold Delay.goOn
  cases (s.thread t).pc with
  | idle => exact h
  | reading =>
    show Clock (delayUntilRead s t)
    unfold delayUntilRead
    dsimp only
    split
    · exact h.modify t _
    · exact h.modify t _
  | suspending r tick =>
    have hsus := h.suspend t
    show Clock (afterSuspend (rtThreadSuspendWithFlag s t).1 t tick (rtThreadSuspendWithFlag s t).2 r)
    rcases afterSuspend_cases (rtThreadSuspendWithFlag s t).1 t tick (rtThreadSuspendWithFlag s t).2 r with
      heq | ⟨-, -, heq⟩
    · rw [heq]
      exact hsus.modify t _
    · rw [heq]
      exact hsus.sleepReturns t _
  | setting r tick => exact (h.setTime t tick).modify t _
  | starting r => cases r <;> exact (h.timerStart t).modify t _
  | marking => exact h.modify t _
  | sleeping r =>
    cases r with
    | sleep => exact (h.modify t _).sleepReturns t _
    | delayUntil => exact (h.modify t _).modify t _

/-- The other threads are left alone. -/
lemma Clock.leaves_goOn (h : Clock s) (hut : u ≠ t) : Leaves u s (Delay.goOn s t) := by
  unfold Delay.goOn
  cases (s.thread t).pc with
  | idle => exact Leaves.refl u s
  | reading =>
    show Leaves u s (delayUntilRead s t)
    unfold delayUntilRead
    dsimp only
    split
    · exact leaves_modify s hut _
    · exact leaves_modify s hut _
  | suspending r tick =>
    have hsus := h.leaves_suspend (u := t) hut
    show Leaves u s (afterSuspend (rtThreadSuspendWithFlag s t).1 t tick (rtThreadSuspendWithFlag s t).2 r)
    rcases afterSuspend_cases (rtThreadSuspendWithFlag s t).1 t tick (rtThreadSuspendWithFlag s t).2 r with
      heq | ⟨-, -, heq⟩
    · rw [heq]
      exact hsus.trans (leaves_modify _ hut _)
    · rw [heq]
      exact hsus.trans (leaves_sleepReturns _ hut _)
  | setting r tick => exact (h.leaves_setTime hut tick).trans (leaves_modify _ hut _)
  | starting r => cases r <;> exact (h.leaves_timerStart hut).trans (leaves_modify _ hut _)
  | marking => exact leaves_modify s hut _
  | sleeping r =>
    cases r with
    | sleep => exact (leaves_modify s hut _).trans (leaves_sleepReturns _ hut _)
    | delayUntil => exact (leaves_modify s hut _).trans (leaves_modify _ hut _)

/-- What a thread in `_thread_sleep` is known by. -/
structure SameSleep (t : Tid) (s s' : System Tid App) : Prop where
  asked : (s'.thread t).asked = (s.thread t).asked
  since : (s'.thread t).since = (s.thread t).since
  suspended : (s'.thread t).suspended = (s.thread t).suspended
  waker : (s'.thread t).waker = (s.thread t).waker
  now : s'.timers.now = s.timers.now
  pc : s'.timers.pc = s.timers.pc

omit [DecidableEq Tid] [DecidableEq App] in
lemma Asleep.same (h : Asleep s t) (hs : SameSleep t s s') : Asleep s' t := by
  have hover : Over s' t ↔ Over s t := by
    unfold Over
    rw [hs.asked, hs.since, hs.now]
  refine ⟨?_, ?_⟩
  · rw [hs.suspended, hs.waker, hover]
    exact h.waker
  · rw [hs.pc, hover]
    exact h.callback

omit [DecidableEq Tid] [DecidableEq App] in
/-- A step that leaves the delay of a thread where it is. -/
lemma SleepAt.keep {pc : Pc} (h : SleepAt s t pc) (hasked : (s'.thread t).asked = (s.thread t).asked)
    (hsince : (s'.thread t).since = (s.thread t).since) (hf : Frames (.inl t) s.timers s'.timers)
    (hnow : s'.timers.now = s.timers.now) (hpc : s'.timers.pc = s.timers.pc)
    (hasleep : Asleep s t → Asleep s' t) : SleepAt s' t pc := by
  have hasks {tick : BitVec 32} (ha : Asks (s.thread t) tick) : Asks (s'.thread t) tick := by
    unfold Asks
    rw [hasked]
    exact ha
  have htimed (hti : Timed s t) : Timed s' t := by
    unfold Timed
    rw [hasked, hsince, hnow, hpc]
    refine hti.imp_right fun hti hlink => ?_
    obtain ⟨hlink, heq⟩ := hf.linked hlink
    rw [heq]
    exact hti hlink
  cases pc with
  | suspending r tick =>
    cases r with
    | sleep => exact hasks h
    | delayUntil => trivial
  | setting r tick =>
    cases r with
    | sleep => exact ⟨hasks h.1, hasleep h.2.1, fun hlink => h.2.2 (hf.linked hlink).1⟩
    | delayUntil => trivial
  | starting r =>
    cases r with
    | sleep =>
      refine ⟨?_, hasleep h.2.1, fun hlink => h.2.2 (hf.linked hlink).1⟩
      rw [hf.initTick]
      exact hasks h.1
    | delayUntil => trivial
  | marking => exact ⟨hasleep h.1, htimed h.2⟩
  | sleeping r =>
    cases r with
    | sleep => exact ⟨hasleep h.1, htimed h.2⟩
    | delayUntil => trivial
  | idle | reading => trivial

omit [DecidableEq App] in
/-- A write to a thread that leaves its delay where it is. -/
lemma ThreadInv.write (h : ThreadInv s t) {f : Thread → Thread}
    (hactive : (s.thread t).ttmrSet = true → (f (s.thread t)).ttmrSet = true)
    (hpc : (f (s.thread t)).pc = (s.thread t).pc) (hasked : (f (s.thread t)).asked = (s.thread t).asked)
    (hsince : (f (s.thread t)).since = (s.thread t).since)
    (hasleep : Asleep s t → Asleep (s.modify t f) t) : ThreadInv (s.modify t f) t := by
  refine h.modify hactive (hsince ▸ h.since) ?_
  rw [hpc]
  refine h.sleep.keep ?_ ?_ (Frames.refl _ _) rfl rfl hasleep
  · rw [modify_thread_self, hasked]
  · rw [modify_thread_self, hsince]

omit [DecidableEq App] in
/-- The status of the thread that runs is changed. -/
lemma ThreadInv.suspendedOnly (h : ThreadInv s t) (hpc : s.timers.pc = .idle) :
    ThreadInv (s.modify t fun th => { th with suspended := true }) t := by
  refine h.write (fun hset => hset) rfl rfl rfl fun _ => ⟨.inl ?_, fun hcall => ?_⟩
  · rw [modify_thread_self]
  · rw [modify_timers, hpc] at hcall
    cases hcall

/-- The thread is suspended, and its timer stopped. -/
lemma ThreadInv.suspended (h : ThreadInv s t) (hc : Clock s) (hpc : s.timers.pc = .idle) {r : Routine}
    {tick : BitVec 32} (hat : (s.thread t).pc = .suspending r tick) :
    ThreadInv ((rtSchedThreadTimerStop (s.modify t fun th => { th with suspended := true }) t).1.modify t
      fun th => { th with pc := .setting r tick }) t := by
  have hsleep := h.sleep
  rw [hat] at hsleep
  obtain ⟨hthread, hnot, hf, hnow, -, hidle, -⟩ := (h.suspendedOnly hpc).timerStop (hc.modify t _)
  rw [modify_thread_self] at hthread
  refine ⟨fun hlink => absurd hlink hnot, hf.periodic.trans h.oneshot, ?_, ?_⟩
  · rw [modify_thread_self, hthread, modify_timers, hnow]
    exact h.since
  · rw [modify_thread_self]
    cases r with
    | sleep =>
      refine ⟨?_, ⟨.inl ?_, fun hcall => ?_⟩, hnot⟩
      · rw [modify_thread_self, hthread]
        exact hsleep
      · rw [modify_thread_self, hthread]
      · rw [modify_timers, hidle, modify_timers, hpc] at hcall
        cases hcall
    | delayUntil => trivial

/-- The time of its timer is set. -/
lemma ThreadInv.timeSet (h : ThreadInv s t) (hc : Clock s) {r : Routine} {tick : BitVec 32}
    (hat : (s.thread t).pc = .setting r tick) :
    ThreadInv ((rtTimerSetTime s t tick).modify t fun th => { th with pc := .starting r }) t := by
  have hsleep := h.sleep
  rw [hat] at hsleep
  obtain ⟨hthread, hnot, hinit, hone, hnow, -, hpc⟩ := h.setTime hc tick
  refine ⟨fun hlink => absurd hlink hnot, hone, ?_, ?_⟩
  · rw [modify_thread_self, modify_timers, hthread, hnow]
    exact h.since
  · rw [modify_thread_self]
    cases r with
    | sleep =>
      obtain ⟨hasks, hasleep, -⟩ := hsleep
      refine ⟨?_, hasleep.same ⟨?_, ?_, ?_, ?_, hnow, hpc⟩, hnot⟩
      · rw [modify_thread_self, modify_timers, hinit, hthread]
        exact hasks
      all_goals rw [modify_thread_self, hthread]
    | delayUntil => trivial

/-- Its timer is started. -/
lemma ThreadInv.timerStarted (h : ThreadInv s t) {f : Thread → Thread}
    (httmr : (f { s.thread t with ttmrSet := true }).ttmrSet = true)
    (hsince : (f { s.thread t with ttmrSet := true }).since = (s.thread t).since)
    (hsleep : SleepAt ((threadTimerStart s t).modify t f) t (f { s.thread t with ttmrSet := true }).pc) :
    ThreadInv ((threadTimerStart s t).modify t f) t := by
  obtain ⟨hthread, hact, hone, -, hnow, -, -⟩ := threadTimerStart_spec s t
  refine ⟨fun _ => ⟨hact, ?_⟩, hone.trans h.oneshot, ?_, ?_⟩
  · rw [modify_thread_self, hthread]
    exact httmr
  · rw [modify_thread_self, hthread, hsince, modify_timers, hnow]
    exact h.since
  · rw [modify_thread_self, hthread]
    exact hsleep

/-- The timer of a thread in `_thread_sleep` runs for as long as was asked. -/
lemma ThreadInv.started (h : ThreadInv s t) (hc : Clock s) (hpc : s.timers.pc = .idle)
    (hat : (s.thread t).pc = .starting .sleep) :
    ThreadInv ((threadTimerStart s t).modify t fun th => { th with pc := .marking }) t := by
  obtain ⟨hthread, -, -, htimeout, hnow, -, hpc'⟩ := threadTimerStart_spec s t
  have hsleep := h.sleep
  rw [hat] at hsleep
  obtain ⟨hasks, hasleep, -⟩ := hsleep
  refine h.timerStarted rfl rfl ⟨hasleep.same ⟨?_, ?_, ?_, ?_, hnow, hpc'⟩, ?_⟩
  · rw [modify_thread_self, hthread]
  · rw [modify_thread_self, hthread]
  · rw [modify_thread_self, hthread]
  · rw [modify_thread_self, hthread]
  · unfold Timed
    rw [modify_thread_self, hthread]
    refine hasks.imp_right fun ⟨hasked, hrange⟩ _ => ?_
    refine ⟨s.timers.now, (s.timers.timer (.inl t)).initTick.toNat, h.since, hnow.ge, fun hne => ?_, ?_,
      hrange, hasked.symm⟩
    · exact absurd (hpc'.trans hpc) hne
    · rw [modify_timers, htimeout, hc.tick, BitVec.ofNat_add, BitVec.ofNat_toNat, BitVec.setWidth_eq]

/-- **The thread that goes on with its delay.** -/
lemma ThreadInv.goOn (h : ThreadInv s t) (hc : Clock s) (hpc : s.timers.pc = .idle) :
    ThreadInv (goOn s t) t := by
  have hsleep := h.sleep
  unfold Delay.goOn
  cases hat : (s.thread t).pc with
  | idle => exact h
  | reading =>
    show ThreadInv (delayUntilRead s t) t
    unfold delayUntilRead
    dsimp only
    split
    all_goals
      refine h.modify ?_ ?_ ?_
      · exact fun hset => hset
      · exact h.since
      · trivial
  | suspending r tick =>
    show ThreadInv (afterSuspend (rtThreadSuspendWithFlag s t).1 t tick (rtThreadSuspendWithFlag s t).2 r) t
    rcases suspend_cases s t with ⟨heq, -⟩ | heq
    · rw [heq]
      cases r with
      | sleep => exact h.sleepReturns _
      | delayUntil =>
        show ThreadInv (s.modify t fun th => { th with pc := .setting .delayUntil tick }) t
        refine h.modify ?_ ?_ ?_
        · exact fun hset => hset
        · exact h.since
        · trivial
    · rw [heq]
      exact h.suspended hc hpc hat
  | setting r tick => exact h.timeSet hc hat
  | starting r =>
    cases r with
    | sleep => exact h.started hc hpc hat
    | delayUntil => exact h.timerStarted rfl rfl trivial
  | marking =>
    rw [hat] at hsleep
    refine h.modify (fun hset => hset) h.since ⟨hsleep.1.same ⟨?_, ?_, ?_, ?_, rfl, rfl⟩, ?_⟩
    · rw [modify_thread_self]
    · rw [modify_thread_self]
    · rw [modify_thread_self]
    · rw [modify_thread_self]
    · unfold Timed
      rw [modify_thread_self]
      exact hsleep.2
  | sleeping r =>
    have hkeep : ThreadInv (s.modify t fun th =>
        { th with error := if th.error = .etimeout then .eok else th.error }) t := by
      refine h.write (fun hset => hset) rfl rfl rfl fun hasleep => hasleep.same ⟨?_, ?_, ?_, ?_, rfl, rfl⟩
      · rw [modify_thread_self]
      · rw [modify_thread_self]
      · rw [modify_thread_self]
      · rw [modify_thread_self]
    cases r with
    | sleep => exact hkeep.sleepReturns .eok
    | delayUntil =>
      refine hkeep.modify (fun hset => hset) hkeep.since ?_
      trivial

/-- A delay that returns `RT_EOK` was ended by `rt_thread_resume`, or by timeout and is as long as was
asked. -/
def Return.EndsWell (r : Return Tid) : Prop :=
  r.ret = .eok → r.waker = some .threadResume ∨
    r.waker = some .timeout ∧ r.asked ≤ (r.now : ℤ) - r.since

lemma suspend_log (s : System Tid App) (t : Tid) : (rtThreadSuspendWithFlag s t).1.log = s.log := by
  rcases suspend_cases s t with ⟨heq, -⟩ | heq
  · rw [heq]
  · rw [heq]
    rcases timerStop_cases (s.modify t fun th => { th with suspended := true }) t with ⟨-, heq'⟩ | ⟨-, heq'⟩
    · rw [heq']
      rfl
    · rw [heq']
      rfl

omit [DecidableEq App] in
/-- What the return of a delay adds. -/
lemma sleepReturns_log (s : System Tid App) (t : Tid) (ret : IpcErr) :
    (sleepReturns s t ret).log = s.log ++
      [⟨t, (s.thread t).asked, (s.thread t).since, s.timers.now, (s.thread t).waker, ret⟩] := rfl

/-- A return that a step adds: it ends well, and one with `RT_EOK` is that of a thread in its sleep. -/
structure Return.Ends (r : Return Tid) (s : System Tid App) : Prop where
  well : r.EndsWell
  sleeps : r.ret = .eok → ∃ t, (s.thread t).pc.sleeps = true ∧ r.waker = (s.thread t).waker

/-- What a thread that goes on adds to the returns. -/
lemma ThreadInv.log_goOn (h : ThreadInv s t) (hgo : (s.thread t).goes = true) :
    ∃ rs, (Delay.goOn s t).log = s.log ++ rs ∧ ∀ r ∈ rs, r.Ends s := by
  have hsleep := h.sleep
  have hnil : ∃ rs, s.log = s.log ++ rs ∧ ∀ r ∈ rs, r.Ends s := ⟨[], by simp, by simp⟩
  unfold Delay.goOn
  cases hat : (s.thread t).pc with
  | idle => exact hnil
  | reading =>
    show ∃ rs, (delayUntilRead s t).log = s.log ++ rs ∧ _
    unfold delayUntilRead
    dsimp only
    split <;> exact hnil
  | suspending r tick =>
    show ∃ rs, (afterSuspend (rtThreadSuspendWithFlag s t).1 t tick
      (rtThreadSuspendWithFlag s t).2 r).log = s.log ++ rs ∧ _
    rcases afterSuspend_cases (rtThreadSuspendWithFlag s t).1 t tick (rtThreadSuspendWithFlag s t).2 r with
      heq | ⟨-, -, heq⟩
    · rw [heq, modify_log, suspend_log]
      exact hnil
    · rw [heq, sleepReturns_log, suspend_log]
      refine ⟨_, rfl, fun r hr => ?_⟩
      rw [List.mem_singleton.mp hr]
      exact ⟨by rintro ⟨⟩, by rintro ⟨⟩⟩
  | setting r tick => exact hnil
  | starting r => cases r <;> exact hnil
  | marking => exact hnil
  | sleeping r =>
    cases r with
    | sleep =>
      dsimp only
      rw [sleepReturns_log, modify_log]
      refine ⟨_, rfl, fun r hr => ?_⟩
      rw [List.mem_singleton.mp hr, modify_thread_self]
      rw [hat] at hsleep
      rw [Thread.goes, hat] at hgo
      have hawake : (s.thread t).suspended = false := by simpa using hgo
      refine ⟨fun _ => hsleep.1.waker.resolve_left (by simp [hawake]), fun _ => ⟨t, ?_, rfl⟩⟩
      rw [hat]
      rfl
    | delayUntil => exact hnil

/-! ### The calls -/

omit [DecidableEq App] in
/-- `_thread_sleep` is called. -/
lemma ThreadInv.threadSleep (h : ThreadInv s t) (hidle : (s.thread t).pc = .idle) {tick : BitVec 32}
    {asked : ℤ} (hasks : asked ≤ 0 ∨ (tick.toNat : ℤ) = asked ∧ tick.toNat ≤ longestDelay) :
    ThreadInv (threadSleep s t tick asked) t := by
  have hcalled : ThreadInv (s.modify t fun th =>
      { th with asked := asked, since := s.timers.now, waker := none }) t := by
    refine h.modify (fun hset => hset) le_rfl ?_
    show SleepAt _ t (s.thread t).pc
    rw [hidle]
    trivial
  unfold Delay.threadSleep
  dsimp only
  split
  · exact hcalled.sleepReturns .einval
  · refine hcalled.modify (fun hset => hset) hcalled.since ?_
    show Asks (System.thread _ t) tick
    rw [modify_thread_self, modify_thread_self]
    exact hasks

/-- The timer of a thread is stopped. -/
lemma ThreadInv.stopped (h : ThreadInv s t) (hc : Clock s) : ThreadInv (rtSchedThreadTimerStop s t).1 t := by
  obtain ⟨hthread, hnot, hf, hnow, -, hpc, -⟩ := h.timerStop hc
  refine ⟨fun hlink => absurd hlink hnot, hf.periodic.trans h.oneshot, ?_, ?_⟩
  · rw [hthread, hnow]
    exact h.since
  · rw [hthread]
    refine h.sleep.keep ?_ ?_ hf hnow hpc fun hasleep => hasleep.same ⟨?_, ?_, ?_, ?_, hnow, hpc⟩
    all_goals rw [hthread]

/-- Somebody calls `rt_thread_resume` for the thread. -/
lemma ThreadInv.threadResume (h : ThreadInv s t) (hc : Clock s) : ThreadInv (rtThreadResume s t).1 t := by
  rcases resume_cases s t with heq | heq | heq
  · rw [heq]
    exact h
  · rw [heq]
    exact h.stopped hc
  · rw [heq]
    refine (h.stopped hc).write (fun hset => hset) rfl rfl rfl fun hasleep => ⟨.inr (.inl ?_), fun hcall => ?_⟩
    · rw [modify_thread_self]
    · have hover := hasleep.callback hcall
      unfold Over at hover ⊢
      rw [modify_thread_self]
      exact hover

omit [DecidableEq App] in
/-- The callback of its timer wakes the thread up. -/
lemma ThreadInv.threadTimeout (h : ThreadInv s t) (hpc : s.timers.pc = .callback (.inl t)) :
    ThreadInv (threadTimeout s t) t := by
  refine h.write (fun hset => hset) rfl rfl rfl fun hasleep => ?_
  have hover := hasleep.callback hpc
  have hover' : Over (Delay.threadTimeout s t) t := by
    unfold Over at hover ⊢
    unfold Delay.threadTimeout
    rw [modify_thread_self]
    exact hover
  refine ⟨.inr (.inr ⟨?_, hover'⟩), fun _ => hover'⟩
  rw [modify_thread_self]

/-- The thread is suspended in another call. -/
lemma ThreadInv.suspend (h : ThreadInv s t) (hc : Clock s) (hidle : (s.thread t).pc = .idle) :
    ThreadInv (rtThreadSuspendWithFlag s t).1 t := by
  rcases suspend_cases s t with ⟨heq, -⟩ | heq
  · rw [heq]
    exact h
  · rw [heq]
    refine ThreadInv.stopped ?_ (hc.modify t _)
    refine h.modify (fun hset => hset) h.since ?_
    show SleepAt _ t (s.thread t).pc
    rw [hidle]
    trivial

/-- The thread starts its timer in another call. -/
lemma ThreadInv.threadTimer (h : ThreadInv s t) (hc : Clock s) (hidle : (s.thread t).pc = .idle)
    (time : BitVec 32) : ThreadInv (threadTimerStart (rtTimerSetTime s t time) t) t := by
  obtain ⟨hthread, -, -, hone, hnow, -, -⟩ := h.setTime hc time
  obtain ⟨hthread', hact, hone', -, hnow', -, -⟩ := threadTimerStart_spec (rtTimerSetTime s t time) t
  refine ⟨fun _ => ⟨hact, ?_⟩, hone'.trans hone, ?_, ?_⟩
  · rw [hthread']
  · rw [hthread', hthread, hnow', hnow]
    exact h.since
  · rw [hthread', hthread]
    show SleepAt _ t (s.thread t).pc
    rw [hidle]
    trivial

/-! ### The tick interrupt -/

omit [DecidableEq Tid] [DecidableEq App] in
lemma over_tick {s : System Tid App} {t : Tid} {tm : TimerState (Tid ⊕ App)} (h : Over s t)
    (hnow : tm.now = s.timers.now + 1) : Over { s with timers := tm } t := by
  unfold Over at h ⊢
  show (s.thread t).asked ≤ (tm.now : ℤ) - (s.thread t).since
  rw [hnow]
  push_cast
  omega

/-- The tick is counted. -/
lemma ThreadInv.tick (h : ThreadInv s t) {tm : TimerState (Tid ⊕ App)}
    (hs : Timer.step s.timers .tick = some tm) : ThreadInv { s with timers := tm } t := by
  simp only [Timer.step] at hs
  split at hs
  · obtain rfl := Option.some.inj hs
    have hasleep (ha : Asleep s t) : Asleep { s with timers := { s.timers with
        tick := s.timers.tick + 1#32, now := s.timers.now + 1, pc := .entered } } t := by
      refine ⟨ha.waker.imp_right fun hw => hw.imp_right fun hw => ⟨hw.1, over_tick hw.2 rfl⟩, ?_⟩
      rintro ⟨⟩
    have htimed (hti : Timed s t) : Timed { s with timers := { s.timers with
        tick := s.timers.tick + 1#32, now := s.timers.now + 1, pc := .entered } } t := by
      refine hti.imp_right fun hti hlink => ?_
      obtain ⟨st, n, hst, hle, -, hrest⟩ := hti hlink
      exact ⟨st, n, hst, Nat.le_succ_of_le hle, fun _ => Nat.lt_succ_of_le hle, hrest⟩
    refine ⟨h.active, h.oneshot, Nat.le_succ_of_le h.since, ?_⟩
    have hsleep := h.sleep
    show SleepAt _ t (s.thread t).pc
    cases hat : (s.thread t).pc with
    | suspending r tick =>
      rw [hat] at hsleep
      cases r with
      | sleep => exact hsleep
      | delayUntil => trivial
    | setting r tick =>
      rw [hat] at hsleep
      cases r with
      | sleep => exact ⟨hsleep.1, hasleep hsleep.2.1, hsleep.2.2⟩
      | delayUntil => trivial
    | starting r =>
      rw [hat] at hsleep
      cases r with
      | sleep => exact ⟨hsleep.1, hasleep hsleep.2.1, hsleep.2.2⟩
      | delayUntil => trivial
    | marking =>
      rw [hat] at hsleep
      exact ⟨hasleep hsleep.1, htimed hsleep.2⟩
    | sleeping r =>
      rw [hat] at hsleep
      cases r with
      | sleep => exact ⟨hasleep hsleep.1, htimed hsleep.2⟩
      | delayUntil => trivial
    | idle | reading => trivial
  · cases hs

lemma Clock.tickStep (h : Clock s) {tm : TimerState (Tid ⊕ App)}
    (hs : Timer.step s.timers .tick = some tm) : Clock { s with timers := tm } := by
  refine ⟨h.tidy.step hs, ?_⟩
  simp only [Timer.step] at hs
  split at hs
  · obtain rfl := Option.some.inj hs
    show s.timers.tick + 1#32 = BitVec.ofNat 32 (s.timers.now + 1)
    rw [h.tick, BitVec.ofNat_add]
  · cases hs

/-- A timer is called back only if the check finds it due. -/
lemma leaves_loop {tm : TimerState (Tid ⊕ App)} (hlog : Tidy tm) (hf : Frames (.inl t) s.timers tm)
    (htick : tm.tick = s.timers.tick) (hnow : tm.now = s.timers.now) (hpc : s.timers.pc ≠ .idle) :
    Leaves t s { s with timers := timerCheckLoop tm } := by
  obtain ⟨hloop, hdue⟩ := loop_spec hlog (.inl t)
  obtain ⟨htick', hnow'⟩ := loop_clock tm
  refine ⟨rfl, hf.trans hloop, htick'.trans htick, hnow'.trans hnow, fun hidle => absurd hidle hpc,
    fun hcall => .inr ⟨hpc, ?_⟩⟩
  obtain ⟨hlink, hd⟩ := hdue _ hcall
  obtain ⟨hlink, heq⟩ := hf.linked hlink
  refine ⟨hlink, ?_⟩
  unfold Due at hd ⊢
  rwa [heq, htick] at hd

/-- The check is entered. -/
lemma Clock.checkStep (h : Clock s) {tm : TimerState (Tid ⊕ App)}
    (hs : Timer.step s.timers .check = some tm) :
    Clock { s with timers := tm } ∧ ∀ t, Leaves t s { s with timers := tm } := by
  have htidy := h.tidy.step hs
  simp only [Timer.step] at hs
  split at hs
  · next hpc =>
    obtain rfl := Option.some.inj hs
    have hnil : Tidy { s.timers with list := [] } := ⟨h.tidy.nodup, by simp⟩
    have hne : s.timers.pc ≠ .idle := by simp [hpc]
    obtain ⟨htick, hnow⟩ := loop_clock { s.timers with list := [] }
    refine ⟨⟨htidy, ?_⟩, fun t => leaves_loop hnil ⟨fun hlink => ⟨hlink, rfl⟩, rfl, rfl⟩ rfl rfl hne⟩
    show (timerCheckLoop _).tick = BitVec.ofNat 32 (timerCheckLoop _).now
    rw [htick, hnow]
    exact h.tick
  · cases hs

/-- A callback returns; that of a thread does not start its timer again. -/
lemma Clock.retStep (h : Clock s) {tm : TimerState (Tid ⊕ App)}
    (hs : Timer.step s.timers .ret = some tm) :
    Clock { s with timers := tm } ∧
      ∀ t, (s.timers.timer (.inl t)).periodic = false → Leaves t s { s with timers := tm } := by
  have htidy := h.tidy.step hs
  simp only [Timer.step] at hs
  split at hs
  · next i hpc =>
    obtain rfl := Option.some.inj hs
    have hne : s.timers.pc ≠ .idle := by simp [hpc]
    obtain ⟨htick, hnow⟩ := loop_clock (timerCheckReturn s.timers i)
    obtain ⟨htick', hnow', -⟩ := return_clock s.timers i
    have htidy' := h.tidy.timerCheckReturn hpc
    refine ⟨⟨htidy, ?_⟩, fun t hone => ?_⟩
    · show (timerCheckLoop _).tick = BitVec.ofNat 32 (timerCheckLoop _).now
      rw [htick, hnow, htick', hnow']
      exact h.tick
    · exact leaves_loop htidy' (frames_timerCheckReturn (.inr hone)) htick' hnow' hne
  · cases hs

end N32L43x.Delay
