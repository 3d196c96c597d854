import N32L43x.Delay.Defs
import N32L43x.Timer.Frame

/-!
What is asked of the delays, what the calls on a thread and its timer do, and the invariant of a thread
that sleeps: its timer was started after the call and runs for as long as was asked, and only the check that
finds it due wakes the thread up.
-/

namespace N32L43x.Delay

open N32L43x.Timer N32L43x.Ipc N32L43x.Lib.Run

variable {Tid App : Type} [DecidableEq Tid] [DecidableEq App] {s s' s'' : System Tid App} {t u : Tid}

/-! ### What is asked of a run -/

/-- The longest delay that `_timer_check` does not take for one that has passed. -/
def longestDelay : ℕ := rtTickMax + 2 - rtTickMax / 2

/-- In `_thread_sleep`. -/
def Pc.sleeps : Pc → Bool
  | .suspending .sleep _ | .setting .sleep _ | .starting .sleep | .marking | .sleeping .sleep => true
  | _ => false

/-- In `rt_thread_delay_until`, between reading the tick and starting the timer. -/
def Pc.approaches : Pc → Bool
  | .suspending .delayUntil _ | .setting .delayUntil _ | .starting .delayUntil => true
  | _ => false

/-- The delay is in range. -/
def InRange : Action Tid App → Prop
  | .delay _ tick => tick.toNat ≤ longestDelay
  | _ => True

/-- The delay is in range, no thread is resumed in its sleep, and no tick is counted while one sets its
timer for `rt_thread_delay_until`. -/
def KeepsDelays (s : System Tid App) : Action Tid App → Prop
  | .delay _ tick => tick.toNat ≤ longestDelay
  | .threadResume t => (s.thread t).pc.sleeps = false
  | .tick => ∀ t, (s.thread t).pc.approaches = false
  | _ => True

/-- The times of the wake-ups after `start`, every `incTick` ticks. -/
def wakeups (start incTick : BitVec 32) (n : ℕ) : List (BitVec 32) :=
  (List.range n).map fun k => start + BitVec.ofNat 32 (k + 1) * incTick

/-- A delay that has returned `RT_EOK` came to its end by timeout and was as long as asked. -/
def Return.Kept (r : Return Tid) : Prop :=
  r.ret = .eok → r.waker = some .timeout ∧ r.asked ≤ (r.now : ℤ) - r.since

/-- The deadlines of `rt_thread_delay_until` keep their distance, if no call was late. -/
def Thread.Periodic (th : Thread) : Prop :=
  th.late = false → th.deadlines = wakeups th.start th.incTick th.deadlines.length

/-! ### The parts of the state -/

omit [DecidableEq App] in
@[simp] lemma modify_thread_self (f : Thread → Thread) : (s.modify t f).thread t = f (s.thread t) := by
  simp [System.modify]

omit [DecidableEq App] in
lemma modify_thread_of_ne (h : u ≠ t) (f : Thread → Thread) : (s.modify t f).thread u = s.thread u := by
  simp [System.modify, h]

omit [DecidableEq App] in
@[simp] lemma modify_timers (f : Thread → Thread) : (s.modify t f).timers = s.timers := rfl

omit [DecidableEq App] in
@[simp] lemma modify_log (f : Thread → Thread) : (s.modify t f).log = s.log := rfl

/-- A step leaves a thread alone: its fields and the clock are the same, its timer is at most taken out of
the list, and its callback is called only by a check that finds the timer due. -/
structure Leaves (t : Tid) (s s' : System Tid App) : Prop where
  thread : s'.thread t = s.thread t
  frames : Frames (.inl t) s.timers s'.timers
  tick : s'.timers.tick = s.timers.tick
  now : s'.timers.now = s.timers.now
  idle : s.timers.pc = .idle → s'.timers.pc = .idle
  callback : s'.timers.pc = .callback (.inl t) → s.timers.pc = .callback (.inl t) ∨
    s.timers.pc ≠ .idle ∧ .inl t ∈ s.timers.timerList ∧ Due s.timers (.inl t)

omit [DecidableEq Tid] [DecidableEq App] in
lemma Leaves.of_pc (hthread : s'.thread t = s.thread t) (hf : Frames (.inl t) s.timers s'.timers)
    (htick : s'.timers.tick = s.timers.tick) (hnow : s'.timers.now = s.timers.now)
    (hpc : s'.timers.pc = s.timers.pc) : Leaves t s s' :=
  ⟨hthread, hf, htick, hnow, fun h => hpc.trans h, fun h => .inl (hpc.symm.trans h)⟩

omit [DecidableEq Tid] [DecidableEq App] in
lemma Leaves.refl (t : Tid) (s : System Tid App) : Leaves t s s :=
  Leaves.of_pc rfl (Frames.refl _ _) rfl rfl rfl

omit [DecidableEq Tid] [DecidableEq App] in
lemma Leaves.trans (h : Leaves t s s') (h' : Leaves t s' s'') : Leaves t s s'' where
  thread := h'.thread.trans h.thread
  frames := h.frames.trans h'.frames
  tick := h'.tick.trans h.tick
  now := h'.now.trans h.now
  idle hpc := h'.idle (h.idle hpc)
  callback hpc := by
    rcases h'.callback hpc with hpc' | ⟨hne, hlink, hdue⟩
    · exact h.callback hpc'
    · obtain ⟨hlink, heq⟩ := h.frames.linked hlink
      refine .inr ⟨fun hidle => hne (h.idle hidle), hlink, ?_⟩
      unfold Due at hdue ⊢
      rwa [heq, h.tick] at hdue

omit [DecidableEq App] in
lemma leaves_modify (s : System Tid App) (h : t ≠ u) (f : Thread → Thread) :
    Leaves t s (s.modify u f) :=
  Leaves.of_pc (modify_thread_of_ne h f) (Frames.refl _ _) rfl rfl rfl

/-- What is invariant of the clock and the lists. -/
structure Clock (s : System Tid App) : Prop where
  tidy : Tidy s.timers
  tick : s.timers.tick = BitVec.ofNat 32 s.timers.now

/-- A call on a timer. -/
lemma Clock.timerCall (h : Clock s) (c : Call (Tid ⊕ App)) : Clock { s with timers := call s.timers c } where
  tidy := h.tidy.call c
  tick := by
    show (Timer.call s.timers c).tick = BitVec.ofNat 32 (Timer.call s.timers c).now
    rw [call_tick, call_now]
    exact h.tick

lemma Clock.leaves_timerCall (h : Clock s) {c : Call (Tid ⊕ App)} (hc : .inl t ≠ c.timer) :
    Leaves t s { s with timers := call s.timers c } :=
  Leaves.of_pc rfl (frames_call h.tidy hc) (call_tick _ _) (call_now _ _) (call_pc _ _)

/-! ### What the calls do -/

lemma timerStop_cases (s : System Tid App) (t : Tid) :
    (s.thread t).ttmrSet = false ∧ (rtSchedThreadTimerStop s t).1 = s ∨
      (s.thread t).ttmrSet = true ∧ (rtSchedThreadTimerStop s t).1 =
        System.modify { s with timers := call s.timers (.stop (.inl t)) } t
          fun th => { th with ttmrSet := false } := by
  unfold rtSchedThreadTimerStop
  cases h : (s.thread t).ttmrSet with
  | false => exact .inl ⟨rfl, rfl⟩
  | true => exact .inr ⟨rfl, rfl⟩

omit [DecidableEq App] in
lemma Clock.modify (h : Clock s) (t : Tid) (f : Thread → Thread) : Clock (s.modify t f) := ⟨h.tidy, h.tick⟩

lemma Clock.timerStop (h : Clock s) (t : Tid) : Clock (rtSchedThreadTimerStop s t).1 := by
  rcases timerStop_cases s t with ⟨-, heq⟩ | ⟨-, heq⟩
  · rw [heq]
    exact h
  · rw [heq]
    exact (h.timerCall _).modify _ _

lemma Clock.leaves_timerStop (h : Clock s) (hut : t ≠ u) : Leaves t s (rtSchedThreadTimerStop s u).1 := by
  rcases timerStop_cases s u with ⟨-, heq⟩ | ⟨-, heq⟩
  · rw [heq]
    exact Leaves.refl t s
  · rw [heq]
    have hcall : .inl t ≠ (Call.stop (.inl u) : Call (Tid ⊕ App)).timer := fun heq => hut (Sum.inl.inj heq)
    exact (h.leaves_timerCall hcall).trans (leaves_modify _ hut _)

/-- `rt_thread_suspend_with_flag`: the thread is suspended, and its timer stopped. -/
lemma suspend_cases (s : System Tid App) (t : Tid) :
    rtThreadSuspendWithFlag s t = (s, .error) ∧ (s.thread t).suspended = true ∨
      rtThreadSuspendWithFlag s t =
        ((rtSchedThreadTimerStop (s.modify t fun th => { th with suspended := true }) t).1, .eok) := by
  unfold rtThreadSuspendWithFlag
  cases h : (s.thread t).suspended with
  | false => exact .inr rfl
  | true => exact .inl ⟨rfl, rfl⟩

/-- `rt_thread_resume`: the thread is made ready, unless its timer cannot be stopped. -/
lemma resume_cases (s : System Tid App) (t : Tid) :
    (rtThreadResume s t).1 = s ∨ (rtThreadResume s t).1 = (rtSchedThreadTimerStop s t).1 ∨
      (rtThreadResume s t).1 = (rtSchedThreadTimerStop s t).1.modify t fun th =>
        { th with suspended := false, waker := some .threadResume } := by
  unfold rtThreadResume
  split
  · rcases h : rtSchedThreadTimerStop s t with ⟨s', err⟩
    cases err with
    | eok => exact .inr (.inr rfl)
    | _ => exact .inr (.inl rfl)
  · exact .inl rfl

lemma Clock.suspend (h : Clock s) (t : Tid) : Clock (rtThreadSuspendWithFlag s t).1 := by
  rcases suspend_cases s t with ⟨heq, -⟩ | heq
  · rw [heq]
    exact h
  · rw [heq]
    exact (h.modify t _).timerStop t

lemma Clock.leaves_suspend (h : Clock s) (hut : t ≠ u) : Leaves t s (rtThreadSuspendWithFlag s u).1 := by
  rcases suspend_cases s u with ⟨heq, -⟩ | heq
  · rw [heq]
    exact Leaves.refl t s
  · rw [heq]
    exact (leaves_modify s hut _).trans ((h.modify u _).leaves_timerStop hut)

lemma Clock.threadResume (h : Clock s) (t : Tid) : Clock (rtThreadResume s t).1 := by
  rcases resume_cases s t with heq | heq | heq
  · rw [heq]
    exact h
  · rw [heq]
    exact h.timerStop t
  · rw [heq]
    exact (h.timerStop t).modify t _

lemma Clock.leaves_threadResume (h : Clock s) (hut : t ≠ u) : Leaves t s (rtThreadResume s u).1 := by
  rcases resume_cases s u with heq | heq | heq
  · rw [heq]
    exact Leaves.refl t s
  · rw [heq]
    exact h.leaves_timerStop hut
  · rw [heq]
    exact (h.leaves_timerStop hut).trans (leaves_modify _ hut _)

lemma Clock.setTime (h : Clock s) (t : Tid) (tick : BitVec 32) : Clock (rtTimerSetTime s t tick) :=
  h.timerCall (.control (.inl t) (.setTime tick))

lemma Clock.leaves_setTime (h : Clock s) (hut : t ≠ u) (tick : BitVec 32) :
    Leaves t s (rtTimerSetTime s u tick) := by
  have hcall : .inl t ≠ (Call.control (.inl u) (.setTime tick) : Call (Tid ⊕ App)).timer := fun heq =>
    hut (Sum.inl.inj heq)
  exact h.leaves_timerCall hcall

lemma Clock.timerStart (h : Clock s) (t : Tid) : Clock (threadTimerStart s t) :=
  (h.timerCall (.start (.inl t))).modify t _

lemma Clock.leaves_timerStart (h : Clock s) (hut : t ≠ u) : Leaves t s (threadTimerStart s u) := by
  have hcall : .inl t ≠ (Call.start (.inl u) : Call (Tid ⊕ App)).timer := fun heq => hut (Sum.inl.inj heq)
  exact (h.leaves_timerCall hcall).trans (leaves_modify _ hut _)

/-! ### A thread that sleeps -/

/-- The time that a delay asks for has gone by. -/
def Over (s : System Tid App) (t : Tid) : Prop :=
  (s.thread t).asked ≤ (s.timers.now : ℤ) - (s.thread t).since

/-- A delay for this number of ticks was asked for, if it is one at all. -/
def Asks (th : Thread) (tick : BitVec 32) : Prop :=
  th.asked ≤ 0 ∨ (tick.toNat : ℤ) = th.asked ∧ tick.toNat ≤ longestDelay

/-- The thread is suspended, or its delay was ended. -/
structure Asleep (s : System Tid App) (t : Tid) : Prop where
  waker : (s.thread t).suspended = true ∨ (s.thread t).waker = some .threadResume ∨
    (s.thread t).waker = some .timeout ∧ Over s t
  callback : s.timers.pc = .callback (.inl t) → Over s t

/-- The timer of the thread was started after the call, outside of the tick interrupt, and runs for as
long as was asked. -/
def Timed (s : System Tid App) (t : Tid) : Prop :=
  (s.thread t).asked ≤ 0 ∨ (.inl t ∈ s.timers.timerList →
    ∃ st n, (s.thread t).since ≤ st ∧ st ≤ s.timers.now ∧ (s.timers.pc ≠ .idle → st < s.timers.now) ∧
      (s.timers.timer (.inl t)).timeoutTick = BitVec.ofNat 32 (st + n) ∧ n ≤ longestDelay ∧
      (s.thread t).asked = n)

/-- What holds of a thread in `_thread_sleep`, by where it is. -/
def SleepAt (s : System Tid App) (t : Tid) : Pc → Prop
  | .suspending .sleep tick => Asks (s.thread t) tick
  | .setting .sleep tick => Asks (s.thread t) tick ∧ Asleep s t ∧ .inl t ∉ s.timers.timerList
  | .starting .sleep =>
    Asks (s.thread t) (s.timers.timer (.inl t)).initTick ∧ Asleep s t ∧ .inl t ∉ s.timers.timerList
  | .marking | .sleeping .sleep => Asleep s t ∧ Timed s t
  | _ => True

/-- The invariant of a thread. -/
structure ThreadInv (s : System Tid App) (t : Tid) : Prop where
  active : .inl t ∈ s.timers.timerList →
    (s.timers.timer (.inl t)).activated = true ∧ (s.thread t).ttmrSet = true
  oneshot : (s.timers.timer (.inl t)).periodic = false
  since : (s.thread t).since ≤ s.timers.now
  sleep : SleepAt s t (s.thread t).pc

omit [DecidableEq Tid] [DecidableEq App] in
lemma Over.leaves (h : Over s t) (hl : Leaves t s s') : Over s' t := by
  unfold Over
  rw [hl.thread, hl.now]
  exact h

omit [DecidableEq Tid] [DecidableEq App] in
/-- A timer that is found due has run for as long as was asked. -/
lemma Timed.over (h : Timed s t) (hc : Clock s) (hsince : (s.thread t).since ≤ s.timers.now)
    (hpc : s.timers.pc ≠ .idle) (hlink : .inl t ∈ s.timers.timerList) (hdue : Due s.timers (.inl t)) :
    Over s t := by
  unfold Over
  rcases h with hneg | h
  · omega
  · obtain ⟨st, n, hst, -, hlt, htimeout, hn, hasked⟩ := h hlink
    have hle : st + n ≤ s.timers.now := le_of_due hc.tick htimeout (hlt hpc) hn hdue
    omega

omit [DecidableEq Tid] [DecidableEq App] in
lemma Asleep.leaves (h : Asleep s t) (hl : Leaves t s s')
    (hdue : s.timers.pc ≠ .idle → .inl t ∈ s.timers.timerList → Due s.timers (.inl t) → Over s t) :
    Asleep s' t where
  waker := by
    rw [hl.thread]
    exact h.waker.imp_right fun hw => hw.imp_right fun hw => ⟨hw.1, hw.2.leaves hl⟩
  callback hpc := by
    rcases hl.callback hpc with hpc | ⟨hne, hlink, hd⟩
    · exact (h.callback hpc).leaves hl
    · exact (hdue hne hlink hd).leaves hl

omit [DecidableEq Tid] [DecidableEq App] in
lemma Timed.leaves (h : Timed s t) (hl : Leaves t s s') : Timed s' t := by
  unfold Timed
  rw [hl.thread, hl.now]
  refine h.imp_right fun h hlink => ?_
  obtain ⟨hlink, heq⟩ := hl.frames.linked hlink
  obtain ⟨st, n, hst, hle, hlt, htimeout, hn⟩ := h hlink
  exact ⟨st, n, hst, hle, fun hne => hlt fun hidle => hne (hl.idle hidle), heq ▸ htimeout, hn⟩

omit [DecidableEq Tid] [DecidableEq App] in
lemma SleepAt.leaves {pc : Pc} (h : SleepAt s t pc) (hc : Clock s)
    (hsince : (s.thread t).since ≤ s.timers.now) (hl : Leaves t s s') : SleepAt s' t pc := by
  cases pc with
  | suspending r tick =>
    cases r with
    | sleep =>
      show Asks (s'.thread t) tick
      rw [hl.thread]
      exact h
    | delayUntil => trivial
  | setting r tick =>
    cases r with
    | sleep =>
      obtain ⟨hasks, hasleep, hnot⟩ := h
      refine ⟨?_, hasleep.leaves hl fun _ hlink => absurd hlink hnot, fun hlink =>
        hnot (hl.frames.linked hlink).1⟩
      rw [hl.thread]
      exact hasks
    | delayUntil => trivial
  | starting r =>
    cases r with
    | sleep =>
      obtain ⟨hasks, hasleep, hnot⟩ := h
      refine ⟨?_, hasleep.leaves hl fun _ hlink => absurd hlink hnot, fun hlink =>
        hnot (hl.frames.linked hlink).1⟩
      rw [hl.thread, hl.frames.initTick]
      exact hasks
    | delayUntil => trivial
  | marking => exact ⟨h.1.leaves hl (h.2.over hc hsince), h.2.leaves hl⟩
  | sleeping r =>
    cases r with
    | sleep => exact ⟨h.1.leaves hl (h.2.over hc hsince), h.2.leaves hl⟩
    | delayUntil => trivial
  | idle | reading => trivial

omit [DecidableEq Tid] [DecidableEq App] in
lemma ThreadInv.leaves (h : ThreadInv s t) (hc : Clock s) (hl : Leaves t s s') : ThreadInv s' t where
  active hlink := by
    obtain ⟨hlink, heq⟩ := hl.frames.linked hlink
    rw [hl.thread, heq]
    exact h.active hlink
  oneshot := hl.frames.periodic.trans h.oneshot
  since := by
    rw [hl.thread, hl.now]
    exact h.since
  sleep := by
    rw [hl.thread]
    exact h.sleep.leaves hc h.since hl

end N32L43x.Delay
