import N32L43x.Pm.Select

/-!
The tickless wake-up: from the low-power timers over the power manager's entry to the hardware
timer.  `rt_lptimer_next_timeout_tick` gives an absolute tick, or `RT_TICK_MAX` when no timer is
active; the entry subtracts the current tick from either, so that the marker for "no timer" does
not reach `pm_timer_start`, which would leave the hardware timer unarmed for it.
The main result says when the entry gets it right.
-/

namespace N32L43x.Pm

open N32L43x.Lib.Bits

/-! ### The low-power timers -/

/-- `struct rt_lptimer`: its `RT_TIMER_FLAG_ACTIVATED` and its deadline. -/
structure RtLptimer where
  activated : Bool
  timeoutTick : BitVec 32
deriving DecidableEq

/-- The loop of `rt_lptimer_next_timeout_tick` over the timer list. -/
def lptimerScan (curTick minTick timeoutTick : BitVec 32) : List RtLptimer → BitVec 32
  | [] => timeoutTick
  | timer :: timers =>
    if timer.activated then
      let tempTick := timer.timeoutTick - curTick
      if minTick > tempTick then lptimerScan curTick tempTick timer.timeoutTick timers
      else lptimerScan curTick minTick timeoutTick timers
    else lptimerScan curTick minTick timeoutTick timers

/-- `rt_lptimer_next_timeout_tick`. -/
def rtLptimerNextTimeoutTick (tick : BitVec 32) (timers : List RtLptimer) : BitVec 32 :=
  lptimerScan tick rtTickMax rtTickMax timers

/-- `n32_pm_tick_from_os_tick`, for `RT_TICK_PER_SECOND` 1000. -/
def n32PmTickFromOsTick (tick : BitVec 32) : BitVec 32 := tick * 1000 / 1000

/-- `pm_timer_start`: the value the LPTIM is armed with, `none` if it stays unarmed. -/
def pmTimerStart (timeout : BitVec 32) : Option (BitVec 32) :=
  if timeout ≠ rtTickMax then
    let timeout := n32PmTickFromOsTick timeout
    some (if timeout > 0xFFFF then 0xFFFF else timeout)
  else none

/-- The timer mask `rt_hw_pm_init` passes to the power manager. -/
def hwTimerMask : BitVec 8 := 1 <<< pmSleepModeDeep

/-! ### The property -/

/-- The ticks until a timer fires. -/
def remaining (tick : BitVec 32) (timer : RtLptimer) : BitVec 32 := timer.timeoutTick - tick

/-- `timeout` is what the earliest active timer has left; with no active timer it is
`RT_TICK_MAX`, for which the hardware timer stays unarmed. -/
def Deadline (tick : BitVec 32) (timers : List RtLptimer) (timeout : BitVec 32) : Prop :=
  (∃ a ∈ timers, a.activated = true ∧ timeout = remaining tick a ∧
    ∀ b ∈ timers, b.activated = true → remaining tick a ≤ remaining tick b) ∨
  ((∀ a ∈ timers, a.activated = false) ∧ timeout = rtTickMax ∧ pmTimerStart timeout = none)

/-- The timeouts given to `timer_start` in a trace. -/
def timerStarts (evs : List PmEvent) : List (BitVec 32) :=
  evs.filterMap fun
    | .timerStart timeout => some timeout
    | _ => none

/-- An entry into the deep mode starts the hardware timer once, with the deadline. -/
def TicklessOk (pm : RtPm) (tick : BitVec 32) (timers : List RtLptimer) (env : PmEnv) : Prop :=
  let evs := (pmChangeSleepMode pm tick
    { env with lptimerNext := rtLptimerNextTimeoutTick tick timers }).2
  sleepModes evs = [pmSleepModeDeep] → ∃ timeout, timerStarts evs = [timeout] ∧
    Deadline tick timers timeout

/-! ### The scan -/

/-- The scan gives the deadline of the earliest active timer that is less than `minTick` away, or
its start value if there is none. -/
lemma lptimerScan_spec (tick : BitVec 32) (timers : List RtLptimer) (minTick timeoutTick : BitVec 32) :
    ((∀ a ∈ timers, a.activated = true → ¬remaining tick a < minTick) ∧
      lptimerScan tick minTick timeoutTick timers = timeoutTick) ∨
    ∃ a ∈ timers, a.activated = true ∧ remaining tick a < minTick ∧
      (∀ b ∈ timers, b.activated = true → remaining tick a ≤ remaining tick b) ∧
        lptimerScan tick minTick timeoutTick timers = a.timeoutTick := by
  induction timers generalizing minTick timeoutTick with
  | nil => exact .inl ⟨nofun, rfl⟩
  | cons t timers ih =>
    simp only [lptimerScan]
    by_cases hact : t.activated = true
    · by_cases hlt : remaining tick t < minTick
      · -- the new minimum, unless a later timer is earlier still
        rw [if_pos hact, if_pos (show minTick > t.timeoutTick - tick from hlt)]
        right
        rcases ih (remaining tick t) t.timeoutTick with ⟨hno, heq⟩ | ⟨a, ha, haact, halt, hmin, heq⟩
        · refine ⟨t, List.mem_cons_self, hact, hlt, fun b hb hbact => ?_, heq⟩
          rcases List.mem_cons.1 hb with rfl | hb
          · exact BitVec.le_refl _
          · exact BitVec.not_lt.1 (hno b hb hbact)
        · refine ⟨a, List.mem_cons_of_mem t ha, haact, BitVec.lt_trans halt hlt, fun b hb hbact => ?_,
            heq⟩
          rcases List.mem_cons.1 hb with rfl | hb
          · exact BitVec.le_of_lt halt
          · exact hmin b hb hbact
      · rw [if_pos hact, if_neg (show ¬minTick > t.timeoutTick - tick from hlt)]
        rcases ih minTick timeoutTick with ⟨hno, heq⟩ | ⟨a, ha, haact, halt, hmin, heq⟩
        · refine .inl ⟨fun b hb hbact => ?_, heq⟩
          rcases List.mem_cons.1 hb with rfl | hb
          · exact hlt
          · exact hno b hb hbact
        · refine .inr ⟨a, List.mem_cons_of_mem t ha, haact, halt, fun b hb hbact => ?_, heq⟩
          rcases List.mem_cons.1 hb with rfl | hb
          · rw [BitVec.lt_def] at halt hlt
            rw [BitVec.le_def]
            omega
          · exact hmin b hb hbact
    · rw [if_neg hact]
      have hskip : ∀ b ∈ t :: timers, b.activated = true → b ∈ timers := by
        intro b hb hbact
        rcases List.mem_cons.1 hb with rfl | hb
        · exact absurd hbact hact
        · exact hb
      rcases ih minTick timeoutTick with ⟨hno, heq⟩ | ⟨a, ha, haact, halt, hmin, heq⟩
      · exact .inl ⟨fun b hb hbact => hno b (hskip b hb hbact) hbact, heq⟩
      · exact .inr ⟨a, List.mem_cons_of_mem t ha, haact, halt,
          fun b hb hbact => hmin b (hskip b hb hbact) hbact, heq⟩

/-! ### The entry -/

/-- The deep mode is the one selected from the requests, and no delay-sleep window is open. -/
def DeepSelected (pm : RtPm) (tick : BitVec 32) : Prop :=
  pmSelectSleepMode pm = pmSleepModeDeep ∧
    ∀ i < pmModuleMaxId, ¬WindowOpen tick (pm.moduleStatus i)

lemma judgeMode_eq_deep {pm : RtPm} {tick : BitVec 32} (hinit : pm.initFlag = true) :
    (judgeMode pm tick).sleepMode = pmSleepModeDeep ↔ DeepSelected pm tick := by
  by_cases hclosed : ∀ i < pmModuleMaxId, ¬WindowOpen tick (pm.moduleStatus i)
  · rw [judgeMode_of_closed hclosed]
    exact ⟨fun h => ⟨h, hclosed⟩, fun h => h.1⟩
  · refine iff_of_false (fun h => ?_) fun h => hclosed h.2
    push Not at hclosed
    obtain ⟨i, hi, hopen⟩ := hclosed
    have hle := judgeMode_le_busy hinit hi hopen
    rw [h] at hle
    exact absurd hle (by decide)

lemma hasTimer_iff {pm : RtPm} (hmask : pm.timerMask = hwTimerMask) {mode : ℕ} :
    hasTimer pm mode = true ↔ mode = pmSleepModeDeep := by
  have hbit : hwTimerMask.setWidth 32 = bit 32 pmSleepModeDeep := by decide
  unfold hasTimer
  rw [hmask, hbit, anySet_bit, getLsbD_bit, Bool.and_eq_true, decide_eq_true_eq, decide_eq_true_eq]
  exact ⟨fun h => h.1, fun h => ⟨h, by rw [h]; decide⟩⟩

lemma threshold_deep {pm : RtPm} (hinit : pm.initFlag = true) (timeout : BitVec 32) :
    pmGetSleepThresholdMode pm pmSleepModeDeep timeout = pmSleepModeDeep ↔
      ¬timeout < pmDeepThresholdTime := by
  have hinit' : ¬pm.initFlag = false := by rw [hinit]; decide
  have hlight : timeout < pmLightThresholdTime → timeout < pmDeepThresholdTime := fun h =>
    BitVec.lt_trans h (by decide)
  unfold pmGetSleepThresholdMode
  rw [if_neg hinit', if_neg (by decide), if_neg (by decide), if_pos rfl]
  split_ifs with h5 h20
  · exact iff_of_false (by decide) fun h => h (hlight h5)
  · exact iff_of_false (by decide) fun h => h h20
  · exact iff_of_true rfl h20

section entry

variable {pm : RtPm} (tick : BitVec 32) (env : PmEnv)

/-- The mode the entry ends in, and the timeouts it starts the timer with. -/
lemma pmChangeSleepMode_tickless (hne : (judgeMode pm tick).sleepMode ≠ pmSleepModeNone) :
    (pmChangeSleepMode pm tick env).1 = (tickless (judgeMode pm tick) tick env).1 ∧
      timerStarts (pmChangeSleepMode pm tick env).2 =
        timerStarts (tickless (judgeMode pm tick) tick env).2 := by
  have hsuspend : ∀ mode ds, timerStarts (pmDeviceSuspend env mode ds) = [] := fun mode ds =>
    filterMap_pmDeviceSuspend (fun _ _ => rfl) env mode ds
  have hresume : ∀ mode ds, timerStarts (pmDeviceResume mode ds) = [] := fun mode ds =>
    filterMap_pmDeviceResume (fun _ _ => rfl) mode ds
  have hwake : ∀ pm, timerStarts (wakeUp pm env) = [] := by
    intro pm
    unfold wakeUp
    split_ifs <;> rfl
  have happend : ∀ as bs, timerStarts (as ++ bs) = timerStarts as ++ timerStarts bs := fun _ _ =>
    List.filterMap_append
  unfold pmChangeSleepMode
  simp only [if_neg hne]
  refine ⟨trivial, ?_⟩
  have henter : ∀ mode evs, timerStarts (.notifyEnter mode :: evs) = timerStarts evs := fun _ _ => rfl
  have hsleep : ∀ mode evs, timerStarts (.sleep mode :: evs) = timerStarts evs := fun _ _ => rfl
  have hexit : ∀ mode, timerStarts [.notifyExit mode] = [] := fun _ => rfl
  simp only [happend, henter, hsleep, hexit, hsuspend, hresume, hwake, List.nil_append,
    List.append_nil]

/-- The entry ends in the deep mode if it is selected and the deadline is not too close, and then
starts the timer with the ticks left to it. -/
lemma deep_entry (hinit : pm.initFlag = true) (hmask : pm.timerMask = hwTimerMask) :
    (sleepModes (pmChangeSleepMode pm tick env).2 = [pmSleepModeDeep] ↔
      DeepSelected pm tick ∧ ¬env.lptimerNext - tick < pmDeepThresholdTime) ∧
    (DeepSelected pm tick → ¬env.lptimerNext - tick < pmDeepThresholdTime →
      timerStarts (pmChangeSleepMode pm tick env).2 = [env.lptimerNext - tick]) := by
  obtain ⟨mode, status, hpm, hsleep, hle, -⟩ := pmChangeSleepMode_spec pm tick env
  obtain ⟨judged, status', hj, -, -⟩ := judgeMode_frame pm tick
  have hjinit : (judgeMode pm tick).initFlag = true := by rw [hj]; exact hinit
  have hjmask : (judgeMode pm tick).timerMask = hwTimerMask := by rw [hj]; exact hmask
  rw [← judgeMode_eq_deep hinit, hsleep]
  by_cases hdeep : (judgeMode pm tick).sleepMode = pmSleepModeDeep
  · have hne : (judgeMode pm tick).sleepMode ≠ pmSleepModeNone := by rw [hdeep]; decide
    obtain ⟨hfinal, hstarts⟩ := pmChangeSleepMode_tickless tick env hne
    have htimer : hasTimer (judgeMode pm tick) (judgeMode pm tick).sleepMode = true :=
      (hasTimer_iff hjmask).2 hdeep
    have hnext : pmTimerNextTimeoutTick env pmSleepModeDeep = env.lptimerNext := rfl
    unfold tickless at hfinal hstarts
    rw [if_pos htimer, hdeep, hnext] at hfinal hstarts
    have hmode : mode = pmGetSleepThresholdMode (judgeMode pm tick) pmSleepModeDeep
        (env.lptimerNext - tick) := by
      rw [hpm] at hfinal
      exact congrArg RtPm.sleepMode hfinal
    have hth := threshold_deep hjinit (env.lptimerNext - tick)
    refine ⟨?_, fun _ hfar => ?_⟩
    · rw [List.cons.injEq, hmode, hth]
      simp [hdeep]
    · rw [hstarts]
      simp only
      rw [hth.2 hfar, if_pos]
      · rfl
      · exact (hasTimer_iff hjmask).2 rfl
  · refine ⟨iff_of_false (fun h => ?_) fun h => hdeep h.1, fun h => absurd h hdeep⟩
    have hmode : mode = pmSleepModeDeep := (List.cons.inj h).1
    by_cases hne : (judgeMode pm tick).sleepMode = pmSleepModeNone
    · rw [hne, hmode] at hle
      exact absurd hle (by decide)
    · -- without a timer for its mode the entry keeps the mode it judged
      have htimer : ¬hasTimer (judgeMode pm tick) (judgeMode pm tick).sleepMode = true :=
        fun h => hdeep ((hasTimer_iff hjmask).1 h)
      have hfinal := (pmChangeSleepMode_tickless tick env hne).1
      unfold tickless at hfinal
      rw [if_neg htimer, hpm] at hfinal
      exact hdeep ((congrArg RtPm.sleepMode hfinal).symm.trans hmode)

end entry

/-- With an active timer in range, the entry measures the earliest one. -/
lemma deadline_of_active {tick : BitVec 32} {timers : List RtLptimer}
    (hnear : ∀ a ∈ timers, a.activated = true → remaining tick a ≤ rtTickMax / 2 - 1)
    (hact : ∃ a ∈ timers, a.activated = true) :
    Deadline tick timers (rtLptimerNextTimeoutTick tick timers - tick) := by
  obtain ⟨a, ha, haact⟩ := hact
  rcases lptimerScan_spec tick timers rtTickMax rtTickMax with
    ⟨hno, -⟩ | ⟨b, hb, hbact, -, hmin, heq⟩
  · refine absurd ?_ (hno a ha haact)
    have hle := hnear a ha haact
    have hmax : (rtTickMax / 2 - 1).toNat < rtTickMax.toNat := by decide
    rw [BitVec.le_def] at hle
    rw [BitVec.lt_def]
    omega
  · refine .inl ⟨b, hb, hbact, ?_, hmin⟩
    unfold rtLptimerNextTimeoutTick
    rw [heq]
    rfl

lemma next_of_inactive {tick : BitVec 32} {timers : List RtLptimer}
    (hact : ¬∃ a ∈ timers, a.activated = true) :
    rtLptimerNextTimeoutTick tick timers = rtTickMax := by
  rcases lptimerScan_spec tick timers rtTickMax rtTickMax with ⟨-, heq⟩ | ⟨b, hb, hbact, -, -, -⟩
  · exact heq
  · exact absurd ⟨b, hb, hbact⟩ hact

/-- **When the tickless entry gives the deadline.**  For timers in range, the entry is right if
and only if it does not come to the deep mode, some timer is active, the tick counter stands at
zero, or it stands so close to its end that the marker looks like a deadline too close for the
deep mode. -/
theorem ticklessOk_iff (pm : RtPm) (tick : BitVec 32) (timers : List RtLptimer) (env : PmEnv)
    (hinit : pm.initFlag = true) (hmask : pm.timerMask = hwTimerMask)
    (hnear : ∀ a ∈ timers, a.activated = true → remaining tick a ≤ rtTickMax / 2 - 1) :
    TicklessOk pm tick timers env ↔ ¬DeepSelected pm tick ∨
      (∃ a ∈ timers, a.activated = true) ∨ tick = 0 ∨ rtTickMax - tick < pmDeepThresholdTime := by
  unfold TicklessOk
  simp only
  obtain ⟨hiff, hstarts⟩ := deep_entry tick
    { env with lptimerNext := rtLptimerNextTimeoutTick tick timers } hinit hmask
  simp only at hiff hstarts
  rw [hiff]
  by_cases hdeep : DeepSelected pm tick
  swap
  · exact iff_of_true (fun h => absurd h.1 hdeep) (.inl hdeep)
  by_cases hact : ∃ a ∈ timers, a.activated = true
  · refine iff_of_true (fun h => ?_) (.inr (.inl hact))
    exact ⟨_, hstarts hdeep h.2, deadline_of_active hnear hact⟩
  rw [next_of_inactive hact] at hstarts ⊢
  by_cases hfar : rtTickMax - tick < pmDeepThresholdTime
  · exact iff_of_true (fun h => absurd hfar h.2) (.inr (.inr (.inr hfar)))
  have hinactive : ∀ a ∈ timers, a.activated = false := fun a ha =>
    Bool.not_eq_true _ ▸ fun h => hact ⟨a, ha, h⟩
  constructor
  · intro h
    obtain ⟨timeout, hstart, hdl⟩ := h ⟨hdeep, hfar⟩
    rw [hstarts hdeep hfar] at hstart
    obtain rfl : rtTickMax - tick = timeout := (List.cons.inj hstart).1
    rcases hdl with ⟨a, ha, haact, -⟩ | ⟨-, hmax, -⟩
    · exact absurd ⟨a, ha, haact⟩ hact
    · exact .inr (.inr (.inl (by bv_omega)))
  · rintro (h | h | rfl | h)
    · exact absurd hdeep h
    · exact absurd h hact
    · exact fun _ => ⟨_, hstarts hdeep hfar, .inr ⟨hinactive, by decide, by decide⟩⟩
    · exact absurd h hfar

/-- The power manager after the request of power on was released. -/
def releasedPm : RtPm :=
  (rtPmRelease (rtSystemPmInit ⟨fun _ => 0, 0, fun _ => ⟨0, false, 0, 0⟩, fun _ _ => 0, [], 0, false⟩
    hwTimerMask) rtPmDefaultSleepMode).1

/-- With a timer 500 ticks away the entry sleeps for 500 ticks. -/
theorem ticklessOk_active :
    timerStarts (pmChangeSleepMode releasedPm 1000 ⟨0, rtLptimerNextTimeoutTick 1000
      [⟨false, 1100⟩, ⟨true, 1500⟩], fun _ => .eok, 0⟩).2 = [500] ∧
    TicklessOk releasedPm 1000 [⟨false, 1100⟩, ⟨true, 1500⟩] ⟨0, 0, fun _ => .eok, 0⟩ :=
  ⟨by decide, (ticklessOk_iff releasedPm 1000 [⟨false, 1100⟩, ⟨true, 1500⟩] _ (by decide) (by decide)
    (by decide)).2 (.inr (.inl (by decide)))⟩

/-- With no timer at all the entry at tick 1000 arms the hardware timer. -/
theorem ticklessOk_fails :
    ¬TicklessOk releasedPm 1000 [] ⟨0, 0, fun _ => .eok, 0⟩ ∧
      pmTimerStart (rtTickMax - 1000) = some 0xFFFF := by
  refine ⟨fun h => ?_, by decide⟩
  obtain ⟨timeout, hstart, hdl⟩ := h (by decide)
  have hstarts : timerStarts (pmChangeSleepMode releasedPm 1000
      ⟨0, rtLptimerNextTimeoutTick 1000 [], fun _ => .eok, 0⟩).2 = [rtTickMax - 1000] := by decide
  obtain rfl : rtTickMax - 1000 = timeout := (List.cons.inj (hstarts.symm.trans hstart)).1
  rcases hdl with ⟨a, ha, -⟩ | ⟨-, hmax, -⟩
  · cases ha
  · exact absurd hmax (by decide)

end N32L43x.Pm
