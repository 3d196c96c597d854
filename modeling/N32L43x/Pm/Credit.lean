import N32L43x.Pm.SleepMode

/-!
The time that a sleep credits.  The LPTIM counts milliseconds in 16 bits; `pm_timer_get_tick` turns
them into system ticks and carries what is left over from one call to the next, in a static variable.
-/

namespace N32L43x.Pm

open N32L43x.Lib.Run

/-- `n32_os_tick_from_pm_tick` with `os_tick_remain` before it: the ticks, and `os_tick_remain` after
it. -/
def n32OsTickFromPmTick (rtTickPerSecond : BitVec 32) (tick osTickRemain : BitVec 32) :
    BitVec 32 × BitVec 32 :=
  let freq : BitVec 32 := 1000#32
  let osTick := (tick * rtTickPerSecond + osTickRemain) / freq
  let osTickRemain := osTickRemain + tick * rtTickPerSecond
  (osTick, osTickRemain % freq)

/-- `pm_timer_get_tick`, where `LPTIM_GetCounter` gives 16 bits. -/
def pmTimerGetTick (rtTickPerSecond : BitVec 32) (counter : BitVec 16) (osTickRemain : BitVec 32) :
    BitVec 32 × BitVec 32 :=
  n32OsTickFromPmTick rtTickPerSecond (counter.setWidth 32) osTickRemain

/-! ### The system -/

/-- The power manager with the driver, and a record of what was read and credited. -/
structure Lptim where
  sys : Sys
  osTickRemain : BitVec 32
  /-- the sum of the readings of the LPTIM -/
  slept : ℕ
  /-- the sum of the ticks given to `rt_tick_increase_tick` -/
  credit : ℕ

/-- `_pm_change_sleep_mode` gets to the call of `timer_get_tick`. -/
def readsTimer (s : Sys) (env : PmEnv) : Bool :=
  decide ((judgeMode s.pm s.tick).sleepMode ≠ pmSleepModeNone) &&
    hasTimer (pmChangeSleepMode s.pm s.tick env).1 (pmChangeSleepMode s.pm s.tick env).1.sleepMode

/-- What can happen next. -/
inductive LptimAction where
  | call (a : Action)
  /-- an entry of `_pm_change_sleep_mode`, and what the LPTIM shows on wake-up -/
  | sleep (env : PmEnv) (counter : BitVec 16)

/-- An entry with the ticks that `timer_get_tick` reports. -/
def Lptim.enter (s : Lptim) (env : PmEnv) : Lptim :=
  let r := pmChangeSleepMode s.sys.pm s.sys.tick env
  { s with
    sys := { s.sys with pm := r.1, now := s.sys.now + credited r.2 }
    credit := s.credit + credited r.2 }

/-- One step of the system. -/
def lptimStep (rtTickPerSecond : BitVec 32) (s : Lptim) : LptimAction → Option Lptim
  | .call (.enter _) => none
  | .call a => (step s.sys a).map fun sys => { s with sys := sys }
  | .sleep env counter =>
    if readsTimer s.sys env then
      let (ticks, osTickRemain) := pmTimerGetTick rtTickPerSecond counter s.osTickRemain
      let s := s.enter { env with timerGetTick := ticks }
      some { s with osTickRemain := osTickRemain, slept := s.slept + counter.toNat }
    else some (s.enter env)

/-! ### The conversion -/

section Conversion

variable {rtTickPerSecond : BitVec 32} {counter : BitVec 16} {osTickRemain : BitVec 32}

/-- With no overflow, ticks and remainder are those of the exact time. -/
lemma pmTimerGetTick_spec (counter : BitVec 16) (hfits : 65535 * rtTickPerSecond.toNat + 999 < 2 ^ 32)
    (hremain : osTickRemain.toNat < 1000) :
    (pmTimerGetTick rtTickPerSecond counter osTickRemain).1.toNat =
      (rtTickPerSecond.toNat * counter.toNat + osTickRemain.toNat) / 1000 ∧
    (pmTimerGetTick rtTickPerSecond counter osTickRemain).2.toNat =
      (rtTickPerSecond.toNat * counter.toNat + osTickRemain.toNat) % 1000 := by
  have hcounter := counter.isLt
  have hmul : rtTickPerSecond.toNat * counter.toNat ≤ 65535 * rtTickPerSecond.toNat := by
    rw [Nat.mul_comm 65535]
    exact Nat.mul_le_mul_left _ (by omega)
  have hset : (counter.setWidth 32).toNat = counter.toNat := by
    rw [BitVec.toNat_setWidth]
    exact Nat.mod_eq_of_lt (by omega)
  have hprod : (counter.setWidth 32 * rtTickPerSecond).toNat =
      rtTickPerSecond.toNat * counter.toNat := by
    rw [BitVec.toNat_mul, hset, Nat.mul_comm]
    exact Nat.mod_eq_of_lt (by omega)
  have hsum : (counter.setWidth 32 * rtTickPerSecond + osTickRemain).toNat =
      rtTickPerSecond.toNat * counter.toNat + osTickRemain.toNat := by
    rw [BitVec.toNat_add, hprod]
    exact Nat.mod_eq_of_lt (by omega)
  unfold pmTimerGetTick n32OsTickFromPmTick
  simp only
  constructor
  · rw [BitVec.toNat_udiv, hsum]
    rfl
  · rw [BitVec.add_comm osTickRemain, BitVec.toNat_umod, hsum]
    rfl

end Conversion

/-! ### The credit of one entry -/

section Entry

variable {s : Sys} {env : PmEnv}

lemma credited_append (as bs : List PmEvent) : credited (as ++ bs) = credited as + credited bs := by
  unfold credited
  rw [List.map_append, List.sum_append]

lemma credited_pmDeviceSuspend (mode : ℕ) (ds : List RtDevicePm) :
    credited (pmDeviceSuspend env mode ds) = 0 := by
  induction ds with
  | nil => rfl
  | cons d ds ih =>
    simp only [pmDeviceSuspend]
    split_ifs
    · exact (Nat.zero_add _).trans ih
    · rfl
    · exact ih

lemma credited_pmDeviceResume (mode : ℕ) (ds : List RtDevicePm) :
    credited (pmDeviceResume mode ds) = 0 := by
  unfold pmDeviceResume
  induction ds.filter RtDevicePm.resume with
  | nil => rfl
  | cons d ds ih => exact (Nat.zero_add _).trans ih

lemma credited_tickless (pm : RtPm) (tick : BitVec 32) : credited (tickless pm tick env).2 = 0 := by
  unfold tickless
  split_ifs
  · simp only
    split_ifs <;> rfl
  · rfl

lemma credited_wakeUp (pm : RtPm) :
    credited (wakeUp pm env) = if hasTimer pm pm.sleepMode then env.timerGetTick.toNat else 0 := by
  unfold wakeUp
  split_ifs with htimer hzero
  · exact (Nat.zero_add _).trans (Nat.add_zero _)
  · rw [not_not.mp hzero]
    rfl
  · rfl

/-- An entry that reads the timer credits what it reports, and another one nothing. -/
lemma credited_pmChangeSleepMode (s : Sys) (env : PmEnv) :
    credited (pmChangeSleepMode s.pm s.tick env).2 =
      if readsTimer s env then env.timerGetTick.toNat else 0 := by
  unfold readsTimer
  unfold pmChangeSleepMode
  simp only
  split_ifs with hnone hreads hreads
  · rw [hnone] at hreads
    cases hreads
  · rfl
  all_goals
    have hexit : ∀ mode, credited [.notifyExit mode] = 0 := fun _ => rfl
    have hsleep : ∀ mode evs, credited (.sleep mode :: evs) = credited evs :=
      fun _ _ => Nat.zero_add _
    have henter : ∀ mode evs, credited (.notifyEnter mode :: evs) = credited evs :=
      fun _ _ => Nat.zero_add _
    simp only [credited_append, henter, hsleep, hexit, credited_pmDeviceSuspend,
      credited_pmDeviceResume, credited_tickless, credited_wakeUp, Nat.zero_add, Nat.add_zero]
    rw [decide_eq_true hnone, Bool.true_and] at hreads
  · rw [if_pos hreads]
  · rw [if_neg hreads]

/-- What the timer reports is not looked at before it is read. -/
lemma readsTimer_timerGetTick (ticks : BitVec 32) :
    readsTimer s { env with timerGetTick := ticks } = readsTimer s env := by
  have htickless : ∀ pm tick, tickless pm tick { env with timerGetTick := ticks } =
      tickless pm tick env := fun _ _ => rfl
  have hmode : (pmChangeSleepMode s.pm s.tick { env with timerGetTick := ticks }).1 =
      (pmChangeSleepMode s.pm s.tick env).1 := by
    unfold pmChangeSleepMode
    simp only [htickless]
    split_ifs <;> rfl
  unfold readsTimer
  rw [hmode]

end Entry

/-! ### Runs -/

/-- The ticks credited so far and the remainder are those of the time slept so far. -/
structure Exact (rtTickPerSecond : BitVec 32) (s : Lptim) : Prop where
  credit : s.credit = rtTickPerSecond.toNat * s.slept / 1000
  remain : s.osTickRemain.toNat = rtTickPerSecond.toNat * s.slept % 1000

lemma exact_step {rtTickPerSecond : BitVec 32} {s s' : Lptim} {a : LptimAction}
    (hfits : 65535 * rtTickPerSecond.toNat + 999 < 2 ^ 32) (h : Exact rtTickPerSecond s)
    (hs : lptimStep rtTickPerSecond s a = some s') : Exact rtTickPerSecond s' := by
  cases a with
  | call a =>
    have hsame : s'.credit = s.credit ∧ s'.slept = s.slept ∧ s'.osTickRemain = s.osTickRemain := by
      cases a with
      | enter env => cases hs
      | _ =>
        simp only [lptimStep, Option.map_eq_some_iff] at hs
        obtain ⟨sys, -, rfl⟩ := hs
        exact ⟨rfl, rfl, rfl⟩
    obtain ⟨hcredit, hslept, hremain⟩ := hsame
    refine ⟨?_, ?_⟩
    · rw [hcredit, hslept]
      exact h.credit
    · rw [hremain, hslept]
      exact h.remain
  | sleep env counter =>
    simp only [lptimStep] at hs
    split at hs
    · rename_i hreads
      cases hs
      have hlt : s.osTickRemain.toNat < 1000 := by
        rw [h.remain]
        exact Nat.mod_lt _ (by decide)
      obtain ⟨hticks, hremain⟩ := pmTimerGetTick_spec counter hfits hlt
      have hcredited := credited_pmChangeSleepMode s.sys { env with
        timerGetTick := (pmTimerGetTick rtTickPerSecond counter s.osTickRemain).1 }
      rw [readsTimer_timerGetTick, if_pos hreads] at hcredited
      have hmul : rtTickPerSecond.toNat * (s.slept + counter.toNat) =
          rtTickPerSecond.toNat * s.slept + rtTickPerSecond.toNat * counter.toNat := Nat.mul_add ..
      refine ⟨?_, ?_⟩
      · unfold Lptim.enter
        simp only
        rw [hcredited, hticks, h.credit, h.remain, hmul]
        omega
      · unfold Lptim.enter
        simp only
        rw [hremain, h.remain, hmul]
        omega
    · rename_i hreads
      cases hs
      have hcredited := credited_pmChangeSleepMode s.sys env
      rw [if_neg hreads] at hcredited
      refine ⟨?_, h.remain⟩
      unfold Lptim.enter
      simp only
      rw [hcredited]
      exact h.credit

/-- The driver and the power manager after their initialisation. -/
def Lptim.powerOn (sys : Sys) : Lptim where
  sys := sys
  osTickRemain := 0
  slept := 0
  credit := 0

/-- **No time is lost or invented.**  After any number of sleeps the ticks credited are the whole
ticks of the time that the LPTIM has shown, and the remainder is the rest of it. -/
theorem tick_conservation (rtTickPerSecond : BitVec 32)
    (hfits : 65535 * rtTickPerSecond.toNat + 999 < 2 ^ 32) (sys : Sys) (as : List LptimAction)
    {s : Lptim} (hrun : exec (lptimStep rtTickPerSecond) (Lptim.powerOn sys) as = some s) :
    s.credit = rtTickPerSecond.toNat * s.slept / 1000 ∧
      s.osTickRemain.toNat = rtTickPerSecond.toNat * s.slept % 1000 := by
  have hzero : rtTickPerSecond.toNat * (Lptim.powerOn sys).slept = 0 := Nat.mul_zero _
  have hinit : Exact rtTickPerSecond (Lptim.powerOn sys) := by
    refine ⟨?_, ?_⟩
    · rw [hzero]
      rfl
    · rw [hzero]
      rfl
  have h : Exact rtTickPerSecond s :=
    exec_inv (fun _ _ _ h hs => exact_step hfits h hs) as _ s hinit hrun
  exact ⟨h.credit, h.remain⟩

/-- Two sleeps of 1503 and 709 milliseconds with 100 ticks a second, in the deep mode. -/
theorem tick_conservation_two :
    ∃ s, exec (lptimStep 100) (Lptim.powerOn (Sys.powerOn 7 8 fun _ _ => 0))
        [.call (.release rtPmDefaultSleepMode), .sleep idleEnv 1503, .sleep idleEnv 709] = some s ∧
      s.slept = 2212 ∧ s.credit = 221 ∧ s.osTickRemain.toNat = 200 := by
  have hrun : ∃ s ∈ exec (lptimStep 100) (Lptim.powerOn (Sys.powerOn 7 8 fun _ _ => 0))
      [.call (.release rtPmDefaultSleepMode), .sleep idleEnv 1503, .sleep idleEnv 709],
      s.slept = 2212 := by
    decide +kernel
  obtain ⟨s, hs, hslept⟩ := hrun
  obtain ⟨hcredit, hremain⟩ := tick_conservation 100 (by decide) _ _ hs
  rw [hslept] at hcredit hremain
  exact ⟨s, hs, hslept, hcredit, hremain⟩

end N32L43x.Pm
