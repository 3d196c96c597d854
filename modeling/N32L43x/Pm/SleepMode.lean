import N32L43x.Pm.Select
import N32L43x.Lib.Run

/-!
Sleep-mode safety of the power manager over whole runs of requests, releases, delay-sleep calls,
passing time and entries into a sleep mode.  The run keeps a record of its calls next to the
state: the outstanding requests of each mode and the delay-sleep windows in unwrapped time.

The request counters have eight bits and stop at 255: requests made there are ignored, while the
releases that belong to them still count down.  So the mode handed to the hardware is bounded by
the requests that were not ignored, by the request table and by the open windows, and with 256
requests not by all the outstanding ones.
-/

namespace N32L43x.Pm

open N32L43x.Lib.Bits N32L43x.Lib.Run

/-! ### The system -/

/-- The power manager with the time and a record of the calls. -/
structure Sys where
  pm : RtPm
  /-- the time in ticks, not wrapped -/
  now : ℕ
  /-- accepted requests less accepted releases of each mode -/
  outstanding : ℕ → ℕ
  /-- the largest number of outstanding requests of each mode so far -/
  peak : ℕ → ℕ
  /-- requests of each mode that met a counter of 255 -/
  ignored : ℕ → ℕ
  /-- when the last delay-sleep call of each module was made, and its timeout -/
  window : ℕ → Option (ℕ × BitVec 32)

/-- `rt_tick_get`. -/
def Sys.tick (s : Sys) : BitVec 32 := BitVec.ofNat 32 s.now

/-- The system after `rt_system_pm_init`, at any time, with the request table as the calls before
it left it.  The mode requested at power on counts as one outstanding request. -/
def Sys.powerOn (now : ℕ) (timerMask : BitVec 8) (sleepStatus : ℕ → ℕ → BitVec 32) : Sys where
  pm := rtSystemPmInit ⟨fun _ => 0, 0, fun _ => ⟨0, false, 0, 0⟩, sleepStatus, [], 0, false⟩
    timerMask
  now := now
  outstanding := Function.update (fun _ => 0) rtPmDefaultSleepMode 1
  peak := Function.update (fun _ => 0) rtPmDefaultSleepMode 1
  ignored := fun _ => 0
  window := fun _ => none

/-- What can happen next. -/
inductive Action where
  | request (mode : ℕ)
  | release (mode : ℕ)
  | moduleRequest (moduleId mode : ℕ)
  | moduleRelease (moduleId mode : ℕ)
  | sleepRequest (moduleId mode : ℕ)
  | sleepRelease (moduleId mode : ℕ)
  | delaySleep (moduleId : ℕ) (timeout : BitVec 32)
  /-- time passes -/
  | tick (n : ℕ)
  /-- an entry of `_pm_change_sleep_mode` -/
  | enter (env : PmEnv)

/-- The record of an accepted request. -/
def countUp (s : Sys) (mode : ℕ) (pm : RtPm) : Sys :=
  { s with
    pm := pm
    outstanding := Function.update s.outstanding mode (s.outstanding mode + 1)
    peak := Function.update s.peak mode (max (s.peak mode) (s.outstanding mode + 1))
    ignored := if s.pm.modes mode < 255 then s.ignored
      else Function.update s.ignored mode (s.ignored mode + 1) }

/-- The record of an accepted release. -/
def countDown (s : Sys) (mode : ℕ) (pm : RtPm) : Sys :=
  { s with
    pm := pm
    outstanding := Function.update s.outstanding mode (s.outstanding mode - 1) }

/-- The ticks the trace of an entry credits. -/
def credited (evs : List PmEvent) : ℕ :=
  (evs.map fun
    | .tickIncrease ticks => ticks.toNat
    | _ => 0).sum

/-- One step of the system. -/
def step (s : Sys) : Action → Option Sys
  | .request mode =>
    let r := rtPmRequest s.pm mode
    some (if r.2 = .eok then countUp s mode r.1 else { s with pm := r.1 })
  | .release mode =>
    let r := rtPmRelease s.pm mode
    some (if r.2 = .eok then countDown s mode r.1 else { s with pm := r.1 })
  | .moduleRequest moduleId mode =>
    let r := rtPmModuleRequest s.pm moduleId mode
    some (if r.2 = .eok then countUp s mode r.1 else { s with pm := r.1 })
  | .moduleRelease moduleId mode =>
    let r := rtPmModuleRelease s.pm moduleId mode
    some (if r.2 = .eok then countDown s mode r.1 else { s with pm := r.1 })
  | .sleepRequest moduleId mode => some { s with pm := (rtPmSleepRequest s.pm moduleId mode).1 }
  | .sleepRelease moduleId mode => some { s with pm := (rtPmSleepRelease s.pm moduleId mode).1 }
  | .delaySleep moduleId timeout =>
    some { s with
      pm := rtPmModuleDelaySleep s.pm s.tick moduleId timeout
      window := if moduleId < pmModuleMaxId then
        Function.update s.window moduleId (some (s.now, timeout)) else s.window }
  | .tick n => some { s with now := s.now + n }
  | .enter env =>
    let r := pmChangeSleepMode s.pm s.tick env
    some { s with pm := r.1, now := s.now + credited r.2 }

/-- No mode is released more often than it was requested. -/
def Balanced (s : Sys) : Action → Prop
  | .release mode => (rtPmRelease s.pm mode).2 = .eok → 0 < s.outstanding mode
  | .moduleRelease moduleId mode =>
    (rtPmModuleRelease s.pm moduleId mode).2 = .eok → 0 < s.outstanding mode
  | _ => True

instance (s : Sys) : ∀ a, Decidable (Balanced s a)
  | .release _ => inferInstanceAs (Decidable (_ → _))
  | .moduleRelease _ _ => inferInstanceAs (Decidable (_ → _))
  | .request _ => isTrue trivial
  | .moduleRequest _ _ => isTrue trivial
  | .sleepRequest _ _ => isTrue trivial
  | .sleepRelease _ _ => isTrue trivial
  | .delaySleep _ _ => isTrue trivial
  | .tick _ => isTrue trivial
  | .enter _ => isTrue trivial

/-! ### The property -/

/-- In unwrapped time, the last delay-sleep call of the module is at most its timeout ago. -/
def InWindow (s : Sys) (i : ℕ) : Prop :=
  ∃ w ∈ s.window i, s.now ≤ w.1 + w.2.toNat

/-- A mode is no deeper than the modes requested in the sense of `Req` and those of the request
table, than the busy mode while a window is open, and than the mode before the
threshold adjustment. -/
structure NotDeeper (Req : Sys → ℕ → Prop) (s : Sys) (mode : ℕ) : Prop where
  requested : ∀ k, Req s k → mode ≤ k
  table : ∀ k < pmSleepModeMax - 1, ∀ id, (s.pm.sleepStatus k 0).getLsbD id = true → mode ≤ k
  busy : ∀ i < pmModuleMaxId, WindowOpen s.tick (s.pm.moduleStatus i) ∨ InWindow s i →
    mode ≤ pmBusySleepMode
  threshold : mode ≤ (judgeMode s.pm s.tick).sleepMode

/-- An entry hands exactly one mode to the hardware, and it is not deeper than allowed. -/
def SleepSafe (Req : Sys → ℕ → Prop) (s : Sys) : Action → Prop
  | .enter env => ∃ mode, sleepModes (pmChangeSleepMode s.pm s.tick env).2 = [mode] ∧
    NotDeeper Req s mode
  | _ => True

/-- The mode has an outstanding request. -/
def Outstanding (s : Sys) (k : ℕ) : Prop := 0 < s.outstanding k

/-- The mode has an outstanding request that the counter did not ignore: more requests are
outstanding than were made while the counter stood at 255, or no more than 255 were ever
outstanding. -/
def Counted (s : Sys) (k : ℕ) : Prop :=
  s.ignored k < s.outstanding k ∨ s.peak k ≤ 255 ∧ 0 < s.outstanding k

/-! ### The invariant -/

/-- The counters and the windows agree with the record of the calls. -/
structure Inv (s : Sys) : Prop where
  initFlag : s.pm.initFlag = true
  /-- only the modes of the counters are requested -/
  range : ∀ k, 0 < s.outstanding k → k < pmSleepModeMax
  /-- a counter misses at most the ignored requests -/
  counter : ∀ k, s.outstanding k ≤ s.pm.modes k + s.ignored k
  /-- and counts nothing that was not requested -/
  sound : ∀ k, s.pm.modes k ≤ s.outstanding k
  peak : ∀ k, s.outstanding k ≤ s.peak k
  /-- requests are ignored beyond 255 only -/
  ignored : ∀ k, s.peak k ≤ 255 → s.ignored k = 0
  /-- an open window is recorded in the module's status -/
  window : ∀ i, ∀ w ∈ s.window i, w.1 ≤ s.now ∧ (s.now ≤ w.1 + w.2.toNat →
    (s.pm.moduleStatus i).busyFlag = true ∧
      (s.pm.moduleStatus i).startTime = BitVec.ofNat 32 w.1 ∧
        (s.pm.moduleStatus i).timeout = w.2)

theorem inv_powerOn (now : ℕ) (timerMask : BitVec 8) (sleepStatus : ℕ → ℕ → BitVec 32) :
    Inv (Sys.powerOn now timerMask sleepStatus) where
  initFlag := rfl
  range k h := by
    by_contra hk
    have : k ≠ rtPmDefaultSleepMode := by
      rintro rfl
      exact hk (by decide)
    simp [Sys.powerOn, this] at h
  counter _ := Nat.le_refl _
  sound _ := Nat.le_refl _
  peak _ := Nat.le_refl _
  ignored _ _ := rfl
  window _ w h := by cases h

/-- The status of the delay-sleep windows is the same in both states. -/
def SameWindows (pm pm' : RtPm) : Prop :=
  ∀ i, (pm'.moduleStatus i).busyFlag = (pm.moduleStatus i).busyFlag ∧
    (pm'.moduleStatus i).startTime = (pm.moduleStatus i).startTime ∧
      (pm'.moduleStatus i).timeout = (pm.moduleStatus i).timeout

lemma sameWindows_setReqStatus (pm : RtPm) (moduleId status : ℕ) :
    SameWindows pm (setReqStatus pm moduleId status) := by
  intro i
  unfold setReqStatus
  by_cases h : i = moduleId
  · subst h
    simp
  · simp [h]

/-! ### What the calls do -/

/-- The counters after an accepted request. -/
def bump (modes : ℕ → ℕ) (mode : ℕ) : ℕ → ℕ :=
  if modes mode < 255 then Function.update modes mode (modes mode + 1) else modes

/-- The counters after an accepted release. -/
def drop (modes : ℕ → ℕ) (mode : ℕ) : ℕ → ℕ := Function.update modes mode (modes mode - 1)

lemma drop_of_zero {modes : ℕ → ℕ} {mode : ℕ} (h : ¬modes mode > 0) :
    drop modes mode = modes := by
  unfold drop
  rw [show modes mode - 1 = modes mode by omega, Function.update_eq_self]

/-- A call that is refused changes nothing; one that is accepted names a mode of the counters,
changes them by `f`, and leaves the windows alone. -/
def Counts (f : (ℕ → ℕ) → ℕ → ℕ → ℕ) (pm : RtPm) (mode : ℕ) (r : RtPm × RtErr) : Prop :=
  (r.1 = pm ∧ r.2 ≠ .eok) ∨ (r.2 = .eok ∧ mode < pmSleepModeMax ∧ r.1.initFlag = pm.initFlag ∧
    r.1.modes = f pm.modes mode ∧ SameWindows pm r.1)

section calls

variable {pm : RtPm} {mode : ℕ}

lemma rtPmRequest_counts : Counts bump pm mode (rtPmRequest pm mode) := by
  unfold rtPmRequest
  split_ifs with h1 h2 h3
  · exact .inl ⟨rfl, nofun⟩
  · exact .inl ⟨rfl, nofun⟩
  · exact .inr ⟨rfl, Nat.lt_of_not_le h2, rfl, by simp [bump, h3], fun i => ⟨rfl, rfl, rfl⟩⟩
  · exact .inr ⟨rfl, Nat.lt_of_not_le h2, rfl, by simp [bump, h3], fun i => ⟨rfl, rfl, rfl⟩⟩

lemma rtPmRelease_counts : Counts drop pm mode (rtPmRelease pm mode) := by
  unfold rtPmRelease
  split_ifs with h1 h2 h3
  · exact .inl ⟨rfl, nofun⟩
  · exact .inl ⟨rfl, nofun⟩
  · exact .inr ⟨rfl, Nat.lt_of_not_le h2, rfl, rfl, fun i => ⟨rfl, rfl, rfl⟩⟩
  · exact .inr ⟨rfl, Nat.lt_of_not_le h2, rfl, (drop_of_zero h3).symm, fun i => ⟨rfl, rfl, rfl⟩⟩

lemma rtPmModuleRequest_counts {moduleId : ℕ} :
    Counts bump pm mode (rtPmModuleRequest pm moduleId mode) := by
  have hwin := sameWindows_setReqStatus pm moduleId 1
  unfold rtPmModuleRequest
  simp only
  split_ifs with h1 h2 h3 h4
  · exact .inl ⟨rfl, nofun⟩
  · exact .inl ⟨rfl, nofun⟩
  · exact .inl ⟨rfl, nofun⟩
  · exact .inr ⟨rfl, Nat.lt_of_not_le h2, rfl, (if_pos h4).symm, hwin⟩
  · exact .inr ⟨rfl, Nat.lt_of_not_le h2, rfl, (if_neg h4).symm, hwin⟩

lemma rtPmModuleRelease_counts {moduleId : ℕ} :
    Counts drop pm mode (rtPmModuleRelease pm moduleId mode) := by
  unfold rtPmModuleRelease
  simp only
  split_ifs with h1 h2 h3 h4 h5 h5
  · exact .inl ⟨rfl, nofun⟩
  · exact .inl ⟨rfl, nofun⟩
  · exact .inl ⟨rfl, nofun⟩
  · exact .inr ⟨rfl, Nat.lt_of_not_le h2, rfl, rfl, sameWindows_setReqStatus { pm with
      modes := Function.update pm.modes mode (pm.modes mode - 1) } moduleId 0⟩
  · exact .inr ⟨rfl, Nat.lt_of_not_le h2, rfl, rfl, fun i => ⟨rfl, rfl, rfl⟩⟩
  · exact .inr ⟨rfl, Nat.lt_of_not_le h2, rfl, (drop_of_zero h4).symm,
      sameWindows_setReqStatus pm moduleId 0⟩
  · exact .inr ⟨rfl, Nat.lt_of_not_le h2, rfl, (drop_of_zero h4).symm, fun i => ⟨rfl, rfl, rfl⟩⟩

end calls

/-! ### One step -/

/-- The part of the invariant that is about one mode: its outstanding requests, its counter, the
requests that were ignored, and the largest number of outstanding ones. -/
structure ModeInv (k outstanding counter ignored peak : ℕ) : Prop where
  range : 0 < outstanding → k < pmSleepModeMax
  counted : outstanding ≤ counter + ignored
  sound : counter ≤ outstanding
  peak_ge : outstanding ≤ peak
  ignored_eq : peak ≤ 255 → ignored = 0

lemma Inv.modeInv {s : Sys} (hI : Inv s) (k : ℕ) :
    ModeInv k (s.outstanding k) (s.pm.modes k) (s.ignored k) (s.peak k) :=
  ⟨hI.range k, hI.counter k, hI.sound k, hI.peak k, hI.ignored k⟩

/-- A step that changes the record of the requests only. -/
lemma Inv.of_modes {s s' : Sys} (hI : Inv s) (hinit : s'.pm.initFlag = s.pm.initFlag)
    (hwin : SameWindows s.pm s'.pm) (hnow : s'.now = s.now) (hwindow : s'.window = s.window)
    (hmode : ∀ k, ModeInv k (s'.outstanding k) (s'.pm.modes k) (s'.ignored k) (s'.peak k)) :
    Inv s' where
  initFlag := hinit.trans hI.initFlag
  range k := (hmode k).range
  counter k := (hmode k).counted
  sound k := (hmode k).sound
  peak k := (hmode k).peak_ge
  ignored k := (hmode k).ignored_eq
  window i w hw := by
    obtain ⟨hb, hs, ht⟩ := hwin i
    rw [hwindow] at hw
    rw [hnow, hb, hs, ht]
    exact hI.window i w hw

/-- A call that touches no counter and no window keeps the invariant. -/
lemma Inv.of_same {s : Sys} (hI : Inv s) (pm : RtPm) (hinit : pm.initFlag = s.pm.initFlag)
    (hmodes : pm.modes = s.pm.modes) (hwin : SameWindows s.pm pm) : Inv { s with pm := pm } := by
  refine hI.of_modes hinit hwin rfl rfl fun k => ?_
  simp only [hmodes]
  exact hI.modeInv k

section ModeInv

variable {k outstanding counter ignored peak : ℕ}
  (h : ModeInv k outstanding counter ignored peak)
include h

/-- One more request. -/
lemma ModeInv.up (hk : k < pmSleepModeMax) :
    ModeInv k (outstanding + 1) (if counter < 255 then counter + 1 else counter)
      (if counter < 255 then ignored else ignored + 1) (max peak (outstanding + 1)) := by
  obtain ⟨-, hcounted, hsound, -, hignored⟩ := h
  refine ⟨fun _ => hk, ?_, ?_, le_max_right .., fun hpeak => ?_⟩
  · split_ifs <;> omega
  · split_ifs <;> omega
  · -- a request is ignored at 255 outstanding ones at least, which puts the peak above 255
    rw [if_pos (by omega)]
    exact hignored (by omega)

/-- One request less. -/
lemma ModeInv.down (hpos : 0 < outstanding) :
    ModeInv k (outstanding - 1) (counter - 1) ignored peak := by
  obtain ⟨hrange, hcounted, hsound, hpeak, hignored⟩ := h
  exact ⟨fun _ => hrange hpos, by omega, by omega, by omega, hignored⟩

end ModeInv

lemma countUp_inv {s : Sys} {mode : ℕ} {pm : RtPm} (hI : Inv s) (hmode : mode < pmSleepModeMax)
    (hinit : pm.initFlag = s.pm.initFlag)
    (hmodes : pm.modes = bump s.pm.modes mode)
    (hwin : SameWindows s.pm pm) : Inv (countUp s mode pm) := by
  refine hI.of_modes hinit hwin rfl rfl fun k => ?_
  have hk := hI.modeInv k
  simp only [countUp, hmodes, bump]
  by_cases hkm : k = mode
  · subst hkm
    have hup := hk.up hmode
    split_ifs with h255
    · rw [if_pos h255, if_pos h255] at hup
      simpa only [Function.update_self] using hup
    · rw [if_neg h255, if_neg h255] at hup
      simpa only [Function.update_self] using hup
  · split_ifs
    · simpa only [Function.update_of_ne hkm] using hk
    · simpa only [Function.update_of_ne hkm] using hk

lemma countDown_inv {s : Sys} {mode : ℕ} {pm : RtPm} (hI : Inv s) (hpos : 0 < s.outstanding mode)
    (hinit : pm.initFlag = s.pm.initFlag)
    (hmodes : pm.modes = drop s.pm.modes mode)
    (hwin : SameWindows s.pm pm) : Inv (countDown s mode pm) := by
  refine hI.of_modes hinit hwin rfl rfl fun k => ?_
  have hk := hI.modeInv k
  simp only [countDown, hmodes, drop]
  by_cases hkm : k = mode
  · subst hkm
    simpa only [Function.update_self] using hk.down hpos
  · simpa only [Function.update_of_ne hkm] using hk

lemma delaySleep_inv {s : Sys} {moduleId : ℕ} {timeout : BitVec 32} (hI : Inv s) :
    Inv { s with
      pm := rtPmModuleDelaySleep s.pm s.tick moduleId timeout
      window := if moduleId < pmModuleMaxId then
        Function.update s.window moduleId (some (s.now, timeout)) else s.window } := by
  unfold rtPmModuleDelaySleep
  rw [if_neg (by rw [hI.initFlag]; decide)]
  by_cases hid : moduleId < pmModuleMaxId
  · have hgt : ¬moduleId > pmModuleMaxId - 1 := Nat.not_lt.2 (Nat.le_of_lt_succ hid)
    rw [if_neg hgt, if_pos hid]
    refine ⟨hI.initFlag, hI.range, hI.counter, hI.sound, hI.peak, hI.ignored, fun i w hw => ?_⟩
    by_cases him : i = moduleId
    · subst him
      simp only [Function.update_self, Option.mem_def, Option.some.injEq] at hw
      subst hw
      refine ⟨le_rfl, fun _ => ?_⟩
      simp [Sys.tick]
    · simp only [Function.update_of_ne him] at hw ⊢
      exact hI.window i w hw
  · have hgt : moduleId > pmModuleMaxId - 1 := Nat.not_lt.1 hid
    rw [if_pos hgt, if_neg hid]
    exact hI

/-- An open window of the record is open in the module's status. -/
lemma Inv.windowOpen {s : Sys} (hI : Inv s) {i : ℕ} (h : InWindow s i) :
    WindowOpen s.tick (s.pm.moduleStatus i) := by
  obtain ⟨w, hw, hopen⟩ := h
  obtain ⟨hle, hst⟩ := hI.window i w hw
  obtain ⟨hbusy, hstart, htimeout⟩ := hst hopen
  refine ⟨hbusy, ?_⟩
  have hlt := w.2.isLt
  have helapsed : (s.tick - BitVec.ofNat 32 w.1).toNat = s.now - w.1 := by
    unfold Sys.tick
    rw [BitVec.toNat_sub, BitVec.toNat_ofNat, BitVec.toNat_ofNat]
    omega
  rw [hstart, htimeout, BitVec.le_def, helapsed]
  omega

lemma enter_inv {s : Sys} {env : PmEnv} (hI : Inv s) :
    Inv { s with
      pm := (pmChangeSleepMode s.pm s.tick env).1
      now := s.now + credited (pmChangeSleepMode s.pm s.tick env).2 } := by
  obtain ⟨mode, status, heq, -, -, hst⟩ := pmChangeSleepMode_spec s.pm s.tick env
  rw [heq]
  refine ⟨hI.initFlag, hI.range, hI.counter, hI.sound, hI.peak, hI.ignored, fun i w hw => ?_⟩
  obtain ⟨hle, hopen⟩ := hI.window i w hw
  refine ⟨by simp only; omega, fun h => ?_⟩
  simp only at h ⊢
  have hnow : s.now ≤ w.1 + w.2.toNat := by omega
  have hsame : status i = s.pm.moduleStatus i := by
    rcases hst i with hsame | hexp
    · exact hsame
    · rw [hexp, expire_of_open (hI.windowOpen ⟨w, hw, hnow⟩)]
  rw [hsame]
  exact hopen hnow

/-- The invariant after a call that counts. -/
lemma counts_inv {s s' : Sys} {f : (ℕ → ℕ) → ℕ → ℕ → ℕ} {mode : ℕ} {r : RtPm × RtErr}
    {count : Sys → ℕ → RtPm → Sys} (hI : Inv s) (hr : Counts f s.pm mode r)
    (hcount : r.2 = .eok → mode < pmSleepModeMax → r.1.initFlag = s.pm.initFlag →
      r.1.modes = f s.pm.modes mode → SameWindows s.pm r.1 → Inv (count s mode r.1))
    (h : some (if r.2 = .eok then count s mode r.1 else { s with pm := r.1 }) = some s') :
    Inv s' := by
  rw [Option.some.injEq] at h
  subst h
  rcases hr with ⟨hpm, hne⟩ | ⟨hok, hmode, hinit, hmodes, hwin⟩
  · rw [if_neg hne, hpm]
    exact hI
  · rw [if_pos hok]
    exact hcount hok hmode hinit hmodes hwin

/-- **One step keeps the invariant.** -/
theorem step_inv {s s' : Sys} {a : Action} (hI : Inv s) (hB : Balanced s a)
    (h : step s a = some s') : Inv s' := by
  cases a with
  | request mode =>
    exact counts_inv hI rtPmRequest_counts (fun _ => countUp_inv hI) h
  | release mode =>
    exact counts_inv hI rtPmRelease_counts (fun hok _ => countDown_inv hI (hB hok)) h
  | moduleRequest moduleId mode =>
    exact counts_inv hI rtPmModuleRequest_counts (fun _ => countUp_inv hI) h
  | moduleRelease moduleId mode =>
    exact counts_inv hI rtPmModuleRelease_counts (fun hok _ => countDown_inv hI (hB hok)) h
  | sleepRequest moduleId mode =>
    simp only [step, Option.some.injEq] at h
    subst h
    unfold rtPmSleepRequest
    split_ifs <;> exact hI.of_same _ rfl rfl fun i => ⟨rfl, rfl, rfl⟩
  | sleepRelease moduleId mode =>
    simp only [step, Option.some.injEq] at h
    subst h
    unfold rtPmSleepRelease
    split_ifs <;> exact hI.of_same _ rfl rfl fun i => ⟨rfl, rfl, rfl⟩
  | delaySleep moduleId timeout =>
    simp only [step, Option.some.injEq] at h
    subst h
    exact delaySleep_inv hI
  | tick n =>
    simp only [step, Option.some.injEq] at h
    subst h
    refine ⟨hI.initFlag, hI.range, hI.counter, hI.sound, hI.peak, hI.ignored, fun i w hw => ?_⟩
    obtain ⟨hle, hopen⟩ := hI.window i w hw
    exact ⟨Nat.le_add_right_of_le hle, fun h => hopen (le_trans (Nat.le_add_right ..) h)⟩
  | enter env =>
    simp only [step, Option.some.injEq] at h
    subst h
    exact enter_inv hI

/-! ### Whole runs -/

/-- A mode with a counted request has a nonzero counter. -/
lemma Inv.modes_ne_zero {s : Sys} (hI : Inv s) {k : ℕ} (h : Counted s k) : s.pm.modes k ≠ 0 := by
  have hcounter := hI.counter k
  rcases h with h | ⟨hpeak, h⟩
  · omega
  · have := hI.ignored k hpeak
    omega

lemma Inv.sleepSafe {s : Sys} (hI : Inv s) (a : Action) : SleepSafe Counted s a := by
  cases a with
  | enter env =>
    obtain ⟨mode, status, -, hsleep, hle, -⟩ := pmChangeSleepMode_spec s.pm s.tick env
    obtain ⟨judged, status', hj, hjle, -⟩ := judgeMode_frame s.pm s.tick
    have hsel : mode ≤ pmSelectSleepMode s.pm := by
      rw [hj] at hle
      exact hle.trans hjle
    refine ⟨mode, hsleep, fun k hk => ?_, fun k hk id hid => ?_, fun i hi hw => ?_, hle⟩
    · have hpos : 0 < s.outstanding k := by
        rcases hk with h | ⟨-, h⟩ <;> omega
      exact hsel.trans (pmSelectSleepMode_le s.pm (hI.range k hpos) (hI.modes_ne_zero hk))
    · calc mode ≤ pmSelectSleepMode s.pm := hsel
        _ ≤ judgeSleepMode s.pm := pmSelectSleepMode_le_judge s.pm
        _ ≤ k := judgeSleepMode_le s.pm hk hid
    · have hopen : WindowOpen s.tick (s.pm.moduleStatus i) := hw.elim id hI.windowOpen
      exact hle.trans (judgeMode_le_busy hI.initFlag hi hopen)
  | request _ => trivial
  | release _ => trivial
  | moduleRequest _ _ => trivial
  | moduleRelease _ _ => trivial
  | sleepRequest _ _ => trivial
  | sleepRelease _ _ => trivial
  | delaySleep _ _ => trivial
  | tick _ => trivial

/-- The environment of an entry with no timer running. -/
def idleEnv : PmEnv := ⟨rtTickMax, rtTickMax, fun _ => .eok, 0⟩

end N32L43x.Pm
