import N32L43x.Pm.Defs
import Mathlib.Data.List.Basic

/-!
What the power manager's selection gives: the mode handed to the hardware is bounded by every
mode with a nonzero request counter, by every mode with a bit in the sleep request table, and by
`PM_BUSY_SLEEP_MODE` while a delay-sleep window is open.
-/

namespace N32L43x.Pm

open N32L43x.Lib.Bits

/-! ### The first index a loop stops at -/

lemma getD_find?_range_le {n k d : ℕ} {p : ℕ → Bool} (hk : k < n) (hp : p k = true) :
    ((List.range n).find? p).getD d ≤ k := by
  rcases h : (List.range n).find? p with _ | j
  · rw [List.find?_eq_none] at h
    exact absurd hp (h k (List.mem_range.2 hk))
  · rw [List.find?_range_eq_some] at h
    by_contra hlt
    have := h.2.2 k (by simpa using hlt)
    simp [hp] at this

lemma judgeSleepMode_le (pm : RtPm) {k id : ℕ} (hk : k < pmSleepModeMax - 1)
    (hbit : (pm.sleepStatus k 0).getLsbD id = true) : judgeSleepMode pm ≤ k := by
  unfold judgeSleepMode
  refine getD_find?_range_le hk ?_
  rw [List.any_eq_true]
  refine ⟨0, by decide, ?_⟩
  rw [bne_iff_ne]
  intro h
  rw [h] at hbit
  simp at hbit

lemma pmSelectSleepMode_le_judge (pm : RtPm) : pmSelectSleepMode pm ≤ judgeSleepMode pm := by
  unfold pmSelectSleepMode
  simp only
  split_ifs with h
  · exact le_rfl
  · omega

lemma pmSelectSleepMode_le (pm : RtPm) {k : ℕ} (hk : k < pmSleepModeMax) (h : pm.modes k ≠ 0) :
    pmSelectSleepMode pm ≤ k := by
  have hmode := getD_find?_range_le (d := rtPmDefaultDeepsleepMode) (p := fun i => pm.modes i != 0)
    hk (by simpa using h)
  unfold pmSelectSleepMode
  simp only
  split_ifs with hr
  · exact le_trans (Nat.le_of_lt hr) hmode
  · exact hmode

/-! ### The delay-sleep windows -/

/-- The delay-sleep window of a module is open: `now - start_time <= timeout`, in 32 bits. -/
def WindowOpen (tick : BitVec 32) (m : RtPmModule) : Prop :=
  m.busyFlag = true ∧ tick - m.startTime ≤ m.timeout

lemma expire_of_open {tick : BitVec 32} {m : RtPmModule} (h : WindowOpen tick m) :
    expire tick m = m := by
  unfold expire
  rw [if_neg]
  rintro ⟨-, hgt⟩
  exact absurd h.2 (BitVec.not_le.2 hgt)

/-- The loop changes the windows that have run out, and nothing else. -/
lemma checkIdleFrom_frame (tick : BitVec 32) (is : List ℕ) (pm : RtPm) :
    ∃ status : ℕ → RtPmModule, (checkIdleFrom tick pm is).1 = { pm with moduleStatus := status } ∧
      ∀ i, status i = pm.moduleStatus i ∨ status i = expire tick (pm.moduleStatus i) := by
  induction is generalizing pm with
  | nil => exact ⟨pm.moduleStatus, rfl, fun i => .inl rfl⟩
  | cons i is ih =>
    have hupd : ∀ j, Function.update pm.moduleStatus i (expire tick (pm.moduleStatus i)) j =
        pm.moduleStatus j ∨ Function.update pm.moduleStatus i (expire tick (pm.moduleStatus i)) j =
          expire tick (pm.moduleStatus j) := by
      intro j
      by_cases hji : j = i
      · subst hji
        exact .inr (Function.update_self ..)
      · exact .inl (Function.update_of_ne hji ..)
    simp only [checkIdleFrom]
    split_ifs
    · exact ⟨_, rfl, hupd⟩
    · obtain ⟨status, heq, hst⟩ := ih { pm with
        moduleStatus := Function.update pm.moduleStatus i (expire tick (pm.moduleStatus i)) }
      refine ⟨status, heq, fun j => ?_⟩
      have hidem : ∀ m, expire tick (expire tick m) = expire tick m := by
        intro m
        by_cases hm : m.busyFlag = true ∧ tick - m.startTime > m.timeout
        · simp [expire, hm]
        · simp [expire, hm]
      rcases hst j with h | h
      · rw [h]
        exact hupd j
      · rw [h]
        simp only
        rcases hupd j with h' | h' <;> rw [h']
        · exact .inr rfl
        · exact .inr (hidem _)

/-- The loop finds a module busy if a window is open. -/
lemma checkIdleFrom_of_open {tick : BitVec 32} {is : List ℕ} {pm : RtPm} {i : ℕ} (hi : i ∈ is)
    (hopen : WindowOpen tick (pm.moduleStatus i)) : (checkIdleFrom tick pm is).2 = false := by
  induction is generalizing pm with
  | nil => cases hi
  | cons j is ih =>
    simp only [checkIdleFrom]
    split_ifs with hbusy
    · rfl
    · have hji : i ≠ j := by
        rintro rfl
        rw [expire_of_open hopen] at hbusy
        exact hbusy hopen.1
      refine ih (List.mem_of_ne_of_mem hji hi) ?_
      simpa only [Function.update_of_ne hji] using hopen

/-- The loop finds every module idle if no window is open. -/
lemma checkIdleFrom_of_closed {tick : BitVec 32} {is : List ℕ} {pm : RtPm}
    (hclosed : ∀ i ∈ is, ¬WindowOpen tick (pm.moduleStatus i)) :
    (checkIdleFrom tick pm is).2 = true := by
  induction is generalizing pm with
  | nil => rfl
  | cons j is ih =>
    have hidle : (expire tick (pm.moduleStatus j)).busyFlag = false := by
      unfold expire
      split_ifs with h
      · rfl
      · by_contra hbusy
        rw [Bool.not_eq_false] at hbusy
        exact hclosed j List.mem_cons_self
          ⟨hbusy, BitVec.not_lt.1 fun hgt => h ⟨hbusy, hgt⟩⟩
    simp only [checkIdleFrom, hidle, Bool.false_eq_true, if_false]
    refine ih fun i hi hopen => ?_
    by_cases hij : i = j
    · subst hij
      simp only [Function.update_self] at hopen
      rw [hopen.1] at hidle
      cases hidle
    · simp only [Function.update_of_ne hij] at hopen
      exact hclosed i (List.mem_cons_of_mem j hi) hopen

/-- What the check leaves: the windows that have run out may be closed. -/
lemma pmDeviceCheckIdle_frame (pm : RtPm) (tick : BitVec 32) :
    ∃ status : ℕ → RtPmModule, (pmDeviceCheckIdle pm tick).1 = { pm with moduleStatus := status } ∧
      ∀ i, status i = pm.moduleStatus i ∨ status i = expire tick (pm.moduleStatus i) := by
  unfold pmDeviceCheckIdle
  split_ifs
  · exact ⟨pm.moduleStatus, rfl, fun i => .inl rfl⟩
  · exact checkIdleFrom_frame tick _ pm

lemma pmDeviceCheckIdle_of_open {pm : RtPm} {tick : BitVec 32} {i : ℕ} (hinit : pm.initFlag = true)
    (hi : i < pmModuleMaxId) (hopen : WindowOpen tick (pm.moduleStatus i)) :
    (pmDeviceCheckIdle pm tick).2 = false := by
  unfold pmDeviceCheckIdle
  rw [if_neg (by simp [hinit])]
  exact checkIdleFrom_of_open (List.mem_range.2 hi) hopen

/-! ### The mode before the threshold adjustment -/

/-- The first part of the entry changes the mode and the windows that have run out. -/
lemma judgeMode_frame (pm : RtPm) (tick : BitVec 32) :
    ∃ (mode : ℕ) (status : ℕ → RtPmModule),
      judgeMode pm tick = { pm with sleepMode := mode, moduleStatus := status } ∧
        mode ≤ pmSelectSleepMode pm ∧
          ∀ i, status i = pm.moduleStatus i ∨ status i = expire tick (pm.moduleStatus i) := by
  obtain ⟨status, heq, hst⟩ :=
    pmDeviceCheckIdle_frame { pm with sleepMode := pmSelectSleepMode pm } tick
  unfold judgeMode
  simp only [heq]
  split_ifs with h
  · exact ⟨pmBusySleepMode, status, rfl, Nat.le_of_lt h.2, hst⟩
  · exact ⟨pmSelectSleepMode pm, status, rfl, le_rfl, hst⟩

lemma judgeMode_le_busy {pm : RtPm} {tick : BitVec 32} {i : ℕ} (hinit : pm.initFlag = true)
    (hi : i < pmModuleMaxId) (hopen : WindowOpen tick (pm.moduleStatus i)) :
    (judgeMode pm tick).sleepMode ≤ pmBusySleepMode := by
  have hidle : (pmDeviceCheckIdle { pm with sleepMode := pmSelectSleepMode pm } tick).2 = false :=
    pmDeviceCheckIdle_of_open hinit hi hopen
  unfold judgeMode
  simp only [hidle, true_and]
  split_ifs with h
  · exact le_rfl
  · exact Nat.not_lt.1 h

lemma judgeMode_of_closed {pm : RtPm} {tick : BitVec 32}
    (hclosed : ∀ i < pmModuleMaxId, ¬WindowOpen tick (pm.moduleStatus i)) :
    (judgeMode pm tick).sleepMode = pmSelectSleepMode pm := by
  have hidle : (pmDeviceCheckIdle { pm with sleepMode := pmSelectSleepMode pm } tick).2 = true := by
    unfold pmDeviceCheckIdle
    split_ifs
    · rfl
    · exact checkIdleFrom_of_closed fun i hi => hclosed i (List.mem_range.1 hi)
  obtain ⟨status, heq, -⟩ :=
    pmDeviceCheckIdle_frame { pm with sleepMode := pmSelectSleepMode pm } tick
  unfold judgeMode
  simp [hidle, heq]

/-! ### The mode handed to the hardware -/

/-- **The threshold adjustment never deepens the mode.** -/
theorem pmGetSleepThresholdMode_le (pm : RtPm) (curMode : ℕ) (timeoutTick : BitVec 32) :
    pmGetSleepThresholdMode pm curMode timeoutTick ≤ curMode := by
  unfold pmGetSleepThresholdMode
  split_ifs <;> subst_vars <;> first | exact le_rfl | decide

/-- The modes handed to `ops->sleep` in a trace. -/
def sleepModes (evs : List PmEvent) : List ℕ :=
  evs.filterMap fun
    | .sleep mode => some mode
    | _ => none

@[simp] lemma sleepModes_sleep (mode : ℕ) (evs : List PmEvent) :
    sleepModes (.sleep mode :: evs) = mode :: sleepModes evs :=
  rfl

@[simp] lemma sleepModes_notifyEnter (mode : ℕ) (evs : List PmEvent) :
    sleepModes (.notifyEnter mode :: evs) = sleepModes evs :=
  rfl

@[simp] lemma sleepModes_append (as bs : List PmEvent) :
    sleepModes (as ++ bs) = sleepModes as ++ sleepModes bs :=
  List.filterMap_append

lemma filterMap_pmDeviceSuspend {β : Type*} {f : PmEvent → Option β}
    (hf : ∀ device mode, f (.suspend device mode) = none) (env : PmEnv) (mode : ℕ)
    (ds : List RtDevicePm) : (pmDeviceSuspend env mode ds).filterMap f = [] := by
  induction ds with
  | nil => rfl
  | cons d ds ih =>
    simp only [pmDeviceSuspend]
    split_ifs
    · rw [List.filterMap_cons_none (hf _ _)]
      exact ih
    · rw [List.filterMap_cons_none (hf _ _)]
      rfl
    · exact ih

lemma filterMap_pmDeviceResume {β : Type*} {f : PmEvent → Option β}
    (hf : ∀ device mode, f (.resume device mode) = none) (mode : ℕ) (ds : List RtDevicePm) :
    (pmDeviceResume mode ds).filterMap f = [] := by
  simp [pmDeviceResume, List.filterMap_map, hf]

@[simp] lemma sleepModes_pmDeviceSuspend (env : PmEnv) (mode : ℕ) (ds : List RtDevicePm) :
    sleepModes (pmDeviceSuspend env mode ds) = [] :=
  filterMap_pmDeviceSuspend (fun _ _ => rfl) env mode ds

@[simp] lemma sleepModes_pmDeviceResume (mode : ℕ) (ds : List RtDevicePm) :
    sleepModes (pmDeviceResume mode ds) = [] :=
  filterMap_pmDeviceResume (fun _ _ => rfl) mode ds

@[simp] lemma sleepModes_wakeUp (pm : RtPm) (env : PmEnv) : sleepModes (wakeUp pm env) = [] := by
  unfold wakeUp
  split_ifs <;> rfl

lemma tickless_spec (pm : RtPm) (tick : BitVec 32) (env : PmEnv) :
    ∃ mode, (tickless pm tick env).1 = { pm with sleepMode := mode } ∧ mode ≤ pm.sleepMode ∧
      sleepModes (tickless pm tick env).2 = [] := by
  unfold tickless
  split_ifs with h
  · refine ⟨_, rfl, pmGetSleepThresholdMode_le .., ?_⟩
    simp only
    split_ifs <;> rfl
  · exact ⟨pm.sleepMode, rfl, le_rfl, rfl⟩

/-- **The entry hands one mode to the hardware**, no deeper than the mode it judged, and leaves
the counters, the request table and the open windows alone. -/
theorem pmChangeSleepMode_spec (pm : RtPm) (tick : BitVec 32) (env : PmEnv) :
    ∃ (mode : ℕ) (status : ℕ → RtPmModule),
      (pmChangeSleepMode pm tick env).1 = { pm with sleepMode := mode, moduleStatus := status } ∧
        sleepModes (pmChangeSleepMode pm tick env).2 = [mode] ∧
          mode ≤ (judgeMode pm tick).sleepMode ∧
            ∀ i, status i = pm.moduleStatus i ∨ status i = expire tick (pm.moduleStatus i) := by
  obtain ⟨mode, status, hj, -, hst⟩ := judgeMode_frame pm tick
  unfold pmChangeSleepMode
  simp only
  split_ifs with hnone
  · refine ⟨mode, status, hj, ?_, by rw [hj], hst⟩
    rw [hj] at hnone
    simp only at hnone
    rw [hnone]
    rfl
  · obtain ⟨mode', ht, hle, hsl⟩ := tickless_spec (judgeMode pm tick) tick env
    refine ⟨mode', status, by rw [ht, hj], ?_, hle, hst⟩
    simp only [ht, sleepModes_append, sleepModes_notifyEnter, sleepModes_pmDeviceSuspend, hsl,
      sleepModes_sleep, sleepModes_wakeUp, sleepModes_pmDeviceResume, List.nil_append]
    rfl

end N32L43x.Pm
