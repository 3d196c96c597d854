import N32L43x.Pm.Select

/-!
The devices around a sleep.  `_pm_device_suspend` stops at the first device that refuses, and what it
returns is not looked at; `_pm_device_resume` is for all devices.  The threshold adjustment lies
between the two, so they can be about different modes.
-/

namespace N32L43x.Pm

/-- The calls of the notify hook in a trace: leaving the mode or entering it. -/
def notifications (evs : List PmEvent) : List (Bool × ℕ) :=
  evs.filterMap fun
    | .notifyEnter mode => some (false, mode)
    | .notifyExit mode => some (true, mode)
    | _ => none

/-- The devices whose `suspend` is called in a trace, with the mode. -/
def suspends (evs : List PmEvent) : List (ℕ × ℕ) :=
  evs.filterMap fun
    | .suspend device mode => some (device, mode)
    | _ => none

def resumes (evs : List PmEvent) : List (ℕ × ℕ) :=
  evs.filterMap fun
    | .resume device mode => some (device, mode)
    | _ => none

/-- A device is resumed once with the mode it was suspended with, and only if it was; and the hook is
told the same mode twice. -/
def Paired (pm : RtPm) (env : PmEnv) (evs : List PmEvent) : Prop :=
  (∀ d ∈ pm.deviceList, ∀ mode, evs.count (.resume d.device mode) =
    if .suspend d.device mode ∈ evs ∧ env.suspend d.device = .eok then 1 else 0) ∧
  ∀ mode mode', .notifyEnter mode ∈ evs → .notifyExit mode' ∈ evs → mode = mode'

/-- The mode that the devices are suspended for. -/
def modeJudged (pm : RtPm) (tick : BitVec 32) : ℕ := (judgeMode pm tick).sleepMode

/-- The mode after the threshold adjustment. -/
def modeSlept (pm : RtPm) (tick : BitVec 32) (env : PmEnv) : ℕ :=
  (pmChangeSleepMode pm tick env).1.sleepMode

/-! ### The two loops -/

section Loops

variable (env : PmEnv) (mode : ℕ) (ds : List RtDevicePm)

/-- The devices with a `suspend`, up to the first that refuses. -/
lemma suspends_pmDeviceSuspend : ∃ tried rest, ds.filter RtDevicePm.suspend = tried ++ rest ∧
    suspends (pmDeviceSuspend env mode ds) = tried.map (fun d => (d.device, mode)) ∧
    (∀ d ∈ tried.dropLast, env.suspend d.device = .eok) ∧
    (rest ≠ [] → ∃ d ∈ tried.getLast?, env.suspend d.device ≠ .eok) := by
  induction ds with
  | nil => exact ⟨[], [], rfl, rfl, fun _ hd => absurd hd List.not_mem_nil, fun h => absurd rfl h⟩
  | cons d ds ih =>
    obtain ⟨tried, rest, hsplit, htried, hok, hrefused⟩ := ih
    by_cases hd : d.suspend = true
    · rw [List.filter_cons_of_pos hd]
      simp only [pmDeviceSuspend]
      rw [if_pos hd]
      by_cases hres : env.suspend d.device = .eok
      · -- the device agrees, the loop goes on
        rw [if_pos hres]
        refine ⟨d :: tried, rest, by rw [hsplit, List.cons_append], ?_, ?_, fun hne => ?_⟩
        · exact congrArg ((d.device, mode) :: ·) htried
        · intro d' hd'
          cases tried with
          | nil => cases hd'
          | cons a tried =>
            rw [List.dropLast_cons_of_ne_nil (List.cons_ne_nil a tried)] at hd'
            rcases List.mem_cons.mp hd' with rfl | hd''
            · exact hres
            · exact hok d' hd''
        · obtain ⟨d', hlast, hd'⟩ := hrefused hne
          refine ⟨d', ?_, hd'⟩
          cases tried with
          | nil => cases hlast
          | cons a tried =>
            rw [List.getLast?_cons_cons]
            exact hlast
      · -- it refuses
        rw [if_neg hres]
        exact ⟨[d], ds.filter RtDevicePm.suspend, rfl, rfl, fun _ hd' => absurd hd' List.not_mem_nil,
          fun _ => ⟨d, rfl, hres⟩⟩
    · rw [List.filter_cons_of_neg hd]
      simp only [pmDeviceSuspend]
      rw [if_neg hd]
      exact ⟨tried, rest, hsplit, htried, hok, hrefused⟩

lemma resumes_pmDeviceResume : resumes (pmDeviceResume mode ds) =
    (ds.filter RtDevicePm.resume).map fun d => (d.device, mode) := by
  unfold resumes pmDeviceResume
  rw [List.filterMap_map]
  exact congrFun List.filterMap_eq_map _

end Loops

/-! ### The episode -/

/-- An episode goes to sleep once: before that are the entry notification and the `suspend` calls, after
it the `resume` calls and the exit notification. -/
lemma episode_split (pm : RtPm) (tick : BitVec 32) (env : PmEnv)
    (hmode : modeJudged pm tick ≠ pmSleepModeNone) :
    ∃ start wake, (∀ e ∈ start, ∃ timeout, e = .timerStart timeout) ∧
      (∀ e ∈ wake, e = .timerStop ∨ ∃ ticks, e = .tickIncrease ticks) ∧
      (pmChangeSleepMode pm tick env).2 =
        (.notifyEnter (modeJudged pm tick) ::
          pmDeviceSuspend env (modeJudged pm tick) pm.deviceList ++ start) ++
        .sleep (modeSlept pm tick env) :: (wake ++
          (pmDeviceResume (modeSlept pm tick env) pm.deviceList ++
            [.notifyExit (modeSlept pm tick env)])) := by
  obtain ⟨mode, status, hj, -, -⟩ := judgeMode_frame pm tick
  have hdevices : (judgeMode pm tick).deviceList = pm.deviceList := by rw [hj]
  obtain ⟨mode', ht, -, -⟩ := tickless_spec (judgeMode pm tick) tick env
  have hdevices' : (tickless (judgeMode pm tick) tick env).1.deviceList = pm.deviceList := by
    rw [ht]
    exact hdevices
  have hne : (judgeMode pm tick).sleepMode ≠ pmSleepModeNone := hmode
  have hslept : modeSlept pm tick env = (tickless (judgeMode pm tick) tick env).1.sleepMode := by
    unfold modeSlept pmChangeSleepMode
    simp only [if_neg hne]
  refine ⟨(tickless (judgeMode pm tick) tick env).2,
    wakeUp (tickless (judgeMode pm tick) tick env).1 env, fun e he => ?_, fun e he => ?_, ?_⟩
  · unfold tickless at he
    split_ifs at he
    · simp only at he
      split_ifs at he
      · exact ⟨_, List.mem_singleton.mp he⟩
      · cases he
    · cases he
  · unfold wakeUp at he
    split_ifs at he
    · rcases List.mem_cons.mp he with rfl | he'
      · exact .inl rfl
      · exact .inr ⟨_, List.mem_singleton.mp he'⟩
    · exact .inl (List.mem_singleton.mp he)
    · cases he
  · rw [hslept]
    unfold modeJudged pmChangeSleepMode
    simp only [if_neg hne, hdevices, hdevices']
    rw [List.append_assoc]
    rfl

/-- Without a timer for the mode it is the one slept in, and it never gets deeper. -/
lemma modeSlept_le (pm : RtPm) (tick : BitVec 32) (env : PmEnv) :
    modeSlept pm tick env ≤ modeJudged pm tick ∧
      (modeSlept pm tick env ≠ modeJudged pm tick →
        hasTimer (judgeMode pm tick) (modeJudged pm tick) = true) := by
  unfold modeSlept modeJudged pmChangeSleepMode
  simp only
  split_ifs with hnone
  · exact ⟨le_rfl, fun hne => absurd rfl hne⟩
  · obtain ⟨mode, ht, hle, -⟩ := tickless_spec (judgeMode pm tick) tick env
    refine ⟨by rw [ht]; exact hle, fun hne => ?_⟩
    by_contra htimer
    unfold tickless at hne
    rw [if_neg htimer] at hne
    exact hne rfl

/-- **The devices around a sleep.**  Unless the mode is none, the entry notification and the `suspend`
calls carry the mode judged; the devices are suspended in turn up to the first that refuses; then
the hardware sleeps, in this mode or, by the threshold adjustment, in a shallower one; and every
device that can be resumed is resumed once in the mode slept in, which the exit notification
carries too. -/
theorem episode_modes (pm : RtPm) (tick : BitVec 32) (env : PmEnv) :
    (modeJudged pm tick = pmSleepModeNone →
      (pmChangeSleepMode pm tick env).2 = [.sleep pmSleepModeNone]) ∧
    (modeJudged pm tick ≠ pmSleepModeNone →
      notifications (pmChangeSleepMode pm tick env).2 =
        [(false, modeJudged pm tick), (true, modeSlept pm tick env)] ∧
      (∃ tried rest, pm.deviceList.filter RtDevicePm.suspend = tried ++ rest ∧
        suspends (pmChangeSleepMode pm tick env).2 =
          tried.map (fun d => (d.device, modeJudged pm tick)) ∧
        (∀ d ∈ tried.dropLast, env.suspend d.device = .eok) ∧
        (rest ≠ [] → ∃ d ∈ tried.getLast?, env.suspend d.device ≠ .eok)) ∧
      resumes (pmChangeSleepMode pm tick env).2 =
        (pm.deviceList.filter RtDevicePm.resume).map (fun d => (d.device, modeSlept pm tick env)) ∧
      (∃ before after, (pmChangeSleepMode pm tick env).2 =
          before ++ .sleep (modeSlept pm tick env) :: after ∧
        resumes before = [] ∧ suspends after = []) ∧
      modeSlept pm tick env ≤ modeJudged pm tick ∧
      (modeSlept pm tick env ≠ modeJudged pm tick →
        hasTimer (judgeMode pm tick) (modeJudged pm tick) = true)) := by
  refine ⟨fun hnone => ?_, fun hmode => ?_⟩
  · unfold modeJudged at hnone
    unfold pmChangeSleepMode
    simp only [if_pos hnone]
  obtain ⟨start, wake, hstart, hwake, hevs⟩ := episode_split pm tick env hmode
  -- what a filter that only looks at other calls makes of the parts
  have hstart' : ∀ {β : Type} (f : PmEvent → Option β), (∀ timeout, f (.timerStart timeout) = none) →
      start.filterMap f = [] := by
    intro β f hf
    refine List.filterMap_eq_nil_iff.mpr fun e he => ?_
    obtain ⟨timeout, rfl⟩ := hstart e he
    exact hf timeout
  have hwake' : ∀ {β : Type} (f : PmEvent → Option β), f .timerStop = none →
      (∀ ticks, f (.tickIncrease ticks) = none) → wake.filterMap f = [] := by
    intro β f hstop hticks
    refine List.filterMap_eq_nil_iff.mpr fun e he => ?_
    rcases hwake e he with rfl | ⟨ticks, rfl⟩
    · exact hstop
    · exact hticks ticks
  obtain ⟨tried, rest, hsplit, htried, hok, hrefused⟩ :=
    suspends_pmDeviceSuspend env (modeJudged pm tick) pm.deviceList
  have hresumes := resumes_pmDeviceResume (modeSlept pm tick env) pm.deviceList
  have hsus : ∀ mode, resumes (pmDeviceSuspend env mode pm.deviceList) = [] := fun mode =>
    filterMap_pmDeviceSuspend (fun _ _ => rfl) env mode _
  have hsus' : ∀ mode, notifications (pmDeviceSuspend env mode pm.deviceList) = [] := fun mode =>
    filterMap_pmDeviceSuspend (fun _ _ => rfl) env mode _
  have hres : ∀ mode, suspends (pmDeviceResume mode pm.deviceList) = [] := fun mode =>
    filterMap_pmDeviceResume (fun _ _ => rfl) mode _
  have hres' : ∀ mode, notifications (pmDeviceResume mode pm.deviceList) = [] := fun mode =>
    filterMap_pmDeviceResume (fun _ _ => rfl) mode _
  unfold resumes at hresumes hsus
  unfold notifications at hsus' hres'
  unfold suspends at htried hres
  have hbefore : resumes (.notifyEnter (modeJudged pm tick) ::
      pmDeviceSuspend env (modeJudged pm tick) pm.deviceList ++ start) = [] := by
    unfold resumes
    rw [List.cons_append, List.filterMap_cons_none rfl, List.filterMap_append, hsus,
      hstart' _ fun _ => rfl, List.append_nil]
  have hafter : suspends (wake ++ (pmDeviceResume (modeSlept pm tick env) pm.deviceList ++
      [.notifyExit (modeSlept pm tick env)])) = [] := by
    unfold suspends
    rw [List.filterMap_append, List.filterMap_append, hres, hwake' _ rfl fun _ => rfl]
    rfl
  refine ⟨?_, ⟨tried, rest, hsplit, ?_, hok, hrefused⟩, ?_, ⟨_, _, hevs, hbefore, hafter⟩,
    modeSlept_le pm tick env⟩
  · rw [hevs]
    have henter : notifications (pmDeviceSuspend env (modeJudged pm tick) pm.deviceList ++ start) =
        [] := by
      unfold notifications
      rw [List.filterMap_append, hsus', hstart' _ fun _ => rfl]
      rfl
    have hexit : notifications (wake ++ (pmDeviceResume (modeSlept pm tick env) pm.deviceList ++
        [.notifyExit (modeSlept pm tick env)])) = [(true, modeSlept pm tick env)] := by
      unfold notifications
      rw [List.filterMap_append, List.filterMap_append, hres', hwake' _ rfl fun _ => rfl]
      rfl
    have hsplit : ∀ as bs mode mode', notifications (.notifyEnter mode :: as ++ .sleep mode' :: bs) =
        (false, mode) :: (notifications as ++ notifications bs) := fun as bs _ _ =>
      congrArg ((false, _) :: ·) List.filterMap_append
    rw [List.cons_append, hsplit, henter, hexit]
    rfl
  · rw [hevs]
    unfold suspends at hafter ⊢
    rw [List.filterMap_append, List.filterMap_cons_none rfl, hafter, List.append_nil,
      List.cons_append, List.filterMap_cons_none rfl, List.filterMap_append, htried,
      hstart' _ fun _ => rfl, List.append_nil]
  · rw [hevs]
    unfold resumes at hbefore ⊢
    rw [List.filterMap_append, hbefore, List.nil_append, List.filterMap_cons_none rfl,
      List.filterMap_append, List.filterMap_append, hresumes, hwake' _ rfl fun _ => rfl,
      List.nil_append]
    exact List.append_nil _

/-- The power manager in the deep mode, with two devices. -/
def twoDevices : RtPm where
  modes := fun _ => 0
  sleepMode := pmSleepModeDeep
  moduleStatus := fun _ => ⟨0, false, 0, 0⟩
  sleepStatus := fun _ _ => 0
  deviceList := [⟨0, true, true⟩, ⟨1, true, true⟩]
  timerMask := 1 <<< pmSleepModeDeep
  initFlag := true

/-- The next low-power timer runs out in 10 ticks, and the first device refuses to be suspended. -/
def refusingEnv : PmEnv where
  timerNext := rtTickMax
  lptimerNext := 10
  suspend := fun device => if device = 0 then .ebusy else .eok
  timerGetTick := 0

theorem episode_modes_twoDevices : modeJudged twoDevices 0 = pmSleepModeDeep ∧
    modeSlept twoDevices 0 refusingEnv = pmSleepModeLight ∧
    resumes (pmChangeSleepMode twoDevices 0 refusingEnv).2 =
      [(0, pmSleepModeLight), (1, pmSleepModeLight)] := by
  have hjudged : modeJudged twoDevices 0 = pmSleepModeDeep := by decide
  have hslept : modeSlept twoDevices 0 refusingEnv = pmSleepModeLight := by decide
  have h := (episode_modes twoDevices 0 refusingEnv).2 (by rw [hjudged]; decide)
  refine ⟨hjudged, hslept, ?_⟩
  rw [h.2.2.1, hslept]
  rfl

/-- Both devices are resumed: the one that refused and the one that was not asked; and the hook is told
of the deep mode on entry and of the light one on exit. -/
theorem episode_unpaired :
    (pmChangeSleepMode twoDevices 0 refusingEnv).2 =
      [.notifyEnter pmSleepModeDeep, .suspend 0 pmSleepModeDeep, .sleep pmSleepModeLight,
        .resume 0 pmSleepModeLight, .resume 1 pmSleepModeLight, .notifyExit pmSleepModeLight] ∧
    ¬ Paired twoDevices refusingEnv (pmChangeSleepMode twoDevices 0 refusingEnv).2 := by
  have hevs : (pmChangeSleepMode twoDevices 0 refusingEnv).2 =
      [.notifyEnter pmSleepModeDeep, .suspend 0 pmSleepModeDeep, .sleep pmSleepModeLight,
        .resume 0 pmSleepModeLight, .resume 1 pmSleepModeLight, .notifyExit pmSleepModeLight] := by
    decide
  refine ⟨hevs, fun h => ?_⟩
  rw [hevs] at h
  have hmode := h.2 pmSleepModeDeep pmSleepModeLight (by decide) (by decide)
  exact absurd hmode (by decide)

end N32L43x.Pm
