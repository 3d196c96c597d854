import N32L43x.Pm.Defs

/-!
The range checks of the calls of the power manager: which modes and modules they turn away, and which
entries of its tables they use.  `rt_pm_module_release_all` checks the mode only, and `rt_pm_run_enter`
lets the number of run modes through.
-/

namespace N32L43x.Pm

/-- `PM_RUN_MODE_MAX`. -/
abbrev pmRunModeMax : ℕ := 4

/-- `RT_PM_FREQUENCY_PENDING`. -/
def rtPmFrequencyPending : BitVec 8 := 1

/-- The power manager with its run mode, and which operations there are for changing it. -/
structure RtPmRun where
  pm : RtPm
  runMode : ℕ
  flags : BitVec 8
  /-- `pm->ops->run` -/
  run : Bool
  /-- the devices with a `frequency_change` -/
  frequencyChange : ℕ → Bool

/-- The calls of the operations. -/
inductive RunEvent where
  | run (mode : ℕ)
  | frequencyChange (device mode : ℕ)
deriving DecidableEq

/-! ### The calls -/

/-- `rt_pm_release_all`. -/
def rtPmReleaseAll (pm : RtPm) (mode : ℕ) : RtPm × RtErr :=
  if pm.initFlag = false then (pm, .eperm)
  else if mode > pmSleepModeMax - 1 then (pm, .einval)
  else ({ pm with modes := Function.update pm.modes mode 0 }, .eok)

/-- `rt_pm_module_release_all`. -/
def rtPmModuleReleaseAll (pm : RtPm) (moduleId mode : ℕ) : RtPm × RtErr :=
  if pm.initFlag = false then (pm, .eperm)
  else if mode > pmSleepModeMax - 1 then (pm, .einval)
  else (setReqStatus { pm with modes := Function.update pm.modes mode 0 } moduleId 0, .eok)

/-- `_pm_device_frequency_change`. -/
def pmDeviceFrequencyChange (s : RtPmRun) (mode : ℕ) : List RunEvent :=
  (s.pm.deviceList.filter fun d => s.frequencyChange d.device).map fun d => .frequencyChange d.device mode

/-- `rt_pm_run_enter`, with the operations it calls. -/
def rtPmRunEnter (s : RtPmRun) (mode : ℕ) : RtPmRun × RtErr × List RunEvent :=
  if s.pm.initFlag = false then (s, .eio, [])
  else if mode > pmRunModeMax then (s, .einval, [])
  else if mode < s.runMode then
    ({ s with runMode := mode }, .eok,
      (if s.run then [.run mode] else []) ++ pmDeviceFrequencyChange s mode)
  else ({ s with runMode := mode, flags := s.flags ||| rtPmFrequencyPending }, .eok, [])

/-- A call, with arguments of the types that it takes. -/
inductive PmCall where
  | request (mode : BitVec 8)
  | release (mode : BitVec 8)
  | releaseAll (mode : BitVec 8)
  | moduleRequest (moduleId mode : BitVec 8)
  | moduleRelease (moduleId mode : BitVec 8)
  | moduleReleaseAll (moduleId mode : BitVec 8)
  | sleepRequest (moduleId : BitVec 16) (mode : BitVec 8)
  | sleepRelease (moduleId : BitVec 16) (mode : BitVec 8)
  | runEnter (mode : BitVec 8)

/-- A call that is about the requests. -/
def RtPmRun.apply (s : RtPmRun) (r : RtPm × RtErr) : RtPmRun × RtErr := ({ s with pm := r.1 }, r.2)

/-- What a call leaves and returns. -/
def PmCall.run (s : RtPmRun) : PmCall → RtPmRun × RtErr
  | .request mode => s.apply (rtPmRequest s.pm mode.toNat)
  | .release mode => s.apply (rtPmRelease s.pm mode.toNat)
  | .releaseAll mode => s.apply (rtPmReleaseAll s.pm mode.toNat)
  | .moduleRequest moduleId mode => s.apply (rtPmModuleRequest s.pm moduleId.toNat mode.toNat)
  | .moduleRelease moduleId mode => s.apply (rtPmModuleRelease s.pm moduleId.toNat mode.toNat)
  | .moduleReleaseAll moduleId mode => s.apply (rtPmModuleReleaseAll s.pm moduleId.toNat mode.toNat)
  | .sleepRequest moduleId mode => s.apply (rtPmSleepRequest s.pm moduleId.toNat mode.toNat)
  | .sleepRelease moduleId mode => s.apply (rtPmSleepRelease s.pm moduleId.toNat mode.toNat)
  | .runEnter mode => ((rtPmRunEnter s mode.toNat).1, (rtPmRunEnter s mode.toNat).2.1)

/-! ### The tables -/

/-- An entry of one of the tables of `struct rt_pm`. -/
inductive Entry where
  | modes (mode : ℕ)
  | moduleStatus (moduleId : ℕ)
  | sleepStatus (mode word : ℕ)
deriving DecidableEq

/-- The table has the entry. -/
def Entry.InTable : Entry → Prop
  | .modes mode => mode < pmSleepModeMax
  | .moduleStatus moduleId => moduleId < pmModuleMaxId
  | .sleepStatus mode word => mode < pmSleepModeMax - 1 ∧ word < (pmModuleMaxId + 31) / 32

/-- The entries that a call uses when no check of its turns it away. -/
def PmCall.uses (pm : RtPm) : PmCall → List Entry
  | .request mode | .release mode | .releaseAll mode => [.modes mode.toNat]
  | .moduleRequest moduleId mode => [.moduleStatus moduleId.toNat, .modes mode.toNat]
  | .moduleRelease moduleId mode =>
    .modes mode.toNat :: if pm.modes mode.toNat - 1 = 0 then [.moduleStatus moduleId.toNat] else []
  | .moduleReleaseAll moduleId mode => [.modes mode.toNat, .moduleStatus moduleId.toNat]
  | .sleepRequest moduleId mode | .sleepRelease moduleId mode =>
    [.sleepStatus mode.toNat (moduleId.toNat / 32)]
  | .runEnter _ => []

/-- The entries that a call uses. -/
def PmCall.entries (s : RtPmRun) (c : PmCall) : List Entry :=
  if (c.run s).2 = .eok then c.uses s.pm else []

/-! ### The law -/

/-- The arguments of a call are a mode and a module that are declared. -/
def PmCall.InRange : PmCall → Prop
  | .request mode | .release mode | .releaseAll mode => mode.toNat < pmSleepModeMax
  | .moduleRequest moduleId mode | .moduleRelease moduleId mode | .moduleReleaseAll moduleId mode =>
    moduleId.toNat < pmModuleMaxId ∧ mode.toNat < pmSleepModeMax
  | .sleepRequest moduleId mode | .sleepRelease moduleId mode =>
    moduleId.toNat < pmModuleMaxId ∧ mode.toNat < pmSleepModeMax
  | .runEnter mode => mode.toNat < pmRunModeMax

/-- A call with an argument that is not declared is turned away, and every call stays in the tables. -/
structure Validated (s : RtPmRun) (c : PmCall) : Prop where
  rejected : ¬ c.InRange → (c.run s).2 ≠ .eok ∧ (c.run s).1 = s
  inTable : ∀ e ∈ c.entries s, e.InTable

/-- The calls whose checks let an argument through that is not declared: all requests of a module that
does not exist are released, or the mode behind the last run mode is entered. -/
def Slips (s : RtPmRun) : PmCall → Prop
  | .moduleReleaseAll moduleId mode =>
    s.pm.initFlag = true ∧ mode.toNat < pmSleepModeMax ∧ pmModuleMaxId ≤ moduleId.toNat
  | .runEnter mode => s.pm.initFlag = true ∧ mode.toNat = pmRunModeMax
  | _ => False

/-! ### What the calls do -/

section Requests

variable {pm : RtPm} {moduleId mode : ℕ}

lemma mode_of_passed (h : ¬ mode > pmSleepModeMax - 1) : mode < pmSleepModeMax :=
  Nat.lt_succ_of_le (Nat.not_lt.1 h)

lemma module_of_passed (h : ¬ moduleId > pmModuleMaxId - 1) : moduleId < pmModuleMaxId :=
  Nat.lt_succ_of_le (Nat.not_lt.1 h)

/-- A call about the requests of a mode turns away the modes there are not. -/
structure ChecksMode (pm : RtPm) (mode : ℕ) (r : RtPm × RtErr) : Prop where
  rejected : ¬ mode < pmSleepModeMax → r.2 ≠ .eok ∧ r.1 = pm
  passed : r.2 = .eok → mode < pmSleepModeMax

/-- The shape of the checks of the mode. -/
lemma checksMode_of {r : RtPm × RtErr} (h : r = (pm, .eperm) ∨ r = (pm, .einval) ∨ mode < pmSleepModeMax) :
    ChecksMode pm mode r := by
  rcases h with rfl | rfl | h
  · exact ⟨fun _ => ⟨RtErr.noConfusion, rfl⟩, fun h => by cases h⟩
  · exact ⟨fun _ => ⟨RtErr.noConfusion, rfl⟩, fun h => by cases h⟩
  · exact ⟨fun hout => absurd h hout, fun _ => h⟩

lemma checksMode_rtPmRequest : ChecksMode pm mode (rtPmRequest pm mode) := by
  apply checksMode_of
  unfold rtPmRequest
  split
  · exact Or.inl rfl
  split
  · exact Or.inr (Or.inl rfl)
  · next hmode => exact Or.inr (Or.inr (mode_of_passed hmode))

lemma checksMode_rtPmRelease : ChecksMode pm mode (rtPmRelease pm mode) := by
  apply checksMode_of
  unfold rtPmRelease
  split
  · exact Or.inl rfl
  split
  · exact Or.inr (Or.inl rfl)
  · next hmode => exact Or.inr (Or.inr (mode_of_passed hmode))

lemma checksMode_rtPmReleaseAll : ChecksMode pm mode (rtPmReleaseAll pm mode) := by
  apply checksMode_of
  unfold rtPmReleaseAll
  split
  · exact Or.inl rfl
  split
  · exact Or.inr (Or.inl rfl)
  · next hmode => exact Or.inr (Or.inr (mode_of_passed hmode))

/-- A call about the requests of a module turns away the modes and the modules there are not. -/
structure ChecksModule (pm : RtPm) (moduleId mode : ℕ) (r : RtPm × RtErr) : Prop where
  rejected : ¬(moduleId < pmModuleMaxId ∧ mode < pmSleepModeMax) → r.2 ≠ .eok ∧ r.1 = pm
  passed : r.2 = .eok → moduleId < pmModuleMaxId ∧ mode < pmSleepModeMax

lemma checksModule_of {r : RtPm × RtErr} (h : r = (pm, .eperm) ∨ r = (pm, .einval) ∨
    moduleId < pmModuleMaxId ∧ mode < pmSleepModeMax) : ChecksModule pm moduleId mode r := by
  rcases h with rfl | rfl | h
  · exact ⟨fun _ => ⟨RtErr.noConfusion, rfl⟩, fun h => by cases h⟩
  · exact ⟨fun _ => ⟨RtErr.noConfusion, rfl⟩, fun h => by cases h⟩
  · exact ⟨fun hout => absurd h hout, fun _ => h⟩

lemma checksModule_rtPmModuleRequest :
    ChecksModule pm moduleId mode (rtPmModuleRequest pm moduleId mode) := by
  apply checksModule_of
  unfold rtPmModuleRequest
  split
  · exact Or.inl rfl
  split
  · exact Or.inr (Or.inl rfl)
  next hmode =>
  split
  · exact Or.inr (Or.inl rfl)
  · next hmodule => exact Or.inr (Or.inr ⟨module_of_passed hmodule, mode_of_passed hmode⟩)

lemma checksModule_rtPmModuleRelease :
    ChecksModule pm moduleId mode (rtPmModuleRelease pm moduleId mode) := by
  apply checksModule_of
  unfold rtPmModuleRelease
  split
  · exact Or.inl rfl
  split
  · exact Or.inr (Or.inl rfl)
  next hmode =>
  split
  · exact Or.inr (Or.inl rfl)
  · next hmodule => exact Or.inr (Or.inr ⟨module_of_passed hmodule, mode_of_passed hmode⟩)

/-- `rt_pm_module_release_all` checks the mode only. -/
lemma checksModule_rtPmModuleReleaseAll
    (h : ¬(pm.initFlag = true ∧ mode < pmSleepModeMax ∧ pmModuleMaxId ≤ moduleId)) :
    ChecksModule pm moduleId mode (rtPmModuleReleaseAll pm moduleId mode) := by
  apply checksModule_of
  unfold rtPmModuleReleaseAll
  split
  · exact Or.inl rfl
  next hinit =>
  split
  · exact Or.inr (Or.inl rfl)
  · next hmode =>
    have hmode := mode_of_passed hmode
    rw [Bool.not_eq_false] at hinit
    exact Or.inr (Or.inr ⟨Nat.not_le.1 fun hmodule => h ⟨hinit, hmode, hmodule⟩, hmode⟩)

lemma rtPmModuleReleaseAll_eok (hinit : pm.initFlag = true) (hmode : mode < pmSleepModeMax) :
    (rtPmModuleReleaseAll pm moduleId mode).2 = .eok := by
  have hpass : ¬ mode > pmSleepModeMax - 1 := Nat.not_lt.2 (Nat.le_of_lt_succ hmode)
  rw [rtPmModuleReleaseAll, if_neg (by simp [hinit]), if_neg hpass]

/-- The sleep requests have no row for the deepest mode. -/
structure ChecksRow (pm : RtPm) (moduleId mode : ℕ) (r : RtPm × RtErr) : Prop where
  rejected : ¬(moduleId < pmModuleMaxId ∧ mode < pmSleepModeMax - 1) → r.2 ≠ .eok ∧ r.1 = pm
  passed : r.2 = .eok → moduleId < pmModuleMaxId ∧ mode < pmSleepModeMax - 1

lemma checksRow_of {r : RtPm × RtErr} (h : r = (pm, .einval) ∨
    moduleId < pmModuleMaxId ∧ mode < pmSleepModeMax - 1) : ChecksRow pm moduleId mode r := by
  rcases h with rfl | h
  · exact ⟨fun _ => ⟨RtErr.noConfusion, rfl⟩, fun h => by cases h⟩
  · exact ⟨fun hout => absurd h hout, fun _ => h⟩

lemma checksRow_rtPmSleepRequest : ChecksRow pm moduleId mode (rtPmSleepRequest pm moduleId mode) := by
  apply checksRow_of
  unfold rtPmSleepRequest
  split
  · exact Or.inl rfl
  next hmodule =>
  split
  · exact Or.inl rfl
  · next hmode => exact Or.inr ⟨Nat.not_le.1 hmodule, Nat.not_le.1 hmode⟩

lemma checksRow_rtPmSleepRelease : ChecksRow pm moduleId mode (rtPmSleepRelease pm moduleId mode) := by
  apply checksRow_of
  unfold rtPmSleepRelease
  split
  · exact Or.inl rfl
  next hmodule =>
  split
  · exact Or.inl rfl
  · next hmode => exact Or.inr ⟨Nat.not_le.1 hmodule, Nat.not_le.1 hmode⟩

end Requests

/-! ### The law, call by call -/

section Calls

variable {s : RtPmRun} {c : PmCall}

lemma mem_entries {e : Entry} (he : e ∈ c.entries s) : (c.run s).2 = .eok ∧ e ∈ c.uses s.pm := by
  unfold PmCall.entries at he
  split at he
  · next hok => exact ⟨hok, he⟩
  · cases he

lemma validated_mode {mode : ℕ} (hcheck : ChecksMode s.pm mode (c.run s |>.1.pm, (c.run s).2))
    (hrange : mode < pmSleepModeMax → c.InRange) (hrun : (c.run s).1 = { s with pm := (c.run s).1.pm })
    (huses : c.uses s.pm = [.modes mode]) : Validated s c where
  rejected hout := by
    obtain ⟨herr, hpm⟩ := hcheck.rejected fun h => hout (hrange h)
    refine ⟨herr, ?_⟩
    rw [hrun]
    simp only at hpm
    rw [hpm]
  inTable e he := by
    obtain ⟨hok, hmem⟩ := mem_entries he
    rw [huses, List.mem_singleton] at hmem
    subst hmem
    exact hcheck.passed hok

lemma validated_module {moduleId mode : ℕ}
    (hcheck : ChecksModule s.pm moduleId mode (c.run s |>.1.pm, (c.run s).2))
    (hrange : moduleId < pmModuleMaxId ∧ mode < pmSleepModeMax → c.InRange)
    (hrun : (c.run s).1 = { s with pm := (c.run s).1.pm })
    (huses : ∀ e ∈ c.uses s.pm, e = .modes mode ∨ e = .moduleStatus moduleId) : Validated s c where
  rejected hout := by
    obtain ⟨herr, hpm⟩ := hcheck.rejected fun h => hout (hrange h)
    refine ⟨herr, ?_⟩
    rw [hrun]
    simp only at hpm
    rw [hpm]
  inTable e he := by
    obtain ⟨hok, hmem⟩ := mem_entries he
    obtain ⟨hmodule, hmode⟩ := hcheck.passed hok
    rcases huses e hmem with rfl | rfl
    · exact hmode
    · exact hmodule

lemma validated_row {moduleId mode : ℕ}
    (hcheck : ChecksRow s.pm moduleId mode (c.run s |>.1.pm, (c.run s).2))
    (hrange : moduleId < pmModuleMaxId ∧ mode < pmSleepModeMax - 1 → c.InRange)
    (hrun : (c.run s).1 = { s with pm := (c.run s).1.pm })
    (huses : c.uses s.pm = [.sleepStatus mode (moduleId / 32)]) : Validated s c where
  rejected hout := by
    obtain ⟨herr, hpm⟩ := hcheck.rejected fun h => hout (hrange h)
    refine ⟨herr, ?_⟩
    rw [hrun]
    simp only at hpm
    rw [hpm]
  inTable e he := by
    obtain ⟨hok, hmem⟩ := mem_entries he
    obtain ⟨hmodule, hmode⟩ := hcheck.passed hok
    rw [huses, List.mem_singleton] at hmem
    subst hmem
    exact ⟨hmode, by omega⟩

/-- `rt_pm_run_enter` turns away the modes above the number of run modes. -/
lemma rtPmRunEnter_rejected {mode : ℕ} (h : s.pm.initFlag = false ∨ pmRunModeMax < mode) :
    (rtPmRunEnter s mode).2.1 ≠ .eok ∧ (rtPmRunEnter s mode).1 = s := by
  by_cases hinit : s.pm.initFlag = false
  · rw [rtPmRunEnter, if_pos hinit]
    exact ⟨RtErr.noConfusion, rfl⟩
  · have hmode : mode > pmRunModeMax := h.resolve_left hinit
    rw [rtPmRunEnter, if_neg hinit, if_pos hmode]
    exact ⟨RtErr.noConfusion, rfl⟩

lemma rtPmRunEnter_eok {mode : ℕ} (hinit : s.pm.initFlag = true) (hmode : mode ≤ pmRunModeMax) :
    (rtPmRunEnter s mode).2.1 = .eok := by
  rw [rtPmRunEnter, if_neg (by simp [hinit]), if_neg (Nat.not_lt.2 hmode)]
  split <;> rfl

end Calls

/-! ### The entries are what a call changes -/

section Off

variable {pm : RtPm} {moduleId mode : ℕ}

/-- The tables are the same but for some entries. -/
structure SameOff (entries : List Entry) (pm pm' : RtPm) : Prop where
  modes : ∀ m, .modes m ∉ entries → pm'.modes m = pm.modes m
  moduleStatus : ∀ i, .moduleStatus i ∉ entries → pm'.moduleStatus i = pm.moduleStatus i
  sleepStatus : ∀ m w, .sleepStatus m w ∉ entries → pm'.sleepStatus m w = pm.sleepStatus m w

lemma SameOff.refl (entries : List Entry) (pm : RtPm) : SameOff entries pm pm :=
  ⟨fun _ _ => rfl, fun _ _ => rfl, fun _ _ _ => rfl⟩

lemma SameOff.trans {entries : List Entry} {pm pm' pm'' : RtPm} (h : SameOff entries pm pm')
    (h' : SameOff entries pm' pm'') : SameOff entries pm pm'' where
  modes m hm := (h'.modes m hm).trans (h.modes m hm)
  moduleStatus i hi := (h'.moduleStatus i hi).trans (h.moduleStatus i hi)
  sleepStatus m w hw := (h'.sleepStatus m w hw).trans (h.sleepStatus m w hw)

lemma sameOff_modes {entries : List Entry} (n : ℕ) (h : .modes mode ∈ entries) :
    SameOff entries pm { pm with modes := Function.update pm.modes mode n } := by
  refine ⟨fun m hm => ?_, fun _ _ => rfl, fun _ _ _ => rfl⟩
  refine Function.update_of_ne ?_ ..
  rintro rfl
  exact hm h

lemma sameOff_setReqStatus {entries : List Entry} (status : ℕ) (h : .moduleStatus moduleId ∈ entries) :
    SameOff entries pm (setReqStatus pm moduleId status) := by
  refine ⟨fun _ _ => rfl, fun i hi => ?_, fun _ _ _ => rfl⟩
  refine Function.update_of_ne ?_ ..
  rintro rfl
  exact hi h

lemma sameOff_sleepStatus {entries : List Entry} {w : ℕ} (word : BitVec 32)
    (h : .sleepStatus mode w ∈ entries) : SameOff entries pm { pm with
      sleepStatus := Function.update pm.sleepStatus mode (Function.update (pm.sleepStatus mode) w word) } := by
  refine ⟨fun _ _ => rfl, fun _ _ => rfl, fun m w' hw => ?_⟩
  by_cases hm : m = mode
  · subst hm
    simp only [Function.update_self]
    refine Function.update_of_ne ?_ ..
    rintro rfl
    exact hw h
  · simp only [Function.update_of_ne hm]

end Off

/-- **A call changes no other entries than those it uses.** -/
theorem sameOff_run (s : RtPmRun) (c : PmCall) : SameOff (c.uses s.pm) s.pm (c.run s).1.pm := by
  cases c with
  | request mode =>
    simp only [PmCall.run, RtPmRun.apply, rtPmRequest]
    split_ifs
    · exact SameOff.refl _ _
    · exact SameOff.refl _ _
    · exact sameOff_modes _ (by simp [PmCall.uses])
    · exact SameOff.refl _ _
  | release mode =>
    simp only [PmCall.run, RtPmRun.apply, rtPmRelease]
    split_ifs
    · exact SameOff.refl _ _
    · exact SameOff.refl _ _
    · exact sameOff_modes _ (by simp [PmCall.uses])
    · exact SameOff.refl _ _
  | releaseAll mode =>
    simp only [PmCall.run, RtPmRun.apply, rtPmReleaseAll]
    split_ifs
    · exact SameOff.refl _ _
    · exact SameOff.refl _ _
    · exact sameOff_modes _ (by simp [PmCall.uses])
  | moduleRequest moduleId mode =>
    simp only [PmCall.run, RtPmRun.apply, rtPmModuleRequest]
    have hstatus : SameOff ((PmCall.moduleRequest moduleId mode).uses s.pm) s.pm
        (setReqStatus s.pm moduleId.toNat 1) := sameOff_setReqStatus 1 (by simp [PmCall.uses])
    split_ifs
    · exact SameOff.refl _ _
    · exact SameOff.refl _ _
    · exact SameOff.refl _ _
    · exact hstatus.trans (sameOff_modes _ (by simp [PmCall.uses]))
    · exact hstatus
  | moduleRelease moduleId mode =>
    have hcount : SameOff ((PmCall.moduleRelease moduleId mode).uses s.pm) s.pm
        { s.pm with modes := Function.update s.pm.modes mode.toNat (s.pm.modes mode.toNat - 1) } :=
      sameOff_modes _ (by simp [PmCall.uses])
    have hstatus (h : s.pm.modes mode.toNat - 1 = 0) :
        .moduleStatus moduleId.toNat ∈ (PmCall.moduleRelease moduleId mode).uses s.pm := by
      simp [PmCall.uses, h]
    simp only [PmCall.run, RtPmRun.apply, rtPmModuleRelease]
    split
    · exact SameOff.refl _ _
    split
    · exact SameOff.refl _ _
    split
    · exact SameOff.refl _ _
    by_cases hpos : s.pm.modes mode.toNat > 0
    · rw [if_pos hpos]
      simp only [Function.update_self]
      split
      · next hzero => exact hcount.trans (sameOff_setReqStatus 0 (hstatus hzero))
      · exact hcount
    · rw [if_neg hpos]
      split
      · next hzero => exact sameOff_setReqStatus 0 (hstatus (by omega))
      · exact SameOff.refl _ _
  | moduleReleaseAll moduleId mode =>
    simp only [PmCall.run, RtPmRun.apply, rtPmModuleReleaseAll]
    split_ifs
    · exact SameOff.refl _ _
    · exact SameOff.refl _ _
    · exact (sameOff_modes 0 (by simp [PmCall.uses])).trans (sameOff_setReqStatus 0 (by simp [PmCall.uses]))
  | sleepRequest moduleId mode =>
    simp only [PmCall.run, RtPmRun.apply, rtPmSleepRequest]
    split_ifs
    · exact SameOff.refl _ _
    · exact SameOff.refl _ _
    · exact sameOff_sleepStatus _ (by simp [PmCall.uses])
  | sleepRelease moduleId mode =>
    simp only [PmCall.run, RtPmRun.apply, rtPmSleepRelease]
    split_ifs
    · exact SameOff.refl _ _
    · exact SameOff.refl _ _
    · exact sameOff_sleepStatus _ (by simp [PmCall.uses])
  | runEnter mode =>
    simp only [PmCall.run, rtPmRunEnter]
    split_ifs <;> exact SameOff.refl _ _

/-- **The checks, exactly.**  A call turns its undeclared arguments away and stays in the tables, unless
it releases all requests of a module that does not exist or enters the mode behind the last one. -/
theorem validated_iff (s : RtPmRun) (c : PmCall) : Validated s c ↔ ¬ Slips s c := by
  cases c with
  | request mode =>
    exact iff_of_true (validated_mode checksMode_rtPmRequest id rfl rfl) id
  | release mode =>
    exact iff_of_true (validated_mode checksMode_rtPmRelease id rfl rfl) id
  | releaseAll mode =>
    exact iff_of_true (validated_mode checksMode_rtPmReleaseAll id rfl rfl) id
  | moduleRequest moduleId mode =>
    refine iff_of_true (validated_module checksModule_rtPmModuleRequest id rfl fun e he => ?_) id
    simp only [PmCall.uses, List.mem_cons, List.not_mem_nil, or_false] at he
    exact he.symm
  | moduleRelease moduleId mode =>
    refine iff_of_true (validated_module checksModule_rtPmModuleRelease id rfl fun e he => ?_) id
    simp only [PmCall.uses, List.mem_cons] at he
    rcases he with rfl | he
    · exact Or.inl rfl
    split at he
    · exact Or.inr (List.mem_singleton.1 he)
    · cases he
  | moduleReleaseAll moduleId mode =>
    constructor
    · rintro hvalid ⟨hinit, hmode, hmodule⟩
      have hout : ¬ (PmCall.moduleReleaseAll moduleId mode).InRange := fun h => Nat.not_lt.2 hmodule h.1
      exact (hvalid.rejected hout).1 (rtPmModuleReleaseAll_eok hinit hmode)
    · intro hslip
      refine validated_module (checksModule_rtPmModuleReleaseAll hslip) id rfl fun e he => ?_
      simpa only [PmCall.uses, List.mem_cons, List.not_mem_nil, or_false] using he
  | sleepRequest moduleId mode =>
    exact iff_of_true (validated_row checksRow_rtPmSleepRequest (And.imp_right Nat.lt_succ_of_lt) rfl rfl)
      id
  | sleepRelease moduleId mode =>
    exact iff_of_true (validated_row checksRow_rtPmSleepRelease (And.imp_right Nat.lt_succ_of_lt) rfl rfl)
      id
  | runEnter mode =>
    constructor
    · rintro hvalid ⟨hinit, hmode⟩
      have hout : ¬ (PmCall.runEnter mode).InRange := fun h => absurd hmode (Nat.ne_of_lt h)
      exact (hvalid.rejected hout).1 (rtPmRunEnter_eok hinit hmode.le)
    · intro hslip
      refine ⟨fun hout => rtPmRunEnter_rejected ?_, fun e he => ?_⟩
      · by_contra hpass
        obtain ⟨hinit, hmode⟩ := not_or.1 hpass
        rw [Bool.not_eq_false] at hinit
        exact hslip ⟨hinit, le_antisymm (Nat.not_lt.1 hmode) (Nat.not_lt.1 hout)⟩
      · cases (mem_entries he).2

/-- The power manager after `rt_system_pm_init`, at normal speed. -/
def runInit : RtPmRun where
  pm := rtSystemPmInit
    { modes := fun _ => 0, sleepMode := 0, moduleStatus := fun _ => ⟨0, false, 0, 0⟩
      sleepStatus := fun _ _ => 0, deviceList := [], timerMask := 0, initFlag := false } 0
  runMode := 1
  flags := 0
  run := false
  frequencyChange := fun _ => false

/-- The module behind the last one is released, in an entry that the table does not have, and the run mode
behind the last one is entered. -/
theorem not_validated_last : ¬ Validated runInit (.moduleReleaseAll 17 0) ∧
    ¬ Validated runInit (.runEnter 4) := by
  constructor
  · intro h
    have hmem : .moduleStatus 17 ∈ (PmCall.moduleReleaseAll 17 0).entries runInit := by decide
    exact lt_irrefl 17 (h.inTable _ hmem)
  · intro h
    have hout : ¬ (PmCall.runEnter 4).InRange := lt_irrefl 4
    exact (h.rejected hout).1 (by decide)

end N32L43x.Pm
