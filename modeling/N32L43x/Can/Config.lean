import N32L43x.Can.Filter
import N32L43x.Lib.Run

/-!
The configuration of the CAN device: `RT_CAN_CMD_SET_MODE`, `RT_CAN_CMD_SET_BAUD` and
`RT_CAN_CMD_SET_PRIV` of `control`, which put the request into `device.config` and have `configure`
program it.  `configure` drops the result of `bxcan_init`, and the table of bit timings has no entry
for one of the rates that are let through, so the configuration and the registers can differ.
-/

namespace N32L43x.Can

open N32L43x.Lib.Bits N32L43x.Lib.Run

/-! ### Bit timings -/

/-- `struct n32_baud_rate_tab`. -/
structure BaudRateTab where
  baudRate : BitVec 32
  rsjw : BitVec 32
  tbs1 : BitVec 32
  tbs2 : BitVec 32
  prescale : BitVec 32
deriving DecidableEq

/-- `can_baud_rate_tab` of the N32L43x, for an APB1 of 27 MHz; the times are register codes. -/
def canBaudRateTab : List BaudRateTab :=
  [⟨1000000, 0, 5, 1, 3⟩, ⟨500000, 0, 5, 1, 6⟩, ⟨250000, 0, 8, 7, 6⟩, ⟨125000, 0, 8, 7, 12⟩,
    ⟨100000, 1, 4, 2, 30⟩, ⟨50000, 1, 4, 2, 60⟩, ⟨20000, 1, 4, 2, 150⟩, ⟨10000, 0, 8, 7, 150⟩]

/-- `get_can_baud_index`: the first entry for the rate, else entry 0. -/
def getCanBaudIndex (baud : BitVec 32) : ℕ :=
  (canBaudRateTab.findIdx? fun entry => entry.baudRate == baud).getD 0

/-- The entry that `bxcan_init` takes for a rate. -/
def baudEntry (baud : BitVec 32) : BaudRateTab :=
  canBaudRateTab.getD (getCanBaudIndex baud) ⟨1000000, 0, 5, 1, 3⟩

/-- The rates `control` lets through, `CAN1MBaud` to `CAN10kBaud`. -/
def acceptedBauds : List (BitVec 32) :=
  [1000000, 800000, 500000, 250000, 125000, 100000, 50000, 20000, 10000]

/-- At 27 MHz a timing has the rate of its entry: a bit is one time quantum and the two segments. -/
lemma canBaudRateTab_rate : ∀ entry ∈ canBaudRateTab,
    entry.baudRate.toNat * ((1 + (entry.tbs1.toNat + 1) + (entry.tbs2.toNat + 1)) *
      entry.prescale.toNat) = 27000000 := by decide

/-! ### The controller -/

/-- `CAN_InitType`. -/
structure CanInitType where
  ttcm : Bool
  abom : Bool
  awkum : Bool
  nart : Bool
  rflm : Bool
  txfp : Bool
  operatingMode : BitVec 32
  rsjw : BitVec 32
  tbs1 : BitVec 32
  tbs2 : BitVec 32
  baudRatePrescaler : BitVec 32

/-- `CAN_InitStruct`. -/
def canInitStruct : CanInitType :=
  { ttcm := false, abom := false, awkum := false, nart := false, rflm := false, txfp := false
    operatingMode := 0, rsjw := 0, tbs1 := 3, tbs2 := 2, baudRatePrescaler := 1 }

/-- How the controller answers `CAN_Init`: it does not enter the initialisation mode, it does not leave
it again, or it does both. -/
inductive InitAck where
  | noEnter
  | noLeave
  | ok
deriving DecidableEq

/-- `struct can_configure`, the fields the driver reads. -/
structure CanConfigure where
  baudRate : BitVec 32
  mode : BitVec 8
  privmode : BitVec 8
deriving DecidableEq

/-- The device: its configuration, the parameters of the last `bxcan_init`, the control and timing
registers, and the filters. -/
structure Driver where
  /-- `device.config` -/
  config : CanConfigure
  /-- `can_init` -/
  canInit : CanInitType
  mctrl : BitVec 32
  btim : BitVec 32
  /-- `FilterConfig` -/
  filterConfig : FilterConfig
  can : CanModule

/-- A bit of `MCTRL` set or cleared. -/
def setMctrl (d : Driver) (k : ℕ) (enable : Bool) : Driver :=
  { d with mctrl := if enable then d.mctrl ||| bit 32 k else d.mctrl &&& ~~~bit 32 k }

/-- The word `CAN_Init` writes to `BTIM`. -/
def btimWord (init : CanInitType) : BitVec 32 :=
  init.operatingMode <<< 30 ||| init.rsjw <<< 24 ||| init.tbs1 <<< 16 ||| init.tbs2 <<< 20 |||
    (init.baudRatePrescaler - 1)

/-- `CAN_Init`: whether it succeeds depends on the controller's answers. -/
def canInit (d : Driver) (ack : InitAck) : Driver × Bool :=
  let d := setMctrl d 1 false
  let d := setMctrl d 0 true
  if ack = .noEnter then (d, false)
  else
    let d := setMctrl d 7 d.canInit.ttcm
    let d := setMctrl d 6 d.canInit.abom
    let d := setMctrl d 5 d.canInit.awkum
    let d := setMctrl d 4 d.canInit.nart
    let d := setMctrl d 3 d.canInit.rflm
    let d := setMctrl d 2 d.canInit.txfp
    let d := { d with btim := btimWord d.canInit }
    let d := setMctrl d 0 false
    (d, ack = .ok)

/-! ### The driver -/

/-- The `switch` of `bxcan_init` over the mode. -/
def operatingMode (mode : BitVec 8) : BitVec 32 :=
  if mode = 0 then 0
  else if mode = 1 then 2
  else if mode = 2 then 1
  else if mode = 3 then 3
  else 0

/-- The parameters `bxcan_init` makes of a configuration. -/
def initParams (config : CanConfigure) : CanInitType :=
  let entry := baudEntry config.baudRate
  { canInitStruct with
    txfp := true
    operatingMode := operatingMode config.mode
    rsjw := entry.rsjw
    tbs1 := entry.tbs1
    tbs2 := entry.tbs2
    baudRatePrescaler := entry.prescale }

/-- `setfilter`. -/
def setfilterDefault (d : Driver) : Driver := { d with can := canInitFilter d.can d.filterConfig }

/-- `bxcan_init`. -/
def bxcanInit (d : Driver) (ack : InitAck) : Driver × RtErr :=
  let d := { d with canInit := initParams d.config }
  match canInit d ack with
  | (d, false) => (d, .error)
  | (d, true) => (setfilterDefault d, .eok)

/-- `configure`: the result of `bxcan_init` is dropped. -/
def configure (d : Driver) (ack : InitAck) : Driver × RtErr := ((bxcanInit d ack).1, .eok)

/-- The three commands, with their arguments. -/
inductive Request where
  | setMode (argval : BitVec 32)
  | setBaud (argval : BitVec 32)
  | setPriv (argval : BitVec 32)
deriving DecidableEq

/-- `control`, and how the controller answers `CAN_Init` if it is called. -/
def control (d : Driver) (ack : InitAck) : Request → Driver × RtErr
  | .setMode argval =>
    if argval ≠ 0 ∧ argval ≠ 1 ∧ argval ≠ 2 ∧ argval ≠ 3 then (d, .error)
    else if argval ≠ d.config.mode.setWidth 32 then
      configure { d with config := { d.config with mode := argval.setWidth 8 } } ack
    else (d, .eok)
  | .setBaud argval =>
    if argval ∉ acceptedBauds then (d, .error)
    else if argval ≠ d.config.baudRate then
      configure { d with config := { d.config with baudRate := argval } } ack
    else (d, .eok)
  | .setPriv argval =>
    if argval ≠ 1 ∧ argval ≠ 0 then (d, .error)
    else if argval ≠ d.config.privmode.setWidth 32 then
      configure { d with config := { d.config with privmode := argval.setWidth 8 } } ack
    else (d, .eok)

/-- The device under any requests and answers. -/
def controlStep (d : Driver) (a : Request × InitAck) : Option Driver := some (control d a.2 a.1).1

/-! ### The law -/

/-- The timing register for a mode and a timing. -/
def timingWord (mode : BitVec 8) (entry : BaudRateTab) : BitVec 32 :=
  operatingMode mode <<< 30 ||| entry.rsjw <<< 24 ||| entry.tbs1 <<< 16 ||| entry.tbs2 <<< 20 |||
    (entry.prescale - 1)

/-- The timing register has the mode and a timing of the rate of the configuration. -/
def Agree (d : Driver) : Prop :=
  d.config.mode ∈ [0, 1, 2, 3] ∧ ∃ entry ∈ canBaudRateTab, entry.baudRate = d.config.baudRate ∧
    d.btim = timingWord d.config.mode entry

/-- What a call should do: with `RT_EOK` the registers agree with the configuration afterwards, with an
error both are as they were. -/
def ControlLaw (d : Driver) (a : Request × InitAck) : Prop :=
  ((control d a.2 a.1).2 = .eok → Agree (control d a.2 a.1).1) ∧
  ((control d a.2 a.1).2 ≠ .eok → (control d a.2 a.1).1.config = d.config ∧
    (control d a.2 a.1).1.btim = d.btim)

/-- The calls that are honoured: a new mode, unless the controller does not enter its initialisation
mode; a new rate, unless that or there is no timing for it. -/
def Honoured (d : Driver) : Request × InitAck → Prop
  | (.setMode argval, ack) =>
    argval = 0 ∨ argval = 1 ∨ argval = 2 ∨ argval = 3 →
      argval ≠ d.config.mode.setWidth 32 → ack ≠ .noEnter
  | (.setBaud argval, ack) =>
    argval ∈ acceptedBauds → argval ≠ d.config.baudRate → ack ≠ .noEnter ∧ argval ≠ 800000
  | (.setPriv _, _) => True

/-! ### What `configure` programs -/

lemma baudEntry_of_mem : ∀ entry ∈ canBaudRateTab, baudEntry entry.baudRate = entry := by decide

lemma ne_800k_of_mem : ∀ entry ∈ canBaudRateTab, entry.baudRate ≠ 800000 := by decide

lemma entry_of_accepted {baud : BitVec 32} (h : baud ∈ acceptedBauds) (hne : baud ≠ 800000) :
    ∃ entry ∈ canBaudRateTab, entry.baudRate = baud := by
  have hall : (acceptedBauds.all fun baud => baud == 800000 ||
      canBaudRateTab.any fun entry => entry.baudRate == baud) = true := by decide
  have hbaud := List.all_eq_true.1 hall baud h
  rw [Bool.or_eq_true, List.any_eq_true] at hbaud
  rcases hbaud with h800 | ⟨entry, hentry, hrate⟩
  · exact absurd (eq_of_beq h800) hne
  · exact ⟨entry, hentry, eq_of_beq hrate⟩

/-- The register tells the mode and the timing. -/
lemma timingWord_inj {m m' : BitVec 8} (hm : m ∈ [0, 1, 2, 3]) (hm' : m' ∈ [0, 1, 2, 3])
    {e e' : BaudRateTab} (he : e ∈ canBaudRateTab) (he' : e' ∈ canBaudRateTab)
    (h : timingWord m e = timingWord m' e') : m = m' ∧ e = e' := by
  have hall : ([0, 1, 2, 3].all fun m => [0, 1, 2, 3].all fun m' => canBaudRateTab.all fun e =>
      canBaudRateTab.all fun e' => timingWord m e != timingWord m' e' || m == m' && e == e') =
        true := by decide +kernel
  have hmm := List.all_eq_true.1 (List.all_eq_true.1 hall m hm) m' hm'
  simpa [h] using List.all_eq_true.1 (List.all_eq_true.1 hmm e he) e' he'

/-- `CAN_Init` writes the timing register, unless the initialisation mode is not entered. -/
lemma canInit_btim (d : Driver) (ack : InitAck) :
    (canInit d ack).1.config = d.config ∧
      (canInit d ack).1.btim = if ack = .noEnter then d.btim else btimWord d.canInit := by
  unfold canInit
  by_cases h : ack = .noEnter
  · rw [if_pos h, if_pos h]
    exact ⟨rfl, rfl⟩
  · rw [if_neg h, if_neg h]
    exact ⟨rfl, rfl⟩

lemma configure_spec (d : Driver) (ack : InitAck) : (configure d ack).2 = .eok ∧
    (configure d ack).1.config = d.config ∧
    (configure d ack).1.btim = if ack = .noEnter then d.btim
      else timingWord d.config.mode (baudEntry d.config.baudRate) := by
  obtain ⟨hconfig, hbtim⟩ := canInit_btim { d with canInit := initParams d.config } ack
  have hword : btimWord (initParams d.config) =
      timingWord d.config.mode (baudEntry d.config.baudRate) := rfl
  refine ⟨rfl, ?_, ?_⟩
  all_goals
    simp only [configure, bxcanInit]
    rcases hrun : canInit { d with canInit := initParams d.config } ack with ⟨d', success⟩
    rw [hrun] at hconfig hbtim
    cases success
  · exact hconfig
  · exact hconfig
  · rw [← hword]
    exact hbtim
  · rw [← hword]
    exact hbtim

section Agree

variable {d : Driver} (hd : Agree d) (ack : InitAck)
include hd

/-- A new mode is programmed unless the controller does not enter its initialisation mode. -/
lemma agree_setMode_iff {m : BitVec 8} (hm : m ∈ [0, 1, 2, 3]) (hne : m ≠ d.config.mode) :
    Agree (configure { d with config := { d.config with mode := m } } ack).1 ↔ ack ≠ .noEnter := by
  obtain ⟨hmode, entry, hentry, hbaud, hbtim⟩ := hd
  obtain ⟨-, hconfig, hword⟩ :=
    configure_spec { d with config := { d.config with mode := m } } ack
  rw [Agree, hconfig, hword]
  constructor
  · rintro ⟨-, entry', hentry', -, heq⟩ rfl
    rw [if_pos rfl, hbtim] at heq
    exact hne (timingWord_inj hmode hm hentry hentry' heq).1.symm
  · intro hack
    rw [if_neg hack]
    refine ⟨hm, entry, hentry, hbaud, ?_⟩
    rw [← hbaud, baudEntry_of_mem entry hentry]

/-- A new rate is programmed if there is a timing for it, unless the same. -/
lemma agree_setBaud_iff {baud : BitVec 32} (hacc : baud ∈ acceptedBauds)
    (hne : baud ≠ d.config.baudRate) :
    Agree (configure { d with config := { d.config with baudRate := baud } } ack).1 ↔
      ack ≠ .noEnter ∧ baud ≠ 800000 := by
  obtain ⟨hmode, entry, hentry, hbaud, hbtim⟩ := hd
  obtain ⟨-, hconfig, hword⟩ :=
    configure_spec { d with config := { d.config with baudRate := baud } } ack
  rw [Agree, hconfig, hword]
  constructor
  · rintro ⟨-, entry', hentry', hbaud', heq⟩
    refine ⟨?_, fun h800 => ne_800k_of_mem entry' hentry' (hbaud'.trans h800)⟩
    rintro rfl
    rw [if_pos rfl, hbtim] at heq
    obtain ⟨-, rfl⟩ := timingWord_inj hmode hmode hentry hentry' heq
    exact hne (hbaud'.symm.trans hbaud)
  · rintro ⟨hack, h800⟩
    obtain ⟨entry', hentry', rfl⟩ := entry_of_accepted hacc h800
    rw [if_neg hack]
    refine ⟨hmode, entry', hentry', rfl, ?_⟩
    rw [baudEntry_of_mem entry' hentry']

/-- Programming the same mode and rate again keeps the agreement. -/
lemma agree_setPriv (p : BitVec 8) :
    Agree (configure { d with config := { d.config with privmode := p } } ack).1 := by
  obtain ⟨hmode, entry, hentry, hbaud, hbtim⟩ := hd
  obtain ⟨-, hconfig, hword⟩ :=
    configure_spec { d with config := { d.config with privmode := p } } ack
  rw [Agree, hconfig, hword]
  refine ⟨hmode, entry, hentry, hbaud, ?_⟩
  split
  · exact hbtim
  · rw [← hbaud, baudEntry_of_mem entry hentry]

end Agree

/-! ### When the law holds -/

/-- A call that is turned away changes nothing. -/
lemma controlLaw_of_error {d : Driver} {a : Request × InitAck}
    (h : control d a.2 a.1 = (d, .error)) : ControlLaw d a := by
  rw [ControlLaw, h]
  refine ⟨fun hok => ?_, fun _ => ⟨rfl, rfl⟩⟩
  cases hok

lemma controlLaw_iff_of_ok {d d' : Driver} {a : Request × InitAck}
    (h : control d a.2 a.1 = (d', .eok)) : ControlLaw d a ↔ Agree d' := by
  rw [ControlLaw, h]
  exact ⟨fun hlaw => hlaw.1 rfl, fun hagree => ⟨fun _ => hagree, fun herr => absurd rfl herr⟩⟩

/-- The modes are told apart by their low byte. -/
lemma setWidth_mode {argval : BitVec 32} (h : argval ∈ [0, 1, 2, 3]) {m : BitVec 8}
    (hm : m ∈ [0, 1, 2, 3]) : argval.setWidth 8 ∈ [(0 : BitVec 8), 1, 2, 3] ∧
      (argval = m.setWidth 32 ↔ argval.setWidth 8 = m) := by
  simp only [List.mem_cons, List.not_mem_nil, or_false] at h hm
  rcases h with rfl | rfl | rfl | rfl <;> rcases hm with rfl | rfl | rfl | rfl <;> decide

/-- In agreement, a call obeys the law if and only if it is honoured. -/
lemma controlLaw_iff_honoured {d : Driver} (hd : Agree d) (a : Request × InitAck) :
    ControlLaw d a ↔ Honoured d a := by
  obtain ⟨request, ack⟩ := a
  cases request with
  | setMode argval =>
    by_cases hbad : argval ≠ 0 ∧ argval ≠ 1 ∧ argval ≠ 2 ∧ argval ≠ 3
    · have hrun : control d ack (.setMode argval) = (d, .error) := by rw [control, if_pos hbad]
      refine iff_of_true (controlLaw_of_error hrun) fun hgood => ?_
      tauto
    have hmem : argval ∈ [0, 1, 2, 3] := by
      simp only [List.mem_cons, List.not_mem_nil, or_false]
      tauto
    obtain ⟨hm, hiff⟩ := setWidth_mode hmem hd.1
    by_cases hsame : argval = d.config.mode.setWidth 32
    · have hrun : control d ack (.setMode argval) = (d, .eok) := by
        rw [control, if_neg hbad, if_neg (not_not.2 hsame)]
      exact iff_of_true ((controlLaw_iff_of_ok hrun).2 hd) fun _ hne => absurd hsame hne
    · have hrun : control d ack (.setMode argval) =
          ((configure { d with config := { d.config with mode := argval.setWidth 8 } } ack).1,
            .eok) := by
        rw [control, if_neg hbad, if_pos hsame]
        rfl
      rw [controlLaw_iff_of_ok hrun, agree_setMode_iff hd ack hm (mt hiff.2 hsame)]
      refine ⟨fun h _ _ => h, fun h => h ?_ hsame⟩
      simpa using hmem
  | setBaud argval =>
    by_cases hacc : argval ∈ acceptedBauds
    · by_cases hsame : argval = d.config.baudRate
      · have hrun : control d ack (.setBaud argval) = (d, .eok) := by
          rw [control, if_neg (not_not.2 hacc), if_neg (not_not.2 hsame)]
        exact iff_of_true ((controlLaw_iff_of_ok hrun).2 hd) fun _ hne => absurd hsame hne
      · have hrun : control d ack (.setBaud argval) =
            ((configure { d with config := { d.config with baudRate := argval } } ack).1,
              .eok) := by
          rw [control, if_neg (not_not.2 hacc), if_pos hsame]
          rfl
        rw [controlLaw_iff_of_ok hrun, agree_setBaud_iff hd ack hacc hsame]
        exact ⟨fun h _ _ => h, fun h => h hacc hsame⟩
    · have hrun : control d ack (.setBaud argval) = (d, .error) := by rw [control, if_pos hacc]
      exact iff_of_true (controlLaw_of_error hrun) fun h => absurd h hacc
  | setPriv argval =>
    refine iff_of_true ?_ trivial
    by_cases hbad : argval ≠ 1 ∧ argval ≠ 0
    · exact controlLaw_of_error (by rw [control, if_pos hbad])
    by_cases hsame : argval = d.config.privmode.setWidth 32
    · have hrun : control d ack (.setPriv argval) = (d, .eok) := by
        rw [control, if_neg hbad, if_neg (not_not.2 hsame)]
      exact (controlLaw_iff_of_ok hrun).2 hd
    · have hrun : control d ack (.setPriv argval) =
          ((configure { d with config := { d.config with privmode := argval.setWidth 8 } } ack).1,
            .eok) := by
        rw [control, if_neg hbad, if_pos hsame]
        rfl
      exact (controlLaw_iff_of_ok hrun).2 (agree_setPriv hd ack _)

/-- A call that obeys the law keeps the agreement. -/
lemma agree_of_controlLaw {d : Driver} (hd : Agree d) {a : Request × InitAck}
    (h : ControlLaw d a) : Agree (control d a.2 a.1).1 := by
  by_cases hok : (control d a.2 a.1).2 = .eok
  · exact h.1 hok
  · obtain ⟨hconfig, hbtim⟩ := h.2 hok
    rw [Agree, hconfig, hbtim]
    exact hd

/-- **The configuration and the controller, exactly.**  From a state in which they agree, the calls of a
run all obey the law if and only if they are all honoured: none sets a new mode or rate while the
controller does not enter its initialisation mode, and none a rate without a timing. -/
theorem control_law_iff (d : Driver) (hd : Agree d) (as : List (Request × InitAck)) :
    Along controlStep ControlLaw d as ↔ Along controlStep Honoured d as := by
  refine along_iff_of_inv (I := Agree) ?_ ?_ as d hd
  · intro d a d' hd hhon hstep
    obtain rfl : (control d a.2 a.1).1 = d' := by simpa [controlStep] using hstep
    exact agree_of_controlLaw hd ((controlLaw_iff_honoured hd a).2 hhon)
  · exact fun d a hd => controlLaw_iff_honoured hd a

/-- The device once it is opened: the default configuration is programmed. -/
def opened : Driver :=
  (configure
    { config := { baudRate := 1000000, mode := 0, privmode := 0 }
      canInit := canInitStruct
      mctrl := 0x10002
      btim := 0x1230000
      filterConfig := defaultFilter
      can := resetCan } .ok).1

lemma agree_opened : Agree opened :=
  ⟨by decide, ⟨1000000, 0, 5, 1, 3⟩, by decide, rfl, by decide⟩

/-- A new mode and a new rate on a controller that answers. -/
theorem control_law_iff_opened :
    Along controlStep ControlLaw opened [(.setMode 2, .ok), (.setBaud 500000, .ok)] ↔
      Along controlStep Honoured opened [(.setMode 2, .ok), (.setBaud 500000, .ok)] :=
  control_law_iff opened agree_opened _

/-- 800 kBaud is let through, and the rate of 1 MBaud is programmed; and a controller that does not
enter its initialisation mode keeps its mode, with `RT_EOK`. -/
theorem not_control_law :
    ¬ ControlLaw opened (.setBaud 800000, .ok) ∧ ¬ ControlLaw opened (.setMode 1, .noEnter) := by
  rw [controlLaw_iff_honoured agree_opened, controlLaw_iff_honoured agree_opened]
  refine ⟨fun h => ?_, fun h => ?_⟩
  · exact (h (by decide) (by decide)).2 rfl
  · exact h (by decide) (by decide) rfl

end N32L43x.Can
