import N32L43x.Lib.Bits
import N32L43x.RtErr
import Mathlib.Logic.Function.Basic

/-!
The power manager of the kernel's driver framework: the request counters, the sleep request
table and the delay-sleep windows, the selection of the sleep mode from them, and the entry into
the mode with its trace of calls to the hardware, the devices and the notify hook.  The 32-bit
system tick is a parameter of whatever reads it: the code that reads it more than once does so
with interrupts disabled.

The configuration is the one of the board: `PM_ENABLE_THRESHOLD_SLEEP_MODE` is set,
`PM_ENABLE_SUSPEND_SLEEP_MODE` is not, and all thresholds have their default values.
-/

namespace N32L43x.Pm

open N32L43x.Lib.Bits

/-! ### Constants -/

/-- The sleep modes, from the shallowest to the deepest. -/
abbrev pmSleepModeNone : ℕ := 0
abbrev pmSleepModeIdle : ℕ := 1
abbrev pmSleepModeLight : ℕ := 2
abbrev pmSleepModeDeep : ℕ := 3
abbrev pmSleepModeStandby : ℕ := 4
abbrev pmSleepModeMax : ℕ := 6

/-- `PM_BUSY_SLEEP_MODE`. -/
abbrev pmBusySleepMode : ℕ := pmSleepModeIdle

/-- `RT_PM_DEFAULT_SLEEP_MODE`: the mode requested at power on. -/
abbrev rtPmDefaultSleepMode : ℕ := pmSleepModeLight

/-- `RT_PM_DEFAULT_DEEPSLEEP_MODE`: the mode when nothing is requested. -/
abbrev rtPmDefaultDeepsleepMode : ℕ := pmSleepModeDeep

abbrev pmModuleMaxId : ℕ := 17

/-- `PM_POWER_ID`. -/
abbrev pmPowerId : ℕ := 1

abbrev pmLightThresholdTime : BitVec 32 := 5
abbrev pmDeepThresholdTime : BitVec 32 := 20
abbrev pmStandbyThresholdTime : BitVec 32 := 100

/-- `RT_TICK_MAX`. -/
abbrev rtTickMax : BitVec 32 := 0xFFFFFFFF

/-! ### The state -/

/-- `struct rt_pm_module`. -/
structure RtPmModule where
  reqStatus : ℕ
  busyFlag : Bool
  timeout : BitVec 32
  startTime : BitVec 32
deriving DecidableEq

/-- `struct rt_device_pm`: a registered device and which of its operations are there. -/
structure RtDevicePm where
  device : ℕ
  suspend : Bool
  resume : Bool

/-- `struct rt_pm` and the flag of the module. -/
structure RtPm where
  /-- request counters, `uint8_t` -/
  modes : ℕ → ℕ
  sleepMode : ℕ
  moduleStatus : ℕ → RtPmModule
  sleepStatus : ℕ → ℕ → BitVec 32
  deviceList : List RtDevicePm
  timerMask : BitVec 8
  /-- `_pm_init_flag` -/
  initFlag : Bool

/-- `rt_system_pm_init`. -/
def rtSystemPmInit (pm : RtPm) (timerMask : BitVec 8) : RtPm :=
  { pm with
    modes := Function.update (fun _ => 0) rtPmDefaultSleepMode 1
    sleepMode := rtPmDefaultSleepMode
    moduleStatus := Function.update pm.moduleStatus pmPowerId
      { pm.moduleStatus pmPowerId with reqStatus := 1 }
    timerMask := timerMask
    deviceList := []
    initFlag := true }

/-! ### Requests -/

/-- `rt_pm_request`. -/
def rtPmRequest (pm : RtPm) (mode : ℕ) : RtPm × RtErr :=
  if pm.initFlag = false then (pm, .eperm)
  else if mode > pmSleepModeMax - 1 then (pm, .einval)
  else if pm.modes mode < 255 then
    ({ pm with modes := Function.update pm.modes mode (pm.modes mode + 1) }, .eok)
  else (pm, .eok)

/-- `rt_pm_release`. -/
def rtPmRelease (pm : RtPm) (mode : ℕ) : RtPm × RtErr :=
  if pm.initFlag = false then (pm, .eperm)
  else if mode > pmSleepModeMax - 1 then (pm, .einval)
  else if pm.modes mode > 0 then
    ({ pm with modes := Function.update pm.modes mode (pm.modes mode - 1) }, .eok)
  else (pm, .eok)

/-- The assignment of a module's `req_status`. -/
def setReqStatus (pm : RtPm) (moduleId status : ℕ) : RtPm :=
  let m := { pm.moduleStatus moduleId with reqStatus := status }
  { pm with moduleStatus := Function.update pm.moduleStatus moduleId m }

/-- `rt_pm_module_request`. -/
def rtPmModuleRequest (pm : RtPm) (moduleId mode : ℕ) : RtPm × RtErr :=
  if pm.initFlag = false then (pm, .eperm)
  else if mode > pmSleepModeMax - 1 then (pm, .einval)
  else if moduleId > pmModuleMaxId - 1 then (pm, .einval)
  else
    let pm := setReqStatus pm moduleId 1
    if pm.modes mode < 255 then
      ({ pm with modes := Function.update pm.modes mode (pm.modes mode + 1) }, .eok)
    else (pm, .eok)

/-- `rt_pm_module_release`. -/
def rtPmModuleRelease (pm : RtPm) (moduleId mode : ℕ) : RtPm × RtErr :=
  if pm.initFlag = false then (pm, .eperm)
  else if mode > pmSleepModeMax - 1 then (pm, .einval)
  else if moduleId > pmModuleMaxId - 1 then (pm, .einval)
  else
    let pm := if pm.modes mode > 0 then
      { pm with modes := Function.update pm.modes mode (pm.modes mode - 1) } else pm
    let pm := if pm.modes mode = 0 then setReqStatus pm moduleId 0 else pm
    (pm, .eok)

/-- `rt_pm_sleep_request`. -/
def rtPmSleepRequest (pm : RtPm) (moduleId mode : ℕ) : RtPm × RtErr :=
  if moduleId ≥ pmModuleMaxId then (pm, .einval)
  else if mode ≥ pmSleepModeMax - 1 then (pm, .einval)
  else
    let word := pm.sleepStatus mode (moduleId / 32) ||| bit 32 (moduleId % 32)
    let row := Function.update (pm.sleepStatus mode) (moduleId / 32) word
    ({ pm with sleepStatus := Function.update pm.sleepStatus mode row }, .eok)

/-- `rt_pm_sleep_release`. -/
def rtPmSleepRelease (pm : RtPm) (moduleId mode : ℕ) : RtPm × RtErr :=
  if moduleId ≥ pmModuleMaxId then (pm, .einval)
  else if mode ≥ pmSleepModeMax - 1 then (pm, .einval)
  else
    let word := pm.sleepStatus mode (moduleId / 32) &&& ~~~bit 32 (moduleId % 32)
    let row := Function.update (pm.sleepStatus mode) (moduleId / 32) word
    ({ pm with sleepStatus := Function.update pm.sleepStatus mode row }, .eok)

/-- `rt_pm_module_delay_sleep`. -/
def rtPmModuleDelaySleep (pm : RtPm) (tick : BitVec 32) (moduleId : ℕ) (timeout : BitVec 32) :
    RtPm :=
  if pm.initFlag = false then pm
  else if moduleId > pmModuleMaxId - 1 then pm
  else
    let m := { pm.moduleStatus moduleId with
      busyFlag := true, timeout := timeout, startTime := tick }
    { pm with moduleStatus := Function.update pm.moduleStatus moduleId m }

/-! ### The selection of the mode -/

/-- `_judge_sleep_mode`: the first mode with a word of its request row set. -/
def judgeSleepMode (pm : RtPm) : ℕ :=
  ((List.range (pmSleepModeMax - 1)).find? fun index =>
    (List.range ((pmModuleMaxId + 31) / 32)).any fun len =>
      pm.sleepStatus index len != 0).getD pmSleepModeMax

/-- `_pm_select_sleep_mode`. -/
def pmSelectSleepMode (pm : RtPm) : ℕ :=
  let requestMode := judgeSleepMode pm
  let mode := ((List.range pmSleepModeMax).find? fun index =>
    pm.modes index != 0).getD rtPmDefaultDeepsleepMode
  if requestMode < mode then requestMode else mode

/-- The loop body of `_pm_device_check_idle`: a window that has run out is closed. -/
def expire (tick : BitVec 32) (m : RtPmModule) : RtPmModule :=
  if m.busyFlag = true ∧ tick - m.startTime > m.timeout then
    { m with busyFlag := false, timeout := 0 }
  else m

/-- The loop of `_pm_device_check_idle` over the modules from some index on. -/
def checkIdleFrom (tick : BitVec 32) (pm : RtPm) : List ℕ → RtPm × Bool
  | [] => (pm, true)
  | i :: is =>
    let m := expire tick (pm.moduleStatus i)
    let pm := { pm with moduleStatus := Function.update pm.moduleStatus i m }
    if m.busyFlag then (pm, false) else checkIdleFrom tick pm is

/-- `_pm_device_check_idle`. -/
def pmDeviceCheckIdle (pm : RtPm) (tick : BitVec 32) : RtPm × Bool :=
  if pm.initFlag = false then (pm, true)
  else checkIdleFrom tick pm (List.range pmModuleMaxId)

/-- `pm_get_sleep_threshold_mode`. -/
def pmGetSleepThresholdMode (pm : RtPm) (curMode : ℕ) (timeoutTick : BitVec 32) : ℕ :=
  if pm.initFlag = false then curMode
  else if curMode ≥ pmSleepModeMax then curMode
  else if curMode = pmSleepModeLight then
    if timeoutTick < pmLightThresholdTime then pmSleepModeIdle else curMode
  else if curMode = pmSleepModeDeep then
    if timeoutTick < pmLightThresholdTime then pmSleepModeIdle
    else if timeoutTick < pmDeepThresholdTime then pmSleepModeLight
    else curMode
  else if curMode = pmSleepModeStandby then
    if timeoutTick < pmLightThresholdTime then pmSleepModeIdle
    else if timeoutTick < pmDeepThresholdTime then pmSleepModeLight
    else if timeoutTick < pmStandbyThresholdTime then pmSleepModeDeep
    else curMode
  else curMode

/-! ### Entering the mode -/

/-- What the entry meets outside of the power manager. -/
structure PmEnv where
  /-- `rt_timer_next_timeout_tick` -/
  timerNext : BitVec 32
  /-- `rt_lptimer_next_timeout_tick` -/
  lptimerNext : BitVec 32
  /-- the result of a device's `suspend` -/
  suspend : ℕ → RtErr
  /-- the ticks `timer_get_tick` reports on wake-up -/
  timerGetTick : BitVec 32

/-- The calls the entry makes, in their order. -/
inductive PmEvent where
  /-- the notify hook, with `RT_PM_ENTER_SLEEP` or `RT_PM_EXIT_SLEEP` -/
  | notifyEnter (mode : ℕ)
  | notifyExit (mode : ℕ)
  | suspend (device mode : ℕ)
  | resume (device mode : ℕ)
  | timerStart (timeout : BitVec 32)
  | timerStop
  | sleep (mode : ℕ)
  | tickIncrease (ticks : BitVec 32)
deriving DecidableEq

/-- `pm_timer_next_timeout_tick`. -/
def pmTimerNextTimeoutTick (env : PmEnv) (mode : ℕ) : BitVec 32 :=
  if mode = pmSleepModeLight then env.timerNext
  else if mode = pmSleepModeDeep ∨ mode = pmSleepModeStandby then env.lptimerNext
  else rtTickMax

/-- `_pm_device_suspend`: the devices in turn, up to the first that refuses. -/
def pmDeviceSuspend (env : PmEnv) (mode : ℕ) : List RtDevicePm → List PmEvent
  | [] => []
  | d :: ds =>
    if d.suspend then
      .suspend d.device mode ::
        if env.suspend d.device = .eok then pmDeviceSuspend env mode ds else []
    else pmDeviceSuspend env mode ds

/-- `_pm_device_resume`. -/
def pmDeviceResume (mode : ℕ) (ds : List RtDevicePm) : List PmEvent :=
  (ds.filter RtDevicePm.resume).map fun d => .resume d.device mode

/-- The test `timer_mask & (0x01 << mode)`. -/
def hasTimer (pm : RtPm) (mode : ℕ) : Bool := anySet (pm.timerMask.setWidth 32) (bit 32 mode)

/-- The first part of `_pm_change_sleep_mode`: the mode before the threshold adjustment. -/
def judgeMode (pm : RtPm) (tick : BitVec 32) : RtPm :=
  let selected := pmSelectSleepMode pm
  let (pm, idle) := pmDeviceCheckIdle { pm with sleepMode := selected } tick
  if idle = false ∧ pmBusySleepMode < pm.sleepMode then
    { pm with sleepMode := pmBusySleepMode } else pm

/-- The tickless part of `_pm_change_sleep_mode`: the threshold adjustment and the start of the
low-power timer. -/
def tickless (pm : RtPm) (tick : BitVec 32) (env : PmEnv) : RtPm × List PmEvent :=
  if hasTimer pm pm.sleepMode then
    let timeoutTick := pmTimerNextTimeoutTick env pm.sleepMode - tick
    let pm := { pm with sleepMode := pmGetSleepThresholdMode pm pm.sleepMode timeoutTick }
    (pm, if hasTimer pm pm.sleepMode then [.timerStart timeoutTick] else [])
  else (pm, [])

/-- The wake-up part of `_pm_change_sleep_mode`: the slept ticks are credited. -/
def wakeUp (pm : RtPm) (env : PmEnv) : List PmEvent :=
  if hasTimer pm pm.sleepMode then
    .timerStop :: if env.timerGetTick ≠ 0 then [.tickIncrease env.timerGetTick] else []
  else []

/-- `_pm_change_sleep_mode`. -/
def pmChangeSleepMode (pm : RtPm) (tick : BitVec 32) (env : PmEnv) : RtPm × List PmEvent :=
  let pm := judgeMode pm tick
  if pm.sleepMode = pmSleepModeNone then (pm, [.sleep pmSleepModeNone])
  else
    let enter := .notifyEnter pm.sleepMode :: pmDeviceSuspend env pm.sleepMode pm.deviceList
    let (pm, start) := tickless pm tick env
    let leave := pmDeviceResume pm.sleepMode pm.deviceList ++ [.notifyExit pm.sleepMode]
    (pm, enter ++ start ++ .sleep pm.sleepMode :: wakeUp pm env ++ leave)

end N32L43x.Pm
