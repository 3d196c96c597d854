import N32L43x.Lib.Bits
import N32L43x.RtErr
import Mathlib.Logic.Function.Basic
import Mathlib.Data.Int.Basic

/-!
The interrupt part of the GPIO driver: the pin table, the sixteen handler slots that all ports
share, the enable mask, and the EXTI, AFIO and NVIC registers the driver writes.  Pin numbers are
`rt_base_t`, registers 32-bit words, and handlers and their arguments are addresses, `0` being
`RT_NULL`.
-/

namespace N32L43x.Gpio

open N32L43x.Lib.Bits

/-! ### Pins, ports and vectors -/

/-- The ports of the N32L43x. -/
inductive GpioModule where
  | gpioA
  | gpioB
  | gpioC
  | gpioD
deriving DecidableEq, Repr

/-- An entry of the table `pins`. -/
structure PinIndex where
  index : ℤ
  gpio : GpioModule
  pin : BitVec 32
deriving DecidableEq

/-- The sixteen entries of a port, `__N32_PIN(base + k, gpio, GPIO_PIN_k)`. -/
def portPins (base : ℤ) (gpio : GpioModule) : List PinIndex :=
  (List.range 16).map fun k : ℕ => ⟨base + k, gpio, bit 32 k⟩

/-- The table `pins`. -/
def pins : List PinIndex :=
  portPins 0 .gpioA ++ portPins 16 .gpioB ++ portPins 32 .gpioC ++ portPins 48 .gpioD

/-- The conversion of a pin number to the `uint8_t` parameter of `get_pin`. -/
def toUint8 (pin : ℤ) : ℕ := (pin % 256).toNat

/-- `get_pin`: the table entry of a pin number, `none` for `RT_NULL`. -/
def getPin (pin : ℤ) : Option PinIndex :=
  match pins[toUint8 pin]? with
  | some index => if index.index = -1 then none else some index
  | none => none

/-- `bit2bitno`: the number of the only bit set, `-1` if there is no such bit. -/
def bit2bitno (b : BitVec 32) : ℤ :=
  match (List.range 32).find? fun i => bit 32 i == b with
  | some i => i
  | none => -1

/-- `port2portsource`. -/
def port2portsource : GpioModule → BitVec 32
  | .gpioA => 0
  | .gpioB => 1
  | .gpioC => 2
  | .gpioD => 3

/-- The NVIC vectors of the EXTI lines. -/
inductive Irqn where
  | exti0
  | exti1
  | exti2
  | exti3
  | exti4
  | exti9_5
  | exti15_10
deriving DecidableEq, Repr

/-- `pin_irq_map`: the mask bit and the vector of each line. -/
structure PinIrqMap where
  pinbit : BitVec 32
  irqno : Irqn
deriving DecidableEq

/-- The table `pin_irq_map`, in the order of the lines. -/
def pinIrqMap : List PinIrqMap :=
  [⟨bit 32 0, .exti0⟩, ⟨bit 32 1, .exti1⟩, ⟨bit 32 2, .exti2⟩, ⟨bit 32 3, .exti3⟩,
    ⟨bit 32 4, .exti4⟩, ⟨bit 32 5, .exti9_5⟩, ⟨bit 32 6, .exti9_5⟩, ⟨bit 32 7, .exti9_5⟩,
    ⟨bit 32 8, .exti9_5⟩, ⟨bit 32 9, .exti9_5⟩, ⟨bit 32 10, .exti15_10⟩,
    ⟨bit 32 11, .exti15_10⟩, ⟨bit 32 12, .exti15_10⟩, ⟨bit 32 13, .exti15_10⟩,
    ⟨bit 32 14, .exti15_10⟩, ⟨bit 32 15, .exti15_10⟩]

/-- The checked read of `pin_irq_map` that `get_pin_irq_map` and the handler table share: the
entry of an index in range. -/
def pinIrqMapAt (irqindex : ℤ) : Option PinIrqMap :=
  if irqindex < 0 ∨ 16 ≤ irqindex then none else pinIrqMap[irqindex.toNat]?

/-- `get_pin_irq_map`. -/
def getPinIrqMap (pinbit : BitVec 32) : Option PinIrqMap :=
  pinIrqMapAt (bit2bitno pinbit)

/-! ### The state -/

/-- `struct rt_pin_irq_hdr`: a slot of the handler table. -/
structure RtPinIrqHdr where
  pin : ℤ
  mode : BitVec 8
  hdr : ℕ
  args : ℕ
deriving DecidableEq

/-- The empty slot `{-1, 0, RT_NULL, RT_NULL}`. -/
def emptySlot : RtPinIrqHdr := ⟨-1, 0, 0, 0⟩

/-- The driver's tables and the registers it drives. -/
structure State where
  /-- `pin_irq_hdr_tab` -/
  pinIrqHdrTab : ℕ → RtPinIrqHdr
  /-- `pin_irq_enable_mask` -/
  pinIrqEnableMask : BitVec 32
  /-- `AFIO->EXTI_CFG` -/
  extiCfg : ℕ → BitVec 32
  /-- `EXTI->IMASK` -/
  imask : BitVec 32
  /-- `EXTI->EMASK` -/
  emask : BitVec 32
  /-- `EXTI->RT_CFG` -/
  rtCfg : BitVec 32
  /-- `EXTI->FT_CFG` -/
  ftCfg : BitVec 32
  /-- `EXTI->PEND` -/
  pend : BitVec 32
  /-- the enable bits of the NVIC -/
  nvic : Irqn → Bool
  /-- `PRIMASK`: interrupts are disabled -/
  primask : Bool

/-- The state after reset. -/
def State.init : State where
  pinIrqHdrTab := fun _ => emptySlot
  pinIrqEnableMask := 0
  extiCfg := fun _ => 0
  imask := 0
  emask := 0
  rtCfg := 0
  ftCfg := 0
  pend := 0
  nvic := fun _ => false
  primask := false

/-! ### The vendor library -/

/-- `GPIO_ConfigEXTILine`. -/
def gpioConfigExtiLine (s : State) (port : BitVec 32) (pinSource : ℕ) : State :=
  let cfg := s.extiCfg (pinSource / 4) &&& ~~~(3#32 <<< (pinSource % 4 * 4))
  let cfg := cfg ||| port <<< (pinSource % 4 * 4)
  { s with extiCfg := Function.update s.extiCfg (pinSource / 4) cfg }

/-- `EXTI_TriggerType`. -/
inductive ExtiTrigger where
  | rising
  | falling
  | risingFalling
deriving DecidableEq, Repr

/-- `EXTI_InitPeripheral` with `EXTI_Mode_Interrupt` and `EXTI_LineCmd` enabled. -/
def extiInitPeripheral (s : State) (line : BitVec 32) (trigger : ExtiTrigger) : State :=
  let s := { s with imask := s.imask &&& ~~~line, emask := s.emask &&& ~~~line }
  let s := { s with imask := s.imask ||| line }
  let s := { s with rtCfg := s.rtCfg &&& ~~~line, ftCfg := s.ftCfg &&& ~~~line }
  match trigger with
  | .risingFalling => { s with rtCfg := s.rtCfg ||| line, ftCfg := s.ftCfg ||| line }
  | .rising => { s with rtCfg := s.rtCfg ||| line }
  | .falling => { s with ftCfg := s.ftCfg ||| line }

/-- `EXTI_ClrITPendBit`: the pending bits are cleared by writing ones to them. -/
def extiClrItPendBit (s : State) (line : BitVec 32) : State :=
  { s with pend := s.pend &&& ~~~line }

/-- `EXTI_GetITStatus`: pending and not masked. -/
def extiGetItStatus (s : State) (line : BitVec 32) : Bool :=
  anySet s.pend line && anySet s.imask line

/-- `NVIC_EnableIRQ`. -/
def nvicEnableIrq (s : State) (irqno : Irqn) : State :=
  { s with nvic := Function.update s.nvic irqno true }

/-- `NVIC_DisableIRQ`. -/
def nvicDisableIrq (s : State) (irqno : Irqn) : State :=
  { s with nvic := Function.update s.nvic irqno false }

/-- `rt_hw_interrupt_disable`, less the level it returns. -/
def rtHwInterruptDisable (s : State) : State := { s with primask := true }

/-- `rt_hw_interrupt_enable`. -/
def rtHwInterruptEnable (s : State) (level : Bool) : State := { s with primask := level }

/-! ### The driver's operations -/

/-- `n32_pin_attach_irq`. -/
def n32PinAttachIrq (s : State) (pin : ℤ) (mode : BitVec 8) (hdr args : ℕ) : State × RtErr :=
  match getPin pin with
  | none => (s, .enosys)
  | some index =>
    let irqindex := bit2bitno index.pin
    if irqindex < 0 ∨ 16 ≤ irqindex then (s, .enosys)
    else
      let i := irqindex.toNat
      let level := s.primask
      let s := rtHwInterruptDisable s
      if (s.pinIrqHdrTab i).pin = pin ∧ (s.pinIrqHdrTab i).hdr = hdr ∧
          (s.pinIrqHdrTab i).mode = mode ∧ (s.pinIrqHdrTab i).args = args then
        (rtHwInterruptEnable s level, .eok)
      else if (s.pinIrqHdrTab i).pin ≠ -1 then (rtHwInterruptEnable s level, .ebusy)
      else
        let s := { s with pinIrqHdrTab := Function.update s.pinIrqHdrTab i ⟨pin, mode, hdr, args⟩ }
        (rtHwInterruptEnable s level, .eok)

/-- `n32_pin_dettach_irq`. -/
def n32PinDettachIrq (s : State) (pin : ℤ) : State × RtErr :=
  match getPin pin with
  | none => (s, .enosys)
  | some index =>
    let irqindex := bit2bitno index.pin
    if irqindex < 0 ∨ 16 ≤ irqindex then (s, .enosys)
    else
      let i := irqindex.toNat
      let level := s.primask
      let s := rtHwInterruptDisable s
      if (s.pinIrqHdrTab i).pin = -1 then (rtHwInterruptEnable s level, .eok)
      else
        let s := { s with pinIrqHdrTab := Function.update s.pinIrqHdrTab i emptySlot }
        (rtHwInterruptEnable s level, .eok)

/-- The `switch` over the slot's mode, `none` for its `default` branch. -/
def triggerOfMode (mode : BitVec 8) : Option ExtiTrigger :=
  if mode = 0 then some .rising
  else if mode = 1 then some .falling
  else if mode = 2 then some .risingFalling
  else none

/-- The branch of `n32_pin_irq_enable` for `PIN_IRQ_ENABLE`. -/
def pinIrqEnable (s : State) (index : PinIndex) : State × RtErr :=
  match pinIrqMapAt (bit2bitno index.pin) with
  | none => (s, .enosys)
  | some irqmap =>
    let i := (bit2bitno index.pin).toNat
    let level := s.primask
    let s := rtHwInterruptDisable s
    if (s.pinIrqHdrTab i).pin = -1 then (rtHwInterruptEnable s level, .enosys)
    else
      match triggerOfMode (s.pinIrqHdrTab i).mode with
      -- this `return` leaves the interrupts disabled
      | none => (s, .error)
      | some trigger =>
        let s := gpioConfigExtiLine s (port2portsource index.gpio) i
        let s := extiInitPeripheral s index.pin trigger
        let s := extiClrItPendBit s index.pin
        let s := nvicEnableIrq s irqmap.irqno
        let s := { s with pinIrqEnableMask := s.pinIrqEnableMask ||| irqmap.pinbit }
        (rtHwInterruptEnable s level, .eok)

/-- `GPIO_PIN_5 | … | GPIO_PIN_9`. -/
def group9_5 : BitVec 32 := bit 32 5 ||| bit 32 6 ||| bit 32 7 ||| bit 32 8 ||| bit 32 9

/-- `GPIO_PIN_10 | … | GPIO_PIN_15`. -/
def group15_10 : BitVec 32 :=
  bit 32 10 ||| bit 32 11 ||| bit 32 12 ||| bit 32 13 ||| bit 32 14 ||| bit 32 15

/-- The branch of `n32_pin_irq_enable` for `PIN_IRQ_DISABLE`. -/
def pinIrqDisable (s : State) (index : PinIndex) : State × RtErr :=
  match getPinIrqMap index.pin with
  | none => (s, .enosys)
  | some irqmap =>
    let level := s.primask
    let s := rtHwInterruptDisable s
    let s := { s with pinIrqEnableMask := s.pinIrqEnableMask &&& ~~~irqmap.pinbit }
    let s :=
      if bit 32 5 ≤ irqmap.pinbit ∧ irqmap.pinbit ≤ bit 32 9 then
        if !anySet s.pinIrqEnableMask group9_5 then nvicDisableIrq s irqmap.irqno else s
      else if bit 32 10 ≤ irqmap.pinbit ∧ irqmap.pinbit ≤ bit 32 15 then
        if !anySet s.pinIrqEnableMask group15_10 then nvicDisableIrq s irqmap.irqno else s
      else nvicDisableIrq s irqmap.irqno
    (rtHwInterruptEnable s level, .eok)

/-- `n32_pin_irq_enable`: `PIN_IRQ_ENABLE` is `1`, `PIN_IRQ_DISABLE` is `0`. -/
def n32PinIrqEnable (s : State) (pin : ℤ) (enabled : BitVec 8) : State × RtErr :=
  match getPin pin with
  | none => (s, .enosys)
  | some index =>
    if enabled = 1 then pinIrqEnable s index
    else if enabled = 0 then pinIrqDisable s index
    else (s, .enosys)

/-- A call into the interrupt part of the driver. -/
inductive Call where
  | attach (pin : ℤ) (mode : BitVec 8) (hdr args : ℕ)
  | dettach (pin : ℤ)
  | irqEnable (pin : ℤ) (enabled : BitVec 8)
deriving DecidableEq

/-- The pin a call names. -/
def Call.pin : Call → ℤ
  | .attach pin _ _ _ => pin
  | .dettach pin => pin
  | .irqEnable pin _ => pin

/-- The state a call leaves and its result. -/
def Call.run (s : State) : Call → State × RtErr
  | .attach pin mode hdr args => n32PinAttachIrq s pin mode hdr args
  | .dettach pin => n32PinDettachIrq s pin
  | .irqEnable pin enabled => n32PinIrqEnable s pin enabled

/-! ### Lines -/

/-- The EXTI line of a pin number, `none` if the pin does not exist. -/
def pinLine (pin : ℤ) : Option ℕ := (getPin pin).map fun index => (bit2bitno index.pin).toNat

/-- The vector of a line. -/
def lineVector (i : ℕ) : Irqn := ((pinIrqMap[i]?).map PinIrqMap.irqno).getD .exti15_10

/-- The port routed to a line. -/
def routedPort (s : State) (i : ℕ) : BitVec 32 := field (s.extiCfg (i / 4)) (i % 4 * 4) 2

end N32L43x.Gpio
