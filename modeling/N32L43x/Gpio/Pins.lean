import N32L43x.Gpio.ErrorAtomic

/-!
The pins themselves: `n32_pin_mode`, `n32_pin_write` and `n32_pin_read` on the registers of the
ports, and the check of a pin number that all six operations of the driver share.  `get_pin` takes a
`uint8_t`, so a number is checked by its low byte while the operations go on with the whole number.
-/

namespace N32L43x.Gpio

open N32L43x.Lib.Bits N32L43x.Lib.Run

/-! ### Registers and their accesses -/

/-- The registers of the ports, and `RCC->APB2PCLKEN`. -/
inductive Reg where
  | apb2pclken
  | pmode (gpio : GpioModule)
  | potype (gpio : GpioModule)
  | sr (gpio : GpioModule)
  | pupd (gpio : GpioModule)
  | pid (gpio : GpioModule)
  | pbsc (gpio : GpioModule)
  | afl (gpio : GpioModule)
  | afh (gpio : GpioModule)
  | pbc (gpio : GpioModule)
  | ds (gpio : GpioModule)
deriving DecidableEq

/-- What the registers hold, and the accesses the processor has made to them, the latest first. -/
structure Bus where
  reg : Reg → BitVec 32
  log : List Reg

namespace Bus

variable (b : Bus) (r : Reg)

/-- A read. -/
def load : BitVec 32 × Bus := (b.reg r, { b with log := r :: b.log })

/-- A write. -/
def store (v : BitVec 32) : Bus := { reg := Function.update b.reg r v, log := r :: b.log }

/-- A read, and a write of what is made of the value. -/
def modify (f : BitVec 32 → BitVec 32) : Bus := (b.load r).2.store r (f (b.load r).1)

@[simp] lemma load_log : (b.load r).2.log = r :: b.log := rfl

@[simp] lemma store_log (v : BitVec 32) : (b.store r v).log = r :: b.log := rfl

@[simp] lemma modify_log (f : BitVec 32 → BitVec 32) : (b.modify r f).log = r :: r :: b.log := rfl

end Bus

/-! ### The vendor library -/

/-- `GPIO_InitType`. -/
structure GpioInitType where
  pin : BitVec 32
  current : BitVec 32
  slewRate : BitVec 32
  pull : BitVec 32
  mode : BitVec 32
  alternate : BitVec 32

/-- `GPIO_InitStruct`: all pins, an input without pull, no alternate function. -/
def gpioInitStruct : GpioInitType where
  pin := 0xFFFF
  current := 0
  slewRate := 0
  pull := 0
  mode := 0
  alternate := 15

/-- The values of `GPIO_ModeType` that select no EXTI line. -/
def gpioModeInput : BitVec 32 := 0x00
def gpioModeOutPP : BitVec 32 := 0x01
def gpioModeOutOD : BitVec 32 := 0x11
def gpioModeAfPP : BitVec 32 := 0x02
def gpioModeAfOD : BitVec 32 := 0x12
def gpioModeAnalog : BitVec 32 := 0x03

/-- `GPIO_Pull_Up` and `GPIO_Pull_Down`. -/
def gpioPullUp : BitVec 32 := 1
def gpioPullDown : BitVec 32 := 2

/-- One turn of the loop of `GPIO_InitPeripheral`, for a position whose pin is selected.  The last
part of the turn sets up the EXTI for the modes that select a line; the driver passes none. -/
def gpioInitPin (gpio : GpioModule) (init : GpioInitType) (b : Bus) (position : ℕ) : Bus :=
  let pinpos := position * 2
  let alternate (v : BitVec 32) :=
    v &&& ~~~(0xF#32 <<< (position % 8 * 4)) ||| init.alternate <<< (position % 8 * 4)
  let two (x v : BitVec 32) := v &&& ~~~(3#32 <<< pinpos) ||| (x &&& 3) <<< pinpos
  let b :=
    if init.mode = gpioModeAfPP ∨ init.mode = gpioModeAfOD ∨ init.mode = gpioModeInput ∨
        init.mode = gpioModeAnalog then
      if 8 ≤ position then b.modify (.afh gpio) alternate else b.modify (.afl gpio) alternate
    else b
  let b := b.modify (.pmode gpio) fun v =>
    v &&& ~~~(3#32 <<< pinpos) ||| (init.mode &&& 0x0F) <<< pinpos
  let b := b.modify (.pupd gpio) (two init.pull)
  let b :=
    if init.mode &&& 3 ≠ 0 ∧ init.mode ≠ gpioModeAnalog then
      b.modify (.ds gpio) (two init.current)
    else b
  let b := b.modify (.sr gpio) fun v =>
    v &&& ~~~bit 32 position ||| (init.slewRate &&& 1) <<< position
  let b :=
    if init.pull = gpioPullDown then b.modify (.pbc gpio) (· ||| bit 32 position)
    else if init.pull = gpioPullUp then b.modify (.pbsc gpio) (· ||| bit 32 position)
    else b
  if init.mode = gpioModeOutPP ∨ init.mode = gpioModeAfPP ∨ init.mode = gpioModeOutOD ∨
      init.mode = gpioModeAfOD then
    b.modify (.potype gpio) fun v =>
      v &&& ~~~bit 32 position ||| ((init.mode &&& 0x10) >>> 4) <<< position
  else b

/-- `GPIO_InitPeripheral`: a turn for each selected pin, from the lowest up. -/
def gpioInitPeripheral (b : Bus) (gpio : GpioModule) (init : GpioInitType) : Bus :=
  ((List.range 16).filter fun position => init.pin.getLsbD position).foldl
    (gpioInitPin gpio init) b

/-- `GPIO_ReadInputDataBit`. -/
def gpioReadInputDataBit (b : Bus) (gpio : GpioModule) (pin : BitVec 32) : ℕ × Bus :=
  let (pid, b) := b.load (.pid gpio)
  (if anySet pid pin then 1 else 0, b)

/-- `GPIO_WriteBit`. -/
def gpioWriteBit (b : Bus) (gpio : GpioModule) (pin : BitVec 32) (bitCmd : BitVec 8) : Bus :=
  if bitCmd ≠ 0 then b.store (.pbsc gpio) pin else b.store (.pbc gpio) pin

/-! ### The driver -/

/-- `n32_pin_write`. -/
def n32PinWrite (b : Bus) (pin : ℤ) (value : BitVec 8) : Bus :=
  match getPin pin with
  | none => b
  | some index => gpioWriteBit b index.gpio index.pin value

/-- `n32_pin_read`: the level, or the error. -/
def n32PinRead (b : Bus) (pin : ℤ) : Except RtErr ℕ × Bus :=
  match getPin pin with
  | none => (.error .einval, b)
  | some index =>
    let (value, b) := gpioReadInputDataBit b index.gpio index.pin
    (.ok value, b)

/-- `n32_gpio_clock_enable`. -/
def n32GpioClockEnable (b : Bus) : GpioModule → Bus
  | .gpioA => b.modify .apb2pclken (· ||| 0x04)
  | .gpioB => b.modify .apb2pclken (· ||| 0x08)
  | .gpioC => b.modify .apb2pclken (· ||| 0x10)
  | .gpioD => b.modify .apb2pclken (· ||| 0x20)

/-- The chain of `n32_pin_mode` over the `PIN_MODE_…` values; any other leaves the defaults. -/
def pinModeInit (init : GpioInitType) (mode : BitVec 8) : GpioInitType :=
  if mode = 0 then { init with mode := gpioModeOutPP }
  else if mode = 1 then { init with pull := 0, mode := gpioModeInput }
  else if mode = 2 then { init with pull := gpioPullUp, mode := gpioModeInput }
  else if mode = 3 then { init with pull := gpioPullDown, mode := gpioModeInput }
  else if mode = 4 then { init with mode := gpioModeOutOD }
  else init

/-- `n32_pin_mode`. -/
def n32PinMode (b : Bus) (pin : ℤ) (mode : BitVec 8) : Bus :=
  match getPin pin with
  | none => b
  | some index =>
    let b := n32GpioClockEnable b index.gpio
    gpioInitPeripheral b index.gpio (pinModeInit { gpioInitStruct with pin := index.pin } mode)

/-- The tables and registers of the whole driver. -/
structure Device where
  drv : State
  bus : Bus

/-- The driver after reset. -/
def Device.init : Device := { drv := State.init, bus := { reg := fun _ => 0, log := [] } }

/-- A call of one of the six operations. -/
inductive PinCall where
  | mode (pin : ℤ) (mode : BitVec 8)
  | write (pin : ℤ) (value : BitVec 8)
  | read (pin : ℤ)
  | irq (c : Call)

namespace PinCall

/-- The pin number a call is given. -/
def pin : PinCall → ℤ
  | .mode pin _ => pin
  | .write pin _ => pin
  | .read pin => pin
  | .irq c => c.pin

/-- The state a call leaves, and its error code if it has a result. -/
def run (d : Device) : PinCall → Device × Option RtErr
  | .mode pin value => ({ d with bus := n32PinMode d.bus pin value }, none)
  | .write pin value => ({ d with bus := n32PinWrite d.bus pin value }, none)
  | .read pin =>
    ({ d with bus := (n32PinRead d.bus pin).2 },
      some (match (n32PinRead d.bus pin).1 with
        | .ok _ => .eok
        | .error e => e))
  | .irq c => ({ d with drv := (c.run d.drv).1 }, some (c.run d.drv).2)

end PinCall

/-- The driver as a system: every call is possible in every state. -/
def deviceStep (d : Device) (c : PinCall) : Option Device := some (c.run d).1

/-! ### The check -/

/-- The pin number is the index of an entry of the table. -/
def PinExists (pin : ℤ) : Prop := ∃ ix ∈ pins, ix.index = pin

/-- No register and no table entry is touched; the interrupt state is not part of them. -/
structure Untouched (d d' : Device) : Prop where
  bus : d'.bus = d.bus
  drv : { d'.drv with primask := d.drv.primask } = d.drv

/-- A call is turned away: it touches nothing, and reports an error if it has a result. -/
def Rejected (d : Device) (c : PinCall) : Prop :=
  Untouched d (c.run d).1 ∧ (c.run d).2 ≠ some .eok

/-- The law of the check: a call whose pin does not exist is turned away. -/
def Checked (d : Device) (c : PinCall) : Prop := PinExists c.pin ∨ Rejected d c

/-- A number that is no pin and whose low byte is one. -/
def Aliased (pin : ℤ) : Prop := ¬(0 ≤ pin ∧ pin < 64) ∧ pin % 256 < 64

/-- The calls on an aliased number that are carried out for the pin of its low byte: all but those
that the slot of the pin stops. -/
def CarriedOut (d : Device) : PinCall → Prop
  | .irq (.attach pin mode hdr args) => ∃ i ∈ pinLine pin,
    (d.drv.pinIrqHdrTab i).pin = -1 ∨ d.drv.pinIrqHdrTab i = ⟨pin, mode, hdr, args⟩
  | .irq (.irqEnable pin enabled) => enabled = 0 ∨ enabled = 1 ∧ ∃ i ∈ pinLine pin,
    (d.drv.pinIrqHdrTab i).pin ≠ -1 ∧ triggerOfMode (d.drv.pinIrqHdrTab i).mode ≠ none
  | _ => True

/-- The taken slots hold pins that exist, of the line the slot is for. -/
def SlotsValid (d : Device) : Prop :=
  ∀ i < 16, (d.drv.pinIrqHdrTab i).pin ≠ -1 →
    ∃ ix ∈ pins, ix.index = (d.drv.pinIrqHdrTab i).pin ∧ ix.pin = bit 32 i

/-- The call that stores a number that is no pin: an aliased number is attached to a free slot. -/
def StoresAlias (d : Device) : PinCall → Prop
  | .irq (.attach pin _ _ _) => Aliased pin ∧ ∃ i ∈ pinLine pin, (d.drv.pinIrqHdrTab i).pin = -1
  | _ => False

end N32L43x.Gpio
