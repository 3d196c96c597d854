import Mathlib.Data.BitVec
import N32L43x.Lib.Bits
import N32L43x.RtErr

/-!
Opening and closing a serial device: `rt_device_open` and `rt_device_close` of
`components/drivers/core/device.c`, and under them `rt_serial_open` and `rt_serial_close` of
`components/drivers/serial/dev_serial.c` with the `control` of `drivers/drv_usart.c`.
-/

namespace N32L43x.Serial.Device

open N32L43x.Lib.Bits

/-! ### The flags -/

def rtDeviceFlagStandalone : BitVec 16 := 0x008#16
def rtDeviceFlagActivated : BitVec 16 := 0x010#16
def rtDeviceFlagStream : BitVec 16 := 0x040#16
def rtDeviceFlagIntRx : BitVec 16 := 0x100#16
def rtDeviceFlagDmaRx : BitVec 16 := 0x200#16
def rtDeviceFlagIntTx : BitVec 16 := 0x400#16
def rtDeviceFlagDmaTx : BitVec 16 := 0x800#16
def rtDeviceOflagClose : BitVec 16 := 0x000#16
def rtDeviceOflagOpen : BitVec 16 := 0x008#16
def rtDeviceOflagMask : BitVec 16 := 0xf0f#16

/-- The modes of the receiver. -/
def rxModes : BitVec 16 := rtDeviceFlagIntRx ||| rtDeviceFlagDmaRx

/-- The modes of the transmitter. -/
def txModes : BitVec 16 := rtDeviceFlagIntTx ||| rtDeviceFlagDmaTx

/-! ### The device -/

/-- What `serial_tx` points to. -/
inductive TxObject
  /-- `struct rt_serial_tx_fifo` -/
  | fifo (addr : ℕ)
  /-- `struct rt_serial_tx_dma` and the array of its data queue -/
  | dma (addr queue : ℕ)
deriving DecidableEq

/-- `struct rt_serial_device`, the heap and the interrupt.  Objects are numbered as they are allocated. -/
structure SerialDevice where
  flag : BitVec 16
  openFlag : BitVec 16
  refCount : BitVec 8
  /-- a `struct rt_serial_rx_fifo` or `struct rt_serial_rx_dma` -/
  serialRx : Option ℕ
  serialTx : Option TxObject
  allocated : ℕ
  freed : List ℕ
  /-- the receive interrupt is enabled, in the NVIC and in the peripheral -/
  rxIrq : Bool
  /-- memory was used as an object that it does not hold -/
  fault : Bool
deriving DecidableEq

/-- `rt_hw_serial_register` of a device that was not used before. -/
def rtHwSerialRegister (flag : BitVec 16) : SerialDevice where
  flag := flag
  openFlag := 0#16
  refCount := 0#8
  serialRx := none
  serialTx := none
  allocated := 0
  freed := []
  rxIrq := false
  fault := false

/-- The commands of `serial->ops->control`. -/
inductive Cmd
  | config
  | close
  | setInt
  | clrInt

/-- `n32_control`: the flag that goes with the command is not looked at. -/
def n32Control (rxIrq : Bool) : Cmd → Bool
  | .clrInt => false
  | .setInt => true
  | _ => rxIrq

def SerialDevice.control (s : SerialDevice) (cmd : Cmd) : SerialDevice :=
  { s with rxIrq := n32Control s.rxIrq cmd }

/-- `rt_free`. -/
def SerialDevice.rtFree (s : SerialDevice) (addr : ℕ) : SerialDevice := { s with freed := addr :: s.freed }

/-! ### The serial driver -/

/-- `rt_serial_init`; `result` is what `configure` returns. -/
def rtSerialInit (s : SerialDevice) (result : RtErr) : SerialDevice × RtErr :=
  ({ s with serialRx := none, serialTx := none }, result)

/-- The receiver in `rt_serial_open`. -/
def openRx (s : SerialDevice) (oflag : BitVec 16) : SerialDevice :=
  match s.serialRx with
  | none =>
    if anySet oflag rtDeviceFlagIntRx then
      { s with
        serialRx := some s.allocated
        allocated := s.allocated + 1
        openFlag := s.openFlag ||| rtDeviceFlagIntRx }.control .setInt
    else if anySet oflag rtDeviceFlagDmaRx then
      { s with
        serialRx := some s.allocated
        allocated := s.allocated + 1
        openFlag := s.openFlag ||| rtDeviceFlagDmaRx }.control .config
    else s
  | some _ =>
    if anySet oflag rtDeviceFlagIntRx then { s with openFlag := s.openFlag ||| rtDeviceFlagIntRx }
    else if anySet oflag rtDeviceFlagDmaRx then { s with openFlag := s.openFlag ||| rtDeviceFlagDmaRx }
    else s

/-- The transmitter in `rt_serial_open`. -/
def openTx (s : SerialDevice) (oflag : BitVec 16) : SerialDevice :=
  match s.serialTx with
  | none =>
    if anySet oflag rtDeviceFlagIntTx then
      { s with
        serialTx := some (.fifo s.allocated)
        allocated := s.allocated + 1
        openFlag := s.openFlag ||| rtDeviceFlagIntTx }.control .setInt
    else if anySet oflag rtDeviceFlagDmaTx then
      { s with
        serialTx := some (.dma s.allocated (s.allocated + 1))
        allocated := s.allocated + 2
        openFlag := s.openFlag ||| rtDeviceFlagDmaTx }.control .config
    else s
  | some _ =>
    if anySet oflag rtDeviceFlagIntTx then { s with openFlag := s.openFlag ||| rtDeviceFlagIntTx }
    else if anySet oflag rtDeviceFlagDmaTx then { s with openFlag := s.openFlag ||| rtDeviceFlagDmaTx }
    else s

/-- The device has the modes of `oflag`. -/
def supports (flag oflag : BitVec 16) : Bool :=
  !(anySet oflag rtDeviceFlagDmaRx && !anySet flag rtDeviceFlagDmaRx) &&
  !(anySet oflag rtDeviceFlagDmaTx && !anySet flag rtDeviceFlagDmaTx) &&
  !(anySet oflag rtDeviceFlagIntRx && !anySet flag rtDeviceFlagIntRx) &&
  !(anySet oflag rtDeviceFlagIntTx && !anySet flag rtDeviceFlagIntTx)

/-- `rt_serial_open`. -/
def rtSerialOpen (s : SerialDevice) (oflag : BitVec 16) : SerialDevice × RtErr :=
  if !supports s.flag oflag then (s, .eio)
  else
    let streamFlag := if anySet oflag rtDeviceFlagStream || anySet s.openFlag rtDeviceFlagStream then
      rtDeviceFlagStream else 0#16
    let s := { s with openFlag := oflag &&& 0xff#16 }
    let s := openTx (openRx s oflag) oflag
    ({ s with openFlag := s.openFlag ||| streamFlag }, .eok)

/-- `rt_free` of what `serial_rx` points to. -/
def freeRx (s : SerialDevice) : SerialDevice :=
  match s.serialRx with
  | none => s
  | some addr => s.rtFree addr

/-- The receiver in `rt_serial_close`. -/
def closeRx (s : SerialDevice) : SerialDevice :=
  if anySet s.openFlag rtDeviceFlagIntRx then
    let s := s.control .clrInt
    let s := { s with openFlag := s.openFlag &&& ~~~rtDeviceFlagIntRx }
    { freeRx s with serialRx := none }
  else if anySet s.openFlag rtDeviceFlagDmaRx then
    let s := s.control .clrInt
    let s := { s with openFlag := s.openFlag &&& ~~~rtDeviceFlagDmaRx }
    { freeRx s with serialRx := none }
  else s

/-- `rt_free` of what `serial_tx` points to. -/
def freeTx (s : SerialDevice) : SerialDevice :=
  match s.serialTx with
  | none => s
  | some (.fifo addr) => s.rtFree addr
  | some (.dma addr _) => s.rtFree addr

/-- `rt_data_queue_deinit` of the data queue in what `serial_tx` points to, and `rt_free` of that. -/
def deinitTx (s : SerialDevice) : SerialDevice :=
  match s.serialTx with
  | none => { s with fault := true }
  | some (.fifo _) => { s with fault := true }
  | some (.dma addr queue) => (s.rtFree queue).rtFree addr

/-- The transmitter in `rt_serial_close`. -/
def closeTx (s : SerialDevice) : SerialDevice :=
  if anySet s.openFlag rtDeviceFlagIntTx then
    let s := s.control .clrInt
    let s := { s with openFlag := s.openFlag &&& ~~~rtDeviceFlagIntTx }
    { freeTx s with serialTx := none }
  else if anySet s.openFlag rtDeviceFlagDmaTx then
    let s := s.control .clrInt
    let s := { s with openFlag := s.openFlag &&& ~~~rtDeviceFlagDmaTx }
    { deinitTx s with serialTx := none }
  else s

/-- `rt_serial_close`. -/
def rtSerialClose (s : SerialDevice) : SerialDevice × RtErr :=
  if 1#8 < s.refCount then (s, .eok)
  else
    let s := (closeTx (closeRx s)).control .close
    ({ s with flag := s.flag &&& ~~~rtDeviceFlagActivated }, .eok)

/-! ### The device -/

/-- A stand alone device that is open. -/
def isBusy (s : SerialDevice) : Bool :=
  anySet s.flag rtDeviceFlagStandalone && anySet s.openFlag rtDeviceOflagOpen

/-- The device is not open, or it is open with other flags. -/
def callsOpen (s : SerialDevice) (oflag : BitVec 16) : Bool :=
  !anySet s.openFlag rtDeviceOflagOpen ||
    s.openFlag &&& rtDeviceOflagMask != (oflag &&& rtDeviceOflagMask ||| rtDeviceOflagOpen)

/-- `rt_device_open` of a device that is initialized. -/
def openActivated (s : SerialDevice) (oflag : BitVec 16) : SerialDevice × RtErr :=
  if isBusy s then (s, .ebusy)
  else
    let (s, result) := if callsOpen s oflag then rtSerialOpen s oflag else (s, .eok)
    if result = .eok ∨ result = .enosys then
      ({ s with openFlag := s.openFlag ||| rtDeviceOflagOpen, refCount := s.refCount + 1#8 }, result)
    else (s, result)

/-- `rt_device_open`; `configured` is what `configure` returns if the device is initialized. -/
def rtDeviceOpen (s : SerialDevice) (oflag : BitVec 16) (configured : RtErr) : SerialDevice × RtErr :=
  if anySet s.flag rtDeviceFlagActivated then openActivated s oflag
  else
    let (s, result) := rtSerialInit s configured
    if result ≠ .eok then (s, result)
    else openActivated { s with flag := s.flag ||| rtDeviceFlagActivated } oflag

/-- `rt_device_close`. -/
def rtDeviceClose (s : SerialDevice) : SerialDevice × RtErr :=
  if s.refCount = 0#8 then (s, .error)
  else
    let s := { s with refCount := s.refCount - 1#8 }
    if s.refCount ≠ 0#8 then (s, .eok)
    else
      let (s, result) := rtSerialClose s
      if result = .eok ∨ result = .enosys then ({ s with openFlag := rtDeviceOflagClose }, result)
      else (s, result)

inductive Action
  | openDevice (oflag : BitVec 16) (configured : RtErr)
  | closeDevice
deriving DecidableEq

def step (s : SerialDevice) : Action → Option SerialDevice
  | .openDevice oflag configured => some (rtDeviceOpen s oflag configured).1
  | .closeDevice => some (rtDeviceClose s).1

end N32L43x.Serial.Device
