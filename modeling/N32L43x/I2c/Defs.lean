import Mathlib.Data.BitVec
import Mathlib.Data.List.Basic

/-!
The transfers of the hardware I2C driver: `rt_i2c_read`, `rt_i2c_write` and `rt_i2c_xfer`.  A run is
given by the answers to the flag readings the code makes, in their order, and leaves the commands it
issued.  A run whose readings are used up is still polling.
-/

namespace N32L43x.I2c

/-! ### Readings and commands -/

/-- One reading of a flag or an event, and the data register at that moment. -/
structure Reading where
  set : Bool
  dat : BitVec 8

/-- What the code asks of the peripheral. -/
inductive Command where
  /-- `I2C_ConfigAck` -/
  | ack (enable : Bool)
  /-- `I2C_GenerateStart` -/
  | start
  /-- `I2C_SendAddr7bit`, with the byte it sends -/
  | addr (byte : BitVec 8)
  /-- `I2C_SendData` -/
  | send (byte : BitVec 8)
  /-- `I2C_RecvData`, with the byte it reads -/
  | recv (byte : BitVec 8)
  /-- `I2C_GenerateStop` -/
  | stop
  /-- `I2C_ConfigNackLocation(I2C_NACK_POS_CURRENT)` -/
  | nackPosCurrent
deriving DecidableEq

/-- How a piece of code ends: it goes on with a value, or the function returns a code. -/
inductive Outcome (α : Type) where
  | done (a : α)
  | failed (code : ℕ)

/-- A piece of code: from the readings to come to its end, the commands it issued and the readings
left; `none` if the readings do not suffice. -/
def I2cM (α : Type) := List Reading → Option (Outcome α × List Command × List Reading)

instance : Monad I2cM where
  pure a := fun rs => some (.done a, [], rs)
  bind x f := fun rs =>
    match x rs with
    | none => none
    | some (.failed code, cs, rs) => some (.failed code, cs, rs)
    | some (.done a, cs, rs) =>
      match f a rs with
      | none => none
      | some (o, cs', rs) => some (o, cs ++ cs', rs)

def emit (c : Command) : I2cM Unit := fun rs => some (.done (), [c], rs)

/-! ### Waits -/

/-- `I2CT_LONG_TIMEOUT`. -/
def longTimeout : ℕ := 0xA000

/-- `while (reading == cond) { if ((I2CTimeout--) == 0) return …; }`: the rest of `I2CTimeout` and
of the readings, or no timeout left. -/
def waitLoop (cond : Bool) : ℕ → List Reading → Option (Option ℕ × List Reading)
  | _, [] => none
  | timeout, r :: rs =>
    if r.set = cond then
      match timeout with
      | 0 => some (none, rs)
      | timeout + 1 => waitLoop cond timeout rs
    else some (some timeout, rs)

/-- A wait with the code that the function returns on a timeout. -/
def waitWhile (cond : Bool) (timeout code : ℕ) : I2cM ℕ := fun rs =>
  match waitLoop cond timeout rs with
  | none => none
  | some (none, rs) => some (.failed code, [], rs)
  | some (some timeout, rs) => some (.done timeout, [], rs)

/-! ### The driver -/

/-- `struct rt_i2c_msg`. -/
structure RtI2cMsg where
  addr : BitVec 16
  flags : BitVec 16
  len : BitVec 16
  /-- the bytes from the pointer on -/
  buf : ℕ → BitVec 8

/-- `msg->flags & RT_I2C_RD`. -/
def RtI2cMsg.isRead (msg : RtI2cMsg) : Bool := msg.flags &&& 1#16 != 0#16

/-- The bytes that are sent. -/
def RtI2cMsg.bytes (msg : RtI2cMsg) : List (BitVec 8) := (List.range msg.len.toNat).map msg.buf

/-- The address byte of `I2C_SendAddr7bit`: bit 0 is the direction. -/
def addrByte (slaveAddress : BitVec 16) (recv : Bool) : BitVec 8 :=
  if recv then slaveAddress.setWidth 8 ||| 1#8 else slaveAddress.setWidth 8 &&& 0xFE#8

/-- The data loop of `rt_i2c_read`, which polls `RXDATNE` without a timeout. -/
def recvLoop : ℕ → I2cM Unit
  | 0, rs => some (.done (), [], rs)
  | _ + 1, [] => none
  | n + 1, r :: rs =>
    if r.set then
      match recvLoop n rs with
      | none => none
      | some (o, cs, rs) =>
        let last := if n = 1 then [.ack false, .stop] else []
        some (o, .recv r.dat :: (last ++ cs), rs)
    else recvLoop (n + 1) rs

/-- `rt_i2c_read`; the buffer gets the bytes of its `recv` commands. -/
def rtI2cRead (slaveAddress : BitVec 16) (dataByte : ℕ) : I2cM Unit := do
  let _ ← waitWhile true longTimeout 9
  emit (.ack true)
  emit .start
  let _ ← waitWhile false longTimeout 10
  emit (.addr (addrByte slaveAddress true))
  let timeout ← waitWhile false longTimeout 6
  recvLoop dataByte
  -- `I2CTimeout` is not set again for the last wait
  let _ ← waitWhile true timeout 7
  emit (.ack true)
  emit .nackPosCurrent

/-- The data loop of `rt_i2c_write`. -/
def sendLoop : List (BitVec 8) → I2cM Unit
  | [] => pure ()
  | b :: bs => do
    emit (.send b)
    let _ ← waitWhile false longTimeout 7
    sendLoop bs

/-- `rt_i2c_write`. -/
def rtI2cWrite (slaveAddress : BitVec 16) (bytes : List (BitVec 8)) : I2cM Unit := do
  let _ ← waitWhile true longTimeout 4
  emit (.ack true)
  emit .start
  let _ ← waitWhile false longTimeout 5
  emit (.addr (addrByte slaveAddress false))
  let _ ← waitWhile false longTimeout 6
  sendLoop bytes
  let _ ← waitWhile false longTimeout 8
  emit .stop

/-- The transfer of one message. -/
def rtI2cMsg (msg : RtI2cMsg) : I2cM Unit :=
  if msg.isRead then rtI2cRead msg.addr msg.len.toNat else rtI2cWrite msg.addr msg.bytes

/-- The code a function returns. -/
def Outcome.code : Outcome Unit → ℕ
  | .done () => 0
  | .failed code => code

/-- A message that was transferred, with the code and the commands. -/
structure Call where
  msg : RtI2cMsg
  code : ℕ
  commands : List Command

/-- `rt_i2c_xfer`: the calls it made, and the number of messages or `-RT_ERROR`. -/
def rtI2cXfer (msgs : List RtI2cMsg) (rs : List Reading) : Option (List Call × ℤ) :=
  let rec loop : ℕ → List RtI2cMsg → List Reading → Option (List Call × ℤ)
    | i, [], _ => some ([], i)
    | i, msg :: msgs, rs =>
      match rtI2cMsg msg rs with
      | none => none
      | some (o, cs, rs) =>
        -- the exit logs "send stop condition" and issues no command
        if o.code ≠ 0 then some ([⟨msg, o.code, cs⟩], -1)
        else
          match loop (i + 1) msgs rs with
          | none => none
          | some (calls, ret) => some (⟨msg, o.code, cs⟩ :: calls, ret)
  loop 0 msgs rs

end N32L43x.I2c
