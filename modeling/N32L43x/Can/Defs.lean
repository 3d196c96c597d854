import N32L43x.Lib.Bits
import N32L43x.RtErr
import Mathlib.Logic.Function.Basic

/-!
The registers of the CAN controller and the part of the driver that moves messages between
`struct rt_can_msg` and the mailboxes.  `RT_ASSERT` and `assert_param` are compiled out in this
configuration, so neither appears here.
-/

namespace N32L43x.Can

open N32L43x.Lib.Bits

/-! ### Registers -/

/-- A mailbox, of either direction: `TMI`, `TMDT`, `TMDL`, `TMDH` of a transmit mailbox and `RMI`,
`RMDT`, `RMDL`, `RMDH` of a receive FIFO. -/
structure MailBox where
  mi : BitVec 32
  mdt : BitVec 32
  mdl : BitVec 32
  mdh : BitVec 32
deriving DecidableEq

/-- `sFilterRegister`: the two words of a filter bank. -/
structure FilterRegister where
  fr1 : BitVec 32
  fr2 : BitVec 32
deriving DecidableEq

/-- The registers of `CAN_Module` that the driver uses. -/
structure CanModule where
  msts : BitVec 32
  tsts : BitVec 32
  rff0 : BitVec 32
  rff1 : BitVec 32
  inte : BitVec 32
  ests : BitVec 32
  sTxMailBox : ℕ → MailBox
  sFifoMailBox : ℕ → MailBox
  /-- filter mode, one bit a bank: set for list mode -/
  fm1 : BitVec 32
  /-- filter scale: set for one 32-bit filter -/
  fs1 : BitVec 32
  /-- FIFO assignment: set for FIFO 1 -/
  ffa1 : BitVec 32
  /-- filter activation -/
  fa1 : BitVec 32
  sFilterRegister : ℕ → FilterRegister

/-! ### Messages -/

/-- `struct rt_can_msg`, with its bit fields. -/
structure RtCanMsg where
  id : BitVec 29
  ide : BitVec 1
  rtr : BitVec 1
  len : BitVec 8
  hdrIndex : BitVec 8
  data : Fin 8 → BitVec 8

/-- Four bytes in a data register, the first in the lowest bits. -/
def packBytes (b0 b1 b2 b3 : BitVec 8) : BitVec 32 :=
  b3.setWidth 32 <<< 24 ||| b2.setWidth 32 <<< 16 ||| b1.setWidth 32 <<< 8 ||| b0.setWidth 32

/-- `TMIDxR_TXRQ`: the transmission request of a mailbox. -/
def txrq : BitVec 32 := 1#32

/-- The identifier word `can_sendmsg_rtmsg` puts into `TMI`. -/
def txIdWord (msg : RtCanMsg) : BitVec 32 :=
  let rtr := if msg.rtr = 0#1 then 0#32 else 2#32
  if msg.ide = 0#1 then msg.id.setWidth 32 <<< 21 ||| rtr
  else msg.id.setWidth 32 <<< 3 ||| 4#32 ||| rtr

/-- The writes of `can_sendmsg_rtmsg` to a mailbox, in their order. -/
def writeMailBox (box : MailBox) (msg : RtCanMsg) : MailBox :=
  let box := { box with mi := box.mi &&& txrq }
  let box := { box with mi := box.mi ||| txIdWord msg }
  let dlc := (msg.len &&& 0x0F#8).setWidth 32
  let box := { box with mdt := box.mdt &&& 0xFFFFFFF0#32 }
  let box := { box with mdt := box.mdt ||| dlc }
  let box := { box with mdh := packBytes (msg.data 4) (msg.data 5) (msg.data 6) (msg.data 7) }
  let box := { box with mdl := packBytes (msg.data 0) (msg.data 1) (msg.data 2) (msg.data 3) }
  { box with mi := box.mi ||| txrq }

/-- `CAN_TxSTS_NoMailBox`. -/
def canTxStsNoMailBox : ℕ := 4

/-- `can_sendmsg_rtmsg`. -/
def canSendmsgRtmsg (can : CanModule) (msg : RtCanMsg) (mailboxIndex : ℕ) : CanModule × RtErr :=
  if mailboxIndex ≠ canTxStsNoMailBox then
    let box := writeMailBox (can.sTxMailBox mailboxIndex) msg
    ({ can with sTxMailBox := Function.update can.sTxMailBox mailboxIndex box }, .eok)
  else (can, .error)

/-- The message `can_recvmsg_rtmsg` reads from a FIFO mailbox. -/
def readMailBox (box : MailBox) : RtCanMsg :=
  let ide := (4#32 &&& box.mi).setWidth 8
  let rtr := (2#32 &&& box.mi).setWidth 8
  let dlc := (0x0F#32 &&& box.mdt).setWidth 8
  let fmi := (0xFF#32 &&& box.mdt >>> 8).setWidth 8
  { id := if ide = 0#8 then (0x7FF#32 &&& box.mi >>> 21).setWidth 29
      else (0x1FFFFFFF#32 &&& box.mi >>> 3).setWidth 29
    ide := if ide = 0#8 then 0#1 else 1#1
    rtr := if rtr = 0#8 then 0#1 else 1#1
    len := dlc
    -- the sum is made in `int`
    hdrIndex := ((fmi.setWidth 32 + 1#32) >>> 1).setWidth 8
    data := fun
      | 0 => (0xFF#32 &&& box.mdl).setWidth 8
      | 1 => (0xFF#32 &&& box.mdl >>> 8).setWidth 8
      | 2 => (0xFF#32 &&& box.mdl >>> 16).setWidth 8
      | 3 => (0xFF#32 &&& box.mdl >>> 24).setWidth 8
      | 4 => (0xFF#32 &&& box.mdh).setWidth 8
      | 5 => (0xFF#32 &&& box.mdh >>> 8).setWidth 8
      | 6 => (0xFF#32 &&& box.mdh >>> 16).setWidth 8
      | 7 => (0xFF#32 &&& box.mdh >>> 24).setWidth 8 }

/-- `can_recvmsg_rtmsg`: the message, and the FIFO released; `none` for an empty FIFO. -/
def canRecvmsgRtmsg (can : CanModule) (fifoNum : ℕ) : CanModule × Option RtCanMsg :=
  if fifoNum = 0 then
    if can.rff0 &&& 3#32 = 0#32 then (can, none)
    else ({ can with rff0 := can.rff0 ||| 0x20#32 }, some (readMailBox (can.sFifoMailBox fifoNum)))
  else
    if can.rff1 &&& 3#32 = 0#32 then (can, none)
    else ({ can with rff1 := can.rff1 ||| 0x20#32 }, some (readMailBox (can.sFifoMailBox fifoNum)))

end N32L43x.Can
