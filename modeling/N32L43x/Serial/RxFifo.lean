import Mathlib.Data.BitVec
import N32L43x.Lib.Ring

/-!
The receive FIFO of `components/drivers/serial/dev_serial.c` in interrupt mode: `rt_hw_serial_isr` for
`RT_SERIAL_EVENT_RX_IND`, `_serial_int_rx`, and `n32_getc` of `drv_usart.c`.  The interrupt may come
between any two bytes that a reader takes.
-/

namespace N32L43x.Serial

open N32L43x.Lib

abbrev Byte := BitVec 8

/-- `struct rt_serial_rx_fifo`. -/
structure RtSerialRxFifo where
  buffer : ℕ → Byte
  putIndex : ℕ
  getIndex : ℕ
  isFull : Bool

/-- What `rt_serial_open` makes of the memory it allocates. -/
def rxFifoInit : RtSerialRxFifo := ⟨fun _ => 0, 0, 0, false⟩

/-- An index of 16 bits goes on by one, and round the end of the buffer. -/
def nextIndex (bufsz index : ℕ) : ℕ :=
  let index := (index + 1) % 0x10000
  if index ≥ bufsz then 0 else index

/-- `USART_ReceiveData`. -/
def usartReceiveData (dat : BitVec 16) : BitVec 16 := dat &&& 0x01FF

/-- The byte that is stored of a character. -/
def received (dat : BitVec 16) : Byte := (usartReceiveData dat).setWidth 8

/-- One pass of the loop of `rt_hw_serial_isr`, the part under the lock. -/
def store (bufsz : ℕ) (fifo : RtSerialRxFifo) (ch : Byte) : RtSerialRxFifo :=
  let fifo := { fifo with
    buffer := Function.update fifo.buffer fifo.putIndex ch
    putIndex := nextIndex bufsz fifo.putIndex }
  -- if the next position is the read index, discard this read char
  if fifo.putIndex = fifo.getIndex then
    { fifo with getIndex := nextIndex bufsz fifo.getIndex, isFull := true }
  else fifo

/-- The loop of `rt_hw_serial_isr`.  `n32_getc` delivers the data register as long as `RXDNE` is set,
and -1 after that. -/
def isrLoop (bufsz : ℕ) (fifo : RtSerialRxFifo) : List (BitVec 16) → RtSerialRxFifo
  | [] => fifo
  | dat :: dats => isrLoop bufsz (store bufsz fifo (received dat)) dats

/-- `rt_hw_serial_isr` for `RT_SERIAL_EVENT_RX_IND`, and the length it gives to `rx_indicate`. -/
def rtHwSerialIsr (bufsz : ℕ) (fifo : RtSerialRxFifo) (dats : List (BitVec 16)) :
    RtSerialRxFifo × Option ℕ :=
  let fifo := isrLoop bufsz fifo dats
  let rxLength :=
    if fifo.putIndex ≥ fifo.getIndex then fifo.putIndex - fifo.getIndex
    else bufsz - (fifo.getIndex - fifo.putIndex)
  (fifo, if rxLength = 0 then none else some rxLength)

/-- One pass of the loop of `_serial_int_rx`, the part under the lock: `none` when there is no data. -/
def serialIntRx (bufsz : ℕ) (fifo : RtSerialRxFifo) : Option (RtSerialRxFifo × Byte) :=
  if fifo.getIndex = fifo.putIndex ∧ fifo.isFull = false then none
  else
    some ({ fifo with getIndex := nextIndex bufsz fifo.getIndex, isFull := false },
      fifo.buffer fifo.getIndex)

/-- `_serial_fifo_calc_recved_len`. -/
def serialFifoCalcRecvedLen (bufsz : ℕ) (fifo : RtSerialRxFifo) : ℕ :=
  if fifo.putIndex = fifo.getIndex then if fifo.isFull = false then 0 else bufsz
  else if fifo.putIndex > fifo.getIndex then fifo.putIndex - fifo.getIndex
  else bufsz - (fifo.getIndex - fifo.putIndex)

/-- The bytes in the buffer that no reader has taken. -/
def unread (bufsz : ℕ) (fifo : RtSerialRxFifo) : List Byte :=
  Ring.contents fifo.buffer bufsz fifo.getIndex (serialFifoCalcRecvedLen bufsz fifo)

/-! ### Interrupts and readers -/

/-- A call of `_serial_int_rx`: the bytes stored so far, and the length still to be read. -/
structure Call where
  data : List Byte
  length : ℕ

structure System (Rd : Type*) where
  fifo : RtSerialRxFifo
  call : Rd → Option Call

inductive Action (Rd : Type*)
  /-- The interrupt, with what the UART delivers. -/
  | interrupt (dats : List (BitVec 16))
  /-- A thread calls `_serial_int_rx`. -/
  | read (rd : Rd) (length : ℕ)
  /-- Its loop goes on. -/
  | next (rd : Rd)

inductive Event (Rd : Type*)
  | received (bytes : List Byte)
  | taken (rd : Rd) (ch : Byte)
  | returned (rd : Rd) (data : List Byte)

variable {Rd : Type*} [DecidableEq Rd]

/-- What the loop of a call does next: it takes a byte, or the call returns. -/
def next (bufsz : ℕ) (fifo : RtSerialRxFifo) (call : Call) :
    RtSerialRxFifo × Option (Byte × Call) :=
  match call.length with
  | 0 => (fifo, none)
  | length + 1 =>
    match serialIntRx bufsz fifo with
    | none => (fifo, none)
    | some (fifo, ch) => (fifo, some (ch, ⟨call.data ++ [ch], length⟩))

def step (bufsz : ℕ) (s : System Rd) : Action Rd → Option (System Rd)
  | .interrupt dats => some { s with fifo := (rtHwSerialIsr bufsz s.fifo dats).1 }
  | .read rd length =>
    match s.call rd with
    | none => some { s with call := Function.update s.call rd (some ⟨[], length⟩) }
    | some _ => none
  | .next rd =>
    match s.call rd with
    | none => none
    | some call =>
      let (fifo, res) := next bufsz s.fifo call
      some ⟨fifo, Function.update s.call rd (res.map Prod.snd)⟩

/-- What is seen of a step. -/
def label (bufsz : ℕ) (s : System Rd) (a : Action Rd) (_ : System Rd) : List (Event Rd) :=
  match a with
  | .interrupt dats => [.received (dats.map Serial.received)]
  | .read _ _ => []
  | .next rd =>
    match s.call rd with
    | none => []
    | some call =>
      match (next bufsz s.fifo call).2 with
      | none => [.returned rd call.data]
      | some (ch, _) => [.taken rd ch]

/-! ### The specification

A queue that keeps the last `capacity` bytes, what has become of the bytes that left it, and what each
reader was given since its last call returned. -/

/-- How many bytes the FIFO keeps. -/
def capacity (bufsz : ℕ) : ℕ := max (bufsz - 1) 1

inductive Fate
  | returned
  | dropped
deriving DecidableEq

structure Queue (Rd : Type*) where
  past : List (Fate × Byte)
  unread : List Byte
  given : Rd → List Byte

def specStep (capacity : ℕ) (q : Queue Rd) : Event Rd → Option (Queue Rd)
  | .received bytes =>
    let all := q.unread ++ bytes
    let excess := all.length - capacity
    some { q with
      past := q.past ++ (all.take excess).map fun ch => (.dropped, ch)
      unread := all.drop excess }
  | .taken rd ch =>
    match q.unread with
    | [] => none
    | oldest :: rest =>
      if ch = oldest then
        some ⟨q.past ++ [(.returned, ch)], rest, Function.update q.given rd (q.given rd ++ [ch])⟩
      else none
  | .returned rd data =>
    if data = q.given rd then some { q with given := Function.update q.given rd [] } else none

end N32L43x.Serial
