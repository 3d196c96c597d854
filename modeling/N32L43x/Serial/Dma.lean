import N32L43x.Lib.Run
import N32L43x.Serial.RxFifo

/-!
The receive FIFO of `components/drivers/serial/dev_serial.c` in DMA mode.  The DMA writes round the buffer
by itself, and the driver is told afterwards how much it wrote.
-/

namespace N32L43x.Serial

open N32L43x.Lib N32L43x.Lib.Run

/-- `rt_dma_recv_update_get_index`. -/
def rtDmaRecvUpdateGetIndex (bufsz : ℕ) (fifo : RtSerialRxFifo) (len : ℕ) : RtSerialRxFifo :=
  let isFull := if fifo.isFull = true ∧ len ≠ 0 then false else fifo.isFull
  let getIndex := (fifo.getIndex + len % 0x10000) % 0x10000
  { fifo with
    isFull := isFull
    getIndex := if getIndex ≥ bufsz then getIndex % bufsz else getIndex }

/-- `rt_dma_recv_update_put_index` as far as the put index and the full flag. -/
def advancePutIndex (bufsz : ℕ) (fifo : RtSerialRxFifo) (len : ℕ) : RtSerialRxFifo :=
  let putIndex := (fifo.putIndex + len % 0x10000) % 0x10000
  if fifo.getIndex ≤ fifo.putIndex then
    -- beyond the fifo end
    if putIndex ≥ bufsz then
      { fifo with
        putIndex := putIndex % bufsz
        -- force overwrite get index
        isFull := if putIndex % bufsz ≥ fifo.getIndex then true else fifo.isFull }
    else { fifo with putIndex := putIndex }
  else if putIndex ≥ fifo.getIndex then
    -- beyond the fifo end, force overwrite get index
    { fifo with putIndex := if putIndex ≥ bufsz then putIndex % bufsz else putIndex, isFull := true }
  else { fifo with putIndex := putIndex }

/-- `if (rx_fifo->is_full == RT_TRUE) rx_fifo->get_index = rx_fifo->put_index;`. -/
def overwriteGetIndex (fifo : RtSerialRxFifo) : RtSerialRxFifo :=
  if fifo.isFull = true then { fifo with getIndex := fifo.putIndex } else fifo

/-- `rt_dma_recv_update_put_index`. -/
def rtDmaRecvUpdatePutIndex (bufsz : ℕ) (fifo : RtSerialRxFifo) (len : ℕ) : RtSerialRxFifo :=
  overwriteGetIndex (advancePutIndex bufsz fifo len)

/-- What `rt_memcpy` takes from a buffer. -/
def slice (buffer : ℕ → Byte) (start n : ℕ) : List Byte := (List.range n).map fun i => buffer (start + i)

/-- `_serial_dma_rx` with a FIFO, into a buffer of `length` bytes: the bytes it copies there. -/
def serialDmaRx (bufsz : ℕ) (fifo : RtSerialRxFifo) (length : ℕ) : RtSerialRxFifo × List Byte :=
  let fifoRecvedLen := serialFifoCalcRecvedLen bufsz fifo
  let recvLen := if length < fifoRecvedLen then length else fifoRecvedLen
  let data :=
    if fifo.getIndex + recvLen < bufsz then slice fifo.buffer fifo.getIndex recvLen
    else
      slice fifo.buffer fifo.getIndex (bufsz - fifo.getIndex) ++
        slice fifo.buffer 0 (recvLen + fifo.getIndex - bufsz)
  (rtDmaRecvUpdateGetIndex bufsz fifo recvLen, data)

/-- The DMA writes round the buffer, from a position on. -/
def dmaWrite (bufsz : ℕ) (buffer : ℕ → Byte) (position : ℕ) : List Byte → ℕ → Byte
  | [] => buffer
  | byte :: bytes =>
    dmaWrite bufsz (Function.update buffer position byte) ((position + 1) % bufsz) bytes

/-- The FIFO, the position of the DMA, and all that it has written, which nobody reads. -/
structure Dma where
  fifo : RtSerialRxFifo
  position : ℕ
  written : List Byte

/-- The device after it was opened. -/
def dmaInit : Dma := ⟨rxFifoInit, 0, []⟩

inductive DmaAction
  /-- The DMA has written these bytes, and the driver is told so. -/
  | received (bytes : List Byte)
  | read (length : ℕ)

/-- One step.  The DMA writes at most one round before it tells the driver. -/
def dmaStep (bufsz : ℕ) (s : Dma) : DmaAction → Option Dma
  | .received bytes =>
    if bytes.length ≤ bufsz then
      let fifo := { s.fifo with buffer := dmaWrite bufsz s.fifo.buffer s.position bytes }
      some ⟨rtDmaRecvUpdatePutIndex bufsz fifo bytes.length, (s.position + bytes.length) % bufsz,
        s.written ++ bytes⟩
    else none
  | .read length => some { s with fifo := (serialDmaRx bufsz s.fifo length).1 }

variable {bufsz : ℕ} {fifo : RtSerialRxFifo} {s s' : Dma}

/-! ### The indices -/

/-- The indices are within the buffer, and the same when it is full. -/
structure Indices (bufsz : ℕ) (fifo : RtSerialRxFifo) : Prop where
  bound : bufsz ≤ 0x8000
  put_lt : fifo.putIndex < bufsz
  get_lt : fifo.getIndex < bufsz
  full : fifo.isFull = true → fifo.putIndex = fifo.getIndex

namespace Indices

lemma recvedLen_le (h : Indices bufsz fifo) : serialFifoCalcRecvedLen bufsz fifo ≤ bufsz := by
  have hput := h.put_lt
  have hget := h.get_lt
  unfold serialFifoCalcRecvedLen
  split_ifs <;> omega

/-- The put index is as far behind the get index as the FIFO is long. -/
lemma put_eq (h : Indices bufsz fifo) :
    fifo.putIndex = (fifo.getIndex + serialFifoCalcRecvedLen bufsz fifo) % bufsz := by
  have hput := h.put_lt
  have hget := h.get_lt
  have hlen := h.recvedLen_le
  rw [Ring.mod_eq_ite (by omega)]
  unfold serialFifoCalcRecvedLen
  split_ifs <;> omega

/-- How long a FIFO is that is not full. -/
lemma recvedLen_of_put {len : ℕ} (hget : fifo.getIndex < bufsz) (hlen : len < bufsz)
    (hput : fifo.putIndex = (fifo.getIndex + len) % bufsz) (hfull : fifo.isFull = false) :
    serialFifoCalcRecvedLen bufsz fifo = len := by
  rw [Ring.mod_eq_ite (by omega)] at hput
  unfold serialFifoCalcRecvedLen
  rw [hfull, if_pos rfl]
  split at hput <;> split_ifs <;> omega

/-- Where a put leads, and that it fills the FIFO if there are bytes for it. -/
lemma updatePutIndex_eq (h : Indices bufsz fifo) {n : ℕ} (hn : n ≤ bufsz) :
    rtDmaRecvUpdatePutIndex bufsz fifo n =
      if bufsz ≤ serialFifoCalcRecvedLen bufsz fifo + n then
        { fifo with
          putIndex := (fifo.putIndex + n) % bufsz, getIndex := (fifo.putIndex + n) % bufsz
          isFull := true }
      else { fifo with putIndex := (fifo.putIndex + n) % bufsz } := by
  obtain ⟨hbound, hput, hget, hfull⟩ := h
  obtain ⟨buffer, p, g, isFull⟩ := fifo
  dsimp only at hput hget hfull ⊢
  have hpos : (p + n % 0x10000) % 0x10000 = p + n := by omega
  have hmod : (p + n) % bufsz = if p + n < bufsz then p + n else p + n - bufsz :=
    Ring.mod_eq_ite (by omega)
  simp only [rtDmaRecvUpdatePutIndex, advancePutIndex, overwriteGetIndex, serialFifoCalcRecvedLen, hpos, hmod]
  cases isFull with
  | true =>
    obtain rfl : p = g := hfull rfl
    by_cases hover : p + n < bufsz
    · have h1 : ¬ bufsz ≤ p + n := by omega
      simp [hover, h1]
    · have h1 : bufsz ≤ p + n := by omega
      simp [hover, h1]
  | false =>
    -- the reader is passed if the put index comes up to the get index from below, or goes round to it
    have hlen : (if p = g then 0 else if p > g then p - g else bufsz - (g - p)) =
        if g ≤ p then p - g else bufsz - (g - p) := by
      split_ifs <;> omega
    simp only [if_true, hlen]
    by_cases hgp : g ≤ p <;> by_cases hover : p + n < bufsz
    · have h1 : ¬ bufsz ≤ p + n := by omega
      have h2 : ¬ bufsz ≤ p - g + n := by omega
      simp [hgp, hover, h1, h2]
    · have h1 : bufsz ≤ p + n := by omega
      have h2 : bufsz ≤ p - g + n ↔ g ≤ p + n - bufsz := by omega
      by_cases h3 : g ≤ p + n - bufsz <;> simp [hgp, hover, h1, h2, h3]
    · have h1 : ¬ bufsz ≤ p + n := by omega
      have h2 : bufsz ≤ bufsz - (g - p) + n ↔ g ≤ p + n := by omega
      by_cases h3 : g ≤ p + n <;> simp [hgp, hover, h1, h2, h3]
    · have h1 : bufsz ≤ p + n := by omega
      have h2 : g ≤ p + n := by omega
      have h3 : bufsz ≤ bufsz - (g - p) + n := by omega
      simp [hgp, hover, h1, h2, h3]

/-- **A put** is lost for as much as does not fit: the reader goes on by that. -/
lemma put (h : Indices bufsz fifo) {n : ℕ} (hn : n ≤ bufsz) :
    let len := serialFifoCalcRecvedLen bufsz fifo
    let fifo' := rtDmaRecvUpdatePutIndex bufsz fifo n
    let len' := serialFifoCalcRecvedLen bufsz fifo'
    Indices bufsz fifo' ∧ fifo'.buffer = fifo.buffer ∧ len' = min bufsz (len + n) ∧
      fifo'.putIndex = (fifo.putIndex + n) % bufsz ∧
      fifo'.getIndex = (fifo.getIndex + (len + n - len')) % bufsz := by
  have hlt : (fifo.putIndex + n) % bufsz < bufsz := Nat.mod_lt _ (by have := h.put_lt; omega)
  have hput : (fifo.putIndex + n) % bufsz =
      (fifo.getIndex + (serialFifoCalcRecvedLen bufsz fifo + n)) % bufsz := by
    rw [h.put_eq, Nat.mod_add_mod, Nat.add_assoc]
  intro len fifo' len'
  have heq : fifo' = _ := h.updatePutIndex_eq hn
  by_cases hfill : bufsz ≤ len + n
  · rw [if_pos hfill] at heq
    have hlen' : len' = bufsz := by
      unfold len'
      rw [heq]
      simp [serialFifoCalcRecvedLen]
    refine ⟨?_, by rw [heq], by omega, by rw [heq], ?_⟩
    · rw [heq]
      exact ⟨h.bound, hlt, hlt, fun _ => rfl⟩
    · rw [heq, hlen']
      dsimp only
      have hsplit : fifo.getIndex + (len + n) = fifo.getIndex + (len + n - bufsz) + bufsz := by omega
      rw [hput, show serialFifoCalcRecvedLen bufsz fifo = len from rfl, hsplit, Nat.add_mod_right]
  · rw [if_neg hfill] at heq
    have hnot : fifo.isFull = false := by
      by_contra hfull
      have hput' := h.full (eq_true_of_ne_false hfull)
      apply hfill
      unfold len serialFifoCalcRecvedLen
      rw [if_pos hput', if_neg hfull]
      exact Nat.le_add_right ..
    have hlen' : len' = len + n := by
      refine recvedLen_of_put ?_ (by omega) ?_ ?_
      · rw [heq]
        exact h.get_lt
      · rw [heq]
        exact hput
      · rw [heq]
        exact hnot
    refine ⟨?_, by rw [heq], by omega, by rw [heq], ?_⟩
    · rw [heq]
      refine ⟨h.bound, hlt, h.get_lt, fun hfull => ?_⟩
      dsimp only at hfull
      rw [hnot] at hfull
      cases hfull
    · rw [hlen', Nat.sub_self, Nat.add_zero, Nat.mod_eq_of_lt h.get_lt, heq]

lemma recvedLen_lt (h : Indices bufsz fifo) (hfull : fifo.isFull = false) :
    serialFifoCalcRecvedLen bufsz fifo < bufsz := by
  have hput := h.put_lt
  have hget := h.get_lt
  unfold serialFifoCalcRecvedLen
  rw [hfull]
  split_ifs <;> first | omega | simp_all

/-- **A read** takes what is there, up to the length asked for. -/
lemma read (h : Indices bufsz fifo) {k : ℕ} (hk : k ≤ serialFifoCalcRecvedLen bufsz fifo) :
    let fifo' := rtDmaRecvUpdateGetIndex bufsz fifo k
    Indices bufsz fifo' ∧ fifo'.buffer = fifo.buffer ∧ fifo'.putIndex = fifo.putIndex ∧
      fifo'.getIndex = (fifo.getIndex + k) % bufsz ∧
      serialFifoCalcRecvedLen bufsz fifo' = serialFifoCalcRecvedLen bufsz fifo - k := by
  have hlen := h.recvedLen_le
  have hbound := h.bound
  have hget := h.get_lt
  have hpos : (fifo.getIndex + k % 0x10000) % 0x10000 = fifo.getIndex + k := by omega
  intro fifo'
  have hget' : fifo'.getIndex = (fifo.getIndex + k) % bufsz := by
    unfold fifo' rtDmaRecvUpdateGetIndex
    simp only [hpos]
    split
    · rfl
    · rw [Nat.mod_eq_of_lt (by omega)]
  have hput' : fifo'.putIndex = (fifo'.getIndex + (serialFifoCalcRecvedLen bufsz fifo - k)) % bufsz := by
    rw [hget', Nat.mod_add_mod, Nat.add_assoc, Nat.add_sub_cancel' hk]
    exact h.put_eq
  have hlt : fifo'.getIndex < bufsz := by
    rw [hget']
    exact Nat.mod_lt _ (by omega)
  by_cases hsame : fifo.isFull = true ∧ k = 0
  · obtain ⟨hfull, rfl⟩ := hsame
    have heq : fifo' = fifo := by
      have hfull' : fifo'.isFull = fifo.isFull := by simp [fifo', rtDmaRecvUpdateGetIndex]
      have hindex : fifo'.getIndex = fifo.getIndex := by
        rw [hget', Nat.add_zero, Nat.mod_eq_of_lt hget]
      rw [← show ({ fifo' with isFull := fifo.isFull, getIndex := fifo.getIndex } :
        RtSerialRxFifo) = fifo from rfl, ← hfull', ← hindex]
    refine ⟨?_, rfl, rfl, hget', ?_⟩
    · rw [heq]
      exact h
    · rw [heq, Nat.sub_zero]
  · have hfull' : fifo'.isFull = false := by
      unfold fifo' rtDmaRecvUpdateGetIndex
      dsimp only
      split
      · rfl
      · rename_i hnot
        rw [not_and_not_right] at hnot
        by_contra hfull
        exact hsame ⟨eq_true_of_ne_false hfull, hnot (eq_true_of_ne_false hfull)⟩
    have hrest : serialFifoCalcRecvedLen bufsz fifo - k < bufsz := by
      by_cases hfull : fifo.isFull = true
      · have hpos : k ≠ 0 := fun hk0 => hsame ⟨hfull, hk0⟩
        omega
      · have := h.recvedLen_lt (eq_false_of_ne_true hfull)
        omega
    refine ⟨⟨hbound, h.put_lt, hlt, fun hfull => ?_⟩, rfl, rfl, hget', ?_⟩
    · rw [hfull'] at hfull
      cases hfull
    · exact recvedLen_of_put hlt hrest hput' hfull'

/-- What is copied are the bytes of the FIFO, round the end of the buffer. -/
lemma data_eq (h : Indices bufsz fifo) (length : ℕ) :
    serialDmaRx bufsz fifo length =
      (rtDmaRecvUpdateGetIndex bufsz fifo (min length (serialFifoCalcRecvedLen bufsz fifo)),
        Ring.contents fifo.buffer bufsz fifo.getIndex
          (min length (serialFifoCalcRecvedLen bufsz fifo))) := by
  have hlen := h.recvedLen_le
  have hget := h.get_lt
  have hmin : (if length < serialFifoCalcRecvedLen bufsz fifo then length
      else serialFifoCalcRecvedLen bufsz fifo) = min length (serialFifoCalcRecvedLen bufsz fifo) := by
    split <;> omega
  simp only [serialDmaRx, hmin]
  set k := min length (serialFifoCalcRecvedLen bufsz fifo) with hk
  congr 1
  split
  · rw [Ring.contents_of_le (by omega)]
    rfl
  · have hsplit : k = bufsz - fifo.getIndex + (k + fifo.getIndex - bufsz) := by omega
    have hround : (fifo.getIndex + (bufsz - fifo.getIndex)) % bufsz = 0 := by
      rw [Nat.add_sub_cancel' hget.le, Nat.mod_self]
    conv_rhs => rw [hsplit, Ring.contents_add, hround]
    rw [Ring.contents_of_le (show fifo.getIndex + (bufsz - fifo.getIndex) ≤ bufsz by omega),
      Ring.contents_of_le (show 0 + (k + fifo.getIndex - bufsz) ≤ bufsz by omega)]
    rfl

end Indices

/-! ### The buffer -/

/-- What the DMA writes, if it does not come round to it again. -/
lemma written_dmaWrite (bytes : List Byte) : ∀ {buffer : ℕ → Byte} {position : ℕ},
    position < bufsz → bytes.length ≤ bufsz →
      Ring.Written buffer (dmaWrite bufsz buffer position bytes) bufsz position bytes := by
  induction bytes with
  | nil => exact fun {buffer position} _ _ => Ring.written_nil buffer bufsz position
  | cons byte bytes ih =>
    intro buffer position hpos hlen
    rw [List.length_cons] at hlen
    have hrest : Ring.Written (Function.update buffer position byte)
        (dmaWrite bufsz (Function.update buffer position byte) ((position + 1) % bufsz) bytes) bufsz
        ((position + 1) % bufsz) bytes := ih (Nat.mod_lt (position + 1) (by omega)) (by omega)
    have hcell : ∀ j, ((position + 1) % bufsz + j) % bufsz = (position + (j + 1)) % bufsz := by
      intro j
      rw [Nat.mod_add_mod, Nat.add_assoc, Nat.add_comm 1 j]
    refine ⟨fun j hj => ?_, fun c hc => ?_⟩
    · cases j with
      | zero =>
        rw [Nat.add_zero, Nat.mod_eq_of_lt hpos, dmaWrite, hrest.kept]
        · exact Function.update_self ..
        · intro j hj heq
          rw [hcell] at heq
          have hne : (position + 0) % bufsz ≠ (position + (j + 1)) % bufsz :=
            Ring.add_mod_ne (by omega) (by omega)
          rw [Nat.add_zero, Nat.mod_eq_of_lt hpos] at hne
          exact hne heq
      | succ j =>
        rw [List.length_cons] at hj
        rw [← hcell, dmaWrite, hrest.written j (by omega)]
        rfl
    · rw [dmaWrite, hrest.kept]
      · refine Function.update_of_ne ?_ ..
        have hc0 := hc 0 (by simp)
        rwa [Nat.add_zero, Nat.mod_eq_of_lt hpos] at hc0
      · intro j hj
        rw [hcell]
        exact hc (j + 1) (by simpa using hj)

/-! ### Runs -/

/-- What is unread are the last bytes that the DMA has written. -/
structure Follows (bufsz : ℕ) (s : Dma) : Prop where
  indices : Indices bufsz s.fifo
  position : s.position = s.fifo.putIndex
  length_le : serialFifoCalcRecvedLen bufsz s.fifo ≤ s.written.length
  unread : unread bufsz s.fifo =
    s.written.drop (s.written.length - serialFifoCalcRecvedLen bufsz s.fifo)

lemma follows_init (h1 : 1 ≤ bufsz) (h2 : bufsz ≤ 0x8000) : Follows bufsz dmaInit where
  indices := ⟨h2, h1, h1, fun _ => rfl⟩
  position := rfl
  length_le := Nat.le_refl 0
  unread := rfl

namespace Follows

/-- The DMA writes, and the driver is told. -/
lemma received (h : Follows bufsz s) {bytes : List Byte} (hlen : bytes.length ≤ bufsz) :
    ∃ s', dmaStep bufsz s (.received bytes) = some s' ∧ Follows bufsz s' ∧
      serialFifoCalcRecvedLen bufsz s'.fifo =
        min bufsz (serialFifoCalcRecvedLen bufsz s.fifo + bytes.length) := by
  set len := serialFifoCalcRecvedLen bufsz s.fifo with hl
  have hle := h.length_le
  have hbuf := h.indices.recvedLen_le
  let fifo : RtSerialRxFifo := { s.fifo with buffer := dmaWrite bufsz s.fifo.buffer s.position bytes }
  have hindices : Indices bufsz fifo := ⟨h.indices.bound, h.indices.put_lt, h.indices.get_lt,
    h.indices.full⟩
  obtain ⟨hind', hbuffer, hlen', hput', hget'⟩ := hindices.put hlen
  have hsame : serialFifoCalcRecvedLen bufsz fifo = len := rfl
  rw [hsame] at hlen' hget'
  refine ⟨_, if_pos hlen, ⟨hind', ?_, ?_, ?_⟩, hlen'⟩
  · exact (congrArg (fun p => (p + bytes.length) % bufsz) h.position).trans hput'.symm
  · rw [hlen', List.length_append]
    omega
  · have hwritten : Ring.Written s.fifo.buffer fifo.buffer bufsz
        ((s.fifo.getIndex + len) % bufsz) bytes := by
      rw [hl, ← h.indices.put_eq, ← h.position]
      exact written_dmaWrite bytes (h.position ▸ h.indices.put_lt) hlen
    have hcontents := Ring.contents_written hwritten
      (show len + bytes.length - min bufsz (len + bytes.length) ≤ len + bytes.length by omega)
      (show len + bytes.length ≤ bufsz + (len + bytes.length - min bufsz (len + bytes.length)) by omega)
    have hold : Ring.contents s.fifo.buffer bufsz s.fifo.getIndex len =
        s.written.drop (s.written.length - len) := h.unread
    rw [hold] at hcontents
    have hrest : len + bytes.length - (len + bytes.length - min bufsz (len + bytes.length)) =
        min bufsz (len + bytes.length) := by omega
    rw [hrest, ← List.drop_append_of_le_length (by omega), List.drop_drop] at hcontents
    unfold Serial.unread
    rw [hlen', hbuffer, hget', hlen']
    rw [show fifo.getIndex = s.fifo.getIndex from rfl, hcontents, List.length_append]
    congr 1
    omega

/-- A read takes the oldest of the bytes that are unread. -/
lemma read (h : Follows bufsz s) (length : ℕ) :
    let (fifo', data) := serialDmaRx bufsz s.fifo length
    Follows bufsz { s with fifo := fifo' } ∧
      data = (Serial.unread bufsz s.fifo).take length ∧
      serialFifoCalcRecvedLen bufsz fifo' = serialFifoCalcRecvedLen bufsz s.fifo - data.length := by
  have hle := h.length_le
  rw [h.indices.data_eq length]
  set len := serialFifoCalcRecvedLen bufsz s.fifo with hl
  obtain ⟨hind', hbuffer, hput', hget', hlen'⟩ := h.indices.read (k := min length len) (by omega)
  rw [← hl] at hlen'
  have hdata : Ring.contents s.fifo.buffer bufsz s.fifo.getIndex (min length len) =
      (Serial.unread bufsz s.fifo).take length := by
    unfold Serial.unread
    rw [← hl, ← Ring.take_contents (show min length len ≤ len by omega), List.take_eq_take_iff]
    simp
  refine ⟨⟨hind', ?_, ?_, ?_⟩, hdata, ?_⟩
  · exact h.position.trans hput'.symm
  · dsimp only
    omega
  · have hdrop : (Ring.contents s.fifo.buffer bufsz s.fifo.getIndex len).drop (min length len) =
        Ring.contents s.fifo.buffer bufsz ((s.fifo.getIndex + min length len) % bufsz)
          (len - min length len) := Ring.drop_contents (by omega)
    have hold : Ring.contents s.fifo.buffer bufsz s.fifo.getIndex len =
        s.written.drop (s.written.length - len) := h.unread
    rw [hold, List.drop_drop] at hdrop
    unfold Serial.unread
    dsimp only
    rw [hlen', hbuffer, hget', ← hdrop]
    congr 1
    omega
  · rw [hlen', Ring.length_contents]

lemma step (h : Follows bufsz s) {a : DmaAction} (hs : dmaStep bufsz s a = some s') :
    Follows bufsz s' := by
  cases a with
  | received bytes =>
    have hlen : bytes.length ≤ bufsz := by
      by_contra hlen
      simp [dmaStep, hlen] at hs
    obtain ⟨t, ht, hfollows, -⟩ := h.received hlen
    rw [ht] at hs
    cases hs
    exact hfollows
  | read length =>
    cases hs
    exact (h.read length).1

end Follows

/-- **The FIFO keeps the last bytes of the DMA.**  In every run the indices stay within the buffer, a put
adds to the length what was written, up to the size of the buffer, and a read returns the oldest of the
bytes that are unread and takes them off. -/
theorem dma_fifo_accounts (h1 : 1 ≤ bufsz) (h2 : bufsz ≤ 32768) (as : List DmaAction)
    (hs : exec (dmaStep bufsz) dmaInit as = some s) :
    s.fifo.putIndex < bufsz ∧ s.fifo.getIndex < bufsz ∧
      (∀ bytes, bytes.length ≤ bufsz → ∃ s', dmaStep bufsz s (.received bytes) = some s' ∧
        serialFifoCalcRecvedLen bufsz s'.fifo =
          min bufsz (serialFifoCalcRecvedLen bufsz s.fifo + bytes.length)) ∧
      ∀ length, let len := serialFifoCalcRecvedLen bufsz s.fifo
        let (fifo', data) := serialDmaRx bufsz s.fifo length
        data.length = min length len ∧ serialFifoCalcRecvedLen bufsz fifo' = len - data.length ∧
          data = (s.written.drop (s.written.length - len)).take length := by
  have h := exec_inv (fun s a s' hI hs => hI.step hs) as dmaInit s (follows_init h1 h2) hs
  refine ⟨h.indices.put_lt, h.indices.get_lt, fun bytes hlen => ?_, fun length => ?_⟩
  · obtain ⟨s', hs', -, hlen'⟩ := h.received hlen
    exact ⟨s', hs', hlen'⟩
  · obtain ⟨-, hdata, hlen'⟩ := h.read length
    refine ⟨?_, hlen', ?_⟩
    · rw [hdata, List.length_take]
      unfold Serial.unread
      rw [Ring.length_contents]
    · rw [hdata, h.unread]

/-- A buffer of four bytes that is overrun. -/
def overrun : List DmaAction := [.received [1, 2, 3], .read 2, .received [4, 5, 6, 7]]

theorem dma_fifo_accounts_overrun : ∃ s, exec (dmaStep 4) dmaInit overrun = some s ∧
    s.fifo.putIndex < 4 ∧ s.fifo.getIndex < 4 ∧ (serialDmaRx 4 s.fifo 9).2 = [4, 5, 6, 7] := by
  refine ⟨_, rfl, ?_⟩
  obtain ⟨hput, hget, -, hread⟩ := @dma_fifo_accounts 4 _ (by decide) (by decide) overrun rfl
  exact ⟨hput, hget, (hread 9).2.2.trans (by decide)⟩

end N32L43x.Serial
