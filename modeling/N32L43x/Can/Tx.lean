import N32L43x.Can.Frame
import N32L43x.Lib.Run
import Mathlib.Tactic.FinCases

/-!
Transmission and its completion events: `sendmsg` on the three mailboxes, the controller with
automatic retransmission, and the two interrupt handlers that report `TX_DONE` and `TX_FAIL`.

Every accepted message should have exactly one completion event.  On an acknowledge error the
status handler reports `TX_FAIL` for the first mailbox whose `TXOKM` bit is clear, whether it holds
a message or not, and the controller goes on retransmitting the message.  The main result says which
runs have exactly one completion for each message.
-/

namespace N32L43x.Can

open N32L43x.Lib.Bits N32L43x.Lib.Run

/-! ### The driver -/

/-- The bits of a mailbox in `TSTS`: `RQCPM`, the first of its status bits, `TXOKM`, and `TMEM`. -/
def rqcpm (b : Fin 3) : BitVec 32 := bit 32 (8 * b)

def txokm (b : Fin 3) : BitVec 32 := bit 32 (8 * b + 1)

def tmem (b : Fin 3) : BitVec 32 := bit 32 (26 + b)

/-- `sendmsg`. -/
def sendmsg (can : CanModule) (msg : RtCanMsg) (boxNum : Fin 3) : CanModule × RtErr :=
  if can.tsts &&& tmem boxNum ≠ tmem boxNum then (can, .error)
  else canSendmsgRtmsg can msg boxNum

/-- The events the driver reports through `rt_hw_can_isr`. -/
inductive CanEvent where
  | txDone (b : Fin 3)
  | txFail (b : Fin 3)
deriving DecidableEq

/-- `CAN_ClearFlag` of `RQCPM`: the controller clears the status bits of the mailbox, which are
`RQCPM`, `TXOKM`, `ALSTM` and `TERRM`. -/
def canClearRqcpm (can : CanModule) (b : Fin 3) : CanModule :=
  { can with tsts := can.tsts &&& ~~~(lowMask 32 4 <<< (8 * b.val)) }

/-- One of the three tests of `CAN_TX_IRQHandler`. -/
def txCheck (can : CanModule) (b : Fin 3) : CanModule × List CanEvent :=
  if anySet can.tsts (rqcpm b) then (canClearRqcpm can b, [.txDone b]) else (can, [])

/-- `CAN_TX_IRQHandler`. -/
def canTxIrqHandler (can : CanModule) : CanModule × List CanEvent :=
  let (can, evs0) := txCheck can 0
  let (can, evs1) := txCheck can 1
  let (can, evs2) := txCheck can 2
  (can, evs0 ++ evs1 ++ evs2)

/-- `struct rt_can_status`, the fields the status handler writes. -/
structure RtCanStatus where
  formaterrcnt : BitVec 32
  ackerrcnt : BitVec 32
  biterrcnt : BitVec 32
  crcerrcnt : BitVec 32
  lasterrtype : BitVec 32
  rcverrcnt : BitVec 32
  snderrcnt : BitVec 32
  errcode : BitVec 32

/-- `CAN_GetIntStatus(CAN_INT_ERR)`: the error interrupt is enabled and `ERRINT` is set. -/
def canGetErrStatus (can : CanModule) : Bool := anySet can.inte (bit 32 15) && anySet can.msts (bit 32 2)

/-- `CAN_ClearINTPendingBit(CAN_INT_ERR)`: the error code and `ERRINT` are cleared. -/
def canClearErrPending (can : CanModule) : CanModule :=
  { can with
    ests := can.ests &&& ~~~(lowMask 32 3 <<< 4)
    msts := can.msts &&& ~~~bit 32 2 }

/-- The last error code in `ESTS`. -/
def lastErrorCode (can : CanModule) : BitVec 32 := (can.ests &&& 0x70#32) >>> 4

/-- The event of an acknowledge error: `TX_FAIL` for the first mailbox with a clear `TXOKM`. -/
def ackErrorEvents (can : CanModule) : List CanEvent :=
  if anySet can.tsts (txokm 0) = false then [.txFail 0]
  else if anySet can.tsts (txokm 1) = false then [.txFail 1]
  else if anySet can.tsts (txokm 2) = false then [.txFail 2]
  else []

/-- `CAN_SCE_IRQHandler`. -/
def canSceIrqHandler (can : CanModule) (status : RtCanStatus) :
    CanModule × RtCanStatus × List CanEvent :=
  if canGetErrStatus can then
    let errtype := can.ests
    let code := lastErrorCode can
    let status := if code = 2#32 then { status with formaterrcnt := status.formaterrcnt + 1 }
      else if code = 3#32 then { status with ackerrcnt := status.ackerrcnt + 1 }
      else if code = 4#32 ∨ code = 5#32 then { status with biterrcnt := status.biterrcnt + 1 }
      else if code = 6#32 then { status with crcerrcnt := status.crcerrcnt + 1 }
      else status
    let evs := if code = 3#32 then ackErrorEvents can else []
    let status := { status with
      lasterrtype := errtype &&& 0x70#32
      rcverrcnt := errtype >>> 24
      snderrcnt := errtype >>> 16 &&& 0xFF#32
      errcode := errtype &&& 0x07#32 }
    (canClearErrPending can, status, evs)
  else (can, status, [])

/-! ### The controller -/

/-- The controller takes up a transmission request: the mailbox is no longer empty and its status
bits are cleared. -/
def onRequest (tsts : BitVec 32) (b : Fin 3) : BitVec 32 :=
  tsts &&& ~~~(lowMask 32 4 <<< (8 * b.val)) &&& ~~~tmem b

/-- The controller has transmitted the message of a mailbox. -/
def onSuccess (tsts : BitVec 32) (b : Fin 3) : BitVec 32 :=
  tsts ||| rqcpm b ||| txokm b ||| tmem b

/-- The controller has seen an error: its code is latched, and `ERRINT` is set if the interrupt of
the last error code is enabled. -/
def onError (can : CanModule) (code : BitVec 32) : CanModule :=
  { can with
    ests := can.ests &&& ~~~(lowMask 32 3 <<< 4) ||| code <<< 4
    msts := if anySet can.inte (bit 32 11) then can.msts ||| bit 32 2 else can.msts }

/-- The mailbox holds a message whose transmission is requested. -/
def pending (can : CanModule) (b : Fin 3) : Bool := !anySet can.tsts (tmem b)

/-! ### The system -/

/-- The controller and the driver with a record of the messages. -/
structure Sys where
  can : CanModule
  status : RtCanStatus
  /-- messages accepted by `sendmsg` for each mailbox -/
  accepts : Fin 3 → ℕ
  /-- completion events reported for each mailbox -/
  completions : Fin 3 → ℕ
  /-- the last message accepted for the mailbox was reported as `TX_FAIL` -/
  failed : Fin 3 → Bool

/-- The system after the controller's reset, with any interrupts enabled. -/
def Sys.init (inte : BitVec 32) : Sys where
  can := { filledCan ⟨0, 0, 0, 0⟩ with tsts := 0x1C000000#32, rff0 := 0#32, inte := inte }
  status := ⟨0, 0, 0, 0, 0, 0, 0, 0⟩
  accepts := fun _ => 0
  completions := fun _ => 0
  failed := fun _ => false

/-- What can happen next. -/
inductive Action where
  /-- a call of `sendmsg` -/
  | send (b : Fin 3) (msg : RtCanMsg)
  /-- the message of a mailbox is transmitted and acknowledged -/
  | transmitted (b : Fin 3)
  /-- an error on the bus; an acknowledge error is one of a message that is being sent -/
  | busError (code : BitVec 32)
  /-- a run of `CAN_TX_IRQHandler` -/
  | txIrq
  /-- a run of `CAN_SCE_IRQHandler` -/
  | sceIrq

/-- The record of an event. -/
def Sys.report (s : Sys) : CanEvent → Sys
  | .txDone b => { s with completions := Function.update s.completions b (s.completions b + 1) }
  | .txFail b =>
    { s with
      completions := Function.update s.completions b (s.completions b + 1)
      failed := Function.update s.failed b true }

/-- One step of the system. -/
def step (s : Sys) : Action → Option Sys
  | .send b msg =>
    let r := sendmsg s.can msg b
    if r.2 = .eok then
      some { s with
        can := { r.1 with tsts := onRequest r.1.tsts b }
        accepts := Function.update s.accepts b (s.accepts b + 1)
        failed := Function.update s.failed b false }
    else some { s with can := r.1 }
  | .transmitted b =>
    if pending s.can b then
      some { s with can := { s.can with
        tsts := onSuccess s.can.tsts b, ests := s.can.ests &&& ~~~(lowMask 32 3 <<< 4) } }
    else none
  | .busError code =>
    if code < 8#32 ∧ (code = 3#32 → ∃ b, pending s.can b = true) then
      some { s with can := onError s.can code }
    else none
  | .txIrq =>
    let r := canTxIrqHandler s.can
    some (r.2.foldl Sys.report { s with can := r.1 })
  | .sceIrq =>
    let r := canSceIrqHandler s.can s.status
    some (r.2.2.foldl Sys.report { s with can := r.1, status := r.2.1 })

/-! ### The property -/

/-- No mailbox has more completions than messages, no message is accepted before the one before it
in its mailbox was completed, and a mailbox that is empty with no completion flagged has all its
messages completed. -/
def Accounted (s : Sys) : Prop :=
  ∀ b, s.completions b ≤ s.accepts b ∧ s.accepts b ≤ s.completions b + 1 ∧
    (pending s.can b = false → anySet s.can.tsts (rqcpm b) = false →
      s.completions b = s.accepts b)

/-- A step keeps the account of the messages, and does not transmit a message that was reported as
failed. -/
def TxOk (s : Sys) (a : Action) : Prop :=
  (∀ s' ∈ step s a, Accounted s') ∧ ∀ b, a = .transmitted b → (step s a).isSome → s.failed b = false

/-- The first mailbox with a clear `TXOKM` bit. -/
def FirstClear (can : CanModule) (b : Fin 3) : Prop :=
  anySet can.tsts (txokm b) = false ∧ ∀ b' < b, anySet can.tsts (txokm b') = true

/-- The condition on the steps: a message is sent only after the transmit handler has reported the
one before it; the status handler meets an acknowledge error only if the first mailbox with a
clear `TXOKM` bit holds a message that it has not reported yet; and the bus acknowledges no message
after that report. -/
def Handled (s : Sys) : Action → Prop
  | .send b _ => pending s.can b = false → anySet s.can.tsts (rqcpm b) = false
  | .transmitted b => pending s.can b = true → s.failed b = false
  | .sceIrq => canGetErrStatus s.can = true → lastErrorCode s.can = 3#32 →
    ∀ b, FirstClear s.can b → pending s.can b = true ∧ s.failed b = false
  | _ => True

/-! ### The status bits of a mailbox -/

/-- What `TSTS` says of a mailbox: pending, completed (`RQCPM`) and successful (`TXOKM`). -/
def boxStatus (tsts : BitVec 32) (b : Fin 3) : Bool × Bool × Bool :=
  (!anySet tsts (tmem b), anySet tsts (rqcpm b), anySet tsts (txokm b))

lemma boxStatus_fst (can : CanModule) (b : Fin 3) : (boxStatus can.tsts b).1 = pending can b := rfl

lemma boxStatus_eq (tsts : BitVec 32) (b : Fin 3) :
    boxStatus tsts b =
      (!tsts.getLsbD (26 + b), tsts.getLsbD (8 * b), tsts.getLsbD (8 * b + 1)) := by
  unfold boxStatus tmem rqcpm txokm
  rw [anySet_bit, anySet_bit, anySet_bit]

/-- The four status bits of a mailbox are cleared. -/
lemma getLsbD_clearStatus (tsts : BitVec 32) (b : Fin 3) (i : ℕ) :
    (tsts &&& ~~~(lowMask 32 4 <<< (8 * b.val))).getLsbD i =
      (tsts.getLsbD i && !(decide (8 * b.val ≤ i) && decide (i < 8 * b.val + 4))) := by
  have h := getLsbD_setField tsts (8 * b.val) 4 0#32 i
  unfold setField at h
  simpa using h

lemma boxStatus_onRequest (tsts : BitVec 32) (b b' : Fin 3) :
    boxStatus (onRequest tsts b) b' =
      if b' = b then (true, false, false) else boxStatus tsts b' := by
  unfold onRequest tmem
  rw [boxStatus_eq, boxStatus_eq, getLsbD_clearBit, getLsbD_clearBit, getLsbD_clearBit,
    getLsbD_clearStatus, getLsbD_clearStatus, getLsbD_clearStatus]
  fin_cases b <;> fin_cases b' <;> simp

lemma boxStatus_onSuccess (tsts : BitVec 32) (b b' : Fin 3) :
    boxStatus (onSuccess tsts b) b' =
      if b' = b then (false, true, true) else boxStatus tsts b' := by
  unfold onSuccess tmem rqcpm txokm
  rw [boxStatus_eq, boxStatus_eq]
  simp only [getLsbD_setBit]
  fin_cases b <;> fin_cases b' <;> simp

lemma boxStatus_clearRqcpm (can : CanModule) (b b' : Fin 3) :
    boxStatus (canClearRqcpm can b).tsts b' =
      if b' = b then ((boxStatus can.tsts b).1, false, false) else boxStatus can.tsts b' := by
  unfold canClearRqcpm
  rw [boxStatus_eq, boxStatus_eq, boxStatus_eq]
  simp only [getLsbD_clearStatus]
  fin_cases b <;> fin_cases b' <;> simp

/-! ### The invariant -/

/-- The account of one mailbox: empty with nothing to report, or pending and perhaps reported as
failed, or transmitted and still to be reported. -/
def BoxInv (status : Bool × Bool × Bool) (accepts completions : ℕ) (failed : Bool) : Prop :=
  (status = (false, false, false) ∧ accepts = completions) ∨
  (status = (true, false, false) ∧ accepts = completions + if failed then 0 else 1) ∨
  (status = (false, true, true) ∧ accepts = completions + 1)

def Sys.BoxInv (s : Sys) (b : Fin 3) : Prop :=
  Can.BoxInv (boxStatus s.can.tsts b) (s.accepts b) (s.completions b) (s.failed b)

/-- The account of every mailbox. -/
def Inv (s : Sys) : Prop := ∀ b, s.BoxInv b

lemma inv_init (inte : BitVec 32) : Inv (Sys.init inte) := by
  intro b
  have hempty : boxStatus 0x1C000000#32 b = (false, false, false) := by
    revert b
    decide
  exact .inl ⟨hempty, rfl⟩

lemma accounted_of_inv {s : Sys} (h : Inv s) : Accounted s := by
  intro b
  have hst : boxStatus s.can.tsts b =
    (pending s.can b, anySet s.can.tsts (rqcpm b), anySet s.can.tsts (txokm b)) := rfl
  rcases h b with ⟨hb, hacc⟩ | ⟨hb, hacc⟩ | ⟨hb, hacc⟩
  all_goals
    rw [hst, Prod.mk.injEq, Prod.mk.injEq] at hb
    obtain ⟨hp, hq, -⟩ := hb
    simp only [hp, hq, hacc]
  · simp
  · split <;> simp
  · simp

/-- An invariant at the other mailboxes is kept by what changes one mailbox only. -/
lemma Sys.BoxInv.congr {s s' : Sys} {b : Fin 3} (h : s.BoxInv b)
    (ht : boxStatus s'.can.tsts b = boxStatus s.can.tsts b) (ha : s'.accepts b = s.accepts b)
    (hc : s'.completions b = s.completions b) (hf : s'.failed b = s.failed b) : s'.BoxInv b := by
  unfold Sys.BoxInv
  rw [ht, ha, hc, hf]
  exact h

/-! ### `sendmsg` -/

lemma tmem_test (can : CanModule) (b : Fin 3) :
    can.tsts &&& tmem b ≠ tmem b ↔ pending can b = true := by
  unfold pending tmem
  rw [ne_eq, and_bit_eq_bit_iff (by omega), Bool.not_eq_true, Bool.not_eq_true']

lemma sendmsg_of_pending {can : CanModule} {b : Fin 3} (h : pending can b = true) (msg : RtCanMsg) :
    sendmsg can msg b = (can, .error) := by
  unfold sendmsg
  rw [if_pos ((tmem_test can b).2 h)]

lemma sendmsg_of_empty {can : CanModule} {b : Fin 3} (h : pending can b = false) (msg : RtCanMsg) :
    (sendmsg can msg b).1.tsts = can.tsts ∧ (sendmsg can msg b).2 = .eok := by
  have hb : b.val ≠ canTxStsNoMailBox := Nat.ne_of_lt (b.isLt.trans (by decide))
  unfold sendmsg canSendmsgRtmsg
  rw [if_neg (by rw [tmem_test, h]; nofun), if_pos hb]
  exact ⟨rfl, rfl⟩

/-- The state after a message was accepted. -/
def Sys.accepted (s : Sys) (b : Fin 3) (can : CanModule) : Sys :=
  { s with
    can := { can with tsts := onRequest s.can.tsts b }
    accepts := Function.update s.accepts b (s.accepts b + 1)
    failed := Function.update s.failed b false }

lemma step_send_pending {s : Sys} {b : Fin 3} (h : pending s.can b = true) (msg : RtCanMsg) :
    step s (.send b msg) = some s := by
  simp [step, sendmsg_of_pending h]

lemma step_send_empty {s : Sys} {b : Fin 3} (h : pending s.can b = false) (msg : RtCanMsg) :
    step s (.send b msg) = some (s.accepted b (sendmsg s.can msg b).1) := by
  obtain ⟨ht, hr⟩ := sendmsg_of_empty h msg
  simp [step, Sys.accepted, ht, hr]

lemma inv_accepted {s : Sys} {b : Fin 3} (hI : Inv s) (hp : pending s.can b = false)
    (hq : anySet s.can.tsts (rqcpm b) = false) (can : CanModule) : Inv (s.accepted b can) := by
  intro b'
  by_cases hb : b' = b
  · subst hb
    have hacc : s.accepts b' = s.completions b' := ((accounted_of_inv hI b').2.2 hp hq).symm
    right; left
    simp [Sys.accepted, boxStatus_onRequest, hacc]
  · refine (hI b').congr ?_ ?_ ?_ ?_
    · simp [Sys.accepted, boxStatus_onRequest, hb]
    · simp [Sys.accepted, hb]
    · rfl
    · simp [Sys.accepted, hb]

/-- A message sent over a completion that is not reported yet leaves the mailbox with two messages
to account for. -/
lemma not_accounted_accepted {s : Sys} {b : Fin 3} (hI : Inv s)
    (hq : anySet s.can.tsts (rqcpm b) = true) (can : CanModule) : ¬Accounted (s.accepted b can) := by
  intro h
  have h2 : s.accepts b + 1 ≤ s.completions b + 1 := by
    simpa [Sys.accepted] using (h b).2.1
  have h1 : s.accepts b = s.completions b + 1 := by
    rcases hI b with ⟨hb, -⟩ | ⟨hb, -⟩ | ⟨-, hacc⟩
    · simp [boxStatus, hq] at hb
    · simp [boxStatus, hq] at hb
    · exact hacc
  omega

/-! ### The transmit handler -/

/-- One test of the handler with the report of its event. -/
def Sys.check (s : Sys) (b : Fin 3) : Sys :=
  (txCheck s.can b).2.foldl Sys.report { s with can := (txCheck s.can b).1 }

/-- A report is about the record only. -/
lemma reports_withCan (s : Sys) (can : CanModule) (evs : List CanEvent) :
    evs.foldl Sys.report { s with can := can } = { evs.foldl Sys.report s with can := can } := by
  induction evs generalizing s with
  | nil => rfl
  | cons ev evs ih =>
    have hev : Sys.report { s with can := can } ev = { s.report ev with can := can } := by
      cases ev <;> rfl
    rw [List.foldl_cons, List.foldl_cons, hev, ih]

lemma step_txIrq (s : Sys) : step s .txIrq = some (((s.check 0).check 1).check 2) := by
  simp only [step, canTxIrqHandler, Sys.check, List.foldl_append, reports_withCan]

lemma Sys.check_of_clear {s : Sys} {b : Fin 3} (h : anySet s.can.tsts (rqcpm b) = false) :
    s.check b = s := by
  simp [Sys.check, txCheck, h]

lemma inv_check {s : Sys} (hI : Inv s) (b : Fin 3) : Inv (s.check b) := by
  rcases hq : anySet s.can.tsts (rqcpm b) with _ | _
  · rwa [Sys.check_of_clear hq]
  · have hs : s.check b = Sys.report { s with can := canClearRqcpm s.can b } (.txDone b) := by
      simp [Sys.check, txCheck, hq]
    intro b'
    rw [hs]
    by_cases hb : b' = b
    · subst hb
      rcases hI b' with ⟨h, -⟩ | ⟨h, -⟩ | ⟨h, hacc⟩
      · simp [boxStatus, hq] at h
      · simp [boxStatus, hq] at h
      · left
        simp [Sys.report, boxStatus_clearRqcpm, h, hacc]
    · refine (hI b').congr ?_ rfl ?_ rfl
      · simp [Sys.report, boxStatus_clearRqcpm, hb]
      · simp [Sys.report, hb]

lemma inv_txIrq {s : Sys} (hI : Inv s) : Inv (((s.check 0).check 1).check 2) :=
  inv_check (inv_check (inv_check hI 0) 1) 2

/-! ### The status handler -/

lemma ackErrorEvents_eq (can : CanModule) {b : Fin 3} (h : FirstClear can b) :
    ackErrorEvents can = [.txFail b] := by
  obtain ⟨hb, hlt⟩ := h
  unfold ackErrorEvents
  match b with
  | 0 => rw [if_pos hb]
  | 1 => simp [hb, hlt 0 (by decide)]
  | 2 => simp [hb, hlt 0 (by decide), hlt 1 (by decide)]

lemma ackErrorEvents_cases (can : CanModule) :
    ackErrorEvents can = [] ∨ ∃ b, FirstClear can b := by
  rcases h0 : anySet can.tsts (txokm 0) with _ | _
  · exact .inr ⟨0, h0, by simp⟩
  rcases h1 : anySet can.tsts (txokm 1) with _ | _
  · refine .inr ⟨1, h1, fun b' hb' => ?_⟩
    rwa [show b' = 0 by omega]
  rcases h2 : anySet can.tsts (txokm 2) with _ | _
  · refine .inr ⟨2, h2, fun b' hb' => ?_⟩
    rcases (by omega : b' = 0 ∨ b' = 1) with rfl | rfl
    · exact h0
    · exact h1
  · simp [ackErrorEvents, h0, h1, h2]

lemma sceIrqHandler_tsts (can : CanModule) (status : RtCanStatus) :
    (canSceIrqHandler can status).1.tsts = can.tsts := by
  unfold canSceIrqHandler
  split <;> rfl

/-- The events of the status handler: a failure in the mailbox the first clear `TXOKM` bit names, if
it meets an acknowledge error. -/
lemma sceIrqHandler_events (can : CanModule) (status : RtCanStatus) :
    (canSceIrqHandler can status).2.2 =
      if canGetErrStatus can = true ∧ lastErrorCode can = 3#32 then ackErrorEvents can else [] := by
  unfold canSceIrqHandler
  by_cases he : canGetErrStatus can = true
  · rw [if_pos he]
    by_cases hc : lastErrorCode can = 3#32
    · simp [he, hc]
    · simp [hc]
  · simp [he]

/-- The state after the status handler found nothing to report. -/
lemma step_sceIrq_quiet {s : Sys} (h : (canSceIrqHandler s.can s.status).2.2 = []) :
    step s .sceIrq = some { s with
      can := (canSceIrqHandler s.can s.status).1
      status := (canSceIrqHandler s.can s.status).2.1 } := by
  simp [step, h]

/-- The state after the status handler reported a failure. -/
def Sys.failure (s : Sys) (b : Fin 3) : Sys :=
  { s with
    can := (canSceIrqHandler s.can s.status).1
    status := (canSceIrqHandler s.can s.status).2.1
    completions := Function.update s.completions b (s.completions b + 1)
    failed := Function.update s.failed b true }

lemma step_sceIrq_fail {s : Sys} {b : Fin 3}
    (h : (canSceIrqHandler s.can s.status).2.2 = [.txFail b]) :
    step s .sceIrq = some (s.failure b) := by
  simp [step, h, Sys.report, Sys.failure]

lemma inv_failure {s : Sys} {b : Fin 3} (hI : Inv s) (hp : pending s.can b = true)
    (hf : s.failed b = false) : Inv (s.failure b) := by
  intro b'
  by_cases hb : b' = b
  · subst hb
    rcases hI b' with ⟨h, -⟩ | ⟨h, hacc⟩ | ⟨h, -⟩
    · rw [← boxStatus_fst, h] at hp
      cases hp
    · rw [hf] at hacc
      right; left
      simp [Sys.failure, sceIrqHandler_tsts, h, hacc]
    · rw [← boxStatus_fst, h] at hp
      cases hp
  · refine (hI b').congr ?_ rfl ?_ ?_
    · simp [Sys.failure, sceIrqHandler_tsts]
    · simp [Sys.failure, hb]
    · simp [Sys.failure, hb]

/-- A failure reported for a mailbox without a message, or a second time, is one completion too
many. -/
lemma not_accounted_failure {s : Sys} {b : Fin 3} (hI : Inv s)
    (ht : anySet s.can.tsts (txokm b) = false)
    (hno : ¬(pending s.can b = true ∧ s.failed b = false)) : ¬Accounted (s.failure b) := by
  intro h
  have h1 : s.completions b + 1 ≤ s.accepts b := by
    simpa [Sys.failure] using (h b).1
  rcases hI b with ⟨-, hacc⟩ | ⟨hst, hacc⟩ | ⟨hst, -⟩
  · omega
  · have hp : pending s.can b = true := congrArg Prod.fst hst
    have hf : s.failed b = true := by
      by_contra hf
      exact hno ⟨hp, by simpa using hf⟩
    rw [hf, if_pos rfl] at hacc
    omega
  · have : anySet s.can.tsts (txokm b) = true := congrArg (fun v => v.2.2) hst
    rw [ht] at this
    cases this

/-! ### The bus -/

/-- The state after the message of a mailbox was transmitted. -/
def Sys.transmit (s : Sys) (b : Fin 3) : Sys :=
  { s with can := { s.can with
      tsts := onSuccess s.can.tsts b, ests := s.can.ests &&& ~~~(lowMask 32 3 <<< 4) } }

lemma step_transmitted {s s' : Sys} {b : Fin 3} (h : step s (.transmitted b) = some s') :
    pending s.can b = true ∧ s' = s.transmit b := by
  simp only [step, Option.ite_none_right_eq_some, Option.some.injEq] at h
  exact ⟨h.1, h.2.symm⟩

lemma inv_transmit {s : Sys} {b : Fin 3} (hI : Inv s) (hp : pending s.can b = true)
    (hf : s.failed b = false) : Inv (s.transmit b) := by
  intro b'
  by_cases hb : b' = b
  · subst hb
    rcases hI b' with ⟨h, -⟩ | ⟨h, hacc⟩ | ⟨h, -⟩
    · rw [← boxStatus_fst, h] at hp
      cases hp
    · rw [hf] at hacc
      right; right
      simp [Sys.transmit, boxStatus_onSuccess, hacc]
    · rw [← boxStatus_fst, h] at hp
      cases hp
  · refine (hI b').congr ?_ rfl rfl rfl
    simp [Sys.transmit, boxStatus_onSuccess, hb]

lemma step_busError {s s' : Sys} {code : BitVec 32} (h : step s (.busError code) = some s') :
    s' = { s with can := onError s.can code } := by
  simp only [step, Option.ite_none_right_eq_some, Option.some.injEq] at h
  exact h.2.symm

/-! ### Runs -/

/-- A step within the condition keeps the account. -/
theorem inv_step {s s' : Sys} {a : Action} (hI : Inv s) (hC : Handled s a)
    (h : step s a = some s') : Inv s' := by
  cases a with
  | send b msg =>
    rcases hp : pending s.can b with _ | _
    · rw [step_send_empty hp, Option.some.injEq] at h
      rw [← h]
      exact inv_accepted hI hp (hC hp) _
    · rw [step_send_pending hp, Option.some.injEq] at h
      rwa [← h]
  | transmitted b =>
    obtain ⟨hp, rfl⟩ := step_transmitted h
    exact inv_transmit hI hp (hC hp)
  | busError code =>
    -- an error is latched in `ESTS` and `MSTS`; the mailbox stays pending
    rw [step_busError h]
    exact hI
  | txIrq =>
    rw [step_txIrq, Option.some.injEq] at h
    rw [← h]
    exact inv_txIrq hI
  | sceIrq =>
    have hev := sceIrqHandler_events s.can s.status
    by_cases he : canGetErrStatus s.can = true ∧ lastErrorCode s.can = 3#32
    · rw [if_pos he] at hev
      rcases ackErrorEvents_cases s.can with hnil | ⟨b, hb⟩
      · rw [step_sceIrq_quiet (hev.trans hnil), Option.some.injEq] at h
        rw [← h]
        exact fun b => (hI b).congr (by rw [sceIrqHandler_tsts]) rfl rfl rfl
      · rw [step_sceIrq_fail (hev.trans (ackErrorEvents_eq s.can hb)), Option.some.injEq] at h
        obtain ⟨hp, hf⟩ := hC he.1 he.2 b hb
        rw [← h]
        exact inv_failure hI hp hf
    · rw [if_neg he] at hev
      rw [step_sceIrq_quiet hev, Option.some.injEq] at h
      rw [← h]
      exact fun b => (hI b).congr (by rw [sceIrqHandler_tsts]) rfl rfl rfl

/-- A step that keeps the account is within the condition. -/
theorem handled_of_txOk {s : Sys} {a : Action} (hI : Inv s) (h : TxOk s a) : Handled s a := by
  obtain ⟨hacc, hsent⟩ := h
  cases a with
  | send b msg =>
    intro hp
    by_contra hq
    exact not_accounted_accepted hI (by simpa using hq) _ (hacc _ (step_send_empty hp msg))
  | transmitted b =>
    intro hp
    exact hsent b rfl (by simp [step, hp])
  | busError code => trivial
  | txIrq => trivial
  | sceIrq =>
    intro he hc b hb
    by_contra hno
    have hev := sceIrqHandler_events s.can s.status
    rw [if_pos ⟨he, hc⟩, ackErrorEvents_eq s.can hb] at hev
    exact not_accounted_failure hI hb.1 hno (hacc _ (step_sceIrq_fail hev))

theorem txOk_of_handled {s : Sys} {a : Action} (hI : Inv s) (hC : Handled s a) : TxOk s a := by
  refine ⟨fun s' hs' => accounted_of_inv (inv_step hI hC hs'), ?_⟩
  rintro b rfl hsome
  obtain ⟨s', hs'⟩ := Option.isSome_iff_exists.1 hsome
  exact hC (step_transmitted hs').1

end N32L43x.Can
