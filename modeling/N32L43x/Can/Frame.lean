import N32L43x.Can.Defs
import Mathlib.Tactic.FinCases

/-!
A message written to a transmit mailbox and read back from a receive FIFO with the same words is
the same message, whatever the mailbox held before.
-/

namespace N32L43x.Can

open N32L43x.Lib.Bits

/-! ### Bytes -/

lemma getLsbD_packBytes (b0 b1 b2 b3 : BitVec 8) {i : ℕ} (hi : i < 32) :
    (packBytes b0 b1 b2 b3).getLsbD i =
      (b0.getLsbD i || (decide (8 ≤ i) && b1.getLsbD (i - 8)) ||
        (decide (16 ≤ i) && b2.getLsbD (i - 16)) || (decide (24 ≤ i) && b3.getLsbD (i - 24))) := by
  simp only [packBytes, BitVec.getLsbD_setWidth, BitVec.getLsbD_or, BitVec.getLsbD_shiftLeft]
  grind

lemma getLsbD_lowByte (x : BitVec 32) {i : ℕ} (hi : i < 8) :
    ((0xFF#32 &&& x).setWidth 8).getLsbD i = x.getLsbD i := by
  have hmask : 0xFF#32 = lowMask 32 8 := by decide
  rw [hmask, BitVec.getLsbD_setWidth, BitVec.getLsbD_and, getLsbD_lowMask]
  simp [hi, show i < 32 by omega]

/-- The bytes of a data register. -/
lemma packBytes_bytes (b0 b1 b2 b3 : BitVec 8) :
    (0xFF#32 &&& packBytes b0 b1 b2 b3).setWidth 8 = b0 ∧
      (0xFF#32 &&& packBytes b0 b1 b2 b3 >>> 8).setWidth 8 = b1 ∧
        (0xFF#32 &&& packBytes b0 b1 b2 b3 >>> 16).setWidth 8 = b2 ∧
          (0xFF#32 &&& packBytes b0 b1 b2 b3 >>> 24).setWidth 8 = b3 := by
  -- the bits of the lower bytes end where the next byte starts
  have hout : ∀ (b : BitVec 8) (i : ℕ), 8 ≤ i → b.getLsbD i = false := fun b i h =>
    BitVec.getLsbD_of_ge b i h
  refine ⟨?_, ?_, ?_, ?_⟩ <;> refine BitVec.eq_of_getLsbD_eq fun i hi => ?_ <;>
    rw [getLsbD_lowByte _ hi]
  · rw [getLsbD_packBytes _ _ _ _ (by omega)]
    grind
  · rw [BitVec.getLsbD_ushiftRight, getLsbD_packBytes _ _ _ _ (by omega)]
    grind
  · rw [BitVec.getLsbD_ushiftRight, getLsbD_packBytes _ _ _ _ (by omega)]
    grind
  · rw [BitVec.getLsbD_ushiftRight, getLsbD_packBytes _ _ _ _ (by omega)]
    grind

/-! ### The identifier word -/

lemma txrq_eq_bit : txrq = bit 32 0 := by decide

/-- The width of an identifier. -/
def idWidth (ide : BitVec 1) : ℕ := if ide = 0#1 then 11 else 29

/-- The identifier word of a frame as the controller lays it out: the identifier at the top, `IDE`
at bit 2 and `RTR` at bit 1. -/
def idWord (ide rtr : BitVec 1) (id : BitVec 32) : BitVec 32 :=
  id <<< (32 - idWidth ide) ||| ide.setWidth 32 <<< 2 ||| rtr.setWidth 32 <<< 1

lemma idWidth_cases (ide : BitVec 1) :
    ide = 0#1 ∧ idWidth ide = 11 ∨ ide ≠ 0#1 ∧ idWidth ide = 29 := by
  by_cases h : ide = 0#1
  · exact .inl ⟨h, if_pos h⟩
  · exact .inr ⟨h, if_neg h⟩

lemma getLsbD_bitVec1 (b : BitVec 1) (i : ℕ) :
    b.getLsbD i = (decide (i = 0) && decide (b ≠ 0#1)) := by
  by_cases hi : i = 0
  · subst hi
    revert b
    decide
  · rw [BitVec.getLsbD_of_ge b i (by omega)]
    simp [hi]

lemma getLsbD_idWord (ide rtr : BitVec 1) (id : BitVec 32) {i : ℕ} (hi : i < 32) :
    (idWord ide rtr id).getLsbD i =
      ((decide (32 - idWidth ide ≤ i) && id.getLsbD (i - (32 - idWidth ide))) ||
        (decide (i = 2) && decide (ide ≠ 0#1)) || (decide (i = 1) && decide (rtr ≠ 0#1))) := by
  unfold idWord
  simp only [BitVec.getLsbD_or, BitVec.getLsbD_shiftLeft, BitVec.getLsbD_setWidth,
    getLsbD_bitVec1 ide, getLsbD_bitVec1 rtr]
  grind

lemma txIdWord_eq (msg : RtCanMsg) :
    txIdWord msg = idWord msg.ide msg.rtr (msg.id.setWidth 32) := by
  have hrtr : (if msg.rtr = 0#1 then 0#32 else 2#32) = msg.rtr.setWidth 32 <<< 1 := by
    generalize msg.rtr = b
    revert b
    decide
  have hide : msg.ide = 0#1 ∨ msg.ide = 1#1 := by
    generalize msg.ide = b
    revert b
    decide
  unfold txIdWord idWord
  simp only [hrtr]
  rcases hide with hide | hide <;> simp [hide, idWidth]

/-- The bits of the identifier word of a message. -/
lemma getLsbD_txIdWord (msg : RtCanMsg) {i : ℕ} (hi : i < 32) :
    (txIdWord msg).getLsbD i =
      ((decide (32 - idWidth msg.ide ≤ i) && msg.id.getLsbD (i - (32 - idWidth msg.ide))) ||
        (decide (i = 2) && decide (msg.ide ≠ 0#1)) ||
          (decide (i = 1) && decide (msg.rtr ≠ 0#1))) := by
  rw [txIdWord_eq, getLsbD_idWord _ _ _ hi, BitVec.getLsbD_setWidth]
  simp [show i - (32 - idWidth msg.ide) < 32 by omega]

/-- The write leaves nothing of the mailbox's earlier identifier word. -/
lemma writeMailBox_mi {box : MailBox} (hfree : box.mi.getLsbD 0 = false) (msg : RtCanMsg) :
    (writeMailBox box msg).mi = txIdWord msg ||| txrq := by
  have hzero : box.mi &&& txrq = 0#32 := by
    refine BitVec.eq_of_getLsbD_eq fun i _ => ?_
    rw [BitVec.getLsbD_and, txrq_eq_bit, getLsbD_bit, BitVec.getLsbD_zero]
    by_cases h : i = 0
    · rw [h, hfree, Bool.false_and]
    · simp [h]
  have hmi : (writeMailBox box msg).mi = box.mi &&& txrq ||| txIdWord msg ||| txrq := rfl
  rw [hmi, hzero]
  simp

lemma txIdWord_received (msg : RtCanMsg) : (txIdWord msg ||| txrq) &&& ~~~txrq = txIdWord msg := by
  refine BitVec.eq_of_getLsbD_eq fun i hi => ?_
  rw [txrq_eq_bit, getLsbD_clearBit, getLsbD_setBit]
  by_cases h : i = 0
  · subst h
    rw [getLsbD_txIdWord msg (by decide)]
    rcases idWidth_cases msg.ide with ⟨-, hw⟩ | ⟨-, hw⟩ <;> simp [hw]
  · simp [h]

/-- A flag the decoder tests. -/
lemma flag_eq_zero (k : ℕ) (hk : k < 8) (x : BitVec 32) :
    (bit 32 k &&& x).setWidth 8 = 0#8 ↔ x.getLsbD k = false := by
  constructor
  · intro h
    have := congrArg (fun v : BitVec 8 => v.getLsbD k) h
    simp only [BitVec.getLsbD_setWidth, BitVec.getLsbD_and, getLsbD_bit] at this
    simpa [hk, show k < 32 by omega] using this
  · intro h
    refine BitVec.eq_of_getLsbD_eq fun i hi => ?_
    rw [BitVec.getLsbD_setWidth, BitVec.getLsbD_and, getLsbD_bit]
    by_cases hik : i = k
    · subst hik
      simp [h]
    · simp [hik]

/-! ### The round trip -/

section decode

variable {msg : RtCanMsg} {box : MailBox} (hmi : box.mi = txIdWord msg)
include hmi

lemma ide_decoded : (4#32 &&& box.mi).setWidth 8 = 0#8 ↔ msg.ide = 0#1 := by
  have h4 : 4#32 = bit 32 2 := by decide
  rw [h4, flag_eq_zero 2 (by decide), hmi, getLsbD_txIdWord msg (by decide)]
  rcases idWidth_cases msg.ide with ⟨h, hw⟩ | ⟨h, hw⟩ <;> rw [hw] <;> simp [h]

lemma rtr_decoded : (2#32 &&& box.mi).setWidth 8 = 0#8 ↔ msg.rtr = 0#1 := by
  have h2 : 2#32 = bit 32 1 := by decide
  rw [h2, flag_eq_zero 1 (by decide), hmi, getLsbD_txIdWord msg (by decide)]
  rcases idWidth_cases msg.ide with ⟨h, hw⟩ | ⟨h, hw⟩ <;> simp [hw]

/-- The identifier comes back from the top bits of the word. -/
lemma id_decoded {w : ℕ} (hw : idWidth msg.ide = w) (hid : msg.id.toNat < 2 ^ w) :
    (lowMask 32 w &&& box.mi >>> (32 - w)).setWidth 29 = msg.id := by
  refine BitVec.eq_of_getLsbD_eq fun i hi => ?_
  rw [BitVec.getLsbD_setWidth, BitVec.getLsbD_and, getLsbD_lowMask, BitVec.getLsbD_ushiftRight, hmi]
  have hw32 : w = 11 ∨ w = 29 := by
    rcases idWidth_cases msg.ide with ⟨-, h⟩ | ⟨-, h⟩ <;> omega
  by_cases hiw : i < w
  · rw [getLsbD_txIdWord msg (by omega), hw]
    simp [hiw, hi, show i < 32 by omega, show ¬32 - w + i = 1 by omega,
      show ¬32 - w + i = 2 by omega]
  · simp [hiw, getLsbD_of_toNat_lt hid (Nat.not_lt.1 hiw)]

end decode

lemma bitVec1_eq (b : BitVec 1) : b = if b = 0#1 then 0#1 else 1#1 := by
  revert b
  decide

lemma dlcMask_eq : 0x0F#32 = lowMask 32 4 := by decide

/-- The data length code is the low four bits of `TMDT`; the others keep what they were. -/
lemma getLsbD_mdt (box : MailBox) (msg : RtCanMsg) {i : ℕ} (hi : i < 32) :
    (writeMailBox box msg).mdt.getLsbD i =
      if i < 4 then msg.len.getLsbD i else box.mdt.getLsbD i := by
  have hkeep : 0xFFFFFFF0#32 = ~~~lowMask 32 4 := by decide
  have hmask8 : 0x0F#8 = lowMask 8 4 := by decide
  have hmdt : (writeMailBox box msg).mdt =
      box.mdt &&& 0xFFFFFFF0#32 ||| (msg.len &&& 0x0F#8).setWidth 32 := rfl
  rw [hmdt, hkeep, hmask8]
  simp only [BitVec.getLsbD_setWidth, BitVec.getLsbD_and, BitVec.getLsbD_or, BitVec.getLsbD_not,
    getLsbD_lowMask]
  by_cases h4 : i < 4
  · simp [h4, hi, show i < 8 by omega]
  · simp [h4, hi]

lemma dlc_decoded (box : MailBox) (msg : RtCanMsg) (hlen : msg.len.toNat < 16) :
    (0x0F#32 &&& (writeMailBox box msg).mdt).setWidth 8 = msg.len := by
  refine BitVec.eq_of_getLsbD_eq fun i hi => ?_
  rw [BitVec.getLsbD_setWidth, BitVec.getLsbD_and, dlcMask_eq, getLsbD_lowMask,
    getLsbD_mdt box msg (by omega)]
  by_cases h4 : i < 4
  · simp [h4, hi, show i < 32 by omega]
  · simp [h4, getLsbD_of_toNat_lt (n := 4) hlen (Nat.not_lt.1 h4)]

/-- The receive mailbox that holds what was written to a transmit mailbox: the same words, without
the transmission request. -/
def received (box : MailBox) : MailBox := { box with mi := box.mi &&& ~~~txrq }

lemma readMailBox_data (box : MailBox) (msg : RtCanMsg) :
    (readMailBox (received (writeMailBox box msg))).data = msg.data := by
  obtain ⟨h0, h1, h2, h3⟩ := packBytes_bytes (msg.data 0) (msg.data 1) (msg.data 2) (msg.data 3)
  obtain ⟨h4, h5, h6, h7⟩ := packBytes_bytes (msg.data 4) (msg.data 5) (msg.data 6) (msg.data 7)
  funext k
  fin_cases k
  · exact h0
  · exact h1
  · exact h2
  · exact h3
  · exact h4
  · exact h5
  · exact h6
  · exact h7

/-- Reading back a written mailbox gives the header of the message. -/
lemma readMailBox_header (box : MailBox) (msg : RtCanMsg) (hfree : box.mi.getLsbD 0 = false)
    (hid : msg.ide = 0#1 → msg.id.toNat < 2 ^ 11) (hlen : msg.len.toNat < 16) :
    (readMailBox (received (writeMailBox box msg))).ide = msg.ide ∧
      (readMailBox (received (writeMailBox box msg))).id = msg.id ∧
        (readMailBox (received (writeMailBox box msg))).rtr = msg.rtr ∧
          (readMailBox (received (writeMailBox box msg))).len = msg.len := by
  have hmi : (received (writeMailBox box msg)).mi = txIdWord msg := by
    unfold received
    rw [writeMailBox_mi hfree msg, txIdWord_received]
  refine ⟨?_, ?_, ?_, dlc_decoded box msg hlen⟩
  · simp only [readMailBox, ide_decoded hmi]
    exact (bitVec1_eq msg.ide).symm
  · simp only [readMailBox, ide_decoded hmi]
    split_ifs with hide
    · exact id_decoded hmi (if_pos hide) (hid hide)
    · exact id_decoded hmi (if_neg hide) msg.id.isLt
  · simp only [readMailBox, rtr_decoded hmi]
    exact (bitVec1_eq msg.rtr).symm

/-- Two mailboxes hold the same frame: the same words, less the bits of `TMDT` above the length
code. -/
def SameFrame (a b : MailBox) : Prop :=
  a.mi = b.mi ∧ a.mdt &&& 0x0F#32 = b.mdt &&& 0x0F#32 ∧ a.mdl = b.mdl ∧ a.mdh = b.mdh

instance (a b : MailBox) : Decidable (SameFrame a b) :=
  inferInstanceAs (Decidable (_ ∧ _ ∧ _ ∧ _))

/-- What is written does not depend on what the mailbox held before. -/
lemma writeMailBox_sameFrame {a b : MailBox} (ha : a.mi.getLsbD 0 = false)
    (hb : b.mi.getLsbD 0 = false) (msg : RtCanMsg) :
    SameFrame (writeMailBox a msg) (writeMailBox b msg) := by
  refine ⟨?_, ?_, rfl, rfl⟩
  · rw [writeMailBox_mi ha, writeMailBox_mi hb]
  · refine BitVec.eq_of_getLsbD_eq fun i hi => ?_
    rw [BitVec.getLsbD_and, BitVec.getLsbD_and, dlcMask_eq, getLsbD_lowMask, getLsbD_mdt a msg hi,
      getLsbD_mdt b msg hi]
    by_cases h4 : i < 4
    · rw [if_pos h4, if_pos h4]
    · simp [h4]

/-- **The frame round trip.**  A message sent through any mailbox of the controller and received
with the mailbox's words from any FIFO is the same message, and nothing of the frame that was in
the mailbox before is left in it. -/
theorem canRecvmsg_canSendmsg (can rx : CanModule) (msg : RtCanMsg) (mailbox fifo : ℕ)
    (hbox : mailbox ≤ 2) (hfree : (can.sTxMailBox mailbox).mi.getLsbD 0 = false)
    (hid : msg.ide = 0#1 → msg.id.toNat < 2 ^ 11) (hlen : msg.len.toNat ≤ 8)
    (hpending : (if fifo = 0 then rx.rff0 else rx.rff1) &&& 3#32 ≠ 0#32)
    (hrx : rx.sFifoMailBox fifo =
      received ((canSendmsgRtmsg can msg mailbox).1.sTxMailBox mailbox)) :
    (canSendmsgRtmsg can msg mailbox).2 = .eok ∧
    (∃ msg', (canRecvmsgRtmsg rx fifo).2 = some msg' ∧ msg'.ide = msg.ide ∧ msg'.id = msg.id ∧
      msg'.rtr = msg.rtr ∧ msg'.len = msg.len ∧ msg'.data = msg.data) ∧
    ∀ can' : CanModule, (can'.sTxMailBox mailbox).mi.getLsbD 0 = false →
      SameFrame ((canSendmsgRtmsg can msg mailbox).1.sTxMailBox mailbox)
        ((canSendmsgRtmsg can' msg mailbox).1.sTxMailBox mailbox) := by
  have hne : mailbox ≠ canTxStsNoMailBox := by
    unfold canTxStsNoMailBox
    omega
  have hsent : ∀ c : CanModule, (canSendmsgRtmsg c msg mailbox).1.sTxMailBox mailbox =
      writeMailBox (c.sTxMailBox mailbox) msg := by
    intro c
    simp [canSendmsgRtmsg, hne]
  rw [hsent] at hrx
  obtain ⟨hide, hid', hrtr, hlen'⟩ :=
    readMailBox_header (can.sTxMailBox mailbox) msg hfree hid (by omega)
  refine ⟨by simp [canSendmsgRtmsg, hne], ⟨readMailBox (rx.sFifoMailBox fifo), ?_, ?_⟩,
    fun can' hfree' => ?_⟩
  · unfold canRecvmsgRtmsg
    by_cases hf : fifo = 0
    · rw [if_pos hf] at hpending
      rw [if_pos hf, if_neg hpending]
    · rw [if_neg hf] at hpending
      rw [if_neg hf, if_neg hpending]
  · rw [hrx]
    exact ⟨hide, hid', hrtr, hlen', readMailBox_data (can.sTxMailBox mailbox) msg⟩
  · rw [hsent, hsent]
    exact writeMailBox_sameFrame hfree hfree' msg

/-- A controller whose mailboxes all hold the same words, with a message pending in FIFO 0. -/
def filledCan (box : MailBox) : CanModule :=
  ⟨0, 0, 1, 0, 0, 0, fun _ => box, fun _ => box, 0, 0, 0, 0, fun _ => ⟨0, 0⟩⟩

/-- An extended remote frame of three bytes. -/
def sampleMsg : RtCanMsg := ⟨0x12345, 1, 1, 3, 0, fun k => BitVec.ofNat 8 k⟩

/-- The sample frame over a mailbox full of ones. -/
theorem canRecvmsg_canSendmsg_sample :
    ∃ msg', (canRecvmsgRtmsg (filledCan (received (writeMailBox
      ⟨0xFFFFFFFE, 0xFFFFFFFF, 0xFFFFFFFF, 0xFFFFFFFF⟩ sampleMsg))) 0).2 = some msg' ∧
        msg'.ide = 1 ∧ msg'.id = 0x12345 ∧ msg'.rtr = 1 ∧ msg'.len = 3 ∧ msg'.data 2 = 2 := by
  obtain ⟨-, ⟨msg', hrecv, hide, hid, hrtr, hlen, hdata⟩, -⟩ := canRecvmsg_canSendmsg
    (filledCan ⟨0xFFFFFFFE, 0xFFFFFFFF, 0xFFFFFFFF, 0xFFFFFFFF⟩)
    (filledCan (received (writeMailBox ⟨0xFFFFFFFE, 0xFFFFFFFF, 0xFFFFFFFF, 0xFFFFFFFF⟩ sampleMsg)))
    sampleMsg 1 0 (by decide) (by decide) (by decide) (by decide) (by decide) rfl
  refine ⟨msg', hrecv, hide, hid, hrtr, hlen, ?_⟩
  rw [hdata]
  rfl

end N32L43x.Can
