import N32L43x.Can.Filter

/-!
Which handler a received frame is given to.  The controller numbers the filters of its active banks, one
for a bank in mask mode and two for one in list mode, and stores the number of the filter that let a
frame in; the driver halves the number, rounding up, and takes the result for the bank.
-/

namespace N32L43x.Can

open N32L43x.Lib.Bits

/-! ### The controller -/

/-- The filters of a bank that are counted. -/
def Bank.filters (bank : Bank) : ℕ :=
  if bank.active then (if bank.wide then 1 else 2) * (if bank.list then 2 else 1) else 0

/-- The filters of FIFO 0 in the banks below a bank. -/
def filtersBelow (can : CanModule) : ℕ → ℕ
  | 0 => 0
  | b + 1 => filtersBelow can b + if can.ffa1.getLsbD b then 0 else (bankOf can b).filters

/-- Filter `o` of a bank of 32-bit scale accepts a frame: in mask mode there is one, in list mode there is
one for each register. -/
def Bank.AcceptsBy (bank : Bank) (o : ℕ) (f : Frame) : Prop :=
  bank.active = true ∧ bank.wide = true ∧
    let word := idWord f.ide f.rtr (f.id.setWidth 32)
    if bank.list then o = 0 ∧ word = bank.regs.fr1 ∨ o = 1 ∧ word = bank.regs.fr2
    else o = 0 ∧ (word ^^^ bank.regs.fr1) &&& bank.regs.fr2 = 0#32

lemma Bank.accepts_iff (bank : Bank) (f : Frame) : bank.Accepts f ↔ ∃ o, bank.AcceptsBy o f := by
  unfold Bank.Accepts Bank.AcceptsBy
  by_cases hlist : bank.list = true
  · simp only [hlist, if_true]
    constructor
    · rintro ⟨hact, hwide, h | h⟩
      · exact ⟨0, hact, hwide, Or.inl ⟨rfl, h⟩⟩
      · exact ⟨1, hact, hwide, Or.inr ⟨rfl, h⟩⟩
    · rintro ⟨o, hact, hwide, ⟨-, h⟩ | ⟨-, h⟩⟩
      · exact ⟨hact, hwide, Or.inl h⟩
      · exact ⟨hact, hwide, Or.inr h⟩
  · simp [hlist]

/-- The filter match index in a receive mailbox. -/
def fmi (box : MailBox) : ℕ := box.mdt.toNat / 256 % 256

/-- A frame that filter `o` of bank `b` accepted waits at the head of FIFO 0. -/
structure Received (can : CanModule) (b o : ℕ) (f : Frame) : Prop where
  accepted : (bankOf can b).AcceptsBy o f
  pending : can.rff0 &&& 3#32 ≠ 0#32
  index : fmi (can.sFifoMailBox 0) = filtersBelow can b + o

/-- The filter registers of two states of the controller are the same. -/
structure SameFilters (can can' : CanModule) : Prop where
  fm1 : can'.fm1 = can.fm1
  fs1 : can'.fs1 = can.fs1
  ffa1 : can'.ffa1 = can.ffa1
  fa1 : can'.fa1 = can.fa1
  sFilterRegister : can'.sFilterRegister = can.sFilterRegister

/-- The handler that `rt_hw_can_isr` gives the frame at the head of FIFO 0 to, `can->hdr[hdr]` with
`hdr` the `rt_int8_t` of the message. -/
def isrHdr (can : CanModule) : Option ℤ := (canRecvmsgRtmsg can 0).2.map fun msg => msg.hdrIndex.toInt

/-! ### What the driver reads -/

lemma hdrIndex_toNat (box : MailBox) : (readMailBox box).hdrIndex.toNat = (fmi box + 1) / 2 := by
  have hbyte : ((0xFF#32 &&& box.mdt >>> 8).setWidth 8 |>.setWidth 32).toNat = fmi box := by
    have hand := Nat.and_two_pow_sub_one_eq_mod (box.mdt.toNat / 256) 8
    rw [BitVec.toNat_setWidth, BitVec.toNat_setWidth, BitVec.toNat_and, BitVec.toNat_ushiftRight,
      Nat.shiftRight_eq_div_pow, Nat.and_comm]
    change (box.mdt.toNat / 256 &&& 2 ^ 8 - 1) % 2 ^ 8 % 2 ^ 32 = fmi box
    rw [hand, fmi]
    omega
  have hlt : fmi box < 256 := Nat.mod_lt _ (by decide)
  change ((((0xFF#32 &&& box.mdt >>> 8).setWidth 8).setWidth 32 + 1#32) >>> 1 |>.setWidth 8).toNat = _
  rw [BitVec.toNat_setWidth, BitVec.toNat_ushiftRight, Nat.shiftRight_eq_div_pow, BitVec.toNat_add,
    hbyte]
  change (fmi box + 1) % 2 ^ 32 / 2 ^ 1 % 2 ^ 8 = _
  omega

lemma isrHdr_eq {can : CanModule} (hpending : can.rff0 &&& 3#32 ≠ 0#32)
    (hlow : fmi (can.sFifoMailBox 0) < 200) :
    isrHdr can = some (((fmi (can.sFifoMailBox 0) + 1) / 2 : ℕ) : ℤ) := by
  have hidx := hdrIndex_toNat (can.sFifoMailBox 0)
  rw [isrHdr, canRecvmsgRtmsg, if_pos rfl, if_neg hpending, Option.map_some, BitVec.toInt, hidx]
  rw [if_pos (by omega)]

/-! ### Banks as the driver sets them up -/

/-- The active banks are of 32-bit scale and belong to FIFO 0. -/
def Installed (can : CanModule) : Prop :=
  ∀ b < 32, (bankOf can b).active = true → (bankOf can b).wide = true ∧ can.ffa1.getLsbD b = false

lemma ffa1_canInitFilter (can : CanModule) {cfg : FilterConfig} (hfifo : cfg.filterFifoAssignment = 0#16) :
    (canInitFilter can cfg).ffa1 = can.ffa1 &&& ~~~bit 32 cfg.filterNum.toNat := by
  have h01 : ¬0#16 = 1#16 := by decide
  unfold canInitFilter
  simp only [hfifo, if_neg h01, if_true]
  split_ifs <;> rfl

lemma Installed.canInitFilter {can : CanModule} (h : Installed can) {cfg : FilterConfig}
    (hscale : cfg.filterScale = 1#8) (hact : cfg.filterAct = true)
    (hfifo : cfg.filterFifoAssignment = 0#16) : Installed (canInitFilter can cfg) := by
  intro b hb hactive
  rw [bankOf_canInitFilter can hscale hact hb] at hactive ⊢
  rw [ffa1_canInitFilter can hfifo, getLsbD_clearBit]
  by_cases hnum : b = cfg.filterNum.toNat
  · rw [if_pos hnum]
    exact ⟨rfl, by simp [hnum]⟩
  · rw [if_neg hnum] at hactive ⊢
    obtain ⟨hwide, hffa⟩ := h b hb hactive
    exact ⟨hwide, by simp [hffa]⟩

lemma Installed.setFilterFrom {can : CanModule} (h : Installed can) (i : ℕ)
    (items : List RtCanFilterItem) : Installed (setFilterFrom can i items) := by
  induction items generalizing can i with
  | nil => exact h
  | cons item items ih => exact ih (h.canInitFilter rfl rfl rfl) (i + 1)

/-- **Every list of items is installed** in 32-bit scale for FIFO 0. -/
lemma installed_setFilter {can : CanModule} (hoff : can.fa1 = 0#32) (items : List RtCanFilterItem) :
    Installed (setFilter (startUp can) items) := by
  have hreset : Installed can := by
    intro b _ hactive
    simp [bankOf, hoff] at hactive
  exact (hreset.canInitFilter rfl rfl rfl).setFilterFrom 0 items

lemma Installed.congr {can can' : CanModule} (h : Installed can) (hsame : SameFilters can can') :
    Installed can' := by
  intro b hb hactive
  unfold bankOf at hactive ⊢
  rw [hsame.fa1] at hactive
  rw [hsame.fs1, hsame.ffa1]
  exact h b hb hactive

/-! ### Gaps -/

/-- What a bank falls short of two filters: both if it is not in use, one in mask mode. -/
def Bank.gap (bank : Bank) : ℕ := if bank.active then (if bank.list then 0 else 1) else 2

/-- The gaps of the banks below a bank: its masks, and its banks not in use twice. -/
def gapsBelow (can : CanModule) : ℕ → ℕ
  | 0 => 0
  | b + 1 => gapsBelow can b + (bankOf can b).gap

lemma filtersBelow_add_gapsBelow {can : CanModule} (h : Installed can) {b : ℕ} (hb : b ≤ 32) :
    filtersBelow can b + gapsBelow can b = 2 * b := by
  induction b with
  | zero => rfl
  | succ b ih =>
    have hbank : (if can.ffa1.getLsbD b then 0 else (bankOf can b).filters) + (bankOf can b).gap = 2 := by
      unfold Bank.filters Bank.gap
      by_cases hactive : (bankOf can b).active = true
      · obtain ⟨hwide, hffa⟩ := h b (by omega) hactive
        simp only [hactive, hwide, hffa, if_true, Bool.false_eq_true, if_false]
        by_cases hlist : (bankOf can b).list = true <;> simp [hlist]
      · simp [hactive]
    have ih' := ih (by omega)
    rw [filtersBelow, gapsBelow]
    omega

/-- Among the filters of a bank a frame is accepted by, there are no more than two. -/
lemma Bank.AcceptsBy.le_one {bank : Bank} {o : ℕ} {f : Frame} (h : bank.AcceptsBy o f) : o ≤ 1 := by
  obtain ⟨-, -, h⟩ := h
  split at h
  · rcases h with ⟨rfl, -⟩ | ⟨rfl, -⟩ <;> omega
  · exact le_of_eq_of_le h.1 (by omega)

/-- **The handler of the bank, exactly.**  After start-up and a list of filters, a frame that filter `o`
of bank `b` accepted is given to handler `b` if and only if the banks below `b` have `o` or `o + 1`
gaps. -/
theorem isrHdr_iff (can₀ can : CanModule) (items : List RtCanFilterItem) (b o : ℕ) (f : Frame)
    (hoff : can₀.fa1 = 0#32) (hsame : SameFilters (setFilter (startUp can₀) items) can) (hb : b < 14)
    (hrec : Received can b o f) :
    isrHdr can = some (b : ℤ) ↔ gapsBelow can b = o ∨ gapsBelow can b = o + 1 := by
  have hinst : Installed can := (installed_setFilter hoff items).congr hsame
  have hsum := filtersBelow_add_gapsBelow hinst (b := b) (by omega)
  have ho := hrec.accepted.le_one
  have hindex := hrec.index
  rw [isrHdr_eq hrec.pending (by omega), Option.some_inj, Nat.cast_inj, hindex]
  omega

/-- FIFO 0 with one frame, whose filter has a given number. -/
def withFrame (can : CanModule) (index : BitVec 32) : CanModule :=
  { can with rff0 := 1, sFifoMailBox := fun _ => ⟨0, index <<< 8, 0, 0⟩ }

lemma sameFilters_withFrame (can : CanModule) (index : BitVec 32) :
    SameFilters can (withFrame can index) := ⟨rfl, rfl, rfl, rfl, rfl⟩

/-- A list on bank 0 and a mask on bank 1: the mask's frame goes to handler 1. -/
theorem isrHdr_iff_mask :
    isrHdr (withFrame (setFilter (startUp resetCan)
        [⟨0x100, 0, 0, 1, 0x101, -1⟩, ⟨0x200, 0, 0, 0, 0x7FF, -1⟩]) 2) = some ((1 : ℕ) : ℤ) ↔
      gapsBelow (withFrame (setFilter (startUp resetCan)
        [⟨0x100, 0, 0, 1, 0x101, -1⟩, ⟨0x200, 0, 0, 0, 0x7FF, -1⟩]) 2) 1 = 0 ∨
      gapsBelow (withFrame (setFilter (startUp resetCan)
        [⟨0x100, 0, 0, 1, 0x101, -1⟩, ⟨0x200, 0, 0, 0, 0x7FF, -1⟩]) 2) 1 = 0 + 1 :=
  isrHdr_iff resetCan _ _ 1 0 ⟨0x200, 0, 0⟩ rfl (sameFilters_withFrame _ 2) (by decide)
    ⟨by unfold Bank.AcceptsBy; decide, by decide, by decide⟩

/-- Three masks on banks 0, 1 and 2: the frame of bank 2 has filter number 2, and goes to handler 1. -/
theorem isrHdr_masks :
    Received (withFrame (setFilter (startUp resetCan) [⟨0x100, 0, 0, 0, 0x7FF, -1⟩,
        ⟨0x200, 0, 0, 0, 0x7FF, -1⟩, ⟨0x300, 0, 0, 0, 0x7FF, -1⟩]) 2) 2 0 ⟨0x300, 0, 0⟩ ∧
      isrHdr (withFrame (setFilter (startUp resetCan) [⟨0x100, 0, 0, 0, 0x7FF, -1⟩,
        ⟨0x200, 0, 0, 0, 0x7FF, -1⟩, ⟨0x300, 0, 0, 0, 0x7FF, -1⟩]) 2) = some 1 := by
  refine ⟨⟨by unfold Bank.AcceptsBy; decide, by decide, by decide⟩, by decide⟩

end N32L43x.Can
