import N32L43x.Can.Frame
import Mathlib.Data.List.Nodup

/-!
The acceptance filters: `CAN_InitFilter` of the vendor library, the packing of filter items by
`control(RT_CAN_CMD_SET_FILTER)`, and which frames the banks accept afterwards.

A list of items need not use bank 0, where the start-up configuration installs a filter that
accepts everything, and the second identifier of an item in list mode is cut to the width of its
identifier.  So more frames can be accepted than the items match; the main result says which.
-/

namespace N32L43x.Can

open N32L43x.Lib.Bits

/-! ### The driver -/

/-- `CAN_FilterInitType`. -/
structure FilterConfig where
  filterHighId : BitVec 16
  filterLowId : BitVec 16
  filterMaskHighId : BitVec 16
  filterMaskLowId : BitVec 16
  filterFifoAssignment : BitVec 16
  filterNum : BitVec 8
  filterMode : BitVec 8
  filterScale : BitVec 8
  filterAct : Bool

/-- Two 16-bit halves in a word. -/
def halves (high low : BitVec 16) : BitVec 32 :=
  (0xFFFF#32 &&& high.setWidth 32) <<< 16 ||| (0xFFFF#32 &&& low.setWidth 32)

/-- `CAN_InitFilter`, less the entry and exit of the initialisation mode. -/
def canInitFilter (can : CanModule) (cfg : FilterConfig) : CanModule :=
  let num := cfg.filterNum.toNat
  let pos := bit 32 num
  let can := { can with fa1 := can.fa1 &&& ~~~pos }
  let can := if cfg.filterScale = 0#8 then
      { can with
        fs1 := can.fs1 &&& ~~~pos
        sFilterRegister := Function.update can.sFilterRegister num
          ⟨halves cfg.filterMaskLowId cfg.filterLowId,
            halves cfg.filterMaskHighId cfg.filterHighId⟩ }
    else can
  let can := if cfg.filterScale = 1#8 then
      { can with
        fs1 := can.fs1 ||| pos
        sFilterRegister := Function.update can.sFilterRegister num
          ⟨halves cfg.filterHighId cfg.filterLowId,
            halves cfg.filterMaskHighId cfg.filterMaskLowId⟩ }
    else can
  let can := if cfg.filterMode = 0#8 then { can with fm1 := can.fm1 &&& ~~~pos }
    else { can with fm1 := can.fm1 ||| pos }
  let can := if cfg.filterFifoAssignment = 0#16 then { can with ffa1 := can.ffa1 &&& ~~~pos }
    else can
  let can := if cfg.filterFifoAssignment = 1#16 then { can with ffa1 := can.ffa1 ||| pos } else can
  if cfg.filterAct then { can with fa1 := can.fa1 ||| pos } else can

/-- The default filter of `rt_hw_can_init`: bank 0 accepts everything. -/
def defaultFilter : FilterConfig := ⟨0, 0, 0, 0, 0, 0, 0, 1, true⟩

/-- `struct rt_can_filter_item`, the fields the driver reads. -/
structure RtCanFilterItem where
  id : BitVec 29
  ide : BitVec 1
  rtr : BitVec 1
  mode : BitVec 1
  mask : BitVec 32
  hdrBank : ℤ
deriving DecidableEq

/-- The bank of the item at index `i`. -/
def itemNum (i : ℕ) (item : RtCanFilterItem) : BitVec 8 :=
  if item.hdrBank = -1 then BitVec.ofNat 8 i else BitVec.ofInt 8 item.hdrBank

/-- The value of `mask_l_tail`. -/
def maskTail (item : RtCanFilterItem) : BitVec 32 :=
  if item.mode = 0#1 then 0x06#32
  else item.ide.setWidth 32 <<< 2 ||| item.rtr.setWidth 32 <<< 1

/-- The filter configuration the loop of `RT_CAN_CMD_SET_FILTER` makes of the item at index `i`.
The identifier is a bit field and is shifted as an `int`, the mask as a `uint32_t`. -/
def itemConfig (i : ℕ) (item : RtCanFilterItem) : FilterConfig :=
  let id := item.id.setWidth 32
  let flags := item.ide.setWidth 32 <<< 2 ||| item.rtr.setWidth 32 <<< 1
  let idH := if item.ide = 0#1 then (id <<< 18).sshiftRight 13 &&& 0xFFFF#32
    else id >>> 13 &&& 0xFFFF#32
  let idL := if item.ide = 0#1 then (id <<< 18 ||| flags) &&& 0xFFFF#32
    else (id <<< 3 ||| flags) &&& 0xFFFF#32
  let maskH := if item.ide = 0#1 then item.mask <<< 21 >>> 16 &&& 0xFFFF#32
    else item.mask <<< 3 >>> 16 &&& 0xFFFF#32
  let maskL := if item.ide = 0#1 then (item.mask <<< 21 ||| maskTail item) &&& 0xFFFF#32
    else (item.mask <<< 3 ||| maskTail item) &&& 0xFFFF#32
  { filterHighId := idH.setWidth 16
    filterLowId := idL.setWidth 16
    filterMaskHighId := maskH.setWidth 16
    filterMaskLowId := maskL.setWidth 16
    filterFifoAssignment := 0
    filterNum := itemNum i item
    filterMode := if item.mode = 0#1 then 0 else 1
    filterScale := 1
    filterAct := true }

/-- The loop of `RT_CAN_CMD_SET_FILTER` from index `i` on. -/
def setFilterFrom (can : CanModule) (i : ℕ) : List RtCanFilterItem → CanModule
  | [] => can
  | item :: items => setFilterFrom (canInitFilter can (itemConfig i item)) (i + 1) items

/-- `control(RT_CAN_CMD_SET_FILTER)` with a list of items. -/
def setFilter (can : CanModule) (items : List RtCanFilterItem) : CanModule :=
  setFilterFrom can 0 items

/-! ### The controller -/

/-- A frame on the bus. -/
structure Frame where
  id : BitVec 29
  ide : BitVec 1
  rtr : BitVec 1
deriving DecidableEq

/-- What the controller sees of a bank. -/
structure Bank where
  active : Bool
  wide : Bool
  list : Bool
  regs : FilterRegister
deriving DecidableEq

/-- The settings of bank `b`. -/
def bankOf (can : CanModule) (b : ℕ) : Bank :=
  ⟨can.fa1.getLsbD b, can.fs1.getLsbD b, can.fm1.getLsbD b, can.sFilterRegister b⟩

/-- A bank of 32-bit scale accepts a frame: in mask mode the identifier word agrees with the first
register where the second one is set, in list mode it is one of the two registers. -/
def Bank.Accepts (bank : Bank) (f : Frame) : Prop :=
  bank.active = true ∧ bank.wide = true ∧
    let word := idWord f.ide f.rtr (f.id.setWidth 32)
    if bank.list then word = bank.regs.fr1 ∨ word = bank.regs.fr2
    else (word ^^^ bank.regs.fr1) &&& bank.regs.fr2 = 0#32

instance (bank : Bank) (f : Frame) : Decidable (bank.Accepts f) :=
  inferInstanceAs (Decidable (_ ∧ _ ∧ (if bank.list = true then _ else _)))

/-- One of the fourteen banks accepts the frame. -/
def Accepts (can : CanModule) (f : Frame) : Prop := ∃ b < 14, (bankOf can b).Accepts f

instance (can : CanModule) (f : Frame) : Decidable (Accepts can f) :=
  inferInstanceAs (Decidable (∃ b < 14, _))

/-! ### Items -/

/-- The item names the identifier: in mask mode up to the bits its mask leaves out, in list mode as
its identifier or, read by `second`, as its mask field. -/
def ItemMatches (second : RtCanFilterItem → BitVec 32) (item : RtCanFilterItem) (f : Frame) : Prop :=
  f.ide = item.ide ∧ f.rtr = item.rtr ∧
    if item.mode = 0#1 then
      (f.id.setWidth 32 ^^^ item.id.setWidth 32) &&& item.mask &&& lowMask 32 (idWidth item.ide) =
        0#32
    else f.id = item.id ∨ f.id.setWidth 32 = second item

instance (second : RtCanFilterItem → BitVec 32) (item : RtCanFilterItem) (f : Frame) :
    Decidable (ItemMatches second item f) :=
  inferInstanceAs (Decidable (_ ∧ _ ∧ (if item.mode = 0#1 then _ else _)))

/-- The mask field as it is. -/
def wholeMask (item : RtCanFilterItem) : BitVec 32 := item.mask

/-- The mask field cut to the width of the item's identifier. -/
def cutMask (item : RtCanFilterItem) : BitVec 32 := item.mask &&& lowMask 32 (idWidth item.ide)

/-! ### The registers of a bank -/

lemma getLsbD_halves (high low : BitVec 16) {i : ℕ} (hi : i < 32) :
    (halves high low).getLsbD i = if i < 16 then low.getLsbD i else high.getLsbD (i - 16) := by
  have hmask : 0xFFFF#32 = lowMask 32 16 := by decide
  unfold halves
  rw [hmask]
  simp only [BitVec.getLsbD_or, BitVec.getLsbD_and, BitVec.getLsbD_shiftLeft, getLsbD_lowMask,
    BitVec.getLsbD_setWidth]
  by_cases h16 : i < 16
  · simp [h16, hi]
  · have hout : low.getLsbD i = false := BitVec.getLsbD_of_ge low i (by omega)
    simp [h16, hi, show i - 16 < 16 by omega, show i - 16 < 32 by omega, hout]

/-- The low half of a word, as the driver cuts it. -/
lemma getLsbD_half (x : BitVec 32) {i : ℕ} (hi : i < 16) :
    ((x &&& 0xFFFF#32).setWidth 16).getLsbD i = x.getLsbD i := by
  have hmask : 0xFFFF#32 = lowMask 32 16 := by decide
  rw [hmask, BitVec.getLsbD_setWidth, BitVec.getLsbD_and, getLsbD_lowMask]
  simp [hi, show i < 32 by omega]

/-- A word put together from the low half of `x` and the high half `y`. -/
lemma halves_eq {x y word : BitVec 32} (hlow : ∀ i < 16, x.getLsbD i = word.getLsbD i)
    (hhigh : ∀ i < 16, y.getLsbD i = word.getLsbD (i + 16)) :
    halves ((y &&& 0xFFFF#32).setWidth 16) ((x &&& 0xFFFF#32).setWidth 16) = word := by
  refine BitVec.eq_of_getLsbD_eq fun i hi => ?_
  rw [getLsbD_halves _ _ hi]
  split_ifs with h16
  · rw [getLsbD_half x h16, hlow i h16]
  · rw [getLsbD_half y (by omega), hhigh (i - 16) (by omega), Nat.sub_add_cancel (by omega)]

lemma fr1_itemConfig (i : ℕ) (item : RtCanFilterItem)
    (hid : item.ide = 0#1 → item.id.toNat < 2 ^ 11) :
    halves (itemConfig i item).filterHighId (itemConfig i item).filterLowId =
      idWord item.ide item.rtr (item.id.setWidth 32) := by
  unfold itemConfig
  simp only
  rcases idWidth_cases item.ide with ⟨hide, hw⟩ | ⟨hide, hw⟩
  · have hw0 : idWidth 0#1 = 11 := rfl
    have hout : ∀ j, 11 ≤ j → item.id.getLsbD j = false := fun j hj =>
      getLsbD_of_toNat_lt (hid hide) hj
    simp only [hide, if_true]
    refine halves_eq (fun k hk => ?_) fun k hk => ?_
    · rw [getLsbD_idWord _ _ _ (by omega), hw0]
      simp only [BitVec.getLsbD_or, BitVec.getLsbD_shiftLeft, BitVec.getLsbD_setWidth,
        getLsbD_bitVec1]
      grind
    · rw [getLsbD_idWord _ _ _ (by omega), hw0, BitVec.getLsbD_sshiftRight]
      simp only [BitVec.getLsbD_shiftLeft, BitVec.getLsbD_setWidth]
      grind
  · simp only [hide, if_false]
    refine halves_eq (fun k hk => ?_) fun k hk => ?_
    · rw [getLsbD_idWord _ _ _ (by omega), hw]
      simp only [BitVec.getLsbD_or, BitVec.getLsbD_shiftLeft, BitVec.getLsbD_setWidth,
        getLsbD_bitVec1]
      grind
    · rw [getLsbD_idWord _ _ _ (by omega), hw]
      simp only [BitVec.getLsbD_ushiftRight, BitVec.getLsbD_setWidth]
      grind

lemma fr2_itemConfig (i : ℕ) (item : RtCanFilterItem) :
    halves (itemConfig i item).filterMaskHighId (itemConfig i item).filterMaskLowId =
      item.mask <<< (32 - idWidth item.ide) ||| maskTail item := by
  have htail : ∀ j, 16 ≤ j → (maskTail item).getLsbD j = false := by
    intro j hj
    unfold maskTail
    split_ifs
    · exact getLsbD_of_toNat_lt (n := 16) (by decide) hj
    · simp only [BitVec.getLsbD_or, BitVec.getLsbD_shiftLeft, BitVec.getLsbD_setWidth,
        getLsbD_bitVec1]
      grind
  unfold itemConfig
  simp only
  rcases idWidth_cases item.ide with ⟨hide, hw⟩ | ⟨hide, hw⟩
  · rw [hw, if_pos hide, if_pos hide]
    refine halves_eq (fun k hk => rfl) fun k hk => ?_
    rw [BitVec.getLsbD_or, htail _ (by omega), BitVec.getLsbD_ushiftRight, Nat.add_comm,
      Bool.or_false]
  · rw [hw, if_neg hide, if_neg hide]
    refine halves_eq (fun k hk => rfl) fun k hk => ?_
    rw [BitVec.getLsbD_or, htail _ (by omega), BitVec.getLsbD_ushiftRight, Nat.add_comm,
      Bool.or_false]

/-- The bank an item sets up. -/
def itemBank (item : RtCanFilterItem) : Bank :=
  ⟨true, true, decide (item.mode ≠ 0#1), ⟨idWord item.ide item.rtr (item.id.setWidth 32),
    item.mask <<< (32 - idWidth item.ide) ||| maskTail item⟩⟩

/-- A filter in use, of 32-bit scale, sets up its bank and no other. -/
lemma bankOf_canInitFilter (can : CanModule) {cfg : FilterConfig} (hscale : cfg.filterScale = 1#8)
    (hact : cfg.filterAct = true) {b : ℕ} (hb : b < 32) :
    bankOf (canInitFilter can cfg) b = if b = cfg.filterNum.toNat then
      ⟨true, true, decide (cfg.filterMode ≠ 0#8), ⟨halves cfg.filterHighId cfg.filterLowId,
        halves cfg.filterMaskHighId cfg.filterMaskLowId⟩⟩
    else bankOf can b := by
  have hscale0 : ¬1#8 = 0#8 := by decide
  have hfields : (canInitFilter can cfg).fa1 =
        can.fa1 &&& ~~~bit 32 cfg.filterNum.toNat ||| bit 32 cfg.filterNum.toNat ∧
      (canInitFilter can cfg).fs1 = can.fs1 ||| bit 32 cfg.filterNum.toNat ∧
      (canInitFilter can cfg).fm1 = (if cfg.filterMode = 0#8 then
        can.fm1 &&& ~~~bit 32 cfg.filterNum.toNat else can.fm1 ||| bit 32 cfg.filterNum.toNat) ∧
      (canInitFilter can cfg).sFilterRegister = Function.update can.sFilterRegister
        cfg.filterNum.toNat ⟨halves cfg.filterHighId cfg.filterLowId,
          halves cfg.filterMaskHighId cfg.filterMaskLowId⟩ := by
    unfold canInitFilter
    simp only [hscale, hact, if_neg hscale0, if_true]
    split_ifs <;> exact ⟨rfl, rfl, rfl, rfl⟩
  obtain ⟨hfa, hfs, hfm, hfr⟩ := hfields
  unfold bankOf
  rw [hfa, hfs, hfm, hfr]
  by_cases hbn : b = cfg.filterNum.toNat
  · subst hbn
    rw [if_pos rfl, getLsbD_setBit, getLsbD_setBit, Function.update_self]
    split_ifs with hmode
    · simp [hmode, hb]
    · simp [hmode, hb]
  · rw [if_neg hbn, getLsbD_setBit, getLsbD_setBit, getLsbD_clearBit, Function.update_of_ne hbn]
    split_ifs
    · rw [getLsbD_clearBit]
      simp [hbn]
    · rw [getLsbD_setBit]
      simp [hbn]

/-! ### Which frames an item accepts -/

lemma bitVec1_eq_iff {a b : BitVec 1} : a = b ↔ (a ≠ 0#1 ↔ b ≠ 0#1) := by
  revert a b
  decide

/-- Identifier words that agree in bits 1 and 2 have the same flags. -/
lemma flags_eq {ide ide' rtr rtr' : BitVec 1} {x x' : BitVec 32}
    (h1 : (idWord ide rtr x).getLsbD 1 = (idWord ide' rtr' x').getLsbD 1)
    (h2 : (idWord ide rtr x).getLsbD 2 = (idWord ide' rtr' x').getLsbD 2) :
    ide = ide' ∧ rtr = rtr' := by
  rw [getLsbD_idWord _ _ _ (by decide), getLsbD_idWord _ _ _ (by decide)] at h1 h2
  have hw := idWidth_cases ide
  have hw' := idWidth_cases ide'
  rw [bitVec1_eq_iff, bitVec1_eq_iff (a := rtr)]
  grind

/-- The identifier stands above the flags. -/
lemma getLsbD_idWord_id (ide rtr : BitVec 1) (x : BitVec 32) {j : ℕ} (hj : j < idWidth ide) :
    (idWord ide rtr x).getLsbD (32 - idWidth ide + j) = x.getLsbD j := by
  have hw := idWidth_cases ide
  rw [getLsbD_idWord _ _ _ (by omega)]
  simp [show ¬32 - idWidth ide + j = 1 by omega, show ¬32 - idWidth ide + j = 2 by omega]

/-- An identifier word gives back its flags and its identifier. -/
lemma idWord_inj {ide ide' rtr rtr' : BitVec 1} {x x' : BitVec 32} :
    idWord ide rtr x = idWord ide' rtr' x' ↔ ide = ide' ∧ rtr = rtr' ∧
      x &&& lowMask 32 (idWidth ide') = x' &&& lowMask 32 (idWidth ide') := by
  constructor
  · intro h
    have hbit : ∀ i, (idWord ide rtr x).getLsbD i = (idWord ide' rtr' x').getLsbD i :=
      fun i => by rw [h]
    obtain ⟨rfl, rfl⟩ := flags_eq (hbit 1) (hbit 2)
    refine ⟨rfl, rfl, and_lowMask_eq_iff.2 fun j hj => ?_⟩
    rw [← getLsbD_idWord_id ide rtr x hj, h, getLsbD_idWord_id ide rtr x' hj]
  · rintro ⟨rfl, rfl, h⟩
    rw [and_lowMask_eq_iff] at h
    refine BitVec.eq_of_getLsbD_eq fun i hi => ?_
    rw [getLsbD_idWord _ _ _ hi, getLsbD_idWord _ _ _ hi]
    by_cases hs : 32 - idWidth ide ≤ i
    · have := idWidth_cases ide
      rw [h (i - (32 - idWidth ide)) (by omega)]
    · simp [hs]

lemma setWidth_and_lowMask {id : BitVec 29} {ide : BitVec 1} (hid : ide = 0#1 → id.toNat < 2 ^ 11) :
    id.setWidth 32 &&& lowMask 32 (idWidth ide) = id.setWidth 32 := by
  refine and_lowMask_of_lt ?_
  rw [BitVec.toNat_setWidth]
  have hlt := id.isLt
  rcases idWidth_cases ide with ⟨hide, hw⟩ | ⟨-, hw⟩
  · have := hid hide
    rw [hw]
    omega
  · rw [hw]
    omega

/-- In mask mode the second register lets an item's identifier differ where its mask is clear. -/
lemma mask_accepts_iff {item : RtCanFilterItem} {f : Frame} (hmode : item.mode = 0#1) :
    (idWord f.ide f.rtr (f.id.setWidth 32) ^^^ idWord item.ide item.rtr (item.id.setWidth 32)) &&&
        (item.mask <<< (32 - idWidth item.ide) ||| maskTail item) = 0#32 ↔
      f.ide = item.ide ∧ f.rtr = item.rtr ∧
        (f.id.setWidth 32 ^^^ item.id.setWidth 32) &&&
          (item.mask &&& lowMask 32 (idWidth item.ide)) = 0#32 := by
  have htail : ∀ i, (maskTail item).getLsbD i = (decide (i = 1) || decide (i = 2)) := by
    intro i
    have h6 : 0x06#32 = bit 32 1 ||| bit 32 2 := by decide
    unfold maskTail
    rw [if_pos hmode, h6, BitVec.getLsbD_or, getLsbD_bit, getLsbD_bit]
    grind
  rw [xor_and_eq_zero_iff, xor_and_eq_zero_iff]
  constructor
  · intro h
    obtain ⟨hide, hrtr⟩ := flags_eq (h 1 (by simp [htail])) (h 2 (by simp [htail]))
    refine ⟨hide, hrtr, fun j hj => ?_⟩
    rw [BitVec.getLsbD_and, getLsbD_lowMask] at hj
    have hjw : j < idWidth item.ide := by grind
    have hw := idWidth_cases item.ide
    have hword := h (32 - idWidth item.ide + j) (by
      rw [BitVec.getLsbD_or, BitVec.getLsbD_shiftLeft]
      grind)
    rw [getLsbD_idWord_id item.ide item.rtr _ hjw, hide, getLsbD_idWord_id item.ide f.rtr _ hjw]
      at hword
    exact hword
  · rintro ⟨hide, hrtr, h⟩ i hi
    rw [BitVec.getLsbD_or, BitVec.getLsbD_shiftLeft, htail] at hi
    have hi32 : i < 32 := by grind
    have hw := idWidth_cases item.ide
    rw [hide, hrtr, getLsbD_idWord _ _ _ hi32, getLsbD_idWord _ _ _ hi32]
    by_cases hs : 32 - idWidth item.ide ≤ i
    · have hbit := h (i - (32 - idWidth item.ide)) (by
        rw [BitVec.getLsbD_and, getLsbD_lowMask]
        grind)
      rw [hbit]
    · simp [hs]

/-- **A bank set up from an item accepts what the item matches**, its mask field cut to the width
of its identifier. -/
lemma itemBank_accepts_iff {item : RtCanFilterItem} {f : Frame}
    (hitem : item.ide = 0#1 → item.id.toNat < 2 ^ 11) (hf : f.ide = 0#1 → f.id.toNat < 2 ^ 11) :
    (itemBank item).Accepts f ↔ ItemMatches cutMask item f := by
  unfold Bank.Accepts itemBank ItemMatches
  simp only [true_and]
  by_cases hmode : item.mode = 0#1
  · rw [if_pos hmode, if_neg (by simp [hmode]), mask_accepts_iff hmode, BitVec.and_assoc]
  · have htail : item.mask <<< (32 - idWidth item.ide) ||| maskTail item =
        idWord item.ide item.rtr item.mask := by
      unfold maskTail idWord
      rw [if_neg hmode, BitVec.or_assoc]
    rw [if_neg hmode, if_pos (by simpa using hmode), htail, idWord_inj, idWord_inj,
      setWidth_and_lowMask hitem]
    have hfid : f.ide = item.ide → f.id.setWidth 32 &&& lowMask 32 (idWidth item.ide) =
        f.id.setWidth 32 := by
      intro h
      rw [← h]
      exact setWidth_and_lowMask hf
    have hinj : f.id.setWidth 32 = item.id.setWidth 32 ↔ f.id = item.id := by
      constructor
      · intro h
        have := congrArg (BitVec.setWidth 29) h
        simpa using this
      · rintro h
        rw [h]
    unfold cutMask
    constructor
    · rintro (⟨hide, hrtr, h⟩ | ⟨hide, hrtr, h⟩)
      · rw [hfid hide] at h
        exact ⟨hide, hrtr, .inl (hinj.1 h)⟩
      · rw [hfid hide] at h
        exact ⟨hide, hrtr, .inr h⟩
    · rintro ⟨hide, hrtr, h | h⟩
      · refine .inl ⟨hide, hrtr, ?_⟩
        rw [hfid hide]
        exact hinj.2 h
      · refine .inr ⟨hide, hrtr, ?_⟩
        rw [hfid hide]
        exact h

/-! ### A list of items -/

/-- The banks the items from index `i` on resolve to. -/
def itemBanks (i : ℕ) : List RtCanFilterItem → List ℕ
  | [] => []
  | item :: items => (itemNum i item).toNat :: itemBanks (i + 1) items

lemma bankOf_itemConfig (can : CanModule) (i : ℕ) {item : RtCanFilterItem}
    (hitem : item.ide = 0#1 → item.id.toNat < 2 ^ 11) {b : ℕ} (hb : b < 32) :
    bankOf (canInitFilter can (itemConfig i item)) b =
      if b = (itemNum i item).toNat then itemBank item else bankOf can b := by
  have hmode : decide ((itemConfig i item).filterMode ≠ 0#8) = decide (item.mode ≠ 0#1) := by
    unfold itemConfig
    by_cases h : item.mode = 0#1 <;> simp [h]
  rw [bankOf_canInitFilter can rfl rfl hb, fr1_itemConfig i item hitem, fr2_itemConfig, hmode]
  rfl

/-- The frames accepted after the loop: those of the items, and those of the banks that no item
resolves to. -/
lemma setFilterFrom_accepts_iff {items : List RtCanFilterItem} {f : Frame} (can : CanModule) (i : ℕ)
    (hitems : ∀ item ∈ items, item.ide = 0#1 → item.id.toNat < 2 ^ 11)
    (hnodup : (itemBanks i items).Nodup) (hlt : ∀ b ∈ itemBanks i items, b < 14) :
    Accepts (setFilterFrom can i items) f ↔ (∃ item ∈ items, (itemBank item).Accepts f) ∨
      ∃ b < 14, b ∉ itemBanks i items ∧ (bankOf can b).Accepts f := by
  induction items generalizing can i with
  | nil => simp [setFilterFrom, itemBanks, Accepts]
  | cons item items ih =>
    simp only [itemBanks, List.nodup_cons, List.mem_cons, forall_eq_or_imp] at hnodup hlt hitems
    rw [setFilterFrom, ih _ _ hitems.2 hnodup.2 hlt.2]
    constructor
    · rintro (⟨it, hit, hacc⟩ | ⟨b, hb, hnot, hacc⟩)
      · exact .inl ⟨it, List.mem_cons_of_mem item hit, hacc⟩
      · rw [bankOf_itemConfig can i hitems.1 (by omega)] at hacc
        split_ifs at hacc with hbn
        · exact .inl ⟨item, List.mem_cons_self, hacc⟩
        · refine .inr ⟨b, hb, ?_, hacc⟩
          simp [itemBanks, hbn, hnot]
    · rintro (⟨it, hit, hacc⟩ | ⟨b, hb, hnot, hacc⟩)
      · rcases List.mem_cons.1 hit with rfl | hit
        · -- its bank is not touched again, the banks being distinct
          refine .inr ⟨(itemNum i it).toNat, hlt.1, hnodup.1, ?_⟩
          rw [bankOf_itemConfig can i hitems.1 (by omega), if_pos rfl]
          exact hacc
        · exact .inl ⟨it, hit, hacc⟩
      · simp only [itemBanks, List.mem_cons, not_or] at hnot
        refine .inr ⟨b, hb, hnot.2, ?_⟩
        rw [bankOf_itemConfig can i hitems.1 (by omega), if_neg hnot.1]
        exact hacc

/-- The controller after `rt_hw_can_init` and `configure`: the default filter installed in a
controller with no bank in use. -/
def startUp (can : CanModule) : CanModule := canInitFilter can defaultFilter

lemma startUp_accepts {can : CanModule} (hoff : can.fa1 = 0#32) {b : ℕ} (hb : b < 14) (f : Frame) :
    (bankOf (startUp can) b).Accepts f ↔ b = 0 := by
  unfold startUp
  rw [bankOf_canInitFilter can rfl rfl (by omega)]
  have hnum : defaultFilter.filterNum.toNat = 0 := rfl
  have hzero : halves 0#16 0#16 = 0#32 := by decide
  rw [hnum]
  split_ifs with h
  · simp [Bank.Accepts, defaultFilter, hzero, h]
  · simp [Bank.Accepts, bankOf, hoff, h]

/-- **The acceptance filter.**  After start-up and one `RT_CAN_CMD_SET_FILTER` with items on
distinct banks, a frame is accepted if and only if an item matches it, its mask field cut to the
width of the identifier in list mode, or no item replaced the filter of bank 0. -/
theorem accepts_setFilter_iff (can : CanModule) (items : List RtCanFilterItem) (f : Frame)
    (hoff : can.fa1 = 0#32) (hitems : ∀ item ∈ items, item.ide = 0#1 → item.id.toNat < 2 ^ 11)
    (hf : f.ide = 0#1 → f.id.toNat < 2 ^ 11) (hnodup : (itemBanks 0 items).Nodup)
    (hlt : ∀ b ∈ itemBanks 0 items, b < 14) :
    Accepts (setFilter (startUp can) items) f ↔
      (∃ item ∈ items, ItemMatches cutMask item f) ∨ 0 ∉ itemBanks 0 items := by
  unfold setFilter
  rw [setFilterFrom_accepts_iff (startUp can) 0 hitems hnodup hlt]
  refine or_congr ?_ ?_
  · refine exists_congr fun item => and_congr_right fun hmem => ?_
    exact itemBank_accepts_iff (hitems item hmem) hf
  · constructor
    · rintro ⟨b, hb, hnot, hacc⟩
      rw [startUp_accepts hoff hb] at hacc
      subst hacc
      exact hnot
    · intro h
      exact ⟨0, by decide, h, (startUp_accepts hoff (by decide) f).2 rfl⟩

/-- A controller after reset. -/
def resetCan : CanModule := filledCan ⟨0, 0, 0, 0⟩

/-- An item in mask mode on bank 0 and one in list mode on bank 3: the frame of the second
identifier of the list is accepted, the next one is not. -/
theorem accepts_setFilter_list :
    Accepts (setFilter (startUp resetCan) [⟨0x100, 0, 0, 0, 0x700, -1⟩, ⟨0x205, 0, 0, 1, 0x206, 3⟩])
        ⟨0x206, 0, 0⟩ ∧
      ¬Accepts (setFilter (startUp resetCan)
        [⟨0x100, 0, 0, 0, 0x700, -1⟩, ⟨0x205, 0, 0, 1, 0x206, 3⟩]) ⟨0x207, 0, 0⟩ := by
  rw [accepts_setFilter_iff resetCan _ _ rfl (by decide) (by decide) (by decide) (by decide),
    accepts_setFilter_iff resetCan _ _ rfl (by decide) (by decide) (by decide) (by decide)]
  decide

/-- One item on bank 7 leaves the filter of bank 0 in place, which accepts a frame no item
matches; and a second identifier in list mode that is too wide for a standard identifier lets
through a frame that differs from both identifiers of the item. -/
theorem setFilter_fails :
    (Accepts (setFilter (startUp resetCan) [⟨0x555, 0, 0, 0, 0x7FF, 7⟩]) ⟨0x123, 0, 0⟩ ∧
      ¬ItemMatches wholeMask ⟨0x555, 0, 0, 0, 0x7FF, 7⟩ ⟨0x123, 0, 0⟩) ∧
    (Accepts (setFilter (startUp resetCan) [⟨0x555, 0, 0, 1, 0xFFFFFFFF, -1⟩]) ⟨0x7FF, 0, 0⟩ ∧
      ¬ItemMatches wholeMask ⟨0x555, 0, 0, 1, 0xFFFFFFFF, -1⟩ ⟨0x7FF, 0, 0⟩) := by
  decide

end N32L43x.Can
