import N32L43x.Gpio.Defs
import Mathlib.Tactic.IntervalCases
import Mathlib.Tactic.FinCases

/-!
What each call of the GPIO interrupt driver can do: one equation per operation, over the line
number of the pin it names.  Later modules use these equations and the field lemmas of the two
register updates `armLine` and `disarmLine`, and never unfold the operations.
-/

namespace N32L43x.Gpio

open N32L43x.Lib.Bits

/-! ### The line of a pin -/

lemma bit2bitno_bit : ∀ i < 16, bit2bitno (bit 32 i) = i := by decide

lemma pinIrqMap_getElem : ∀ i < 16, pinIrqMap[i]? = some ⟨bit 32 i, lineVector i⟩ := by decide

lemma pin_of_mem_portPins {base : ℤ} {gpio : GpioModule} {ix : PinIndex}
    (h : ix ∈ portPins base gpio) : ∃ i < 16, ix.pin = bit 32 i := by
  unfold portPins at h
  obtain ⟨i, hi, rfl⟩ := List.mem_map.1 h
  exact ⟨i, List.mem_range.1 hi, rfl⟩

lemma pin_of_mem_pins {ix : PinIndex} (h : ix ∈ pins) : ∃ i < 16, ix.pin = bit 32 i := by
  unfold pins at h
  simp only [List.mem_append] at h
  rcases h with ((h | h) | h) | h <;> exact pin_of_mem_portPins h

lemma mem_pins_of_getPin {pin : ℤ} {ix : PinIndex} (h : getPin pin = some ix) : ix ∈ pins := by
  unfold getPin at h
  rcases hp : pins[toUint8 pin]? with _ | ix'
  · simp [hp] at h
  · have hmem := List.mem_of_getElem? hp
    simp only [hp] at h
    split at h
    · cases h
    · cases h
      exact hmem

/-- A pin that exists has one of the sixteen lines. -/
theorem pinLine_eq_some {pin : ℤ} {i : ℕ} :
    pinLine pin = some i ↔ ∃ ix, getPin pin = some ix ∧ i < 16 ∧ ix.pin = bit 32 i := by
  unfold pinLine
  rw [Option.map_eq_some_iff]
  refine exists_congr fun ix => and_congr_right fun hix => ?_
  obtain ⟨k, hk, hpin⟩ := pin_of_mem_pins (mem_pins_of_getPin hix)
  rw [hpin, bit2bitno_bit k hk, Int.toNat_natCast]
  constructor
  · rintro rfl
    exact ⟨hk, rfl⟩
  · rintro ⟨hi, h⟩
    have := congrArg bit2bitno h
    rw [bit2bitno_bit k hk, bit2bitno_bit i hi] at this
    exact_mod_cast this

lemma pinLine_lt {pin : ℤ} {i : ℕ} (h : pinLine pin = some i) : i < 16 := by
  obtain ⟨_, _, hi, _⟩ := pinLine_eq_some.1 h
  exact hi

lemma pinLine_eq_none {pin : ℤ} : pinLine pin = none ↔ getPin pin = none := by
  simp [pinLine]

lemma pinLine_of_getPin_eq {p q : ℤ} (h : getPin p = getPin q) : pinLine p = pinLine q := by
  simp [pinLine, h]

/-! ### Attaching and detaching -/

theorem n32PinAttachIrq_of_none {s : State} {pin : ℤ} {mode : BitVec 8} {hdr args : ℕ}
    (h : pinLine pin = none) : n32PinAttachIrq s pin mode hdr args = (s, .enosys) := by
  simp [n32PinAttachIrq, pinLine_eq_none.1 h]

theorem n32PinAttachIrq_eq {s : State} {pin : ℤ} {mode : BitVec 8} {hdr args i : ℕ}
    (h : pinLine pin = some i) : n32PinAttachIrq s pin mode hdr args =
      if s.pinIrqHdrTab i = ⟨pin, mode, hdr, args⟩ then (s, .eok)
      else if (s.pinIrqHdrTab i).pin ≠ -1 then (s, .ebusy)
      else
        ({ s with pinIrqHdrTab := Function.update s.pinIrqHdrTab i ⟨pin, mode, hdr, args⟩ },
          .eok) := by
  obtain ⟨ix, hix, hi, hpin⟩ := pinLine_eq_some.1 h
  have hrange : ¬((i : ℤ) < 0 ∨ 16 ≤ (i : ℤ)) := by omega
  have heq : s.pinIrqHdrTab i = ⟨pin, mode, hdr, args⟩ ↔ (s.pinIrqHdrTab i).pin = pin ∧
      (s.pinIrqHdrTab i).hdr = hdr ∧ (s.pinIrqHdrTab i).mode = mode ∧
        (s.pinIrqHdrTab i).args = args := by
    rcases s.pinIrqHdrTab i with ⟨p, m, f, a⟩
    simp only [RtPinIrqHdr.mk.injEq]
    tauto
  simp only [n32PinAttachIrq, hix, hpin, bit2bitno_bit i hi, hrange, if_false, Int.toNat_natCast,
    heq]
  rfl

theorem n32PinDettachIrq_of_none {s : State} {pin : ℤ} (h : pinLine pin = none) :
    n32PinDettachIrq s pin = (s, .enosys) := by
  simp [n32PinDettachIrq, pinLine_eq_none.1 h]

theorem n32PinDettachIrq_eq {s : State} {pin : ℤ} {i : ℕ} (h : pinLine pin = some i) :
    n32PinDettachIrq s pin =
      if (s.pinIrqHdrTab i).pin = -1 then (s, .eok)
      else
        ({ s with pinIrqHdrTab := Function.update s.pinIrqHdrTab i emptySlot }, .eok) := by
  obtain ⟨ix, hix, hi, hpin⟩ := pinLine_eq_some.1 h
  have hrange : ¬((i : ℤ) < 0 ∨ 16 ≤ (i : ℤ)) := by omega
  simp only [n32PinDettachIrq, hix, hpin, bit2bitno_bit i hi, hrange, if_false, Int.toNat_natCast]
  rfl

/-! ### Enabling -/

/-- The register updates of a successful `PIN_IRQ_ENABLE` on line `i` for a pin of `port`. -/
def armLine (s : State) (port : BitVec 32) (i : ℕ) (trigger : ExtiTrigger) : State :=
  let t := nvicEnableIrq (extiClrItPendBit (extiInitPeripheral (gpioConfigExtiLine s port i)
    (bit 32 i) trigger) (bit 32 i)) (lineVector i)
  { t with pinIrqEnableMask := t.pinIrqEnableMask ||| bit 32 i }

section armLine

variable (s : State) (port : BitVec 32) (i : ℕ) (trigger : ExtiTrigger)

@[simp] theorem armLine_pinIrqHdrTab :
    (armLine s port i trigger).pinIrqHdrTab = s.pinIrqHdrTab := by
  cases trigger <;> rfl

@[simp] theorem armLine_pinIrqEnableMask :
    (armLine s port i trigger).pinIrqEnableMask = s.pinIrqEnableMask ||| bit 32 i := by
  cases trigger <;> rfl

@[simp] theorem armLine_imask :
    (armLine s port i trigger).imask = s.imask &&& ~~~bit 32 i ||| bit 32 i := by
  cases trigger <;> rfl

@[simp] theorem armLine_nvic :
    (armLine s port i trigger).nvic = Function.update s.nvic (lineVector i) true := by
  cases trigger <;> rfl

theorem armLine_extiCfg (r : ℕ) :
    (armLine s port i trigger).extiCfg r =
      if r = i / 4 then setField (s.extiCfg (i / 4)) (i % 4 * 4) 2 port else s.extiCfg r := by
  have h : (armLine s port i trigger).extiCfg =
      Function.update s.extiCfg (i / 4) (setField (s.extiCfg (i / 4)) (i % 4 * 4) 2 port) := by
    cases trigger <;> rfl
  rw [h, Function.update_apply]

/-- The line is routed to the port, and no other line is rerouted. -/
theorem routedPort_armLine (hport : port.toNat < 4) (j : ℕ) :
    routedPort (armLine s port i trigger) j = if j = i then port else routedPort s j := by
  unfold routedPort
  rw [armLine_extiCfg]
  by_cases hji : j = i
  · subst hji
    simp only [if_true]
    exact field_setField_same _ _ (by omega) hport
  · rw [if_neg hji]
    by_cases hr : j / 4 = i / 4
    · rw [if_pos hr, hr]
      exact field_setField_of_disjoint _ _ hport (by omega)
    · rw [if_neg hr]

end armLine

lemma port2portsource_lt (g : GpioModule) : (port2portsource g).toNat < 4 := by
  cases g <;> decide

/-- The port source of a pin number. -/
def pinPort (pin : ℤ) : BitVec 32 := ((getPin pin).map fun ix => port2portsource ix.gpio).getD 0

lemma pinPort_lt (pin : ℤ) : (pinPort pin).toNat < 4 := by
  unfold pinPort
  rcases getPin pin with _ | ix
  · decide
  · exact port2portsource_lt ix.gpio

theorem n32PinIrqEnable_of_none {s : State} {pin : ℤ} {enabled : BitVec 8}
    (h : pinLine pin = none) : n32PinIrqEnable s pin enabled = (s, .enosys) := by
  simp [n32PinIrqEnable, pinLine_eq_none.1 h]

theorem n32PinIrqEnable_one {s : State} {pin : ℤ} {i : ℕ} (h : pinLine pin = some i) :
    n32PinIrqEnable s pin 1 =
      if (s.pinIrqHdrTab i).pin = -1 then (s, .enosys)
      else match triggerOfMode (s.pinIrqHdrTab i).mode with
        | none => ({ s with primask := true }, .error)
        | some trigger => (armLine s (pinPort pin) i trigger, .eok) := by
  obtain ⟨ix, hix, hi, hpin⟩ := pinLine_eq_some.1 h
  have hmap : pinIrqMapAt i = some ⟨bit 32 i, lineVector i⟩ := by
    unfold pinIrqMapAt
    rw [if_neg (by omega), Int.toNat_natCast, pinIrqMap_getElem i hi]
  simp only [n32PinIrqEnable, hix, if_true, pinIrqEnable, hpin, bit2bitno_bit i hi, hmap,
    Int.toNat_natCast, rtHwInterruptDisable]
  split
  · rfl
  · rcases triggerOfMode (s.pinIrqHdrTab i).mode with _ | trigger
    · rfl
    · simp only [pinPort, hix, Option.map_some, Option.getD_some]
      cases trigger <;> rfl

/-! ### Disabling -/

/-- No other line of the vector of `i` is in the mask. -/
def VectorIdle (mask : BitVec 32) (i : ℕ) : Prop :=
  ∀ j < 16, j ≠ i → lineVector j = lineVector i → mask.getLsbD j = false

instance (mask : BitVec 32) (i : ℕ) : Decidable (VectorIdle mask i) :=
  inferInstanceAs (Decidable (∀ j < 16, _))

/-- The register updates of `PIN_IRQ_DISABLE` on line `i`. -/
def disarmLine (s : State) (i : ℕ) : State :=
  { s with
    pinIrqEnableMask := s.pinIrqEnableMask &&& ~~~bit 32 i
    nvic := if VectorIdle s.pinIrqEnableMask i then
        Function.update s.nvic (lineVector i) false else s.nvic }

lemma getLsbD_group9_5 (j : ℕ) : group9_5.getLsbD j = decide (5 ≤ j ∧ j ≤ 9) := by
  unfold group9_5
  simp only [BitVec.getLsbD_or, getLsbD_bit]
  rw [Bool.eq_iff_iff]
  simp only [Bool.or_eq_true, Bool.and_eq_true, decide_eq_true_eq]
  omega

lemma getLsbD_group15_10 (j : ℕ) : group15_10.getLsbD j = decide (10 ≤ j ∧ j ≤ 15) := by
  unfold group15_10
  simp only [BitVec.getLsbD_or, getLsbD_bit]
  rw [Bool.eq_iff_iff]
  simp only [Bool.or_eq_true, Bool.and_eq_true, decide_eq_true_eq]
  omega

lemma lineVector_eq_exti9_5 : ∀ i < 16, lineVector i = .exti9_5 ↔ 5 ≤ i ∧ i ≤ 9 := by decide

lemma lineVector_eq_exti15_10 : ∀ i < 16, lineVector i = .exti15_10 ↔ 10 ≤ i ∧ i ≤ 15 := by
  decide

lemma lineVector_single : ∀ i < 5, ∀ j < 16, lineVector j = lineVector i → j = i := by decide

/-- The test of a shared vector's group, once bit `i` is cleared, asks whether the vector is
idle. -/
lemma anySet_group (mask : BitVec 32) {grp : BitVec 32} {i lo hi : ℕ} (hhi : hi < 16)
    (hgrp : ∀ j, grp.getLsbD j = decide (lo ≤ j ∧ j ≤ hi))
    (hvec : ∀ j < 16, lineVector j = lineVector i ↔ lo ≤ j ∧ j ≤ hi) :
    (!anySet (mask &&& ~~~bit 32 i) grp) = true ↔ VectorIdle mask i := by
  rw [Bool.not_eq_true', ← Bool.not_eq_true, anySet_iff]
  constructor
  · intro h j hj hji hv
    by_contra hm
    rw [Bool.not_eq_false] at hm
    refine h ⟨j, ?_, ?_⟩
    · rw [getLsbD_clearBit, hm]
      simp [hji]
    · simpa [hgrp] using (hvec j hj).1 hv
  · rintro h ⟨j, hj, hjg⟩
    rw [hgrp, decide_eq_true_eq] at hjg
    rw [getLsbD_clearBit] at hj
    have hji : j ≠ i := by
      rintro rfl
      simp at hj
    have := h j (by omega) hji ((hvec j (by omega)).2 hjg)
    simp [this] at hj

lemma range9_5 : ∀ i < 16, bit 32 5 ≤ bit 32 i ∧ bit 32 i ≤ bit 32 9 ↔ 5 ≤ i ∧ i ≤ 9 := by
  decide

lemma range15_10 : ∀ i < 16, bit 32 10 ≤ bit 32 i ∧ bit 32 i ≤ bit 32 15 ↔ 10 ≤ i ∧ i ≤ 15 := by
  decide

theorem n32PinIrqEnable_zero {s : State} {pin : ℤ} {i : ℕ} (h : pinLine pin = some i) :
    n32PinIrqEnable s pin 0 = (disarmLine s i, .eok) := by
  obtain ⟨ix, hix, hi, hpin⟩ := pinLine_eq_some.1 h
  have hmap : getPinIrqMap (bit 32 i) = some ⟨bit 32 i, lineVector i⟩ := by
    unfold getPinIrqMap pinIrqMapAt
    rw [bit2bitno_bit i hi, if_neg (by omega), Int.toNat_natCast, pinIrqMap_getElem i hi]
  have h01 : ¬(0 : BitVec 8) = 1 := by decide
  simp only [n32PinIrqEnable, hix, h01, if_false, if_true, pinIrqDisable, hpin, hmap,
    range9_5 i hi, range15_10 i hi, rtHwInterruptDisable]
  unfold disarmLine
  by_cases h9 : 5 ≤ i ∧ i ≤ 9
  · have hv : lineVector i = .exti9_5 := (lineVector_eq_exti9_5 i hi).2 h9
    have hidle := anySet_group s.pinIrqEnableMask (i := i) (by decide) getLsbD_group9_5
      fun j hj => by rw [hv]; exact lineVector_eq_exti9_5 j hj
    simp only [h9, and_self, if_true, hidle]
    split <;> rfl
  by_cases h15 : 10 ≤ i ∧ i ≤ 15
  · have hv : lineVector i = .exti15_10 := (lineVector_eq_exti15_10 i hi).2 h15
    have hidle := anySet_group s.pinIrqEnableMask (i := i) (by decide)
      getLsbD_group15_10 fun j hj => by rw [hv]; exact lineVector_eq_exti15_10 j hj
    simp only [h9, if_false, h15, and_self, if_true, hidle]
    split <;> rfl
  · have hid : VectorIdle s.pinIrqEnableMask i := fun j hj hji hv =>
      absurd (lineVector_single i (by omega) j hj hv) hji
    simp only [h9, h15, if_false, hid, if_true]
    rfl

theorem n32PinIrqEnable_other {s : State} {pin : ℤ} {enabled : BitVec 8} (h1 : enabled ≠ 1)
    (h0 : enabled ≠ 0) : n32PinIrqEnable s pin enabled = (s, .enosys) := by
  unfold n32PinIrqEnable
  rcases getPin pin with _ | ix
  · rfl
  · simp only [if_neg h1, if_neg h0]

end N32L43x.Gpio
