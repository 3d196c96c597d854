import N32L43x.Gpio.Pins

/-!
When the check of a pin number does its work.  A number that is no pin is turned away unless its low
byte is the number of a pin: then the operation is carried out for that pin, and attaching stores a
number that no pin has.
-/

namespace N32L43x.Gpio

open N32L43x.Lib.Bits N32L43x.Lib.Run

/-! ### What `get_pin` finds -/

lemma mem_portPins {base : ℤ} {gpio : GpioModule} {ix : PinIndex} :
    ix ∈ portPins base gpio ↔ ∃ k : ℕ, k < 16 ∧ ix = ⟨base + k, gpio, bit 32 k⟩ := by
  simp only [portPins, List.mem_map, List.mem_range]
  exact exists_congr fun k => and_congr_right fun _ => eq_comm

/-- The indices of the table are its positions. -/
lemma pins_map_index : ∀ k : ℕ, k < 64 → (pins[k]?).map PinIndex.index = some (k : ℤ) := by decide

lemma pins_getElem_index {k : ℕ} (hk : k < 64) : ∃ ix, pins[k]? = some ix ∧ ix.index = k :=
  Option.map_eq_some_iff.1 (pins_map_index k hk)

lemma pins_length : pins.length = 64 := by
  simp [pins, portPins]

lemma pinExists_iff {pin : ℤ} : PinExists pin ↔ 0 ≤ pin ∧ pin < 64 := by
  constructor
  · rintro ⟨ix, hix, rfl⟩
    simp only [pins, List.mem_append, mem_portPins] at hix
    rcases hix with ((⟨k, hk, rfl⟩ | ⟨k, hk, rfl⟩) | ⟨k, hk, rfl⟩) | ⟨k, hk, rfl⟩ <;>
      simp only <;> omega
  · rintro ⟨h0, h64⟩
    obtain ⟨ix, hget, hindex⟩ := pins_getElem_index (k := pin.toNat) (by omega)
    exact ⟨ix, List.mem_of_getElem? hget, by omega⟩

/-- `get_pin` goes by the low byte. -/
lemma getPin_low {pin : ℤ} (h : pin % 256 < 64) :
    ∃ ix ∈ pins, getPin pin = some ix ∧ ix.index = pin % 256 := by
  have hlow : toUint8 pin < 64 := by
    unfold toUint8
    omega
  obtain ⟨ix, hget, hindex⟩ := pins_getElem_index hlow
  have hpin : ix.index = pin % 256 := by
    rw [hindex, toUint8]
    omega
  refine ⟨ix, List.mem_of_getElem? hget, ?_, hpin⟩
  simp only [getPin, hget]
  rw [if_neg (by omega)]

lemma getPin_high {pin : ℤ} (h : ¬pin % 256 < 64) : getPin pin = none := by
  have hget : pins[toUint8 pin]? = none := by
    rw [List.getElem?_eq_none_iff, pins_length]
    unfold toUint8
    omega
  simp only [getPin, hget]

lemma pinLine_low {pin : ℤ} (h : pin % 256 < 64) : ∃ i, pinLine pin = some i := by
  obtain ⟨ix, -, hget, -⟩ := getPin_low h
  exact ⟨_, by rw [pinLine, hget, Option.map_some]⟩

lemma not_aliased_of_exists {pin : ℤ} (h : PinExists pin) : ¬ Aliased pin :=
  fun ha => ha.1 (pinExists_iff.1 h)

/-- The entry that `get_pin` finds for a pin that exists is the pin's own. -/
lemma exists_entry {pin : ℤ} {i : ℕ} (h : PinExists pin) (hl : pinLine pin = some i) :
    ∃ ix ∈ pins, ix.index = pin ∧ ix.pin = bit 32 i := by
  obtain ⟨h0, h64⟩ := pinExists_iff.1 h
  obtain ⟨ix, hmem, hget, hindex⟩ := getPin_low (show pin % 256 < 64 by omega)
  obtain ⟨ix', hget', -, hbit⟩ := pinLine_eq_some.1 hl
  obtain rfl : ix = ix' := by simpa [hget] using hget'
  exact ⟨ix, hmem, by omega, hbit⟩

/-! ### Accesses of the port operations -/

lemma gpioWriteBit_log (b : Bus) (gpio : GpioModule) (pin : BitVec 32) (bitCmd : BitVec 8) :
    b.log.length < (gpioWriteBit b gpio pin bitCmd).log.length := by
  unfold gpioWriteBit
  split <;> simp

lemma gpioReadInputDataBit_log (b : Bus) (gpio : GpioModule) (pin : BitVec 32) :
    b.log.length < (gpioReadInputDataBit b gpio pin).2.log.length := by
  simp [gpioReadInputDataBit]

lemma n32GpioClockEnable_log (b : Bus) (gpio : GpioModule) :
    b.log.length < (n32GpioClockEnable b gpio).log.length := by
  cases gpio <;> simp only [n32GpioClockEnable, Bus.modify_log, List.length_cons] <;> omega

lemma log_le_ite {p : Prop} [Decidable p] {b x y : Bus} (hx : b.log.length ≤ x.log.length)
    (hy : b.log.length ≤ y.log.length) : b.log.length ≤ (if p then x else y).log.length := by
  split
  · exact hx
  · exact hy

lemma log_le_modify (b : Bus) (r : Reg) (f : BitVec 32 → BitVec 32) :
    b.log.length ≤ (b.modify r f).log.length := by
  rw [Bus.modify_log, List.length_cons, List.length_cons]
  omega

lemma gpioInitPin_log (gpio : GpioModule) (init : GpioInitType) (b : Bus) (position : ℕ) :
    b.log.length ≤ (gpioInitPin gpio init b position).log.length := by
  unfold gpioInitPin
  -- each part of a turn leaves the registers alone or reads and writes one
  refine le_trans ?_ (log_le_ite (log_le_modify _ _ _) le_rfl)
  refine le_trans ?_ (log_le_ite (log_le_modify _ _ _)
    (log_le_ite (log_le_modify _ _ _) le_rfl))
  refine le_trans ?_ (log_le_modify _ _ _)
  refine le_trans ?_ (log_le_ite (log_le_modify _ _ _) le_rfl)
  refine le_trans ?_ (log_le_modify _ _ _)
  refine le_trans ?_ (log_le_modify _ _ _)
  exact log_le_ite (log_le_ite (log_le_modify _ _ _) (log_le_modify _ _ _)) le_rfl

lemma foldl_gpioInitPin_log (gpio : GpioModule) (init : GpioInitType) (ps : List ℕ) (b : Bus) :
    b.log.length ≤ (ps.foldl (gpioInitPin gpio init) b).log.length := by
  induction ps generalizing b with
  | nil => exact le_refl _
  | cons p ps ih => exact (gpioInitPin_log gpio init b p).trans (ih _)

section Low

variable {pin : ℤ} (h : pin % 256 < 64) (b : Bus)
include h

lemma n32PinWrite_log (value : BitVec 8) : b.log.length < (n32PinWrite b pin value).log.length := by
  obtain ⟨ix, -, hget, -⟩ := getPin_low h
  simp only [n32PinWrite, hget]
  exact gpioWriteBit_log b ix.gpio ix.pin value

lemma n32PinRead_log : b.log.length < (n32PinRead b pin).2.log.length := by
  obtain ⟨ix, -, hget, -⟩ := getPin_low h
  simp only [n32PinRead, hget]
  exact gpioReadInputDataBit_log b ix.gpio ix.pin

lemma n32PinMode_log (mode : BitVec 8) : b.log.length < (n32PinMode b pin mode).log.length := by
  obtain ⟨ix, -, hget, -⟩ := getPin_low h
  simp only [n32PinMode, hget, gpioInitPeripheral]
  exact (n32GpioClockEnable_log b ix.gpio).trans_le (foldl_gpioInitPin_log _ _ _ _)

end Low

/-! ### The check, call by call -/

lemma Untouched.refl (d : Device) : Untouched d d := ⟨rfl, rfl⟩

/-- A number whose low byte is no pin is turned away by every operation. -/
lemma rejected_of_high (d : Device) {c : PinCall} (h : ¬c.pin % 256 < 64) : Rejected d c := by
  have hget : getPin c.pin = none := getPin_high h
  have hline : pinLine c.pin = none := pinLine_eq_none.2 hget
  cases c with
  | mode pin mode =>
    have hrun : n32PinMode d.bus pin mode = d.bus := by
      rw [n32PinMode]
      rw [PinCall.pin] at hget
      rw [hget]
    refine ⟨⟨hrun, rfl⟩, ?_⟩
    simp [PinCall.run]
  | write pin value =>
    have hrun : n32PinWrite d.bus pin value = d.bus := by
      rw [n32PinWrite]
      rw [PinCall.pin] at hget
      rw [hget]
    refine ⟨⟨hrun, rfl⟩, ?_⟩
    simp [PinCall.run]
  | read pin =>
    have hrun : n32PinRead d.bus pin = (.error .einval, d.bus) := by
      rw [n32PinRead]
      rw [PinCall.pin] at hget
      rw [hget]
    refine ⟨⟨?_, rfl⟩, ?_⟩
    · simp [PinCall.run, hrun]
    · simp [PinCall.run, hrun]
  | irq c =>
    have hrun : c.run d.drv = (d.drv, .enosys) := by
      cases c with
      | attach pin mode hdr args => exact n32PinAttachIrq_of_none hline
      | dettach pin => exact n32PinDettachIrq_of_none hline
      | irqEnable pin enabled => exact n32PinIrqEnable_of_none hline
    refine ⟨⟨rfl, ?_⟩, ?_⟩
    · simp [PinCall.run, hrun]
    · simp [PinCall.run, hrun]

lemma not_rejected_of_log {d : Device} {c : PinCall}
    (h : d.bus.log.length < (c.run d).1.bus.log.length) : ¬ Rejected d c := by
  rintro ⟨⟨hbus, -⟩, -⟩
  rw [hbus] at h
  exact lt_irrefl _ h

lemma not_rejected_of_ok {d : Device} {c : PinCall} (h : (c.run d).2 = some .eok) :
    ¬ Rejected d c :=
  fun hrej => hrej.2 h

lemma rejected_irq {d : Device} {c : Call} {s : State} {e : RtErr} (hrun : c.run d.drv = (s, e))
    (hs : { s with primask := d.drv.primask } = d.drv) (he : e ≠ .eok) : Rejected d (.irq c) := by
  refine ⟨⟨rfl, ?_⟩, ?_⟩
  · simpa [PinCall.run, hrun] using hs
  · simpa [PinCall.run, hrun] using he

lemma not_rejected_irq {d : Device} {c : Call} {s : State} (hrun : c.run d.drv = (s, .eok)) :
    ¬ Rejected d (.irq c) := by
  apply not_rejected_of_ok
  rw [PinCall.run, hrun]

lemma rejected_attach_iff (d : Device) {pin : ℤ} {i : ℕ} (hl : pinLine pin = some i)
    (mode : BitVec 8) (hdr args : ℕ) :
    Rejected d (.irq (.attach pin mode hdr args)) ↔
      ¬((d.drv.pinIrqHdrTab i).pin = -1 ∨ d.drv.pinIrqHdrTab i = ⟨pin, mode, hdr, args⟩) := by
  have hrun : (Call.attach pin mode hdr args).run d.drv = _ := n32PinAttachIrq_eq hl
  by_cases hsame : d.drv.pinIrqHdrTab i = ⟨pin, mode, hdr, args⟩
  · rw [if_pos hsame] at hrun
    exact iff_of_false (not_rejected_irq hrun) fun h => h (Or.inr hsame)
  rw [if_neg hsame] at hrun
  by_cases hfree : (d.drv.pinIrqHdrTab i).pin = -1
  · rw [if_neg (not_not.2 hfree)] at hrun
    exact iff_of_false (not_rejected_irq hrun) fun h => h (Or.inl hfree)
  · rw [if_pos hfree] at hrun
    refine iff_of_true (rejected_irq hrun rfl (by decide)) ?_
    rintro (h | h)
    · exact hfree h
    · exact hsame h

lemma not_rejected_dettach (d : Device) {pin : ℤ} {i : ℕ} (hl : pinLine pin = some i) :
    ¬ Rejected d (.irq (.dettach pin)) := by
  have hrun : (Call.dettach pin).run d.drv = _ := n32PinDettachIrq_eq hl
  split at hrun
  · exact not_rejected_irq hrun
  · exact not_rejected_irq hrun

lemma rejected_irqEnable_iff (d : Device) {pin : ℤ} {i : ℕ} (hl : pinLine pin = some i)
    (enabled : BitVec 8) :
    Rejected d (.irq (.irqEnable pin enabled)) ↔
      ¬(enabled = 0 ∨ enabled = 1 ∧ (d.drv.pinIrqHdrTab i).pin ≠ -1 ∧
        triggerOfMode (d.drv.pinIrqHdrTab i).mode ≠ none) := by
  by_cases h0 : enabled = 0
  · subst h0
    have hrun : (Call.irqEnable pin 0).run d.drv = _ := n32PinIrqEnable_zero hl
    exact iff_of_false (not_rejected_irq hrun) fun h => h (Or.inl rfl)
  by_cases h1 : enabled = 1
  · subst h1
    have hrun : (Call.irqEnable pin 1).run d.drv = _ := n32PinIrqEnable_one hl
    simp only [h0, true_and, false_or]
    by_cases hfree : (d.drv.pinIrqHdrTab i).pin = -1
    · rw [if_pos hfree] at hrun
      exact iff_of_true (rejected_irq hrun rfl (by decide)) fun h => h.1 hfree
    rw [if_neg hfree] at hrun
    rcases htr : triggerOfMode (d.drv.pinIrqHdrTab i).mode with _ | trigger
    · rw [htr] at hrun
      exact iff_of_true (rejected_irq hrun rfl (by decide)) fun h => h.2 rfl
    · rw [htr] at hrun
      exact iff_of_false (not_rejected_irq hrun) fun h => h ⟨hfree, by simp⟩
  · have hrun : (Call.irqEnable pin enabled).run d.drv = _ := n32PinIrqEnable_other h1 h0
    refine iff_of_true (rejected_irq hrun rfl (by decide)) ?_
    rintro (h | h)
    · exact h0 h
    · exact h1 h.1

/-- A number whose low byte is a pin is turned away exactly by the calls that are not carried out. -/
lemma rejected_low_iff (d : Device) (c : PinCall) (h : c.pin % 256 < 64) :
    Rejected d c ↔ ¬ CarriedOut d c := by
  cases c with
  | mode pin mode =>
    exact iff_of_false (not_rejected_of_log (n32PinMode_log h d.bus mode)) fun hc => hc trivial
  | write pin value =>
    exact iff_of_false (not_rejected_of_log (n32PinWrite_log h d.bus value)) fun hc => hc trivial
  | read pin =>
    exact iff_of_false (not_rejected_of_log (n32PinRead_log h d.bus)) fun hc => hc trivial
  | irq c =>
    obtain ⟨i, hl⟩ := pinLine_low h
    cases c with
    | attach pin mode hdr args =>
      rw [PinCall.pin, Call.pin] at hl
      rw [rejected_attach_iff d hl, CarriedOut]
      simp [hl]
    | dettach pin => exact iff_of_false (not_rejected_dettach d hl) fun hc => hc trivial
    | irqEnable pin enabled =>
      rw [PinCall.pin, Call.pin] at hl
      rw [rejected_irqEnable_iff d hl, CarriedOut]
      simp [hl]

/-- The check fails for the aliased numbers, in the calls that are carried out. -/
lemma checked_iff (d : Device) (c : PinCall) :
    Checked d c ↔ ¬(Aliased c.pin ∧ CarriedOut d c) := by
  by_cases hex : PinExists c.pin
  · exact iff_of_true (Or.inl hex) fun h => not_aliased_of_exists hex h.1
  have hrange : ¬(0 ≤ c.pin ∧ c.pin < 64) := fun h => hex (pinExists_iff.2 h)
  by_cases hlow : c.pin % 256 < 64
  · rw [Checked, or_iff_right hex, rejected_low_iff d c hlow]
    exact not_congr ⟨fun h => ⟨⟨hrange, hlow⟩, h⟩, And.right⟩
  · exact iff_of_true (Or.inr (rejected_of_high d hlow)) fun h => hlow h.1.2

/-! ### The table -/

lemma SlotsValid.congr {d d' : Device} (h : SlotsValid d)
    (htab : d'.drv.pinIrqHdrTab = d.drv.pinIrqHdrTab) : SlotsValid d' := by
  unfold SlotsValid
  rw [htab]
  exact h

lemma SlotsValid.update {d d' : Device} (h : SlotsValid d) {i : ℕ} {slot : RtPinIrqHdr}
    (htab : d'.drv.pinIrqHdrTab = Function.update d.drv.pinIrqHdrTab i slot)
    (hslot : slot.pin ≠ -1 → ∃ ix ∈ pins, ix.index = slot.pin ∧ ix.pin = bit 32 i) :
    SlotsValid d' := by
  intro j hj hpin
  rw [htab] at hpin ⊢
  by_cases hji : j = i
  · subst hji
    rw [Function.update_self] at hpin ⊢
    exact hslot hpin
  · rw [Function.update_of_ne hji] at hpin ⊢
    exact h j hj hpin

/-- The table a call leaves: as it was, with a slot emptied, or with a free slot taken. -/
lemma run_pinIrqHdrTab (s : State) (c : Call) :
    (c.run s).1.pinIrqHdrTab = s.pinIrqHdrTab ∨
    (∃ i, (c.run s).1.pinIrqHdrTab = Function.update s.pinIrqHdrTab i emptySlot) ∨
    ∃ pin mode hdr args i, c = .attach pin mode hdr args ∧ pinLine pin = some i ∧
      (s.pinIrqHdrTab i).pin = -1 ∧
      (c.run s).1.pinIrqHdrTab = Function.update s.pinIrqHdrTab i ⟨pin, mode, hdr, args⟩ := by
  cases c with
  | attach pin mode hdr args =>
    rcases hl : pinLine pin with _ | i
    · rw [Call.run, n32PinAttachIrq_of_none hl]
      exact Or.inl rfl
    rw [Call.run, n32PinAttachIrq_eq hl]
    split
    · exact Or.inl rfl
    split
    · exact Or.inl rfl
    · next hfree => exact Or.inr (Or.inr ⟨pin, mode, hdr, args, i, rfl, hl, not_not.1 hfree, rfl⟩)
  | dettach pin =>
    rcases hl : pinLine pin with _ | i
    · rw [Call.run, n32PinDettachIrq_of_none hl]
      exact Or.inl rfl
    rw [Call.run, n32PinDettachIrq_eq hl]
    split
    · exact Or.inl rfl
    · exact Or.inr (Or.inl ⟨i, rfl⟩)
  | irqEnable pin enabled =>
    left
    rcases hl : pinLine pin with _ | i
    · rw [Call.run, n32PinIrqEnable_of_none hl]
    by_cases h1 : enabled = 1
    · subst h1
      rw [Call.run, n32PinIrqEnable_one hl]
      split
      · rfl
      rcases triggerOfMode (s.pinIrqHdrTab i).mode with _ | trigger
      · rfl
      · exact armLine_pinIrqHdrTab s _ i trigger
    by_cases h0 : enabled = 0
    · subst h0
      rw [Call.run, n32PinIrqEnable_zero hl]
      rfl
    · rw [Call.run, n32PinIrqEnable_other h1 h0]

/-- A call that does not store an alias keeps the table valid. -/
lemma SlotsValid.run {d : Device} (h : SlotsValid d) {c : PinCall} (hc : ¬ StoresAlias d c) :
    SlotsValid (c.run d).1 := by
  cases c with
  | mode pin mode => exact h.congr rfl
  | write pin value => exact h.congr rfl
  | read pin => exact h.congr rfl
  | irq c =>
    rcases run_pinIrqHdrTab d.drv c with
      htab | ⟨i, htab⟩ | ⟨pin, mode, hdr, args, i, rfl, hl, hfree, htab⟩
    · exact h.congr htab
    · exact h.update htab fun hpin => absurd rfl hpin
    · refine h.update htab fun _ => exists_entry ?_ hl
      by_contra hex
      have hlow : pin % 256 < 64 := by
        by_contra hhigh
        rw [pinLine_eq_none.2 (getPin_high hhigh)] at hl
        cases hl
      exact hc ⟨⟨fun hrange => hex (pinExists_iff.2 hrange), hlow⟩, i, hl, hfree⟩

/-- A call that stores an alias leaves a slot with a number that is no pin. -/
lemma not_slotsValid_of_storesAlias {d : Device} {c : PinCall} (hc : StoresAlias d c) :
    ¬ SlotsValid (c.run d).1 := by
  cases c with
  | irq c =>
    cases c with
    | attach pin mode hdr args =>
      obtain ⟨halias, i, hl, hfree⟩ := hc
      have hpin : pin ≠ -1 := by
        rintro rfl
        exact absurd halias.2 (by decide)
      have hne : d.drv.pinIrqHdrTab i ≠ ⟨pin, mode, hdr, args⟩ := by
        intro hsame
        rw [hsame] at hfree
        exact hpin hfree
      have hrun : (Call.attach pin mode hdr args).run d.drv = _ := n32PinAttachIrq_eq hl
      rw [if_neg hne, if_neg (not_not.2 hfree)] at hrun
      intro hvalid
      have hslot := hvalid i (pinLine_lt hl)
      simp only [PinCall.run, hrun, Function.update_self] at hslot
      obtain ⟨ix, hmem, hindex, -⟩ := hslot hpin
      exact halias.1 (pinExists_iff.1 ⟨ix, hmem, hindex⟩)
    | dettach pin => exact hc.elim
    | irqEnable pin enabled => exact hc.elim
  | _ => exact hc.elim

lemma slotsValid_init : SlotsValid Device.init := fun _ _ hpin => absurd rfl hpin

/-- Every run is possible. -/
lemma exec_deviceStep (cs : List PinCall) (d : Device) : ∃ d', exec deviceStep d cs = some d' := by
  induction cs generalizing d with
  | nil => exact ⟨d, rfl⟩
  | cons c cs ih =>
    obtain ⟨d', hd'⟩ := ih (c.run d).1
    exact ⟨d', by rw [exec_cons_some rfl, hd']⟩

/-- The table is valid up to the end of a run exactly if no call of the run stores an alias. -/
lemma slotsValid_iff_along (cs : List PinCall) :
    (∀ bs, bs <+: cs → ∀ d, exec deviceStep Device.init bs = some d → SlotsValid d) ↔
      Along deviceStep (fun d c => ¬ StoresAlias d c) Device.init cs := by
  obtain ⟨d', hrun⟩ := exec_deviceStep cs Device.init
  refine states_iff_along (I := SlotsValid) ?_ ?_ (fun _ h => h) cs Device.init d' slotsValid_init
    hrun
  · intro d c t h hc hstep
    obtain rfl : (c.run d).1 = t := by simpa [deviceStep] using hstep
    exact h.run hc
  · intro d c t _ hc hstep
    obtain rfl : (c.run d).1 = t := by simpa [deviceStep] using hstep
    exact not_slotsValid_of_storesAlias (not_not.1 hc)

/-- **The check of pin numbers, exactly.**  A call with a number that is no pin is turned away unless
the number is aliased and the call is carried out for the pin of its low byte; and over any run the
table holds pins of its lines as long as no aliased number is attached to a free slot. -/
theorem pinCheck_iff (d : Device) (c : PinCall) (cs : List PinCall) :
    (Checked d c ↔ ¬(Aliased c.pin ∧ CarriedOut d c)) ∧
    ((∀ bs, bs <+: cs → ∀ d, exec deviceStep Device.init bs = some d → SlotsValid d) ↔
      Along deviceStep (fun d c => ¬ StoresAlias d c) Device.init cs) :=
  ⟨checked_iff d c, slotsValid_iff_along cs⟩

/-- Pin 256 is no pin; writing it writes pin 0, and attaching it stores it in the table. -/
theorem not_pinCheck_256 :
    ¬ PinExists 256 ∧ ¬ Rejected Device.init (.write 256 1) ∧
      ∃ d, exec deviceStep Device.init [.irq (.attach 256 0 1 0)] = some d ∧ ¬ SlotsValid d := by
  have halias : Aliased 256 := ⟨by decide, by decide⟩
  refine ⟨fun h => not_aliased_of_exists h halias, ?_, _, rfl, ?_⟩
  · rw [rejected_low_iff Device.init (.write 256 1) halias.2, not_not]
    exact trivial
  · exact not_slotsValid_of_storesAlias ⟨halias, 0, rfl, rfl⟩

end N32L43x.Gpio
