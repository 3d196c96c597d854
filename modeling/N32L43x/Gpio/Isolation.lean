import N32L43x.Gpio.Spec
import N32L43x.Lib.Run

/-!
Isolation of the pins that share a line.  Pins of different ports with the same bit number share
one slot of the handler table, one bit of the enable mask and one field of the routing registers.
A call that names one of them should leave the set-up of another one that is attached alone.
Only `n32_pin_attach_irq` looks at the owner of the slot; `n32PinDettachIrq` and
`n32PinIrqEnable` do not.
-/

namespace N32L43x.Gpio

open N32L43x.Lib.Bits N32L43x.Lib.Run

/-! ### The property -/

/-- The interrupt set-up of the pin attached to a line: its slot, the port routed to the line and
its bit of the enable mask. -/
def lineSetup (s : State) (i : ℕ) : RtPinIrqHdr × BitVec 32 × Bool :=
  (s.pinIrqHdrTab i, routedPort s i, s.pinIrqEnableMask.getLsbD i)

/-- Slot `i` holds a pin, and it is not the pin `q`. -/
def HeldByOther (s : State) (i : ℕ) (q : ℤ) : Prop :=
  (s.pinIrqHdrTab i).pin ≠ -1 ∧ getPin (s.pinIrqHdrTab i).pin ≠ getPin q

instance (s : State) (i : ℕ) (q : ℤ) : Decidable (HeldByOther s i q) :=
  inferInstanceAs (Decidable (_ ∧ _))

/-- A call leaves the set-up of every attached pin other than the one it names as it was. -/
def Isolated (s : State) (c : Call) : Prop :=
  ∀ i < 16, HeldByOther s i c.pin → lineSetup (c.run s).1 i = lineSetup s i

instance (s : State) (c : Call) : Decidable (Isolated s c) :=
  inferInstanceAs (Decidable (∀ i < 16, _))

/-- The driver as a system: every call is possible in every state. -/
def callStep (s : State) (c : Call) : Option State := some (c.run s).1

/-! ### When the calls are isolated -/

/-- What a call on a pin whose slot `i` is held by another pin must not do: detach; enable, unless
the holder's mode is refused or its line is already routed to the caller's port and enabled;
disable, unless the line is already disabled. -/
def Harmless (s : State) (i : ℕ) : Call → Prop
  | .attach _ _ _ _ => True
  | .dettach _ => False
  | .irqEnable q enabled =>
    (enabled = 1 → triggerOfMode (s.pinIrqHdrTab i).mode = none ∨
      routedPort s i = pinPort q ∧ s.pinIrqEnableMask.getLsbD i = true) ∧
    (enabled = 0 → s.pinIrqEnableMask.getLsbD i = false)

instance (s : State) (i : ℕ) : ∀ c, Decidable (Harmless s i c)
  | .attach _ _ _ _ => isTrue trivial
  | .dettach _ => isFalse id
  | .irqEnable _ _ => inferInstanceAs (Decidable (_ ∧ _))

/-- The calls that meet the owner of the slot they work on: the slot is not held by another pin,
or the call is harmless. -/
def MeetsOwner (s : State) (c : Call) : Prop :=
  ∀ i ∈ pinLine c.pin, HeldByOther s i c.pin → Harmless s i c

instance (s : State) (c : Call) : Decidable (MeetsOwner s c) :=
  inferInstanceAs (Decidable (∀ i ∈ pinLine c.pin, _))

lemma lineSetup_armLine (s : State) {port : BitVec 32} (hport : port.toNat < 4) {i : ℕ}
    (hi : i < 16) (trigger : ExtiTrigger) :
    lineSetup (armLine s port i trigger) i = (s.pinIrqHdrTab i, port, true) := by
  unfold lineSetup
  rw [armLine_pinIrqHdrTab, routedPort_armLine s port i trigger hport, armLine_pinIrqEnableMask,
    getLsbD_setBit]
  simp [show i < 32 by omega]

lemma lineSetup_armLine_of_ne (s : State) {port : BitVec 32} (hport : port.toNat < 4) {i j : ℕ}
    (hji : j ≠ i) (trigger : ExtiTrigger) :
    lineSetup (armLine s port i trigger) j = lineSetup s j := by
  unfold lineSetup
  rw [armLine_pinIrqHdrTab, routedPort_armLine s port i trigger hport, armLine_pinIrqEnableMask,
    getLsbD_setBit]
  simp [hji]

lemma lineSetup_disarmLine (s : State) (i : ℕ) :
    lineSetup (disarmLine s i) i = (s.pinIrqHdrTab i, routedPort s i, false) := by
  unfold lineSetup disarmLine
  simp only [getLsbD_clearBit, decide_true, Bool.not_true, Bool.and_false]
  rfl

lemma lineSetup_disarmLine_of_ne (s : State) {i j : ℕ} (hji : j ≠ i) :
    lineSetup (disarmLine s i) j = lineSetup s j := by
  unfold lineSetup disarmLine
  simp only [getLsbD_clearBit, hji, decide_false, Bool.not_false, Bool.and_true]
  rfl

/-- A call works on the line of its pin only. -/
lemma lineSetup_run_of_ne (s : State) (c : Call) {i : ℕ} (h : pinLine c.pin ≠ some i) :
    lineSetup (c.run s).1 i = lineSetup s i := by
  rcases hl : pinLine c.pin with _ | j
  · cases c with
    | attach pin mode hdr args =>
      rw [Call.run, n32PinAttachIrq_of_none (show pinLine pin = none from hl)]
    | dettach pin => rw [Call.run, n32PinDettachIrq_of_none (show pinLine pin = none from hl)]
    | irqEnable pin enabled =>
      rw [Call.run, n32PinIrqEnable_of_none (show pinLine pin = none from hl)]
  · have hij : i ≠ j := fun e => h (e ▸ hl)
    cases c with
    | attach pin mode hdr args =>
      rw [Call.run, n32PinAttachIrq_eq (show pinLine pin = some j from hl)]
      split_ifs
      · rfl
      · rfl
      · simp [lineSetup, routedPort, hij]
    | dettach pin =>
      rw [Call.run, n32PinDettachIrq_eq (show pinLine pin = some j from hl)]
      split_ifs
      · rfl
      · simp [lineSetup, routedPort, hij]
    | irqEnable pin enabled =>
      replace hl : pinLine pin = some j := hl
      rw [Call.run]
      by_cases h1 : enabled = 1
      · rw [h1, n32PinIrqEnable_one hl]
        split_ifs
        · rfl
        · rcases triggerOfMode (s.pinIrqHdrTab j).mode with _ | trigger
          · rfl
          · exact lineSetup_armLine_of_ne s (pinPort_lt pin) hij trigger
      by_cases h0 : enabled = 0
      · rw [h0, n32PinIrqEnable_zero hl]
        exact lineSetup_disarmLine_of_ne s hij
      · rw [n32PinIrqEnable_other h1 h0]

/-- On the line of its pin, held by another pin, a call is isolated exactly if it is harmless. -/
lemma lineSetup_run_iff (s : State) (c : Call) {i : ℕ} (hl : pinLine c.pin = some i)
    (hheld : HeldByOther s i c.pin) :
    lineSetup (c.run s).1 i = lineSetup s i ↔ Harmless s i c := by
  obtain ⟨hpin, hother⟩ := hheld
  cases c with
  | attach pin mode hdr args =>
    rw [Call.run, n32PinAttachIrq_eq (show pinLine pin = some i from hl)]
    split_ifs <;> simp [Harmless]
  | dettach pin =>
    rw [Call.run, n32PinDettachIrq_eq (show pinLine pin = some i from hl), if_neg hpin]
    simp only [Harmless, iff_false]
    intro h
    have := congrArg (fun x => x.1.pin) h
    simp [lineSetup, emptySlot] at this
    exact hpin this.symm
  | irqEnable pin enabled =>
    replace hl : pinLine pin = some i := hl
    rw [Call.run]
    by_cases h1 : enabled = 1
    · rw [h1, n32PinIrqEnable_one hl, if_neg hpin]
      rcases ht : triggerOfMode (s.pinIrqHdrTab i).mode with _ | trigger
      · simp [Harmless, ht, lineSetup, routedPort]
      · simp only [lineSetup_armLine s (pinPort_lt pin) (pinLine_lt hl)]
        simp only [lineSetup, Harmless, ht, Prod.mk.injEq, true_and, reduceCtorEq, false_or]
        constructor
        · rintro ⟨hr, hm⟩
          exact ⟨fun _ => ⟨hr.symm, hm.symm⟩, fun h => absurd h (by decide)⟩
        · rintro ⟨h, -⟩
          exact ⟨(h trivial).1.symm, (h trivial).2.symm⟩
    by_cases h0 : enabled = 0
    · rw [h0, n32PinIrqEnable_zero hl]
      simp only [lineSetup_disarmLine]
      simp only [lineSetup, Harmless, Prod.mk.injEq, true_and]
      constructor
      · intro h
        exact ⟨fun h01 => absurd h01 (by decide), fun _ => h.symm⟩
      · rintro ⟨-, h⟩
        exact (h trivial).symm
    · rw [n32PinIrqEnable_other h1 h0]
      exact iff_of_true rfl ⟨fun h => absurd h h1, fun h => absurd h h0⟩

/-- **Exactly the calls that meet the owner are isolated**, in any state. -/
lemma isolated_iff_meetsOwner (s : State) (c : Call) : Isolated s c ↔ MeetsOwner s c := by
  constructor
  · intro h i hi hheld
    exact (lineSetup_run_iff s c hi hheld).1 (h i (pinLine_lt hi) hheld)
  · intro h i _ hheld
    by_cases hl : pinLine c.pin = some i
    · exact (lineSetup_run_iff s c hl hheld).2 (h i hl hheld)
    · exact lineSetup_run_of_ne s c hl

/-- **Isolation over runs.**  In a run of the driver, every call leaves the set-up of the other
pins alone if and only if every call meets the owner of the slot it works on. -/
theorem isolation_iff (cs : List Call) :
    Along callStep Isolated State.init cs ↔ Along callStep MeetsOwner State.init cs :=
  along_iff_of_inv (I := fun _ => True) (fun _ _ _ _ _ _ => trivial)
    (fun s c _ => isolated_iff_meetsOwner s c) cs State.init trivial

/-- `PA0` is attached and enabled; enabling, disabling and detaching `PB0`, pin 16, which was
never attached, reroutes its line, clears its mask bit and removes its handler. -/
theorem isolation_fails :
    ¬Along callStep Isolated State.init [.attach 0 0 1 0, .irqEnable 0 1, .irqEnable 16 1] ∧
      ¬Along callStep Isolated State.init [.attach 0 0 1 0, .irqEnable 0 1, .irqEnable 16 0] ∧
        ¬Along callStep Isolated State.init [.attach 0 0 1 0, .irqEnable 0 1, .dettach 16] := by
  decide

end N32L43x.Gpio
