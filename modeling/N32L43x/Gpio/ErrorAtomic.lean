import N32L43x.Gpio.Isolation

/-!
What the calls of the interrupt driver leave behind.  A call takes the interrupt lock in the middle
and has several ways out; it should give the interrupt state back on each of them, and a call that
returns an error should have changed no set-up.  One way out of `n32_pin_irq_enable` does not give
the state back: the `default` branch over the mode, which `n32_pin_attach_irq` stores unchecked.
-/

namespace N32L43x.Gpio

open N32L43x.Lib.Bits N32L43x.Lib.Run

/-! ### The property -/

/-- The set-up of the driver is the same: the handler table, the enable mask, the routing of the
lines, the EXTI mask and the enable bits of the NVIC. -/
structure SameSetup (s s' : State) : Prop where
  pinIrqHdrTab : s'.pinIrqHdrTab = s.pinIrqHdrTab
  pinIrqEnableMask : s'.pinIrqEnableMask = s.pinIrqEnableMask
  extiCfg : s'.extiCfg = s.extiCfg
  imask : s'.imask = s.imask
  nvic : s'.nvic = s.nvic

lemma SameSetup.refl (s : State) : SameSetup s s := ⟨rfl, rfl, rfl, rfl, rfl⟩

/-- A call gives the interrupt state back, and changes no set-up if it returns an error. -/
def ErrorAtomic (s : State) (c : Call) : Prop :=
  (c.run s).1.primask = s.primask ∧ ((c.run s).2 ≠ .eok → SameSetup s (c.run s).1)

/-- The call that does not give the interrupt state back: it enables a pin whose slot is taken with
a mode the `switch` does not know, while interrupts are enabled. -/
def LeavesLocked (s : State) : Call → Prop
  | .irqEnable pin enabled =>
    enabled = 1 ∧ s.primask = false ∧
      ∃ i ∈ pinLine pin, (s.pinIrqHdrTab i).pin ≠ -1 ∧ triggerOfMode (s.pinIrqHdrTab i).mode = none
  | _ => False

/-! ### The calls, one by one -/

lemma errorAtomic_of_unchanged {s : State} {c : Call} {e : RtErr} (h : c.run s = (s, e)) :
    ErrorAtomic s c := by
  rw [ErrorAtomic, h]
  exact ⟨rfl, fun _ => SameSetup.refl s⟩

lemma errorAtomic_of_ok {s s' : State} {c : Call} (h : c.run s = (s', .eok))
    (hlock : s'.primask = s.primask) : ErrorAtomic s c := by
  rw [ErrorAtomic, h]
  exact ⟨hlock, fun herr => absurd rfl herr⟩

lemma errorAtomic_attach (s : State) (pin : ℤ) (mode : BitVec 8) (hdr args : ℕ) :
    ErrorAtomic s (.attach pin mode hdr args) := by
  rcases hl : pinLine pin with _ | i
  · exact errorAtomic_of_unchanged (n32PinAttachIrq_of_none hl)
  · have hrun : n32PinAttachIrq s pin mode hdr args = _ := n32PinAttachIrq_eq hl
    split at hrun
    · exact errorAtomic_of_unchanged hrun
    · split at hrun
      · exact errorAtomic_of_unchanged hrun
      · exact errorAtomic_of_ok hrun rfl

lemma errorAtomic_dettach (s : State) (pin : ℤ) : ErrorAtomic s (.dettach pin) := by
  rcases hl : pinLine pin with _ | i
  · exact errorAtomic_of_unchanged (n32PinDettachIrq_of_none hl)
  · have hrun := n32PinDettachIrq_eq (s := s) hl
    split at hrun
    · exact errorAtomic_of_unchanged hrun
    · exact errorAtomic_of_ok hrun rfl

@[simp] theorem armLine_primask (s : State) (port : BitVec 32) (i : ℕ) (trigger : ExtiTrigger) :
    (armLine s port i trigger).primask = s.primask := by
  cases trigger <;> rfl

/-- Enabling a pin that has a line: the one way out that keeps the lock is the `default` branch. -/
lemma errorAtomic_irqEnable_one {s : State} {pin : ℤ} {i : ℕ} (hl : pinLine pin = some i) :
    ErrorAtomic s (.irqEnable pin 1) ↔
      ¬(s.primask = false ∧ (s.pinIrqHdrTab i).pin ≠ -1 ∧
        triggerOfMode (s.pinIrqHdrTab i).mode = none) := by
  have hrun : (Call.irqEnable pin 1).run s = _ := n32PinIrqEnable_one hl
  by_cases hfree : (s.pinIrqHdrTab i).pin = -1
  · rw [if_pos hfree] at hrun
    simp only [hfree, ne_eq, not_true_eq_false, false_and, and_false, not_false_eq_true, iff_true]
    exact errorAtomic_of_unchanged hrun
  rw [if_neg hfree] at hrun
  rcases htr : triggerOfMode (s.pinIrqHdrTab i).mode with _ | trigger
  · rw [htr] at hrun
    rw [ErrorAtomic, hrun]
    constructor
    · rintro ⟨hlock, -⟩ ⟨hopen, -⟩
      rw [hopen] at hlock
      cases hlock
    · intro h
      refine ⟨?_, fun _ => ⟨rfl, rfl, rfl, rfl, rfl⟩⟩
      by_contra hlock
      exact h ⟨by simpa using Ne.symm hlock, hfree, rfl⟩
  · rw [htr] at hrun
    simp only [reduceCtorEq, and_false, not_false_eq_true, iff_true]
    exact errorAtomic_of_ok hrun (armLine_primask s _ i trigger)

/-- **Every call but one is atomic**: whatever the state, the pin, the mode and the enabled byte, a
call gives the interrupt state back and changes nothing with an error, unless it is the enable call
that finds a mode unknown to the `switch`. -/
theorem errorAtomic_iff (s : State) (c : Call) : ErrorAtomic s c ↔ ¬ LeavesLocked s c := by
  cases c with
  | attach pin mode hdr args => exact iff_of_true (errorAtomic_attach s pin mode hdr args) id
  | dettach pin => exact iff_of_true (errorAtomic_dettach s pin) id
  | irqEnable pin enabled =>
    rcases hl : pinLine pin with _ | i
    · refine iff_of_true (errorAtomic_of_unchanged (n32PinIrqEnable_of_none hl)) ?_
      rintro ⟨-, -, i, hi, -⟩
      rw [hl] at hi
      cases hi
    · by_cases h1 : enabled = 1
      · subst h1
        rw [errorAtomic_irqEnable_one hl, LeavesLocked, hl]
        simp
      · refine iff_of_true ?_ fun h => h1 h.1
        by_cases h0 : enabled = 0
        · subst h0
          exact errorAtomic_of_ok (n32PinIrqEnable_zero hl) rfl
        · exact errorAtomic_of_unchanged (n32PinIrqEnable_other h1 h0)

/-- A level-triggered pin is attached without an error, and enabling it leaves the interrupts
disabled. -/
theorem not_errorAtomic_level :
    (n32PinAttachIrq State.init 0 3 1 0).2 = .eok ∧
      ¬ ErrorAtomic (n32PinAttachIrq State.init 0 3 1 0).1 (.irqEnable 0 1) := by
  have hattach : n32PinAttachIrq State.init 0 3 1 0 =
      ({ State.init with pinIrqHdrTab := Function.update (fun _ => emptySlot) 0 ⟨0, 3, 1, 0⟩ },
        .eok) := rfl
  rw [hattach]
  refine ⟨rfl, fun h => ?_⟩
  have hlock := h.1
  revert hlock
  decide +kernel

/-! ### Runs with modes the driver knows -/

/-- The taken slots have a mode that the `switch` knows. -/
def KnownModes (s : State) : Prop :=
  ∀ i, (s.pinIrqHdrTab i).pin ≠ -1 → triggerOfMode (s.pinIrqHdrTab i).mode ≠ none

/-- A call that attaches gives a mode that the `switch` knows. -/
def Call.ModeKnown : Call → Prop
  | .attach _ mode _ _ => triggerOfMode mode ≠ none
  | _ => True

lemma KnownModes.update {s : State} (h : KnownModes s) {i : ℕ} {slot : RtPinIrqHdr}
    (hslot : slot.pin ≠ -1 → triggerOfMode slot.mode ≠ none) :
    KnownModes { s with pinIrqHdrTab := Function.update s.pinIrqHdrTab i slot } := by
  intro j hj
  by_cases hji : j = i
  · subst hji
    simp only [Function.update_self] at hj ⊢
    exact hslot hj
  · simp only [Function.update_of_ne hji] at hj ⊢
    exact h j hj

lemma KnownModes.congr {s s' : State} (h : KnownModes s) (htab : s'.pinIrqHdrTab = s.pinIrqHdrTab) :
    KnownModes s' := by
  unfold KnownModes
  rw [htab]
  exact h

lemma KnownModes.run {s : State} (h : KnownModes s) {c : Call} (hc : c.ModeKnown) :
    KnownModes (c.run s).1 := by
  cases c with
  | attach pin mode hdr args =>
    rcases hl : pinLine pin with _ | i
    · rw [Call.run, n32PinAttachIrq_of_none hl]
      exact h
    · rw [Call.run, n32PinAttachIrq_eq hl]
      split
      · exact h
      · split
        · exact h
        · exact h.update fun _ => hc
  | dettach pin =>
    rcases hl : pinLine pin with _ | i
    · rw [Call.run, n32PinDettachIrq_of_none hl]
      exact h
    · rw [Call.run, n32PinDettachIrq_eq hl]
      split
      · exact h
      · exact h.update fun hpin => absurd rfl hpin
  | irqEnable pin enabled =>
    rcases hl : pinLine pin with _ | i
    · rw [Call.run, n32PinIrqEnable_of_none hl]
      exact h
    · by_cases h1 : enabled = 1
      · subst h1
        rw [Call.run, n32PinIrqEnable_one hl]
        split
        · exact h
        · rcases triggerOfMode (s.pinIrqHdrTab i).mode with _ | trigger
          · exact h.congr rfl
          · exact h.congr (armLine_pinIrqHdrTab s _ i trigger)
      · by_cases h0 : enabled = 0
        · subst h0
          rw [Call.run, n32PinIrqEnable_zero hl]
          exact h.congr rfl
        · rw [Call.run, n32PinIrqEnable_other h1 h0]
          exact h

/-- **Over runs that attach known modes**, every call gives the interrupt state back. -/
theorem errorAtomic_along (cs : List Call) (h : ∀ c ∈ cs, c.ModeKnown) :
    Along callStep ErrorAtomic State.init cs := by
  refine along_of_inv (I := KnownModes) (C := fun _ c => c.ModeKnown) ?_ ?_ cs State.init ?_
    (along_of_forall cs State.init h)
  · intro s c s' hs hc hstep
    obtain rfl : (c.run s).1 = s' := by simpa [callStep] using hstep
    exact hs.run hc
  · intro s c hs _
    rw [errorAtomic_iff]
    intro hlock
    cases c with
    | irqEnable pin enabled =>
      obtain ⟨-, -, i, -, hpin, hmode⟩ := hlock
      exact hs i hpin hmode
    | _ => exact hlock
  · exact fun i hi => absurd rfl hi

end N32L43x.Gpio
