import N32L43x.Gpio.Spec
import N32L43x.Lib.Run

/-!
The EXTI interrupt handlers and when they invoke the handler of a pin.  The driver, its callers,
the edges on the lines and the interrupt handlers are one system: calls may be made at any point,
also from a pin's handler, and an interrupt handler looks at its lines one by one.

A pin's handler should run only while the pin is attached and the last `n32_pin_irq_enable` on it
was `PIN_IRQ_ENABLE`.  Disabling never masks the line, and leaves the vector on while another line
of its group is enabled, so this fails; the main result gives the calls under which it holds over
every run.
-/

namespace N32L43x.Gpio

open N32L43x.Lib.Bits N32L43x.Lib.Run

/-! ### The system -/

/-- The lines the handler of a vector looks at, in its order. -/
def vectorLines : Irqn → List ℕ
  | .exti0 => [0]
  | .exti1 => [1]
  | .exti2 => [2]
  | .exti3 => [3]
  | .exti4 => [4]
  | .exti9_5 => [5, 6, 7, 8, 9]
  | .exti15_10 => [10, 11, 12, 13, 14, 15]

/-- The driver with the interrupt handlers and a record of its calls. -/
structure Sys where
  drv : State
  /-- the lines the running EXTI handler has yet to look at, `none` if none is running -/
  isr : Option (List ℕ)
  /-- the line whose pin's handler is running -/
  inHdr : Option ℕ
  /-- the pins whose most recent `n32_pin_irq_enable` call was `PIN_IRQ_ENABLE` -/
  lastEnabled : ℕ → Bool

/-- The system after reset. -/
def Sys.init : Sys := ⟨State.init, none, none, fun _ => false⟩

/-- What can happen next. -/
inductive Action where
  /-- a call into the driver, from a thread, from a pin's handler or from another interrupt -/
  | call (c : Call)
  /-- an edge on a pin; a masked line becomes pending only if the hardware latches it -/
  | edge (gpio : GpioModule) (line : ℕ) (rising latch : Bool)
  /-- the processor enters the handler of a vector -/
  | irqEnter (irqno : Irqn)
  /-- `N32_GPIO_EXTI_IRQHandler` for the next line, up to the call of the pin's handler -/
  | irqCheck
  /-- the pin's handler returns and the pending bit is cleared -/
  | hdrReturn
  /-- the handler of the vector returns -/
  | irqLeave

/-- The record of the last `n32_pin_irq_enable` on each pin. -/
def recordCall (lastEnabled : ℕ → Bool) : Call → ℕ → Bool
  | .irqEnable pin enabled =>
    if (getPin pin).isSome then Function.update lastEnabled (toUint8 pin) (decide (enabled = 1))
    else lastEnabled
  | _ => lastEnabled

/-- The edge is one the line is configured for. -/
def edgeSelected (s : State) (gpio : GpioModule) (line : ℕ) (rising : Bool) : Bool :=
  routedPort s line == port2portsource gpio &&
    if rising then s.rtCfg.getLsbD line else s.ftCfg.getLsbD line

/-- One step of the system. -/
def step (s : Sys) : Action → Option Sys
  | .call c => some { s with drv := (c.run s.drv).1, lastEnabled := recordCall s.lastEnabled c }
  | .edge gpio line rising latch =>
    if edgeSelected s.drv gpio line rising && (s.drv.imask.getLsbD line || latch) then
      some { s with drv := { s.drv with pend := s.drv.pend ||| bit 32 line } }
    else some s
  | .irqEnter irqno =>
    if s.isr = none ∧ s.drv.nvic irqno = true ∧ s.drv.primask = false then
      some { s with isr := some (vectorLines irqno) }
    else none
  | .irqCheck =>
    match s.isr, s.inHdr with
    | some (i :: todo), none =>
      if extiGetItStatus s.drv (bit 32 i) then
        if (s.drv.pinIrqHdrTab i).hdr ≠ 0 then some { s with isr := some todo, inHdr := some i }
        else some { s with drv := extiClrItPendBit s.drv (bit 32 i), isr := some todo }
      else some { s with isr := some todo }
    | _, _ => none
  | .hdrReturn =>
    match s.inHdr with
    | some i => some { s with drv := extiClrItPendBit s.drv (bit 32 i), inHdr := none }
    | none => none
  | .irqLeave =>
    match s.isr, s.inHdr with
    | some [], none => some { s with isr := none }
    | _, _ => none

/-- The line whose pin's handler a step invokes. -/
def invokes (s : Sys) : Action → Option ℕ
  | .irqCheck =>
    match s.isr, s.inHdr with
    | some (i :: _), none =>
      if extiGetItStatus s.drv (bit 32 i) ∧ (s.drv.pinIrqHdrTab i).hdr ≠ 0 then some i else none
    | _, _ => none
  | _ => none

/-- A handler is invoked only while its pin is attached and was last enabled. -/
def OnlyWhileEnabled (s : Sys) (a : Action) : Prop :=
  ∀ i ∈ invokes s a, (s.drv.pinIrqHdrTab i).pin ≠ -1 ∧
    s.lastEnabled (toUint8 (s.drv.pinIrqHdrTab i).pin) = true

instance (s : Sys) (a : Action) : Decidable (OnlyWhileEnabled s a) :=
  inferInstanceAs (Decidable (∀ i ∈ invokes s a, _))

/-! ### The invariant -/

/-- An interrupt on the line reaches the driver: the line is not masked, and its vector is on or
its handler is still to look at the line. -/
def Live (s : Sys) (i : ℕ) : Prop :=
  s.drv.imask.getLsbD i = true ∧ (s.drv.nvic (lineVector i) = true ∨ ∃ todo ∈ s.isr, i ∈ todo)

instance (s : Sys) (i : ℕ) : Decidable (Live s i) :=
  inferInstanceAs (Decidable (_ ∧ (_ ∨ ∃ todo ∈ s.isr, i ∈ todo)))

/-- Every handler that can be reached belongs to a pin that was last enabled. -/
structure Inv (s : Sys) : Prop where
  /-- a slot holds pins of its own line only -/
  owner : ∀ i, (s.drv.pinIrqHdrTab i).pin ≠ -1 → pinLine (s.drv.pinIrqHdrTab i).pin = some i
  /-- a free slot has no handler -/
  free : ∀ i, (s.drv.pinIrqHdrTab i).pin = -1 → (s.drv.pinIrqHdrTab i).hdr = 0
  /-- a live line with a handler was last enabled -/
  enabled : ∀ i, Live s i → (s.drv.pinIrqHdrTab i).hdr ≠ 0 →
    s.lastEnabled (toUint8 (s.drv.pinIrqHdrTab i).pin) = true

theorem inv_init : Inv Sys.init where
  owner _ h := absurd rfl h
  free _ _ := rfl
  enabled _ h _ := by simp [Live, Sys.init, State.init] at h

/-! ### Careful calls -/

/-- A successful enable of line `i` by pin `q` turns on no handler of another pin: it makes
line `i` and the unmasked lines of its vector live. -/
def CarefulEnable (s : Sys) (q : ℤ) (i : ℕ) : Prop :=
  (s.drv.pinIrqHdrTab i).pin ≠ -1 → triggerOfMode (s.drv.pinIrqHdrTab i).mode ≠ none →
    ∀ j < 16, lineVector j = lineVector i → (j = i ∨ s.drv.imask.getLsbD j = true) →
      (s.drv.pinIrqHdrTab j).hdr ≠ 0 →
        toUint8 (s.drv.pinIrqHdrTab j).pin = toUint8 q ∨
          s.lastEnabled (toUint8 (s.drv.pinIrqHdrTab j).pin) = true

/-- A call of `n32_pin_irq_enable` on `q` that is not an enable cuts the line of `q` off: the line
was never unmasked, or no handler is about to look at it and its vector is off, or goes off with
this call because no other line of the vector is enabled. -/
def CarefulDisable (s : Sys) (q : ℤ) (enabled : BitVec 8) (i : ℕ) : Prop :=
  toUint8 (s.drv.pinIrqHdrTab i).pin = toUint8 q → (s.drv.pinIrqHdrTab i).hdr ≠ 0 →
    s.drv.imask.getLsbD i = true →
      (∀ todo ∈ s.isr, i ∉ todo) ∧
        (s.drv.nvic (lineVector i) = false ∨
          enabled = 0 ∧ VectorIdle s.drv.pinIrqEnableMask i)

instance (s : Sys) (q : ℤ) (i : ℕ) : Decidable (CarefulEnable s q i) :=
  inferInstanceAs (Decidable (_ → _ → ∀ j < 16, _))

instance (s : Sys) (q : ℤ) (enabled : BitVec 8) (i : ℕ) :
    Decidable (CarefulDisable s q enabled i) :=
  inferInstanceAs (Decidable (_ → _ → _ → (∀ todo ∈ s.isr, _) ∧ _))

/-- The condition on the steps: only calls are restricted.  A handler is attached to a line that
is live only if its pin was last enabled. -/
def Careful (s : Sys) : Action → Prop
  | .call (.attach p _ hdr _) => ∀ i ∈ pinLine p, (s.drv.pinIrqHdrTab i).pin = -1 → hdr ≠ 0 →
    Live s i → s.lastEnabled (toUint8 p) = true
  | .call (.irqEnable q enabled) => ∀ i ∈ pinLine q,
    if enabled = 1 then CarefulEnable s q i else CarefulDisable s q enabled i
  | _ => True

instance (s : Sys) : ∀ a, Decidable (Careful s a)
  | .call (.attach p _ _ _) => inferInstanceAs (Decidable (∀ i ∈ pinLine p, _))
  | .call (.irqEnable q _) => inferInstanceAs (Decidable (∀ i ∈ pinLine q, _))
  | .call (.dettach _) => isTrue trivial
  | .edge _ _ _ _ => isTrue trivial
  | .irqEnter _ => isTrue trivial
  | .irqCheck => isTrue trivial
  | .hdrReturn => isTrue trivial
  | .irqLeave => isTrue trivial

/-! ### One step -/

/-- The invariant after slot `i` is filled with `x`. -/
lemma setSlot_inv {s : Sys} {i : ℕ} {x : RtPinIrqHdr} (hI : Inv s)
    (howner : x.pin ≠ -1 → pinLine x.pin = some i) (hfree : x.pin = -1 → x.hdr = 0)
    (hlast : Live s i → x.hdr ≠ 0 → s.lastEnabled (toUint8 x.pin) = true) :
    Inv { s with drv := { s.drv with
      pinIrqHdrTab := Function.update s.drv.pinIrqHdrTab i x } } := by
  refine ⟨fun j => ?_, fun j => ?_, fun j hlive => ?_⟩ <;> by_cases hji : j = i
  · subst hji
    simpa only [Function.update_self] using howner
  · simpa only [Function.update_of_ne hji] using hI.owner j
  · subst hji
    simpa only [Function.update_self] using hfree
  · simpa only [Function.update_of_ne hji] using hI.free j
  · subst hji
    simpa only [Function.update_self] using hlast hlive
  · simpa only [Function.update_of_ne hji] using hI.enabled j hlive

lemma attach_inv {s : Sys} {p : ℤ} {mode : BitVec 8} {hdr args : ℕ} (hI : Inv s)
    (hC : Careful s (.call (.attach p mode hdr args))) :
    Inv { s with drv := (n32PinAttachIrq s.drv p mode hdr args).1 } := by
  rcases hl : pinLine p with _ | i
  · rw [n32PinAttachIrq_of_none hl]
    exact hI
  rw [n32PinAttachIrq_eq hl]
  split_ifs with hsame hbusy
  · exact hI
  · exact hI
  have hp : p ≠ -1 := by
    rintro rfl
    have : pinLine (-1) = none := by decide
    rw [this] at hl
    cases hl
  exact setSlot_inv hI (fun _ => hl) (fun h => absurd h hp)
    fun hlive hh => hC i hl (not_not.1 hbusy) hh hlive

lemma dettach_inv {s : Sys} {p : ℤ} (hI : Inv s) :
    Inv { s with drv := (n32PinDettachIrq s.drv p).1 } := by
  rcases hl : pinLine p with _ | i
  · rw [n32PinDettachIrq_of_none hl]
    exact hI
  rw [n32PinDettachIrq_eq hl]
  split_ifs with hfree
  · exact hI
  exact setSlot_inv hI (fun h => absurd rfl h) (fun _ => rfl) fun _ h => absurd rfl h

lemma getPin_congr {p q : ℤ} (h : toUint8 p = toUint8 q) : getPin p = getPin q := by
  simp only [getPin, h]

lemma recordCall_irqEnable {last : ℕ → Bool} {q : ℤ} {enabled : BitVec 8} {i : ℕ}
    (hl : pinLine q = some i) :
    recordCall last (.irqEnable q enabled) =
      Function.update last (toUint8 q) (decide (enabled = 1)) := by
  obtain ⟨ix, hix, -⟩ := pinLine_eq_some.1 hl
  simp [recordCall, hix]

/-- A line that has a handler is one of the sixteen. -/
lemma Inv.lt_of_hdr {s : Sys} (hI : Inv s) {j : ℕ} (hh : (s.drv.pinIrqHdrTab j).hdr ≠ 0) :
    j < 16 :=
  pinLine_lt (hI.owner j fun h => hh (hI.free j h))

lemma enable_inv {s : Sys} {q : ℤ} {i : ℕ} (hI : Inv s) (hl : pinLine q = some i)
    (hC : CarefulEnable s q i) :
    Inv { s with
      drv := (n32PinIrqEnable s.drv q 1).1
      lastEnabled := Function.update s.lastEnabled (toUint8 q) true } := by
  have hmono : ∀ k, s.lastEnabled k = true →
      Function.update s.lastEnabled (toUint8 q) true k = true := by
    intro k hk
    rw [Function.update_apply]
    split_ifs
    · rfl
    · exact hk
  rw [n32PinIrqEnable_one hl]
  split_ifs with hfree
  · exact ⟨hI.owner, hI.free, fun j hlive hh => hmono _ (hI.enabled j hlive hh)⟩
  rcases ht : triggerOfMode (s.drv.pinIrqHdrTab i).mode with _ | trigger
  · exact ⟨hI.owner, hI.free, fun j hlive hh => hmono _ (hI.enabled j hlive hh)⟩
  refine ⟨by simpa using hI.owner, by simpa using hI.free, fun j hlive hh => ?_⟩
  simp only [Live, armLine_imask, armLine_nvic, armLine_pinIrqHdrTab] at hlive hh ⊢
  obtain ⟨hmask, hvec⟩ := hlive
  rw [getLsbD_setBit, getLsbD_clearBit] at hmask
  -- an unmasked line of the vector that is switched on, or a line that was live before
  by_cases hv : lineVector j = lineVector i
  · have hji : j = i ∨ s.drv.imask.getLsbD j = true := by
      by_cases h : j = i
      · exact .inl h
      · exact .inr (by simpa [h] using hmask)
    rcases hC hfree (by simp [ht]) j (hI.lt_of_hdr hh) hv hji hh with h | h
    · rw [h, Function.update_self]
    · exact hmono _ h
  · have hji : j ≠ i := fun h => hv (h ▸ rfl)
    rw [Function.update_of_ne hv] at hvec
    exact hmono _ (hI.enabled j ⟨by simpa [hji] using hmask, hvec⟩ hh)

/-- After a call that is not an enable, the lines that are live were live before and are not the
line of the pin it names. -/
lemma disable_inv {s : Sys} {q : ℤ} {enabled : BitVec 8} {i : ℕ} (hI : Inv s)
    (hl : pinLine q = some i) (h1 : enabled ≠ 1) (hC : CarefulDisable s q enabled i) :
    Inv { s with
      drv := (n32PinIrqEnable s.drv q enabled).1
      lastEnabled := Function.update s.lastEnabled (toUint8 q) false } := by
  have htab : (n32PinIrqEnable s.drv q enabled).1.pinIrqHdrTab = s.drv.pinIrqHdrTab ∧
      (n32PinIrqEnable s.drv q enabled).1.imask = s.drv.imask := by
    by_cases h0 : enabled = 0
    · rw [h0, n32PinIrqEnable_zero hl]
      exact ⟨rfl, rfl⟩
    · rw [n32PinIrqEnable_other h1 h0]
      exact ⟨rfl, rfl⟩
  have hnvic : ∀ v, (n32PinIrqEnable s.drv q enabled).1.nvic v = true → s.drv.nvic v = true ∧
      ¬(v = lineVector i ∧ enabled = 0 ∧ VectorIdle s.drv.pinIrqEnableMask i) := by
    intro v hv
    by_cases h0 : enabled = 0
    · rw [h0, n32PinIrqEnable_zero hl] at hv
      simp only [disarmLine] at hv
      split_ifs at hv with hidle
      · by_cases hvi : v = lineVector i
        · simp [hvi] at hv
        · rw [Function.update_of_ne hvi] at hv
          exact ⟨hv, fun h => hvi h.1⟩
      · exact ⟨hv, fun h => hidle h.2.2⟩
    · rw [n32PinIrqEnable_other h1 h0] at hv
      exact ⟨hv, fun h => h0 h.2.1⟩
  refine ⟨by simpa [htab.1] using hI.owner, by simpa [htab.1] using hI.free,
    fun j hlive hh => ?_⟩
  simp only [Live, htab.1, htab.2] at hlive hh ⊢
  obtain ⟨hmask, hvec⟩ := hlive
  have hlive' : Live s j := ⟨hmask, hvec.imp_left fun h => (hnvic _ h).1⟩
  by_cases hq : toUint8 (s.drv.pinIrqHdrTab j).pin = toUint8 q
  · -- the pin the call names: its line is cut off
    have hji : j = i := by
      have := hI.owner j fun h => hh (hI.free j h)
      rw [pinLine_of_getPin_eq (getPin_congr hq), hl] at this
      exact (Option.some.inj this).symm
    subst hji
    obtain ⟨htodo, hoff⟩ := hC hq hh hmask
    rcases hvec with hvec | ⟨todo, ht, hj⟩
    · rcases hoff with hoff | hoff
      · rw [(hnvic _ hvec).1] at hoff
        cases hoff
      · exact absurd ⟨rfl, hoff⟩ (hnvic _ hvec).2
    · exact absurd hj (htodo todo ht)
  · rw [Function.update_of_ne hq]
    exact hI.enabled j hlive' hh

/-- The invariant does not look at the pending bits, and a handler that moves on has fewer lines
to look at. -/
lemma Inv.shrink {s s' : Sys} (hI : Inv s) (htab : s'.drv.pinIrqHdrTab = s.drv.pinIrqHdrTab)
    (hlast : s'.lastEnabled = s.lastEnabled) (hlive : ∀ i, Live s' i → Live s i) : Inv s' := by
  refine ⟨by simpa [htab] using hI.owner, by simpa [htab] using hI.free, fun j hj => ?_⟩
  rw [htab, hlast]
  exact hI.enabled j (hlive j hj)

lemma mem_vectorLines {v : Irqn} {i : ℕ} (h : i ∈ vectorLines v) : lineVector i = v := by
  have key : ∀ v, ∀ i ∈ vectorLines v, lineVector i = v := by
    intro v
    cases v <;> decide
  exact key v i h

/-- **One careful step keeps the invariant.** -/
theorem step_inv {s s' : Sys} {a : Action} (hI : Inv s) (hC : Careful s a)
    (h : step s a = some s') : Inv s' := by
  cases a with
  | call c =>
    simp only [step, Option.some.injEq] at h
    subst h
    cases c with
    | attach p mode hdr args => exact attach_inv hI hC
    | dettach p => exact dettach_inv hI
    | irqEnable q enabled =>
      rcases hl : pinLine q with _ | i
      · simp only [Call.run, n32PinIrqEnable_of_none hl, recordCall, pinLine_eq_none.1 hl]
        exact hI
      have hCi := hC i hl
      rw [recordCall_irqEnable hl]
      by_cases h1 : enabled = 1
      · rw [if_pos h1] at hCi
        subst h1
        exact enable_inv hI hl hCi
      · rw [if_neg h1] at hCi
        rw [decide_eq_false h1]
        exact disable_inv hI hl h1 hCi
  | edge gpio line rising latch =>
    simp only [step] at h
    split_ifs at h
    · cases h
      exact hI.shrink rfl rfl fun i hi => hi
    · cases h
      exact hI
  | irqEnter irqno =>
    simp only [step] at h
    split_ifs at h with hen
    cases h
    -- the lines of a vector that is entered were live, the vector being on
    refine hI.shrink rfl rfl fun i hi => ⟨hi.1, ?_⟩
    rcases hi.2 with hv | ⟨todo, ht, hmem⟩
    · exact .inl hv
    · cases ht
      exact .inl (mem_vectorLines hmem ▸ hen.2.1)
  | irqCheck =>
    simp only [step] at h
    split at h
    · rename_i i todo hisr hin
      have hsub : ∀ j, (s.drv.imask.getLsbD j = true ∧
          (s.drv.nvic (lineVector j) = true ∨ ∃ l ∈ some todo, j ∈ l)) → Live s j := by
        rintro j ⟨hm, hv | ⟨l, hl, hj⟩⟩
        · exact ⟨hm, .inl hv⟩
        · cases hl
          exact ⟨hm, .inr ⟨i :: todo, hisr, List.mem_cons_of_mem i hj⟩⟩
      split_ifs at h <;> cases h <;> exact hI.shrink rfl rfl hsub
    · cases h
  | hdrReturn =>
    simp only [step] at h
    split at h
    · cases h
      exact hI.shrink rfl rfl fun i hi => hi
    · cases h
  | irqLeave =>
    simp only [step] at h
    split at h
    · rename_i hisr hin
      cases h
      refine hI.shrink rfl rfl fun i hi => ⟨hi.1, hi.2.imp_right ?_⟩
      rintro ⟨todo, ht, -⟩
      cases ht
    · cases h

/-- The handler a step invokes is the one of a live line. -/
lemma invokes_live {s : Sys} {a : Action} {i : ℕ} (h : i ∈ invokes s a) :
    Live s i ∧ (s.drv.pinIrqHdrTab i).hdr ≠ 0 := by
  cases a with
  | irqCheck =>
    simp only [invokes] at h
    split at h
    · rename_i j todo hisr hin
      split_ifs at h with hst
      · cases h
        obtain ⟨hst, hh⟩ := hst
        rw [extiGetItStatus, anySet_bit, anySet_bit, Bool.and_eq_true] at hst
        exact ⟨⟨hst.2, .inr ⟨i :: todo, hisr, List.mem_cons_self⟩⟩, hh⟩
      · cases h
    · cases h
  | call c => cases h
  | edge gpio line rising latch => cases h
  | irqEnter irqno => cases h
  | hdrReturn => cases h
  | irqLeave => cases h

/-! ### Whole runs -/

/-- **Handlers run only while their pin is enabled**, in every run whose calls are careful. -/
theorem onlyWhileEnabled_of_careful (as : List Action) (h : Along step Careful Sys.init as) :
    Along step OnlyWhileEnabled Sys.init as := by
  refine along_of_inv (fun s a s' hI hC hs => step_inv hI hC hs) ?_ as Sys.init inv_init h
  intro s a hI _ i hi
  obtain ⟨hlive, hh⟩ := invokes_live hi
  exact ⟨fun hp => hh (hI.free i hp), hI.enabled i hlive hh⟩

/-- A run with careful calls in which the handler of `PA5` does run. -/
theorem onlyWhileEnabled_single :
    (exec step Sys.init [.call (.attach 5 0 1 0), .call (.irqEnable 5 1), .edge .gpioA 5 true false,
      .irqEnter .exti9_5, .irqCheck]).bind Sys.inHdr = some 5 ∧
    Along step OnlyWhileEnabled Sys.init [.call (.attach 5 0 1 0), .call (.irqEnable 5 1),
      .edge .gpioA 5 true false, .irqEnter .exti9_5, .irqCheck] :=
  ⟨by decide, onlyWhileEnabled_of_careful _ (by decide)⟩

/-- `PA5` and `PA6` share a vector.  Disabling `PA5` while `PA6` stays enabled leaves its line
unmasked and the vector on, and the next edge on `PA5` still invokes its handler. -/
theorem onlyWhileEnabled_fails :
    ¬Along step OnlyWhileEnabled Sys.init [.call (.attach 5 0 1 0), .call (.attach 6 0 2 0),
      .call (.irqEnable 5 1), .call (.irqEnable 6 1), .call (.irqEnable 5 0),
      .edge .gpioA 5 true false, .irqEnter .exti9_5, .irqCheck] := by
  decide

end N32L43x.Gpio
