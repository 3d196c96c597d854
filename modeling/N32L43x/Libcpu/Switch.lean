import N32L43x.Libcpu.Machine

/-!
The machine and the threads with a processor each agree: the context of a thread that does not run is
saved on its stack, that of the thread that runs is in the processor or, in an exception, partly on its
stack, and the switch that is pending leads from the thread that runs to the one the scheduler has chosen.
Every step keeps this.
-/

namespace N32L43x.Libcpu

open N32L43x.Lib.Memory (Addr)
open N32L43x.Lib.Stack N32L43x.Lib.Run

variable {Tid : Type*}

/-! ### The relation -/

/-- The context is on the stack of the thread, below its stack pointer. -/
structure Saved (p : Places Tid) (m : Mem) (t : Tid) (x : Context) : Prop where
  context : savedContext p.stkalign m (m (p.sp t)) = x
  above : (m (p.sp t)).toNat + 4 * savedWords m (m (p.sp t)) ≤ x.sp.toNat
  below : (p.stackAddr t).toNat ≤ (m (p.sp t)).toNat

/-- An exception has interrupted the thread in the context, and there is room for the rest of it. -/
structure Interrupted (p : Places Tid) (c : Cpu) (m : Mem) (t : Tid) (x : Context) : Prop where
  process : c.process = true
  primask : c.primask = false
  context : interruptedContext p.stkalign c m = x
  lazy : c.lspact = true → c.extended = true ∧ c.fpcar = c.psp + 0x20
  above : c.psp.toNat + 4 * frameWords c.extended ≤ x.sp.toNat
  below : (p.stackAddr t).toNat + 4 * softWords c.extended ≤ c.psp.toNat

/-- An exception before the first switch. -/
structure Booting (c : Cpu) : Prop where
  process : c.process = false
  extended : c.extended = false
  primask : c.primask = false
  lazy : c.lspact = false

/-- The thread is in the processor. -/
structure Live (c : Cpu) (x : Context) : Prop where
  spsel : c.spsel = true
  context : c.context = x
  lazy : c.lspact = false

/-- Nothing has run yet. -/
structure Idle (p : Places Tid) (c : Cpu) : Prop where
  spsel : c.spsel = false
  fpca : c.fpca = false
  msp : c.msp = p.mainStack
  lazy : c.lspact = false

/-- What `rt_interrupt_from_thread` is while a switch is pending. -/
def fromPtr (p : Places Tid) : Option Tid → Word
  | none => 0
  | some t => p.sp t

@[simp] lemma fromPtr_none (p : Places Tid) : fromPtr p none = 0 := rfl

@[simp] lemma fromPtr_some (p : Places Tid) (t : Tid) : fromPtr p (some t) = p.sp t := rfl

/-- A switch is pending, to the thread the scheduler has chosen. -/
structure Switching (p : Places Tid) (s : Machine Tid) (v : Virtual Tid) : Prop where
  flag : s.mem p.switchFlag = 1
  fromThread : s.mem p.fromThread = fromPtr p v.running
  toThread : s.mem p.toThread = p.sp v.current
  pending : s.pending = true ∨ s.active = true

/-- **The machine agrees with the threads.** -/
structure Agrees (p : Places Tid) (s : Machine Tid) (v : Virtual Tid) : Prop where
  current : s.currentThread = v.current
  active : s.active = true → s.cpu.handler = true
  switching : s.mem p.switchFlag = 0 ∧ v.running = some v.current ∨ Switching p s v
  saved : ∀ t, v.running ≠ some t → Saved p s.mem t (v.context t)
  fits : ∀ t, p.Fits t (v.context t).sp
  psr : ∀ t, (v.context t).core.psr.getLsbD 9 = false
  mem : ∀ a, v.Visible p a → s.mem a = v.mem a
  live : s.cpu.handler = false → ∀ t, v.running = some t → Live s.cpu (v.context t)
  idle : s.cpu.handler = false → v.running = none → Idle p s.cpu
  interrupted : s.cpu.handler = true → ∀ t, v.running = some t →
    Interrupted p s.cpu s.mem t (v.context t)
  booting : s.cpu.handler = true → v.running = none → Booting s.cpu

variable {p : Layout Tid} {s s' : Machine Tid} {v : Virtual Tid} {m m' : Mem} {c : Cpu} {t : Tid}
  {x : Context} {a : Addr}

/-! ### Where contexts are -/

lemma within_below {n : ℕ} {b : Addr} (h : Within b n a) (hend : b.toNat + 4 * n ≤ x.sp.toNat) :
    b.toNat ≤ a.toNat ∧ a.toNat < x.sp.toNat := by
  have hlt := x.sp.isLt
  have hb := h.bounds (by omega)
  omega

/-- The words of a saved context are on the stack, below its stack pointer. -/
lemma Saved.within (h : Saved p.toPlaces m t x) (hfits : p.Fits t x.sp)
    (ha : Within (m (p.sp t)) (savedWords m (m (p.sp t))) a) : p.OnStack t a ∧ a.toNat < x.sp.toNat := by
  have hbelow := h.below
  have hb := within_below ha h.above
  exact ⟨⟨by omega, by have := hfits.2; omega⟩, hb.2⟩

/-- A saved context depends on its words. -/
lemma Saved.congr_words (h : Saved p.toPlaces m t x) (hsp : m' (p.sp t) = m (p.sp t))
    (hwords : ∀ a, Within (m (p.sp t)) (savedWords m (m (p.sp t))) a → m' a = m a) :
    Saved p.toPlaces m' t x := by
  have hflag : m' (m (p.sp t)) = m (m (p.sp t)) := by
    refine hwords _ ⟨0, ?_, by simp⟩
    unfold savedWords softWords
    split <;> omega
  refine ⟨?_, ?_, ?_⟩
  · rw [hsp, savedContext_congr hwords]
    exact h.context
  · rw [hsp, savedWords_congr hflag]
    exact h.above
  · rw [hsp]
    exact h.below

/-- A saved context depends on what is below the stack pointer. -/
lemma Saved.congr (h : Saved p.toPlaces m t x) (hfits : p.Fits t x.sp) (hsp : m' (p.sp t) = m (p.sp t))
    (hm : ∀ a, p.OnStack t a → m' a = m a) : Saved p.toPlaces m' t x :=
  h.congr_words hsp fun a ha => hm a (h.within hfits ha).1

/-- The frame of an exception is on the stack, below the stack pointer of the thread. -/
lemma Interrupted.within (h : Interrupted p.toPlaces c m t x) (hfits : p.Fits t x.sp)
    (ha : Within c.psp (frameWords c.extended) a) : p.OnStack t a ∧ a.toNat < x.sp.toNat := by
  have hbelow := h.below
  have hb := within_below ha h.above
  exact ⟨⟨by omega, by have := hfits.2; omega⟩, hb.2⟩

lemma Interrupted.congr (h : Interrupted p.toPlaces c m t x)
    (hm : ∀ a, Within c.psp (frameWords c.extended) a → m' a = m a) : Interrupted p.toPlaces c m' t x :=
  { h with context := by rw [interruptedContext_congr hm, h.context] }

/-- A stack pointer belongs to one stack. -/
lemma sp_unique {t u : Tid} {sp : Addr} (ht : (p.stackAddr t).toNat < sp.toNat ∧
      sp.toNat ≤ (p.stackAddr t).toNat + p.stackSize t)
    (hu : (p.stackAddr u).toNat < sp.toNat ∧ sp.toNat ≤ (p.stackAddr u).toNat + p.stackSize u) : t = u := by
  have hlt := sp.isLt
  have hpred : (BitVec.ofNat 32 (sp.toNat - 1)).toNat = sp.toNat - 1 := by
    rw [BitVec.toNat_ofNat, Nat.mod_eq_of_lt (by omega)]
  refine p.stacks_apart (a := BitVec.ofNat 32 (sp.toNat - 1)) ⟨?_, ?_⟩ ⟨?_, ?_⟩ <;> rw [hpred] <;> omega

/-- **The thread that runs** is the one whose stack the processor uses. -/
lemma Agrees.runs_iff (h : Agrees p.toPlaces s v) (t : Tid) :
    Runs p.toPlaces s.cpu t ↔ v.running = some t := by
  have hone : ∀ u, v.running = some u → Runs p.toPlaces s.cpu u := by
    intro u hu
    have hfits := h.fits u
    unfold Places.Fits at hfits
    cases hh : s.cpu.handler
    · have hlive := h.live hh u hu
      have hsp : s.cpu.psp = (v.context u).sp := by rw [← hlive.context]; rfl
      refine ⟨by rw [hh]; exact hlive.spsel, ?_, ?_⟩ <;> rw [hsp] <;> omega
    · have hint := h.interrupted hh u hu
      have habove := hint.above
      have hbelow := hint.below
      have hpos : 0 < softWords s.cpu.extended := by cases s.cpu.extended <;> decide
      refine ⟨by rw [hh]; exact hint.process, ?_, ?_⟩ <;> omega
  refine ⟨fun hr => ?_, hone t⟩
  cases hv : v.running with
  | none =>
    exfalso
    have hr1 := hr.1
    cases hh : s.cpu.handler
    · have hsel := (h.idle hh hv).spsel
      simp [hh, hsel] at hr1
    · have hprocess := (h.booting hh hv).process
      simp [hh, hprocess] at hr1
  | some u =>
    rw [sp_unique (hone u hv).2 hr.2]

/-! ### What a step may write -/

/-- Memory is written below the stack pointer of the thread that runs, and where no thread looks. -/
structure Quiet (p : Places Tid) (v : Virtual Tid) (m m' : Mem) : Prop where
  sp : ∀ t, v.running ≠ some t → m' (p.sp t) = m (p.sp t)
  stack : ∀ t, v.running ≠ some t → ∀ a, p.OnStack t a → m' a = m a
  visible : ∀ a, v.Visible p a → m' a = m a

lemma Quiet.saved (h : Quiet p.toPlaces v m m') (hfits : ∀ t, p.Fits t (v.context t).sp)
    (hsaved : ∀ t, v.running ≠ some t → Saved p.toPlaces m t (v.context t)) (t : Tid)
    (ht : v.running ≠ some t) : Saved p.toPlaces m' t (v.context t) :=
  (hsaved t ht).congr (hfits t) (h.sp t ht) fun a ha => h.stack t ht a ha

lemma Quiet.mem (h : Quiet p.toPlaces v m m') (hmem : ∀ a, v.Visible p.toPlaces a → m a = v.mem a) (a : Addr)
    (ha : v.Visible p.toPlaces a) : m' a = v.mem a := by
  rw [h.visible a ha, hmem a ha]

lemma quiet_refl : Quiet p.toPlaces v m m := ⟨fun _ _ => rfl, fun _ _ _ _ => rfl, fun _ _ => rfl⟩

lemma Quiet.trans {m₁ m₂ m₃ : Mem} (h₁ : Quiet p.toPlaces v m₁ m₂) (h₂ : Quiet p.toPlaces v m₂ m₃) :
    Quiet p.toPlaces v m₁ m₃ where
  sp t ht := by rw [h₂.sp t ht, h₁.sp t ht]
  stack t ht a ha := by rw [h₂.stack t ht a ha, h₁.stack t ht a ha]
  visible a ha := by rw [h₂.visible a ha, h₁.visible a ha]

/-- A write to a variable of the port. -/
lemma quiet_update {b : Addr} {w : Word} (hb : b = p.switchFlag ∨ b = p.fromThread ∨ b = p.toThread) :
    Quiet p.toPlaces v m (Function.update m b w) := by
  have hkernel : p.Kernel b := by
    rcases hb with rfl | rfl | rfl
    · exact .inl rfl
    · exact .inr (.inl rfl)
    · exact .inr (.inr (.inl rfl))
  refine ⟨fun t _ => Function.update_of_ne ?_ _ _, fun t _ a ha => Function.update_of_ne ?_ _ _,
    fun a ha => Function.update_of_ne ?_ _ _⟩
  · rcases hb with rfl | rfl | rfl
    · exact p.sp_ne_flag t
    · exact p.sp_ne_from t
    · exact p.sp_ne_to t
  · rintro rfl
    exact p.kernel_apart hkernel ha
  · rintro rfl
    exact ha.1 hkernel

/-- Writes to the stack of the thread that runs. -/
lemma quiet_stack {t : Tid} (ht : v.running = some t)
    (hm : ∀ a, m' a ≠ m a → p.OnStack t a ∧ a.toNat < (v.context t).sp.toNat) :
    Quiet p.toPlaces v m m' := by
  refine ⟨fun u hu => ?_, fun u hu a ha => ?_, fun a ha => ?_⟩
  · by_contra hne
    exact p.kernel_apart (.inr (.inr (.inr ⟨u, rfl⟩))) (hm _ hne).1
  · by_contra hne
    obtain rfl := p.stacks_apart ha (hm a hne).1
    exact hu ht
  · by_contra hne
    obtain ⟨hstack, hlt⟩ := hm a hne
    have := ha.2.2 t hstack
    omega

/-- Writes to the main stack before the first switch. -/
lemma quiet_main (hm : ∀ a, m' a ≠ m a → p.OnMain a) : Quiet p.toPlaces v m m' := by
  refine ⟨fun t _ => ?_, fun t _ a ha => ?_, fun a ha => ?_⟩
  · by_contra hne
    exact p.main_not_kernel (hm _ hne) (.inr (.inr (.inr ⟨t, rfl⟩)))
  · by_contra hne
    exact p.main_apart (hm a hne) ha
  · by_contra hne
    exact ha.2.1 (hm a hne)

/-- A variable of the port is on no stack. -/
lemma kernel_of_stack {b : Addr} (hb : p.Kernel b)
    (hm : ∀ a, m' a ≠ m a → (∃ t, p.OnStack t a) ∨ p.OnMain a) : m' b = m b := by
  by_contra hne
  rcases hm b hne with ⟨t, ht⟩ | hmain
  · exact p.kernel_apart hb ht
  · exact p.main_not_kernel hmain hb

/-- The variables of the port are as they were. -/
lemma Agrees.switching_congr {v' : Virtual Tid} (h : Agrees p.toPlaces s v) (hrunning : v'.running = v.running)
    (hcurrent : v'.current = v.current) (hkernel : ∀ b, p.Kernel b → s'.mem b = s.mem b)
    (hpend : s.pending = true ∨ s.active = true → s'.pending = true ∨ s'.active = true) :
    s'.mem p.switchFlag = 0 ∧ v'.running = some v'.current ∨ Switching p.toPlaces s' v' := by
  rcases h.switching with ⟨hflag, hcur⟩ | hsw
  · exact .inl ⟨by rw [hkernel _ (.inl rfl), hflag], by rw [hrunning, hcurrent, hcur]⟩
  · refine .inr ⟨?_, ?_, ?_, hpend hsw.pending⟩
    · rw [hkernel _ (.inl rfl), hsw.flag]
    · rw [hkernel _ (.inr (.inl rfl)), hsw.fromThread, hrunning]
    · rw [hkernel _ (.inr (.inr (.inl rfl))), hsw.toThread, hcurrent]

end N32L43x.Libcpu
