import N32L43x.Lib.Bits
import N32L43x.Libcpu.Defs

/-!
The frames on the stack of a thread.  An exception stacks a context in a way that the return finds it
again, with the floating-point registers stacked at once, later or not at all; `PendSV_Handler` stacks
the rest, and what it loads from such a stack is the context that was stacked.
-/

namespace N32L43x.Libcpu

open N32L43x.Lib.Memory (Addr)
open N32L43x.Lib.Stack N32L43x.Lib.Bits

/-! ### The alignment of a frame -/

lemma getLsbD_two (x : Word) : x.getLsbD 2 = decide (x.toNat / 4 % 2 = 1) := by
  rw [BitVec.getLsbD, Nat.testBit_eq_decide_div_mod_eq]

lemma spmask_true : spmask true = bit 32 2 := rfl

lemma and_not_spmask_false (x : Word) : x &&& ~~~spmask false = x := by
  have hones : ~~~spmask false = BitVec.allOnes 32 := rfl
  rw [hones, BitVec.and_allOnes]

/-- The size of a frame is a multiple of eight. -/
lemma getLsbD_two_sub (sp : Word) (extended : Bool) :
    (sp - framesize extended).getLsbD 2 = sp.getLsbD 2 := by
  have hsp := sp.isLt
  rw [getLsbD_two, getLsbD_two, decide_eq_decide, BitVec.toNat_sub]
  cases extended
  · have hsize : (framesize false).toNat = 32 := rfl
    omega
  · have hsize : (framesize true).toNat = 104 := rfl
    omega

/-- **The stack pointer is where it was**, after a frame at a multiple of eight too. -/
lemma unstacked (sp : Word) (extended align : Bool) :
    (((sp - framesize extended) &&& ~~~spmask align) + framesize extended) |||
      spmask (sp.getLsbD 2 && align) = sp := by
  cases align
  · rw [and_not_spmask_false, BitVec.sub_add_cancel]
    simp [spmask]
  have hbit := getLsbD_two_sub sp extended
  rw [Bool.and_true, spmask_true]
  cases h : sp.getLsbD 2
  · rw [and_not_bit_of_clear (by rw [hbit, h]), BitVec.sub_add_cancel]
    simp [spmask]
  · rw [and_not_bit_eq_sub (by rw [hbit, h]), spmask_true, BitVec.sub_add_comm, BitVec.sub_add_cancel,
      or_bit_eq_add, BitVec.sub_add_cancel]
    have hsp := sp.isLt
    have hmask : (bit 32 2).toNat = 4 := rfl
    rw [getLsbD_two, decide_eq_true_eq] at h
    rw [getLsbD_two, decide_eq_false_iff_not, BitVec.toNat_sub]
    omega

/-- Where the frame is. -/
lemma toNat_frameptr (sp : Word) (extended align : Bool) (hsp : 108 ≤ sp.toNat) :
    ((sp - framesize extended) &&& ~~~spmask align).toNat + (framesize extended).toNat ≤ sp.toNat ∧
      sp.toNat ≤
        ((sp - framesize extended) &&& ~~~spmask align).toNat + (framesize extended).toNat + 4 := by
  have hlt := sp.isLt
  have hsub : (sp - framesize extended).toNat = sp.toNat - (framesize extended).toNat := by
    rw [BitVec.toNat_sub]
    cases extended
    · have hsize : (framesize false).toNat = 32 := rfl
      omega
    · have hsize : (framesize true).toNat = 104 := rfl
      omega
  have hsize : (framesize extended).toNat ≤ 104 := by cases extended <;> decide
  cases align
  · rw [and_not_spmask_false]
    omega
  rw [spmask_true]
  cases h : (sp - framesize extended).getLsbD 2
  · rw [and_not_bit_of_clear h]
    omega
  · rw [and_not_bit_eq_sub h, BitVec.toNat_sub]
    have hmask : (bit 32 2).toNat = 4 := rfl
    rw [getLsbD_two, decide_eq_true_eq] at h
    omega
/-! ### Contexts on the stack -/

/-- Words the processor stacks. -/
def frameWords (extended : Bool) : ℕ := if extended then 26 else 8

/-- Words `PendSV_Handler` stacks. -/
def softWords (extended : Bool) : ℕ := if extended then 25 else 9

/-- The context with its first registers in a frame of the processor. -/
def stackedContext (stkalign extended : Bool) (m : Mem) (frameptr : Addr) (high : Fin 8 → Word)
    (fp : FpContext) : Context where
  core :=
    let frame := ExceptionFrame.ofWords (load m frameptr 8)
    { frame with psr := frame.psr &&& ~~~0x200 }
  high := high
  sp := (frameptr + framesize extended) ||| spmask
    ((ExceptionFrame.ofWords (load m frameptr 8)).psr.getLsbD 9 && forcealign stkalign extended)
  primask := false
  fp := if extended then some fp else none

/-- The context an exception has interrupted. -/
def interruptedContext (stkalign : Bool) (c : Cpu) (m : Mem) : Context :=
  stackedContext stkalign c.extended m c.psp c.high
    { low := if c.lspact then c.fpLow else row (load m (c.psp + 0x20) 16)
      high := c.fpHigh
      fpscr := if c.lspact then c.fpscr else m (c.psp + 0x60) }

/-- The context saved at the stack pointer of a thread that is not running. -/
def savedContext (stkalign : Bool) (m : Mem) (sp : Addr) : Context :=
  let extended := decide (m sp ≠ 0)
  let frameptr := sp + BitVec.ofNat 32 (4 * softWords extended)
  stackedContext stkalign extended m frameptr (row (load m (sp + 4) 8))
    { low := row (load m (frameptr + 0x20) 16)
      high := row (load m (sp + 36) 16)
      fpscr := m (frameptr + 0x60) }

/-- Words of such a context. -/
def savedWords (m : Mem) (sp : Addr) : ℕ :=
  softWords (decide (m sp ≠ 0)) + frameWords (decide (m sp ≠ 0))

@[simp] lemma ofWords_words (f : ExceptionFrame) : ExceptionFrame.ofWords f.words = f := rfl

@[simp] lemma length_words (f : ExceptionFrame) : f.words.length = 8 := rfl

@[simp] lemma row_ofFn {n : ℕ} (f : Fin n → Word) : row (List.ofFn f) = f := by
  funext i
  simp [row]

/-! ### What they depend on -/

variable {stkalign extended : Bool} {c : Cpu} {m m' : Mem} {sp frameptr : Addr} {high : Fin 8 → Word}
  {fp : FpContext}

/-- A block that is part of another. -/
lemma within_part {a x : Addr} {j k n : ℕ} (hle : j + k ≤ n)
    (h : Within (a + BitVec.ofNat 32 (4 * j)) k x) : Within a n x := by
  obtain ⟨l, rfl⟩ := Nat.exists_eq_add_of_le hle
  exact h.right.left

lemma stackedContext_congr (h : ∀ x, Within frameptr 8 x → m' x = m x) :
    stackedContext stkalign extended m' frameptr high fp =
      stackedContext stkalign extended m frameptr high fp := by
  unfold stackedContext
  rw [load_congr h]

/-- Floating-point registers are part of a context that has them only. -/
lemma stackedContext_basic (fp' : FpContext) : stackedContext stkalign false m frameptr high fp =
    stackedContext stkalign false m frameptr high fp' := rfl

/-- An interrupted context depends on its frame. -/
lemma interruptedContext_congr (h : ∀ x, Within c.psp (frameWords c.extended) x → m' x = m x) :
    interruptedContext stkalign c m' = interruptedContext stkalign c m := by
  unfold interruptedContext
  cases hc : c.extended <;> rw [hc] at h
  · rw [stackedContext_congr h]
    exact stackedContext_basic _
  · have hlow : load m' (c.psp + 0x20) 16 = load m (c.psp + 0x20) 16 :=
      load_congr fun x hx => h x (within_part (j := 8) (by decide) hx)
    have hfpscr : m' (c.psp + 0x60) = m (c.psp + 0x60) := h _ ⟨24, by decide, rfl⟩
    have hcore : ∀ x, Within c.psp 8 x → m' x = m x := fun x hx => h x (hx.left (k := 18))
    rw [stackedContext_congr hcore, hlow, hfpscr]

lemma savedWords_congr (h : m' sp = m sp) : savedWords m' sp = savedWords m sp := by
  unfold savedWords
  rw [h]

/-- A saved context depends on its words. -/
lemma savedContext_congr (h : ∀ x, Within sp (savedWords m sp) x → m' x = m x) :
    savedContext stkalign m' sp = savedContext stkalign m sp := by
  have hflag : m' sp = m sp := by
    refine h sp ⟨0, ?_, by simp⟩
    unfold savedWords softWords
    split <;> omega
  unfold savedContext
  unfold savedWords at h
  rw [hflag]
  generalize decide (m sp ≠ 0) = extended at h ⊢
  have hsoft : ∀ x, Within sp (softWords extended) x → m' x = m x := fun x hx => h x hx.left
  have hframe : ∀ x, Within (sp + BitVec.ofNat 32 (4 * softWords extended)) (frameWords extended) x →
      m' x = m x := fun x hx => h x hx.right
  have hhigh : load m' (sp + 4) 8 = load m (sp + 4) 8 :=
    load_congr fun x hx => hsoft x (within_part (j := 1) (by cases extended <;> decide) hx)
  dsimp only
  rw [hhigh]
  generalize sp + BitVec.ofNat 32 (4 * softWords extended) = frameptr at hframe ⊢
  cases extended
  · rw [stackedContext_congr hframe]
    exact stackedContext_basic _
  · have hlow : load m' (frameptr + 0x20) 16 = load m (frameptr + 0x20) 16 :=
      load_congr fun x hx => hframe x (within_part (j := 8) (by decide) hx)
    have hfpscr : m' (frameptr + 0x60) = m (frameptr + 0x60) := hframe _ ⟨24, by decide, rfl⟩
    have hs16 : load m' (sp + 36) 16 = load m (sp + 36) 16 :=
      load_congr fun x hx => hsoft x (within_part (j := 9) (by decide) hx)
    have hcore : ∀ x, Within frameptr 8 x → m' x = m x := fun x hx => hframe x (hx.left (k := 18))
    rw [stackedContext_congr hcore, hlow, hfpscr, hs16]

/-! ### Taking an exception and returning -/

/-- A return from an exception on the process stack gives back what was interrupted. -/
lemma exceptionReturn_context (hprocess : c.process = true) (hmask : c.primask = false) :
    (exceptionReturn stkalign c m).context = interruptedContext stkalign c m := by
  unfold exceptionReturn Cpu.context interruptedContext stackedContext
  simp only [hprocess, hmask, if_true]
  cases c.extended <;> cases c.lspact <;> rfl

lemma extended_excReturn (extended process : Bool) : (excReturn extended process).getLsbD 4 = !extended := by
  cases extended <;> cases process <;> rfl

lemma process_excReturn (extended process : Bool) : (excReturn extended process).getLsbD 2 = process := by
  cases extended <;> cases process <;> rfl

/-- The flag of the alignment, in bit 9 of the stacked `xpsr`. -/
lemma psr_stacked (psr : Word) (flag : Bool) :
    ((psr &&& ~~~0x200) ||| (if flag then 0x200 else 0)).getLsbD 9 = flag := by
  have hbit : (0x200 : Word) = bit 32 9 := rfl
  rw [hbit]
  cases flag
  · simp
  · simp

lemma psr_unstacked {psr : Word} (hpsr : psr.getLsbD 9 = false) (flag : Bool) :
    ((psr &&& ~~~0x200) ||| (if flag then 0x200 else 0)) &&& ~~~0x200 = psr := by
  have hbit : (0x200 : Word) = bit 32 9 := rfl
  rw [hbit, and_not_bit_of_clear hpsr]
  cases flag
  · have hzero : psr ||| (if false then 0x200 else 0) = psr := BitVec.or_zero
    rw [← hbit, hzero, hbit, and_not_bit_of_clear hpsr]
  · rw [if_pos rfl]
    refine BitVec.eq_of_getLsbD_eq fun i _ => ?_
    rw [getLsbD_clearBit, getLsbD_setBit]
    by_cases hi : i = 9
    · rw [hi, hpsr]
      rfl
    · simp [hi]

/-- **An exception interrupts the context that was running.** -/
lemma interruptedContext_entry (hsel : c.spsel = true) (hmask : c.primask = false)
    (hpsr : c.core.psr.getLsbD 9 = false) :
    interruptedContext stkalign (exceptionEntry stkalign c m).1 (exceptionEntry stkalign c m).2 =
      c.context := by
  have hext : (exceptionEntry stkalign c m).1.extended = c.fpca := by
    simp only [exceptionEntry, Cpu.extended, extended_excReturn, Bool.not_not]
  unfold interruptedContext
  rw [hext]
  simp only [exceptionEntry, hsel, if_true, Cpu.context, hmask]
  unfold stackedContext
  have hload : ∀ (a : Addr) (f : ExceptionFrame), load (store m a f.words) a 8 = f.words :=
    fun a f => load_store (by simp)
  rw [hload, ofWords_words]
  dsimp only
  rw [psr_unstacked hpsr, psr_stacked, Bool.and_assoc, Bool.and_self, unstacked]
  cases c.fpca <;> rfl

lemma fpStack_of_lazy (h : c.lspact = false) : c.fpStack m = m := if_neg (by rw [h]; decide)

variable (stkalign) in
/-- Registers that are stacked late are there when the return looks for them. -/
lemma interruptedContext_fpUsed (hlazy : c.lspact = true → c.extended = true ∧ c.fpcar = c.psp + 0x20)
    (low : Fin 16 → Word) (fpscr : Word) :
    interruptedContext stkalign { c.fpUsed with fpLow := low, fpscr := fpscr } (c.fpStack m) =
      interruptedContext stkalign c m := by
  cases hl : c.lspact
  · unfold interruptedContext Cpu.fpStack Cpu.fpUsed Cpu.extended
    simp [hl]
  obtain ⟨hext, hplace⟩ := hlazy hl
  have hmem : c.fpStack m = store m (c.psp + 0x20) (List.ofFn c.fpLow ++ [c.fpscr]) := by
    unfold Cpu.fpStack
    rw [if_pos hl, hplace]
  have hload : load (c.fpStack m) (c.psp + 0x20) 16 ++ load (c.fpStack m) (c.psp + 0x20 + 64) 1 =
      List.ofFn c.fpLow ++ [c.fpscr] := by
    rw [hmem]
    exact (load_add (n := 16) (k := 1)).symm.trans (load_store (by simp))
  obtain ⟨hlow, hfpscr⟩ := List.append_inj hload (by simp)
  have hframe : ∀ x, Within c.psp 8 x → c.fpStack m x = m x := fun x hx => by
    rw [hmem]
    exact store_of_not_within fun hin => hx.not_next (k := 17) (by omega) (by simpa using hin)
  have hword : c.fpStack m (c.psp + 0x60) = c.fpscr := by
    have haddr : c.psp + 0x60 = c.psp + 0x20 + 64 := (BitVec.add_assoc c.psp 0x20 64).symm
    rw [haddr]
    exact (List.cons.inj hfpscr).1
  unfold interruptedContext Cpu.fpUsed
  simp only [hl, if_true, Bool.false_eq_true, if_false]
  rw [hlow, row_ofFn, hword]
  exact stackedContext_congr hframe

/-! ### Saving and loading -/

variable {Tid : Type*} {p : Places Tid}

/-- The words `PendSV_Handler` stacks. -/
def softStack (c : Cpu) : List Word :=
  (if c.extended then 1 else 0) :: List.ofFn c.high ++ (if c.extended then List.ofFn c.fpHigh else [])

lemma length_softStack (c : Cpu) : (softStack c).length = softWords c.extended := by
  unfold softStack softWords
  cases c.extended <;> simp

/-- Where they are. -/
def softBase (c : Cpu) : Addr := c.psp - BitVec.ofNat 32 (4 * softWords c.extended)

/-- The memory with them. -/
def softMem (c : Cpu) (m : Mem) : Mem :=
  store (if c.extended then c.fpStack m else m) (softBase c) (softStack c)

/-- The three pushes of `PendSV_Handler` are one. -/
lemma saveFrom_mem (c : Cpu) (m : Mem) : (saveFrom p c m).2 =
    Function.update (softMem c m) (softMem c m p.fromThread) (softBase c) := by
  have hpush : push (if c.extended then c.fpStack m else m) c.psp (softStack c) =
      (softMem c m, softBase c) := by
    unfold push softMem softBase
    rw [length_softStack]
  have hsaved : (saveFrom p c m).2 =
      Function.update (push (if c.extended then c.fpStack m else m) c.psp (softStack c)).1
        ((push (if c.extended then c.fpStack m else m) c.psp (softStack c)).1 p.fromThread)
        (push (if c.extended then c.fpStack m else m) c.psp (softStack c)).2 := by
    unfold saveFrom softStack
    cases c.extended
    · simp only [Bool.false_eq_true, if_false]
      rw [push_push _ _ (by simp), List.append_nil, List.singleton_append]
    · simp only [if_true]
      rw [push_push _ _ (by simp), push_push _ _ (by simp), List.singleton_append, List.cons_append]
  rw [hsaved, hpush]

lemma softBase_add (c : Cpu) : softBase c + BitVec.ofNat 32 (4 * softWords c.extended) = c.psp :=
  BitVec.sub_add_cancel _ _

lemma load_softMem (c : Cpu) (m : Mem) :
    load (softMem c m) (softBase c) (softWords c.extended) = softStack c := by
  have hlen := length_softStack c
  rw [← hlen]
  refine load_store ?_
  rw [hlen]
  cases c.extended <;> decide

/-- The frame above is as it was. -/
lemma softMem_frame (c : Cpu) (m : Mem) {x : Addr} (hx : Within c.psp 26 x) :
    softMem c m x = (if c.extended then c.fpStack m else m) x := by
  refine store_of_not_within fun hin => ?_
  rw [length_softStack] at hin
  rw [← softBase_add c] at hx
  exact hin.not_next (by cases c.extended <;> decide) hx

variable (stkalign) in
/-- **What is saved is what was interrupted.** -/
lemma savedContext_softMem (hlazy : c.lspact = true → c.extended = true ∧ c.fpcar = c.psp + 0x20) :
    savedContext stkalign (softMem c m) (softBase c) = interruptedContext stkalign c m ∧
      softMem c m (softBase c) = if c.extended then 1 else 0 := by
  have hload := load_softMem c m
  have hframe := fun x => softMem_frame c m (x := x)
  have hpsp := softBase_add c
  unfold softStack at hload
  unfold savedContext
  cases hc : c.extended <;> rw [hc] at hload hframe hpsp
  · simp only [Bool.false_eq_true, if_false, List.append_nil] at hload hframe
    obtain ⟨hflag, hhigh⟩ := List.cons.inj hload
    refine ⟨?_, hflag⟩
    have hzero : decide (softMem c m (softBase c) ≠ 0) = false := by simpa using hflag
    dsimp only
    rw [hzero, hpsp]
    have hhigh' : load (softMem c m) (softBase c + 4) 8 = List.ofFn c.high := hhigh
    rw [hhigh', row_ofFn, stackedContext_congr fun x hx => hframe x (hx.left (k := 18))]
    unfold interruptedContext
    rw [hc]
    exact stackedContext_basic _
  · simp only [if_true] at hload hframe
    obtain ⟨hflag, hrest⟩ := List.cons.inj hload
    refine ⟨?_, hflag⟩
    have hone : decide (softMem c m (softBase c) ≠ 0) = true := by
      have hflag' : softMem c m (softBase c) = 1 := hflag
      rw [hflag']
      decide
    dsimp only
    have hsplit : load (softMem c m) (softBase c + 4) 8 ++ load (softMem c m) (softBase c + 36) 16 =
        List.ofFn c.high ++ List.ofFn c.fpHigh := by
      refine Eq.trans ?_ hrest
      have haddr : softBase c + 36 = softBase c + 4 + BitVec.ofNat 32 (4 * 8) :=
        (BitVec.add_assoc (softBase c) 4 32).symm
      rw [haddr]
      exact load_add.symm
    obtain ⟨hhigh, hs16⟩ := List.append_inj hsplit (by simp)
    have hlow : load (softMem c m) (c.psp + 0x20) 16 = load (c.fpStack m) (c.psp + 0x20) 16 :=
      load_congr fun x hx => hframe x (within_part (j := 8) (by decide) hx)
    have hfpscr : softMem c m (c.psp + 0x60) = c.fpStack m (c.psp + 0x60) := hframe _ ⟨24, by decide, rfl⟩
    rw [hone, hpsp, hhigh, hs16, row_ofFn, row_ofFn, hlow, hfpscr,
      stackedContext_congr fun x hx => hframe x (hx.left (k := 18))]
    have hstacked := interruptedContext_fpUsed stkalign (m := m) hlazy c.fpLow c.fpscr
    rw [← hstacked]
    unfold interruptedContext
    have hext : Cpu.extended { c.fpUsed with fpLow := c.fpLow, fpscr := c.fpscr } = true := hc
    rw [hext]
    rfl

/-- `lr` after `switch_to_thread`. -/
def switchLr (lr : Word) (extended : Bool) : Word := (lr ||| 0x10) &&& (if extended then ~~~0x10 else ~~~0)

lemma getLsbD_switchLr (lr : Word) (extended : Bool) :
    (switchLr lr extended).getLsbD 4 = !extended := by
  unfold switchLr
  have hbit : (0x10 : Word) = bit 32 4 := rfl
  cases extended
  · have hones : ~~~(0 : Word) = BitVec.allOnes 32 := rfl
    rw [if_neg Bool.false_ne_true, hones, BitVec.and_allOnes, hbit, getLsbD_setBit]
    simp
  · rw [if_pos rfl, hbit, getLsbD_clearBit]
    simp

/-- `EXC_RETURN[2]` set in `lr`. -/
lemma extended_or_four (lr : Word) : (lr ||| 4).getLsbD 4 = lr.getLsbD 4 := by
  have hbit : (4 : Word) = bit 32 2 := rfl
  rw [hbit, getLsbD_setBit]
  simp

lemma process_or_four (lr : Word) : (lr ||| 4).getLsbD 2 = true := by
  have hbit : (4 : Word) = bit 32 2 := rfl
  rw [hbit, getLsbD_setBit]
  simp

/-- `switch_to_thread` where the flag is `0`. -/
lemma switchToThread_basic {q : Addr} (hq : m (m p.toThread) = q) (hflag : m q = 0) :
    switchToThread p c m = ({ c with
      core := { c.core with lr := switchLr c.core.lr false }
      high := row (load m (q + 4) 8)
      psp := q + 36 }, m) := by
  have hr3 : ¬ ((load m q 1).getD 0 0 ≠ 0) := by simpa [load] using hflag
  have haddr : q + 4 + 32 = q + 36 := BitVec.add_assoc q 4 32
  unfold switchToThread pop
  rw [hq]
  simp only [if_neg hr3]
  rw [← haddr]
  rfl

/-- `switch_to_thread` where it is set. -/
lemma switchToThread_extended {q : Addr} (hq : m (m p.toThread) = q) (hflag : m q ≠ 0)
    (hlazy : c.lspact = false) : switchToThread p c m = ({ c.fpUsed with
      core := { c.core with lr := switchLr c.core.lr true }
      high := row (load m (q + 4) 8)
      fpHigh := row (load m (q + 36) 16)
      psp := q + 100 }, m) := by
  have hstack := fpStack_of_lazy (m := m) hlazy
  have hr3 : (load m q 1).getD 0 0 ≠ 0 := by simpa [load] using hflag
  have haddr : q + 4 + 32 = q + 36 := BitVec.add_assoc q 4 32
  have haddr' : q + 36 + 64 = q + 100 := BitVec.add_assoc q 36 64
  unfold switchToThread pop
  rw [hq, hstack]
  simp only [if_pos hr3]
  rw [← haddr', ← haddr]
  rfl

@[simp] lemma saveFrom_handler (c : Cpu) (m : Mem) : (saveFrom p c m).1.handler = c.handler := by
  unfold saveFrom
  cases c.extended <;> rfl

@[simp] lemma switchToThread_handler (c : Cpu) (m : Mem) : (switchToThread p c m).1.handler = c.handler := by
  unfold switchToThread
  dsimp only
  split <;> rfl

variable (stkalign) in
/-- **What is loaded is what was saved.** -/
lemma switchToThread_spec (hlazy : c.lspact = false) {extended : Bool} {q : Addr} (hq : m (m p.toThread) = q)
    (hflag : decide (m q ≠ 0) = extended) :
    interruptedContext stkalign (switchToThread p c m).1 m = savedContext stkalign m q ∧
      (switchToThread p c m).2 = m ∧ (switchToThread p c m).1.extended = extended ∧
      (switchToThread p c m).1.psp = q + BitVec.ofNat 32 (4 * softWords extended) ∧
      (switchToThread p c m).1.lspact = false := by
  unfold savedContext
  dsimp only
  rw [hflag]
  cases extended
  · have hzero : m q = 0 := by simpa using hflag
    rw [switchToThread_basic hq hzero]
    have hext : Cpu.extended { c with
        core := { c.core with lr := switchLr c.core.lr false }
        high := row (load m (q + 4) 8)
        psp := q + 36 } = false := by
      unfold Cpu.extended
      exact congrArg not (getLsbD_switchLr c.core.lr false)
    refine ⟨?_, rfl, hext, rfl, hlazy⟩
    unfold interruptedContext
    rw [hext]
    exact stackedContext_basic _
  · have hset : m q ≠ 0 := by simpa using hflag
    rw [switchToThread_extended hq hset hlazy]
    have hext : Cpu.extended { c.fpUsed with
        core := { c.core with lr := switchLr c.core.lr true }
        high := row (load m (q + 4) 8)
        fpHigh := row (load m (q + 36) 16)
        psp := q + 100 } = true := by
      unfold Cpu.extended
      exact congrArg not (getLsbD_switchLr c.core.lr true)
    refine ⟨?_, rfl, hext, rfl, rfl⟩
    unfold interruptedContext
    rw [hext]
    rfl

end N32L43x.Libcpu
