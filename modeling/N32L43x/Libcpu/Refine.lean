import N32L43x.Libcpu.Steps

/-!
From the first switch on, the processor does for every thread what a processor of its own would do.
-/

namespace N32L43x.Libcpu

open N32L43x.Lib.Memory (Addr)
open N32L43x.Lib.Stack N32L43x.Lib.Run N32L43x.Lib.Bits

variable {Tid : Type*} [DecidableEq Tid] {p : Layout Tid}

/-! ### The stack of a new thread -/

lemma toNat_and_not_seven (x : Word) : (x &&& ~~~7).toNat ≤ x.toNat ∧ x.toNat ≤ (x &&& ~~~7).toNat + 7 := by
  have hlow : (x &&& 7).toNat ≤ 7 := by
    rw [BitVec.toNat_and]
    exact Nat.and_le_right
  have hdisjoint : (x &&& ~~~7) &&& (x &&& 7) = 0#32 := by
    refine BitVec.eq_of_getLsbD_eq fun i hi => ?_
    simp only [BitVec.getLsbD_and, BitVec.getLsbD_not, BitVec.getLsbD_zero]
    cases x.getLsbD i <;> cases (7 : Word).getLsbD i <;> simp
  have hsum : (x &&& ~~~7) + (x &&& 7) = x := by
    rw [BitVec.add_eq_or_of_and_eq_zero _ _ hdisjoint]
    refine BitVec.eq_of_getLsbD_eq fun i hi => ?_
    simp only [BitVec.getLsbD_or, BitVec.getLsbD_and, BitVec.getLsbD_not, hi]
    cases x.getLsbD i <;> cases (7 : Word).getLsbD i <;> simp
  have hle : (x &&& ~~~7).toNat ≤ x.toNat := by
    rw [BitVec.toNat_and]
    exact Nat.and_le_left
  have hnat := congrArg BitVec.toNat hsum
  rw [BitVec.toNat_add] at hnat
  omega

omit [DecidableEq Tid] in
lemma toNat_top (t : Tid) : (p.top t).toNat ≤ (p.stackAddr t).toNat + p.stackSize t ∧
    (p.stackAddr t).toNat + p.stackSize t ≤ (p.top t).toNat + 7 := by
  have hend := p.stack_end t
  have hsum : (p.stackAddr t + BitVec.ofNat 32 (p.stackSize t)).toNat =
      (p.stackAddr t).toNat + p.stackSize t := by
    rw [BitVec.toNat_add, BitVec.toNat_ofNat, Nat.mod_eq_of_lt (a := p.stackSize t) (by omega),
      Nat.mod_eq_of_lt (by omega)]
  rw [← hsum]
  exact toNat_and_not_seven _

omit [DecidableEq Tid] in
lemma fits_top (t : Tid) : p.Fits t (p.top t) := by
  have htop := toNat_top (p := p) t
  have hroom := p.stack_room t
  exact ⟨by omega, htop.1⟩

omit [DecidableEq Tid] in
lemma toNat_stk (t : Tid) : (p.top t - 68).toNat + 68 = (p.top t).toNat ∧
    (p.stackAddr t).toNat + 140 ≤ (p.top t - 68).toNat := by
  have hfits := fits_top (p := p) t
  have hlt := (p.top t).isLt
  unfold Places.Fits at hfits
  rw [BitVec.toNat_sub]
  have h68 : (68 : Word).toNat = 68 := rfl
  omega

/-- The memory with a first context at `stk`. -/
def stackInitMem (m : Mem) (stk : Addr) (frame : ExceptionFrame) : Mem :=
  Function.update (store (store m stk (List.replicate 17 0xdeadbeef)) (stk + 36) frame.words) stk 0

lemma stackInitMem_of_ne {m : Mem} {stk a : Addr} {frame : ExceptionFrame}
    (ha : stackInitMem m stk frame a ≠ m a) : Within stk 17 a := by
  by_contra hout
  refine ha ?_
  have hne : a ≠ stk := by
    rintro rfl
    exact hout (Within.head a 16)
  have hupper : ¬ Within (stk + 36) frame.words.length a := fun hin =>
    hout (within_part (a := stk) (j := 9) (k := 8) (by decide) hin)
  unfold stackInitMem
  rw [Function.update_of_ne hne, store_of_not_within hupper, store_of_not_within (by simpa using hout)]

lemma row_replicate (n : ℕ) (w : Word) : row (List.replicate n w) = fun _ : Fin n => w := by
  funext i
  unfold row
  simp

/-- **A new thread has its first context on the stack.** -/
lemma savedContext_stackInitMem (m : Mem) (stk : Addr) (frame : ExceptionFrame) (stkalign : Bool)
    (hpsr : frame.psr.getLsbD 9 = false) : savedContext stkalign (stackInitMem m stk frame) stk =
      { core := frame, high := fun _ => 0xdeadbeef, sp := stk + 68, primask := false, fp := none } := by
  have hzero : stackInitMem m stk frame stk = 0 := Function.update_self ..
  have hdead : load (store m stk (List.replicate 17 0xdeadbeef)) stk 17 = List.replicate 17 0xdeadbeef :=
    load_store (show 4 * (List.replicate 17 (0xdeadbeef : Word)).length ≤ 0x100000000 by decide)
  have hframe : load (stackInitMem m stk frame) (stk + 36) 8 = frame.words := by
    refine Eq.trans (load_congr fun x hx => Function.update_of_ne ?_ _ _)
      (load_store (show 4 * frame.words.length ≤ 0x100000000 by simp))
    rintro rfl
    exact (Within.head x 8).not_next (k := 8) (by decide) hx
  have hhigh : load (stackInitMem m stk frame) (stk + 4) 8 = List.replicate 8 0xdeadbeef := by
    have hsame : load (stackInitMem m stk frame) (stk + 4) 8 =
        load (store m stk (List.replicate 17 0xdeadbeef)) (stk + 4) 8 := by
      refine load_congr fun x hx => ?_
      have hne : x ≠ stk := by
        rintro rfl
        exact not_within_succ (by decide) hx
      have hupper : ¬ Within (stk + 36) frame.words.length x := fun hin =>
        hx.tail.not_next (k := 8) (by decide) hin
      unfold stackInitMem
      rw [Function.update_of_ne hne, store_of_not_within hupper]
    rw [hsame]
    have hrest : load (store m stk (List.replicate 17 0xdeadbeef)) (stk + 4) (8 + 8) =
        List.replicate 8 0xdeadbeef ++ List.replicate 8 0xdeadbeef := (List.cons.inj hdead).2
    rw [load_add] at hrest
    exact (List.append_inj hrest (by simp)).1
  have hpsr' : frame.psr &&& ~~~0x200 = frame.psr := and_not_bit_of_clear (k := 9) hpsr
  unfold savedContext stackedContext
  have hflag : decide (stackInitMem m stk frame stk ≠ 0) = false := by
    rw [hzero]
    decide
  have hsp : stk + BitVec.ofNat 32 (4 * softWords false) + framesize false = stk + 68 :=
    BitVec.add_assoc stk 36 32
  dsimp only
  rw [hflag, hsp]
  have hframe' : load (stackInitMem m stk frame) (stk + BitVec.ofNat 32 (4 * softWords false)) 8 =
      frame.words :=
    hframe
  rw [hframe', hhigh, ofWords_words, hpsr, hpsr']
  rw [row_replicate, Bool.false_and]
  simp [spmask]

/-- What `_thread_init` writes, and the context that is there. -/
lemma threadInit_eq (exit : Word) (m : Mem) (t : Tid) (b : Start) : threadInit p.toPlaces exit m t b =
    Function.update (stackInitMem m (p.top t - 68) (initFrame b.entry b.parameter exit)) (p.sp t)
      (p.top t - 68) := by
  unfold threadInit rtHwStackInit
  rw [BitVec.sub_add_cancel]
  rfl

lemma saved_threadInit (exit : Word) (m : Mem) (t : Tid) (b : Start) :
    Saved p.toPlaces (threadInit p.toPlaces exit m t b) t (b.context p.toPlaces exit t) := by
  obtain ⟨hstk, hroom⟩ := toNat_stk (p := p) t
  have htop := toNat_top (p := p) t
  set stk := p.top t - 68 with hdef
  have hoff : ∀ a, Within stk 17 a → threadInit p.toPlaces exit m t b a =
      stackInitMem m stk (initFrame b.entry b.parameter exit) a := by
    intro a ha
    rw [threadInit_eq]
    refine Function.update_of_ne ?_ _ _
    rintro rfl
    have hlt := (p.top t).isLt
    have hb := ha.bounds (by omega)
    exact p.kernel_apart (t := t) (.inr (.inr (.inr ⟨t, rfl⟩))) ⟨by omega, by omega⟩
  have hsp : threadInit p.toPlaces exit m t b (p.sp t) = stk := by
    rw [threadInit_eq, Function.update_self]
  have hzero : stackInitMem m stk (initFrame b.entry b.parameter exit) stk = 0 := Function.update_self ..
  have hwords : savedWords (stackInitMem m stk (initFrame b.entry b.parameter exit)) stk = 17 := by
    unfold savedWords
    rw [hzero]
    decide
  refine ⟨?_, ?_, ?_⟩ <;> rw [hsp]
  · have hpsr : (initFrame b.entry b.parameter exit).psr.getLsbD 9 = false := by
      change (0x01000000 : Word).getLsbD 9 = false
      decide
    rw [savedContext_congr (by rwa [hwords]), savedContext_stackInitMem _ _ _ _ hpsr, hdef,
      BitVec.sub_add_cancel]
    rfl
  · rw [savedWords_congr (hoff stk (Within.head stk 16)), hwords]
    exact hstk.le
  · omega

lemma Saved.threadInit_other {exit : Word} {m : Mem} {t u : Tid} {b : Start} {x : Context} (hne : u ≠ t)
    (h : Saved p.toPlaces m u x) (hfits : p.Fits u x.sp) :
    Saved p.toPlaces (threadInit p.toPlaces exit m t b) u x := by
  have hwritten : ∀ a, threadInit p.toPlaces exit m t b a ≠ m a → a = p.sp t ∨ p.OnStack t a := by
    intro a ha
    by_cases hsp : a = p.sp t
    · exact .inl hsp
    · rw [threadInit_eq, Function.update_of_ne hsp] at ha
      obtain ⟨hstk, hroom⟩ := toNat_stk (p := p) t
      have htop := toNat_top (p := p) t
      have hlt := (p.top t).isLt
      have hb := (stackInitMem_of_ne ha).bounds (by omega)
      exact .inr ⟨by omega, by omega⟩
  refine h.congr hfits ?_ fun a ha => ?_
  · by_contra hch
    rcases hwritten _ hch with hsp | hstack
    · exact hne (p.sp_injective hsp)
    · exact p.kernel_apart (.inr (.inr (.inr ⟨u, rfl⟩))) hstack
  · by_contra hch
    rcases hwritten a hch with rfl | hstack
    · exact p.kernel_apart (.inr (.inr (.inr ⟨t, rfl⟩))) ha
    · exact hne (p.stacks_apart ha hstack)

/-- The memory with every thread of a list initialised. -/
def threadsInit (p : Places Tid) (exit : Word) (start : Tid → Start) (threads : List Tid) (m : Mem) : Mem :=
  threads.foldl (fun m t => threadInit p exit m t (start t)) m

lemma saved_threadsInit (exit : Word) (start : Tid → Start) : ∀ (threads : List Tid) (m : Mem) (t : Tid),
    t ∈ threads ∨ Saved p.toPlaces m t ((start t).context p.toPlaces exit t) →
      Saved p.toPlaces (threadsInit p.toPlaces exit start threads m) t ((start t).context p.toPlaces exit t)
  | [], m, t, h => h.resolve_left List.not_mem_nil
  | u :: us, m, t, h => by
    refine saved_threadsInit exit start us (threadInit p.toPlaces exit m u (start u)) t ?_
    by_cases htu : t = u
    · subst htu
      exact .inr (saved_threadInit exit m t (start t))
    · rcases h with hmem | hsaved
      · exact .inl ((List.mem_cons.mp hmem).resolve_left htu)
      · exact .inr (hsaved.threadInit_other htu (fits_top t))

/-! ### Runs -/

/-- The machine after `rt_system_scheduler_start`, with the threads of a list. -/
def boot (p : Places Tid) (exit : Word) (start : Tid → Start) (threads : List Tid) (m : Mem) (c : Cpu)
    (first : Tid) : Machine Tid :=
  rtSystemSchedulerStart p c (threadsInit p exit start threads m) first

/-- Threads that have not run. -/
def Virtual.init (p : Places Tid) (exit : Word) (start : Tid → Start) (m : Mem) (first : Tid) :
    Virtual Tid where
  context := fun t => (start t).context p exit t
  mem := m
  running := none
  current := first

/-- The processor at the end of the initialisation. -/
structure AtReset (c : Cpu) : Prop where
  thread : c.handler = false
  spsel : c.spsel = false
  lazy : c.lspact = false

lemma agrees_boot {exit : Word} {start : Tid → Start} {threads : List Tid} (hall : ∀ t, t ∈ threads)
    (m : Mem) {c : Cpu} (hc : AtReset c) (first : Tid) :
    Agrees p.toPlaces (boot p.toPlaces exit start threads m c first)
      (Virtual.init p.toPlaces exit start (boot p.toPlaces exit start threads m c first).mem first) := by
  have hquiet : Quiet p.toPlaces (Virtual.init p.toPlaces exit start m first)
      (threadsInit p.toPlaces exit start threads m) (boot p.toPlaces exit start threads m c first).mem :=
    ((quiet_update (.inr (.inr rfl))).trans (quiet_update (.inr (.inl rfl)))).trans (quiet_update (.inl rfl))
  have hsaved := hquiet.saved (fun t => fits_top t) fun t _ =>
    saved_threadsInit exit start threads m t (.inl (hall t))
  refine ⟨rfl, fun ha => absurd ha Bool.false_ne_true, .inr ⟨?_, ?_, ?_, .inl rfl⟩, hsaved, fun t => fits_top t,
    fun t => ?_, fun _ _ => rfl, ?_, ?_, ?_, ?_⟩
  · exact Function.update_self ..
  · exact (Function.update_of_ne p.flag_ne_from.symm _ _).trans (Function.update_self ..)
  · exact (Function.update_of_ne p.flag_ne_to.symm _ _).trans
      ((Function.update_of_ne p.from_ne_to.symm _ _).trans (Function.update_self ..))
  · change (0x01000000 : Word).getLsbD 9 = false
    decide
  · intro _ t ht
    exact absurd ht.symm (Option.some_ne_none t)
  · intro _ _
    exact ⟨hc.spsel, rfl, rfl, hc.lazy⟩
  · intro hhandler
    exact absurd hhandler (Bool.eq_false_iff.mp hc.thread)
  · intro hhandler
    exact absurd hhandler (Bool.eq_false_iff.mp hc.thread)

/-- Every step is one of the threads with a processor each, or none. -/
lemma simulates {s s' : Machine Tid} {v : Virtual Tid} {a : Action Tid} (h : Agrees p.toPlaces s v)
    (hC : Obeys p.toPlaces s a) (hs : step p.toPlaces s a = some s') :
    ∃ v', exec (Virtual.step p.toPlaces) v (label p.toPlaces s a s') = some v' ∧ Agrees p.toPlaces s' v' := by
  cases a with
  | exec x m => exact simulates_exec h hC hs
  | request t => exact simulates_request h hs
  | enter => exact simulates_enter h hs
  | isr core m => exact simulates_isr h hC hs
  | isrFp low fpscr => exact simulates_isrFp h hs
  | accept => exact simulates_accept h hs
  | pendSV => exact simulates_pendSV h hs
  | leave => exact simulates_leave h hs

/-- **Threads are not disturbed.**  Whatever the order of the code of threads and handlers, switch
requests, exceptions and PendSV, as long as the code keeps to its stack and leaves alone what is saved of
others, the run is one of threads with a processor each: code runs in the context and the memory the
thread has left, and after PendSV the thread that runs is the one the scheduler has chosen. -/
theorem threads_undisturbed (p : Layout Tid) (exit : Word) (start : Tid → Start) {threads : List Tid}
    (hall : ∀ t, t ∈ threads) (m : Mem) {c : Cpu} (hc : AtReset c) (first : Tid) (as : List (Action Tid))
    {s : Machine Tid}
    (hobeys : Along (step p.toPlaces) (Obeys p.toPlaces)
      (boot p.toPlaces exit start threads m c first) as)
    (hrun : exec (step p.toPlaces) (boot p.toPlaces exit start threads m c first) as = some s) :
    ∃ v, exec (Virtual.step p.toPlaces)
        (Virtual.init p.toPlaces exit start (boot p.toPlaces exit start threads m c first).mem first)
        (observe (step p.toPlaces) (label p.toPlaces) (boot p.toPlaces exit start threads m c first) as) =
          some v ∧
      v.current = s.currentThread ∧ (∀ a, v.Visible p.toPlaces a → s.mem a = v.mem a) ∧
      (s.cpu.handler = false → s.cpu.spsel = true → ∃ t, v.running = some t ∧ s.cpu.context = v.context t ∧
        (s.pending = false → t = s.currentThread)) := by
  obtain ⟨v, hv, hagree⟩ := exec_simulates_of_along (R := Agrees p.toPlaces) (C := Obeys p.toPlaces)
    (fun _ _ _ _ hR hC hs => simulates hR hC hs) as _ s _ (agrees_boot hall m hc first) hobeys hrun
  refine ⟨v, hv, hagree.current.symm, hagree.mem, fun hthread hsel => ?_⟩
  obtain ⟨t, ht, hlive⟩ := hagree.live_thread hthread hsel
  refine ⟨t, ht, hlive.context, fun hpending => ?_⟩
  rcases hagree.switching with hset | hsw
  · rw [hagree.current]
    exact Option.some.inj (ht.symm.trans hset.2)
  · rcases hsw.pending with hp | hactive
    · exact absurd hp (Bool.eq_false_iff.mp hpending)
    · exact absurd (hagree.active hactive) (Bool.eq_false_iff.mp hthread)

/-! ### Two threads -/

/-- Two threads with a stack of 1024 bytes each. -/
def twoPlaces : Places Bool where
  switchFlag := 0x20000000
  fromThread := 0x20000004
  toThread := 0x20000008
  sp := fun t => if t then 0x20000014 else 0x20000010
  stackAddr := fun t => if t then 0x20002000 else 0x20001000
  stackSize := fun _ => 1024
  mainStack := 0x2000C000
  stkalign := true

lemma twoPlaces_kernel {a : Addr} (h : twoPlaces.Kernel a) : a.toNat < 0x20000018 := by
  rcases h with rfl | rfl | rfl | ⟨t, rfl⟩
  · decide
  · decide
  · decide
  · cases t <;> decide

lemma twoPlaces_stack {t : Bool} {a : Addr} (h : twoPlaces.OnStack t a) :
    0x20001000 ≤ a.toNat ∧ a.toNat < 0x20002400 ∧ (t = true ↔ 0x20002000 ≤ a.toNat) := by
  obtain ⟨hlo, hhi⟩ := h
  cases t
  · have hbase : (twoPlaces.stackAddr false).toNat = 0x20001000 := rfl
    have hsize : twoPlaces.stackSize false = 1024 := rfl
    refine ⟨by omega, by omega, ?_⟩
    simp
    omega
  · have hbase : (twoPlaces.stackAddr true).toNat = 0x20002000 := rfl
    have hsize : twoPlaces.stackSize true = 1024 := rfl
    refine ⟨by omega, by omega, ?_⟩
    simp
    omega

lemma twoPlaces_main {a : Addr} (h : twoPlaces.OnMain a) : 0x20002400 ≤ a.toNat := by
  have hlo := h.1
  have hbase : twoPlaces.mainStack.toNat = 0x2000C000 := rfl
  omega

def twoLayout : Layout Bool where
  toPlaces := twoPlaces
  flag_ne_from := by decide
  flag_ne_to := by decide
  from_ne_to := by decide
  sp_injective := by
    intro t u h
    cases t <;> cases u
    · rfl
    · exact absurd h (by decide)
    · exact absurd h (by decide)
    · rfl
  sp_ne_flag := by
    intro t
    cases t <;> decide
  sp_ne_from := by
    intro t
    cases t <;> decide
  sp_ne_to := by
    intro t
    cases t <;> decide
  sp_ne_zero := by
    intro t
    cases t <;> decide
  stack_room := by
    intro t
    cases t <;> decide
  stack_end := by
    intro t
    cases t <;> decide
  kernel_apart := by
    intro a t hk hs
    have hlow := twoPlaces_kernel hk
    have hhigh := (twoPlaces_stack hs).1
    omega
  stacks_apart := by
    intro a t u ht hu
    have hiff := (twoPlaces_stack ht).2.2.trans (twoPlaces_stack hu).2.2.symm
    exact Bool.eq_iff_iff.mpr hiff
  main_room := by decide
  main_apart := by
    intro a t hm hs
    have hlow := twoPlaces_main hm
    have hhigh := (twoPlaces_stack hs).2.1
    omega
  main_not_kernel := by
    intro a hm hk
    have hlow := twoPlaces_main hm
    have hhigh := twoPlaces_kernel hk
    omega

instance (p : Places Bool) (c : Cpu) (t : Bool) : Decidable (Runs p c t) :=
  inferInstanceAs (Decidable (_ ∧ _))

instance (p : Places Bool) (t : Bool) (sp : Addr) : Decidable (p.Fits t sp) :=
  inferInstanceAs (Decidable (_ ∧ _))

def someFrame : ExceptionFrame := ⟨1, 2, 3, 4, 5, 6, 7, 0x01000000⟩

/-- The processor at the end of the initialisation. -/
def resetCpu : Cpu where
  core := someFrame
  high := fun _ => 0
  fpLow := fun _ => 0
  fpHigh := fun _ => 0
  fpscr := 0
  psp := 0
  msp := 0x2000BF00
  spsel := false
  fpca := true
  primask := true
  handler := false
  lspact := false
  fpcar := 0

def twoStart (t : Bool) : Start := ⟨if t then 0x08000201 else 0x08000301, 0⟩

def twoBoot : Machine Bool :=
  boot twoPlaces 0x08000401 twoStart [false, true] (fun _ => 0x23232323) resetCpu false

def toFirst : List (Action Bool) := [.enter, .accept, .pendSV, .leave]

/-- Code that has used the FPU. -/
def fpCode : Context where
  core := someFrame
  high := fun i => BitVec.ofNat 32 i
  sp := 0x200012fc
  primask := false
  fp := some ⟨fun i => BitVec.ofNat 32 (100 + i), fun i => BitVec.ofNat 32 (200 + i), 7⟩

/-- From one thread to the other and back, with a handler that uses the FPU. -/
def thereAndBack (m : Mem) : List (Action Bool) :=
  [.exec fpCode m, .request true, .enter, .isrFp (fun _ => 0) 0, .accept, .pendSV, .leave,
    .request false, .enter, .accept, .pendSV, .leave]

/-- Actions with which no code of threads or handlers runs. -/
def Action.NoCode : Action Bool → Prop
  | .exec _ _ => False
  | .isr _ _ => False
  | _ => True

lemma along_obeys {as : List (Action Bool)} (s : Machine Bool) (h : ∀ a ∈ as, a.NoCode) :
    Along (step twoPlaces) (Obeys twoPlaces) s as := by
  refine (along_of_forall as s h).imp fun s a ha => ?_
  cases a <;> first | exact trivial | exact ha.elim

theorem threads_undisturbed_thereAndBack : ∃ s s',
    exec (step twoPlaces) twoBoot toFirst = some s ∧
      exec (step twoPlaces) twoBoot (toFirst ++ thereAndBack s.mem) = some s' ∧
      ∃ v, exec (Virtual.step twoPlaces)
          (Virtual.init twoPlaces 0x08000401 twoStart twoBoot.mem false)
          (observe (step twoPlaces) (label twoPlaces) twoBoot (toFirst ++ thereAndBack s.mem)) = some v ∧
        v.current = s'.currentThread ∧ (∀ a, v.Visible twoPlaces a → s'.mem a = v.mem a) ∧
        (s'.cpu.handler = false → s'.cpu.spsel = true → ∃ t, v.running = some t ∧
          s'.cpu.context = v.context t ∧ (s'.pending = false → t = s'.currentThread)) := by
  have hruns : ∀ s ∈ exec (step twoPlaces) twoBoot toFirst,
      (Runs twoPlaces s.cpu true → twoPlaces.Fits true fpCode.sp) ∧ twoPlaces.Fits false fpCode.sp := by
    decide +kernel
  have hgo : ∃ s, exec (step twoPlaces) twoBoot toFirst = some s :=
    Option.isSome_iff_exists.mp (by decide +kernel)
  have hback : ∀ s ∈ exec (step twoPlaces) twoBoot toFirst,
      (exec (step twoPlaces) s (thereAndBack s.mem)).isSome = true := by
    decide +kernel
  obtain ⟨s, hs⟩ := hgo
  obtain ⟨htrue, hfalse⟩ := hruns s hs
  obtain ⟨s', hs'⟩ := Option.isSome_iff_exists.mp (hback s hs)
  have hrun := (exec_append_some hs (thereAndBack s.mem)).trans hs'
  have hall : ∀ t, t ∈ [false, true] := fun t => by cases t <;> simp
  refine ⟨s, s', hs, hrun, threads_undisturbed twoLayout 0x08000401 twoStart hall (fun _ => 0x23232323)
    (c := resetCpu) ⟨rfl, rfl, rfl⟩ false _ ?_ hrun⟩
  · have hfirst : Along (step twoPlaces) (Obeys twoPlaces) twoBoot toFirst :=
      along_obeys twoBoot (by simp [toFirst, Action.NoCode])
    refine hfirst.append hs ⟨⟨fun _ _ => rfl, fun t ht => ?_⟩, ?_⟩
    · cases t
      · exact hfalse
      · exact htrue ht
    · split
      · trivial
      · exact along_obeys _ (by simp [Action.NoCode])
end N32L43x.Libcpu
