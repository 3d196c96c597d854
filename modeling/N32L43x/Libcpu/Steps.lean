import N32L43x.Libcpu.Switch

/-!
Every step of the machine is one of the threads with a processor each, or none.
-/

namespace N32L43x.Libcpu

open N32L43x.Lib.Memory (Addr)
open N32L43x.Lib.Stack N32L43x.Lib.Run

variable {Tid : Type*} [DecidableEq Tid] {p : Layout Tid} {s s' : Machine Tid} {v : Virtual Tid}

lemma context_withContext (c : Cpu) (x : Context) : (c.withContext x).context = x := by
  unfold Cpu.withContext Cpu.context
  obtain ⟨core, high, sp, primask, fp⟩ := x
  cases fp <;> rfl

/-- After code of a thread. -/
def Virtual.ran (v : Virtual Tid) (t : Tid) (x : Context) (m : Mem) : Virtual Tid :=
  { v with context := Function.update v.context t x, mem := m }

lemma ran_self (t : Tid) (x : Context) (m : Mem) : (v.ran t x m).context t = x := Function.update_self ..

lemma ran_other {t u : Tid} (hrun : v.running = some t) (hu : v.running ≠ some u) (x : Context) (m : Mem) :
    (v.ran t x m).context u = v.context u := by
  refine Function.update_of_ne ?_ _ _
  rintro rfl
  exact hu hrun

/-- What holds of every context, and of the one the code leaves. -/
lemma ran_forall {P : Tid → Context → Prop} {t : Tid} {x : Context} (hx : P t x)
    (h : ∀ u, P u (v.context u)) (m : Mem) (u : Tid) : P u ((v.ran t x m).context u) := by
  by_cases hu : u = t
  · subst hu
    rw [ran_self]
    exact hx
  · have hother : (v.ran t x m).context u = v.context u := Function.update_of_ne hu _ _
    rw [hother]
    exact h u

/-- Code of the thread that runs. -/
lemma exec_run {t : Tid} {x : Context} {m m' : Mem} (hrun : v.running = some t)
    (hmem : ∀ a, v.Visible p.toPlaces a → m a = v.mem a) (ls : List (Label Tid)) :
    exec (Virtual.step p.toPlaces) v (.run (v.context t) m x m' :: ls) =
      exec (Virtual.step p.toPlaces) (v.ran t x m') ls := by
  refine exec_cons_some ?_ ls
  unfold Virtual.step
  simp only [hrun]
  rw [if_pos ⟨rfl, hmem⟩, ← hrun]
  rfl

omit [DecidableEq Tid] in
/-- The thread of a processor that uses a process stack. -/
lemma Agrees.live_thread (h : Agrees p.toPlaces s v) (hthread : s.cpu.handler = false)
    (hsel : s.cpu.spsel = true) : ∃ t, v.running = some t ∧ Live s.cpu (v.context t) := by
  cases hv : v.running with
  | none =>
    have hidle := (h.idle hthread hv).spsel
    rw [hsel] at hidle
    cases hidle
  | some t => exact ⟨t, rfl, h.live hthread t hv⟩

omit [DecidableEq Tid] in
/-- What is saved of a thread that does not run is reserved. -/
lemma Agrees.saved_reserved (h : Agrees p.toPlaces s v) {m : Mem}
    (hmem : ∀ a, Reserved p.toPlaces s a → m a = s.mem a) {u : Tid} (hu : v.running ≠ some u) :
    Saved p.toPlaces m u (v.context u) := by
  have hruns : ¬ Runs p.toPlaces s.cpu u := fun hr => hu ((h.runs_iff u).mp hr)
  have hsaved := h.saved u hu
  have hsp : m (p.sp u) = s.mem (p.sp u) := hmem _ (.kernel (.inr (.inr (.inr ⟨u, rfl⟩))))
  have hwords : ∀ a, Within (s.mem (p.sp u)) (savedWords s.mem (s.mem (p.sp u))) a → m a = s.mem a :=
    fun a ha => hmem a (.saved u hruns ha)
  exact hsaved.congr_words hsp hwords

lemma simulates_exec {x : Context} {m : Mem} (h : Agrees p.toPlaces s v)
    (hC : Obeys p.toPlaces s (.exec x m)) (hs : step p.toPlaces s (.exec x m) = some s') :
    ∃ v', exec (Virtual.step p.toPlaces) v (label p.toPlaces s (.exec x m) s') = some v' ∧
      Agrees p.toPlaces s' v' := by
  obtain ⟨hmem, hfits⟩ := hC
  simp only [step] at hs
  split at hs
  case isFalse => cases hs
  case isTrue hguard =>
    obtain ⟨hthread, hsel, hvalid⟩ := hguard
    obtain rfl := Option.some.inj hs
    obtain ⟨t, hrun, hlive⟩ := h.live_thread hthread hsel
    refine ⟨v.ran t x m, ?_, ?_⟩
    · unfold label
      rw [hlive.context, exec_run hrun h.mem, context_withContext]
      rfl
    · refine ⟨h.current, h.active, h.switching_congr rfl rfl (fun b hb => hmem b (.kernel hb)) id, ?_, ?_, ?_,
        fun _ _ => rfl, ?_, ?_, ?_, ?_⟩
      · intro u hu
        rw [ran_other hrun hu]
        exact h.saved_reserved hmem hu
      · exact ran_forall (P := fun u y => p.Fits u y.sp) (hfits t ((h.runs_iff t).mpr hrun)) h.fits m
      · exact ran_forall (P := fun _ y => y.core.psr.getLsbD 9 = false) hvalid.2 h.psr m
      · intro _ u hu
        obtain rfl : t = u := Option.some.inj (hrun.symm.trans hu)
        rw [ran_self]
        exact ⟨hlive.spsel, context_withContext _ _, hlive.lazy⟩
      · intro _ hnone
        exact absurd (hrun.symm.trans hnone) (Option.some_ne_none t)
      · intro hhandler
        exact absurd hhandler (Bool.eq_false_iff.mp hthread)
      · intro hhandler
        exact absurd hhandler (Bool.eq_false_iff.mp hthread)

lemma simulates_isr {core : ExceptionFrame} {m : Mem} (h : Agrees p.toPlaces s v)
    (hC : Obeys p.toPlaces s (.isr core m)) (hs : step p.toPlaces s (.isr core m) = some s') :
    ∃ v', exec (Virtual.step p.toPlaces) v (label p.toPlaces s (.isr core m) s') = some v' ∧
      Agrees p.toPlaces s' v' := by
  have hmem : ∀ a, Reserved p.toPlaces s a → m a = s.mem a := hC
  simp only [step] at hs
  split at hs
  case isFalse => cases hs
  case isTrue hhandler =>
    obtain rfl := Option.some.inj hs
    refine ⟨{ v with mem := m }, ?_, ?_⟩
    · refine exec_cons_some ?_ []
      unfold Virtual.step
      exact if_pos h.mem
    · have hext : Cpu.extended { s.cpu with core := { core with lr := s.cpu.core.lr } } = s.cpu.extended := rfl
      refine ⟨h.current, h.active, h.switching_congr rfl rfl (fun b hb => hmem b (.kernel hb)) id,
        fun u hu => h.saved_reserved hmem hu, h.fits, h.psr, fun _ _ => rfl, ?_, ?_, ?_, ?_⟩
      · intro hthread
        exact absurd hhandler (Bool.eq_false_iff.mp hthread)
      · intro hthread
        exact absurd hhandler (Bool.eq_false_iff.mp hthread)
      · intro _ t ht
        have hint := h.interrupted hhandler t ht
        have hkept := hint.congr fun a ha => hmem a (.frame hhandler hint.process ha)
        exact ⟨hkept.process, hkept.primask, hkept.context, hkept.lazy, hkept.above, hkept.below⟩
      · intro _ hnone
        have hboot := h.booting hhandler hnone
        exact ⟨hboot.process, hboot.extended, hboot.primask, hboot.lazy⟩

omit [DecidableEq Tid] in
/-- An instruction of the FPU in a handler writes to the frame. -/
lemma fpStack_of_ne {t : Tid} {c : Cpu} {m : Mem} {x : Context} {a : Addr} (h : Interrupted p.toPlaces c m t x)
    (ha : c.fpStack m a ≠ m a) : Within c.psp (frameWords c.extended) a := by
  unfold Cpu.fpStack at ha
  split at ha
  case isFalse => exact absurd rfl ha
  case isTrue hl =>
    obtain ⟨hext, hplace⟩ := h.lazy hl
    rw [hext]
    by_contra hout
    refine ha (store_of_not_within fun hin => hout ?_)
    rw [hplace, List.length_append, List.length_ofFn, List.length_singleton] at hin
    exact within_part (j := 8) (by decide) hin

omit [DecidableEq Tid] in
lemma Agrees.fpStack_quiet (h : Agrees p.toPlaces s v) (hhandler : s.cpu.handler = true) :
    Quiet p.toPlaces v s.mem (s.cpu.fpStack s.mem) ∧ ∀ b, p.Kernel b → s.cpu.fpStack s.mem b = s.mem b := by
  cases hv : v.running with
  | none =>
    rw [fpStack_of_lazy (h.booting hhandler hv).lazy]
    exact ⟨quiet_refl, fun _ _ => rfl⟩
  | some t =>
    have hint := h.interrupted hhandler t hv
    have hwritten := fun a ha => hint.within (h.fits t) (fpStack_of_ne (m := s.mem) (a := a) hint ha)
    exact ⟨quiet_stack hv hwritten, fun b hb => kernel_of_stack hb fun a ha => .inl ⟨t, (hwritten a ha).1⟩⟩

lemma simulates_isrFp {low : Fin 16 → Word} {fpscr : Word} (h : Agrees p.toPlaces s v)
    (hs : step p.toPlaces s (.isrFp low fpscr) = some s') :
    ∃ v', exec (Virtual.step p.toPlaces) v (label p.toPlaces s (.isrFp low fpscr) s') = some v' ∧
      Agrees p.toPlaces s' v' := by
  simp only [step] at hs
  split at hs
  case isFalse => cases hs
  case isTrue hhandler =>
    obtain rfl := Option.some.inj hs
    obtain ⟨hquiet, hkernel⟩ := h.fpStack_quiet hhandler
    refine ⟨v, rfl, h.current, h.active, h.switching_congr rfl rfl hkernel id, hquiet.saved h.fits h.saved,
      h.fits, h.psr, hquiet.mem h.mem, ?_, ?_, ?_, ?_⟩
    · intro hthread
      exact absurd hhandler (Bool.eq_false_iff.mp hthread)
    · intro hthread
      exact absurd hhandler (Bool.eq_false_iff.mp hthread)
    · intro _ t ht
      have hint := h.interrupted hhandler t ht
      refine ⟨hint.process, hint.primask, ?_, fun hl => absurd hl Bool.false_ne_true, hint.above, hint.below⟩
      rw [← hint.context]
      exact interruptedContext_fpUsed _ hint.lazy low fpscr
    · intro _ hnone
      have hboot := h.booting hhandler hnone
      exact ⟨hboot.process, hboot.extended, hboot.primask, rfl⟩

omit [DecidableEq Tid] in
/-- What a request writes. -/
lemma Agrees.request_mem (h : Agrees p.toPlaces s v) (t : Tid) {m : Mem}
    (hm : m = (rtHwContextSwitch p.toPlaces (p.sp s.currentThread) (p.sp t) s.cpu s.mem).2) :
    Quiet p.toPlaces v s.mem m ∧ (∀ a, ¬ p.Kernel a → m a = s.mem a) ∧ m p.switchFlag = 1 ∧
      m p.fromThread = fromPtr p.toPlaces v.running ∧ m p.toThread = p.sp t := by
  subst hm
  unfold rtHwContextSwitch
  dsimp only
  have hlast : ∀ (m₁ : Mem) (w : Word), Quiet p.toPlaces v m₁ (Function.update m₁ p.toThread w) :=
    fun m₁ w => quiet_update (.inr (.inr rfl))
  rcases h.switching with ⟨hflag, hcur⟩ | hsw
  · rw [if_neg (by rw [hflag]; decide)]
    refine ⟨((quiet_update (.inl rfl)).trans (quiet_update (.inr (.inl rfl)))).trans (hlast _ _), ?_, ?_, ?_, ?_⟩
    · intro a ha
      rw [Function.update_of_ne fun he => ha (.inr (.inr (.inl he))),
        Function.update_of_ne fun he => ha (.inr (.inl he)), Function.update_of_ne fun he => ha (.inl he)]
    · rw [Function.update_of_ne p.flag_ne_to, Function.update_of_ne p.flag_ne_from, Function.update_self]
    · rw [Function.update_of_ne p.from_ne_to, Function.update_self, hcur, h.current]
      rfl
    · exact Function.update_self ..
  · rw [if_pos hsw.flag]
    refine ⟨hlast _ _, ?_, ?_, ?_, Function.update_self ..⟩
    · intro a ha
      exact Function.update_of_ne (fun he => ha (.inr (.inr (.inl he)))) _ _
    · rw [Function.update_of_ne p.flag_ne_to, hsw.flag]
    · rw [Function.update_of_ne p.from_ne_to, hsw.fromThread]

lemma simulates_request {t : Tid} (h : Agrees p.toPlaces s v)
    (hs : step p.toPlaces s (.request t) = some s') :
    ∃ v', exec (Virtual.step p.toPlaces) v (label p.toPlaces s (.request t) s') = some v' ∧
      Agrees p.toPlaces s' v' := by
  simp only [step] at hs
  split at hs
  case isFalse => cases hs
  case isTrue hguard =>
    obtain rfl := Option.some.inj hs
    obtain ⟨hquiet, hoff, hflag, hfrom, hto⟩ := h.request_mem t rfl
    cases hmode : s.cpu.handler
    · obtain ⟨u, hrun, hlive⟩ := h.live_thread hmode (by simpa [hmode] using hguard)
      generalize hr : rtHwContextSwitch p.toPlaces (p.sp s.currentThread) (p.sp t) s.cpu s.mem = r at *
      have hsp : r.1.context.sp = (v.context u).sp := by
        rw [← hlive.context, ← hr]
        rfl
      have hpsr : r.1.context.core.psr = (v.context u).core.psr := by
        rw [← hlive.context, ← hr]
        rfl
      have hthread : r.1.handler = false := by
        rw [← hr]
        exact hmode
      refine ⟨{ v.ran u r.1.context r.2 with current := t }, ?_, ?_⟩
      · unfold label
        rw [hmode, hlive.context]
        exact exec_run hrun h.mem [.request t]
      · refine ⟨rfl, fun ha => absurd (h.active ha) (Bool.eq_false_iff.mp hmode),
          .inr ⟨hflag, hfrom, hto, .inl rfl⟩, ?_, ?_, ?_, fun _ _ => rfl, ?_, ?_, ?_, ?_⟩
        · intro w hw
          have hother := ran_other (v := v) hrun hw r.1.context r.2
          exact hother ▸ hquiet.saved h.fits h.saved w hw
        · exact ran_forall (P := fun w y => p.Fits w y.sp) (hsp ▸ h.fits u) h.fits r.2
        · exact ran_forall (P := fun _ y => y.core.psr.getLsbD 9 = false) (hpsr ▸ h.psr u) h.psr r.2
        · intro _ w hw
          obtain rfl : u = w := Option.some.inj (hrun.symm.trans hw)
          have hself := ran_self (v := v) u r.1.context r.2
          refine ⟨?_, hself.symm, ?_⟩
          · rw [← hr]
            exact hlive.spsel
          · rw [← hr]
            exact hlive.lazy
        · intro _ hnone
          exact absurd (hrun.symm.trans hnone) (Option.some_ne_none u)
        · intro hhandler
          exact absurd hhandler (Bool.eq_false_iff.mp hthread)
        · intro hhandler
          exact absurd hhandler (Bool.eq_false_iff.mp hthread)
    · refine ⟨{ v with current := t }, ?_, ?_⟩
      · unfold label
        rw [hmode]
        rfl
      · refine ⟨rfl, fun _ => hmode, .inr ⟨hflag, hfrom, hto, .inl rfl⟩, hquiet.saved h.fits h.saved, h.fits,
          h.psr, hquiet.mem h.mem, ?_, ?_, ?_, ?_⟩
        · intro hthread
          exact absurd hmode (Bool.eq_false_iff.mp hthread)
        · intro hthread
          exact absurd hmode (Bool.eq_false_iff.mp hthread)
        · intro _ u hu
          have hint := h.interrupted hmode u hu
          have hkept := hint.congr fun a ha => hoff a fun hk =>
            p.kernel_apart hk (hint.within (h.fits u) ha).1
          exact ⟨hkept.process, hkept.primask, hkept.context, hkept.lazy, hkept.above, hkept.below⟩
        · intro _ hnone
          have hboot := h.booting hmode hnone
          exact ⟨hboot.process, hboot.extended, hboot.primask, hboot.lazy⟩

lemma toNat_framesize (extended : Bool) : (framesize extended).toNat = 4 * frameWords extended := by
  cases extended <;> rfl

lemma within_frame {extended : Bool} {b a : Addr} (h : Within b 8 a) : Within b (frameWords extended) a := by
  cases extended
  · exact h
  · exact h.left (k := 18)

omit [DecidableEq Tid] in
/-- The frame an exception makes on the stack of a thread. -/
lemma Live.entry {t : Tid} {c : Cpu} {m : Mem} {x : Context} (h : Live c x) (hfits : p.Fits t x.sp)
    (hpsr : x.core.psr.getLsbD 9 = false) (hmask : c.primask = false) :
    Interrupted p.toPlaces (exceptionEntry p.stkalign c m).1 (exceptionEntry p.stkalign c m).2 t x ∧
      ∀ a, (exceptionEntry p.stkalign c m).2 a ≠ m a → Within (exceptionEntry p.stkalign c m).1.psp 8 a := by
  have hsp : c.psp = x.sp := by rw [← h.context]; rfl
  have hpsr' : c.core.psr.getLsbD 9 = false := by rw [← h.context] at hpsr; exact hpsr
  have hext : (exceptionEntry p.stkalign c m).1.extended = c.fpca := by
    simp only [exceptionEntry, Cpu.extended, extended_excReturn, Bool.not_not]
  have hpsp : (exceptionEntry p.stkalign c m).1.psp =
      (x.sp - framesize c.fpca) &&& ~~~spmask (forcealign p.stkalign c.fpca) := by
    simp only [exceptionEntry, h.spsel, if_true, hsp]
  obtain ⟨habove, hbelow⟩ := toNat_frameptr x.sp c.fpca (forcealign p.stkalign c.fpca)
    (by have := hfits.1; omega)
  rw [← hpsp, toNat_framesize] at habove hbelow
  refine ⟨⟨?_, hmask, ?_, ?_, ?_, ?_⟩, ?_⟩
  · simp only [exceptionEntry, Cpu.process, process_excReturn, h.spsel]
  · rw [interruptedContext_entry h.spsel hmask hpsr', h.context]
  · intro hlazy
    have hfpca : c.fpca = true := hlazy
    refine ⟨hext.trans hfpca, ?_⟩
    simp only [exceptionEntry, h.spsel, hfpca, if_true]
  · rw [hext]
    exact habove
  · rw [hext]
    have hroom := hfits.1
    have hsize : 4 * softWords c.fpca + 4 * frameWords c.fpca + 4 ≤ 208 := by cases c.fpca <;> decide
    omega
  · intro a ha
    by_contra hout
    refine ha ?_
    simp only [exceptionEntry, h.spsel, if_true] at hout ⊢
    exact store_of_not_within hout

omit [DecidableEq Tid] in
/-- The frame an exception makes before the first switch. -/
lemma Idle.entry {c : Cpu} {m : Mem} (h : Idle p.toPlaces c) (hmask : c.primask = false) :
    Booting (exceptionEntry p.stkalign c m).1 ∧
      ∀ a, (exceptionEntry p.stkalign c m).2 a ≠ m a → p.OnMain a := by
  refine ⟨⟨?_, ?_, hmask, h.fpca⟩, ?_⟩
  · simp only [exceptionEntry, Cpu.process, process_excReturn, h.spsel]
  · simp only [exceptionEntry, Cpu.extended, extended_excReturn, Bool.not_not, h.fpca]
  · intro a ha
    have hroom := p.main_room
    have hlt := p.mainStack.isLt
    obtain ⟨habove, hbelow⟩ := toNat_frameptr p.mainStack false (forcealign p.stkalign false) hroom
    rw [toNat_framesize] at habove hbelow
    simp only [frameWords, Bool.false_eq_true, if_false] at habove hbelow
    by_contra hout
    refine ha ?_
    simp only [exceptionEntry, h.spsel, h.fpca, h.msp, Bool.false_eq_true, if_false]
    refine store_of_not_within fun hin => hout ?_
    rw [length_words] at hin
    have hb := hin.bounds (by omega)
    exact ⟨by omega, by omega⟩

lemma simulates_enter (h : Agrees p.toPlaces s v) (hs : step p.toPlaces s .enter = some s') :
    ∃ v', exec (Virtual.step p.toPlaces) v (label p.toPlaces s .enter s') = some v' ∧
      Agrees p.toPlaces s' v' := by
  simp only [step] at hs
  split at hs
  case isFalse => cases hs
  case isTrue hguard =>
    obtain ⟨hthread, hmask⟩ := hguard
    obtain rfl := Option.some.inj hs
    have hframe : Quiet p.toPlaces v s.mem (exceptionEntry p.stkalign s.cpu s.mem).2 ∧
        ∀ b, p.Kernel b → (exceptionEntry p.stkalign s.cpu s.mem).2 b = s.mem b := by
      cases hv : v.running with
      | none =>
        obtain ⟨-, hwritten⟩ := (h.idle hthread hv).entry (m := s.mem) hmask
        exact ⟨quiet_main hwritten, fun b hb => kernel_of_stack hb fun a ha => .inr (hwritten a ha)⟩
      | some t =>
        obtain ⟨hint, hwritten⟩ := (h.live hthread t hv).entry (m := s.mem) (h.fits t) (h.psr t) hmask
        have hstack := fun a ha => hint.within (h.fits t) (a := a) (within_frame (hwritten a ha))
        exact ⟨quiet_stack hv hstack, fun b hb => kernel_of_stack hb fun a ha => .inl ⟨t, (hstack a ha).1⟩⟩
    obtain ⟨hquiet, hkernel⟩ := hframe
    refine ⟨v, rfl, h.current, fun _ => rfl, h.switching_congr rfl rfl hkernel id, hquiet.saved h.fits h.saved,
      h.fits, h.psr, hquiet.mem h.mem, ?_, ?_, ?_, ?_⟩
    · intro hhandler
      exact absurd hhandler.symm Bool.false_ne_true
    · intro hhandler
      exact absurd hhandler.symm Bool.false_ne_true
    · intro _ t ht
      exact ((h.live hthread t ht).entry (h.fits t) (h.psr t) hmask).1
    · intro _ hnone
      exact ((h.idle hthread hnone).entry (m := s.mem) hmask).1

/-! ### PendSV -/

omit [DecidableEq Tid] in
lemma toNat_softBase {t : Tid} {c : Cpu} {m : Mem} {x : Context} (h : Interrupted p.toPlaces c m t x) :
    (softBase c).toNat = c.psp.toNat - 4 * softWords c.extended := by
  have hbelow := h.below
  have hlt := c.psp.isLt
  have hsize : softWords c.extended ≤ 25 := by cases c.extended <;> decide
  unfold softBase
  rw [BitVec.toNat_sub, BitVec.toNat_ofNat, Nat.mod_eq_of_lt (a := 4 * softWords c.extended) (by omega)]
  omega

omit [DecidableEq Tid] in
/-- What `PendSV_Handler` saves is on the stack, below the stack pointer of the thread. -/
lemma softMem_of_ne {t : Tid} {c : Cpu} {m : Mem} {x : Context} {a : Addr}
    (h : Interrupted p.toPlaces c m t x) (hfits : p.Fits t x.sp) (ha : softMem c m a ≠ m a) :
    p.OnStack t a ∧ a.toNat < x.sp.toNat := by
  by_cases hin : Within (softBase c) (softWords c.extended) a
  · have hbase := toNat_softBase h
    have hbelow := h.below
    have habove := h.above
    have hb := within_below hin (x := x) (by omega)
    exact ⟨⟨by omega, by have := hfits.2; omega⟩, hb.2⟩
  · refine h.within hfits (fpStack_of_ne h fun hsame => ha ?_)
    unfold softMem
    rw [store_of_not_within (by rw [length_softStack]; exact hin)]
    split
    · exact hsame
    · rfl

omit [DecidableEq Tid] in
/-- **The context of the thread that ran is saved.** -/
lemma Interrupted.save {t : Tid} {c : Cpu} {m : Mem} {x : Context} (h : Interrupted p.toPlaces c m t x)
    (hfits : p.Fits t x.sp) (hfrom : m p.fromThread = p.sp t) :
    Saved p.toPlaces (saveFrom p.toPlaces c m).2 t x ∧ (saveFrom p.toPlaces c m).1.lspact = false ∧
      ∀ a, (saveFrom p.toPlaces c m).2 a ≠ m a → a = p.sp t ∨ p.OnStack t a ∧ a.toNat < x.sp.toNat := by
  have hkernel : ∀ b, p.Kernel b → softMem c m b = m b := fun b hb =>
    kernel_of_stack hb fun a ha => .inl ⟨t, (softMem_of_ne h hfits ha).1⟩
  have hmem : (saveFrom p.toPlaces c m).2 = Function.update (softMem c m) (p.sp t) (softBase c) := by
    rw [saveFrom_mem, hkernel _ (.inr (.inl rfl)), hfrom]
  obtain ⟨hcontext, hflag⟩ := savedContext_softMem p.stkalign (m := m) h.lazy
  have hset : decide (softMem c m (softBase c) ≠ 0) = c.extended := by
    rw [hflag]
    cases c.extended <;> decide
  have hsize : savedWords (softMem c m) (softBase c) = softWords c.extended + frameWords c.extended := by
    unfold savedWords
    rw [hset]
  have hbase := toNat_softBase h
  have hbelow := h.below
  have habove := h.above
  have hoff : ∀ a, Within (softBase c) (savedWords (softMem c m) (softBase c)) a →
      Function.update (softMem c m) (p.sp t) (softBase c) a = softMem c m a := by
    intro a ha
    refine Function.update_of_ne ?_ _ _
    rintro rfl
    have hb := within_below ha (x := x) (by rw [hsize]; omega)
    refine p.kernel_apart (t := t) (.inr (.inr (.inr ⟨t, rfl⟩))) ⟨by omega, ?_⟩
    have htop := hfits.2
    omega
  refine ⟨?_, ?_, ?_⟩
  · rw [hmem]
    refine ⟨?_, ?_, ?_⟩ <;> rw [Function.update_self]
    · rw [savedContext_congr hoff, hcontext, h.context]
    · have hfirst : Within (softBase c) (savedWords (softMem c m) (softBase c)) (softBase c) := by
        refine ⟨0, ?_, by simp⟩
        rw [hsize]
        unfold softWords
        split <;> omega
      rw [savedWords_congr (hoff _ hfirst), hsize]
      omega
    · omega
  · unfold saveFrom
    cases hext : c.extended
    · have hlazy : c.lspact ≠ true := fun hl => absurd (hext.symm.trans (h.lazy hl).1) Bool.false_ne_true
      simpa using hlazy
    · rfl
  · intro a ha
    by_cases hsp : a = p.sp t
    · exact .inl hsp
    · rw [hmem, Function.update_of_ne hsp] at ha
      exact .inr (softMem_of_ne h hfits ha)

lemma interruptedContext_exit (stkalign mask : Bool) (c : Cpu) (m : Mem) : interruptedContext stkalign
      { c with primask := mask, core := { c.core with lr := c.core.lr ||| 4 } } m =
    interruptedContext stkalign c m := by
  have hext : Cpu.extended { c with primask := mask, core := { c.core with lr := c.core.lr ||| 4 } } =
      c.extended :=
    congrArg not (extended_or_four c.core.lr)
  unfold interruptedContext
  rw [hext]

omit [DecidableEq Tid] in
/-- `pendsv_exit`. -/
lemma Interrupted.exit {t : Tid} {c : Cpu} {m : Mem} {x : Context} (h : Interrupted p.toPlaces c m t x) :
    Interrupted p.toPlaces { c with core := { c.core with lr := c.core.lr ||| 4 } } m t x := by
  have hext : Cpu.extended { c with core := { c.core with lr := c.core.lr ||| 4 } } = c.extended :=
    congrArg not (extended_or_four c.core.lr)
  refine ⟨process_or_four _, h.primask, ?_, ?_, ?_, ?_⟩
  · rw [← h.context]
    exact interruptedContext_exit p.stkalign c.primask c m
  · rw [hext]
    exact h.lazy
  · rw [hext]
    exact h.above
  · rw [hext]
    exact h.below

omit [DecidableEq Tid] in
/-- **The context of the thread that is to run is loaded.** -/
lemma Saved.load {t : Tid} {c : Cpu} {m : Mem} {x : Context} (h : Saved p.toPlaces m t x)
    (hlazy : c.lspact = false) (hto : m p.toThread = p.sp t) :
    (switchToThread p.toPlaces c m).2 = m ∧ Interrupted p.toPlaces { (switchToThread p.toPlaces c m).1 with
      primask := false
      core := { (switchToThread p.toPlaces c m).1.core with
        lr := (switchToThread p.toPlaces c m).1.core.lr ||| 4 } } m t x := by
  obtain ⟨hcontext, hmem, hext, hpsp, hlazy'⟩ := switchToThread_spec p.stkalign (p := p.toPlaces)
    (m := m) hlazy (by rw [hto]) rfl
  refine ⟨hmem, ?_⟩
  generalize switchToThread p.toPlaces c m = r at hcontext hmem hext hpsp hlazy' ⊢
  have hext' : Cpu.extended { r.1 with primask := false, core := { r.1.core with lr := r.1.core.lr ||| 4 } } =
      r.1.extended := congrArg not (extended_or_four r.1.core.lr)
  have habove := h.above
  have hbelow := h.below
  have hlt := x.sp.isLt
  unfold savedWords at habove
  have hnat : r.1.psp.toNat = (m (p.sp t)).toNat + 4 * softWords r.1.extended := by
    rw [hpsp, hext, BitVec.toNat_add, BitVec.toNat_ofNat, Nat.mod_eq_of_lt (a := 4 * _) (by omega),
      Nat.mod_eq_of_lt (by omega)]
  refine ⟨process_or_four _, rfl, ?_, fun hl => absurd (hl.symm.trans hlazy') Bool.true_eq_false.mp, ?_, ?_⟩
  · rw [interruptedContext_exit, hcontext, h.context]
  · rw [hext']
    show r.1.psp.toNat + 4 * frameWords r.1.extended ≤ x.sp.toNat
    rw [hnat, hext]
    omega
  · rw [hext']
    show _ ≤ r.1.psp.toNat
    omega

omit [DecidableEq Tid] in
/-- PendSV up to `switch_to_thread`: no context is in the processor any more. -/
lemma Agrees.save (h : Agrees p.toPlaces s v) (hhandler : s.cpu.handler = true)
    (hsw : Switching p.toPlaces s v) {m₁ : Mem} (hm₁ : m₁ = Function.update s.mem p.switchFlag 0)
    {r : Cpu × Mem} (hr : r = if m₁ p.fromThread = 0 then (s.cpu, m₁) else saveFrom p.toPlaces s.cpu m₁) :
    (∀ t, Saved p.toPlaces r.2 t (v.context t)) ∧ r.1.lspact = false ∧ r.2 p.switchFlag = 0 ∧
      r.2 p.toThread = p.sp v.current ∧ ∀ a, v.Visible p.toPlaces a → r.2 a = v.mem a := by
  have hclear : Quiet p.toPlaces v s.mem m₁ := hm₁ ▸ quiet_update (.inl rfl)
  have hfrom : m₁ p.fromThread = fromPtr p.toPlaces v.running := by
    rw [hm₁, Function.update_of_ne p.flag_ne_from.symm, hsw.fromThread]
  have hto : m₁ p.toThread = p.sp v.current := by
    rw [hm₁, Function.update_of_ne p.flag_ne_to.symm, hsw.toThread]
  have hflag : m₁ p.switchFlag = 0 := by rw [hm₁, Function.update_self]
  have hsaved := hclear.saved h.fits h.saved
  cases hv : v.running with
  | none =>
    rw [hfrom, hv, fromPtr_none, if_pos rfl] at hr
    subst hr
    exact ⟨fun t => hsaved t (by rw [hv]; exact (Option.some_ne_none t).symm),
      (h.booting hhandler hv).lazy, hflag,
      hto, hclear.mem h.mem⟩
  | some t =>
    rw [hfrom, hv, fromPtr_some, if_neg (p.sp_ne_zero t)] at hr
    subst hr
    have hint : Interrupted p.toPlaces s.cpu m₁ t (v.context t) := by
      have hbefore := h.interrupted hhandler t hv
      refine hbefore.congr fun a ha => ?_
      rw [hm₁]
      refine Function.update_of_ne ?_ _ _
      rintro rfl
      exact p.kernel_apart (.inl rfl) (hbefore.within (h.fits t) ha).1
    obtain ⟨hnew, hlazy, hwritten⟩ := hint.save (h.fits t) (by rw [hfrom, hv]; rfl)
    have hvar : ∀ b, p.Kernel b → b ≠ p.sp t → (saveFrom p.toPlaces s.cpu m₁).2 b = m₁ b := by
      intro b hb hne
      by_contra hch
      rcases hwritten b hch with hsp | ⟨hstack, -⟩
      · exact hne hsp
      · exact p.kernel_apart hb hstack
    refine ⟨fun u => ?_, hlazy, ?_, ?_, fun a ha => ?_⟩
    · by_cases hu : u = t
      · subst hu
        exact hnew
      · have hrun : v.running ≠ some u := by
          rw [hv]
          exact fun he => hu (Option.some.inj he).symm
        refine (hsaved u hrun).congr (h.fits u) (hvar _ (.inr (.inr (.inr ⟨u, rfl⟩))) ?_) fun a ha => ?_
        · exact fun he => hu (p.sp_injective he)
        · by_contra hch
          rcases hwritten a hch with rfl | ⟨hstack, -⟩
          · exact p.kernel_apart (.inr (.inr (.inr ⟨t, rfl⟩))) ha
          · exact hu (p.stacks_apart ha hstack)
    · rw [hvar _ (.inl rfl) (p.sp_ne_flag t).symm, hflag]
    · rw [hvar _ (.inr (.inr (.inl rfl))) (p.sp_ne_to t).symm, hto]
    · rw [← hclear.mem h.mem a ha]
      by_contra hch
      rcases hwritten a hch with rfl | ⟨hstack, hlt⟩
      · exact ha.1 (.inr (.inr (.inr ⟨t, rfl⟩)))
      · have hge := ha.2.2 t hstack
        omega

lemma simulates_pendSV (h : Agrees p.toPlaces s v) (hs : step p.toPlaces s .pendSV = some s') :
    ∃ v', exec (Virtual.step p.toPlaces) v (label p.toPlaces s .pendSV s') = some v' ∧
      Agrees p.toPlaces s' v' := by
  simp only [step] at hs
  split at hs
  case isFalse => cases hs
  case isTrue hactive =>
    have hhandler := h.active hactive
    obtain rfl := Option.some.inj hs
    rcases h.switching with hsettled | hsw
    · -- The request was already met.
      have hrun : pendSVHandler p.toPlaces s.cpu s.mem = ({ s.cpu with
          primask := s.cpu.primask
          core := { s.cpu.core with lr := s.cpu.core.lr ||| 4 } }, s.mem) := by
        unfold pendSVHandler
        rw [if_pos hsettled.1]
      refine ⟨v, ?_, ?_⟩
      · unfold label
        rw [if_pos hsettled.1]
        rfl
      · rw [hrun]
        refine ⟨h.current, fun ha => absurd ha Bool.false_ne_true, .inl hsettled, h.saved, h.fits, h.psr, h.mem,
          ?_, ?_, ?_, ?_⟩
        · intro hthread
          exact absurd hhandler (Bool.eq_false_iff.mp hthread)
        · intro hthread
          exact absurd hhandler (Bool.eq_false_iff.mp hthread)
        · intro _ t ht
          exact (h.interrupted hhandler t ht).exit
        · intro _ hnone
          exact absurd (hsettled.2.symm.trans hnone) (Option.some_ne_none _)
    · have hflag : s.mem p.switchFlag ≠ 0 := by
        rw [hsw.flag]
        decide
      obtain ⟨hsaved, hlazy, hclear, hto, hmem⟩ := h.save hhandler hsw rfl rfl
      generalize hr : (if Function.update s.mem p.switchFlag 0 p.fromThread = 0 then
        (s.cpu, Function.update s.mem p.switchFlag 0)
        else saveFrom p.toPlaces s.cpu (Function.update s.mem p.switchFlag 0)) = r at *
      obtain ⟨hsame, hload⟩ := (hsaved v.current).load hlazy hto
      have hrun : pendSVHandler p.toPlaces s.cpu s.mem = ({ (switchToThread p.toPlaces r.1 r.2).1 with
          primask := s.cpu.primask
          core := { (switchToThread p.toPlaces r.1 r.2).1.core with
            lr := (switchToThread p.toPlaces r.1 r.2).1.core.lr ||| 4 } }, r.2) := by
        unfold pendSVHandler
        rw [if_neg hflag]
        dsimp only
        rw [hr, hsame]
      have hmask : s.cpu.primask = false := by
        cases hv : v.running with
        | none => exact (h.booting hhandler hv).primask
        | some t => exact (h.interrupted hhandler t hv).primask
      have hkept : (switchToThread p.toPlaces r.1 r.2).1.handler = true := by
        rw [switchToThread_handler, ← hr]
        split
        · exact hhandler
        · rw [saveFrom_handler, hhandler]
      refine ⟨{ v with running := some v.current }, ?_, ?_⟩
      · unfold label
        rw [if_neg hflag]
        rfl
      · rw [hrun, hmask]
        refine ⟨h.current, fun ha => absurd ha Bool.false_ne_true, .inl ⟨hclear, rfl⟩, fun t _ => hsaved t,
          h.fits, h.psr, hmem, ?_, ?_, ?_, ?_⟩
        · intro hthread
          exact absurd hkept (Bool.eq_false_iff.mp hthread)
        · intro hthread
          exact absurd hkept (Bool.eq_false_iff.mp hthread)
        · intro _ t ht
          obtain rfl : v.current = t := Option.some.inj ht
          exact hload
        · intro _ hnone
          exact absurd hnone (Option.some_ne_none _)

lemma simulates_accept (h : Agrees p.toPlaces s v) (hs : step p.toPlaces s .accept = some s') :
    ∃ v', exec (Virtual.step p.toPlaces) v (label p.toPlaces s .accept s') = some v' ∧
      Agrees p.toPlaces s' v' := by
  simp only [step] at hs
  split at hs
  case isFalse => cases hs
  case isTrue hguard =>
    obtain rfl := Option.some.inj hs
    exact ⟨v, rfl, h.current, fun _ => hguard.1, h.switching_congr rfl rfl (fun _ _ => rfl) fun _ => .inr rfl,
      h.saved, h.fits, h.psr, h.mem, h.live, h.idle, h.interrupted, h.booting⟩

lemma simulates_leave (h : Agrees p.toPlaces s v) (hs : step p.toPlaces s .leave = some s') :
    ∃ v', exec (Virtual.step p.toPlaces) v (label p.toPlaces s .leave s') = some v' ∧
      Agrees p.toPlaces s' v' := by
  simp only [step] at hs
  split at hs
  case isFalse => cases hs
  case isTrue hguard =>
    obtain ⟨hhandler, hpending, hactive⟩ := hguard
    obtain rfl := Option.some.inj hs
    -- A switch that was requested has been made: PendSV comes before the return.
    have hsettled : s.mem p.switchFlag = 0 ∧ v.running = some v.current := by
      rcases h.switching with hset | hsw
      · exact hset
      · exact absurd hsw.pending (by simp [hpending, hactive])
    have hint := h.interrupted hhandler v.current hsettled.2
    refine ⟨v, rfl, h.current, fun ha => absurd ha (Bool.eq_false_iff.mp hactive), .inl hsettled, h.saved,
      h.fits, h.psr, h.mem, ?_, ?_, ?_, ?_⟩
    · intro _ t ht
      obtain rfl : v.current = t := Option.some.inj (hsettled.2.symm.trans ht)
      exact ⟨hint.process, (exceptionReturn_context hint.process hint.primask).trans hint.context, rfl⟩
    · intro _ hnone
      exact absurd (hsettled.2.symm.trans hnone) (Option.some_ne_none _)
    · intro hthread
      exact absurd hthread Bool.false_ne_true
    · intro hthread
      exact absurd hthread Bool.false_ne_true

end N32L43x.Libcpu
