import N32L43x.Sched.Defs

/-!
The ready queue: in every reachable state the bitmap has the bits of the lists that are not empty,
and the lists hold exactly the ready threads, each once, in the list of its priority.  So the first
thread of the list that the bitmap names is one of the most urgent.
-/

namespace N32L43x.Sched

open N32L43x.Lib.Bits

/-! ### The first bit set -/

lemma lowestBitBitmap_spec : ∀ n < 256, n ≠ 0 → lowestBitBitmap.getD n 0 < 8 ∧
    n.testBit (lowestBitBitmap.getD n 0) = true ∧
    ∀ j < lowestBitBitmap.getD n 0, n.testBit j = false := by
  decide +kernel

/-- The lowest bit that is set, in a byte whose lower ones are clear. -/
lemma lowestBit_of_byte {v : BitVec 32} {k : ℕ} (hk : k + 8 ≤ 32)
    (hlow : ∀ j < k, v.getLsbD j = false) (hne : v &&& lowMask 32 8 <<< k ≠ 0#32) :
    let m := lowestBitBitmap.getD ((v &&& lowMask 32 8 <<< k) >>> k).toNat 0 + k
    m < 32 ∧ v.getLsbD m = true ∧ ∀ j < m, v.getLsbD j = false := by
  have hbit (i : ℕ) : ((v &&& lowMask 32 8 <<< k) >>> k).toNat.testBit i =
      (v.getLsbD (k + i) && decide (i < 8)) := by
    rw [BitVec.testBit_toNat, BitVec.getLsbD_ushiftRight, BitVec.getLsbD_and,
      BitVec.getLsbD_shiftLeft, getLsbD_lowMask]
    by_cases hi : i < 8
    · have h1 : k + i < 32 := by omega
      have h2 : i < 32 := by omega
      simp [hi, h1, h2]
    · simp [hi]
  generalize hb : ((v &&& lowMask 32 8 <<< k) >>> k).toNat = b at hbit
  have hb256 : b < 256 := by
    refine Nat.lt_pow_two_of_testBit (n := 8) b fun i hi => ?_
    rw [hbit, decide_eq_false (by omega), Bool.and_false]
  have hb0 : b ≠ 0 := by
    rintro rfl
    refine hne (BitVec.eq_of_getLsbD_eq fun i hi => ?_)
    rw [BitVec.getLsbD_zero, BitVec.getLsbD_and, BitVec.getLsbD_shiftLeft, getLsbD_lowMask]
    by_cases hki : k ≤ i
    · have := hbit (i - k)
      rw [Nat.zero_testBit, Nat.add_sub_cancel' hki] at this
      by_cases h8 : i - k < 8
      · rw [decide_eq_true h8, Bool.and_true] at this
        rw [← this, Bool.false_and]
      · simp [h8]
    · simp [Nat.lt_of_not_le hki]
  obtain ⟨h8, hset, hmin⟩ := lowestBitBitmap_spec b hb256 hb0
  generalize lowestBitBitmap.getD b 0 = m at h8 hset hmin
  refine ⟨by omega, ?_, fun j hj => ?_⟩
  · rw [hbit, Bool.and_eq_true] at hset
    rw [Nat.add_comm]
    exact hset.1
  · by_cases hjk : j < k
    · exact hlow j hjk
    · have := hmin (j - k) (by omega)
      rw [hbit, Nat.add_sub_cancel' (by omega), decide_eq_true (by omega), Bool.and_true] at this
      exact this

/-- The bits of a byte that is zero are clear. -/
lemma clear_of_byte {v : BitVec 32} {k : ℕ} (hk : k + 8 ≤ 32)
    (hlow : ∀ j < k, v.getLsbD j = false) (h0 : v &&& lowMask 32 8 <<< k = 0#32) :
    ∀ j < k + 8, v.getLsbD j = false := by
  intro j hj
  by_cases hjk : j < k
  · exact hlow j hjk
  · have h : (v &&& lowMask 32 8 <<< k).getLsbD j = false := by rw [h0, BitVec.getLsbD_zero]
    rw [BitVec.getLsbD_and, BitVec.getLsbD_shiftLeft, getLsbD_lowMask, decide_eq_true (by omega),
      decide_eq_false hjk, decide_eq_true (by omega), decide_eq_true (by omega)] at h
    simpa using h

/-- **`__rt_ffs`** finds the lowest bit that is set. -/
theorem rtFfs_spec {v : BitVec 32} (h : v ≠ 0#32) :
    rtFfs v - 1 < 32 ∧ v.getLsbD (rtFfs v - 1) = true ∧ ∀ j < rtFfs v - 1, v.getLsbD j = false := by
  have m0 : (0xff#32 : BitVec 32) = lowMask 32 8 <<< 0 := by decide
  have m1 : (0xff00#32 : BitVec 32) = lowMask 32 8 <<< 8 := by decide
  have m2 : (0xff0000#32 : BitVec 32) = lowMask 32 8 <<< 16 := by decide
  have m3 : (0xff000000#32 : BitVec 32) = lowMask 32 8 <<< 24 := by decide
  unfold rtFfs
  rw [if_neg h]
  by_cases h0 : v &&& 0xff#32 ≠ 0#32
  · rw [if_pos h0]
    rw [m0] at h0 ⊢
    exact lowestBit_of_byte (k := 0) (by omega) (by omega) h0
  rw [if_neg h0]
  rw [m0, not_not] at h0
  have c0 := clear_of_byte (k := 0) (by omega) (by omega) h0
  by_cases h1 : v &&& 0xff00#32 ≠ 0#32
  · rw [if_pos h1]
    rw [m1] at h1 ⊢
    exact lowestBit_of_byte (by omega) c0 h1
  rw [if_neg h1]
  rw [m1, not_not] at h1
  have c1 := clear_of_byte (by omega) c0 h1
  by_cases h2 : v &&& 0xff0000#32 ≠ 0#32
  · rw [if_pos h2]
    rw [m2] at h2 ⊢
    exact lowestBit_of_byte (by omega) c1 h2
  rw [if_neg h2]
  rw [m2, not_not] at h2
  have c2 := clear_of_byte (by omega) c1 h2
  rw [m3]
  refine lowestBit_of_byte (by omega) c2 fun h3 => h ?_
  exact BitVec.eq_of_getLsbD_eq fun i hi => by simpa using clear_of_byte (by omega) c2 h3 i hi

variable {Tid : Type} [DecidableEq Tid] {s : SchedState Tid} {t : Tid} {f : Thread → Thread}

/-! ### The fields of the state -/

@[simp] lemma modify_priorityTable : (s.modify t f).priorityTable = s.priorityTable := rfl
@[simp] lemma modify_readyPriorityGroup :
    (s.modify t f).readyPriorityGroup = s.readyPriorityGroup := rfl
@[simp] lemma modify_currentThread : (s.modify t f).currentThread = s.currentThread := rfl
@[simp] lemma modify_thread_same : (s.modify t f).thread t = f (s.thread t) := by
  simp [SchedState.modify]

lemma modify_thread_of_ne {t' : Tid} (h : t' ≠ t) : (s.modify t f).thread t' = s.thread t' := by
  simp [SchedState.modify, h]

/-- What holds of every thread, and of the one that is written after the write. -/
lemma forall_modify {P : Tid → Thread → Prop} (h : ∀ u, P u (s.thread u))
    (ht : P t (f (s.thread t))) (u : Tid) : P u ((s.modify t f).thread u) := by
  by_cases hu : u = t
  · subst hu
    rw [modify_thread_same]
    exact ht
  · rw [modify_thread_of_ne hu]
    exact h u

@[simp] lemma remove_thread : (rtSchedRemoveThread s t).thread = s.thread := by
  unfold rtSchedRemoveThread
  simp only
  split <;> rfl

@[simp] lemma remove_currentThread : (rtSchedRemoveThread s t).currentThread = s.currentThread := by
  unfold rtSchedRemoveThread
  simp only
  split <;> rfl

@[simp] lemma remove_priorityTable : (rtSchedRemoveThread s t).priorityTable =
    fun p => (s.priorityTable p).filter (· ≠ t) := by
  unfold rtSchedRemoveThread
  simp only
  split <;> rfl

lemma remove_readyPriorityGroup : (rtSchedRemoveThread s t).readyPriorityGroup =
    if (s.priorityTable (s.thread t).currentPriority).filter (· ≠ t) = [] then
      s.readyPriorityGroup &&& ~~~(s.thread t).numberMask
    else s.readyPriorityGroup := by
  unfold rtSchedRemoveThread
  simp only
  split <;> rename_i h <;> simp_all [SchedState.listRemove]

/-- The list of a thread's priority after it was inserted. -/
def SchedState.insertedList (s : SchedState Tid) (t : Tid) : List Tid :=
  let list := s.priorityTable (s.thread t).currentPriority
  if (s.thread t).yield then list ++ [t] else t :: list

section Insert

variable (hc : s.currentThread ≠ some t)
include hc

lemma insert_thread : (rtSchedInsertThread s t).thread =
    (s.modify t fun th => { th with stat := .ready }).thread := by
  rw [rtSchedInsertThread, if_neg hc]

lemma insert_priorityTable : (rtSchedInsertThread s t).priorityTable =
    Function.update s.priorityTable (s.thread t).currentPriority (s.insertedList t) := by
  rw [rtSchedInsertThread, if_neg hc]
  simp [SchedState.insertedList]

lemma insert_readyPriorityGroup : (rtSchedInsertThread s t).readyPriorityGroup =
    s.readyPriorityGroup ||| (s.thread t).numberMask := by
  rw [rtSchedInsertThread, if_neg hc]
  simp

end Insert

lemma insert_current (hc : s.currentThread = some t) :
    rtSchedInsertThread s t = s.modify t fun th => { th with stat := .running } := by
  rw [rtSchedInsertThread, if_pos hc]

@[simp] lemma insert_currentThread :
    (rtSchedInsertThread s t).currentThread = s.currentThread := by
  unfold rtSchedInsertThread
  split <;> rfl

/-! ### The invariant of the ready lists -/

/-- A thread that takes part in scheduling has the mask of its priority. -/
def Thread.Masked (th : Thread) : Prop :=
  th.stat ≠ .init → th.stat ≠ .close → th.numberMask = maskOf th.currentPriority

/-- The bitmap and the lists agree, and the lists hold the ready threads. -/
structure Queue (s : SchedState Tid) : Prop where
  bit_iff : ∀ p : Fin 32, s.readyPriorityGroup.getLsbD p = true ↔ s.priorityTable p ≠ []
  mem_iff : ∀ t p, t ∈ s.priorityTable p ↔
    (s.thread t).stat = .ready ∧ (s.thread t).currentPriority = p
  nodup : ∀ p, (s.priorityTable p).Nodup
  masked : ∀ t, (s.thread t).Masked

lemma getLsbD_maskOf (p q : Fin 32) : (maskOf p).getLsbD q = decide (q = p) := by
  rw [maskOf, getLsbD_bit, decide_eq_true q.isLt, Bool.and_true]
  exact decide_eq_decide.2 Fin.ext_iff.symm

lemma getLsbD_setMask (g : BitVec 32) (p q : Fin 32) :
    (g ||| maskOf p).getLsbD q = (g.getLsbD q || decide (q = p)) := by
  rw [BitVec.getLsbD_or, getLsbD_maskOf]

lemma getLsbD_clearMask (g : BitVec 32) (p q : Fin 32) :
    (g &&& ~~~maskOf p).getLsbD q = (g.getLsbD q && !decide (q = p)) := by
  rw [BitVec.getLsbD_and, BitVec.getLsbD_not, getLsbD_maskOf, decide_eq_true q.isLt, Bool.true_and]

namespace Queue

omit [DecidableEq Tid] in
/-- The lists do not depend on which thread is the current one, nor on the lock. -/
lemma withCurrent (h : Queue s) (curr : Option Tid) (nest : ℕ) :
    Queue { s with currentThread := curr, lockNest := nest } :=
  ⟨h.bit_iff, h.mem_iff, h.nodup, h.masked⟩

/-- A write to a thread that leaves it ready or not, in its list. -/
lemma modify (h : Queue s) (hstat : (f (s.thread t)).stat = .ready ↔ (s.thread t).stat = .ready)
    (hprio : (s.thread t).stat = .ready →
      (f (s.thread t)).currentPriority = (s.thread t).currentPriority)
    (hmask : (f (s.thread t)).Masked) : Queue (s.modify t f) where
  bit_iff := h.bit_iff
  nodup := h.nodup
  mem_iff t' p := by
    rw [modify_priorityTable, h.mem_iff]
    by_cases ht : t' = t
    · subst ht
      rw [modify_thread_same, hstat]
      refine and_congr_right fun hr => ?_
      rw [hprio hr]
    · rw [modify_thread_of_ne ht]
  masked := forall_modify (P := fun _ th => th.Masked) h.masked hmask

/-- A list that a thread is not in is not changed by its removal. -/
lemma filter_eq (h : Queue s) {p : Fin 32}
    (hp : (s.thread t).stat = .ready → (s.thread t).currentPriority ≠ p) :
    (s.priorityTable p).filter (· ≠ t) = s.priorityTable p := by
  rw [List.filter_eq_self]
  intro t' ht'
  rw [decide_eq_true_eq]
  rintro rfl
  obtain ⟨hr, hprio⟩ := (h.mem_iff t' p).1 ht'
  exact hp hr hprio

lemma listRemove_eq (h : Queue s) (hr : (s.thread t).stat ≠ .ready) : s.listRemove t = s := by
  unfold SchedState.listRemove
  congr 1
  funext p
  exact h.filter_eq fun hr' => absurd hr' hr

/-- A thread that leaves the ready lists, with a status that is not ready. -/
lemma remove (h : Queue s) (hm : (s.thread t).numberMask = maskOf (s.thread t).currentPriority)
    (hstat : (f (s.thread t)).stat ≠ .ready) (hmask : (f (s.thread t)).Masked) :
    Queue ((rtSchedRemoveThread s t).modify t f) where
  bit_iff p := by
    rw [modify_readyPriorityGroup, modify_priorityTable, remove_priorityTable,
      remove_readyPriorityGroup, hm]
    simp only
    by_cases hp : p = (s.thread t).currentPriority
    · rw [← hp]
      by_cases hnil : (s.priorityTable p).filter (· ≠ t) = []
      · rw [if_pos hnil, getLsbD_clearMask, hnil]
        simp
      · rw [if_neg hnil, h.bit_iff]
        refine ⟨fun _ => hnil, fun _ hnil' => hnil ?_⟩
        rw [hnil', List.filter_nil]
    · rw [h.filter_eq fun _ => Ne.symm hp, ← h.bit_iff]
      split
      · rw [getLsbD_clearMask, decide_eq_false hp, Bool.not_false, Bool.and_true]
      · rfl
  nodup p := by
    rw [modify_priorityTable, remove_priorityTable]
    exact (h.nodup p).filter _
  mem_iff t' p := by
    rw [modify_priorityTable, remove_priorityTable, List.mem_filter, decide_eq_true_eq, h.mem_iff]
    by_cases ht : t' = t
    · subst ht
      rw [modify_thread_same, remove_thread]
      simp [hstat]
    · rw [modify_thread_of_ne ht, remove_thread]
      simp [ht]
  masked := by
    refine forall_modify (P := fun _ th => th.Masked) ?_ ?_
    · rw [remove_thread]
      exact h.masked
    · rw [remove_thread]
      exact hmask

omit [DecidableEq Tid] in
lemma mem_insertedList (t' : Tid) : t' ∈ s.insertedList t ↔
    t' = t ∨ t' ∈ s.priorityTable (s.thread t).currentPriority := by
  unfold SchedState.insertedList
  simp only
  split
  · rw [List.mem_append, List.mem_singleton, or_comm]
  · exact List.mem_cons

omit [DecidableEq Tid] in
lemma nodup_insertedList (h : Queue s) (hr : (s.thread t).stat ≠ .ready) :
    (s.insertedList t).Nodup := by
  have hnot : t ∉ s.priorityTable (s.thread t).currentPriority :=
    fun ht => hr ((h.mem_iff t _).1 ht).1
  unfold SchedState.insertedList
  simp only
  split
  · refine List.nodup_append.2 ⟨h.nodup _, List.nodup_singleton t, ?_⟩
    rintro a ha b hb rfl
    rw [List.mem_singleton] at hb
    exact hnot (hb ▸ ha)
  · exact List.nodup_cons.2 ⟨hnot, h.nodup _⟩

/-- A thread that joins the ready lists. -/
lemma insert (h : Queue s) (hc : s.currentThread ≠ some t) (hr : (s.thread t).stat ≠ .ready)
    (hm : (s.thread t).numberMask = maskOf (s.thread t).currentPriority) :
    Queue (rtSchedInsertThread s t) where
  bit_iff p := by
    rw [insert_readyPriorityGroup hc, insert_priorityTable hc, hm, getLsbD_setMask]
    by_cases hp : p = (s.thread t).currentPriority
    · rw [hp, Function.update_self]
      have hne : s.insertedList t ≠ [] := List.ne_nil_of_mem ((mem_insertedList t).2 (.inl rfl))
      simp [hne]
    · rw [Function.update_of_ne hp, decide_eq_false hp, Bool.or_false, h.bit_iff]
  mem_iff t' p := by
    rw [insert_priorityTable hc, insert_thread hc]
    have hlist : t' ∈ Function.update s.priorityTable (s.thread t).currentPriority
        (s.insertedList t) p ↔ (t' = t ∧ (s.thread t).currentPriority = p) ∨
          t' ∈ s.priorityTable p := by
      by_cases hp : p = (s.thread t).currentPriority
      · rw [hp, Function.update_self, mem_insertedList]
        simp
      · rw [Function.update_of_ne hp]
        simp [Ne.symm hp]
    rw [hlist, h.mem_iff]
    by_cases ht : t' = t
    · subst ht
      rw [modify_thread_same]
      simp [hr]
    · rw [modify_thread_of_ne ht]
      simp [ht]
  nodup p := by
    rw [insert_priorityTable hc]
    by_cases hp : p = (s.thread t).currentPriority
    · rw [hp, Function.update_self]
      exact nodup_insertedList h hr
    · rw [Function.update_of_ne hp]
      exact h.nodup p
  masked := by
    rw [insert_thread hc]
    exact forall_modify (P := fun _ th => th.Masked) h.masked fun _ _ => hm

omit [DecidableEq Tid] in
/-- The thread at the head of the first list that is not empty is a most urgent one of the ready
threads. -/
lemma highest_spec (h : Queue s) (hg : s.readyPriorityGroup ≠ 0#32) :
    ∃ first, s.highest.2 = some first ∧ (s.thread first).stat = .ready ∧
      (s.thread first).currentPriority = s.highest.1 ∧
      ∀ t, (s.thread t).stat = .ready → s.highest.1 ≤ (s.thread t).currentPriority := by
  obtain ⟨hlt, hset, hmin⟩ := rtFfs_spec hg
  have hp : (s.highest.1 : ℕ) = rtFfs s.readyPriorityGroup - 1 := Nat.mod_eq_of_lt hlt
  have hne : s.priorityTable s.highest.1 ≠ [] := by
    rw [← h.bit_iff, hp]
    exact hset
  refine ⟨(s.priorityTable s.highest.1).head hne, List.head?_eq_some_head hne, ?_⟩
  obtain ⟨hr, hprio⟩ := (h.mem_iff _ _).1 (List.head_mem hne)
  refine ⟨hr, hprio, fun t ht => ?_⟩
  by_contra hlt'
  have hclear := hmin (s.thread t).currentPriority (by rw [← hp]; exact not_le.1 hlt')
  have hmem : t ∈ s.priorityTable (s.thread t).currentPriority := (h.mem_iff t _).2 ⟨ht, rfl⟩
  rw [(h.bit_iff _).2 (List.ne_nil_of_mem hmem)] at hclear
  cases hclear

end Queue

/-! ### The invariant of the scheduler -/

/-- Besides, only the current thread is running, and it is in no ready list. -/
structure Inv (s : SchedState Tid) : Prop extends Queue s where
  running : ∀ t, (s.thread t).stat = .running → s.currentThread = some t
  current : ∀ t, s.currentThread = some t → (s.thread t).stat ≠ .ready ∧ (s.thread t).stat ≠ .init

namespace Inv

/-- A write to a thread, given what it does to the ready lists. -/
lemma of_modify {s' : SchedState Tid} (h : Inv s) (hq : Queue (s'.modify t f))
    (hthread : s'.thread = s.thread) (hcurrent : s'.currentThread = s.currentThread)
    (hrun : (f (s.thread t)).stat = .running → s.currentThread = some t)
    (hcur : s.currentThread = some t →
      (f (s.thread t)).stat ≠ .ready ∧ (f (s.thread t)).stat ≠ .init) : Inv (s'.modify t f) where
  toQueue := hq
  running := by
    rw [modify_currentThread, hcurrent]
    refine forall_modify (P := fun u th => th.stat = .running → s.currentThread = some u) ?_ ?_
    · rw [hthread]
      exact h.running
    · rw [hthread]
      exact hrun
  current := by
    rw [modify_currentThread, hcurrent]
    refine forall_modify
      (P := fun u th => s.currentThread = some u → th.stat ≠ .ready ∧ th.stat ≠ .init) ?_ ?_
    · rw [hthread]
      exact h.current
    · rw [hthread]
      exact hcur

/-- A write to the status of a thread outside the ready lists. -/
lemma modify (h : Inv s) (hr : (s.thread t).stat ≠ .ready) (hr' : (f (s.thread t)).stat ≠ .ready)
    (hmask : (f (s.thread t)).Masked)
    (hrun : (f (s.thread t)).stat = .running → s.currentThread = some t)
    (hcur : s.currentThread = some t → (f (s.thread t)).stat ≠ .init) : Inv (s.modify t f) := by
  have hq := h.toQueue.modify (iff_of_false hr' hr) (fun hr'' => absurd hr'' hr) hmask
  exact h.of_modify hq rfl rfl hrun fun hc => ⟨hr', hcur hc⟩

/-- A write that keeps the status, the priority and the mask. -/
lemma modify_rest (h : Inv s) (hstat : (f (s.thread t)).stat = (s.thread t).stat)
    (hprio : (f (s.thread t)).currentPriority = (s.thread t).currentPriority)
    (hmask : (f (s.thread t)).numberMask = (s.thread t).numberMask) : Inv (s.modify t f) := by
  have hq : Queue (s.modify t f) := by
    refine h.toQueue.modify (by rw [hstat]) (fun _ => hprio) ?_
    unfold Thread.Masked
    rw [hstat, hprio, hmask]
    exact h.masked t
  refine h.of_modify hq rfl rfl ?_ ?_
  · rw [hstat]
    exact h.running t
  · rw [hstat]
    exact h.current t

/-- A thread that leaves the ready lists. -/
lemma remove (h : Inv s) (hm : (s.thread t).numberMask = maskOf (s.thread t).currentPriority)
    (hr : (f (s.thread t)).stat ≠ .ready) (hmask : (f (s.thread t)).Masked)
    (hrun : (f (s.thread t)).stat = .running → s.currentThread = some t)
    (hcur : s.currentThread = some t → (f (s.thread t)).stat ≠ .init) :
    Inv ((rtSchedRemoveThread s t).modify t f) :=
  h.of_modify (h.toQueue.remove hm hr hmask) remove_thread remove_currentThread hrun
    fun hc => ⟨hr, hcur hc⟩

/-- A thread that becomes ready, or goes on running if it is the current one. -/
lemma insert (h : Inv s) (hr : (s.thread t).stat ≠ .ready)
    (hm : (s.thread t).numberMask = maskOf (s.thread t).currentPriority) :
    Inv (rtSchedInsertThread s t) := by
  by_cases hc : s.currentThread = some t
  · rw [insert_current hc]
    exact h.modify hr nofun (fun _ _ => hm) (fun _ => hc) (fun _ => nofun)
  · refine ⟨h.toQueue.insert hc hr hm, ?_, ?_⟩
    · rw [insert_thread hc, insert_currentThread]
      exact forall_modify (P := fun u th => th.stat = .running → s.currentThread = some u) h.running
        nofun
    · rw [insert_thread hc, insert_currentThread]
      intro t' hc'
      have ht : t' ≠ t := by
        rintro rfl
        exact hc hc'
      rw [modify_thread_of_ne ht]
      exact h.current t' hc'

end Inv

end N32L43x.Sched
