import N32L43x.Sched.Slices

/-!
Round robin among the threads of one priority.  A thread that is ready waits for the slices of the threads of
its priority that are not behind it in the list.  Those that sleep are not: they wake up in front of it.  A
thread that has used up its slice goes behind it.
-/

namespace N32L43x.Sched

open N32L43x.Lib.Run

variable {Tid : Type} [DecidableEq Tid]

/-! ### The threads behind -/

/-- The part of a list behind `t`. -/
def behind (t : Tid) : List Tid → List Tid
  | [] => []
  | u :: l => if u = t then l else behind t l

section Behind

variable {t u : Tid} {l post : List Tid}

lemma behind_cons_of_ne (hu : u ≠ t) : behind t (u :: l) = behind t l := if_neg hu

lemma mem_of_mem_behind {v : Tid} (h : v ∈ behind t l) : v ∈ l := by
  induction l with
  | nil => cases h
  | cons u l ih =>
    unfold behind at h
    split at h
    · exact List.mem_cons_of_mem u h
    · exact List.mem_cons_of_mem u (ih h)

lemma behind_append (ht : t ∈ l) : behind t (l ++ post) = behind t l ++ post := by
  induction l with
  | nil => cases ht
  | cons u l ih =>
    rw [List.cons_append]
    unfold behind
    by_cases hu : u = t
    · rw [if_pos hu, if_pos hu]
    · have htl : t ∈ l := (List.mem_cons.mp ht).resolve_left (Ne.symm hu)
      rw [if_neg hu, if_neg hu, ih htl]

lemma behind_filter (hut : u ≠ t) : behind t (l.filter (· ≠ u)) = (behind t l).filter (· ≠ u) := by
  induction l with
  | nil => rfl
  | cons v l ih =>
    by_cases hv : v = u
    · subst hv
      rw [List.filter_cons_of_neg (by simp), behind_cons_of_ne hut, ih]
    · rw [List.filter_cons_of_pos (by simpa using hv)]
      by_cases hvt : v = t
      · subst hvt
        unfold behind
        rw [if_pos rfl, if_pos rfl]
      · rw [behind_cons_of_ne hvt, behind_cons_of_ne hvt, ih]

end Behind

/-! ### What a thread waits for -/

/-- What is left of the slice of `u`, if `u` may run before `t`. -/
def SchedState.due (s : SchedState Tid) (t u : Tid) : ℕ :=
  if u ≠ t ∧ (s.thread u).stat ≠ .close ∧ (s.thread u).currentPriority = (s.thread t).currentPriority ∧
      (s.thread u).yield = false ∧ u ∉ behind t (s.priorityTable (s.thread t).currentPriority) then
    (s.thread u).remainingTick
  else 0

/-- A sum over a list of threads. -/
def total (due : Tid → ℕ) : List Tid → ℕ
  | [] => 0
  | u :: l => due u + total due l

/-- The running thread is of the priority `p`, and does not give way already. -/
def SchedState.Spends (s : SchedState Tid) (p : Fin 32) : Prop :=
  match s.currentThread with
  | none => False
  | some c => (s.thread c).stat = .running ∧ (s.thread c).currentPriority = p ∧ (s.thread c).yield = false

instance (s : SchedState Tid) (p : Fin 32) : Decidable (s.Spends p) := by
  unfold SchedState.Spends
  split <;> infer_instance

/-- A tick that counts for `t`: it is charged to a thread of the same priority. -/
def charge (t : Tid) (s : SchedState Tid) (a : Action Tid) (_ : SchedState Tid) : List Unit :=
  match a with
  | .tickIncrease tick => if tick ≠ 0 ∧ s.Spends (s.thread t).currentPriority then [()] else []
  | _ => []

/-- `t` is left alone, and nobody is given its priority. -/
def Spared (t : Tid) (s : SchedState Tid) : Action Tid → Prop
  | .close u => u ≠ t
  | .changePriority u priority _ => u ≠ t ∧ priority ≠ (s.thread t).currentPriority
  | _ => True

/-! ### The switch -/

variable {s s' s₁ : SchedState Tid} {t u c : Tid} {f : Thread → Thread}

/-- The first thread of a list is behind nobody. -/
lemma Inv.first_not_behind (h : Inv s) {first : Tid} {rest : List Tid}
    (hfirst : s.priorityTable (s.thread first).currentPriority = first :: rest) (hne : first ≠ t) :
    first ∉ behind t (s.priorityTable (s.thread first).currentPriority) := by
  have hnd := h.nodup (s.thread first).currentPriority
  rw [hfirst] at hnd ⊢
  rw [behind_cons_of_ne hne]
  exact fun hv => (List.nodup_cons.mp hnd).1 (mem_of_mem_behind hv)

/-- The lists after the thread that runs has gone back to its list, or not. -/
def SchedState.tableWith (s : SchedState Tid) (c : Tid) (needInsert : Bool) (p : Fin 32) : List Tid :=
  if needInsert then
    Function.update s.priorityTable (s.thread c).currentPriority (s.insertedList c) p
  else s.priorityTable p

lemma switchTo_priorityTable {first : Tid} {needInsert : Bool} (hcf : first ≠ c) (p : Fin 32) :
    (switchTo s c first needInsert).priorityTable p = (s.tableWith c needInsert p).filter (· ≠ first) := by
  unfold switchTo
  dsimp only
  rw [modify_priorityTable, remove_priorityTable]
  dsimp only
  rw [modify_priorityTable]
  unfold SchedState.tableWith
  cases needInsert
  · rfl
  · have hne : ({ s with currentThread := some first } : SchedState Tid).currentThread ≠ some c := by
      simpa using hcf
    rw [if_pos rfl, insert_priorityTable hne]
    rfl

/-! ### Waiting -/

/-- A thread still waits, for no more than before. -/
structure Kept (t : Tid) (s s' : SchedState Tid) : Prop where
  ready : (s'.thread t).stat = .ready
  prio : (s'.thread t).currentPriority = (s.thread t).currentPriority
  due : ∀ u, s'.due t u ≤ s.due t u

/-- What may follow for a thread that waits. -/
def Waits (t : Tid) (s s' : SchedState Tid) : Prop := s'.currentThread = some t ∨ Kept t s s'

lemma Kept.trans (h : Kept t s s₁) (h' : Kept t s₁ s') : Kept t s s' :=
  ⟨h'.ready, h'.prio.trans h.prio, fun u => (h'.due u).trans (h.due u)⟩

lemma Kept.refl (ht : (s.thread t).stat = .ready) : Kept t s s := ⟨ht, rfl, fun _ => Nat.le_refl _⟩

lemma Kept.waits (h : Kept t s s₁) (h' : Waits t s₁ s') : Waits t s s' := h'.imp_right h.trans

lemma Kept.of (ht : (s'.thread t).stat = .ready)
    (hp : (s'.thread t).currentPriority = (s.thread t).currentPriority)
    (h : ∀ u, u ≠ t → (s'.thread u).stat ≠ .close →
      (s'.thread u).currentPriority = (s.thread t).currentPriority → (s'.thread u).yield = false →
      u ∉ behind t (s'.priorityTable (s.thread t).currentPriority) →
      (s.thread u).stat ≠ .close ∧ (s.thread u).currentPriority = (s.thread t).currentPriority ∧
        (s.thread u).yield = false ∧ u ∉ behind t (s.priorityTable (s.thread t).currentPriority) ∧
        (s'.thread u).remainingTick ≤ (s.thread u).remainingTick) : Kept t s s' := by
  refine ⟨ht, hp, fun u => ?_⟩
  unfold SchedState.due
  rw [hp]
  split
  case isFalse => exact Nat.zero_le _
  case isTrue hu =>
    obtain ⟨hopen, hprio, hyield, hbehind, hle⟩ := h u hu.1 hu.2.1 hu.2.2.1 hu.2.2.2.1 hu.2.2.2.2
    rw [if_pos ⟨hu.1, hopen, hprio, hyield, hbehind⟩]
    exact hle

/-- A write to a thread. -/
lemma Kept.modify (ht : (s.thread t).stat = .ready)
    (hkeep : u = t → (f (s.thread u)).stat = .ready ∧
      (f (s.thread u)).currentPriority = (s.thread u).currentPriority)
    (h : u ≠ t → (f (s.thread u)).stat ≠ .close →
      (f (s.thread u)).currentPriority = (s.thread t).currentPriority → (f (s.thread u)).yield = false →
      (s.thread u).stat ≠ .close ∧ (s.thread u).currentPriority = (s.thread t).currentPriority ∧
        (s.thread u).yield = false ∧ (f (s.thread u)).remainingTick ≤ (s.thread u).remainingTick) :
    Kept t s (s.modify u f) := by
  have htkeep : ((s.modify u f).thread t).stat = .ready ∧
      ((s.modify u f).thread t).currentPriority = (s.thread t).currentPriority := by
    by_cases hut : u = t
    · subst hut
      rw [modify_thread_same]
      exact hkeep rfl
    · rw [modify_thread_of_ne (Ne.symm hut)]
      exact ⟨ht, rfl⟩
  refine .of htkeep.1 htkeep.2 fun v hvt => ?_
  rw [modify_priorityTable]
  by_cases hvu : v = u
  · subst hvu
    rw [modify_thread_same]
    intro hopen hp hy hb
    obtain ⟨hopen', hp', hy', hle⟩ := h hvt hopen hp hy
    exact ⟨hopen', hp', hy', hb, hle⟩
  · rw [modify_thread_of_ne hvu]
    exact fun hopen hp hy hb => ⟨hopen, hp, hy, hb, Nat.le_refl _⟩

/-- A thread that is in no list leaves the lists. -/
lemma Kept.remove (h : Queue s) (ht : (s.thread t).stat = .ready) (hu : (s.thread u).stat ≠ .ready) :
    Kept t s (rtSchedRemoveThread s u) := by
  have hthread : (rtSchedRemoveThread s u).thread = s.thread := remove_thread
  have htable : (rtSchedRemoveThread s u).priorityTable = s.priorityTable := by
    rw [remove_priorityTable]
    funext p
    exact h.filter_eq fun hr => absurd hr hu
  refine .of (by rw [hthread]; exact ht) (by rw [hthread]) fun v _ => ?_
  rw [hthread, htable]
  exact fun hopen hp hy hb => ⟨hopen, hp, hy, hb, Nat.le_refl _⟩

/-- A thread wakes up, in front or behind. -/
lemma Kept.insert (hq : Queue s) (ht : (s.thread t).stat = .ready) (hut : u ≠ t)
    (hopen : (s.thread u).stat ≠ .close) : Kept t s (rtSchedInsertThread s u) := by
  have hmod : Kept t s (s.modify u fun th => { th with stat := .ready }) :=
    .modify ht (fun he => absurd he hut) fun _ _ hp hy => ⟨hopen, hp, hy, Nat.le_refl _⟩
  by_cases hc : s.currentThread = some u
  · rw [insert_current hc]
    exact .modify ht (fun he => absurd he hut) fun _ _ hp hy => ⟨hopen, hp, hy, Nat.le_refl _⟩
  · have hthread := insert_thread hc
    have hmem := (hq.mem_iff t _).mpr ⟨ht, rfl⟩
    refine hmod.trans (.of (by rw [hthread]; exact hmod.ready) (by rw [hthread]) fun v _ => ?_)
    rw [hthread, hmod.prio, insert_priorityTable hc, modify_priorityTable]
    refine fun ho hp hy hb => ⟨ho, hp, hy, fun hv => hb ?_, Nat.le_refl _⟩
    by_cases hpu : (s.thread t).currentPriority = (s.thread u).currentPriority
    · rw [hpu] at hv hmem ⊢
      rw [Function.update_self]
      unfold SchedState.insertedList
      dsimp only
      split
      · rw [behind_append hmem]
        exact List.mem_append_left _ hv
      · rw [behind_cons_of_ne hut]
        exact hv
    · rw [Function.update_of_ne hpu]
      exact hv

/-- **Who is switched away from goes behind, or has not used up its slice.** -/
lemma Waits.switchTo (h : Inv s) (hflag : s.Flagged) (hc : s.currentThread = some c)
    (ht : (s.thread t).stat = .ready) {first : Tid} {rest : List Tid} {needInsert : Bool}
    (hfirst : s.priorityTable (s.thread first).currentPriority = first :: rest)
    (hready : (s.thread first).stat = .ready) (hins : (s.thread c).stat = .running ↔ needInsert = true) :
    Waits t s (switchTo s c first needInsert) := by
  have hcready := (h.current c hc).1
  have hcf : first ≠ c := by
    rintro rfl
    exact hcready hready
  by_cases htf : t = first
  · subst htf
    exact .inl switchTo_currentThread
  have htc : t ≠ c := by
    rintro rfl
    exact hcready ht
  have hthread : (Sched.switchTo s c first needInsert).thread t = s.thread t := switchTo_thread_of_ne htf htc
  obtain ⟨hthreadFirst, hthreadC⟩ := switchTo_threads s needInsert hcf
  have hmem := (h.mem_iff t _).mpr ⟨ht, rfl⟩
  -- who was behind `t` is behind it, and a thread that gives way comes behind it
  have htable : ∀ v ∈ behind t (s.priorityTable (s.thread t).currentPriority),
      v ∈ behind t (s.tableWith c needInsert (s.thread t).currentPriority) := by
    intro v hv
    unfold SchedState.tableWith
    split
    case isFalse => exact hv
    case isTrue =>
      by_cases hpc : (s.thread t).currentPriority = (s.thread c).currentPriority
      · rw [hpc] at hv hmem ⊢
        rw [Function.update_self]
        unfold SchedState.insertedList
        dsimp only
        split
        · rw [behind_append hmem]
          exact List.mem_append_left _ hv
        · rw [behind_cons_of_ne htc.symm]
          exact hv
      · rw [Function.update_of_ne hpc]
        exact hv
  have hgives : (s.thread c).yield = true → (s.thread c).currentPriority = (s.thread t).currentPriority →
      c ∈ behind t (s.tableWith c needInsert (s.thread t).currentPriority) := by
    intro hyield hpc
    have hinsert := hins.mp (hflag c hyield)
    unfold SchedState.tableWith
    rw [if_pos hinsert, ← hpc, Function.update_self]
    unfold SchedState.insertedList
    dsimp only
    rw [hyield, if_pos rfl, behind_append (by rw [hpc]; exact hmem)]
    exact List.mem_append_right _ (List.mem_singleton.mpr rfl)
  refine .inr (.of (by rw [hthread]; exact ht) (by rw [hthread]) fun v hvt => ?_)
  rw [switchTo_priorityTable hcf, behind_filter (Ne.symm htf), List.mem_filter]
  by_cases hvf : v = first
  · subst hvf
    rw [hthreadFirst]
    intro _ hp hy _
    refine ⟨by rw [hready]; simp, hp, hy, fun hv => ?_, Nat.le_refl _⟩
    have hp' : (s.thread v).currentPriority = (s.thread t).currentPriority := hp
    rw [← hp'] at hv
    exact h.first_not_behind hfirst hvt hv
  · by_cases hvc : v = c
    · subst hvc
      rw [hthreadC]
      intro hopen hp _ hb
      have hnot : v ∉ behind t (s.tableWith v needInsert (s.thread t).currentPriority) := fun hv =>
        hb ⟨hv, by simpa using hvf⟩
      refine ⟨fun hclose => ?_, hp, ?_, fun hv => hnot (htable v hv), Nat.le_refl _⟩
      · have hno : needInsert ≠ true := fun hi => by cases hclose.symm.trans (hins.mpr hi)
        exact hopen ((if_neg hno).trans hclose)
      · exact Bool.eq_false_iff.mpr fun hy => hnot (hgives hy hp)
    · rw [switchTo_thread_of_ne hvf hvc]
      exact fun hopen hp hy hb => ⟨hopen, hp, hy, fun hv => hb ⟨htable v hv, by simpa using hvf⟩, Nat.le_refl _⟩

lemma Waits.resched (h : Inv s) (hflag : s.Flagged) (ht : (s.thread t).stat = .ready) :
    Waits t s (rtSchedUnlockNResched s) := by
  unfold rtSchedUnlockNResched
  split
  · exact .inr (.refl ht)
  rename_i c hc
  have hcready := (h.current c hc).1
  rcases rtSchedule_first h hc with heq | ⟨heq, hrun⟩ | ⟨first, rest, needInsert, hfirst, hready, heq, hins⟩
  · rw [heq]
    exact .inr (.refl ht)
  · have hremove := Kept.remove h.toQueue ht hcready
    rw [heq]
    refine .inr (hremove.trans (.modify hremove.ready (fun he => ?_) ?_))
    · subst he
      exact absurd ht hcready
    · rw [remove_thread]
      exact fun _ _ hp hy => ⟨by rw [hrun]; simp, hp, hy, Nat.le_refl _⟩
  · rw [heq]
    exact .switchTo h hflag hc ht hfirst hready hins

/-! ### Steps -/

lemma Kept.rtSchedThreadReady (h : Inv s) (ht : (s.thread t).stat = .ready) (timerStop : RtErr) :
    Kept t s (rtSchedThreadReady s u timerStop).1 := by
  unfold Sched.rtSchedThreadReady
  split
  case isFalse => exact .refl ht
  case isTrue hsus =>
    have hut : u ≠ t := by
      rintro rfl
      rw [ht] at hsus
      cases hsus
    have hnot : (s.thread u).stat ≠ .ready ∧ (s.thread u).stat ≠ .close := by
      refine ⟨fun hr => ?_, fun hr => ?_⟩ <;>
      · rw [hr] at hsus
        cases hsus
    dsimp only
    generalize (if (s.thread u).ttmrSet = true then timerStop else .eok) = err
    have hmod : Kept t s (s.modify u fun th => { th with ttmrSet := false }) :=
      .modify ht (fun he => absurd he hut) fun _ ho hp hy => ⟨ho, hp, hy, Nat.le_refl _⟩
    have hinv : Inv (s.modify u fun th => { th with ttmrSet := false }) := h.modify_rest rfl rfl rfl
    split
    · rw [hinv.toQueue.listRemove_eq (by rw [modify_thread_same]; exact hnot.1)]
      exact hmod.trans (.insert hinv.toQueue hmod.ready hut (by rw [modify_thread_same]; exact hnot.2))
    · exact hmod

/-- A tick takes from what is left of the slice, and one that counts takes from what is due. -/
lemma Kept.tick (h : Inv s) (hfull : s.Full) (ht : (s.thread t).stat = .ready) (hc : s.currentThread = some c)
    (tick : ℕ) : Kept t s (s.modify c fun th => { th with remainingTick := th.remainingTick - tick }) ∧
      (tick ≠ 0 → s.Spends (s.thread t).currentPriority →
        (s.modify c fun th => { th with remainingTick := th.remainingTick - tick }).due t c + 1 ≤ s.due t c) := by
  have hcready := (h.current c hc).1
  have hct : c ≠ t := by
    rintro rfl
    exact hcready ht
  refine ⟨.modify ht (fun he => absurd he hct) fun _ ho hp hy => ⟨ho, hp, hy, Nat.sub_le ..⟩,
    fun htick hspends => ?_⟩
  unfold SchedState.Spends at hspends
  rw [hc] at hspends
  obtain ⟨hrun, hp, hy⟩ := hspends
  have hnot : c ∉ behind t (s.priorityTable (s.thread t).currentPriority) := fun hm =>
    hcready ((h.mem_iff c _).mp (mem_of_mem_behind hm)).1
  have hopen : (s.thread c).stat ≠ .close := by rw [hrun]; simp
  have hpos := (hfull c).1
  unfold SchedState.due
  rw [modify_thread_same, modify_thread_of_ne hct.symm, modify_priorityTable, if_pos ⟨hct, hopen, hp, hy, hnot⟩,
    if_pos ⟨hct, hopen, hp, hy, hnot⟩]
  dsimp only
  omega

/-- A thread that gives way is not due. -/
lemma Kept.yield (h : Inv s) (ht : (s.thread t).stat = .ready) (hc : s.currentThread = some c) :
    Kept t s (rtSchedThreadYield s c) := by
  refine .modify ht (fun he => ?_) fun _ _ _ hy => by cases hy
  subst he
  exact absurd ht (h.current c hc).1

/-- The first thread to run. -/
lemma Waits.start (h : Inv s) (hflag : s.Flagged) (ht : (s.thread t).stat = .ready) {first : Tid}
    (hg : s.readyPriorityGroup ≠ 0#32) (hfirst : s.highest.2 = some first) :
    Waits t s (rtSystemSchedulerStart s first) := by
  obtain ⟨first', hfirst', hready, hprio, -⟩ := h.highest_spec hg
  obtain rfl := Option.some.inj (hfirst.symm.trans hfirst')
  by_cases htf : t = first
  · subst htf
    unfold rtSystemSchedulerStart
    exact .inl (by simp)
  have hthread : ∀ u, u ≠ first → (rtSystemSchedulerStart s first).thread u = s.thread u := by
    intro u hu
    unfold rtSystemSchedulerStart
    dsimp only
    rw [modify_thread_of_ne hu, remove_thread]
  have hself : (rtSystemSchedulerStart s first).thread first =
      { s.thread first with stat := .running, yield := false } := by
    unfold rtSystemSchedulerStart
    dsimp only
    rw [modify_thread_same, remove_thread]
  have htable : ∀ p, (rtSystemSchedulerStart s first).priorityTable p =
      (s.priorityTable p).filter (· ≠ first) := by
    intro p
    unfold rtSystemSchedulerStart
    dsimp only
    rw [modify_priorityTable, remove_priorityTable]
  have hhead : (s.priorityTable (s.thread first).currentPriority).head? = some first := by
    rw [hprio]
    exact hfirst
  obtain ⟨rest, hrest⟩ := List.head?_eq_some_iff.mp hhead
  refine .inr (.of (by rw [hthread t htf]; exact ht) (by rw [hthread t htf]) fun v hvt => ?_)
  rw [htable, behind_filter (Ne.symm htf), List.mem_filter]
  by_cases hvf : v = first
  · subst hvf
    rw [hself]
    intro _ hp _ _
    have hyield : (s.thread v).yield = false :=
      Bool.eq_false_iff.mpr fun hy => by cases hready.symm.trans (hflag v hy)
    have hp' : (s.thread v).currentPriority = (s.thread t).currentPriority := hp
    refine ⟨by rw [hready]; simp, hp, hyield, fun hv => ?_, Nat.le_refl _⟩
    rw [← hp'] at hv
    exact h.first_not_behind hrest hvt hv
  · rw [hthread v hvf]
    exact fun ho hp hy hb => ⟨ho, hp, hy, fun hv => hb ⟨hv, by simpa using hvf⟩, Nat.le_refl _⟩

/-- A thread leaves the lists of `t`'s priority, or is closed. -/
lemma Kept.leave (ht : (s.thread t).stat = .ready) (hut : u ≠ t)
    (hthread : ∀ v, v ≠ u → s'.thread v = s.thread v)
    (htable : s'.priorityTable (s.thread t).currentPriority = s.priorityTable (s.thread t).currentPriority ∨
      s'.priorityTable (s.thread t).currentPriority =
        (s.priorityTable (s.thread t).currentPriority).filter (· ≠ u))
    (hu : (s'.thread u).stat = .close ∨ (s'.thread u).currentPriority ≠ (s.thread t).currentPriority) :
    Kept t s s' := by
  refine .of (by rw [hthread t hut.symm]; exact ht) (by rw [hthread t hut.symm]) fun v _ hopen hp hy hb => ?_
  have hvu : v ≠ u := by
    rintro rfl
    rcases hu with hu | hu
    · exact hopen hu
    · exact hu hp
  rw [hthread v hvu] at hopen hp hy
  refine ⟨hopen, hp, hy, fun hv => hb ?_, by rw [hthread v hvu]⟩
  rcases htable with htable | htable
  · rw [htable]
    exact hv
  · rw [htable, behind_filter hut]
    exact List.mem_filter.mpr ⟨hv, by simpa using hvu⟩

/-- A thread wakes up when its time has run out. -/
lemma Waits.timeout (h : Inv s) (hflag : s.Flagged) (ht : (s.thread t).stat = .ready)
    (hsus : (s.thread u).stat.isSuspended = true) : Waits t s (threadTimeout s u) := by
  have hnot : ∀ st : ThreadStat, st.isSuspended = false → (s.thread u).stat ≠ st := by
    rintro st hst he
    rw [he, hst] at hsus
    cases hsus
  have hut : u ≠ t := by
    rintro rfl
    exact hnot .ready rfl ht
  have hyield : (s.thread u).yield = false := Bool.eq_false_iff.mpr fun hy => hnot .running rfl (hflag u hy)
  have hinv := h.wakeUp hsus
  unfold threadTimeout
  rw [h.toQueue.listRemove_eq (hnot .ready rfl)] at hinv ⊢
  have hkept := Kept.insert h.toQueue ht hut (hnot .close rfl)
  exact hkept.waits (.resched hinv (hflag.insert hyield) hkept.ready)

lemma Waits.resume (h : Inv s) (hflag : s.Flagged) (ht : (s.thread t).stat = .ready) (timerStop : RtErr) :
    Waits t s (rtThreadResume s u timerStop).1 := by
  have hkept := Kept.rtSchedThreadReady h ht timerStop (u := u)
  unfold rtThreadResume
  dsimp only
  split
  · exact hkept.waits
      (.resched (h.rtSchedThreadReady timerStop) (hflag.rtSchedThreadReady timerStop) hkept.ready)
  · exact .inr hkept

/-- The running thread suspends itself. -/
lemma Kept.suspend (h : Inv s) (ht : (s.thread t).stat = .ready) (hc : s.currentThread = some u)
    (flag : SuspendFlag) : Kept t s (rtThreadSuspendToList s u flag).1 := by
  have hcready := (h.current u hc).1
  have hut : u ≠ t := by
    rintro rfl
    exact hcready ht
  unfold rtThreadSuspendToList
  split
  case isFalse => exact .refl ht
  case isTrue hlive =>
    have hopen : (s.thread u).stat ≠ .close := by
      intro hcl
      rcases hlive with hl | hl <;> cases hl.symm.trans hcl
    have hremove := Kept.remove h.toQueue ht hcready
    have hsuspend := hremove.trans (.modify (f := fun th => { th with stat := .suspend flag }) hremove.ready
      (fun he => absurd he hut) fun _ _ hp hy => by
        rw [remove_thread] at hp hy ⊢
        exact ⟨hopen, hp, hy, Nat.le_refl _⟩)
    dsimp only
    refine hsuspend.trans (.modify hsuspend.ready (fun he => absurd he hut) ?_)
    exact fun _ ho hp hy => ⟨ho, hp, hy, Nat.le_refl _⟩

/-- A thread gets another priority than `t` has. -/
lemma Kept.changePriority (h : Inv s) (ht : (s.thread t).stat = .ready) (hut : u ≠ t) {priority : Fin 32}
    (hp : priority ≠ (s.thread t).currentPriority) (updateInitPrio : Bool) :
    Kept t s (rtSchedUpdatePriority s u priority updateInitPrio) := by
  unfold rtSchedUpdatePriority
  split
  case isFalse => exact .modify ht (fun he => absurd he hut) fun _ _ hp' => absurd hp' hp
  case isTrue hready =>
    have hc : s.currentThread ≠ some u := fun hc => (h.current u hc).1 hready
    have hc' : ((rtSchedRemoveThread s u).modify u fun th =>
        { th.setPriority priority updateInitPrio with stat := .init, yield := false }).currentThread ≠ some u := by
      rw [modify_currentThread, remove_currentThread]
      exact hc
    refine .leave ht hut (fun v hvu => ?_) (.inr ?_) (.inr ?_)
    · rw [insert_thread hc', modify_thread_of_ne hvu, modify_thread_of_ne hvu, remove_thread]
    · rw [insert_priorityTable hc', modify_thread_same, modify_priorityTable, remove_priorityTable]
      exact Function.update_of_ne (Ne.symm hp) _ _
    · rw [insert_thread hc', modify_thread_same, modify_thread_same]
      exact hp

lemma Kept.close (ht : (s.thread t).stat = .ready) (hut : u ≠ t) : Kept t s (rtThreadClose s u) := by
  unfold rtThreadClose
  split
  · exact .refl ht
  · dsimp only
    refine .leave ht hut (fun v hvu => ?_) ?_ (.inl ?_)
    · rw [modify_thread_of_ne hvu]
      split
      · rw [remove_thread]
      · rfl
    · rw [modify_priorityTable]
      split
      · exact .inr (by rw [remove_priorityTable])
      · exact .inl rfl
    · rw [modify_thread_same]

/-- A step that is no tick. -/
lemma waits_other {a : Action Tid} (h : Inv s) (hflag : s.Flagged) (ht : (s.thread t).stat = .ready)
    (hC : Tidy s a) (hspared : Spared t s a) (hs : step s a = some s') (ha : ∀ tick, a ≠ .tickIncrease tick) :
    Waits t s s' := by
  cases a with
  | tickIncrease tick => exact absurd rfl (ha tick)
  | resume u timerStop =>
    obtain rfl := Option.some.inj hs
    exact .resume h hflag ht timerStop
  | timeout u =>
    simp only [step] at hs
    split at hs
    case isFalse => cases hs
    case isTrue hsus =>
      obtain rfl := Option.some.inj hs
      exact .timeout h hflag ht hsus
  | startup u =>
    simp only [step] at hs
    split at hs
    case isFalse => cases hs
    case isTrue hinit =>
      obtain rfl := Option.some.inj hs
      refine .inr (.modify ht (fun he => ?_) fun _ _ hp _ => ?_)
      · subst he
        cases ht.symm.trans hinit
      · refine ⟨by rw [hinit]; simp, hp, Bool.eq_false_iff.mpr fun hy => ?_, Nat.le_refl _⟩
        cases hinit.symm.trans (hflag u hy)
  | timerStart u =>
    obtain rfl := Option.some.inj hs
    refine .inr (.modify ht (fun he => ⟨by rw [he]; exact ht, rfl⟩) ?_)
    exact fun _ ho hp hy => ⟨ho, hp, hy, Nat.le_refl _⟩
  | suspend u flag =>
    obtain rfl := Option.some.inj hs
    exact .inr (.suspend h ht hC.1 flag)
  | changePriority u priority updateInitPrio =>
    obtain rfl := Option.some.inj hs
    exact .inr (.changePriority h ht hspared.1 hspared.2 updateInitPrio)
  | close u =>
    obtain rfl := Option.some.inj hs
    exact .inr (.close ht hspared)
  | yield =>
    obtain ⟨c, hc, rfl⟩ := Option.map_eq_some_iff.mp hs
    have hkept := Kept.yield h ht hc
    have hflag' : (rtSchedThreadYield s c).Flagged := hflag.modify fun _ => hC c hc
    exact hkept.waits (.resched h.rtSchedThreadYield hflag' hkept.ready)
  | schedule =>
    obtain ⟨c, hc, rfl⟩ := Option.map_eq_some_iff.mp hs
    have hw := Waits.resched h hflag ht
    unfold rtSchedUnlockNResched at hw
    rwa [hc] at hw
  | enterCritical =>
    obtain rfl := Option.some.inj hs
    exact .inr ⟨ht, rfl, fun _ => Nat.le_refl _⟩
  | exitCritical =>
    obtain rfl := Option.some.inj hs
    exact .inr ⟨ht, rfl, fun _ => Nat.le_refl _⟩
  | schedulerStart =>
    simp only [step] at hs
    split at hs
    case isFalse => cases hs
    case isTrue hg =>
      obtain ⟨first, hfirst, rfl⟩ := Option.map_eq_some_iff.mp hs
      exact .start h hflag ht hg.2 hfirst

/-! ### Sums -/

omit [DecidableEq Tid] in
lemma total_le {due due' : Tid → ℕ} (h : ∀ u, due' u ≤ due u) (threads : List Tid) :
    total due' threads ≤ total due threads := by
  induction threads with
  | nil => exact Nat.le_refl _
  | cons u threads ih => exact Nat.add_le_add (h u) ih

omit [DecidableEq Tid] in
lemma total_lt {due due' : Tid → ℕ} (h : ∀ u, due' u ≤ due u) {threads : List Tid} (hc : c ∈ threads)
    (hlt : due' c + 1 ≤ due c) : total due' threads + 1 ≤ total due threads := by
  induction threads with
  | nil => cases hc
  | cons u threads ih =>
    unfold total
    rcases List.mem_cons.mp hc with rfl | hc
    · have hrest := total_le h threads
      omega
    · have hrest := ih hc
      have hu := h u
      omega

/-- A step lets `t` run, or takes nothing from what it has waited for; a tick that counts brings it nearer. -/
lemma waits_step {threads : List Tid} (hall : ∀ u, u ∈ threads) {a : Action Tid} (h : Inv s) (hfull : s.Full)
    (hflag : s.Flagged) (ht : (s.thread t).stat = .ready) (hC : Tidy s a) (hspared : Spared t s a)
    (hs : step s a = some s') : s'.currentThread = some t ∨ (s'.thread t).stat = .ready ∧
      (charge t s a s').length + total (s'.due t) threads ≤ total (s.due t) threads := by
  by_cases ha : ∀ tick, a ≠ .tickIncrease tick
  · have hcharge : charge t s a s' = [] := by
      cases a with
      | tickIncrease tick => exact absurd rfl (ha tick)
      | _ => rfl
    rw [hcharge, List.length_nil, Nat.zero_add]
    exact (waits_other h hflag ht hC hspared hs ha).imp_right fun hk => ⟨hk.ready, total_le hk.due threads⟩
  push Not at ha
  obtain ⟨tick, rfl⟩ := ha
  obtain ⟨c, hc, hcases⟩ := tickIncrease_cases hs
  obtain ⟨hkept, hless⟩ := Kept.tick h hfull ht hc tick
  have hcharged : (charge t s (.tickIncrease tick) s').length + total
      ((s.modify c fun th => { th with remainingTick := th.remainingTick - tick }).due t) threads ≤
        total (s.due t) threads := by
    unfold charge
    dsimp only
    split
    case isTrue hand =>
      rw [List.length_singleton, Nat.add_comm]
      exact total_lt hkept.due (hall c) (hless hand.1 hand.2)
    case isFalse =>
      rw [List.length_nil, Nat.zero_add]
      exact total_le hkept.due threads
  rcases hcases with ⟨-, rfl⟩ | ⟨hrem, rfl⟩
  · exact .inr ⟨hkept.ready, hcharged⟩
  · -- the slice is used up, by a thread that runs
    have hrun : (s.thread c).stat = .running := (hC c hc).resolve_right fun hlt => by omega
    have hinv : Inv (s.modify c fun th => { th with remainingTick := th.remainingTick - tick }) :=
      h.modify_rest rfl rfl rfl
    have hyield := Kept.yield hinv hkept.ready (c := c) hc
    have hflag' : (s.modify c fun th => { th with remainingTick := th.remainingTick - tick }).Flagged :=
      hflag.modify (hflag c)
    have hflagged : (rtSchedThreadYield
        (s.modify c fun th => { th with remainingTick := th.remainingTick - tick }) c).Flagged := by
      refine hflag'.modify fun _ => ?_
      rw [modify_thread_same]
      exact hrun
    rcases Waits.resched hinv.rtSchedThreadYield hflagged hyield.ready with hw | hw
    · exact .inl hw
    · refine .inr ⟨hw.ready, ?_⟩
      have hle := total_le (hyield.trans hw).due threads
      omega

/-! ### Runs -/

/-- What holds of every state of a run whose steps are tidy. -/
structure Slices (s : SchedState Tid) : Prop where
  inv : Inv s
  full : s.Full
  flagged : s.Flagged

lemma Slices.step {a : Action Tid} (h : Slices s) (hC : Tidy s a) (hs : Sched.step s a = some s') : Slices s' :=
  ⟨inv_step h.inv hs, h.full.step h.inv hs, h.flagged.step h.inv hC hs⟩

omit [DecidableEq Tid] in
lemma slices_init {tick : Tid → ℕ} (htick : ∀ u, 0 < tick u) (priority : Tid → Fin 32) :
    Slices (SchedState.init tick priority) :=
  ⟨inv_init tick priority, fun u => ⟨htick u, htick u⟩, fun _ hy => by cases hy⟩

/-- A thread that waits all the time has not waited longer than for what was due. -/
lemma charged_le {threads : List Tid} (hall : ∀ u, u ∈ threads) (as : List (Action Tid)) :
    ∀ s s' : SchedState Tid, Slices s → (s.thread t).stat = .ready → Along step Tidy s as →
      Along step (Spared t) s as → exec step s as = some s' →
      (∀ bs, bs <+: as → ∀ r, exec step s bs = some r → r.currentThread ≠ some t) →
      (observe step (charge t) s as).length ≤ total (s.due t) threads := by
  induction as with
  | nil => exact fun s s' _ _ _ _ _ _ => Nat.zero_le _
  | cons a as ih =>
    intro s s' h ht hC hspared hrun hnever
    rcases hs : step s a with _ | r
    · rw [exec_cons_none hs] at hrun
      cases hrun
    rw [exec_cons_some hs] at hrun
    rw [along_cons_some hs] at hC hspared
    rw [observe_cons_some hs, List.length_append]
    rcases waits_step hall h.inv h.full h.flagged ht hC.1 hspared.1 hs with hcur | ⟨hready, hle⟩
    · refine absurd hcur (hnever [a] ⟨as, rfl⟩ r ?_)
      rw [exec_cons_some hs]
      rfl
    · have hrest := ih r s' (h.step hC.1 hs) hready hC.2 hspared.2 hrun fun bs hbs u hu => by
        refine hnever (a :: bs) (List.cons_prefix_cons.mpr ⟨rfl, hbs⟩) u ?_
        rwa [exec_cons_some hs]
      omega

/-- **Round robin.**  A thread that is ready runs before more ticks are charged to threads of its priority
than what is left of the slices of those that are not behind it, whoever wakes up in front of it meanwhile. -/
theorem runs_in_turn {tick : Tid → ℕ} (htick : ∀ u, 0 < tick u) (priority : Tid → Fin 32) {threads : List Tid}
    (hall : ∀ u, u ∈ threads) (as bs : List (Action Tid))
    (hC : Along step Tidy (SchedState.init tick priority) (as ++ bs))
    (has : exec step (SchedState.init tick priority) as = some s) (ht : (s.thread t).stat = .ready)
    (hspared : Along step (Spared t) s bs) (hbs : exec step s bs = some s')
    (hticks : total (s.due t) threads < (observe step (charge t) s bs).length) :
    ∃ cs r, cs <+: bs ∧ exec step s cs = some r ∧ r.currentThread = some t := by
  have h : Slices s := exec_inv_of_along (fun _ _ _ h hC hs => h.step hC hs) as _ s (slices_init htick priority)
    hC.of_append_left has
  by_contra hnever
  have hle := charged_le hall bs s s' h ht (hC.of_append_right has) hspared hbs fun cs hcs r hr hcur =>
    hnever ⟨cs, r, hcs, hr, hcur⟩
  omega

section Three

instance Tidy.decidable (s : SchedState Tid) : ∀ a, Decidable (Tidy s a)
  | .suspend _ _ => inferInstanceAs (Decidable (_ ∧ _))
  | .yield =>
    match h : s.currentThread with
    | none => isTrue fun _ hc => by cases h.symm.trans hc
    | some c => decidable_of_iff ((s.thread c).stat = .running)
      ⟨fun hr _ hc => Option.some.inj (h.symm.trans hc) ▸ hr, fun hr => hr c h⟩
  | .tickIncrease tick =>
    match h : s.currentThread with
    | none => isTrue fun _ hc => by cases h.symm.trans hc
    | some c => decidable_of_iff ((s.thread c).stat = .running ∨ tick < (s.thread c).remainingTick)
      ⟨fun hr _ hc => Option.some.inj (h.symm.trans hc) ▸ hr, fun hr => hr c h⟩
  | .startup _ | .resume _ _ | .timeout _ | .timerStart _ | .changePriority _ _ _ | .close _ | .schedule
  | .schedulerStart | .enterCritical | .exitCritical => isTrue trivial

instance Spared.decidable (t : Tid) (s : SchedState Tid) : ∀ a, Decidable (Spared t s a)
  | .close _ => inferInstanceAs (Decidable (_ ≠ _))
  | .changePriority _ _ _ => inferInstanceAs (Decidable (_ ∧ _))
  | .startup _ | .resume _ _ | .timeout _ | .timerStart _ | .suspend _ _ | .yield | .tickIncrease _ | .schedule
  | .schedulerStart | .enterCritical | .exitCritical => isTrue trivial

/-- Three threads of one priority; the last one runs, and the second one is about to sleep. -/
def threeReady (t u v : Tid) : List (Action Tid) :=
  [.startup t, .resume t .eok, .startup u, .startup v, .resume v .eok, .schedulerStart]

/-- The thread `u` wakes up in front of the ready ones, and time passes. -/
def wakesInFront (u : Tid) : List (Action Tid) :=
  .resume u .eok :: List.replicate 21 (.tickIncrease 1)

theorem runs_in_turn_wakesInFront :
    ∃ s : SchedState (Fin 3),
      exec step (SchedState.init (fun _ => 10) fun _ => 5) (threeReady 0 1 2) = some s ∧
      s.currentThread = some 2 ∧ total (s.due 0) [0, 1, 2] = 20 ∧
      ∃ cs r, cs <+: wakesInFront 1 ∧ exec step s cs = some r ∧ r.currentThread = some 0 := by
  have hrun : Along step Tidy (SchedState.init (fun _ => 10) fun _ : Fin 3 => 5)
        (threeReady 0 1 2 ++ wakesInFront 1) ∧
      ∃ s ∈ exec step (SchedState.init (fun _ => 10) fun _ : Fin 3 => 5) (threeReady 0 1 2),
        s.currentThread = some 2 ∧ total (s.due 0) [0, 1, 2] = 20 ∧ (s.thread 0).stat = .ready ∧
          Along step (Spared 0) s (wakesInFront 1) ∧ (observe step (charge 0) s (wakesInFront 1)).length = 21 ∧
            (exec step s (wakesInFront 1)).isSome = true := by
    decide +kernel
  obtain ⟨hC, s, hs, hcur, hdue, hready, hspared, hticks, hsome⟩ := hrun
  obtain ⟨s', hs'⟩ := Option.isSome_iff_exists.mp hsome
  have hall : ∀ u, u ∈ [0, 1, (2 : Fin 3)] := by decide
  refine ⟨s, hs, hcur, hdue, ?_⟩
  exact runs_in_turn (fun _ => by decide) _ hall _ _ hC hs hready hspared hs' (by rw [hdue, hticks]; decide)

/-- The thread `a` wakes `b` and runs, and its slice ends while it is about to sleep. -/
def endsAsleep (a b : Tid) : List (Action Tid) :=
  [.resume b .eok, .tickIncrease 9, .enterCritical, .suspend a .interruptible, .tickIncrease 1, .exitCritical,
    .schedule]

/-- Two threads whose slices end while they are about to sleep keep the third one waiting. -/
example : ∃ s ∈ exec step (SchedState.init (fun _ => 10) fun _ : Fin 3 => 5) (threeReady 0 1 2 ++
    endsAsleep 2 1 ++ endsAsleep 1 2 ++ endsAsleep 2 1 ++ endsAsleep 1 2),
    s.currentThread = some 2 ∧ (s.thread 0).stat = .ready ∧ (s.thread 2).remainingTick = 10 := by
  decide +kernel

end Three

end N32L43x.Sched
