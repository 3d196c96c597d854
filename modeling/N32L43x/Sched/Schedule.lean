import N32L43x.Sched.ReadyQueue

/-!
`rt_schedule` keeps the invariant of the ready queue, and the thread it selects is a most urgent one
of the ready threads and the current thread, if that is running.
-/

namespace N32L43x.Sched

variable {Tid : Type} [DecidableEq Tid] {s : SchedState Tid} {t : Tid}

/-! ### `rt_schedule` -/

omit [DecidableEq Tid] in
lemma choose_spec (curr first : Tid) (p : Fin 32) :
    ((s.choose curr first p = (curr, false) ∧ (s.thread curr).stat = .running ∧
        (s.thread curr).currentPriority ≤ p) ∨
      (s.choose curr first p = (first, true) ∧ (s.thread curr).stat = .running ∧
        p ≤ (s.thread curr).currentPriority)) ∨
      (s.choose curr first p = (first, false) ∧ (s.thread curr).stat ≠ .running) := by
  unfold SchedState.choose
  simp only
  by_cases hrun : (s.thread curr).stat = .running
  · rw [if_pos hrun]
    refine .inl ?_
    by_cases hlt : (s.thread curr).currentPriority < p
    · rw [if_pos hlt]
      exact .inl ⟨rfl, hrun, hlt.le⟩
    · rw [if_neg hlt]
      by_cases heq : (s.thread curr).currentPriority = p ∧ (s.thread curr).yield = false
      · rw [if_pos heq]
        exact .inl ⟨rfl, hrun, heq.1.le⟩
      · rw [if_neg heq]
        exact .inr ⟨rfl, hrun, not_lt.1 hlt⟩
  · rw [if_neg hrun]
    exact .inr ⟨rfl, hrun⟩

/-- The switch of `rt_schedule` to another thread. -/
def switchTo (s : SchedState Tid) (curr toThread : Tid) (needInsert : Bool) : SchedState Tid :=
  let s := { s with currentThread := some toThread }
  let s := if needInsert then rtSchedInsertThread s curr else s
  let s := s.modify curr fun th => { th with yield := false }
  let s := rtSchedRemoveThread s toThread
  s.modify toThread fun th => { th with stat := .running }

/-- What `rt_schedule` can do. -/
lemma rtSchedule_cases (h : Inv s) {c : Tid} (hc : s.currentThread = some c) :
    (rtSchedule s c = s ∧ (s.lockNest = 0 → s.readyPriorityGroup = 0#32)) ∨
    ∃ first, (s.thread first).stat = .ready ∧
      (∀ t, (s.thread t).stat = .ready →
        (s.thread first).currentPriority ≤ (s.thread t).currentPriority) ∧
      ((rtSchedule s c = (rtSchedRemoveThread s c).modify c (fun th => { th with stat := .running }) ∧
          (s.thread c).stat = .running ∧
          (s.thread c).currentPriority ≤ (s.thread first).currentPriority) ∨
        ∃ needInsert, rtSchedule s c = switchTo s c first needInsert ∧
          ((s.thread c).stat = .running ↔ needInsert = true) ∧
          ((s.thread c).stat = .running →
            (s.thread first).currentPriority ≤ (s.thread c).currentPriority)) := by
  by_cases hg : s.lockNest = 0 ∧ s.readyPriorityGroup ≠ 0#32
  · obtain ⟨first, hfirst, hr, hprio, hmin⟩ := h.highest_spec hg.2
    have hne : first ≠ c := by
      rintro rfl
      exact (h.current first hc).1 hr
    refine .inr ⟨first, hr, fun t ht => hprio ▸ hmin t ht, ?_⟩
    unfold rtSchedule
    rw [if_pos hg, show s.highest = (s.highest.1, some first) from Prod.ext rfl hfirst, ← hprio]
    simp only
    rcases choose_spec (s := s) c first (s.thread first).currentPriority with
      (⟨hch, hrun, hle⟩ | ⟨hch, hrun, hle⟩) | ⟨hch, hrun⟩
    · rw [hch]
      exact .inl ⟨if_neg (not_not.2 rfl), hrun, hle⟩
    · rw [hch]
      exact .inr ⟨true, if_pos hne, iff_of_true hrun rfl, fun _ => hle⟩
    · rw [hch]
      exact .inr ⟨false, if_pos hne, iff_of_false hrun nofun, fun hrun' => absurd hrun' hrun⟩
  · refine .inl ⟨?_, fun h0 => ?_⟩
    · unfold rtSchedule
      rw [if_neg hg]
    · by_contra hne
      exact hg ⟨h0, hne⟩

/-! ### The switch to another thread -/

section Switch

variable {c first : Tid} {needInsert : Bool}

@[simp] lemma switchTo_currentThread :
    (switchTo s c first needInsert).currentThread = some first := by
  unfold switchTo
  simp only [modify_currentThread, remove_currentThread]
  split
  · rw [insert_currentThread]
  · rfl

lemma switchTo_thread_first :
    ((switchTo s c first needInsert).thread first).stat = .running := by
  unfold switchTo
  simp only [modify_thread_same]

lemma switchTo_thread_of_ne (hne : t ≠ first) (htc : t ≠ c) :
    (switchTo s c first needInsert).thread t = s.thread t := by
  unfold switchTo
  simp only
  rw [modify_thread_of_ne hne, remove_thread, modify_thread_of_ne htc]
  split
  · by_cases hcur : first = c
    · rw [insert_current (congrArg some hcur), modify_thread_of_ne htc]
    · rw [insert_thread (by simpa using hcur), modify_thread_of_ne htc]
  · rfl

/-- The thread that was switched from is ready again, or it was not running. -/
lemma switchTo_stat_current (hne : c ≠ first) :
    ((switchTo s c first needInsert).thread c).stat =
      if needInsert then .ready else (s.thread c).stat := by
  unfold switchTo
  simp only
  rw [modify_thread_of_ne hne, remove_thread, modify_thread_same]
  cases needInsert with
  | true =>
    rw [if_pos rfl, if_pos rfl, insert_thread (by simpa using hne.symm), modify_thread_same]
  | false =>
    rw [if_neg nofun, if_neg nofun]

lemma Queue.switchTo (h : Queue s) (hne : c ≠ first) (hfirst : (s.thread first).stat = .ready)
    (hins : needInsert = true → (s.thread c).stat = .running) :
    Queue (switchTo s c first needInsert) := by
  let s1 : SchedState Tid := { s with currentThread := some first }
  have h1 : Queue s1 := h.withCurrent _ _
  let s2 := if needInsert then rtSchedInsertThread s1 c else s1
  have h2 : Queue s2 := by
    by_cases hi : needInsert = true
    · have hrun : (s1.thread c).stat = .running := hins hi
      simp only [s2]
      rw [if_pos hi]
      refine h1.insert (by simpa [s1] using hne.symm) ?_ (h1.masked c ?_ ?_)
      all_goals
        simp [hrun]
    · simp only [s2]
      rw [if_neg hi]
      exact h1
  have h3 : Queue (s2.modify c fun th => { th with yield := false }) :=
    h2.modify Iff.rfl (fun _ => rfl) (h2.masked c)
  have hth : (s2.modify c fun th => { th with yield := false }).thread first = s.thread first := by
    rw [modify_thread_of_ne hne.symm]
    simp only [s2]
    split
    · rw [insert_thread (by simpa [s1] using hne.symm), modify_thread_of_ne hne.symm]
    · rfl
  have hm : (s.thread first).numberMask = maskOf (s.thread first).currentPriority :=
    h.masked first (by simp [hfirst]) (by simp [hfirst])
  refine h3.remove (f := fun th => { th with stat := .running }) (by rw [hth, hm]) nofun ?_
  intro _ _
  rw [hth]
  exact hm

lemma Inv.switchTo (h : Inv s) (hc : s.currentThread = some c)
    (hfirst : (s.thread first).stat = .ready)
    (hins : (s.thread c).stat = .running ↔ needInsert = true) :
    Inv (switchTo s c first needInsert) := by
  have hne : c ≠ first := by
    rintro rfl
    exact (h.current c hc).1 hfirst
  refine ⟨h.toQueue.switchTo hne hfirst hins.2, fun t ht => ?_, fun t ht => ?_⟩
  · rw [switchTo_currentThread]
    by_cases htf : t = first
    · rw [htf]
    by_cases htc : t = c
    · -- the status of the old current thread is not running any more
      subst htc
      rw [switchTo_stat_current hne] at ht
      cases needInsert with
      | true => cases ht
      | false => exact absurd (hins.1 ht) nofun
    · rw [switchTo_thread_of_ne htf htc] at ht
      have := h.running t ht
      rw [hc] at this
      exact absurd (Option.some.inj this).symm htc
  · rw [switchTo_currentThread] at ht
    obtain rfl := Option.some.inj ht
    rw [switchTo_thread_first]
    exact ⟨nofun, nofun⟩

end Switch

/-- `rt_schedule` keeps the invariant. -/
lemma Inv.rtSchedule (h : Inv s) {c : Tid} (hc : s.currentThread = some c) :
    Inv (rtSchedule s c) := by
  rcases rtSchedule_cases h hc with
    ⟨heq, -⟩ | ⟨first, hr, -, ⟨heq, hrun, -⟩ | ⟨needInsert, heq, hins, -⟩⟩
  · rw [heq]
    exact h
  · rw [heq]
    have hm := h.masked c (by simp [hrun]) (by simp [hrun])
    exact h.remove hm nofun (fun _ _ => hm) (fun _ => hc) (fun _ => nofun)
  · rw [heq]
    exact h.switchTo hc hr hins

/-- A thread that `rt_schedule` can select: a ready one, or the current one if it is running. -/
def SchedState.Candidate (s : SchedState Tid) (t : Tid) : Prop :=
  (s.thread t).stat = .ready ∨ (s.currentThread = some t ∧ (s.thread t).stat = .running)

/-- The thread that `rt_schedule` selects in `s` is a most urgent one of the candidates. -/
def Selects (s : SchedState Tid) (c : Tid) : Prop :=
  ∃ t, (rtSchedule s c).currentThread = some t ∧ s.Candidate t ∧
    ∀ t', s.Candidate t' → (s.thread t).currentPriority ≤ (s.thread t').currentPriority

lemma Inv.selects (h : Inv s) {c : Tid} (hc : s.currentThread = some c) (hlock : s.lockNest = 0)
    (hex : ∃ t, s.Candidate t) : Selects s c := by
  -- of the candidates that are not ready there is only the current thread
  have hcand (t' : Tid) : s.Candidate t' ↔
      (s.thread t').stat = .ready ∨ (t' = c ∧ (s.thread c).stat = .running) := by
    unfold SchedState.Candidate
    rw [hc]
    refine or_congr_right ⟨?_, ?_⟩
    · rintro ⟨hc', hrun⟩
      obtain rfl := Option.some.inj hc'
      exact ⟨rfl, hrun⟩
    · rintro ⟨rfl, hrun⟩
      exact ⟨rfl, hrun⟩
  simp only [hcand] at hex
  simp only [Selects, hcand]
  rcases rtSchedule_cases h hc with
    ⟨heq, h0⟩ | ⟨first, hr, hmin, ⟨heq, hrun, hle⟩ | ⟨needInsert, heq, hins, hle⟩⟩
  · -- no thread is ready, so the current one goes on
    have hnone (t' : Tid) : (s.thread t').stat ≠ .ready := by
      intro ht'
      have hmem := (h.mem_iff t' _).2 ⟨ht', rfl⟩
      have hbit := (h.bit_iff (s.thread t').currentPriority).2 (List.ne_nil_of_mem hmem)
      rw [h0 hlock, BitVec.getLsbD_zero] at hbit
      cases hbit
    have hrun : (s.thread c).stat = .running := by
      obtain ⟨t', ht' | ⟨-, hrun⟩⟩ := hex
      · exact absurd ht' (hnone t')
      · exact hrun
    refine ⟨c, by rw [heq, hc], .inr ⟨rfl, hrun⟩, ?_⟩
    rintro t' (ht' | ⟨rfl, -⟩)
    · exact absurd ht' (hnone t')
    · exact le_rfl
  · refine ⟨c, by rw [heq, modify_currentThread, remove_currentThread, hc], .inr ⟨rfl, hrun⟩, ?_⟩
    rintro t' (ht' | ⟨rfl, -⟩)
    · exact hle.trans (hmin t' ht')
    · exact le_rfl
  · refine ⟨first, by rw [heq, switchTo_currentThread], .inl hr, ?_⟩
    rintro t' (ht' | ⟨rfl, hrun⟩)
    · exact hmin t' ht'
    · exact hle hrun

end N32L43x.Sched
