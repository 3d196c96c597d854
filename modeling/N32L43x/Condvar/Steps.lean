import N32L43x.Condvar.Inv

/-!
Every step keeps the invariant of a condition variable.
-/

namespace N32L43x.Condvar

open N32L43x.Ipc N32L43x.Waitqueue N32L43x.Lib.Count

variable {Ag : Type} [Fintype Ag] [DecidableEq Ag] {cv cv' : RtCondvar Ag} {a u : Ag} {pc : Pc}

/-! ### A thread that is awake -/

/-- The thread goes on to `pc`, and the mutex stays as it is. -/
structure Goes (cv cv' : RtCondvar Ag) (a : Ag) (pc : Pc) : Prop where
  thread : cv'.thread = Function.update cv.thread a { cv.thread a with pc := pc }
  owner : cv'.owner = cv.owner
  hold : cv'.hold = cv.hold
  suspendThread : cv'.suspendThread = cv.suspendThread
  clock : cv'.clock = cv.clock

omit [Fintype Ag] in
lemma goes_setPc (cv : RtCondvar Ag) (a : Ag) (pc : Pc) : Goes cv (setPc cv a pc) a pc :=
  ⟨rfl, rfl, rfl, rfl, rfl⟩

namespace Goes

omit [Fintype Ag] in
lemma thread_self (h : Goes cv cv' a pc) : cv'.thread a = { cv.thread a with pc := pc } := by
  rw [h.thread, Function.update_self]

omit [Fintype Ag] in
lemma awake (h : Goes cv cv' a pc) (haw : Awake cv a) : Awake cv' a := by
  refine ⟨?_, ?_, ?_⟩
  · rw [h.thread_self]
    exact haw.suspended
  · rw [h.thread_self]
    exact haw.timerActive
  · rw [h.suspendThread]
    exact haw.listed

omit [Fintype Ag] in
lemma frame (h : Goes cv cv' a pc) (hlist : ∀ t, t ≠ a →
    (t ∈ cv'.event.waitingList ↔ t ∈ cv.event.waitingList)) : Frame cv cv' a where
  thread := by
    intro t ht
    rw [h.thread, Function.update_of_ne ht]
  waitingList := hlist
  suspendThread := by
    intro t _
    rw [h.suspendThread]
  owner := by
    intro t _
    rw [h.owner]
  hold := fun _ _ _ => h.hold

end Goes

/-- What a thread that goes on to `pc` has to have. -/
structure Ready (cv : RtCondvar Ag) (a : Ag) (pc : Pc) : Prop where
  awake : Awake cv a
  takes : pc.takes = false
  slept : pc.slept = none
  holds : pc.holds = true → cv.owner = some a ∧ cv.hold = 1
  released : pc.released = true → cv.owner ≠ some a
  done : ∀ rc, pc.rc = some rc → Woken (cv.thread a) rc

omit [Fintype Ag] in
lemma Ready.local (h : Ready cv a pc) (hg : Goes cv cv' a pc)
    (hqueued : a ∈ cv'.event.waitingList → pc.queued = true) : Local cv' a := by
  have hpc : (cv'.thread a).pc = pc := by rw [hg.thread_self]
  have hby : (cv'.thread a).resumedBy = (cv.thread a).resumedBy := by rw [hg.thread_self]
  refine Local.of_awake (hg.awake h.awake) ?_ ?_ ?_ ?_ ?_ ?_
  · rw [hpc]
    exact h.takes
  · rw [hpc]
    exact h.slept
  · rw [hpc, hg.owner, hg.hold]
    exact h.holds
  · rw [hpc, hg.owner]
    exact h.released
  · rw [hpc]
    exact hqueued
  · rw [hpc]
    intro rc hrc
    obtain ⟨cause, hcause, hzero⟩ := h.done rc hrc
    exact ⟨cause, hby.trans hcause, hzero⟩

namespace Good

/-- A thread that is awake goes on, and its node stays where it is. -/
lemma goes (h : Good cv) (hg : Goes cv cv' a pc) (hr : Ready cv a pc)
    (hqueued : a ∈ cv.event.waitingList → pc.queued = true)
    (hlist : cv'.event.waitingList = cv.event.waitingList)
    (hflag : cv'.event.flag = .wakeup →
      pc = .clearing ∨ cv.event.flag = .wakeup ∧ (cv.thread a).pc ≠ .clearing)
    (hcount : cv'.waitersCnt + (cv.thread a).pc.counts.toNat = cv.waitersCnt + pc.counts.toNat) :
    Good cv' := by
  refine h.frame (hg.frame fun t _ => by rw [hlist]) (hr.local hg ?_) ?_ ?_ hg.clock ?_ ?_
  · rw [hlist]
    exact hqueued
  · rw [hlist]
  · rw [hg.thread_self]
    exact hflag
  · rw [hg.thread_self]
  · rw [hg.thread_self]
    exact hcount

end Good

/-! ### The mutex -/

omit [Fintype Ag] in
/-- What `rt_mutex_take` can do to the mutex. -/
lemma rtMutexTake_cases (cv : RtCondvar Ag) (a : Ag) (timeout : ℤ) :
    (∃ hold err ret, (cv.owner = some a ∨ hold = cv.hold) ∧ (ret = .eok → cv.owner = some a) ∧
      rtMutexTake cv a timeout =
        ({ setThread cv a { cv.thread a with error := err } with hold := hold }, some ret) ∧
      (timeout = 0 ∨ cv.owner = some a)) ∨
    (cv.owner = none ∧ rtMutexTake cv a timeout =
      ({ setThread cv a { cv.thread a with error := .eok } with owner := some a, hold := 1 },
        some .eok)) ∨
    (cv.owner ≠ some a ∧ timeout ≠ 0 ∧ rtMutexTake cv a timeout =
      ({ setThread cv a
          { cv.thread a with error := .eok, suspended := true, timerActive := decide (0 < timeout) } with
        suspendThread := cv.suspendThread ++ [a] }, none)) := by
  by_cases hown : cv.owner = some a
  · refine .inl ?_
    by_cases hmax : cv.hold < rtMutexHoldMax
    · refine ⟨cv.hold + 1, .eok, .eok, .inl hown, fun _ => hown, ?_, .inr hown⟩
      simp [rtMutexTake, setThread, hown, hmax]
    · refine ⟨cv.hold, .eok, .efull, .inl hown, fun _ => hown, ?_, .inr hown⟩
      simp [rtMutexTake, setThread, hown, hmax]
  by_cases hfree : cv.owner = none
  · refine .inr (.inl ⟨hfree, ?_⟩)
    simp [rtMutexTake, setThread, hfree]
  by_cases hzero : timeout = 0
  · refine .inl ⟨cv.hold, .other 2, .etimeout, .inr rfl, ?_, ?_, .inl hzero⟩
    · intro hret
      cases hret
    · simp [rtMutexTake, setThread, hown, hfree, hzero]
  · refine .inr (.inr ⟨hown, hzero, ?_⟩)
    simp [rtMutexTake, setThread, hown, hfree, hzero]

namespace Good

/-- A thread that is awake and outside the wait queue goes on, and leaves the mutex alone, takes it or
gives it up. -/
lemma mutex (err : IpcErr) (pc : Pc) (h : Good cv) (haw : Awake cv a) (hqueued : a ∉ cv.event.waitingList)
    {owner : Option Ag} {hold : ℕ}
    (hmtx : owner = cv.owner ∧ hold = cv.hold ∨
      (cv.owner = some a ∨ cv.owner = none) ∧ (owner = some a ∨ owner = none))
    (hcv : cv' = { setThread cv a { cv.thread a with error := err, pc := pc } with
      owner := owner, hold := hold })
    (htakes : pc.takes = false) (hslept : pc.slept = none) (hreleased : pc.released = false)
    (hholds : pc.holds = true → owner = some a ∧ hold = 1)
    (hdone : ∀ rc, pc.rc = some rc → Woken (cv.thread a) rc)
    (hcounts : (cv.thread a).pc.counts = pc.counts) (hclear : (cv.thread a).pc ≠ .clearing) :
    Good cv' := by
  have hself : cv'.thread a = { cv.thread a with error := err, pc := pc } := by
    rw [hcv]
    exact Function.update_self ..
  have hpc : (cv'.thread a).pc = pc := by rw [hself]
  have hframe : Frame cv cv' a := by
    rw [hcv]
    refine ⟨fun t ht => Function.update_of_ne ht .., fun _ _ => Iff.rfl, fun _ _ => Iff.rfl, ?_, ?_⟩
    · intro t ht
      rcases hmtx with ⟨rfl, -⟩ | ⟨hbefore, hafter⟩
      · rfl
      · have hne : some a ≠ some t := fun heq => ht (Option.some.inj heq).symm
        rcases hbefore with hb | hb <;> rcases hafter with ha | ha <;> simp [hb, ha, hne, Ne.symm ht]
    · intro t ht hown
      rcases hmtx with ⟨-, rfl⟩ | ⟨hbefore, -⟩
      · rfl
      · rcases hbefore with hb | hb
        · rw [hb] at hown
          exact absurd (Option.some.inj hown).symm ht
        · rw [hb] at hown
          cases hown
  refine h.frame hframe (Local.of_awake ⟨?_, ?_, ?_⟩ ?_ ?_ ?_ ?_ ?_ ?_) ?_ ?_ ?_ ?_ ?_
  · rw [hself]
    exact haw.suspended
  · rw [hself]
    exact haw.timerActive
  · rw [hcv]
    exact haw.listed
  · rw [hpc]
    exact htakes
  · rw [hpc]
    exact hslept
  · rw [hpc, hcv]
    exact hholds
  · rw [hpc, hreleased]
    exact fun hp => absurd hp Bool.false_ne_true
  · rw [hcv]
    exact fun hmem => absurd hmem hqueued
  · rw [hpc, hself]
    exact hdone
  · rw [hcv]
    exact List.Sublist.refl _
  · rw [hcv]
    exact fun hflag => .inr ⟨hflag, hclear⟩
  · rw [hcv]
    rfl
  · rw [hself]
  · rw [hpc, hcv, hcounts]
    rfl

/-- A thread that is awake and outside the wait queue waits for the mutex. -/
lemma waits (timer : Bool) (pc : Pc) (h : Good cv) (haw : Awake cv a) (hqueued : a ∉ cv.event.waitingList)
    (hcv : cv' = { setThread cv a { cv.thread a with
        error := .eok, suspended := true, timerActive := timer, pc := pc } with
      suspendThread := cv.suspendThread ++ [a] })
    (htakes : pc.takes = true) (hslept : pc.slept = none) (hreleased : pc.released = false)
    (hholds : pc.holds = false) (htimer : ∀ rc, pc = .takeWait rc → timer = false)
    (hdone : ∀ rc, pc.rc = some rc → Woken (cv.thread a) rc)
    (hcounts : (cv.thread a).pc.counts = pc.counts) (hclear : (cv.thread a).pc ≠ .clearing) :
    Good cv' := by
  have hself : cv'.thread a = { cv.thread a with
      error := .eok, suspended := true, timerActive := timer, pc := pc } := by
    rw [hcv]
    exact Function.update_self ..
  have hpc : (cv'.thread a).pc = pc := by rw [hself]
  have hsus : (cv'.thread a).suspended = true := by rw [hself]
  have hlist : a ∈ cv'.suspendThread := by
    rw [hcv]
    exact List.mem_append_right _ (List.mem_singleton_self a)
  have hframe : Frame cv cv' a := by
    rw [hcv]
    refine ⟨fun t ht => Function.update_of_ne ht .., fun _ _ => Iff.rfl, ?_, fun _ _ => Iff.rfl,
      fun _ _ _ => rfl⟩
    intro t ht
    simp [ht]
  have hlocal : Local cv' a := by
    constructor
    · rw [hpc, hholds]
      exact fun hp => absurd hp Bool.false_ne_true
    · rw [hpc, hreleased]
      exact fun hp => absurd hp Bool.false_ne_true
    · rw [hcv]
      exact fun hmem => absurd hmem hqueued
    · rw [hpc]
      exact fun _ => ⟨hsus, htakes⟩
    · exact fun _ => hsus
    · exact fun _ => .inl hlist
    · intro rc hrc
      rw [hpc] at hrc
      refine ⟨?_, fun hsus' => ?_⟩
      · rw [hself]
        exact htimer rc hrc
      · rw [hsus] at hsus'
        cases hsus'
    · rw [hpc, hslept]
      intro rc hrc
      cases hrc
    · rw [hpc, hself]
      exact hdone
  refine h.frame hframe hlocal ?_ ?_ ?_ ?_ ?_
  · rw [hcv]
    exact List.Sublist.refl _
  · rw [hcv]
    exact fun hflag => .inr ⟨hflag, hclear⟩
  · rw [hcv]
    rfl
  · rw [hself]
  · rw [hpc, hcv, hcounts]
    rfl

/-- A thread that holds the mutex goes on to sleep without it. -/
lemma releases {rc : ℤ} (h : Good cv) (hat : (cv.thread a).pc = .inqueued rc) :
    Good { setPc cv a (.sleeping rc) with owner := none, hold := 0, critical := none } := by
  have ha := h.thread a
  have howner : cv.owner = some a := (ha.holds (by rw [hat]; rfl)).1
  have hslept : (cv.thread a).pc.slept = some rc := by
    rw [hat]
    rfl
  have hnot : a ∉ cv.suspendThread := ha.not_listed (by rw [hat]; rfl)
  have hself : (setPc cv a (.sleeping rc)).thread a = { cv.thread a with pc := .sleeping rc } :=
    Function.update_self ..
  refine h.frame (a := a) ⟨?_, ?_, ?_, ?_, ?_⟩ ?_ (List.Sublist.refl _) ?_ rfl ?_ ?_
  · exact fun t ht => Function.update_of_ne ht ..
  · exact fun _ _ => Iff.rfl
  · exact fun _ _ => Iff.rfl
  · intro t ht
    simp [howner, Ne.symm ht]
  · intro t ht hown
    rw [howner] at hown
    exact absurd (Option.some.inj hown).symm ht
  · constructor
    · intro hp
      simp only [hself] at hp
      cases hp
    · intro _ hown
      cases hown
    · intro _
      simp only [hself]
      rfl
    · exact fun hmem => absurd hmem hnot
    · simp only [hself]
      exact ha.timer
    · simp only [hself]
      intro hsus
      rcases ha.suspended hsus with hmem | ⟨-, hmem, hby⟩
      · exact absurd hmem hnot
      · exact .inr ⟨rfl, hmem, hby⟩
    · intro rc' hp
      simp only [hself] at hp
      cases hp
    · simp only [hself]
      intro rc' hp
      obtain rfl : rc = rc' := Option.some.inj hp
      exact ha.slept rc hslept
    · intro rc' hp
      simp only [hself] at hp
      cases hp
  · exact fun hflag => .inr ⟨hflag, by rw [hat]; exact fun hp => by cases hp⟩
  · simp only [hself]
  · simp only [hself, hat]
    rfl

end Good

/-- The mutex is given to a thread that waits for it. -/
def give (cv : RtCondvar Ag) (u : Ag) : RtCondvar Ag :=
  { setThread cv u (cv.thread u).ready with
    owner := some u, hold := 1, suspendThread := cv.suspendThread.filter (· ≠ u) }

omit [Fintype Ag] in
lemma handOver_cases {next : Option Ag} (h : handOver cv next = some cv') :
    cv' = { cv with owner := none, hold := 0 } ∨ ∃ v ∈ cv.suspendThread, cv' = give cv v := by
  unfold handOver at h
  cases next with
  | none =>
    simp only at h
    split_ifs at h
    exact .inl (Option.some.inj h).symm
  | some v =>
    simp only at h
    split_ifs at h with hmem
    exact .inr ⟨v, hmem, (Option.some.inj h).symm⟩

omit [Fintype Ag] in
lemma setPc_give (hua : u ≠ a) (pc : Pc) : setPc (give cv u) a pc = give (setPc cv a pc) u := by
  simp [setPc, give, setThread, Function.update_of_ne hua, Function.update_of_ne hua.symm,
    Function.update_comm hua]

namespace Good

/-- A mutex that is free is given to a thread that waits for it. -/
lemma give (h : Good cv) (hfree : cv.owner = none) (hu : u ∈ cv.suspendThread) : Good (give cv u) := by
  have hlocal := h.thread u
  obtain ⟨-, htakes⟩ := hlocal.listed hu
  have hself : (Condvar.give cv u).thread u = (cv.thread u).ready := Function.update_self ..
  have hpc : ((Condvar.give cv u).thread u).pc = (cv.thread u).pc := by
    rw [hself]
    rfl
  obtain ⟨-, hreleased, hslept⟩ := Pc.of_takes htakes
  refine h.stays (a := u) ⟨?_, ?_, ?_, ?_, ?_⟩ ?_ rfl rfl rfl ?_ hpc
  · exact fun t ht => Function.update_of_ne ht ..
  · exact fun _ _ => Iff.rfl
  · intro t ht
    simp [Condvar.give, ht]
  · intro t ht
    simp [Condvar.give, hfree, Ne.symm ht]
  · intro t _ hown
    rw [hfree] at hown
    cases hown
  · constructor
    · exact fun _ => ⟨rfl, rfl⟩
    · rw [hpc, hreleased]
      exact fun hp => absurd hp Bool.false_ne_true
    · rw [hpc]
      exact hlocal.queued
    · intro hmem
      simp [Condvar.give] at hmem
    · rw [hself]
      intro htimer
      cases htimer
    · rw [hself]
      intro hsus
      cases hsus
    · rw [hself]
      exact fun _ _ => ⟨rfl, fun _ => ⟨rfl, rfl⟩⟩
    · rw [hpc, hslept]
      intro rc hrc
      cases hrc
    · rw [hself]
      exact hlocal.done
  · rw [hself]
    rfl

end Good

end N32L43x.Condvar
