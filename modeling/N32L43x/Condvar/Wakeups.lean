import N32L43x.Condvar.Bookkeeping

/-!
No wake-up of a condition variable is lost, and none is spurious.
-/

namespace N32L43x.Condvar

open N32L43x.Ipc N32L43x.Waitqueue N32L43x.Lib.Count N32L43x.Lib.Run

variable {Ag : Type} {cv cv' : RtCondvar Ag} {a u : Ag} {next : Option Ag}

/-- The thread has been resumed by a signal or a broadcast. -/
def ResumedBy (cv : RtCondvar Ag) (t : Ag) (waker : Waker) : Prop :=
  (cv.thread t).suspended = false ∧ (cv.thread t).resumedBy = some (.waker waker)

/-- What a step from `cv` to `cv'` does to the threads that are suspended in the wait queue, and what the
calls return. -/
structure Exact (cv : RtCondvar Ag) (act : Action Ag) (cv' : RtCondvar Ag) : Prop where
  /-- neither a signal nor a broadcast is left out while a thread is suspended -/
  looks : ∀ t next waker, act = .run t next → (cv.thread t).pc = .checking waker → (∃ u, Sleeps cv u) →
    (cv'.thread t).pc = .waking waker
  /-- a signal resumes the one that has been suspended the longest, and leaves the others alone -/
  signal : ∀ t next, act = .run t next → (cv.thread t).pc = .waking .signal → (∃ u, Sleeps cv u) →
    ∃ u, Sleeps cv u ∧ (∀ v, Sleeps cv v → v ≠ u → (cv.thread u).since < (cv.thread v).since) ∧
      ResumedBy cv' u .signal ∧ ∀ v, Sleeps cv v → v ≠ u → Sleeps cv' v
  /-- a broadcast resumes them all -/
  broadcast : ∀ t next, act = .run t next → (cv.thread t).pc = .waking .broadcast → ∀ u, Sleeps cv u →
    ResumedBy cv' u .broadcast
  /-- nothing else resumes a thread but its own timer -/
  resumed : ∀ u, Sleeps cv u → ¬ Sleeps cv' u → act = .expire u ∨
    ∃ t next waker, act = .run t next ∧ (cv.thread t).pc = .waking waker ∧ ResumedBy cv' u waker
  /-- a wait returns with the mutex held, after it was resumed, and `0` if not by its timer -/
  returns : ∀ t rc, (cv'.thread t).pc = .returns rc → cv'.owner = some t ∧ cv'.hold = 1 ∧
    ∃ cause, (cv'.thread t).resumedBy = some cause ∧ ((∃ waker, cause = .waker waker) → rc = 0)

/-! ### Threads that stay suspended -/

/-- A thread that is suspended in the wait queue stays there. -/
structure StaysIn (cv cv' : RtCondvar Ag) (u : Ag) : Prop where
  suspended : (cv'.thread u).suspended = (cv.thread u).suspended
  listed : u ∈ cv.event.waitingList → u ∈ cv'.event.waitingList

lemma StaysIn.trans {cv₁ cv₂ cv₃ : RtCondvar Ag} (h : StaysIn cv₁ cv₂ u) (h' : StaysIn cv₂ cv₃ u) :
    StaysIn cv₁ cv₃ u where
  suspended := h'.suspended.trans h.suspended
  listed := fun hmem => h'.listed (h.listed hmem)

lemma StaysIn.sleeps (h : StaysIn cv cv' u) (hs : Sleeps cv u) : Sleeps cv' u :=
  ⟨h.suspended.trans hs.1, h.listed hs.2⟩

lemma staysIn_of_thread (hthread : cv'.thread u = cv.thread u)
    (hlist : cv'.event.waitingList = cv.event.waitingList) : StaysIn cv cv' u where
  suspended := by rw [hthread]
  listed := by
    rw [hlist]
    exact id

variable [DecidableEq Ag]

/-- One thread goes on. -/
lemma staysIn_of_pc {pc : Pc} (hthread : cv'.thread = Function.update cv.thread a { cv.thread a with pc := pc })
    (hlist : u ∈ cv.event.waitingList → u ∈ cv'.event.waitingList) : StaysIn cv cv' u where
  suspended := by
    rw [hthread]
    by_cases hua : u = a
    · subst hua
      rw [Function.update_self]
    · rw [Function.update_of_ne hua]
  listed := hlist

lemma staysIn_setPc (cv : RtCondvar Ag) (a u : Ag) (pc : Pc) : StaysIn cv (setPc cv a pc) u :=
  staysIn_of_pc rfl id

lemma staysIn_handOver (h : handOver cv next = some cv') (hu : u ∉ cv.suspendThread) : StaysIn cv cv' u := by
  rcases handOver_cases h with rfl | ⟨v, hv, rfl⟩
  · exact ⟨rfl, id⟩
  · have hne : u ≠ v := by
      rintro rfl
      exact hu hv
    exact staysIn_of_thread (Function.update_of_ne hne ..) rfl

lemma staysIn_rtMutexTake (cv : RtCondvar Ag) (timeout : ℤ) (hne : u ≠ a) : StaysIn cv (rtMutexTake cv a timeout).1 u := by
  rcases rtMutexTake_cases cv a timeout with ⟨hold, err, ret, -, -, htake, -⟩ | ⟨-, htake⟩ | ⟨-, -, htake⟩
  · rw [htake]
    exact staysIn_of_thread (Function.update_of_ne hne ..) rfl
  · rw [htake]
    exact staysIn_of_thread (Function.update_of_ne hne ..) rfl
  · rw [htake]
    exact staysIn_of_thread (Function.update_of_ne hne ..) rfl

lemma staysIn_rtMutexRelease {r : RtCondvar Ag × IpcErr} (howner : cv.owner = some a)
    (h : rtMutexRelease cv a next = some r) (hu : u ∉ cv.suspendThread) : StaysIn cv r.1 u := by
  unfold rtMutexRelease at h
  rw [if_neg (fun hne => hne howner)] at h
  split_ifs at h
  · obtain ⟨cv₁, hcv₁, rfl⟩ := Option.map_eq_some_iff.mp h
    exact staysIn_handOver hcv₁ hu
  · obtain rfl := Option.some.inj h
    exact ⟨rfl, id⟩

variable [Fintype Ag]

namespace Good

omit [DecidableEq Ag] in
/-- A thread that is suspended in the wait queue is nowhere else. -/
lemma sleeps (h : Good cv) (hu : Sleeps cv u) :
    (cv.thread u).pc.queued = true ∧ (cv.thread u).pc.slept.isSome = true ∧ u ∉ cv.suspendThread := by
  have hqueued := (h.thread u).queued hu.2
  have hnot := (h.thread u).not_listed (Pc.takes_of_queued hqueued)
  refine ⟨hqueued, ?_, hnot⟩
  exact (((h.thread u).suspended hu.1).resolve_left hnot).1

/-- It is counted. -/
lemma waitersCnt_pos (h : Good cv) (hu : Sleeps cv u) : 0 < cv.waitersCnt := by
  have hpos := count_pos (p := fun t => (cv.thread t).pc.counts) (a := u)
    (Pc.counts_of_queued ((h.thread u).queued hu.2))
  rw [h.counted]
  exact Int.natCast_pos.mpr hpos

/-- **What a thread does in its call leaves the suspended ones where they are**, unless it wakes them up. -/
lemma staysIn_runThread (h : Good cv) (hu : Sleeps cv u) (hwaking : ∀ waker, (cv.thread a).pc ≠ .waking waker)
    (hs : Condvar.runThread cv a next = some cv') : StaysIn cv cv' u := by
  have ha := h.thread a
  obtain ⟨hqueued, hslept, hnot⟩ := h.sleeps hu
  have hne : (cv.thread a).pc.queued = false ∨ (cv.thread a).pc.slept = none → u ≠ a := by
    rintro (hq | hp) rfl
    · rw [hq] at hqueued
      cases hqueued
    · rw [hp] at hslept
      cases hslept
  cases hat : (cv.thread a).pc with
  | idle => simp [Condvar.runThread, hat] at hs
  | lockWait =>
    simp only [Condvar.runThread, hat] at hs
    split_ifs at hs
    obtain rfl := Option.some.inj hs
    exact staysIn_setPc ..
  | asserting call =>
    simp only [Condvar.runThread, hat] at hs
    split_ifs at hs
    · obtain rfl := Option.some.inj hs
      exact staysIn_setPc ..
    · obtain rfl := Option.some.inj hs
      exact staysIn_setPc ..
  | asserted call =>
    simp only [Condvar.runThread, hat] at hs
    split_ifs at hs
    · obtain rfl := Option.some.inj hs
      exact staysIn_setPc ..
    · obtain rfl := Option.some.inj hs
      exact ⟨rfl, id⟩
  | joining timeout =>
    simp only [Condvar.runThread, hat] at hs
    obtain rfl := Option.some.inj hs
    exact staysIn_of_pc rfl id
  | joined timeout =>
    simp only [Condvar.runThread, hat] at hs
    obtain rfl := Option.some.inj hs
    exact staysIn_of_pc rfl id
  | counted timeout =>
    have hua : u ≠ a := hne (.inl (by rw [hat]; rfl))
    have hflag : cv.event.flag ≠ .wakeup :=
      h.flag_clean (a := a) (by rw [hat]; rfl) (by rw [hat]; exact Pc.noConfusion)
    have hsus := (ha.awake (by rw [hat]; rfl) (by rw [hat]; rfl)).suspended
    simp only [Condvar.runThread, hat] at hs
    rw [waitqInqueue_eq { cv with critical := some a } timeout hflag hsus] at hs
    obtain rfl := Option.some.inj hs
    refine StaysIn.trans ⟨?_, ?_⟩ (staysIn_setPc ..)
    · exact congrArg Thread.suspended (Function.update_of_ne hua ..)
    · exact fun hmem => List.mem_append_left _ hmem
  | inqueued rc =>
    have howner : cv.owner = some a := (ha.holds (by rw [hat]; rfl)).1
    simp only [Condvar.runThread, hat] at hs
    obtain ⟨⟨cv₁, ret⟩, hrelease, heq⟩ := Option.map_eq_some_iff.mp hs
    obtain rfl : ret = .eok := rtMutexRelease_eok howner hrelease
    obtain rfl := heq
    exact (staysIn_rtMutexRelease howner hrelease hnot).trans
      ((staysIn_setPc cv₁ a u (.sleeping rc)).trans ⟨rfl, id⟩)
  | sleeping rc =>
    simp only [Condvar.runThread, hat] at hs
    split_ifs at hs
    · obtain rfl := Option.some.inj hs
      exact staysIn_setPc ..
    · obtain rfl := Option.some.inj hs
      exact staysIn_setPc ..
  | leaving rc =>
    have hua : u ≠ a := hne (.inr (by rw [hat]; rfl))
    simp only [Condvar.runThread, hat] at hs
    obtain rfl := Option.some.inj hs
    refine staysIn_of_pc rfl fun hmem => ?_
    exact List.mem_filter.mpr ⟨hmem, by simpa using hua⟩
  | removed rc =>
    simp only [Condvar.runThread, hat] at hs
    split_ifs at hs
    · obtain rfl := Option.some.inj hs
      exact staysIn_of_pc rfl id
    · obtain rfl := Option.some.inj hs
      exact ⟨rfl, id⟩
    · obtain rfl := Option.some.inj hs
      exact staysIn_of_pc rfl id
  | retaking rc =>
    have htake := staysIn_rtMutexTake cv (-1) (hne (.inl (by rw [hat]; rfl)))
    simp only [Condvar.runThread, hat] at hs
    rcases hcv₁ : rtMutexTake cv a (-1) with ⟨cv₁, _ | ret⟩
    · rw [hcv₁] at hs htake
      obtain rfl := Option.some.inj hs
      exact htake.trans (staysIn_setPc ..)
    · rw [hcv₁] at hs htake
      obtain rfl := Option.some.inj hs
      split_ifs
      · exact htake.trans (staysIn_setPc ..)
      · exact htake.trans ⟨rfl, id⟩
  | takeWait rc =>
    simp only [Condvar.runThread, hat] at hs
    split_ifs at hs
    · obtain rfl := Option.some.inj hs
      exact staysIn_setPc ..
    · obtain rfl := Option.some.inj hs
      exact ⟨rfl, id⟩
  | returns rc =>
    simp only [Condvar.runThread, hat] at hs
    obtain rfl := Option.some.inj hs
    exact staysIn_setPc ..
  | checking waker =>
    simp only [Condvar.runThread, hat] at hs
    obtain rfl := Option.some.inj hs
    exact staysIn_setPc ..
  | waking waker => exact absurd hat (hwaking waker)
  | clearing =>
    simp only [Condvar.runThread, hat] at hs
    obtain rfl := Option.some.inj hs
    exact staysIn_of_pc rfl id

/-- Nothing but a wake-up and its own timer ends the suspension of a thread. -/
lemma staysIn_step {act : Action Ag} (h : Good cv) (hu : Sleeps cv u) (hexpire : act ≠ .expire u)
    (hwaking : ∀ t next waker, act = .run t next → (cv.thread t).pc ≠ .waking waker)
    (hs : Condvar.step cv act = some cv') : StaysIn cv cv' u := by
  obtain ⟨hqueued, -, hnot⟩ := h.sleeps hu
  have hidle : ∀ t, CanCall cv t → u ≠ t := by
    rintro t ⟨-, hat⟩ rfl
    rw [hat] at hqueued
    cases hqueued
  cases act with
  | lock t timeout =>
    simp only [Condvar.step] at hs
    split_ifs at hs with hcan
    have htake := staysIn_rtMutexTake cv timeout (hidle t hcan)
    rcases hcv₁ : rtMutexTake cv t timeout with ⟨cv₁, _ | ret⟩
    · rw [hcv₁] at hs htake
      obtain rfl := Option.some.inj hs
      exact htake.trans (staysIn_setPc ..)
    · rw [hcv₁] at hs htake
      obtain rfl := Option.some.inj hs
      exact htake
  | unlock t next =>
    simp only [Condvar.step] at hs
    split_ifs at hs with hcan
    obtain ⟨r, hrelease, rfl⟩ := Option.map_eq_some_iff.mp hs
    exact staysIn_rtMutexRelease hcan.2 hrelease hnot
  | call t call =>
    simp only [Condvar.step] at hs
    split_ifs at hs
    obtain rfl := Option.some.inj hs
    exact staysIn_setPc ..
  | run t next =>
    simp only [Condvar.step] at hs
    split_ifs at hs
    exact h.staysIn_runThread hu (fun waker => hwaking t next waker rfl) hs
  | other t err =>
    simp only [Condvar.step] at hs
    split_ifs at hs with hcan
    obtain rfl := Option.some.inj hs
    exact staysIn_of_thread (Function.update_of_ne (hidle t hcan) ..) rfl
  | expire t =>
    have hut : u ≠ t := by
      rintro rfl
      exact hexpire rfl
    simp only [Condvar.step] at hs
    split_ifs at hs
    obtain rfl := Option.some.inj hs
    exact staysIn_of_thread (Function.update_of_ne hut ..) rfl

end Good

/-! ### The wake-ups -/

omit [Fintype Ag] in
lemma step_waking {waker : Waker} (hat : (cv.thread a).pc = .waking waker)
    (hs : step cv (.run a next) = some cv') : cv' = setPc (rtWqueueWakeup cv waker) a .clearing := by
  simp only [step, runThread, hat] at hs
  split_ifs at hs
  exact (Option.some.inj hs).symm

/-- **A signal** resumes the thread that has been suspended the longest. -/
lemma Good.signal (h : Good cv) (hat : (cv.thread a).pc = .waking .signal) (hsome : ∃ u, Sleeps cv u) :
    ∃ u, Sleeps cv u ∧ (∀ v, Sleeps cv v → v ≠ u → (cv.thread u).since < (cv.thread v).since) ∧
      ResumedBy (setPc (rtWqueueWakeup cv .signal) a .clearing) u .signal ∧
      ∀ v, Sleeps cv v → v ≠ u → Sleeps (setPc (rtWqueueWakeup cv .signal) a .clearing) v := by
  have hout : a ∉ cv.event.waitingList := (h.thread a).not_queued (by rw [hat]; rfl)
  have hloop := wakesOne_wakeupLoop cv.thread cv.event.waitingList
  unfold rtWqueueWakeup
  generalize Condvar.wakeupLoop cv.thread cv.event.waitingList = r at hloop
  cases hloop with
  | none hawake _ =>
    obtain ⟨u, hsus, hmem⟩ := hsome
    rw [hawake u hmem] at hsus
    cases hsus
  | @some thread' pre post u hl hpre hsus hu hsame =>
    have hmem : u ∈ cv.event.waitingList := hl ▸ List.mem_append_right pre List.mem_cons_self
    have hua : u ≠ a := by
      rintro rfl
      exact hout hmem
    have horder := h.order
    rw [hl] at horder
    have hlater := (List.pairwise_cons.mp (List.pairwise_append.mp horder).2.1).1
    refine ⟨u, ⟨hsus, hmem⟩, ?_, ?_, ?_⟩
    · -- those in front of it are not suspended
      rintro v ⟨hvsus, hvmem⟩ hvu
      rw [hl] at hvmem
      rcases List.mem_append.mp hvmem with hvpre | hvpost
      · rw [hpre v hvpre] at hvsus
        cases hvsus
      · rcases List.mem_cons.mp hvpost with rfl | hvpost
        · exact absurd rfl hvu
        · exact hlater v hvpost
    · unfold ResumedBy
      simp only [setPc, setThread, Function.update_of_ne hua, hu]
      exact ⟨rfl, rfl⟩
    · rintro v ⟨hvsus, hvmem⟩ hvu
      have hva : v ≠ a := by
        rintro rfl
        exact hout hvmem
      obtain ⟨err, herr⟩ := hsame v hvu
      refine ⟨?_, List.mem_filter.mpr ⟨hvmem, by simpa using hvu⟩⟩
      simp only [setPc, setThread, Function.update_of_ne hva, herr]
      exact hvsus

/-- **A broadcast** resumes all that are suspended. -/
lemma Good.broadcast (h : Good cv) (hat : (cv.thread a).pc = .waking .broadcast) (hu : Sleeps cv u) :
    ResumedBy (setPc (rtWqueueWakeup cv .broadcast) a .clearing) u .broadcast := by
  have hua : u ≠ a := by
    rintro rfl
    have hqueued := (h.sleeps hu).1
    rw [hat] at hqueued
    cases hqueued
  obtain ⟨err, herr⟩ := wakeupAllLoop_of_suspended cv.thread hu.1 hu.2
  unfold ResumedBy
  simp only [setPc, setThread, rtWqueueWakeup, Function.update_of_ne hua, herr]
  exact ⟨rfl, rfl⟩

/-- **Every step from a state with the invariant is exact.** -/
lemma Good.exact {act : Action Ag} (h : Good cv) (hs : Condvar.step cv act = some cv') : Exact cv act cv' where
  looks := by
    rintro t next waker rfl hat ⟨u, hu⟩
    simp only [Condvar.step, Condvar.runThread, hat, if_pos (h.waitersCnt_pos hu)] at hs
    split_ifs at hs
    obtain rfl := Option.some.inj hs
    simp only [setPc, setThread, Function.update_self]
  signal := by
    rintro t next rfl hat hsome
    rw [step_waking hat hs]
    exact h.signal hat hsome
  broadcast := by
    rintro t next rfl hat u hu
    rw [step_waking hat hs]
    exact h.broadcast hat hu
  resumed := by
    intro u hu hnot
    by_contra hother
    push Not at hother
    obtain ⟨hexpire, hwake⟩ := hother
    have hwaking : ∀ t next waker, act = .run t next → (cv.thread t).pc ≠ .waking waker := by
      rintro t next waker rfl hat
      apply hwake t next waker rfl hat
      have hcv := step_waking hat hs
      cases waker with
      | signal =>
        obtain ⟨v, -, -, hresumed, hrest⟩ := h.signal hat ⟨u, hu⟩
        rw [hcv] at hnot ⊢
        by_cases huv : u = v
        · rw [huv]
          exact hresumed
        · exact absurd (hrest u hu huv) hnot
      | broadcast =>
        rw [hcv]
        exact h.broadcast hat hu
    exact hnot ((h.staysIn_step hu hexpire hwaking hs).sleeps hu)
  returns := by
    intro t rc hat
    have ht := (h.step hs).thread t
    obtain ⟨howner, hhold⟩ := ht.holds (by rw [hat]; rfl)
    exact ⟨howner, hhold, ht.done rc (by rw [hat]; rfl)⟩

end N32L43x.Condvar
