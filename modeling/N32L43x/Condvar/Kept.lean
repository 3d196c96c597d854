import N32L43x.Condvar.Queue
import N32L43x.Lib.Run

/-!
Every step keeps the invariant of a condition variable.
-/

namespace N32L43x.Condvar

open N32L43x.Ipc N32L43x.Waitqueue N32L43x.Lib.Count N32L43x.Lib.Run

variable {Ag : Type} [Fintype Ag] [DecidableEq Ag] {cv cv' : RtCondvar Ag} {a : Ag} {next : Option Ag}
  {pc pc' : Pc}

namespace Good

/-- A thread that is outside the wait queue goes on. -/
lemma goesOn (h : Good cv) (hat : (cv.thread a).pc = pc) (hg : Goes cv cv' a pc') (hr : Ready cv a pc')
    (hqueued : pc.queued = false) (hclear : pc ≠ .clearing) (hevent : cv'.event = cv.event)
    (hcount : cv'.waitersCnt + pc.counts.toNat = cv.waitersCnt + pc'.counts.toNat) : Good cv' := by
  subst hat
  refine h.goes hg hr ?_ (by rw [hevent]) ?_ hcount
  · exact fun hmem => absurd hmem ((h.thread a).not_queued hqueued)
  · rw [hevent]
    exact fun hflag => .inr ⟨hflag, hclear⟩

/-- A thread that holds the mutex goes on with it. -/
lemma active (h : Good cv) (hat : (cv.thread a).pc = pc) (hg : Goes cv cv' a pc')
    (hold : pc.active = true) (hholds : pc.holds = true) (hnew : pc'.active = true) (hclear : pc ≠ .clearing)
    (hevent : cv'.event = cv.event)
    (hcount : cv'.waitersCnt + pc.counts.toNat = cv.waitersCnt + pc'.counts.toNat) : Good cv' := by
  obtain ⟨htakes, hslept, -, -, hqueued⟩ := Pc.of_active hold
  obtain ⟨htakes', hslept', hreleased, hrc, -⟩ := Pc.of_active hnew
  have ha := h.thread a
  rw [← hat] at htakes hslept hholds
  refine h.goesOn hat hg ⟨ha.awake htakes hslept, htakes', hslept', fun _ => ha.holds hholds, ?_, ?_⟩ hqueued
    hclear hevent hcount
  · rw [hreleased]
    intro hp
    cases hp
  · rw [hrc]
    intro rc hp
    cases hp

/-- The thread is suspended in the wait queue. -/
lemma inqueue {timeout : BitVec 32} (h : Good cv) (hat : (cv.thread a).pc = .counted timeout)
    (hs : runThread cv a next = some cv') : Good cv' := by
  have hflag : cv.event.flag ≠ .wakeup :=
    h.flag_clean (a := a) (by rw [hat]; rfl) (by rw [hat]; exact Pc.noConfusion)
  have hsus : (cv.thread a).suspended = false :=
    ((h.thread a).awake (by rw [hat]; rfl) (by rw [hat]; rfl)).suspended
  simp only [runThread, hat] at hs
  rw [waitqInqueue_eq { cv with critical := some a } timeout hflag hsus] at hs
  obtain rfl := Option.some.inj hs
  have hgood := h.suspends (decide (timeout ≠ rtWaitingForever)) hat
  simpa [setPc, setThread] using hgood

/-- It releases the mutex. -/
lemma release {rc : ℤ} (h : Good cv) (hat : (cv.thread a).pc = .inqueued rc)
    (hs : runThread cv a next = some cv') : Good cv' := by
  obtain ⟨howner, hhold⟩ := (h.thread a).holds (by rw [hat]; rfl)
  have hnot : a ∉ cv.suspendThread := (h.thread a).not_listed (by rw [hat]; rfl)
  have hrelease : rtMutexRelease cv a next = (handOver cv next).map fun cv => (cv, .eok) := by
    simp [rtMutexRelease, howner, hhold]
  simp only [runThread, hat, hrelease, Option.map_map] at hs
  obtain ⟨cv₁, hcv₁, rfl⟩ := Option.map_eq_some_iff.mp hs
  have hgood := h.releases hat
  rcases handOver_cases hcv₁ with rfl | ⟨v, hv, rfl⟩
  · exact hgood
  · have hva : v ≠ a := by
      rintro rfl
      exact hnot hv
    have hgiven := hgood.give rfl hv
    show Good { setPc (Condvar.give cv v) a (.sleeping rc) with critical := none }
    rw [setPc_give hva]
    exact hgiven

/-- It takes the mutex again. -/
lemma retake {rc : ℤ} (h : Good cv) (hat : (cv.thread a).pc = .retaking rc)
    (hs : runThread cv a next = some cv') : Good cv' := by
  have ha := h.thread a
  have haw : Awake cv a := ha.awake (by rw [hat]; rfl) (by rw [hat]; rfl)
  have hout : a ∉ cv.event.waitingList := ha.not_queued (by rw [hat]; rfl)
  have hfree : cv.owner ≠ some a := ha.released (by rw [hat]; rfl)
  have hdone : ∀ rc', some rc = some rc' → Woken (cv.thread a) rc' := by
    intro rc' heq
    exact ha.done rc' (by rw [hat]; exact heq)
  simp only [runThread, hat] at hs
  rcases rtMutexTake_cases cv a (-1) with
    ⟨hold, err, ret, -, -, -, hzero | hown⟩ | ⟨hnone, htake⟩ | ⟨-, -, htake⟩
  · cases hzero
  · exact absurd hown hfree
  · rw [htake] at hs
    obtain rfl := Option.some.inj hs
    refine h.mutex .eok (.returns rc) haw hout (.inr ⟨.inr hnone, .inl rfl⟩) ?_ rfl rfl rfl
      (fun _ => ⟨rfl, rfl⟩) hdone (by rw [hat]; rfl) (by rw [hat]; exact Pc.noConfusion)
    simp [setPc, setThread]
  · rw [htake] at hs
    obtain rfl := Option.some.inj hs
    refine h.waits false (.takeWait rc) haw hout ?_ rfl rfl rfl rfl (fun _ _ => rfl) hdone
      (by rw [hat]; rfl) (by rw [hat]; exact Pc.noConfusion)
    simp [setPc, setThread]

/-- Its wait is over. -/
lemma wakesUp {rc : ℤ} (h : Good cv) (hat : (cv.thread a).pc = .sleeping rc)
    (hs : runThread cv a next = some cv') : Good cv' := by
  have ha := h.thread a
  obtain ⟨rfl, hwoken⟩ := ha.slept rc (by rw [hat]; rfl)
  simp only [runThread, hat] at hs
  rw [if_neg (fun hne => hne rfl)] at hs
  split_ifs at hs with hsus
  obtain rfl := Option.some.inj hs
  have hawake : (cv.thread a).suspended = false := eq_false_of_ne_true hsus
  refine h.goes (goes_setPc _ _ _) ⟨ha.awake_of_ready hawake, rfl, rfl, ?_, ?_, ?_⟩ (fun _ => rfl) rfl ?_ ?_
  · intro hp
    cases hp
  · exact fun _ => ha.released (by rw [hat]; rfl)
  · intro rc' heq
    obtain rfl := Option.some.inj heq
    exact hwoken hawake
  · rw [hat]
    exact fun hflag => .inr ⟨hflag, Pc.noConfusion⟩
  · rw [hat]
    rfl

/-- It takes its node off the wait queue. -/
lemma leave {rc : ℤ} (h : Good cv) (hat : (cv.thread a).pc = .leaving rc)
    (hs : runThread cv a next = some cv') : Good cv' := by
  have ha := h.thread a
  have haw : Awake cv a := ha.awake (by rw [hat]; rfl) (by rw [hat]; rfl)
  simp only [runThread, hat] at hs
  obtain rfl := Option.some.inj hs
  have hgood := h.unlinks haw.suspended
  refine hgood.goes ⟨rfl, rfl, rfl, rfl, rfl⟩ ⟨⟨haw.1, haw.2, haw.3⟩, rfl, rfl, ?_, ?_, ?_⟩ ?_ rfl ?_ ?_
  · intro hp
    cases hp
  · exact fun _ => ha.released (by rw [hat]; rfl)
  · intro rc' heq
    exact ha.done rc' (by rw [hat]; exact heq)
  · intro hmem
    simp at hmem
  · rw [hat]
    exact fun hflag => .inr ⟨hflag, Pc.noConfusion⟩
  · rw [hat]
    rfl

/-- It is no longer counted. -/
lemma uncount {rc : ℤ} (h : Good cv) (hat : (cv.thread a).pc = .removed rc)
    (hs : runThread cv a next = some cv') : Good cv' := by
  have ha := h.thread a
  have hready : Ready cv a (.retaking rc) := by
    refine ⟨ha.awake (by rw [hat]; rfl) (by rw [hat]; rfl), rfl, rfl, ?_, ?_, ?_⟩
    · intro hp
      cases hp
    · exact fun _ => ha.released (by rw [hat]; rfl)
    · intro rc' heq
      exact ha.done rc' (by rw [hat]; exact heq)
  have hcount : cv.waitersCnt - 1 + (Pc.removed rc).counts.toNat =
      cv.waitersCnt + (Pc.retaking rc).counts.toNat := by
    show cv.waitersCnt - 1 + 1 = cv.waitersCnt + 0
    omega
  have hgoes : ∀ mtx, Good (setPc { cv with waitersCnt := cv.waitersCnt - 1, waitingMtx := mtx } a
      (.retaking rc)) := fun mtx =>
    h.goesOn hat ⟨rfl, rfl, rfl, rfl, rfl⟩ hready rfl Pc.noConfusion rfl hcount
  simp only [runThread, hat] at hs
  split_ifs at hs with hone hmtx
  · obtain rfl := Option.some.inj hs
    exact hgoes false
  · obtain rfl := Option.some.inj hs
    exact h.failed
  · obtain rfl := Option.some.inj hs
    exact hgoes cv.waitingMtx

/-- It has the mutex again. -/
lemma retaken {rc : ℤ} (h : Good cv) (hat : (cv.thread a).pc = .takeWait rc)
    (hs : runThread cv a next = some cv') : Good cv' := by
  have ha := h.thread a
  simp only [runThread, hat] at hs
  split_ifs at hs with hsus htake
  · obtain rfl := Option.some.inj hs
    have hawake : (cv.thread a).suspended = false := eq_false_of_ne_true hsus
    refine h.goesOn hat (goes_setPc _ _ _) ⟨ha.awake_of_ready hawake, rfl, rfl, ?_, ?_, ?_⟩ rfl Pc.noConfusion
      rfl rfl
    · exact fun _ => (ha.taken rc hat).2 hawake
    · intro hp
      cases hp
    · intro rc' heq
      exact ha.done rc' (by rw [hat]; exact heq)
  · obtain rfl := Option.some.inj hs
    exact h.failed

/-- A call that is over, or a `rt_mutex_take`. -/
lemma ends (h : Good cv) (hat : (cv.thread a).pc = pc) (haw : Awake cv a) (hqueued : pc.queued = false)
    (hclear : pc ≠ .clearing) (hcounts : pc.counts = false) : Good (setPc cv a .idle) := by
  refine h.goesOn hat (goes_setPc _ _ _) ⟨haw, rfl, rfl, ?_, ?_, ?_⟩ hqueued hclear rfl (by rw [hcounts]; rfl)
  · intro hp
    cases hp
  · intro hp
    cases hp
  · intro rc hp
    cases hp

/-- The flag of the queue is cleared. -/
lemma clears (h : Good cv) (hat : (cv.thread a).pc = .clearing) :
    Good (setPc { cv with event := { cv.event with flag := .clean } } a .idle) := by
  have ha := h.thread a
  have haw : Awake cv a := ha.awake (by rw [hat]; rfl) (by rw [hat]; rfl)
  refine h.goes ⟨rfl, rfl, rfl, rfl, rfl⟩ ⟨haw, rfl, rfl, ?_, ?_, ?_⟩ ?_ rfl ?_ (by rw [hat]; rfl)
  · intro hp
    cases hp
  · intro hp
    cases hp
  · intro rc hp
    cases hp
  · exact fun hmem => absurd hmem (ha.not_queued (by rw [hat]; rfl))
  · intro hflag
    cases hflag

/-- **A thread goes on with its call.** -/
lemma runThread (h : Good cv) (hs : runThread cv a next = some cv') : Good cv' := by
  have ha := h.thread a
  cases hat : (cv.thread a).pc with
  | idle => simp [Condvar.runThread, hat] at hs
  | lockWait =>
    simp only [Condvar.runThread, hat] at hs
    split_ifs at hs with hsus
    obtain rfl := Option.some.inj hs
    exact h.ends hat (ha.awake_of_ready (eq_false_of_ne_true hsus)) rfl Pc.noConfusion rfl
  | asserting call =>
    simp only [Condvar.runThread, hat] at hs
    split_ifs at hs
    · obtain rfl := Option.some.inj hs
      exact h.active hat (goes_setPc _ _ _) rfl rfl rfl Pc.noConfusion rfl rfl
    · obtain rfl := Option.some.inj hs
      exact h.active hat (goes_setPc _ _ _) rfl rfl call.active_entered Pc.noConfusion rfl
        (by rw [call.counts_entered]; rfl)
  | asserted call =>
    simp only [Condvar.runThread, hat] at hs
    split_ifs at hs
    · obtain rfl := Option.some.inj hs
      exact h.active hat (goes_setPc _ _ _) rfl rfl call.active_entered Pc.noConfusion rfl
        (by rw [call.counts_entered]; rfl)
    · obtain rfl := Option.some.inj hs
      exact h.failed
  | joining timeout =>
    simp only [Condvar.runThread, hat] at hs
    obtain rfl := Option.some.inj hs
    exact h.active hat ⟨rfl, rfl, rfl, rfl, rfl⟩ rfl rfl rfl Pc.noConfusion rfl rfl
  | joined timeout =>
    simp only [Condvar.runThread, hat] at hs
    obtain rfl := Option.some.inj hs
    exact h.active hat ⟨rfl, rfl, rfl, rfl, rfl⟩ rfl rfl rfl Pc.noConfusion rfl (Int.add_zero _)
  | counted timeout => exact h.inqueue hat hs
  | inqueued rc => exact h.release hat hs
  | sleeping rc => exact h.wakesUp hat hs
  | leaving rc => exact h.leave hat hs
  | removed rc => exact h.uncount hat hs
  | retaking rc => exact h.retake hat hs
  | takeWait rc => exact h.retaken hat hs
  | returns rc =>
    simp only [Condvar.runThread, hat] at hs
    obtain rfl := Option.some.inj hs
    exact h.ends hat (ha.awake (by rw [hat]; rfl) (by rw [hat]; rfl)) rfl Pc.noConfusion rfl
  | checking waker =>
    simp only [Condvar.runThread, hat] at hs
    obtain rfl := Option.some.inj hs
    split_ifs
    · exact h.active hat (goes_setPc _ _ _) rfl rfl rfl Pc.noConfusion rfl rfl
    · exact h.active hat (goes_setPc _ _ _) rfl rfl rfl Pc.noConfusion rfl rfl
  | waking waker =>
    simp only [Condvar.runThread, hat] at hs
    obtain rfl := Option.some.inj hs
    exact h.wakes hat
  | clearing =>
    simp only [Condvar.runThread, hat] at hs
    obtain rfl := Option.some.inj hs
    exact h.clears hat

/-- A thread outside the calls, and the mutex it takes or releases. -/
lemma mutexStep (err : IpcErr) (owner : Option Ag) (hold : ℕ) (h : Good cv)
    (hat : (cv.thread a).pc = .idle) (hmtx : owner = cv.owner ∧ hold = cv.hold ∨
      (cv.owner = some a ∨ cv.owner = none) ∧ (owner = some a ∨ owner = none)) :
    Good { setThread cv a { cv.thread a with error := err } with owner := owner, hold := hold } := by
  have ha := h.thread a
  have haw : Awake cv a := ha.awake (by rw [hat]; rfl) (by rw [hat]; rfl)
  refine h.mutex err .idle haw (ha.not_queued (by rw [hat]; rfl)) hmtx ?_ rfl rfl rfl ?_ ?_
    (by rw [hat]) (by rw [hat]; exact Pc.noConfusion)
  · rw [← hat]
  · intro hp
    cases hp
  · intro rc hp
    cases hp

/-- A thread takes the mutex. -/
lemma lock {timeout : ℤ} (h : Good cv) (hat : (cv.thread a).pc = .idle)
    (hs : step cv (.lock a timeout) = some cv') : Good cv' := by
  have ha := h.thread a
  simp only [step] at hs
  split_ifs at hs
  rcases rtMutexTake_cases cv a timeout with
    ⟨hold, err, ret, hhold, -, htake, -⟩ | ⟨hnone, htake⟩ | ⟨-, -, htake⟩
  · rw [htake] at hs
    obtain rfl := Option.some.inj hs
    refine h.mutexStep err cv.owner hold hat ?_
    rcases hhold with hown | rfl
    · exact .inr ⟨.inl hown, .inl hown⟩
    · exact .inl ⟨rfl, rfl⟩
  · rw [htake] at hs
    obtain rfl := Option.some.inj hs
    exact h.mutexStep .eok (some a) 1 hat (.inr ⟨.inr hnone, .inl rfl⟩)
  · rw [htake] at hs
    obtain rfl := Option.some.inj hs
    refine h.waits (decide (0 < timeout)) .lockWait (ha.awake (by rw [hat]; rfl) (by rw [hat]; rfl))
      (ha.not_queued (by rw [hat]; rfl)) ?_ rfl rfl rfl rfl ?_ ?_ (by rw [hat]; rfl)
      (by rw [hat]; exact Pc.noConfusion)
    · simp [setPc, setThread]
    · intro rc hp
      cases hp
    · intro rc hp
      cases hp

/-- It releases the mutex. -/
lemma unlock (h : Good cv) (hat : (cv.thread a).pc = .idle) (howner : cv.owner = some a)
    (hs : (rtMutexRelease cv a next).map Prod.fst = some cv') : Good cv' := by
  have hsame : setThread cv a { cv.thread a with error := (cv.thread a).error } = cv := by
    simp [setThread]
  have hmutex : ∀ owner hold, owner = some a ∨ owner = none →
      Good { cv with owner := owner, hold := hold } := by
    intro owner hold hown
    have hgood := h.mutexStep (cv.thread a).error owner hold hat (.inr ⟨.inl howner, hown⟩)
    rwa [hsame] at hgood
  unfold rtMutexRelease at hs
  rw [if_neg (fun hne => hne howner)] at hs
  split_ifs at hs
  · rw [Option.map_map] at hs
    obtain ⟨cv₁, hcv₁, rfl⟩ := Option.map_eq_some_iff.mp hs
    rcases handOver_cases hcv₁ with rfl | ⟨v, hv, rfl⟩
    · exact hmutex none 0 (.inr rfl)
    · exact (hmutex none 0 (.inr rfl)).give rfl hv
  · obtain rfl := Option.some.inj hs
    exact hmutex cv.owner (cv.hold - 1) (.inl howner)

/-- **Every step keeps the invariant.** -/
theorem step {act : Action Ag} (h : Good cv) (hs : step cv act = some cv') : Good cv' := by
  cases act with
  | lock t timeout =>
    have hs' := hs
    simp only [Condvar.step] at hs'
    split_ifs at hs' with hcan
    exact h.lock hcan.2 hs
  | unlock t next =>
    simp only [Condvar.step] at hs
    split_ifs at hs with hcan
    exact h.unlock hcan.1.2 hcan.2 hs
  | call t call =>
    simp only [Condvar.step] at hs
    split_ifs at hs with hcan
    obtain ⟨⟨-, hat⟩, howner, hhold⟩ := hcan
    obtain rfl := Option.some.inj hs
    have ht := h.thread t
    refine h.goesOn hat (goes_setPc _ _ _) ⟨ht.awake (by rw [hat]; rfl) (by rw [hat]; rfl), rfl, rfl,
      fun _ => ⟨howner, hhold⟩, ?_, ?_⟩ rfl Pc.noConfusion rfl rfl
    · intro hp
      cases hp
    · intro rc hp
      cases hp
  | run t next =>
    simp only [Condvar.step] at hs
    split_ifs at hs
    exact h.runThread hs
  | other t err =>
    simp only [Condvar.step] at hs
    split_ifs at hs with hcan
    obtain rfl := Option.some.inj hs
    exact h.mutexStep err cv.owner cv.hold hcan.2 (.inl ⟨rfl, rfl⟩)
  | expire t =>
    simp only [Condvar.step] at hs
    split_ifs at hs with hcan
    obtain rfl := Option.some.inj hs
    exact h.expires hcan.2

end Good

/-- The invariant holds in every state of a run. -/
theorem good_of_exec {as : List (Action Ag)} (hs : exec step (rtCondvarInit : RtCondvar Ag) as = some cv) :
    Good cv :=
  exec_inv (fun _ _ _ h hs => h.step hs) as _ cv good_rtCondvarInit hs

end N32L43x.Condvar
