import N32L43x.Ipc.Frame
import N32L43x.Sem.Defs

/-!
The threads that wait for a semaphore, and what the calls do to them.
-/

namespace N32L43x.Sem

open N32L43x.Sched N32L43x.Ipc

variable {Tid Oid : Type}

/-! ### The threads that wait -/

/-- Who waits in the lists, whose timers run, and whose timeout is under way. -/
structure Waiters (k : Kernel Tid Oid) (pc : Tid → Pc Oid) (firing : Option Tid) : Prop where
  inv : Inv k.sched
  mem_iff : ∀ t o, t ∈ k.suspendThread (.sem o) ↔ pc t = .waiting o ∧ k.Suspended t
  timed : ∀ t o, pc t = .waiting o → k.Suspended t → (k.look t).ttmrSet = true →
    k.timerActive t = true ∨ firing = some t
  active : ∀ t, k.timerActive t = true →
    (∃ o, pc t = .waiting o) ∧ k.Suspended t ∧ (k.look t).ttmrSet = true
  fires : ∀ t, firing = some t →
    (∃ o, pc t = .waiting o) ∧ k.Suspended t ∧ k.timerActive t = false

namespace Waiters

variable {k k' : Kernel Tid Oid} {pc : Tid → Pc Oid} {firing : Option Tid} {t : Tid} {o : Oid}

/-- A step that leaves the threads alone. -/
lemma keep (h : Waiters k pc firing) (hinv : Inv k'.sched) (hlook : k'.look = k.look)
    (htimer : k'.timerActive = k.timerActive) (hlist : k'.suspendThread = k.suspendThread) :
    Waiters k' pc firing where
  inv := hinv
  mem_iff u o := by
    unfold Kernel.Suspended
    rw [hlist, hlook]
    exact h.mem_iff u o
  timed u o hpc hu hset := by
    unfold Kernel.Suspended at hu
    rw [hlook] at hu hset
    rw [htimer]
    exact h.timed u o hpc hu hset
  active u hu := by
    rw [htimer] at hu
    unfold Kernel.Suspended
    rw [hlook]
    exact h.active u hu
  fires u hu := by
    unfold Kernel.Suspended
    rw [hlook, htimer]
    exact h.fires u hu

/-- Changes to one thread, where the others stay what they are. -/
lemma change (h : Waiters k pc firing) {pc' : Tid → Pc Oid} {firing' : Option Tid}
    (hinv : Inv k'.sched) (hlook : ∀ u, u ≠ t → k'.look u = k.look u)
    (htimer : ∀ u, u ≠ t → k'.timerActive u = k.timerActive u)
    (hlist : ∀ u o, u ≠ t → (u ∈ k'.suspendThread (.sem o) ↔ u ∈ k.suspendThread (.sem o)))
    (hpc : ∀ u, u ≠ t → pc' u = pc u) (hfire : ∀ u, u ≠ t → (firing' = some u ↔ firing = some u))
    (hmem : ∀ o, t ∈ k'.suspendThread (.sem o) ↔ pc' t = .waiting o ∧ k'.Suspended t)
    (htimed : ∀ o, pc' t = .waiting o → k'.Suspended t → (k'.look t).ttmrSet = true →
      k'.timerActive t = true ∨ firing' = some t)
    (hactive : k'.timerActive t = true →
      (∃ o, pc' t = .waiting o) ∧ k'.Suspended t ∧ (k'.look t).ttmrSet = true)
    (hfires : firing' = some t →
      (∃ o, pc' t = .waiting o) ∧ k'.Suspended t ∧ k'.timerActive t = false) :
    Waiters k' pc' firing' := by
  refine ⟨hinv, fun u o => ?_, fun u o => ?_, fun u => ?_, fun u => ?_⟩ <;> by_cases hu : u = t
  · rw [hu]
    exact hmem o
  · unfold Kernel.Suspended
    rw [hlist u o hu, hpc u hu, hlook u hu]
    exact h.mem_iff u o
  · rw [hu]
    exact htimed o
  · unfold Kernel.Suspended
    rw [hpc u hu, hlook u hu, htimer u hu, hfire u hu]
    exact h.timed u o
  · rw [hu]
    exact hactive
  · unfold Kernel.Suspended
    rw [hpc u hu, hlook u hu, htimer u hu]
    exact h.active u
  · rw [hu]
    exact hfires
  · unfold Kernel.Suspended
    rw [hpc u hu, hlook u hu, htimer u hu, hfire u hu]
    exact h.fires u

lemma not_mem_of_not_suspended (h : Waiters k pc firing) (ht : ¬ k.Suspended t) (o : Oid) :
    t ∉ k.suspendThread (.sem o) := fun hmem => ht ((h.mem_iff t o).mp hmem).2

/-- The timer of a waiter is running unless its timeout is under way. -/
lemma timerLive (h : Waiters k pc firing) (hmem : t ∈ k.suspendThread (.sem o))
    (hfire : firing ≠ some t) : k.TimerLive t := by
  intro hset
  obtain ⟨hpc, hsus⟩ := (h.mem_iff t o).mp hmem
  exact (h.timed t o hpc hsus hset).resolve_right hfire

variable [DecidableEq Tid]

/-- A step of a thread that is not suspended, and that leaves the waiters alone. -/
lemma move (h : Waiters k pc firing) (hinv : Inv k'.sched) (hlook : k'.look = k.look)
    (htimer : k'.timerActive = k.timerActive) (hlist : k'.suspendThread = k.suspendThread)
    (ht : ¬ k.Suspended t) (x : Pc Oid) : Waiters k' (Function.update pc t x) firing := by
  have ht' : ¬ k'.Suspended t := by
    unfold Kernel.Suspended
    rw [hlook]
    exact ht
  refine h.change (t := t) hinv (fun u _ => congrFun hlook u) (fun u _ => congrFun htimer u)
    (fun u o _ => by rw [hlist]) (fun u hu => Function.update_of_ne hu ..) (fun _ _ => Iff.rfl)
    (fun o => ?_) (fun o _ hu => absurd hu ht') (fun hact => ?_) (fun hfire => ?_)
  · rw [hlist]
    exact iff_of_false (h.not_mem_of_not_suspended ht o) fun hwait => ht' hwait.2
  · rw [htimer] at hact
    exact absurd (h.active t hact).2.1 ht
  · exact absurd (h.fires t hfire).2.1 ht

/-- The thread becomes ready, or its timeout has woken it. -/
lemma wake (h : Waiters k pc firing) {firing' : Option Tid} (hinv : Inv k'.sched)
    (hlook : ∀ u, u ≠ t → k'.look u = k.look u) (hlive : (k'.look t).life = .live)
    (htimer : ∀ u, u ≠ t → k'.timerActive u = k.timerActive u) (hact : k'.timerActive t = false)
    (hlist : k'.suspendThread = fun l => (k.suspendThread l).filter (· ≠ t))
    (hfire : ∀ u, u ≠ t → (firing' = some u ↔ firing = some u)) (hfire' : firing' ≠ some t) :
    Waiters k' pc firing' := by
  have ht' : ¬ k'.Suspended t := by
    unfold Kernel.Suspended
    rw [hlive]
    nofun
  refine h.change hinv hlook htimer (fun u o hu => ?_) (fun _ _ => rfl) hfire (fun o => ?_)
    (fun o _ hu => absurd hu ht') (fun hact' => ?_) (fun hf => absurd hf hfire')
  · rw [hlist]
    simp [hu]
  · rw [hlist]
    simp [ht']
  · rw [hact] at hact'
    cases hact'

/-- The tick handler takes a timer that has run out off the timer list. -/
lemma expires (h : Waiters k pc none) (ht : k.timerActive t = true) :
    Waiters { k with timerActive := Function.update k.timerActive t false } pc (some t) := by
  obtain ⟨hpc, hsus, -⟩ := h.active t ht
  refine h.change (t := t) h.inv (fun _ _ => rfl) (fun u hu => Function.update_of_ne hu ..)
    (fun _ _ _ => Iff.rfl) (fun _ _ => rfl) (fun u hu => ?_) (fun o => h.mem_iff t o)
    (fun _ _ _ _ => .inr rfl) (fun hact => ?_) (fun _ => ⟨hpc, hsus, Function.update_self ..⟩)
  · rw [Option.some_inj]
    exact iff_of_false (Ne.symm hu) nofun
  · simp at hact

variable [DecidableEq Oid]

/-- The running thread suspends itself, with or without a timer. -/
lemma suspend (h : Waiters k pc firing) {flag : IpcFlag} (ht : ¬ k.Suspended t) (timed : Bool)
    (hinv : Inv k'.sched)
    (hlook : k'.look =
      Function.update k.look t { k.look t with life := .suspended, ttmrSet := timed })
    (htimer : k'.timerActive = Function.update k.timerActive t timed)
    (hlist : k'.suspendThread = Function.update k.suspendThread (.sem o)
      (k.enqueued (k.suspendThread (.sem o)) t flag)) :
    Waiters k' (Function.update pc t (.waiting o)) firing := by
  have hsus : k'.Suspended t := by
    unfold Kernel.Suspended
    rw [hlook, Function.update_self]
  refine h.change (t := t) hinv (fun u hu => ?_) (fun u hu => ?_) (fun u o' hu => ?_)
    (fun u hu => Function.update_of_ne hu ..) (fun _ _ => Iff.rfl) (fun o' => ?_) (fun o' _ _ hset => ?_)
    (fun hact => ⟨⟨o, Function.update_self ..⟩, hsus, ?_⟩)
    (fun hfire => absurd (h.fires t hfire).2.1 ht)
  · rw [hlook, Function.update_of_ne hu]
  · rw [htimer, Function.update_of_ne hu]
  · rw [hlist]
    by_cases ho : o' = o
    · subst ho
      rw [Function.update_self, Kernel.mem_enqueued]
      simp [hu]
    · rw [Function.update_of_ne (by simpa using ho)]
  · rw [hlist, Function.update_self]
    by_cases ho : o' = o
    · subst ho
      rw [Function.update_self, Kernel.mem_enqueued]
      simp [hsus]
    · rw [Function.update_of_ne (by simpa using ho)]
      refine iff_of_false (h.not_mem_of_not_suspended ht o') fun hwait => ?_
      simp only [Pc.waiting.injEq] at hwait
      exact ho hwait.1.symm
  · left
    rw [hlook, Function.update_self] at hset
    rw [htimer, Function.update_self]
    exact hset
  · rw [htimer, Function.update_self] at hact
    rw [hlook, Function.update_self]
    exact hact

end Waiters

/-! ### The calls -/

section Calls

variable [DecidableEq Tid] {k : Kernel Tid Oid} {sem : Semaphore} {t : Tid} {o : Oid}

/-- The token is handed to the thread: it leaves the list and its error number is `RT_EOK`. -/
structure Handed (k k' : Kernel Tid Oid) (t : Tid) : Prop where
  inv : Inv k'.sched
  look : k'.look = Function.update k.look t { k.look t with life := .live, ttmrSet := false }
  error : k'.error = Function.update k.error t .eok
  timerActive : k'.timerActive = k.timersStopped t
  suspendThread : k'.suspendThread = fun l => (k.suspendThread l).filter (· ≠ t)

lemma Handed.trans_quiet {k' k₂ : Kernel Tid Oid} (h : Handed k k' t) (hq : k'.Quiet k₂) :
    Handed k k₂ t :=
  ⟨hq.inv, hq.look.trans h.look, hq.error.trans h.error, hq.timerActive.trans h.timerActive,
    hq.suspendThread.trans h.suspendThread⟩

lemma rtSemRelease_of_waiter (sem : Semaphore) (hinv : Inv k.sched) {rest : List Tid}
    (hlist : k.suspendThread (.sem o) = t :: rest) (hsus : k.Suspended t) (htimer : k.TimerLive t) :
    ∃ k', rtSemRelease k sem o = (k', sem, .eok, true) ∧ Handed k k' t := by
  have hq := Kernel.quiet_rtSpinLock hinv
  obtain ⟨k₁, hready, hr⟩ := Kernel.rtSchedThreadReady_of_timerLive
    (k := k.rtSpinLock) (t := t) hsus htimer
  have hinv₁ : Inv k₁.sched := hr.inv hq.inv
  have hdeq : k.rtSpinLock.rtSuspListDequeue (.sem o) .eok =
      ({ k₁ with error := Function.update k₁.error t .eok }, some t) := by
    unfold Kernel.rtSuspListDequeue
    rw [show k.rtSpinLock.suspendThread (.sem o) = t :: rest from hlist]
    simp only [hready]
  unfold rtSemRelease
  simp only [show k.rtSpinLock.suspendThread (.sem o) = t :: rest from hlist, hdeq]
  have hhanded : Handed k { k₁ with error := Function.update k₁.error t .eok } t := by
    refine ⟨hinv₁, hr.look, ?_, hr.timerActive, hr.suspendThread⟩
    simp only [hr.error]
    rfl
  exact ⟨_, rfl, hhanded.trans_quiet (Kernel.quiet_rtSpinUnlock hinv₁)⟩

lemma rtSemRelease_of_nil (sem : Semaphore) (hinv : Inv k.sched) (hlist : k.suspendThread (.sem o) = []) :
    ∃ k', k.Quiet k' ∧ rtSemRelease k sem o =
      if sem.value < sem.maxValue then (k', { sem with value := sem.value + 1 }, .eok, false)
      else (k', sem, .efull, false) := by
  refine ⟨_, Kernel.quiet_critical hinv, ?_⟩
  unfold rtSemRelease
  simp only [show k.rtSpinLock.suspendThread (.sem o) = [] from hlist]

variable [DecidableEq Oid]

lemma rtSemTake_of_value (hinv : Inv k.sched) (hvalue : 0 < sem.value) (timeout : ℤ)
    (suspendFlag : SuspendFlag) : ∃ k', k.Quiet k' ∧ rtSemTake k sem t o timeout suspendFlag =
      (k', { sem with value := sem.value - 1 }, some .eok) := by
  refine ⟨_, Kernel.quiet_critical hinv, ?_⟩
  unfold rtSemTake
  rw [if_pos hvalue]

lemma rtSemTake_of_zero (hinv : Inv k.sched) (hvalue : ¬ 0 < sem.value) (suspendFlag : SuspendFlag) :
    ∃ k', k.Quiet k' ∧ rtSemTake k sem t o 0 suspendFlag = (k', sem, some .etimeout) := by
  refine ⟨_, Kernel.quiet_critical hinv, ?_⟩
  unfold rtSemTake
  rw [if_neg hvalue, if_pos rfl]

/-- The thread waits in the list of the semaphore, for ever or with a timer. -/
structure Waits (k k' : Kernel Tid Oid) (t : Tid) (o : Oid) (flag : IpcFlag) (timed : Bool) :
    Prop where
  inv : Inv k'.sched
  look : k'.look = Function.update k.look t { k.look t with life := .suspended, ttmrSet := timed }
  error : k'.error = Function.update k.error t .eintr
  timerActive : k'.timerActive = Function.update k.timerActive t timed
  suspendThread : k'.suspendThread = Function.update k.suspendThread (.sem o)
    (k.enqueued (k.suspendThread (.sem o)) t flag)

lemma Waits.trans_quiet {k' k₂ : Kernel Tid Oid} {flag : IpcFlag} {timed : Bool}
    (h : Waits k k' t o flag timed) (hq : k'.Quiet k₂) : Waits k k₂ t o flag timed :=
  ⟨hq.inv, hq.look.trans h.look, hq.error.trans h.error, hq.timerActive.trans h.timerActive,
    hq.suspendThread.trans h.suspendThread⟩

lemma rtSemTake_of_wait (hinv : Inv k.sched) (hvalue : ¬ 0 < sem.value) {timeout : ℤ}
    (htimeout : timeout ≠ 0) (hlive : (k.look t).life = .live) (hact : k.timerActive t = false)
    (suspendFlag : SuspendFlag) :
    ∃ k', rtSemTake k sem t o timeout suspendFlag = (k', sem, none) ∧
      Waits k k' t o sem.flag (decide (0 < timeout)) := by
  let k₀ : Kernel Tid Oid :=
    { k.rtSpinLock with error := Function.update k.rtSpinLock.error t .eintr }
  have hlive₀ : (k₀.look t).life = .live := hlive
  obtain ⟨k₁, hsuspend, hs⟩ :=
    Kernel.rtThreadSuspendToList_of_live hlive₀ (.sem o) sem.flag suspendFlag
  have hw := hs.waits (show k₀.timerActive t = false from hact) (0 < timeout)
  have hinv₂ := hw.inv (Kernel.quiet_rtSpinLock hinv).inv
  have hwaits : Waits k (if 0 < timeout then k₁.rtTimerStart t else k₁) t o sem.flag
      (decide (0 < timeout)) :=
    ⟨hinv₂, hw.look, hw.error, hw.timerActive, hw.suspendThread⟩
  unfold rtSemTake
  rw [if_neg hvalue, if_neg htimeout]
  simp only
  rw [hsuspend]
  exact ⟨_, rfl, hwaits.trans_quiet (Kernel.quiet_rtSpinUnlock hinv₂)⟩

end Calls

end N32L43x.Sem
