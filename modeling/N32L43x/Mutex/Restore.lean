import N32L43x.Mutex.Fixpoint

/-!
The priorities of the threads over whole runs in which waits time out.  When a thread gives up waiting, the owner
of the mutex is refreshed only if it has the priority of that thread.
-/

namespace N32L43x.Mutex

open N32L43x.Sched N32L43x.Ipc N32L43x.Lib.Run

variable {Tid Oid : Type} [DecidableEq Tid] [DecidableEq Oid]

/-- The owner of a mutex is refreshed when a thread gives up waiting for it, or need not be. -/
def Refreshes (s : System Tid Oid) : Action Tid Oid → Prop
  | .resume => ∀ x ∈ s.givesUp, OwnerRight s.st x.1 x.2
  | .setprioceiling .. | .changePriority .. | .detach _ | .exit => False
  | .take .. | .release _ | .yield | .timerExpires _ | .tickIncrease | .wait .. | .dequeue .. => True

instance (s : System Tid Oid) (a : Action Tid Oid) : Decidable (Refreshes s a) :=
  match a with
  | .resume => inferInstanceAs (Decidable (∀ x ∈ s.givesUp, OwnerRight s.st x.1 x.2))
  | .setprioceiling .. | .changePriority .. | .detach _ | .exit => isFalse id
  | .take .. | .release _ | .yield | .timerExpires _ | .tickIncrease | .wait .. | .dequeue .. => isTrue trivial

section Runs

variable {s : System Tid Oid} {a : Action Tid Oid}

lemma Refreshes.keeps (h : Refreshes s a) : Keeps ∅ s a where
  regular := by
    cases a <;> first | rfl | exact h.elim
  expires _ _ _ hm := hm.elim
  resume ha t m hgives _ := by
    subst ha
    exact h (t, m) hgives

omit [DecidableEq Oid] in
/-- Also while a thread passes its priority on. -/
lemma Steady.settled_empty (h : Steady ∅ s) : Settled ∅ s.st := by
  by_cases hnone : ∀ t, (s.pc t).entering = none
  · exact h.settled hnone
  · obtain ⟨t, ht⟩ := not_forall.mp hnone
    obtain ⟨m, hm⟩ := Option.ne_none_iff_exists'.mp ht
    have hent := h.entering t m hm
    exact ⟨fun _ hD => hD.elim, hent.sorted, hent.thread⟩

/-- In every run of calls of `rt_mutex_take` with any timeouts and of `rt_mutex_release`, waits for other objects,
timeouts and scheduling, in which the owner of a mutex is refreshed or need not be whenever a thread gives up
waiting for it: in every state each thread has the least of its own priority and the priorities of the mutexes
that it owns, so that one that owns none has its own, and the threads that wait for a mutex are in the order of
their priorities. -/
theorem priorities_exact {sched : SchedState Tid} (hb : Booted sched) (flag : SuspList Oid → IpcFlag) (fuel : ℕ)
    (as : List (Action Tid Oid)) (hC : Along (step fuel) Refreshes (System.init sched flag) as)
    (hrun : exec (step fuel) (System.init sched flag) as = some s) :
    (∀ t, IsLeast {p : ℕ | p = (s.st.kernel.look t).initPriority.val ∨
      ∃ m, (s.st.mutex m).owner = some t ∧ p = (s.st.mutex m).priority} (s.st.prio t).val) ∧
    (∀ t, (∀ m, (s.st.mutex m).owner ≠ some t) → s.st.prio t = (s.st.kernel.look t).initPriority) ∧
    ∀ m, (s.st.waiters m).Pairwise fun t u => s.st.prio t ≤ s.st.prio u := by
  have h : Steady ∅ s := exec_inv_of_along (C := Refreshes) (fun _ _ _ h hC hs => h.step hC.keeps hs) as _ s
    (steady_init hb flag) hC hrun
  have hset := h.settled_empty
  have hleast : ∀ t, IsLeast {p : ℕ | p = (s.st.kernel.look t).initPriority.val ∨
      ∃ m, (s.st.mutex m).owner = some t ∧ p = (s.st.mutex m).priority} (s.st.prio t).val := by
    intro t
    simp only [h.core.owners.own]
    exact hset.isLeast h.ceiling t
  refine ⟨hleast, fun t hnone => ?_, hset.sorted⟩
  rcases (hleast t).1 with hown | ⟨m, howner, -⟩
  · exact Fin.ext hown
  · exact absurd howner (hnone m)

end Runs

section Two

/-- The second thread takes the mutex while the thread `t` waits for a semaphore, which then waits for the mutex
until its timer expires. -/
def waitsInVain (t : Fin 2) : List (Action (Fin 2) Unit) :=
  [.wait (.sem ()) (-1) .uninterruptible, .take () (-1) .uninterruptible, .dequeue (.sem ()) .eok,
    .take () 10 .uninterruptible, .resume, .resume, .resume, .timerExpires t, .yield, .resume, .resume, .resume]

theorem priorities_exact_waitsInVain :
    ∃ sched s, exec Sched.step (SchedState.init (fun _ => 10) twoPriorities) twoThreads = some sched ∧
      exec (step 3) (System.init sched fun _ => .fifo) (waitsInVain 0) = some s ∧
      s.st.prio 0 = (s.st.kernel.look 0).initPriority := by
  have hrun : ∀ sched ∈ exec Sched.step (SchedState.init (fun _ => 10) twoPriorities) twoThreads,
      Along (step 3) Refreshes (System.init sched fun _ => .fifo) (waitsInVain 0) ∧
      ∃ s ∈ exec (step 3) (System.init sched fun _ => .fifo) (waitsInVain 0),
        (s.st.mutex ()).owner = some 1 := by
    decide +kernel
  obtain ⟨sched, hsched⟩ := Option.isSome_iff_exists.mp
    (show (exec Sched.step (SchedState.init (fun _ => 10) twoPriorities) twoThreads).isSome by
      decide +kernel)
  obtain ⟨hC, s, hs, howner⟩ := hrun sched hsched
  obtain ⟨-, hown, -⟩ := priorities_exact (booted_of_twoThreads hsched) _ 3 _ hC hs
  refine ⟨sched, s, hsched, hs, hown 0 fun m => ?_⟩
  rw [howner]
  decide

end Two

section Three

/-- The priorities of three threads, the last of which is the most urgent. -/
def threePriorities (t : Fin 3) : Fin 32 := ⟨20 - 5 * t.val, by omega⟩

def threeThreads (t u v : Fin 3) : List (Sched.Action (Fin 3)) :=
  [.startup t, .resume t .eok, .startup u, .resume u .eok, .startup v, .resume v .eok, .schedulerStart]

/-- The thread `u` waits in vain for the mutex `m`, and before it has given up, a more urgent thread waits for the
mutex `n` of `u`. -/
def boostedBefore (u : Fin 3) (m n : Fin 2) : List (Action (Fin 3) (Fin 2)) :=
  [.wait (.sem m) (-1) .uninterruptible, .wait (.sem n) (-1) .uninterruptible, .take m (-1) .uninterruptible,
    .dequeue (.sem n) .eok, .take n (-1) .uninterruptible, .take m 10 .uninterruptible, .resume, .resume, .resume,
    .timerExpires u, .dequeue (.sem m) .eok, .take n (-1) .uninterruptible, .resume, .resume, .resume, .resume,
    .resume, .resume, .release n, .resume, .resume, .release n, .wait (.sem m) (-1) .uninterruptible, .resume,
    .wait (.sem n) (-1) .uninterruptible, .release m]

/-- Then the owner of `m` keeps the priority of `u` when it owns no mutex any more. -/
theorem priority_kept :
    ∃ sched s, Booted sched ∧ exec (step 5) (System.init sched fun _ => .fifo) (boostedBefore 1 0 1) = some s ∧
      (∀ m, (s.st.mutex m).owner ≠ some (0 : Fin 3)) ∧ (s.st.kernel.look 0).initPriority = 20 ∧
      s.st.prio 0 = 15 := by
  have hboot : ∀ sched ∈ exec Sched.step (SchedState.init (fun _ => 10) threePriorities) (threeThreads 0 1 2),
      ∀ t, (sched.look t).ttmrSet = false ∧ (sched.look t).currentPriority = (sched.look t).initPriority := by
    decide +kernel
  have hrun : ∀ sched ∈ exec Sched.step (SchedState.init (fun _ => 10) threePriorities) (threeThreads 0 1 2),
      ∃ s ∈ exec (step 5) (System.init sched fun _ => .fifo) (boostedBefore 1 0 1),
        (∀ m, (s.st.mutex m).owner ≠ some 0) ∧ (s.st.kernel.look 0).initPriority = 20 ∧ s.st.prio 0 = 15 := by
    decide +kernel
  obtain ⟨sched, hsched⟩ := Option.isSome_iff_exists.mp
    (show (exec Sched.step (SchedState.init (fun _ => 10) threePriorities) (threeThreads 0 1 2)).isSome by
      decide +kernel)
  obtain ⟨s, hs, hres⟩ := hrun sched hsched
  have hbooted : Booted sched := ⟨exec_inv (fun _ _ _ => inv_step) _ _ _ (inv_init _ _) hsched,
    fun t => (hboot sched hsched t).1, fun t => (hboot sched hsched t).2⟩
  exact ⟨sched, s, hbooted, hs, hres⟩

end Three

end N32L43x.Mutex
