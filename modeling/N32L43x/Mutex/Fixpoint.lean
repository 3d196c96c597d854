import N32L43x.Mutex.Settle

/-!
Priority inheritance over whole runs in which no wait times out.
-/

namespace N32L43x.Mutex

open N32L43x.Sched N32L43x.Ipc N32L43x.Lib.Run

variable {Tid Oid : Type}

/-- No call but those of `rt_mutex_take` and `rt_mutex_release`, waits for other objects, and the scheduler;
and no wait for a mutex times out. -/
def Plain (s : System Tid Oid) : Action Tid Oid → Prop
  | .timerExpires t => s.st.pendingObject t = none
  | .setprioceiling .. | .detach _ | .exit | .changePriority .. => False
  | .take .. | .release _ | .resume | .yield | .tickIncrease | .wait .. | .dequeue .. => True

instance (s : System Tid Oid) (a : Action Tid Oid) [DecidableEq Oid] : Decidable (Plain s a) :=
  match a with
  | .timerExpires t => inferInstanceAs (Decidable (s.st.pendingObject t = none))
  | .setprioceiling .. | .detach _ | .exit | .changePriority .. => isFalse id
  | .take .. | .release _ | .resume | .yield | .tickIncrease | .wait .. | .dequeue .. => isTrue trivial

/-- Everything is settled, unless a thread is about to pass its priority on, and no threads wait for each other in
a circle. -/
structure Inherits [DecidableEq Tid] (s : System Tid Oid) : Prop extends Steady Set.univ s where
  acyclic : Acyclic s.st

section Steps

variable [DecidableEq Tid] {s s' : System Tid Oid} {fuel : ℕ} {a : Action Tid Oid}

lemma Plain.keeps [DecidableEq Oid] (h : Plain s a) : Keeps Set.univ s a where
  regular := by
    cases a <;> first | rfl | exact h.elim
  expires t ha m _ := by
    subst ha
    rw [show s.st.pendingObject t = none from h]
    nofun
  resume _ _ m _ hD := absurd (Set.mem_univ m) hD

lemma Inherits.step [DecidableEq Oid] (h : Inherits s) (hplain : Plain s a) (hacyclic : Acyclic s'.st)
    (hs : Mutex.step fuel s a = some s') : Inherits s' :=
  ⟨h.toSteady.step hplain.keeps hs, hacyclic⟩

lemma inherits_init {sched : SchedState Tid} (h : Booted sched) (flag : SuspList Oid → IpcFlag) :
    Inherits (System.init sched flag) := by
  refine ⟨steady_init h flag, fun t ht => ?_⟩
  obtain ⟨u, ⟨m, hm, -⟩, -⟩ := Relation.TransGen.head'_iff.mp ht
  exact List.not_mem_nil hm

/-- The owner of a mutex has the priority that its mutexes ask for already. -/
lemma Settled.waiterLeft_eq [DecidableEq Oid] {s : State Tid Oid} (h : Settled Set.univ s) (fuel : ℕ) (t : Tid)
    (m : Oid) : s.waiterLeft fuel t m = some (s.mutexUpdatePriority m) := by
  have hset := (h.samePriorities (Set.mem_univ m)).settled h
  unfold State.waiterLeft
  split
  · unfold State.refreshOwner
    split
    · rfl
    · rename_i owner _
      simp only
      rw [if_neg (not_not.mpr (hset.thread owner).symm)]
  · rfl

end Steps

/-! ### The fixpoint -/

/-- Priority inheritance is complete. -/
structure Fixpoint (s : State Tid Oid) : Prop where
  /-- a mutex has the priority of its first waiter, `0xff` if there is none -/
  mutex : ∀ m, (s.mutex m).priority = s.waitersPriority m
  sorted : ∀ m, (s.waiters m).Pairwise fun t u => s.prio t ≤ s.prio u
  /-- a thread has its own priority, or that of a mutex of its, whichever is the least -/
  thread : ∀ t, IsLeast {p : ℕ | p = (s.kernel.look t).initPriority.val ∨
    ∃ m ∈ s.takenObjectList t, p = (s.mutex m).priority} (s.prio t).val
  /-- and so that of the most urgent thread that waits for it, directly or not -/
  blocked : ∀ t, IsLeast {p | ∃ u, Relation.ReflTransGen (WaitsFor s) u t ∧
    p = (s.kernel.look u).initPriority} (s.prio t)

section Fixpoint

variable {s : State Tid Oid} {pc : Tid → Pc Oid} {t u : Tid}

lemma Settled.isLeast {D : Set Oid} (h : Settled D s) (hceil : ∀ m, (s.mutex m).ceilingPriority = 0xff) (t : Tid) :
    IsLeast {p : ℕ | p = (s.kernel.look t).initPriority.val ∨
      ∃ m ∈ s.takenObjectList t, p = (s.mutex m).priority} (s.prio t).val := by
  have hlt := (s.prio t).isLt
  obtain ⟨hinit, hall⟩ := (s.le_threadGetMutexPriority t (s.prio t).val).mp (by rw [h.thread t])
  constructor
  · by_contra hnot
    obtain ⟨hne, hnone⟩ := not_or.mp hnot
    have hgt : (s.prio t).val + 1 ≤ (s.threadGetMutexPriority t).val := by
      refine (s.le_threadGetMutexPriority t _).mpr ⟨by omega, fun m hm => ?_⟩
      have hle := (hall m hm).1
      have hne' : (s.prio t).val ≠ (s.mutex m).priority := fun heq => hnone ⟨m, hm, heq⟩
      rw [hceil]
      omega
    rw [← h.thread t] at hgt
    omega
  · rintro p (rfl | ⟨m, hm, rfl⟩)
    · exact hinit
    · exact (hall m hm).1

/-- A thread is at least as urgent as one that waits for it. -/
lemma Settled.prio_le (h : Settled Set.univ s) (ho : Owners s) (hw : WaitsFor s u t) : s.prio t ≤ s.prio u := by
  classical
  obtain ⟨m, hu, howner⟩ := hw
  have hle := ((s.le_threadGetMutexPriority t (s.prio t).val).mp (by rw [h.thread t])).2 m
    ((ho.own m t).mp howner)
  rw [h.mutex m (Set.mem_univ m), waitersPriority_eq, (h.sorted m).headPriority hu] at hle
  exact hle.1.trans (min_le_left _ _)

lemma Acyclic.wellFounded [Finite Tid] (h : Acyclic s) : WellFounded (WaitsFor s) := by
  have hirrefl : Std.Irrefl (Relation.TransGen (WaitsFor s)) := ⟨h⟩
  have hwf := Finite.wellFounded_of_trans_of_irrefl (Relation.TransGen (WaitsFor s))
  exact Subrelation.wf (fun hw => Relation.TransGen.single hw) hwf

/-- The priority of a thread comes from a thread that waits for it, directly or not. -/
lemma Settled.exists_init [Finite Tid] (h : Settled Set.univ s) (ho : Owners s) (hacyclic : Acyclic s)
    (hceil : ∀ m, (s.mutex m).ceilingPriority = 0xff) (t : Tid) :
    ∃ u, Relation.ReflTransGen (WaitsFor s) u t ∧ s.prio t = (s.kernel.look u).initPriority := by
  -- from the threads that nobody waits for
  induction t using hacyclic.wellFounded.induction with
  | _ t ih =>
    rcases (h.isLeast hceil t).1 with hown | ⟨m, hm, hprio⟩
    · exact ⟨t, .refl, Fin.ext hown⟩
    · have hlt := (s.prio t).isLt
      rw [h.mutex m (Set.mem_univ m), waitersPriority_eq] at hprio
      cases hlist : s.waiters m with
      | nil =>
        rw [hlist] at hprio
        change _ = 0xff at hprio
        omega
      | cons v rest =>
        rw [hlist] at hprio
        have hw : WaitsFor s v t := by
          refine ⟨m, ?_, (ho.own m t).mpr hm⟩
          rw [hlist]
          exact List.mem_cons_self
        obtain ⟨u, hu, hv⟩ := ih v hw
        exact ⟨u, hu.tail hw, (Fin.ext hprio).trans hv⟩

lemma Settled.fixpoint [Finite Tid] (h : Settled Set.univ s) (ho : Owners s) (hacyclic : Acyclic s)
    (hceil : ∀ m, (s.mutex m).ceilingPriority = 0xff) : Fixpoint s where
  mutex m := h.mutex m (Set.mem_univ m)
  sorted := h.sorted
  thread := h.isLeast hceil
  blocked t := by
    refine ⟨h.exists_init ho hacyclic hceil t, ?_⟩
    rintro p ⟨u, hu, rfl⟩
    have hchain : s.prio t ≤ s.prio u := by
      induction hu using Relation.ReflTransGen.head_induction_on with
      | refl => exact le_rfl
      | head hw _ ih => exact ih.trans (h.prio_le ho hw)
    exact hchain.trans ((h.isLeast hceil u).2 (.inl rfl))

/-- Threads that wait for each other in the order of some numbers do not do so in a circle. -/
lemma acyclic_of_lt (rank : Tid → ℕ) (h : ∀ t u, WaitsFor s t u → rank t < rank u) :
    Acyclic s := by
  intro t ht
  have hlt : ∀ {u}, Relation.TransGen (WaitsFor s) t u → rank t < rank u := by
    intro u hu
    induction hu with
    | single hw => exact h _ _ hw
    | tail _ hw ih => exact ih.trans (h _ _ hw)
  exact absurd (hlt ht) (lt_irrefl _)

end Fixpoint

/-! ### Runs -/

section Runs

variable [DecidableEq Tid] [DecidableEq Oid] {fuel : ℕ} {s : System Tid Oid} {t : Tid}

/-- The step is one of those, and no threads wait for each other in a circle after it. -/
def Orderly (fuel : ℕ) (s : System Tid Oid) (a : Action Tid Oid) : Prop :=
  Plain s a ∧ ∀ s' ∈ step fuel s a, Acyclic s'.st

/-- A thread in a call can go on. -/
lemma Inherits.resume_isSome [Finite Tid] (h : Inherits s) (hfuel : Nat.card Tid < fuel)
    (hr : s.running = some t) (hpc : s.pc t ≠ .run) : (Mutex.step fuel s .resume).isSome := by
  simp only [Mutex.step, hr, Option.bind_some]
  unfold resume
  cases hx : s.pc t with
  | run => exact absurd hx hpc
  | queued m timeout =>
    have hent := h.entering t m (by rw [hx]; rfl)
    rw [Option.isSome_map]
    exact hent.takeBoost_isSome h.core h.acyclic hfuel
  | woken m =>
    have hset := h.settled (h.core.threads.entering_eq_none (running_eq_some hr).1 (by rw [hx]; rfl))
    have hset' := (SamePriorities.of_idle (Idle.lock h.core.threads.inv)).settled hset
    rw [Option.isSome_map]
    unfold State.takeFinish
    simp only [hset'.waiterLeft_eq]
    split <;> rfl
  | _ => rfl

/-- And a thread can call `rt_mutex_take`. -/
lemma takeEnter_isSome {st : State Tid Oid} {m : Oid} (hceil : (st.mutex m).ceilingPriority = 0xff)
    (timeout : ℤ) (suspendFlag : SuspendFlag) : (st.takeEnter fuel t m timeout suspendFlag).isSome := by
  unfold State.takeEnter
  simp only
  split
  · split <;> rfl
  · split
    · rw [Option.isSome_map, if_neg fun hlow => hlow.1 hceil]
      rfl
    · split
      · rfl
      · split <;> rfl

/-- In every run without timeouts, ceilings, changed priorities and deletions in which no threads ever wait for
each other in a circle, priority inheritance is complete in every state outside a critical section; and the
loop of `_thread_update_priority` ends in every call. -/
theorem inheritance_fixpoint [Finite Tid] {sched : SchedState Tid} (hb : Booted sched)
    (flag : SuspList Oid → IpcFlag) (fuel : ℕ) (as : List (Action Tid Oid))
    (hC : Along (step fuel) (Orderly fuel) (System.init sched flag) as)
    (hrun : exec (step fuel) (System.init sched flag) as = some s) :
    ((∀ t, (s.pc t).locked = false) → Fixpoint s.st) ∧
    (Nat.card Tid < fuel →
      (∀ t, s.running = some t → s.pc t ≠ .run → (step fuel s .resume).isSome) ∧
      ∀ t m timeout suspendFlag, s.caller = some t → (step fuel s (.take m timeout suspendFlag)).isSome) := by
  have h : Inherits s := exec_inv_of_along (C := Orderly fuel)
    (fun _ _ s' h hC hs => h.step hC.1 (hC.2 s' hs) hs) as _ s (inherits_init hb flag) hC hrun
  refine ⟨fun hn => ?_, fun hfuel => ⟨fun t hr hpc => h.resume_isSome hfuel hr hpc,
    fun t m timeout suspendFlag hcall => ?_⟩⟩
  · exact (h.settled fun t => Pc.entering_eq_none (hn t)).fixpoint h.core.owners h.acyclic h.ceiling
  · simp only [step, hcall, Option.bind_some, Option.isSome_map]
    exact takeEnter_isSome (h.ceiling m) timeout suspendFlag

end Runs

section Two

/-- The second thread takes the mutex while the first one waits for a semaphore, which then waits for the
mutex too. -/
def inheritsFrom : List (Action (Fin 2) Unit) :=
  [.wait (.sem ()) (-1) .uninterruptible, .take () (-1) .uninterruptible, .dequeue (.sem ()) .eok,
    .take () (-1) .uninterruptible, .resume, .resume, .resume]

/-- The step is a plain one, and only the first thread ever waits for the second. -/
def InOrder (s : System (Fin 2) Unit) (a : Action (Fin 2) Unit) : Prop :=
  Plain s a ∧ ∀ s' ∈ step 3 s a, ∀ t u, t ∈ s'.st.waiters () → (s'.st.mutex ()).owner = some u → t < u

instance (s : System (Fin 2) Unit) (a : Action (Fin 2) Unit) : Decidable (InOrder s a) :=
  inferInstanceAs (Decidable (_ ∧ _))

lemma InOrder.orderly {s : System (Fin 2) Unit} {a : Action (Fin 2) Unit} (h : InOrder s a) :
    Orderly 3 s a := by
  refine ⟨h.1, fun s' hs' => acyclic_of_lt Fin.val ?_⟩
  rintro t u ⟨_, ht, hu⟩
  exact h.2 s' hs' t u ht hu

theorem inheritance_fixpoint_inheritsFrom :
    ∃ sched s, exec Sched.step (SchedState.init (fun _ => 10) twoPriorities) twoThreads = some sched ∧
      exec (step 3) (System.init sched fun _ => .fifo) inheritsFrom = some s ∧ s.st.prio (1 : Fin 2) = 5 ∧
      Fixpoint s.st := by
  have hrun : ∀ sched ∈ exec Sched.step (SchedState.init (fun _ => 10) twoPriorities) twoThreads,
      Along (step 3) InOrder (System.init sched fun _ => .fifo) inheritsFrom ∧
      ∃ s ∈ exec (step 3) (System.init sched fun _ => .fifo) inheritsFrom,
        (∀ t, (s.pc t).locked = false) ∧ s.st.prio 1 = 5 := by
    decide +kernel
  obtain ⟨sched, hsched⟩ := Option.isSome_iff_exists.mp
    (show (exec Sched.step (SchedState.init (fun _ => 10) twoPriorities) twoThreads).isSome by
      decide +kernel)
  obtain ⟨hC, s, hs, hlocked, hprio⟩ := hrun sched hsched
  obtain ⟨hfix, -⟩ := inheritance_fixpoint (booted_of_twoThreads hsched) _ 3 _ (hC.imp fun _ _ h => h.orderly) hs
  exact ⟨sched, s, hsched, hs, hprio, hfix hlocked⟩

end Two

end N32L43x.Mutex
