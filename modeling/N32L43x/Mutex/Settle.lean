import N32L43x.Mutex.Inherit

/-!
What the calls do to the priorities.  Each of them leaves every thread with the priority that its mutexes ask
for, but for one: a wait that has timed out refreshes the owner of the mutex only if that has the priority
of the thread that waited.
-/

namespace N32L43x.Mutex

open N32L43x.Sched N32L43x.Ipc N32L43x.Lib.Run

variable {Tid Oid : Type}

section Calls

variable {D : Set Oid} {s s' : State Tid Oid} {pc : Tid → Pc Oid} {t u : Tid} {m : Oid} {fuel : ℕ}

lemma SamePriorities.entering [DecidableEq Tid] (h : SamePriorities s s') (hs : Entering D s t m) :
    Entering D s' t m where
  listed := by
    rw [h.waiters]
    exact hs.listed
  mutex m' hD hm := by
    rw [h.priority, h.waitersPriority]
    exact hs.mutex m' hD hm
  before hD := by
    rw [h.priority, h.waiters, hs.before hD]
    unfold headPriority
    split
    · rfl
    · rw [h.prio]
  sorted m' := by
    rw [h.waiters]
    exact (hs.sorted m').congr fun u _ => congrFun h.prio u
  thread u := by
    rw [h.prio, h.threadGetMutexPriority]
    exact hs.thread u

/-- Threads have left lists, but none of those of the mutexes in `D`. -/
structure Leaves (D : Set Oid) (s s' : State Tid Oid) : Prop where
  prio : s'.prio = s.prio
  init : ∀ t, (s'.kernel.look t).initPriority = (s.kernel.look t).initPriority
  mutex : s'.mutex = s.mutex
  taken : s'.takenObjectList = s.takenObjectList
  waiters : ∀ m ∈ D, s'.waiters m = s.waiters m
  sublist : ∀ m, (s'.waiters m).Sublist (s.waiters m)

namespace Leaves

lemma trans_idle {s₁ : State Tid Oid} (h : Leaves D s s₁) (hi : Idle s₁ s') : Leaves D s s' where
  prio := hi.prio.trans h.prio
  init t := by rw [hi.look, h.init]
  mutex := hi.mutex.trans h.mutex
  taken := hi.takenObjectList.trans h.taken
  waiters m hD := by rw [hi.waiters, h.waiters m hD]
  sublist m := by
    rw [hi.waiters]
    exact h.sublist m

lemma sorted (h : Leaves D s s') (hs : Sorted s (s.waiters m)) : Sorted s' (s'.waiters m) :=
  Sorted.congr (hs.sublist (h.sublist m)) fun u _ => congrFun h.prio u

lemma mutex_eq (h : Leaves D s s') (hD : m ∈ D) (hs : (s.mutex m).priority = s.waitersPriority m) :
    (s'.mutex m).priority = s'.waitersPriority m := by
  rw [h.mutex, waitersPriority_congr (h.waiters m hD) fun u _ => congrFun h.prio u]
  exact hs

lemma thread (h : Leaves D s s') (hs : s.prio t = s.threadGetMutexPriority t) :
    s'.prio t = s'.threadGetMutexPriority t := by
  rw [h.prio, threadGetMutexPriority_congr (h.init t) (congrFun h.taken t) fun m _ => by rw [h.mutex]; exact ⟨rfl, rfl⟩]
  exact hs

lemma settled (h : Leaves D s s') (hs : Settled D s) : Settled D s' where
  mutex m hD := h.mutex_eq hD (hs.mutex m hD)
  sorted m := h.sorted (hs.sorted m)
  thread t := h.thread (hs.thread t)

lemma entering [DecidableEq Tid] (h : Leaves D s s') (hs : Entering D s t m) (hlisted : t ∈ s'.waiters m) :
    Entering D s' t m where
  listed := hlisted
  mutex m' hD hm := h.mutex_eq hD (hs.mutex m' hD hm)
  before hD := by
    rw [h.mutex, h.waiters m hD, hs.before hD]
    unfold headPriority
    split
    · rfl
    · rw [h.prio]
  sorted m' := h.sorted (hs.sorted m')
  thread u := h.thread (hs.thread u)

/-- A thread that waits for no mutex in `D` leaves the list it is in. -/
lemma of_look [DecidableEq Tid] {kernel : Kernel Tid Oid} {x : Look} (hc : Core s pc)
    (hpend : ∀ m ∈ D, s.pendingObject t ≠ some m) (hlook : kernel.look = Function.update s.kernel.look t x)
    (hx : x.currentPriority = (s.kernel.look t).currentPriority)
    (hinit : x.initPriority = (s.kernel.look t).initPriority)
    (hlist : kernel.suspendThread = fun l => (s.kernel.suspendThread l).filter (· ≠ t)) :
    Leaves D s { s with kernel := kernel } := by
  have hwaiters : ∀ m, State.waiters { s with kernel := kernel } m = (s.waiters m).filter (· ≠ t) := by
    intro m
    change kernel.suspendThread (.mutex m) = _
    rw [hlist]
    rfl
  refine ⟨?_, fun u => ?_, rfl, rfl, fun m hD => ?_, fun m => ?_⟩
  · funext u
    change (kernel.look u).currentPriority = (s.kernel.look u).currentPriority
    rw [hlook]
    by_cases hu : u = t
    · rw [hu, Function.update_self, hx]
    · rw [Function.update_of_ne hu]
  · change (kernel.look u).initPriority = _
    rw [hlook]
    by_cases hu : u = t
    · rw [hu, Function.update_self, hinit]
    · rw [Function.update_of_ne hu]
  · rw [hwaiters]
    refine List.filter_eq_self.mpr fun u hu => decide_eq_true ?_
    rintro rfl
    exact hpend m hD ((hc.threads.ok u).mutex m hu)
  · rw [hwaiters]
    exact List.filter_sublist

end Leaves

/-- The threads that do not own the mutex `m` are asked for what they were. -/
lemma Settled.thread_of_ne (h : Settled D s)
    (hinit : (s'.kernel.look u).initPriority = (s.kernel.look u).initPriority)
    (hmutex : ∀ m', m' ≠ m → (s'.mutex m').priority = (s.mutex m').priority ∧
      (s'.mutex m').ceilingPriority = (s.mutex m').ceilingPriority)
    (htaken : s'.takenObjectList u = s.takenObjectList u) (hout : m ∉ s.takenObjectList u)
    (hprio : s'.prio u = s.prio u) : s'.prio u = s'.threadGetMutexPriority u := by
  have hask : s'.threadGetMutexPriority u = s.threadGetMutexPriority u := by
    refine threadGetMutexPriority_congr hinit htaken fun m' hm' => hmutex m' ?_
    rintro rfl
    exact hout hm'
  rw [hprio, hask]
  exact h.thread u

/-- A thread takes a mutex that asks it for no more than its priority. -/
lemma Settled.thread_of_take (h : Settled D s)
    (hinit : (s'.kernel.look t).initPriority = (s.kernel.look t).initPriority)
    (hmutex : ∀ m', m' ≠ m → (s'.mutex m').priority = (s.mutex m').priority ∧
      (s'.mutex m').ceilingPriority = (s.mutex m').ceilingPriority)
    (htaken : s'.takenObjectList t = m :: s.takenObjectList t) (hout : m ∉ s.takenObjectList t)
    (hask : (s.prio t).val ≤ (s'.mutex m).priority) (hceil : (s'.mutex m).ceilingPriority = 0xff)
    (hprio : s'.prio t = s.prio t) : s'.prio t = s'.threadGetMutexPriority t := by
  have hlt := (s.prio t).isLt
  have hthread := h.thread t
  have hsame : ∀ n, (∀ m' ∈ s.takenObjectList t, n ≤ (s'.mutex m').priority ∧
      n ≤ (s'.mutex m').ceilingPriority) ↔ ∀ m' ∈ s.takenObjectList t, n ≤ (s.mutex m').priority ∧
      n ≤ (s.mutex m').ceilingPriority := by
    intro n
    refine forall₂_congr fun m' hm' => ?_
    have hne : m' ≠ m := by
      rintro rfl
      exact hout hm'
    rw [(hmutex m' hne).1, (hmutex m' hne).2]
  rw [hprio, hthread]
  refine Fin.ext (eq_of_le_iff fun n => ?_)
  rw [State.le_threadGetMutexPriority s', hinit, htaken, List.forall_mem_cons, hceil, hsame]
  constructor
  · intro hn
    have hle : n ≤ (s.prio t).val := by rwa [hthread]
    obtain ⟨hn₁, hn₂⟩ := (s.le_threadGetMutexPriority t n).mp hn
    exact ⟨hn₁, ⟨by omega, by omega⟩, hn₂⟩
  · rintro ⟨hn₁, -, hn₂⟩
    exact (s.le_threadGetMutexPriority t n).mpr ⟨hn₁, hn₂⟩

variable [DecidableEq Oid]

lemma samePriorities_setHold (s : State Tid Oid) (m : Oid) (hold : ℕ) :
    SamePriorities s (s.setMutex m { s.mutex m with hold := hold }) := by
  refine .of_mutex rfl (fun m' => ?_) rfl
  unfold State.setMutex
  by_cases hm : m' = m
  · subst hm
    simp only [Function.update_self, and_self]
  · simp only [Function.update_of_ne hm, and_self]

variable [DecidableEq Tid]

/-- The uncontended take. -/
lemma Settled.fresh (h : Settled D s) (hc : Core s pc) (hfree : (s.mutex m).owner = none)
    (hceil : (s.mutex m).ceilingPriority = 0xff) :
    Settled D { s.setMutex m { s.mutex m with owner := some t, priority := 0xff, hold := 1 } with
      takenObjectList := Function.update s.takenObjectList t (m :: s.takenObjectList t) } := by
  have hnone : s.waiters m = [] := List.eq_nil_iff_forall_not_mem.mpr fun u => hc.owners.free m u hfree
  have hout : ∀ u, m ∉ s.takenObjectList u := by
    intro u hu
    rw [← hc.owners.own, hfree] at hu
    cases hu
  generalize hs' : { s.setMutex m { s.mutex m with owner := some t, priority := 0xff, hold := 1 } with
    takenObjectList := Function.update s.takenObjectList t (m :: s.takenObjectList t) } = s'
  have hat : s'.mutex m = { s.mutex m with owner := some t, priority := 0xff, hold := 1 } := by
    rw [← hs']
    exact Function.update_self ..
  have hother : ∀ m', m' ≠ m → s'.mutex m' = s.mutex m' := by
    intro m' hm
    rw [← hs']
    exact Function.update_of_ne hm ..
  have hkernel : s'.kernel = s.kernel := by
    rw [← hs']
    rfl
  have hprio : s'.prio = s.prio := by
    unfold State.prio
    rw [hkernel]
  have hwaiters : s'.waiters = s.waiters := by
    unfold State.waiters
    rw [hkernel]
  have htaken : s'.takenObjectList = Function.update s.takenObjectList t (m :: s.takenObjectList t) := by
    rw [← hs']
  refine ⟨fun m' hD => ?_, fun m' => ?_, fun u => ?_⟩
  · rw [waitersPriority_congr (congrFun hwaiters m') fun u _ => congrFun hprio u]
    by_cases hm : m' = m
    · subst hm
      rw [hat, waitersPriority_eq, hnone]
      rfl
    · rw [hother m' hm]
      exact h.mutex m' hD
  · rw [hwaiters]
    exact (h.sorted m').congr fun u _ => congrFun hprio u
  · have hsame : ∀ m', m' ≠ m → (s'.mutex m').priority = (s.mutex m').priority ∧
        (s'.mutex m').ceilingPriority = (s.mutex m').ceilingPriority := by
      intro m' hm
      rw [hother m' hm]
      exact ⟨rfl, rfl⟩
    by_cases hu : u = t
    · subst hu
      refine h.thread_of_take (by rw [hkernel]) hsame (by rw [htaken, Function.update_self]) (hout u) ?_ ?_
        (congrFun hprio u)
      · rw [hat]
        exact (s.prio u).isLt.le.trans (show 32 ≤ 0xff by decide)
      · rw [hat]
        exact hceil
    · exact h.thread_of_ne (by rw [hkernel]) hsame (by rw [htaken, Function.update_of_ne hu]) (hout u)
        (congrFun hprio u)

/-- The thread is put in the list of the mutex. -/
lemma Settled.queued {kernel : Kernel Tid Oid} (h : Settled D s) (hout : ∀ m, t ∉ s.waiters m)
    (hsus : s.kernel.Suspends kernel t (.mutex m) .prio) :
    Entering D { s with kernel := kernel, pendingObject := Function.update s.pendingObject t (some m) } t m := by
  generalize hs' : ({ s with
    kernel := kernel, pendingObject := Function.update s.pendingObject t (some m) } : State Tid Oid) = s'
  have hprio : s'.prio = s.prio := by
    rw [← hs']
    funext u
    change (kernel.look u).currentPriority = (s.kernel.look u).currentPriority
    rw [hsus.look]
    by_cases hu : u = t
    · rw [hu, Function.update_self]
    · rw [Function.update_of_ne hu]
  have hinit : ∀ u, (s'.kernel.look u).initPriority = (s.kernel.look u).initPriority := by
    intro u
    rw [← hs']
    change (kernel.look u).initPriority = _
    rw [hsus.look]
    by_cases hu : u = t
    · rw [hu, Function.update_self]
    · rw [Function.update_of_ne hu]
  have hmutex : s'.mutex = s.mutex := by rw [← hs']
  have htaken : s'.takenObjectList = s.takenObjectList := by rw [← hs']
  have hat : s'.waiters m =
      (s.waiters m).orderedInsert (fun t sthread => s.prio t < s.prio sthread) t := by
    rw [← hs']
    change kernel.suspendThread (.mutex m) = _
    rw [hsus.suspendThread, Function.update_self]
    rfl
  have hother : ∀ m', m' ≠ m → s'.waiters m' = s.waiters m' := by
    intro m' hm
    rw [← hs']
    change kernel.suspendThread (.mutex m') = _
    rw [hsus.suspendThread, Function.update_of_ne (by simpa using hm)]
    rfl
  have hsorted : ∀ m', Sorted s (s'.waiters m') := by
    intro m'
    by_cases hm : m' = m
    · rw [hm, hat]
      exact sorted_orderedInsert (h.sorted m) t
    · rw [hother m' hm]
      exact h.sorted m'
  refine ⟨?_, fun m' hD hm => ?_, fun hD => ?_, fun m' => ?_, fun u => ?_⟩
  · rw [hat]
    exact (List.mem_orderedInsert _).mpr (.inl rfl)
  · rw [hmutex, waitersPriority_congr (hother m' hm) fun u _ => congrFun hprio u]
    exact h.mutex m' hD
  · rw [hat, filter_orderedInsert (hout m), hmutex, h.mutex m hD, waitersPriority_eq]
    unfold headPriority
    split
    · rfl
    · rw [hprio]
  · exact (hsorted m').congr fun u _ => congrFun hprio u
  · have hask : s'.threadGetMutexPriority u = s.threadGetMutexPriority u :=
      threadGetMutexPriority_congr (hinit u) (by rw [htaken]) fun m' _ => by rw [hmutex]; exact ⟨rfl, rfl⟩
    rw [hprio, hask]
    exact h.thread u

/-- The owner gives the mutex up, and goes back to the priority that the others ask for. -/
lemma Settled.givenUp (h : Settled D s) (hc : Core s pc) (howner : (s.mutex m).owner = some t)
    (hout : ∀ m, t ∉ s.waiters m) (hceil : (s.mutex m).ceilingPriority = 0xff) :
    Settled D (s.givenUp t m) := by
  have hmutex : ∀ m', ((s.dropped m).mutex m').priority = (s.mutex m').priority ∧
      ((s.dropped m).mutex m').ceilingPriority = (s.mutex m').ceilingPriority := by
    intro m'
    unfold State.dropped State.setMutex
    by_cases hm : m' = m
    · subst hm
      simp only [Function.update_self, and_self]
    · simp only [Function.update_of_ne hm, and_self]
  have hpriority : ∀ m' ∈ D, ((s.dropped m).mutex m').priority = (s.dropped m).waitersPriority m' :=
    fun m' hD => (hmutex m').1.trans (h.mutex m' hD)
  have hmem : ∀ u m', m' ∈ (s.dropped m).takenObjectList u ↔ m' ≠ m ∧ m' ∈ s.takenObjectList u := by
    intro u m'
    change m' ∈ (s.takenObjectList u).filter (· ≠ m) ↔ _
    rw [List.mem_filter, and_comm, decide_eq_true_iff]
  have hthread : ∀ u, u ≠ t → (s.dropped m).prio u = (s.dropped m).threadGetMutexPriority u := by
    intro u hu
    have hnot : m ∉ s.takenObjectList u := by
      intro hm
      have hown := (hc.owners.own m u).mpr hm
      exact hu (Option.some.inj (howner.symm.trans hown)).symm
    refine h.thread_of_ne (m := m) rfl (fun m' _ => hmutex m') ?_ hnot rfl
    refine List.filter_eq_self.mpr fun m' hm' => decide_eq_true ?_
    rintro rfl
    exact hnot hm'
  unfold State.givenUp State.checkAndUpdatePrio
  simp only
  split
  · exact (unsettled_changePriority hpriority h.sorted hthread rfl).settled hout
  · rename_i hnot
    obtain ⟨-, hne⟩ := not_or.mp hnot
    rw [(hmutex m).1] at hne
    refine ⟨hpriority, h.sorted, fun u => ?_⟩
    by_cases hu : u = t
    · subst hu
      have hne' : (s.prio u).val ≠ (s.mutex m).priority := hne
      have hlt := (s.prio u).isLt
      have hall := (s.le_threadGetMutexPriority u (s.prio u).val).mp (by rw [h.thread u])
      have hle := hall.2 m ((hc.owners.own m u).mp howner)
      change s.prio u = _
      refine Fin.ext (eq_of_le_iff fun n => ?_)
      rw [State.le_threadGetMutexPriority]
      constructor
      · intro hn
        refine ⟨hn.trans hall.1, fun m' hm' => ?_⟩
        have hle' := hall.2 m' ((hmem u m').mp hm').2
        rw [(hmutex m').1, (hmutex m').2]
        exact ⟨hn.trans hle'.1, hn.trans hle'.2⟩
      · rintro ⟨hinit, hrest⟩
        -- the others ask for less than the mutex did
        by_contra hgt
        have hmin : min n (s.mutex m).priority ≤ (s.prio u).val := by
          rw [h.thread u]
          refine (s.le_threadGetMutexPriority u _).mpr ⟨(min_le_left _ _).trans hinit, fun m' hm' => ?_⟩
          by_cases hm : m' = m
          · have hinit' : n ≤ ((s.kernel.look u).initPriority).val := hinit
            have hinit'' := ((s.kernel.look u).initPriority).isLt
            rw [hm, hceil]
            omega
          · have hn := hrest m' ((hmem u m').mpr ⟨hm, hm'⟩)
            rw [(hmutex m').1, (hmutex m').2] at hn
            omega
        omega
    · exact hthread u hu

omit [DecidableEq Tid] in
/-- Nobody waits for the mutex, and it becomes free. -/
lemma Settled.free (h : Settled D s) (hout : ∀ u, m ∉ s.takenObjectList u) (hnone : s.waiters m = []) :
    Settled D (s.setMutex m { s.mutex m with owner := none, priority := 0xff }) := by
  have hother : ∀ m', m' ≠ m →
      (s.setMutex m { s.mutex m with owner := none, priority := 0xff }).mutex m' = s.mutex m' := fun m' hm =>
    Function.update_of_ne hm ..
  refine ⟨fun m' hD => ?_, h.sorted, fun u => ?_⟩
  · change _ = s.waitersPriority m'
    by_cases hm : m' = m
    · subst hm
      rw [waitersPriority_eq, hnone]
      exact congrArg RtMutex.priority (Function.update_self m' _ s.mutex)
    · rw [hother m' hm]
      exact h.mutex m' hD
  · refine h.thread_of_ne (m := m) rfl (fun m' hm => ?_) rfl (hout u) rfl
    rw [hother m' hm]
    exact ⟨rfl, rfl⟩

/-- The first waiter gets the mutex.  The others are no more urgent, so its priority stays. -/
lemma Settled.handed {kernel : Kernel Tid Oid} {next : Tid} {rest : List Tid} (h : Settled D s)
    (hplaced : ∀ m', m' ≠ m → next ∉ s.waiters m') (hout : ∀ u, m ∉ s.takenObjectList u)
    (hceil : (s.mutex m).ceilingPriority = 0xff) (hlist : s.waiters m = next :: rest)
    (hready : s.kernel.Readies kernel next) : Settled D (s.handed kernel m next) := by
  generalize hs' : s.handed kernel m next = s'
  have hkernel : s'.kernel = kernel := by
    rw [← hs']
    rfl
  have hlook : ∀ u, (s'.kernel.look u).currentPriority = (s.kernel.look u).currentPriority ∧
      (s'.kernel.look u).initPriority = (s.kernel.look u).initPriority := by
    intro u
    rw [hkernel, hready.look]
    by_cases hu : u = next
    · rw [hu, Function.update_self]
      exact ⟨rfl, rfl⟩
    · rw [Function.update_of_ne hu]
      exact ⟨rfl, rfl⟩
  have hprio : s'.prio = s.prio := funext fun u => (hlook u).1
  have hwaiters : ∀ m', s'.waiters m' = (s.waiters m').filter (· ≠ next) := by
    intro m'
    unfold State.waiters
    rw [hkernel, hready.suspendThread]
  have hother : ∀ m', m' ≠ m → s'.mutex m' = s.mutex m' := by
    intro m' hm
    rw [← hs']
    unfold State.handed State.mutexUpdatePriority State.setMutex
    simp only [Function.update_of_ne hm]
  have hat : (s'.mutex m).priority = s'.waitersPriority m ∧ (s'.mutex m).ceilingPriority = 0xff := by
    rw [← hs']
    unfold State.handed State.mutexUpdatePriority State.setMutex
    simp only [Function.update_self]
    exact ⟨rfl, hceil⟩
  have htaken : s'.takenObjectList = Function.update s.takenObjectList next (m :: s.takenObjectList next) := by
    rw [← hs']
    rfl
  have hsorted : ∀ m', Sorted s' (s'.waiters m') := by
    intro m'
    rw [hwaiters]
    exact Sorted.congr (s := s) ((h.sorted m').sublist List.filter_sublist) fun u _ => congrFun hprio u
  have hsame : ∀ m', m' ≠ m → (s'.mutex m').priority = (s.mutex m').priority ∧
      (s'.mutex m').ceilingPriority = (s.mutex m').ceilingPriority := by
    intro m' hm
    rw [hother m' hm]
    exact ⟨rfl, rfl⟩
  refine ⟨fun m' hD => ?_, hsorted, fun u => ?_⟩
  · by_cases hm : m' = m
    · rw [hm]
      exact hat.1
    · have hfilter : s'.waiters m' = s.waiters m' := by
        rw [hwaiters]
        refine List.filter_eq_self.mpr fun u hu => decide_eq_true ?_
        rintro rfl
        exact hplaced m' hm hu
      rw [hother m' hm, waitersPriority_congr hfilter fun u _ => congrFun hprio u]
      exact h.mutex m' hD
  · by_cases hu : u = next
    · subst hu
      refine h.thread_of_take (hlook u).2 hsame (by rw [htaken, Function.update_self]) (hout u) ?_ hat.2
        (congrFun hprio u)
      have hmin := (h.sorted m).headPriority (t := u) (by rw [hlist]; exact List.mem_cons_self)
      rw [hlist] at hmin
      change (s.prio u).val = _ at hmin
      rw [hat.1, waitersPriority_eq, hwaiters, hlist]
      have heq : headPriority s' (List.filter (· ≠ u) (u :: rest)) =
          headPriority s (List.filter (· ≠ u) (u :: rest)) := by
        unfold headPriority
        split
        · rfl
        · rw [hprio]
      rw [heq]
      omega
    · exact h.thread_of_ne (hlook u).2 hsame (by rw [htaken, Function.update_of_ne hu]) (hout u)
        (congrFun hprio u)

/-- **`rt_mutex_release`** leaves everything settled. -/
lemma Settled.release (h : Settled D s) (hc : Core s pc) (hn : Core.Nobody pc)
    (hlive : (s.kernel.look t).life = .live) (hceil : ∀ m, (s.mutex m).ceilingPriority = 0xff)
    (hr : State.Release s t m s') : Settled D s' := by
  cases hr with
  | refused _ _ hi => exact (SamePriorities.of_idle hi).settled h
  | less s₁ _ _ _ h₁ h₂ =>
    exact (((SamePriorities.of_idle h₁).trans (samePriorities_setHold s₁ m _)).trans
      (.of_idle h₂)).settled h
  | last s₁ s₂ _ howner _ h₁ hover h₂ =>
    have hs₁ := SamePriorities.of_idle h₁
    have hc₁ := hc.of_idle hn h₁
    have hr := State.reprio_givenUp s₁ t m
    have hceil₁ : (s₁.mutex m).ceilingPriority = 0xff := (hs₁.ceiling m).trans (hceil m)
    have hout : ∀ m', t ∉ s₁.waiters m' := by
      intro m'
      rw [h₁.waiters]
      exact hc.not_listed_of_live hlive (.mutex m')
    have hgiven := (hs₁.settled h).givenUp hc₁ (by rw [h₁.mutex]; exact howner) hout hceil₁
    have hdrop : ∀ u, m ∉ (s₁.givenUp t m).takenObjectList u := by
      intro u
      rw [hr.takenObjectList]
      unfold State.dropped
      simp
    have hceil₂ : ((s₁.givenUp t m).mutex m).ceilingPriority = 0xff := by
      rw [hr.ceilingPriority]
      unfold State.dropped State.setMutex
      simp only [Function.update_self]
      exact hceil₁
    refine (SamePriorities.of_idle h₂).settled ?_
    cases hover with
    | free hlist => exact hgiven.free hdrop hlist
    | next kernel next rest hlist hready =>
      have hwaiters : (s₁.givenUp t m).waiters = s₁.waiters :=
        funext fun m' => congrFun (State.givenUp_suspendThread s₁ t m) (.mutex m')
      refine hgiven.handed (fun m' hm hmem => ?_) hdrop hceil₂ hlist hready
      rw [hwaiters] at hlist hmem
      have hnext : next ∈ s₁.waiters m := by
        rw [hlist]
        exact List.mem_cons_self
      have hpend : s₁.pendingObject next = some m := (hc₁.threads.ok next).mutex m hnext
      have hpend' : s₁.pendingObject next = some m' := (hc₁.threads.ok next).mutex m' hmem
      rw [hpend] at hpend'
      exact hm (Option.some.inj hpend').symm

/-! ### The end of a wait that has timed out -/

/-- When a waiter has left, the owner of the mutex has the priority of the waiter, or the one that its mutexes
ask for. -/
def OwnerRight (s : State Tid Oid) (t : Tid) (m : Oid) : Prop :=
  s.needUpdate t m = true ∨ ∀ o ∈ (s.mutex m).owner,
    (s.mutexUpdatePriority m).threadGetMutexPriority o = s.prio o

instance (s : State Tid Oid) (t : Tid) (m : Oid) : Decidable (OwnerRight s t m) :=
  inferInstanceAs (Decidable (_ ∨ _))

lemma OwnerRight.of_idle (h : OwnerRight s t m) (hi : Idle s s') : OwnerRight s' t m := by
  have hmutex : (s'.mutexUpdatePriority m).mutex = (s.mutexUpdatePriority m).mutex := by
    unfold State.mutexUpdatePriority State.setMutex
    rw [hi.mutex, (SamePriorities.of_idle hi).waitersPriority]
  refine h.imp (fun hneed => ?_) fun hask o ho => ?_
  · unfold State.needUpdate at hneed ⊢
    rw [hi.mutex, hi.prio]
    exact hneed
  · rw [hi.mutex] at ho
    rw [hi.prio, ← hask o ho]
    refine threadGetMutexPriority_congr ?_ ?_ fun m' _ => ?_
    · change (s'.kernel.look o).initPriority = (s.kernel.look o).initPriority
      rw [hi.look]
    · exact congrFun hi.takenObjectList o
    · rw [hmutex]
      exact ⟨rfl, rfl⟩

omit [DecidableEq Tid] in
/-- The mutex has the priority of its first waiter already. -/
lemma Settled.samePriorities (h : Settled D s) (hD : m ∈ D) : SamePriorities s (s.mutexUpdatePriority m) := by
  refine .of_mutex rfl (fun m' => ?_) rfl
  unfold State.mutexUpdatePriority State.setMutex
  by_cases hm : m' = m
  · subst hm
    simp only [Function.update_self, h.mutex m' hD, and_self]
  · simp only [Function.update_of_ne hm, and_self]

omit [DecidableEq Tid] in
lemma Settled.ownerRight (h : Settled D s) (hD : m ∈ D) (t : Tid) : OwnerRight s t m := by
  right
  intro o _
  rw [(h.samePriorities hD).threadGetMutexPriority, h.thread o]

/-- **The mutex is refreshed, and its owner** if it has the priority of the thread. -/
lemma Settled.waiterLeft (h : Settled D s) (hc : Core s pc) (hright : OwnerRight s t m)
    (hs : s.waiterLeft fuel t m = some s') : Settled D s' := by
  have hat : (s.mutexUpdatePriority m).mutex m = { s.mutex m with priority := s.waitersPriority m } :=
    Function.update_self ..
  have hother : ∀ m', m' ≠ m → (s.mutexUpdatePriority m).mutex m' = s.mutex m' := fun m' hm =>
    Function.update_of_ne hm ..
  have hmutex : ∀ m' ∈ D, ((s.mutexUpdatePriority m).mutex m').priority =
      (s.mutexUpdatePriority m).waitersPriority m' := by
    intro m' hD
    change _ = s.waitersPriority m'
    by_cases hm : m' = m
    · rw [hm, hat]
    · rw [hother m' hm]
      exact h.mutex m' hD
  have hthread : ∀ u, (s.mutex m).owner ≠ some u →
      s.prio u = (s.mutexUpdatePriority m).threadGetMutexPriority u := by
    intro u hu
    have hask : (s.mutexUpdatePriority m).threadGetMutexPriority u = s.threadGetMutexPriority u := by
      refine threadGetMutexPriority_congr rfl rfl fun m' hm' => ?_
      have hne : m' ≠ m := by
        rintro rfl
        exact hu ((hc.owners.own m' u).mpr hm')
      rw [hother m' hne]
      exact ⟨rfl, rfl⟩
    rw [hask]
    exact h.thread u
  unfold State.waiterLeft at hs
  split at hs
  · unfold State.refreshOwner at hs
    split at hs
    · rename_i hnone
      rw [hat] at hnone
      cases hs
      refine ⟨hmutex, h.sorted, fun u => hthread u ?_⟩
      rw [hnone]
      nofun
    · rename_i o howner
      rw [hat] at howner
      simp only at hs
      have hbut : ∀ u, u ≠ o → s.prio u = (s.mutexUpdatePriority m).threadGetMutexPriority u := by
        intro u hu
        refine hthread u ?_
        rw [howner]
        exact fun heq => hu (Option.some.inj heq).symm
      split at hs
      · have hc' := (hc.of_reprio (State.reprio_setPriority (m := m) (s.waitersPriority m))).of_reprio
          (State.reprio_changePriority (t := o) ((s.mutexUpdatePriority m).threadGetMutexPriority o))
        exact Unsettled.updateLoop (unsettled_changePriority hmutex h.sorted hbut rfl) hc' hs
      · rename_i hsame
        cases hs
        refine ⟨hmutex, h.sorted, fun u => ?_⟩
        by_cases hu : u = o
        · rw [hu]
          exact (not_not.mp hsame).symm
        · exact hbut u hu
  · rename_i hneed
    cases hs
    have hask := hright.resolve_left hneed
    refine ⟨hmutex, h.sorted, fun u => ?_⟩
    by_cases hu : (s.mutex m).owner = some u
    · exact (hask u hu).symm
    · exact hthread u hu

lemma State.Release.ceilingPriority (hr : State.Release s t m s') (m' : Oid) :
    (s'.mutex m').ceilingPriority = (s.mutex m').ceilingPriority := by
  cases hr with
  | refused _ _ hi => rw [hi.mutex]
  | less s₁ _ _ _ h₁ h₂ =>
    have hhold := (samePriorities_setHold s₁ m ((s₁.mutex m).hold - 1)).ceiling m'
    rw [h₂.mutex, hhold, h₁.mutex]
  | last s₁ s₂ _ _ _ h₁ hover h₂ =>
    rw [h₂.mutex, hover.ceilingPriority, (State.reprio_givenUp s₁ t m).ceilingPriority, ← h₁.mutex]
    unfold State.dropped State.setMutex
    by_cases hm : m' = m
    · subst hm
      simp only [Function.update_self]
    · simp only [Function.update_of_ne hm]

end Calls

/-! ### The steps -/

/-- The mutex in whose list the thread is, with its priority not passed on yet. -/
def Pc.entering : Pc Oid → Option Oid
  | .queued m _ => some m
  | _ => none

lemma Pc.entering_eq_none {pc : Pc Oid} (h : pc.locked = false) : pc.entering = none := by
  cases pc <;> first | rfl | cases h

/-- Everything is settled, unless a thread is about to pass its priority on. -/
structure Steady [DecidableEq Tid] (D : Set Oid) (s : System Tid Oid) : Prop where
  core : Core s.st s.pc
  ceiling : ∀ m, (s.st.mutex m).ceilingPriority = 0xff
  settled : (∀ t, (s.pc t).entering = none) → Settled D s.st
  entering : ∀ t m, (s.pc t).entering = some m → Entering D s.st t m

/-- The actions but those that set a ceiling, change the priority of a thread or end one. -/
def Action.regular : Action Tid Oid → Bool
  | .setprioceiling .. | .changePriority .. | .detach _ | .exit => false
  | _ => true

/-- The running thread if it is about to give up waiting for a mutex, and that mutex. -/
def System.givesUp [DecidableEq Tid] (s : System Tid Oid) : Option (Tid × Oid) :=
  match s.running with
  | none => none
  | some t =>
    match s.pc t with
    | .woken m => if (s.st.mutex m).owner = some t then none else some (t, m)
    | _ => none

/-- No wait for a mutex in `D` times out, and when one for another mutex has, the owner of that is refreshed or
need not be. -/
structure Keeps (D : Set Oid) [DecidableEq Tid] [DecidableEq Oid] (s : System Tid Oid) (a : Action Tid Oid) : Prop where
  regular : a.regular = true
  expires : ∀ t, a = .timerExpires t → ∀ m ∈ D, s.st.pendingObject t ≠ some m
  resume : a = .resume → ∀ t m, s.givesUp = some (t, m) → m ∉ D → OwnerRight s.st t m

section Steps

variable {D : Set Oid} {s s' : System Tid Oid} {st : State Tid Oid} {pc : Tid → Pc Oid} {t u : Tid} {fuel : ℕ}
  {a : Action Tid Oid}

/-- The running thread is about to pass nothing on, so nobody is. -/
lemma Threads.entering_eq_none (h : Threads st pc) (hcur : st.kernel.sched.currentThread = some t)
    (ht : (pc t).entering = none) (u : Tid) : (pc u).entering = none := by
  by_cases hu : u = t
  · rw [hu]
    exact ht
  · exact Pc.entering_eq_none (h.others_unlocked hcur hu)

namespace Steady

variable [DecidableEq Tid]

lemma of_same (h : Steady D s) (hcore : Core s'.st s'.pc) (hsame : SamePriorities s.st s'.st)
    (hpc : ∀ t, (s'.pc t).entering = (s.pc t).entering) : Steady D s' where
  core := hcore
  ceiling m := (hsame.ceiling m).trans (h.ceiling m)
  settled hnone := hsame.settled (h.settled fun t => (hpc t).symm.trans (hnone t))
  entering t m ht := hsame.entering (h.entering t m ((hpc t).symm.trans ht))

lemma of_settled (hcore : Core s'.st s'.pc) (hceil : ∀ m, (s'.st.mutex m).ceilingPriority = 0xff)
    (hsettled : Settled D s'.st) (hpc : ∀ t, (s'.pc t).entering = none) : Steady D s' where
  core := hcore
  ceiling := hceil
  settled _ := hsettled
  entering t m ht := by
    rw [hpc t] at ht
    cases ht

/-- Threads leave lists, and nothing else happens to the priorities. -/
lemma of_leaves (h : Steady D s) (hcore : Core s'.st s'.pc) (hl : Leaves D s.st s'.st) (hpc : s'.pc = s.pc) :
    Steady D s' where
  core := hcore
  ceiling m := by
    rw [hl.mutex]
    exact h.ceiling m
  settled hnone := hl.settled (h.settled fun t => by rw [← hpc]; exact hnone t)
  entering t m ht := by
    have hearly : (s'.pc t).early = some m := by
      cases hx : s'.pc t with
      | queued m' timeout =>
        rw [hx] at ht
        exact ht
      | _ =>
        rw [hx] at ht
        cases ht
    obtain ⟨hsus, hpend, -⟩ := (hcore.threads.ok t).early m hearly
    rw [hpc] at ht
    exact hl.entering (h.entering t m ht) ((hcore.threads.placed t m hsus hpend (.mutex m)).mpr rfl)

/-- The running thread goes on, and no priority changes. -/
lemma goto {x : Pc Oid} (h : Steady D s) (hcore : Core st (Function.update s.pc t x))
    (hcur : s.st.kernel.sched.currentThread = some t) (ht : (s.pc t).entering = none)
    (hx : x.entering = none) (hsame : SamePriorities s.st st) : Steady D (s.goto st t x) := by
  refine h.of_same hcore hsame fun u => ?_
  rw [h.core.threads.entering_eq_none hcur ht u]
  change (Function.update s.pc t x u).entering = none
  by_cases hu : u = t
  · rw [hu, Function.update_self]
    exact hx
  · rw [Function.update_of_ne hu]
    exact h.core.threads.entering_eq_none hcur ht u

/-- The running thread goes on, and everything is settled. -/
lemma goto_settled {x : Pc Oid} (h : Steady D s) (hcore : Core st (Function.update s.pc t x))
    (hcur : s.st.kernel.sched.currentThread = some t) (hx : x.entering = none)
    (hceil : ∀ m, (st.mutex m).ceilingPriority = (s.st.mutex m).ceilingPriority) (hset : Settled D st) :
    Steady D (s.goto st t x) := by
  refine of_settled hcore (fun m => (hceil m).trans (h.ceiling m)) hset fun u => ?_
  change (Function.update s.pc t x u).entering = none
  by_cases hu : u = t
  · rw [hu, Function.update_self]
    exact hx
  · rw [Function.update_of_ne hu]
    exact Pc.entering_eq_none (h.core.threads.others_unlocked hcur hu)

variable [DecidableEq Oid]

lemma take {m : Oid} {timeout : ℤ} {ret : Option IpcErr} (h : Steady D s)
    (hcore : Core st (Function.update s.pc t (if ret.isSome then .run else .queued m timeout)))
    (hcall : s.caller = some t) (htake : State.TakeEnter fuel s.st t m st ret) :
    Steady D (s.goto st t (if ret.isSome then .run else .queued m timeout)) := by
  obtain ⟨hcur, hlive, hpc⟩ := caller_eq_some hcall
  have hn := nobody_of_caller h.core.threads hcall
  have ht : (s.pc t).entering = none := Pc.entering_eq_none (hn t)
  have hset := h.settled fun u => Pc.entering_eq_none (hn u)
  cases htake with
  | again s₁ _ _ _ h₁ h₂ =>
    refine h.goto hcore hcur ht rfl ?_
    exact ((SamePriorities.of_idle h₁).trans (samePriorities_setHold s₁ m _)).trans (.of_idle h₂)
  | fresh s₁ s₂ _ hfree h₁ hceil h₂ =>
    have hceil₁ : (s.st.mutex m).ceilingPriority = 0xff := h.ceiling m
    rw [if_neg fun hlow => hlow.1 hceil₁] at hceil
    subst hceil
    have hs₁ := SamePriorities.of_idle h₁
    have hfresh := (hs₁.settled hset).fresh (t := t) (h.core.of_idle hn h₁) (by rw [h₁.mutex]; exact hfree)
      ((hs₁.ceiling m).trans hceil₁)
    refine h.goto_settled hcore hcur rfl (fun m' => ?_) ((SamePriorities.of_idle h₂).settled hfresh)
    rw [h₂.mutex, ← h₁.mutex]
    unfold State.setMutex
    by_cases hm : m' = m
    · subst hm
      simp only [Function.update_self]
    · simp only [Function.update_of_ne hm]
  | refused _ e _ hi => exact h.goto hcore hcur ht rfl (.of_idle hi)
  | waits s₁ kernel o _ _ h₁ hsus _ _ =>
    have hs₁ := SamePriorities.of_idle h₁
    have hout : ∀ m', t ∉ s₁.waiters m' := by
      intro m'
      rw [h₁.waiters]
      exact h.core.not_listed_of_live hlive (.mutex m')
    have hqueued := (hs₁.settled hset).queued hout hsus
    have hpcs : ∀ u, u ≠ t → (Function.update s.pc t (.queued m timeout) u).entering = none := by
      intro u hu
      rw [Function.update_of_ne hu]
      exact Pc.entering_eq_none (hn u)
    refine ⟨hcore, fun m' => (hs₁.ceiling m').trans (h.ceiling m'), fun hnone => ?_,
      fun u m' hu => ?_⟩
    · have htop : (Function.update s.pc t (.queued m timeout) t).entering = none := hnone t
      rw [Function.update_self] at htop
      cases htop
    · change (Function.update s.pc t (.queued m timeout) u).entering = some m' at hu
      by_cases hut : u = t
      · subst hut
        rw [Function.update_self] at hu
        cases hu
        exact hqueued
      · rw [hpcs u hut] at hu
        cases hu

/-- **Each step** within the condition keeps the priorities settled. -/
theorem step (h : Steady D s) (hkeeps : Keeps D s a) (hs : Mutex.step fuel s a = some s') :
    Steady D s' := by
  have hcore := h.core.step hs
  have hregular := hkeeps.regular
  cases step_outcome h.core hs with
  | take t m timeout suspendFlag st ret hcall htake => exact h.take hcore hcall htake
  | release t m st x hcall hr hx =>
    obtain ⟨hcur, hlive, -⟩ := caller_eq_some hcall
    have hn := nobody_of_caller h.core.threads hcall
    have hset := h.settled fun u => Pc.entering_eq_none (hn u)
    refine h.goto_settled hcore hcur ?_ hr.ceilingPriority (hset.release h.core hn hlive h.ceiling hr)
    rcases hx with rfl | rfl <;> rfl
  | setprioceiling => cases hregular
  | detach => cases hregular
  | exit => cases hregular
  | changePriority => cases hregular
  | boost t m timeout st hr hpc hboost =>
    have hent := h.entering t m (by rw [hpc]; rfl)
    have hrep := State.reprio_takeBoost h.core.threads.placed h.core.threads.inv hboost
    exact h.goto_settled hcore (running_eq_some hr).1 rfl hrep.ceilingPriority (hent.takeBoost h.core hboost)
  | timer t m timeout hr hpc =>
    refine h.goto hcore (running_eq_some hr).1 (by rw [hpc]; rfl) rfl ?_
    split
    · exact .of_look Kernel.look_rtTimerStart rfl rfl fun _ => rfl
    · exact .of_idle (Idle.refl h.core.threads.inv)
  | moved t x st hr hpc hi =>
    have hnone : (s.pc t).entering = none ∧ x.entering = none := by
      generalize s.pc t = y at hpc
      cases hpc <;> exact ⟨rfl, rfl⟩
    exact h.goto hcore (running_eq_some hr).1 hnone.1 hnone.2 (.of_idle hi)
  | finish t m st ret hr hpc hf =>
    have hcur := (running_eq_some hr).1
    have ht : (s.pc t).entering = none := by rw [hpc]; rfl
    have hx : Pc.entering (if ret = .eok then .run else .failed m : Pc Oid) = none := by split <;> rfl
    cases hf with
    | owns _ _ hi => exact h.goto hcore hcur ht hx (.of_idle hi)
    | fails s₁ s₂ _ _ howner _ h₁ hleft h₂ =>
      have hset := h.settled (h.core.threads.entering_eq_none hcur ht)
      have hn : Core.Nobody s.pc := h.core.threads.nobody hcur (by rw [hpc]; rfl)
      have hc₁ := h.core.of_idle hn h₁
      have hright : OwnerRight s.st t m := by
        by_cases hD : m ∈ D
        · exact hset.ownerRight hD t
        · refine hkeeps.resume rfl t m ?_ hD
          unfold System.givesUp
          simp only [hr, hpc]
          rw [if_neg howner]
      have hset₂ := ((SamePriorities.of_idle h₁).settled hset).waiterLeft hc₁ (hright.of_idle h₁) hleft
      have hrep := State.reprio_waiterLeft hc₁.threads.placed h₁.inv hleft
      refine h.goto_settled hcore hcur hx (fun m' => ?_) ((SamePriorities.of_idle h₂).settled hset₂)
      rw [h₂.mutex, hrep.ceilingPriority, h₁.mutex]
  | clear t m hr hpc =>
    refine h.goto hcore (running_eq_some hr).1 (by rw [hpc]; rfl) rfl ?_
    exact .of_mutex rfl (fun _ => ⟨rfl, rfl⟩) rfl
  | quiet a st hi hcpu => exact h.of_same hcore (.of_idle hi) fun _ => rfl
  | expires t kernel hact hout =>
    exact h.of_leaves hcore (.of_look h.core (hkeeps.expires t rfl) hout.look rfl rfl hout.suspendThread) rfl
  | wait t l timeout suspendFlag kernel st hcall hl hw hi =>
    have hwait : SamePriorities s.st { s.st with kernel := kernel } := by
      refine .of_look hw.look rfl rfl fun m => ?_
      rw [hw.suspendThread]
      refine Function.update_of_ne ?_ ..
      rintro rfl
      cases hl
    exact h.of_same hcore (hwait.trans (.of_idle hi)) fun _ => rfl
  | dequeue l threadError t rest kernel st hl hlist hready hi hcpu =>
    have hmem : t ∈ s.st.kernel.suspendThread l := by
      rw [hlist]
      exact List.mem_cons_self
    have hpend : s.st.pendingObject t = none := (h.core.threads.ok t).other l hl hmem
    have hleaves : Leaves D s.st { s.st with kernel := kernel } := by
      refine .of_look h.core (fun m _ => ?_) hready.look rfl rfl hready.suspendThread
      rw [hpend]
      nofun
    exact h.of_leaves hcore (hleaves.trans_idle hi) rfl

end Steady

lemma steady_init [DecidableEq Tid] {sched : SchedState Tid} (h : Booted sched)
    (flag : SuspList Oid → IpcFlag) : Steady D (System.init sched flag) where
  core := Core.init h flag
  ceiling _ := rfl
  settled _ := ⟨fun _ _ => rfl, fun _ => List.Pairwise.nil, h.priority⟩
  entering _ _ ht := by cases ht

end Steps

end N32L43x.Mutex
