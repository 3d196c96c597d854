import N32L43x.Mutex.Restore
import N32L43x.Lib.Ordered

/-!
The order of the threads in the suspend lists over whole runs.  A list that is ordered by priority is put in
order when a thread joins it, and the list of a mutex when `_thread_update_priority` passes a priority on; a
change of the priority of another waiter leaves its place as it is.
-/

namespace N32L43x.Mutex

open N32L43x.Sched N32L43x.Ipc N32L43x.Lib.Run N32L43x.Lib.Ordered

variable {Tid Oid : Type}

/-! ### The order of a list -/

section Kernel

variable {k k' : Kernel Tid Oid} {t u : Tid} {P : SuspList Oid → Prop} {l : SuspList Oid}

/-- A thread comes before another one: it is more urgent, or as urgent and joined the list earlier. -/
def Before (k : Kernel Tid Oid) (t u : Tid) : Prop :=
  k.prio t < k.prio u ∨ k.prio t = k.prio u ∧ k.arrival t < k.arrival u

lemma Before.trans {v : Tid} (h₁ : Before k t u) (h₂ : Before k u v) : Before k t v := by
  rcases h₁ with h₁ | ⟨he₁, ha₁⟩ <;> rcases h₂ with h₂ | ⟨he₂, ha₂⟩
  · exact .inl (h₁.trans h₂)
  · exact .inl (he₂ ▸ h₁)
  · exact .inl (he₁ ▸ h₂)
  · exact .inr ⟨he₁.trans he₂, ha₁.trans ha₂⟩

/-- Some of the lists are in order. -/
def Ordered (P : SuspList Oid → Prop) (k : Kernel Tid Oid) : Prop :=
  ∀ l, P l → (k.suspendThread l).Pairwise (Before k)

/-- The arrivals of the threads that wait are behind the kernel. -/
def Arrived (k : Kernel Tid Oid) : Prop := ∀ l, ∀ t ∈ k.suspendThread l, k.arrival t < k.arrivals

/-- The threads leave, and those that stay keep their priorities and arrivals. -/
lemma Ordered.leave (h : Ordered P k) (hsub : ∀ l, (k'.suspendThread l).Sublist (k.suspendThread l))
    (hprio : ∀ l, P l → ∀ t ∈ k'.suspendThread l, k'.prio t = k.prio t) (harrival : k'.arrival = k.arrival) :
    Ordered P k' := by
  intro l hl
  refine ((h l hl).sublist (hsub l)).imp_of_mem fun ht hu hb => ?_
  unfold Before
  rw [hprio l hl _ ht, hprio l hl _ hu, harrival]
  exact hb

lemma Arrived.leave (h : Arrived k) (hsub : ∀ l, (k'.suspendThread l).Sublist (k.suspendThread l))
    (harrival : k'.arrival = k.arrival) (harrivals : k'.arrivals = k.arrivals) : Arrived k' := by
  intro l t ht
  rw [harrival, harrivals]
  exact h l t ((hsub l).mem ht)

variable [DecidableEq Tid] [DecidableEq Oid]

omit [DecidableEq Oid] in
/-- The place of a thread that joins a list. -/
lemma pairwise_enqueued {list : List Tid} (h : list.Pairwise (Before k)) (ht : t ∉ list)
    (harrived : ∀ u ∈ list, k.arrival u < k.arrivals) (hprio : k'.prio = k.prio)
    (harrival : k'.arrival = Function.update k.arrival t k.arrivals) :
    (k.enqueued list t .prio).Pairwise (Before k') := by
  have hother : ∀ u ∈ list, k'.arrival u = k.arrival u := by
    intro u hu
    rw [harrival]
    exact Function.update_of_ne (ne_of_mem_of_not_mem hu ht) ..
  have hself : k'.arrival t = k.arrivals := by
    rw [harrival]
    exact Function.update_self ..
  have hlist : list.Pairwise (Before k') := by
    refine h.imp_of_mem fun hu hv hb => ?_
    unfold Before
    rw [hprio, hother _ hu, hother _ hv]
    exact hb
  refine pairwise_orderedInsert (fun _ _ _ => Before.trans) hlist (fun u _ hlt => ?_) fun u hu hle => ?_
  · exact .inl (by rwa [hprio])
  · rcases (not_lt.mp hle).lt_or_eq with hlt | heq
    · exact .inl (by rwa [hprio])
    · refine .inr ⟨by rw [hprio, heq], ?_⟩
      rw [hself, hother u hu]
      exact harrived u hu

/-- A thread that waits nowhere joins a list. -/
lemma Ordered.join {flag : IpcFlag} (h : Ordered P k) (harr : Arrived k) (hnot : ∀ l, t ∉ k.suspendThread l)
    (hprio : k'.prio = k.prio)
    (hlists : k'.suspendThread = Function.update k.suspendThread l (k.enqueued (k.suspendThread l) t flag))
    (harrival : k'.arrival = Function.update k.arrival t k.arrivals) (hflag : P l → flag = .prio) :
    Ordered P k' := by
  intro l' hl'
  rw [hlists]
  by_cases hl : l' = l
  · subst hl
    rw [Function.update_self, hflag hl']
    exact pairwise_enqueued (h l' hl') (hnot l') (harr l') hprio harrival
  · rw [Function.update_of_ne hl]
    refine (h l' hl').imp_of_mem fun hu hv hb => ?_
    unfold Before
    rw [hprio, harrival, Function.update_of_ne (ne_of_mem_of_not_mem hu (hnot l')),
      Function.update_of_ne (ne_of_mem_of_not_mem hv (hnot l'))]
    exact hb

lemma Arrived.join {flag : IpcFlag} (h : Arrived k)
    (hlists : k'.suspendThread = Function.update k.suspendThread l (k.enqueued (k.suspendThread l) t flag))
    (harrival : k'.arrival = Function.update k.arrival t k.arrivals) (harrivals : k'.arrivals = k.arrivals + 1) :
    Arrived k' := by
  intro l' u hu
  rw [harrival, harrivals]
  by_cases hut : u = t
  · rw [hut, Function.update_self]
    exact Nat.lt_succ_self _
  · rw [Function.update_of_ne hut]
    refine Nat.lt_succ_of_lt ?_
    rw [hlists] at hu
    by_cases hl : l' = l
    · subst hl
      rw [Function.update_self] at hu
      exact h l' u (((Kernel.mem_enqueued _ flag).mp hu).resolve_left hut)
    · rw [Function.update_of_ne hl] at hu
      exact h l' u hu

end Kernel

/-! ### The lists of a state -/

/-- The lists are in order, and who waits in one of them for something else than a mutex owns none. -/
structure Queues (P : SuspList Oid → Prop) (s : State Tid Oid) : Prop where
  order : Ordered P s.kernel
  arrived : Arrived s.kernel
  free : ∀ l, P l → notMutex l = true → ∀ t ∈ s.kernel.suspendThread l, s.takenObjectList t = []

section Lists

variable {s s' : State Tid Oid} {pc : Tid → Pc Oid} {t u : Tid} {m : Oid} {fuel : ℕ} {P : SuspList Oid → Prop}

/-- The lists become shorter, and who stays keeps what its place depends on. -/
lemma Queues.shrink (h : Queues P s) (hsub : ∀ l, (s'.kernel.suspendThread l).Sublist (s.kernel.suspendThread l))
    (hprio : ∀ l, P l → ∀ t ∈ s'.kernel.suspendThread l, s'.prio t = s.prio t)
    (harrival : s'.kernel.arrival = s.kernel.arrival) (harrivals : s'.kernel.arrivals = s.kernel.arrivals)
    (htaken : ∀ l, notMutex l = true → ∀ t ∈ s'.kernel.suspendThread l, s.takenObjectList t = [] →
      s'.takenObjectList t = []) : Queues P s' where
  order := h.order.leave hsub hprio harrival
  arrived := h.arrived.leave hsub harrival harrivals
  free l hl hn t ht := htaken l hn t ht (h.free l hl hn t ((hsub l).mem ht))

lemma Queues.of_idle (h : Queues P s) (hi : Idle s s') : Queues P s' := by
  refine h.shrink (fun l => ?_) (fun l _ t _ => congrFun hi.prio t) hi.arrival hi.arrivals fun l _ t _ ht => ?_
  · rw [hi.suspendThread]
  · rwa [hi.takenObjectList]

/-- The owner of a mutex waits for nothing else than a mutex. -/
lemma Queues.loose_of_owner (h : Queues P s) (ho : Owners s) (hm : (s.mutex m).owner = some t) {l : SuspList Oid}
    (hl : P l) (hn : notMutex l = true) : t ∉ s.kernel.suspendThread l := by
  intro ht
  have hmem := (ho.own m t).mp hm
  rw [h.free l hl hn t ht] at hmem
  cases hmem

variable [DecidableEq Tid]

/-- The lists are in order but for the thread `t`, which waits for a mutex if at all in one of them. -/
structure QueuesBut (P : SuspList Oid → Prop) (s : State Tid Oid) (t : Tid) : Prop where
  order : Ordered P (s.kernel.listRemove t)
  arrived : Arrived s.kernel
  free : ∀ l, P l → notMutex l = true → ∀ u ∈ s.kernel.suspendThread l, s.takenObjectList u = []
  loose : ∀ l, P l → notMutex l = true → t ∉ s.kernel.suspendThread l

lemma Queues.changePriority (h : Queues P s) (hloose : ∀ l, P l → notMutex l = true → t ∉ s.kernel.suspendThread l)
    (p : Fin 32) : QueuesBut P (s.changePriority t p) t where
  order := by
    refine h.order.leave (fun l => List.filter_sublist) (fun l hl u hu => ?_) rfl
    exact State.prio_changePriority_of_ne (of_decide_eq_true (List.mem_filter.mp hu).2) p
  arrived := h.arrived
  free := h.free
  loose := hloose

/-- A thread that is in none of the lists. -/
lemma QueuesBut.settled (h : QueuesBut P s t) (ht : ∀ l, P l → t ∉ s.kernel.suspendThread l) : Queues P s where
  order l hl := by
    have hlist := h.order l hl
    have heq : (s.kernel.listRemove t).suspendThread l = s.kernel.suspendThread l := by
      refine List.filter_eq_self.mpr fun u hu => decide_eq_true ?_
      rintro rfl
      exact ht l hl hu
    rwa [heq] at hlist
  arrived := h.arrived
  free := h.free

/-- The priority of a thread that waits in none of the lists is changed. -/
lemma Queues.reprioritised (h : Queues P s) (ht : ∀ l, P l → t ∉ s.kernel.suspendThread l) (p : Fin 32) :
    Queues P (s.changePriority t p) :=
  (h.changePriority (fun l hl _ => ht l hl) p).settled ht

variable [DecidableEq Oid]

/-- **One turn of the loop** of `_thread_update_priority` puts the thread in its place. -/
lemma QueuesBut.requeued (h : QueuesBut P s t) : Queues P (s.requeued t m) := by
  have hnot : ∀ l, t ∉ (s.kernel.listRemove t).suspendThread l := by
    intro l ht
    exact of_decide_eq_true (List.mem_filter.mp ht).2 rfl
  have harr : Arrived (s.kernel.listRemove t) := h.arrived.leave (fun l => List.filter_sublist) rfl rfl
  refine ⟨h.order.join harr hnot rfl rfl rfl fun _ => rfl, harr.join rfl rfl rfl, fun l hl hn u hu => ?_⟩
  have hlist : (s.requeued t m).kernel.suspendThread l = (s.kernel.suspendThread l).filter (· ≠ t) := by
    refine Function.update_of_ne ?_ ..
    rintro rfl
    cases hn
  rw [hlist] at hu
  exact h.free l hl hn u (List.mem_filter.mp hu).1

/-- **The loop of `_thread_update_priority`** leaves the lists in order. -/
lemma QueuesBut.updateLoop (h : QueuesBut P s t) (hc : Core s pc) (hs : State.updateLoop fuel s t = some s') :
    Queues P s' := by
  refine State.updateLoop_rule (P := fun s t => QueuesBut P s t ∧ Core s pc) (Q := Queues P) ?_ ?_ ?_ ?_ fuel s t s'
    ⟨h, hc⟩ hs
  · rintro s₁ t₁ ⟨h₁, hc₁⟩ hlive
    exact h₁.settled fun l _ hl => hlive ((hc₁.threads.ok t₁).suspended l hl)
  · rintro s₁ t₁ ⟨h₁, hc₁⟩ - hpend
    refine h₁.settled fun l hP hl => ?_
    cases l with
    | mutex m =>
      have hm : s₁.pendingObject t₁ = some m := (hc₁.threads.ok t₁).mutex m hl
      rw [hpend] at hm
      cases hm
    | _ => exact h₁.loose _ hP rfl hl
  · rintro s₁ t₁ m owner ⟨h₁, -⟩ - - - -
    exact h₁.requeued
  · rintro s₁ t₁ m owner ⟨h₁, hc₁⟩ hsus hpend howner
    have hc₂ := hc₁.of_reprio (State.reprio_requeued hc₁.threads.placed hsus hpend hc₁.threads.inv)
    exact ⟨h₁.requeued.changePriority (fun _ => h₁.requeued.loose_of_owner hc₂.owners howner) _,
      hc₂.of_reprio (State.reprio_changePriority _)⟩

lemma Queues.threadUpdatePriority (h : Queues P s) (hc : Core s pc) (hm : (s.mutex m).owner = some t) {p : Fin 32}
    (hs : s.threadUpdatePriority fuel t p = some s') : Queues P s' :=
  (h.changePriority (fun _ => h.loose_of_owner hc.owners hm) p).updateLoop
    (hc.of_reprio (State.reprio_changePriority p)) hs

lemma Queues.refreshOwner (h : Queues P s) (hc : Core s pc) (hs : s.refreshOwner fuel m = some s') :
    Queues P s' := by
  unfold State.refreshOwner at hs
  split at hs
  · cases hs
    exact h
  · rename_i owner howner
    simp only at hs
    split at hs
    · exact h.threadUpdatePriority hc howner hs
    · cases hs
      exact h

lemma Queues.waiterLeft (h : Queues P s) (hc : Core s pc) (hs : s.waiterLeft fuel t m = some s') :
    Queues P s' := by
  have h₁ : Queues P (s.mutexUpdatePriority m) := ⟨h.order, h.arrived, h.free⟩
  unfold State.waiterLeft at hs
  split at hs
  · exact h₁.refreshOwner (hc.of_reprio (State.reprio_setPriority _)) hs
  · cases hs
    exact h₁

lemma Queues.takeBoost (h : Queues P s) (hc : Core s pc) (hs : s.takeBoost fuel t m = some s') : Queues P s' := by
  unfold State.takeBoost at hs
  simp only at hs
  split at hs
  · have h₁ : Queues P (s.setMutex m { s.mutex m with priority := s.prio t }) := ⟨h.order, h.arrived, h.free⟩
    split at hs
    · cases hs
    · rename_i owner howner
      split at hs
      · exact h₁.threadUpdatePriority (hc.of_reprio (State.reprio_setPriority _)) howner hs
      · cases hs
        exact h₁
  · cases hs
    exact h

/-! ### The calls -/

omit [DecidableEq Oid] in
/-- A write to a thread that keeps its priority. -/
lemma prio_of_look {k k' : Kernel Tid Oid} {x : Look} (hlook : k'.look = Function.update k.look t x)
    (hx : x.currentPriority = (k.look t).currentPriority) : k'.prio = k.prio := by
  funext u
  refine (congrArg Look.currentPriority (congrFun hlook u)).trans ?_
  by_cases hu : u = t
  · rw [hu, Function.update_self, hx]
    rfl
  · rw [Function.update_of_ne hu]
    rfl

omit [DecidableEq Oid] in
/-- A thread leaves the list it waits in. -/
lemma Queues.leave {kernel : Kernel Tid Oid} (h : Queues P s)
    (hlists : kernel.suspendThread = fun l => (s.kernel.suspendThread l).filter (· ≠ t))
    (hprio : kernel.prio = s.kernel.prio) (harrival : kernel.arrival = s.kernel.arrival)
    (harrivals : kernel.arrivals = s.kernel.arrivals) : Queues P { s with kernel := kernel } := by
  refine h.shrink (fun l => ?_) (fun l _ u _ => congrFun hprio u) harrival harrivals fun _ _ _ _ => id
  change (kernel.suspendThread l).Sublist _
  rw [hlists]
  exact List.filter_sublist

/-- A thread that waits nowhere joins the list of a mutex, or that of something else if it owns no mutex. -/
lemma Queues.join {kernel : Kernel Tid Oid} {l : SuspList Oid} {flag : IpcFlag} (h : Queues P s)
    (hnot : ∀ l, t ∉ s.kernel.suspendThread l) (hprio : kernel.prio = s.kernel.prio)
    (hlists : kernel.suspendThread =
      Function.update s.kernel.suspendThread l (s.kernel.enqueued (s.kernel.suspendThread l) t flag))
    (harrival : kernel.arrival = Function.update s.kernel.arrival t s.kernel.arrivals)
    (harrivals : kernel.arrivals = s.kernel.arrivals + 1) (hflag : P l → flag = .prio)
    (hfree : P l → notMutex l = true → s.takenObjectList t = []) : Queues P { s with kernel := kernel } where
  order := h.order.join h.arrived hnot hprio hlists harrival hflag
  arrived := h.arrived.join hlists harrival harrivals
  free l' hl' hn u hu := by
    change u ∈ kernel.suspendThread l' at hu
    rw [hlists] at hu
    by_cases hl : l' = l
    · subst hl
      rw [Function.update_self, Kernel.mem_enqueued] at hu
      rcases hu with rfl | hu
      · exact hfree hl' hn
      · exact h.free l' hl' hn u hu
    · rw [Function.update_of_ne hl] at hu
      exact h.free l' hl' hn u hu

lemma Queues.takeEnter {ret : Option IpcErr} (h : Queues P s) (hc : Core s pc)
    (hlive : (s.kernel.look t).life = .live) (ht : State.TakeEnter fuel s t m s' ret) : Queues P s' := by
  have hnot := hc.not_listed_of_live hlive
  cases ht with
  | again s₁ _ _ _ h₁ h₂ =>
    have hs₁ := h.of_idle h₁
    have hset : Queues P (s₁.setMutex m { s₁.mutex m with hold := (s₁.mutex m).hold + 1 }) :=
      ⟨hs₁.order, hs₁.arrived, hs₁.free⟩
    exact hset.of_idle h₂
  | fresh s₁ s₂ _ howner h₁ hceil h₂ =>
    have hs₁ := h.of_idle h₁
    have hset : Queues P (s₁.setMutex m { s₁.mutex m with owner := some t, priority := 0xff, hold := 1 }) :=
      ⟨hs₁.order, hs₁.arrived, hs₁.free⟩
    have hnot₁ : ∀ l, t ∉ s₁.kernel.suspendThread l := by
      rw [h₁.suspendThread]
      exact hnot
    have hs₂ : Queues P s₂ ∧ ∀ l, t ∉ s₂.kernel.suspendThread l := by
      split at hceil
      · -- the thread runs, so its ceiling is not passed on
        have hsus : ¬ s₁.kernel.Suspended t := by
          rw [h₁.suspended_iff]
          unfold Kernel.Suspended
          rw [hlive]
          simp
        rw [State.threadUpdatePriority_of_not_suspended (s := s₁.setMutex m
          { s₁.mutex m with owner := some t, priority := 0xff, hold := 1 }) hsus hceil]
        exact ⟨hset.reprioritised (fun l _ => hnot₁ l) _, hnot₁⟩
      · rw [hceil]
        exact ⟨hset, hnot₁⟩
    have htake : Queues P { s₂ with
        takenObjectList := Function.update s₂.takenObjectList t (m :: s₂.takenObjectList t) } := by
      refine hs₂.1.shrink (fun l => List.Sublist.refl _) (fun _ _ _ _ => rfl) rfl rfl fun l _ u hu htaken => ?_
      have hut : u ≠ t := by
        rintro rfl
        exact hs₂.2 l hu
      exact (Function.update_of_ne hut ..).trans htaken
    exact htake.of_idle h₂
  | refused _ _ _ hi => exact h.of_idle hi
  | waits s₁ kernel o _ _ h₁ hsus _ _ =>
    have hs₁ := h.of_idle h₁
    have hnot₁ : ∀ l, t ∉ s₁.kernel.suspendThread l := by
      rw [h₁.suspendThread]
      exact hnot
    have hjoin : Queues P { s₁ with kernel := kernel } :=
      hs₁.join hnot₁ (prio_of_look hsus.look rfl) hsus.suspendThread hsus.arrival hsus.arrivals (fun _ => rfl)
        fun _ hn => by cases hn
    exact ⟨hjoin.order, hjoin.arrived, hjoin.free⟩

/-- A thread that waits nowhere gives a mutex up. -/
lemma Queues.givenUp (h : Queues P s) (hnot : ∀ l, t ∉ s.kernel.suspendThread l) : Queues P (s.givenUp t m) := by
  have hdropped : Queues P (s.dropped m) := by
    refine h.shrink (fun l => List.Sublist.refl _) (fun _ _ _ _ => rfl) rfl rfl fun l _ u _ htaken => ?_
    change (s.takenObjectList u).filter (· ≠ m) = []
    rw [htaken]
    rfl
  unfold State.givenUp State.checkAndUpdatePrio
  simp only
  split
  · exact hdropped.reprioritised (fun l _ => hnot l) _
  · exact hdropped

lemma Queues.handOver (h : Queues P s) (hover : State.HandOver s m s') : Queues P s' := by
  have hprio := hover.prio
  cases hover with
  | free _ => exact ⟨h.order, h.arrived, h.free⟩
  | next kernel next rest _ hr =>
    refine h.shrink (fun l => ?_) (fun l _ u _ => congrFun hprio u) hr.arrival hr.arrivals fun l _ u hu htaken => ?_
    · change (kernel.suspendThread l).Sublist _
      rw [hr.suspendThread]
      exact List.filter_sublist
    · change u ∈ kernel.suspendThread l at hu
      rw [hr.suspendThread] at hu
      exact (Function.update_of_ne (of_decide_eq_true (List.mem_filter.mp hu).2) ..).trans htaken

lemma Queues.release (h : Queues P s) (hnot : ∀ l, t ∉ s.kernel.suspendThread l) (hr : State.Release s t m s') :
    Queues P s' := by
  cases hr with
  | refused _ _ hi => exact h.of_idle hi
  | less s₁ _ _ _ h₁ h₂ =>
    have hs₁ := h.of_idle h₁
    have hset : Queues P (s₁.setMutex m { s₁.mutex m with hold := (s₁.mutex m).hold - 1 }) :=
      ⟨hs₁.order, hs₁.arrived, hs₁.free⟩
    exact hset.of_idle h₂
  | last s₁ s₂ _ _ _ h₁ hover h₂ =>
    have hnot₁ : ∀ l, t ∉ s₁.kernel.suspendThread l := by
      rw [h₁.suspendThread]
      exact hnot
    exact (((h.of_idle h₁).givenUp hnot₁).handOver hover).of_idle h₂

/-! ### The end of a thread -/

omit [DecidableEq Oid] in
lemma Queues.rtThreadClose (h : Queues P s) : Queues P (s.rtThreadClose t) := by
  have hlook : ∀ u, ((s.rtThreadClose t).kernel.look u).currentPriority = (s.kernel.look u).currentPriority := by
    intro u
    unfold State.rtThreadClose
    simp only
    split
    · rfl
    · refine (congrArg Look.currentPriority (congrFun look_rtThreadClose u)).trans ?_
      by_cases hu : u = t
      · rw [hu, Function.update_self]
        rfl
      · rw [Function.update_of_ne hu]
        rfl
  have hsame : (∀ l, ((s.rtThreadClose t).kernel.suspendThread l).Sublist (s.kernel.suspendThread l)) ∧
      (s.rtThreadClose t).kernel.arrival = s.kernel.arrival ∧
      (s.rtThreadClose t).kernel.arrivals = s.kernel.arrivals ∧
      (s.rtThreadClose t).takenObjectList = s.takenObjectList := by
    unfold State.rtThreadClose
    simp only
    split
    · exact ⟨fun _ => List.Sublist.refl _, rfl, rfl, rfl⟩
    · split
      · exact ⟨fun _ => List.Sublist.refl _, rfl, rfl, rfl⟩
      · exact ⟨fun _ => List.filter_sublist, rfl, rfl, rfl⟩
  obtain ⟨hsub, harrival, harrivals, htaken⟩ := hsame
  refine h.shrink hsub (fun _ _ u _ => hlook u) harrival harrivals fun _ _ u _ hu => ?_
  rwa [htaken]

/-- A release takes nobody into a list. -/
lemma State.Release.mem (hr : State.Release s t m s') {l : SuspList Oid} (hu : u ∈ s'.kernel.suspendThread l) :
    u ∈ s.kernel.suspendThread l := by
  cases hr with
  | refused _ _ hi => rwa [hi.suspendThread] at hu
  | less s₁ _ _ _ h₁ h₂ =>
    rw [h₂.suspendThread] at hu
    rwa [← h₁.suspendThread]
  | last s₁ s₂ _ _ _ h₁ hover h₂ =>
    rw [h₂.suspendThread] at hu
    rw [← h₁.suspendThread, ← State.givenUp_suspendThread s₁ t m]
    cases hover with
    | free _ => exact hu
    | next kernel next rest _ hready =>
      change u ∈ kernel.suspendThread l at hu
      rw [hready.suspendThread] at hu
      exact (List.mem_filter.mp hu).1

/-- The loop of `_thread_detach_from_mutex`, by a thread that waits nowhere. -/
lemma Queues.releaseTaken {self : Tid} (hn : Core.Nobody pc) : ∀ (taken : List Oid) {s : State Tid Oid},
    Queues P s → Core s pc → (s.kernel.look t).life = .closed → (∀ l, self ∉ s.kernel.suspendThread l) →
      taken.Nodup → (∀ m ∈ taken, (s.mutex m).owner = some t) → Queues P (s.releaseTaken self taken)
  | [], _, h, _, _, _, _, _ => h
  | m :: taken, s, h, hc, hclosed, hnot, hnodup, htaken => by
    rw [List.nodup_cons] at hnodup
    have howner := htaken m (List.mem_cons_self ..)
    obtain ⟨s₁, hset, hrel, hi⟩ := hc.releaseOne_cases self hn howner
    obtain ⟨hc₁, hreleased⟩ := hc.releaseOne self hn hclosed howner
    have hs : Queues P (s.setMutex m { s.mutex m with hold := 1 }) := ⟨h.order, h.arrived, h.free⟩
    have h₁ : Queues P (s.releaseOne self m) := (hs.release hnot hrel).of_idle hi
    refine releaseTaken hn taken h₁ hc₁ ((hreleased.heirs.closed t).mpr hclosed) (fun l hl => ?_) hnodup.2
      fun m' hm' => ?_
    · change self ∈ (s.releaseOne self m).kernel.suspendThread l at hl
      rw [hi.suspendThread] at hl
      exact hnot l (hrel.mem hl)
    · change ((s.releaseOne self m).mutex m').owner = some t
      rw [hreleased.other m' (List.mem_singleton.not.mpr fun heq => hnodup.1 (heq ▸ hm'))]
      exact htaken m' (List.mem_cons_of_mem m hm')

/-- What `_thread_detach_from_mutex` does to the mutex that the thread waits for. -/
lemma Queues.dropThread {s₁ : State Tid Oid} (h : Queues P s) (hc : Core s pc) (hn : Core.Nobody pc)
    (hclosed : (s.kernel.look t).life = .closed)
    (hs : (match s.pendingObject t with
      | none => some s
      | some m => (s.rtMutexDropThread fuel m t).map fun s =>
        { s with pendingObject := Function.update s.pendingObject t none }) = some s₁) :
    Queues P s₁ ∧ ∀ l u, u ∈ s₁.kernel.suspendThread l → u ∈ s.kernel.suspendThread l := by
  split at hs
  · cases hs
    exact ⟨h, fun _ _ => id⟩
  · rename_i m hm
    unfold State.rtMutexDropThread at hs
    simp only [Option.map_map, Option.map_eq_some_iff] at hs
    obtain ⟨s₂, hleft, rfl⟩ := hs
    have hlock := Idle.lock hc.threads.inv
    have hc' := hc.of_idle hn hlock
    have hclosed' : (s.lock.kernel.look t).life = .closed := hclosed
    rw [hc'.listRemove_eq hclosed'] at hleft
    have hr := State.reprio_waiterLeft hc'.threads.placed hlock.inv hleft
    have hunlock := Idle.unlock (hc'.of_reprio hr).threads.inv
    have h₂ := ((h.of_idle hlock).waiterLeft hc' hleft).of_idle hunlock
    refine ⟨⟨h₂.order, h₂.arrived, h₂.free⟩, fun l u hu => ?_⟩
    change u ∈ s₂.unlock.kernel.suspendThread l at hu
    rw [hunlock.suspendThread] at hu
    exact (hr.mem l u).mp hu

/-- **The end of a thread**, by a thread that waits nowhere. -/
lemma Queues.threadDetach {self : Tid} (h : Queues P s) (hc : Core s pc) (hn : Core.Nobody pc)
    (hnot : ∀ l, self ∉ s.kernel.suspendThread l) (hs : s.threadDetach fuel self t = some s') : Queues P s' := by
  unfold State.threadDetach State.threadDetachFromMutex at hs
  simp only [Option.map_map, Option.map_eq_some_iff] at hs
  obtain ⟨s₂, hdrop, rfl⟩ := hs
  have hlock := Idle.lock hc.threads.inv
  have hclose : Core (s.lock.rtThreadClose t) pc := (hc.of_idle hn hlock).close hn
  have hlock₁ := Idle.lock hclose.threads.inv
  have hclosed : ((s.lock.rtThreadClose t).lock.kernel.look t).life = .closed :=
    (Core.closed_rtThreadClose (s := s.lock) t).mpr (.inl rfl)
  have h₁ : Queues P (s.lock.rtThreadClose t).lock := (h.of_idle hlock).rtThreadClose.of_idle hlock₁
  obtain ⟨hc₂, hheirs₂, -, -⟩ := (hclose.of_idle hn hlock₁).dropThread hn hclosed hdrop
  obtain ⟨h₂, hmem₂⟩ := h₁.dropThread (hclose.of_idle hn hlock₁) hn hclosed hdrop
  have hsub : ∀ l, ((s.lock.rtThreadClose t).kernel.suspendThread l).Sublist (s.kernel.suspendThread l) := by
    intro l
    unfold State.rtThreadClose
    simp only
    split
    · exact List.Sublist.refl _
    · split
      · exact List.Sublist.refl _
      · exact List.filter_sublist
  have hnot₂ : ∀ l, self ∉ s₂.kernel.suspendThread l := fun l hl =>
    hnot l ((hsub l).mem (hmem₂ l self hl))
  have hclosed₂ : (s₂.kernel.look t).life = .closed := (hheirs₂.closed t).mpr hclosed
  have howners : ∀ m ∈ s₂.takenObjectList t, (s₂.mutex m).owner = some t := fun m hm =>
    (hc₂.owners.own m t).mpr hm
  have h₃ := Queues.releaseTaken hn (s₂.takenObjectList t) h₂ hc₂ hclosed₂ hnot₂ (hc₂.owners.nodup t) howners
  obtain ⟨hc₃, -⟩ := Core.releaseTaken self hn (s₂.takenObjectList t) hc₂ hclosed₂ (hc₂.owners.nodup t) howners
  have hunlock := Idle.unlock hc₃.threads.inv
  have hunlock₁ := Idle.unlock (hc₃.of_idle hn hunlock).threads.inv
  exact (h₃.of_idle hunlock).of_idle hunlock₁

end Lists

/-! ### Runs -/

/-- The lists that are ordered by priority: those of the mutexes, and those made with that flag. -/
def ByPriority (flag : SuspList Oid → IpcFlag) (l : SuspList Oid) : Prop := notMutex l = true → flag l = .prio

/-- Nobody changes the priority of a thread that waits in a list ordered by priority, and nobody who owns a mutex
waits in one for something else. -/
def KeepsPlaces [DecidableEq Oid] (s : System Tid Oid) : Action Tid Oid → Prop
  | .changePriority t _ => s.st.kernel.Suspended t → ∀ l, ByPriority s.flag l → t ∉ s.st.kernel.suspendThread l
  | .wait l _ _ => s.flag l = .prio → ∀ t, s.caller = some t → s.st.takenObjectList t = []
  | _ => True

section Runs

variable [DecidableEq Tid] [DecidableEq Oid] {s s' : System Tid Oid} {a : Action Tid Oid} {fuel : ℕ}

lemma flag_step (hc : Core s.st s.pc) (hs : step fuel s a = some s') : s'.flag = s.flag := by
  cases step_outcome hc hs <;> rfl

/-- The lists stay in order in a step. -/
lemma Queues.step (h : Queues (ByPriority s.flag) s.st) (hc : Core s.st s.pc) (hC : KeepsPlaces s a)
    (hs : Mutex.step fuel s a = some s') : Queues (ByPriority s.flag) s'.st := by
  cases step_outcome hc hs with
  | take t m timeout suspendFlag st ret hcall htake => exact h.takeEnter hc (caller_eq_some hcall).2.1 htake
  | release t m st x hcall hr hx => exact h.release (hc.not_listed_of_live (caller_eq_some hcall).2.1) hr
  | setprioceiling t m priority st₁ st₂ st hcall h₁ hrefresh h₂ =>
    have hs₁ := h.of_idle h₁
    have hset : Queues (ByPriority s.flag)
        (st₁.setMutex m { st₁.mutex m with ceilingPriority := priority }) :=
      ⟨hs₁.order, hs₁.arrived, hs₁.free⟩
    have hceil := (hc.of_idle (nobody_of_caller hc.threads hcall) h₁).setCeiling m priority
    exact (hset.refreshOwner hceil hrefresh).of_idle h₂
  | detach self t st hcall hdetach =>
    exact h.threadDetach hc (nobody_of_caller hc.threads hcall) (hc.not_listed_of_live (caller_eq_some hcall).2.1)
      hdetach
  | exit t st hcall hdetach =>
    have hn := nobody_of_caller hc.threads hcall
    have hs' := h.threadDetach hc hn (hc.not_listed_of_live (caller_eq_some hcall).2.1) hdetach
    exact hs'.of_idle (Idle.schedule (hc.detach hn hdetach).1.threads.inv)
  | boost t m timeout st hr hpc hboost => exact h.takeBoost hc hboost
  | timer t m timeout hr hpc =>
    change Queues _ { s.st with kernel := if 0 < timeout then s.st.kernel.rtTimerStart t else s.st.kernel }
    split
    · refine h.shrink (fun l => List.Sublist.refl _) (fun l _ u _ => ?_) rfl rfl fun _ _ _ _ => id
      exact congrFun (prio_of_look Kernel.look_rtTimerStart rfl) u
    · exact h
  | moved t x st hr hpc hi => exact h.of_idle hi
  | finish t m st ret hr hpc hf =>
    cases hf with
    | owns _ _ hi => exact h.of_idle hi
    | fails s₁ s₂ _ _ _ _ h₁ hleft h₂ =>
      have hn : Core.Nobody s.pc := hc.threads.nobody (running_eq_some hr).1 (by rw [hpc]; rfl)
      exact ((h.of_idle h₁).waiterLeft (hc.of_idle hn h₁) hleft).of_idle h₂
  | clear t m hr hpc => exact ⟨h.order, h.arrived, h.free⟩
  | quiet a st hi hcpu => exact h.of_idle hi
  | expires t kernel hact hout =>
    exact h.leave hout.suspendThread (prio_of_look hout.look rfl) hout.arrival hout.arrivals
  | changePriority self t priority hcall =>
    refine h.reprioritised (fun l hl ht => ?_) priority
    exact hC ((hc.threads.ok t).suspended l ht) l hl ht
  | wait t l timeout suspendFlag kernel st hcall hl hw hi =>
    have hlock : Queues (ByPriority s.flag) { s.st with kernel := s.st.kernel.rtSpinLock } :=
      ⟨h.order, h.arrived, h.free⟩
    have hjoin : Queues (ByPriority s.flag) { s.st with kernel := kernel } :=
      hlock.join (hc.not_listed_of_live (caller_eq_some hcall).2.1) (prio_of_look hw.look rfl) hw.suspendThread
        hw.arrival hw.arrivals (fun hP => hP hl) fun hP hn => hC (hP hn) t hcall
    exact hjoin.of_idle hi
  | dequeue l threadError t rest kernel st hl hlist hready hi hcpu =>
    have hlock : Queues (ByPriority s.flag) { s.st with kernel := s.st.kernel.rtSpinLock } :=
      ⟨h.order, h.arrived, h.free⟩
    have hleave : Queues (ByPriority s.flag) { s.st with kernel := kernel } :=
      hlock.leave hready.suspendThread (prio_of_look hready.look rfl) hready.arrival hready.arrivals
    exact hleave.of_idle hi

/-- **The waiters queue by priority.**  In every run in which no priority of a waiter is changed from outside and
nobody who owns a mutex waits for something else by priority, every list that is ordered by priority holds the
threads that wait in it in the order of the priorities they have now, and equal ones as they came. -/
theorem waiters_in_order {sched : SchedState Tid} (hb : Booted sched) (flag : SuspList Oid → IpcFlag) (fuel : ℕ)
    (as : List (Action Tid Oid)) (hC : Along (Mutex.step fuel) KeepsPlaces (System.init sched flag) as)
    (hrun : exec (Mutex.step fuel) (System.init sched flag) as = some s) {l : SuspList Oid}
    (hl : ByPriority flag l) : (s.st.kernel.suspendThread l).Pairwise (Before s.st.kernel) := by
  have hinit : Queues (ByPriority flag) (System.init sched flag : System Tid Oid).st :=
    ⟨fun _ _ => List.Pairwise.nil, fun _ _ ht => absurd ht List.not_mem_nil,
      fun _ _ _ _ ht => absurd ht List.not_mem_nil⟩
  have hinv : Core s.st s.pc ∧ s.flag = flag ∧ Queues (ByPriority flag) s.st := by
    refine exec_inv_of_along (I := fun s => Core s.st s.pc ∧ s.flag = flag ∧ Queues (ByPriority flag) s.st)
      (C := KeepsPlaces) ?_ as _ s ⟨Core.init hb flag, rfl, hinit⟩ hC hrun
    rintro s a s' ⟨hc, rfl, hq⟩ hC hs
    have hflag := flag_step hc hs
    exact ⟨hc.step hs, hflag, hq.step hc hC hs⟩
  exact hinv.2.2.order l hl

end Runs

section Three

instance (flag : SuspList Oid → IpcFlag) (l : SuspList Oid) : Decidable (ByPriority flag l) :=
  inferInstanceAs (Decidable (notMutex l = true → flag l = .prio))

instance [Fintype Oid] (p : SuspList Oid → Prop) [DecidablePred p] : Decidable (∀ l, p l) :=
  decidable_of_iff ((∀ o, p (.sem o)) ∧ (∀ o, p (.mutex o)) ∧ (∀ o, p (.event o)) ∧ (∀ o, p (.mailbox o)) ∧
    (∀ o, p (.mailboxSender o)) ∧ (∀ o, p (.messagequeue o)) ∧ ∀ o, p (.messagequeueSender o))
    ⟨fun ⟨h₁, h₂, h₃, h₄, h₅, h₆, h₇⟩ l => match l with
      | .sem o => h₁ o
      | .mutex o => h₂ o
      | .event o => h₃ o
      | .mailbox o => h₄ o
      | .mailboxSender o => h₅ o
      | .messagequeue o => h₆ o
      | .messagequeueSender o => h₇ o,
    fun h => ⟨fun _ => h _, fun _ => h _, fun _ => h _, fun _ => h _, fun _ => h _, fun _ => h _, fun _ => h _⟩⟩

variable [DecidableEq Tid] [DecidableEq Oid] [Fintype Tid] [Fintype Oid]

instance (s : System Tid Oid) (a : Action Tid Oid) : Decidable (KeepsPlaces s a) :=
  match a with
  | .changePriority t _ => inferInstanceAs (Decidable
      (s.st.kernel.Suspended t → ∀ l, ByPriority s.flag l → t ∉ s.st.kernel.suspendThread l))
  | .wait l _ _ => inferInstanceAs (Decidable
      (s.flag l = .prio → ∀ t, s.caller = some t → s.st.takenObjectList t = []))
  | .take .. | .release _ | .setprioceiling .. | .detach _ | .exit | .resume | .yield | .timerExpires _
  | .tickIncrease | .dequeue .. => isTrue trivial

/-- The two more urgent threads wait for a semaphore, and the most urgent one is woken, waits for the mutex of the
last one and then joins the other one again. -/
def joinsAhead : List (Action (Fin 3) Unit) :=
  [.wait (.sem ()) (-1) .uninterruptible, .wait (.sem ()) (-1) .uninterruptible, .take () (-1) .uninterruptible,
    .dequeue (.sem ()) .eok, .take () (-1) .uninterruptible, .resume, .resume, .resume, .release (), .resume,
    .resume, .release (), .wait (.sem ()) (-1) .uninterruptible]

theorem waiters_in_order_joinsAhead :
    ∃ sched s, exec Sched.step (SchedState.init (fun _ => 10) threePriorities) (threeThreads 0 1 2) = some sched ∧
      exec (step 5) (System.init sched fun _ => .prio) joinsAhead = some s ∧
      s.st.kernel.suspendThread (.sem ()) = [2, 1] ∧
      (s.st.kernel.suspendThread (.sem ())).Pairwise (Before s.st.kernel) := by
  have hboot : ∀ sched ∈ exec Sched.step (SchedState.init (fun _ => 10) threePriorities) (threeThreads 0 1 2),
      ∀ t, (sched.look t).ttmrSet = false ∧ (sched.look t).currentPriority = (sched.look t).initPriority := by
    decide +kernel
  have hrun : ∀ sched ∈ exec Sched.step (SchedState.init (fun _ => 10) threePriorities) (threeThreads 0 1 2),
      Along (step 5) KeepsPlaces (System.init sched fun _ => .prio) joinsAhead ∧
      ∃ s ∈ exec (step 5) (System.init sched fun _ => .prio) joinsAhead,
        s.st.kernel.suspendThread (.sem ()) = [2, 1] := by
    decide +kernel
  obtain ⟨sched, hsched⟩ := Option.isSome_iff_exists.mp
    (show (exec Sched.step (SchedState.init (fun _ => 10) threePriorities) (threeThreads 0 1 2)).isSome by
      decide +kernel)
  obtain ⟨hC, s, hs, hlist⟩ := hrun sched hsched
  have hbooted : Booted sched := ⟨exec_inv (fun _ _ _ => inv_step) _ _ _ (inv_init _ _) hsched,
    fun t => (hboot sched hsched t).1, fun t => (hboot sched hsched t).2⟩
  exact ⟨sched, s, hsched, hs, hlist, waiters_in_order hbooted _ 5 _ hC hs fun _ => rfl⟩

/-- A waiter whose priority is changed keeps its place. -/
example : ∀ sched ∈ exec Sched.step (SchedState.init (fun _ => 10) threePriorities) (threeThreads 0 1 2),
    ∃ s ∈ exec (step 5) (System.init sched fun _ => .prio)
      [.wait (.sem ()) (-1) .uninterruptible, .wait (.sem ()) (-1) .uninterruptible, .changePriority 2 20],
      s.st.kernel.suspendThread (.sem ()) = [2, 1] ∧ s.st.prio 2 = 20 ∧ s.st.prio 1 = 15 := by
  decide +kernel

/-- So does the owner of a mutex that waits for a semaphore when it inherits a priority. -/
example : ∀ sched ∈ exec Sched.step (SchedState.init (fun _ => 10) threePriorities) (threeThreads 0 1 2),
    ∃ s ∈ exec (step 5) (System.init sched fun _ => .prio)
      [.wait (.event ()) 10 .uninterruptible, .wait (.sem ()) (-1) .uninterruptible, .take () (-1) .uninterruptible,
        .wait (.sem ()) (-1) .uninterruptible, .timerExpires 2, .take () (-1) .uninterruptible, .resume],
      s.st.kernel.suspendThread (.sem ()) = [1, 0] ∧ s.st.prio 1 = 15 ∧ s.st.prio 0 = 10 := by
  decide +kernel

end Three

end N32L43x.Mutex
