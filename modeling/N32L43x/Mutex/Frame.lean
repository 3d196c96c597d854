import N32L43x.Ipc.Frame
import N32L43x.Mutex.Defs

/-!
What priority inheritance changes: the priorities of threads and mutexes, and the order of the
waiting threads.
-/

namespace N32L43x.Mutex

open N32L43x.Sched N32L43x.Ipc

variable {Tid Oid : Type} {s s' s₁ s₂ s₃ : State Tid Oid} {t u : Tid} {m : Oid}

/-- Only priorities have changed, and the order in lists. -/
structure Reprio (s s' : State Tid Oid) : Prop where
  inv : Inv s.kernel.sched → Inv s'.kernel.sched
  cpu : SameCpu s.kernel.sched s'.kernel.sched
  look : ∀ t, s'.kernel.look t = { s.kernel.look t with currentPriority := s'.prio t }
  error : s'.kernel.error = s.kernel.error
  timerActive : s'.kernel.timerActive = s.kernel.timerActive
  mem : ∀ l t, t ∈ s'.kernel.suspendThread l ↔ t ∈ s.kernel.suspendThread l
  mutex : ∀ m, s'.mutex m = { s.mutex m with priority := (s'.mutex m).priority }
  pendingObject : s'.pendingObject = s.pendingObject
  takenObjectList : s'.takenObjectList = s.takenObjectList

namespace Reprio

lemma refl (s : State Tid Oid) : Reprio s s :=
  ⟨id, ⟨rfl, rfl⟩, fun _ => rfl, rfl, rfl, fun _ _ => Iff.rfl, fun _ => rfl, rfl, rfl⟩

lemma trans (h₁ : Reprio s₁ s₂) (h₂ : Reprio s₂ s₃) : Reprio s₁ s₃ where
  inv := h₂.inv ∘ h₁.inv
  cpu := h₁.cpu.trans h₂.cpu
  look t := by rw [h₂.look, h₁.look]
  error := h₂.error.trans h₁.error
  timerActive := h₂.timerActive.trans h₁.timerActive
  mem l t := (h₂.mem l t).trans (h₁.mem l t)
  mutex m := by rw [h₂.mutex, h₁.mutex]
  pendingObject := h₂.pendingObject.trans h₁.pendingObject
  takenObjectList := h₂.takenObjectList.trans h₁.takenObjectList

lemma life (h : Reprio s s') (t : Tid) : (s'.kernel.look t).life = (s.kernel.look t).life := by
  rw [h.look]

lemma initPriority (h : Reprio s s') (t : Tid) :
    (s'.kernel.look t).initPriority = (s.kernel.look t).initPriority := by
  rw [h.look]

lemma ttmrSet (h : Reprio s s') (t : Tid) :
    (s'.kernel.look t).ttmrSet = (s.kernel.look t).ttmrSet := by
  rw [h.look]

lemma suspended_iff (h : Reprio s s') (t : Tid) :
    s'.kernel.Suspended t ↔ s.kernel.Suspended t := by
  unfold Kernel.Suspended
  rw [h.life]

lemma owner (h : Reprio s s') (m : Oid) : (s'.mutex m).owner = (s.mutex m).owner := by
  rw [h.mutex]

lemma hold (h : Reprio s s') (m : Oid) : (s'.mutex m).hold = (s.mutex m).hold := by
  rw [h.mutex]

lemma ceilingPriority (h : Reprio s s') (m : Oid) :
    (s'.mutex m).ceilingPriority = (s.mutex m).ceilingPriority := by
  rw [h.mutex]

end Reprio

/-! ### The priority that the mutexes of a thread ask for -/

/-- The least of some numbers below 32, folded as `_thread_get_mutex_priority` does. -/
lemma le_foldl_priority {α : Type} (f : α → ℕ) (n : ℕ) : ∀ (l : List α) (p : Fin 32),
    n ≤ (l.foldl (fun priority a => if f a < priority.val then toPriority (f a) else priority)
      p).val ↔ n ≤ p.val ∧ ∀ a ∈ l, n ≤ f a
  | [], p => by simp
  | a :: l, p => by
    rw [List.foldl_cons, le_foldl_priority f n l, List.forall_mem_cons]
    by_cases ha : f a < p.val
    · rw [if_pos ha, toPriority_val (ha.trans p.isLt)]
      constructor
      · rintro ⟨h, hl⟩
        exact ⟨by omega, h, hl⟩
      · rintro ⟨-, h, hl⟩
        exact ⟨h, hl⟩
    · rw [if_neg ha]
      constructor
      · rintro ⟨h, hl⟩
        exact ⟨h, by omega, hl⟩
      · rintro ⟨h, -, hl⟩
        exact ⟨h, hl⟩

/-- `_thread_get_mutex_priority` is the least of the priority of the thread itself and what its mutexes
ask for. -/
lemma State.le_threadGetMutexPriority (s : State Tid Oid) (t : Tid) (n : ℕ) :
    n ≤ (s.threadGetMutexPriority t).val ↔ n ≤ (s.kernel.look t).initPriority.val ∧
      ∀ m ∈ s.takenObjectList t, n ≤ (s.mutex m).priority ∧ n ≤ (s.mutex m).ceilingPriority := by
  unfold threadGetMutexPriority
  simp only
  rw [le_foldl_priority (fun m => if (s.mutex m).priority < (s.mutex m).ceilingPriority then
    (s.mutex m).priority else (s.mutex m).ceilingPriority) n]
  refine and_congr_right fun _ => forall₂_congr fun m _ => ?_
  split <;> omega

/-- A mutex asks its owner for its ceiling. -/
lemma State.threadGetMutexPriority_le_ceiling (hm : m ∈ s.takenObjectList t) :
    (s.threadGetMutexPriority t).val ≤ (s.mutex m).ceilingPriority :=
  (((s.le_threadGetMutexPriority t _).mp le_rfl).2 m hm).2

/-! ### The steps of the loop -/

/-- A thread that waits for a mutex is in the list of it and in no other one. -/
def Placed (s : State Tid Oid) : Prop :=
  ∀ t m, s.kernel.Suspended t → s.pendingObject t = some m →
    ∀ l, t ∈ s.kernel.suspendThread l ↔ l = .mutex m

lemma Placed.of_reprio (h : Placed s) (hr : Reprio s s') : Placed s' := by
  intro t m hsus hpend l
  rw [hr.suspended_iff] at hsus
  rw [hr.pendingObject] at hpend
  rw [hr.mem]
  exact h t m hsus hpend l

variable [DecidableEq Tid]

namespace State

lemma look_changePriority (p : Fin 32) : (s.changePriority t p).kernel.look =
    Function.update s.kernel.look t { s.kernel.look t with currentPriority := p } :=
  look_rtSchedUpdatePriority (s := s.kernel.sched) p false

@[simp] lemma prio_changePriority_same (p : Fin 32) : (s.changePriority t p).prio t = p := by
  unfold prio Kernel.prio
  rw [look_changePriority, Function.update_self]

lemma prio_changePriority_of_ne (h : u ≠ t) (p : Fin 32) :
    (s.changePriority t p).prio u = s.prio u := by
  unfold prio Kernel.prio
  rw [look_changePriority, Function.update_of_ne h]

lemma reprio_changePriority (p : Fin 32) : Reprio s (s.changePriority t p) where
  inv h := h.rtSchedUpdatePriority p false
  cpu := sameCpu_rtSchedUpdatePriority p false
  look u := by
    unfold prio Kernel.prio
    rw [look_changePriority]
    by_cases hu : u = t
    · subst hu
      rw [Function.update_self]
    · rw [Function.update_of_ne hu]
  error := rfl
  timerActive := rfl
  mem _ _ := Iff.rfl
  mutex _ := rfl
  pendingObject := rfl
  takenObjectList := rfl

variable [DecidableEq Oid]

omit [DecidableEq Tid] in
lemma reprio_setPriority (p : ℕ) : Reprio s (s.setMutex m { s.mutex m with priority := p }) where
  inv := id
  cpu := ⟨rfl, rfl⟩
  look _ := rfl
  error := rfl
  timerActive := rfl
  mem _ _ := Iff.rfl
  mutex m' := by
    unfold setMutex
    by_cases hm : m' = m
    · subst hm
      simp only [Function.update_self]
    · simp only [Function.update_of_ne hm]
  pendingObject := rfl
  takenObjectList := rfl

lemma mem_requeue (l : SuspList Oid) : u ∈ (s.requeue t m).kernel.suspendThread l ↔
    (u = t ∧ l = .mutex m) ∨ (u ≠ t ∧ u ∈ s.kernel.suspendThread l) := by
  unfold requeue Kernel.rtSuspListEnqueue Kernel.listRemove
  by_cases hl : l = .mutex m
  · subst hl
    simp only [Function.update_self]
    rw [Kernel.mem_enqueued, List.mem_filter]
    by_cases hu : u = t <;> simp [hu]
  · simp only [Function.update_of_ne hl, List.mem_filter, hl, and_false, false_or]
    rw [and_comm]
    simp

lemma reprio_requeue (h : Placed s) (hsus : s.kernel.Suspended t)
    (hpend : s.pendingObject t = some m) (hinv : Inv s.kernel.sched) : Reprio s (s.requeue t m) where
  inv _ := by
    have hready : (s.kernel.sched.thread t).stat ≠ .ready :=
      (stat_of_isSuspended (life_suspended_iff.mp hsus)).2.2.1
    have heq : (s.requeue t m).kernel.sched = s.kernel.sched := hinv.toQueue.listRemove_eq hready
    rw [heq]
    exact hinv
  cpu := ⟨rfl, rfl⟩
  look _ := rfl
  error := rfl
  timerActive := rfl
  mem l u := by
    rw [mem_requeue]
    by_cases hu : u = t
    · subst hu
      rw [h u m hsus hpend l]
      simp
    · simp [hu]
  mutex _ := rfl
  pendingObject := rfl
  takenObjectList := rfl

/-- One turn of the loop of `_thread_update_priority`, up to the priority of the owner. -/
def requeued (s : State Tid Oid) (t : Tid) (m : Oid) : State Tid Oid :=
  (s.requeue t m).mutexUpdatePriority m

lemma reprio_requeued (h : Placed s) (hsus : s.kernel.Suspended t)
    (hpend : s.pendingObject t = some m) (hinv : Inv s.kernel.sched) : Reprio s (s.requeued t m) :=
  (reprio_requeue h hsus hpend hinv).trans (reprio_setPriority _)

/-- **The rule for the loop of `_thread_update_priority`.**  `P` holds when the priority of a thread
has been changed, and `Q` when the loop ends. -/
theorem updateLoop_rule {P : State Tid Oid → Tid → Prop} {Q : State Tid Oid → Prop}
    (hlive : ∀ s t, P s t → ¬ s.kernel.Suspended t → Q s)
    (hfree : ∀ s t, P s t → s.kernel.Suspended t → s.pendingObject t = none → Q s)
    (hsame : ∀ s t m owner, P s t → s.kernel.Suspended t → s.pendingObject t = some m →
      ((s.requeued t m).mutex m).owner = some owner →
      (s.requeued t m).threadGetMutexPriority owner = (s.requeued t m).prio owner →
      Q (s.requeued t m))
    (hnext : ∀ s t m owner, P s t → s.kernel.Suspended t → s.pendingObject t = some m →
      ((s.requeued t m).mutex m).owner = some owner →
      P ((s.requeued t m).changePriority owner ((s.requeued t m).threadGetMutexPriority owner))
        owner) :
    ∀ (fuel : ℕ) (s : State Tid Oid) (t : Tid) (s' : State Tid Oid), P s t →
      updateLoop fuel s t = some s' → Q s'
  | 0, _, _, _, _, h => by cases h
  | fuel + 1, s, t, s', hP, h => by
    unfold updateLoop at h
    by_cases hsus : s.kernel.Suspended t
    · rw [if_pos hsus] at h
      rcases hpend : s.pendingObject t with _ | m
      · rw [hpend] at h
        cases h
        exact hfree s t hP hsus hpend
      · simp only [hpend] at h
        rcases howner : ((s.requeued t m).mutex m).owner with _ | owner
        · rw [requeued] at howner
          rw [howner] at h
          cases h
        · have howner' := howner
          rw [requeued] at howner'
          rw [howner'] at h
          simp only at h
          split at h
          · exact updateLoop_rule hlive hfree hsame hnext fuel _ owner s'
              (hnext s t m owner hP hsus hpend howner) h
          · rename_i heq
            cases h
            exact hsame s t m owner hP hsus hpend howner (not_not.mp heq)
    · rw [if_neg hsus] at h
      cases h
      exact hlive s t hP hsus

/-- The loop has nothing to do for a thread that does not wait. -/
lemma updateLoop_of_not_suspended {fuel : ℕ} (hsus : ¬ s.kernel.Suspended t)
    (hs : updateLoop fuel s t = some s') : s' = s := by
  cases fuel with
  | zero => cases hs
  | succ fuel =>
    unfold updateLoop at hs
    rw [if_neg hsus] at hs
    exact (Option.some.inj hs).symm

omit [DecidableEq Oid] in
lemma suspended_changePriority (p : Fin 32) :
    (s.changePriority t p).kernel.Suspended u ↔ s.kernel.Suspended u :=
  (reprio_changePriority p).suspended_iff u

lemma threadUpdatePriority_of_not_suspended {fuel : ℕ} {p : Fin 32} (hsus : ¬ s.kernel.Suspended t)
    (hs : s.threadUpdatePriority fuel t p = some s') : s' = s.changePriority t p :=
  updateLoop_of_not_suspended (fun h => hsus ((suspended_changePriority p).mp h)) hs

lemma reprio_updateLoop {fuel : ℕ} (h : Placed s) (hinv : Inv s.kernel.sched)
    (hs : updateLoop fuel s t = some s') : Reprio s s' := by
  refine updateLoop_rule (P := fun s₁ _ => Reprio s s₁) (Q := fun s₁ => Reprio s s₁)
    (fun _ _ hr _ => hr) (fun _ _ hr _ _ => hr) ?_ ?_ fuel s t s' (Reprio.refl s) hs
  · intro s₁ t₁ m owner hr hsus hpend _ _
    exact hr.trans (reprio_requeued (h.of_reprio hr) hsus hpend (hr.inv hinv))
  · intro s₁ t₁ m owner hr hsus hpend _
    exact (hr.trans (reprio_requeued (h.of_reprio hr) hsus hpend (hr.inv hinv))).trans
      (reprio_changePriority _)

lemma reprio_threadUpdatePriority {fuel : ℕ} {p : Fin 32} (h : Placed s) (hinv : Inv s.kernel.sched)
    (hs : s.threadUpdatePriority fuel t p = some s') : Reprio s s' := by
  have hr : Reprio s (s.changePriority t p) := reprio_changePriority p
  exact hr.trans (reprio_updateLoop (h.of_reprio hr) (hr.inv hinv) hs)

lemma reprio_refreshOwner {fuel : ℕ} (h : Placed s) (hinv : Inv s.kernel.sched)
    (hs : s.refreshOwner fuel m = some s') : Reprio s s' := by
  unfold refreshOwner at hs
  split at hs
  · cases hs
    exact Reprio.refl s
  · simp only at hs
    split at hs
    · exact reprio_threadUpdatePriority h hinv hs
    · cases hs
      exact Reprio.refl s

lemma reprio_waiterLeft {fuel : ℕ} (h : Placed s) (hinv : Inv s.kernel.sched)
    (hs : s.waiterLeft fuel t m = some s') : Reprio s s' := by
  have hr : Reprio s (s.mutexUpdatePriority m) := reprio_setPriority _
  unfold waiterLeft at hs
  split at hs
  · exact hr.trans (reprio_refreshOwner (h.of_reprio hr) (hr.inv hinv) hs)
  · cases hs
    exact hr

lemma reprio_takeBoost {fuel : ℕ} (h : Placed s) (hinv : Inv s.kernel.sched)
    (hs : s.takeBoost fuel t m = some s') : Reprio s s' := by
  unfold takeBoost at hs
  simp only at hs
  split at hs
  · have hr : Reprio s (s.setMutex m { s.mutex m with priority := (s.prio t).val }) :=
      reprio_setPriority _
    split at hs
    · cases hs
    · split at hs
      · exact hr.trans (reprio_threadUpdatePriority (h.of_reprio hr) (hr.inv hinv) hs)
      · cases hs
        exact hr
  · cases hs
    exact Reprio.refl s

end State

end N32L43x.Mutex
