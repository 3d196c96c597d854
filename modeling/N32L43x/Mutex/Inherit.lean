import Mathlib.Data.Set.Card
import N32L43x.Lib.Ordered
import N32L43x.Mutex.Owner

/-!
Priority inheritance.  Each thread has the least of its own priority and those of its mutexes, and each mutex
that of its first waiter if no wait for it has timed out; the loop of `_thread_update_priority` brings this
about again after each take.
-/

namespace N32L43x.Mutex

open N32L43x.Sched N32L43x.Ipc N32L43x.Lib.Run N32L43x.Lib.Ordered

variable {Tid Oid : Type}

/-! ### What is to hold -/

/-- The thread waits for a mutex of the other one. -/
def WaitsFor (s : State Tid Oid) (t u : Tid) : Prop :=
  ∃ m, t ∈ s.waiters m ∧ (s.mutex m).owner = some u

/-- No threads wait for each other in a circle. -/
def Acyclic (s : State Tid Oid) : Prop := ∀ t, ¬ Relation.TransGen (WaitsFor s) t t

/-- The waiting threads of a mutex are in the order of their priorities. -/
def Sorted (s : State Tid Oid) (list : List Tid) : Prop := list.Pairwise fun t u => s.prio t ≤ s.prio u

/-- The mutexes in `D` have the priorities of their first waiters, and every thread has the one that its mutexes
ask for. -/
structure Settled (D : Set Oid) (s : State Tid Oid) : Prop where
  mutex : ∀ m ∈ D, (s.mutex m).priority = s.waitersPriority m
  sorted : ∀ m, Sorted s (s.waiters m)
  thread : ∀ t, s.prio t = s.threadGetMutexPriority t

/-- The same but for the thread `t`, which has another priority than when it was put in its list. -/
structure Unsettled [DecidableEq Tid] (D : Set Oid) (s : State Tid Oid) (t : Tid) : Prop where
  mutex : ∀ m ∈ D, t ∉ s.waiters m → (s.mutex m).priority = s.waitersPriority m
  sorted : ∀ m, t ∉ s.waiters m → Sorted s (s.waiters m)
  others : ∀ m, Sorted s ((s.waiters m).filter (· ≠ t))
  thread : ∀ u, s.prio u = s.threadGetMutexPriority u

section Steps

variable {D : Set Oid} {s s' : State Tid Oid} {pc : Tid → Pc Oid} {t u : Tid} {m : Oid} {fuel : ℕ}

lemma eq_of_le_iff {a b : ℕ} (h : ∀ n, n ≤ a ↔ n ≤ b) : a = b :=
  Nat.le_antisymm ((h a).mp le_rfl) ((h b).mpr le_rfl)

/-- What the mutexes of a thread ask for depends on their priorities and ceilings. -/
lemma threadGetMutexPriority_congr
    (hinit : (s'.kernel.look t).initPriority = (s.kernel.look t).initPriority)
    (htaken : s'.takenObjectList t = s.takenObjectList t)
    (hmutex : ∀ m ∈ s.takenObjectList t, (s'.mutex m).priority = (s.mutex m).priority ∧
      (s'.mutex m).ceilingPriority = (s.mutex m).ceilingPriority) :
    s'.threadGetMutexPriority t = s.threadGetMutexPriority t := by
  refine Fin.ext (eq_of_le_iff fun n => ?_)
  rw [State.le_threadGetMutexPriority, State.le_threadGetMutexPriority, hinit, htaken]
  refine and_congr_right fun _ => forall₂_congr fun m hm => ?_
  rw [(hmutex m hm).1, (hmutex m hm).2]

lemma waitersPriority_congr (hwaiters : s'.waiters m = s.waiters m)
    (hprio : ∀ u ∈ s.waiters m, s'.prio u = s.prio u) : s'.waitersPriority m = s.waitersPriority m := by
  unfold State.waitersPriority
  rw [hwaiters]
  cases hlist : s.waiters m with
  | nil => rfl
  | cons u rest =>
    have hu : u ∈ s.waiters m := by
      rw [hlist]
      exact List.mem_cons_self
    simp only [hprio u hu]

lemma Sorted.congr {list : List Tid} (h : Sorted s list) (hprio : ∀ u ∈ list, s'.prio u = s.prio u) :
    Sorted s' list := by
  refine h.imp_of_mem fun {t u} ht hu hle => ?_
  rw [hprio t ht, hprio u hu]
  exact hle

/-! ### Nothing that the priorities depend on has changed -/

/-- The priorities, and what they depend on, are the same. -/
structure SamePriorities (s s' : State Tid Oid) : Prop where
  prio : s'.prio = s.prio
  init : ∀ t, (s'.kernel.look t).initPriority = (s.kernel.look t).initPriority
  waiters : s'.waiters = s.waiters
  priority : ∀ m, (s'.mutex m).priority = (s.mutex m).priority
  ceiling : ∀ m, (s'.mutex m).ceilingPriority = (s.mutex m).ceilingPriority
  taken : s'.takenObjectList = s.takenObjectList

namespace SamePriorities

lemma trans {s₁ s₂ s₃ : State Tid Oid} (h : SamePriorities s₁ s₂) (h' : SamePriorities s₂ s₃) :
    SamePriorities s₁ s₃ where
  prio := h'.prio.trans h.prio
  init t := (h'.init t).trans (h.init t)
  waiters := h'.waiters.trans h.waiters
  priority m := (h'.priority m).trans (h.priority m)
  ceiling m := (h'.ceiling m).trans (h.ceiling m)
  taken := h'.taken.trans h.taken

lemma of_idle (h : Idle s s') : SamePriorities s s' where
  prio := h.prio
  init t := by rw [h.look]
  waiters := h.waiters
  priority m := by rw [h.mutex]
  ceiling m := by rw [h.mutex]
  taken := h.takenObjectList

lemma threadGetMutexPriority (h : SamePriorities s s') (t : Tid) :
    s'.threadGetMutexPriority t = s.threadGetMutexPriority t :=
  threadGetMutexPriority_congr (h.init t) (congrFun h.taken t) fun m _ => ⟨h.priority m, h.ceiling m⟩

lemma waitersPriority (h : SamePriorities s s') (m : Oid) : s'.waitersPriority m = s.waitersPriority m :=
  waitersPriority_congr (congrFun h.waiters m) fun u _ => congrFun h.prio u

lemma settled (h : SamePriorities s s') (hs : Settled D s) : Settled D s' where
  mutex m hm := by
    rw [h.priority, h.waitersPriority]
    exact hs.mutex m hm
  sorted m := by
    rw [h.waiters]
    exact (hs.sorted m).congr fun u _ => congrFun h.prio u
  thread t := by
    rw [h.prio, h.threadGetMutexPriority]
    exact hs.thread t

/-- A write to the mutexes that keeps their priorities. -/
lemma of_mutex (hkernel : s'.kernel = s.kernel)
    (hmutex : ∀ m, (s'.mutex m).priority = (s.mutex m).priority ∧
      (s'.mutex m).ceilingPriority = (s.mutex m).ceilingPriority)
    (htaken : s'.takenObjectList = s.takenObjectList) : SamePriorities s s' where
  prio := by
    unfold State.prio
    rw [hkernel]
  init t := by rw [hkernel]
  waiters := by
    unfold State.waiters
    rw [hkernel]
  priority m := (hmutex m).1
  ceiling m := (hmutex m).2
  taken := htaken

/-- A write to a thread that keeps its priority. -/
lemma of_look [DecidableEq Tid] {kernel : Kernel Tid Oid} {x : Look}
    (hlook : kernel.look = Function.update s.kernel.look t x)
    (hx : x.currentPriority = (s.kernel.look t).currentPriority)
    (hinit : x.initPriority = (s.kernel.look t).initPriority)
    (hlist : ∀ m, kernel.suspendThread (.mutex m) = s.kernel.suspendThread (.mutex m)) :
    SamePriorities s { s with kernel := kernel } where
  prio := by
    funext u
    change (kernel.look u).currentPriority = (s.kernel.look u).currentPriority
    rw [hlook]
    by_cases hu : u = t
    · rw [hu, Function.update_self, hx]
    · rw [Function.update_of_ne hu]
  init u := by
    change (kernel.look u).initPriority = _
    rw [hlook]
    by_cases hu : u = t
    · rw [hu, Function.update_self, hinit]
    · rw [Function.update_of_ne hu]
  waiters := funext hlist
  priority _ := rfl
  ceiling _ := rfl
  taken := rfl

end SamePriorities

/-! ### The loop -/

variable [DecidableEq Tid]

lemma Unsettled.settled (h : Unsettled D s t) (ht : ∀ m, t ∉ s.waiters m) : Settled D s where
  mutex m hm := h.mutex m hm (ht m)
  sorted m := h.sorted m (ht m)
  thread := h.thread

/-- A thread is given the priority that its mutexes ask for. -/
lemma unsettled_changePriority {p : Fin 32} (hmutex : ∀ m ∈ D, (s.mutex m).priority = s.waitersPriority m)
    (hsorted : ∀ m, Sorted s (s.waiters m)) (hthread : ∀ u, u ≠ t → s.prio u = s.threadGetMutexPriority u)
    (hp : p = s.threadGetMutexPriority t) : Unsettled D (s.changePriority t p) t := by
  have hsame : ∀ u, u ≠ t → (s.changePriority t p).prio u = s.prio u := fun u hu =>
    State.prio_changePriority_of_ne hu p
  have hask : ∀ u, (s.changePriority t p).threadGetMutexPriority u = s.threadGetMutexPriority u := fun u =>
    threadGetMutexPriority_congr ((State.reprio_changePriority p).initPriority u) rfl fun _ _ => ⟨rfl, rfl⟩
  refine ⟨fun m hD hm => ?_, fun m hm => ?_, fun m => ?_, fun u => ?_⟩
  · have hw : (s.changePriority t p).waitersPriority m = s.waitersPriority m := by
      refine waitersPriority_congr rfl fun u hu => hsame u ?_
      rintro rfl
      exact hm hu
    rw [hw]
    exact hmutex m hD
  · refine (hsorted m).congr fun u hu => hsame u ?_
    rintro rfl
    exact hm hu
  · refine Sorted.congr (s := s) ((hsorted m).sublist List.filter_sublist) fun u hu => hsame u ?_
    exact of_decide_eq_true (List.mem_filter.mp hu).2
  · rw [hask]
    by_cases hu : u = t
    · rw [hu, State.prio_changePriority_same, hp]
    · rw [hsame u hu]
      exact hthread u hu

variable [DecidableEq Oid]

lemma waiters_requeued (m' : Oid) : (s.requeued t m).waiters m' =
    if m' = m then ((s.waiters m).filter (· ≠ t)).orderedInsert (fun t sthread => s.prio t < s.prio sthread) t
    else (s.waiters m').filter (· ≠ t) := by
  by_cases hm : m' = m
  · subst hm
    rw [if_pos rfl]
    exact Function.update_self ..
  · rw [if_neg hm]
    exact Function.update_of_ne (by simpa using hm) ..

omit [DecidableEq Tid] [DecidableEq Oid] in
/-- A thread is put where its priority belongs. -/
lemma sorted_orderedInsert {list : List Tid} (h : Sorted s list) (t : Tid) :
    Sorted s (list.orderedInsert (fun t sthread => s.prio t < s.prio sthread) t) :=
  pairwise_orderedInsert (fun _ _ _ hxy hyz => hxy.trans hyz) h (fun _ _ hlt => hlt.le)
    fun _ _ hlt => not_lt.mp hlt

/-- **One turn of the loop** settles the mutex that the thread waits for, and leaves its owner. -/
lemma Unsettled.requeued (h : Unsettled D s t) (hc : Core s pc) (hsus : s.kernel.Suspended t)
    (hpend : s.pendingObject t = some m) :
    (∀ m' ∈ D, ((s.requeued t m).mutex m').priority = (s.requeued t m).waitersPriority m') ∧
    (∀ m', Sorted (s.requeued t m) ((s.requeued t m).waiters m')) ∧
    ∀ u, ((s.requeued t m).mutex m).owner ≠ some u →
      (s.requeued t m).prio u = (s.requeued t m).threadGetMutexPriority u := by
  have hplaced := hc.threads.placed t m hsus hpend
  have hprio : (s.requeued t m).prio = s.prio := rfl
  have hr := State.reprio_requeued hc.threads.placed hsus hpend hc.threads.inv
  have hother : ∀ m', m' ≠ m → t ∉ s.waiters m' := by
    intro m' hm hmem
    have heq := (hplaced (.mutex m')).mp hmem
    cases heq
    exact hm rfl
  have hwaiters : ∀ m', m' ≠ m → (s.requeued t m).waiters m' = s.waiters m' := by
    intro m' hm
    rw [waiters_requeued, if_neg hm, List.filter_eq_self]
    intro u hu
    refine decide_eq_true ?_
    rintro rfl
    exact hother m' hm hu
  have hmutex : ∀ m', m' ≠ m → (s.requeued t m).mutex m' = s.mutex m' := fun m' hm =>
    Function.update_of_ne hm ..
  refine ⟨fun m' hD => ?_, fun m' => ?_, fun u hu => ?_⟩
  · by_cases hm : m' = m
    · subst hm
      unfold State.requeued State.mutexUpdatePriority State.setMutex
      simp only [Function.update_self]
      rfl
    · rw [hmutex m' hm, h.mutex m' hD (hother m' hm)]
      exact (waitersPriority_congr (hwaiters m' hm) fun _ _ => rfl).symm
  · by_cases hm : m' = m
    · subst hm
      rw [waiters_requeued, if_pos rfl]
      exact sorted_orderedInsert (h.others m') t
    · rw [hwaiters m' hm]
      exact h.sorted m' (hother m' hm)
  · have hask : (s.requeued t m).threadGetMutexPriority u = s.threadGetMutexPriority u := by
      refine threadGetMutexPriority_congr rfl rfl fun m' hm' => ?_
      have hne : m' ≠ m := by
        rintro rfl
        rw [hr.owner] at hu
        exact hu ((hc.owners.own m' u).mpr hm')
      rw [hmutex m' hne]
      exact ⟨rfl, rfl⟩
    rw [hask]
    exact h.thread u

/-- **The loop of `_thread_update_priority`** settles everything. -/
lemma Unsettled.updateLoop (h : Unsettled D s t) (hc : Core s pc)
    (hs : State.updateLoop fuel s t = some s') : Settled D s' := by
  refine State.updateLoop_rule (P := fun s t => Unsettled D s t ∧ Core s pc) (Q := Settled D) ?_ ?_ ?_ ?_ fuel s t
    s' ⟨h, hc⟩ hs
  · rintro s₁ t₁ ⟨h₁, hc₁⟩ hlive
    exact h₁.settled fun m hm => hlive ((hc₁.threads.ok t₁).suspended _ hm)
  · rintro s₁ t₁ ⟨h₁, hc₁⟩ - hpend
    refine h₁.settled fun m hm => ?_
    have hm' : s₁.pendingObject t₁ = some m := (hc₁.threads.ok t₁).mutex m hm
    rw [hpend] at hm'
    cases hm'
  · rintro s₁ t₁ m owner ⟨h₁, hc₁⟩ hsus hpend howner heq
    obtain ⟨hmutex, hsorted, hthread⟩ := h₁.requeued hc₁ hsus hpend
    refine ⟨hmutex, hsorted, fun u => ?_⟩
    by_cases hu : u = owner
    · rw [hu]
      exact heq.symm
    · exact hthread u fun hown => hu (Option.some.inj (howner.symm.trans hown)).symm
  · rintro s₁ t₁ m owner ⟨h₁, hc₁⟩ hsus hpend howner
    obtain ⟨hmutex, hsorted, hthread⟩ := h₁.requeued hc₁ hsus hpend
    have hr := State.reprio_requeued hc₁.threads.placed hsus hpend hc₁.threads.inv
    refine ⟨unsettled_changePriority hmutex hsorted (fun u hu => ?_) rfl,
      (hc₁.of_reprio hr).of_reprio (State.reprio_changePriority _)⟩
    exact hthread u fun hown => hu (Option.some.inj (howner.symm.trans hown)).symm

/-! ### The loop ends -/

/-- The threads that a thread waits for, directly or not. -/
def waitedFor (s : State Tid Oid) (t : Tid) : Set Tid := { u | Relation.TransGen (WaitsFor s) t u }

omit [DecidableEq Tid] [DecidableEq Oid] in
lemma waitsFor_of_reprio (hr : Reprio s s') : WaitsFor s' = WaitsFor s := by
  funext t u
  unfold WaitsFor State.waiters
  simp only [hr.mem, hr.owner]

omit [DecidableEq Tid] [DecidableEq Oid] in
lemma waitedFor_of_reprio (hr : Reprio s s') (t : Tid) : waitedFor s' t = waitedFor s t := by
  unfold waitedFor
  rw [waitsFor_of_reprio hr]

omit [DecidableEq Tid] [DecidableEq Oid] in
lemma Acyclic.of_reprio (h : Acyclic s) (hr : Reprio s s') : Acyclic s' := by
  unfold Acyclic
  rw [waitsFor_of_reprio hr]
  exact h

omit [DecidableEq Tid] [DecidableEq Oid] in
/-- Fewer threads are ahead of the one that a thread waits for. -/
lemma Acyclic.ncard_lt [Finite Tid] (h : Acyclic s) (hw : WaitsFor s t u) :
    (waitedFor s u).ncard < (waitedFor s t).ncard := by
  refine Set.ncard_lt_ncard ⟨fun v hv => .head hw hv, fun hsub => ?_⟩
  exact h u (hsub (Relation.TransGen.single hw))

/-- **The loop of `_thread_update_priority` ends** when the fuel exceeds the number of threads ahead. -/
lemma updateLoop_isSome [Finite Tid] (hc : Core s pc) (hacyclic : Acyclic s)
    (hfuel : (waitedFor s t).ncard < fuel) : (State.updateLoop fuel s t).isSome := by
  induction fuel generalizing s t with
  | zero => exact absurd hfuel (Nat.not_lt_zero _)
  | succ fuel ih =>
    unfold State.updateLoop
    by_cases hsus : s.kernel.Suspended t
    · rw [if_pos hsus]
      cases hpend : s.pendingObject t with
      | none => rfl
      | some m =>
        have hr := State.reprio_requeued hc.threads.placed hsus hpend hc.threads.inv
        have hlisted : t ∈ s.waiters m := (hc.threads.placed t m hsus hpend (.mutex m)).mpr rfl
        obtain ⟨owner, howner⟩ := Option.ne_none_iff_exists'.mp fun hnone => hc.owners.free m t hnone hlisted
        have howner' : ((s.requeued t m).mutex m).owner = some owner := (hr.owner m).trans howner
        unfold State.requeued at howner'
        simp only [howner']
        split
        · have hr' := hr.trans (State.reprio_changePriority (t := owner)
            ((s.requeued t m).threadGetMutexPriority owner))
          refine ih (hc.of_reprio hr') (hacyclic.of_reprio hr') ?_
          refine lt_of_eq_of_lt (congrArg Set.ncard (waitedFor_of_reprio hr' owner)) ?_
          have hlt := hacyclic.ncard_lt ⟨m, hlisted, howner⟩
          omega
        · rfl
    · rw [if_neg hsus]
      rfl

/-! ### `rt_mutex_take` -/

/-- The priority of the first thread of a list, `0xff` if there is none. -/
def headPriority (s : State Tid Oid) : List Tid → ℕ
  | [] => 0xff
  | t :: _ => s.prio t

omit [DecidableEq Tid] [DecidableEq Oid] in
lemma waitersPriority_eq (s : State Tid Oid) (m : Oid) : s.waitersPriority m = headPriority s (s.waiters m) := by
  unfold State.waitersPriority
  cases s.waiters m <;> rfl

omit [DecidableEq Oid] in
/-- The first of the others is the first, or the thread is. -/
lemma Sorted.headPriority {list : List Tid} (h : Sorted s list) (ht : t ∈ list) :
    headPriority s list = min (s.prio t).val (headPriority s (list.filter (· ≠ t))) := by
  have hlt := (s.prio t).isLt
  cases list with
  | nil => cases ht
  | cons u rest =>
    obtain ⟨hhead, -⟩ := List.pairwise_cons.mp h
    by_cases hut : u = t
    · subst hut
      rw [List.filter_cons_of_neg (by simp)]
      change (s.prio u).val = _
      cases hrest : rest.filter (· ≠ u) with
      | nil =>
        change _ = min _ 0xff
        omega
      | cons v rest' =>
        have hv : v ∈ rest := by
          have hmem : v ∈ rest.filter (· ≠ u) := by
            rw [hrest]
            exact List.mem_cons_self
          exact (List.mem_filter.mp hmem).1
        have hle : (s.prio u).val ≤ (s.prio v).val := hhead v hv
        change _ = min _ (s.prio v).val
        omega
    · have hle : (s.prio u).val ≤ (s.prio t).val := hhead t ((List.mem_cons.mp ht).resolve_left (Ne.symm hut))
      rw [List.filter_cons_of_pos (by simpa using hut)]
      change (s.prio u).val = min _ (s.prio u).val
      omega

omit [DecidableEq Oid] in
lemma filter_orderedInsert {r : Tid → Tid → Prop} [DecidableRel r] {list : List Tid} (ht : t ∉ list) :
    (list.orderedInsert r t).filter (· ≠ t) = list := by
  have hself : list.filter (· ≠ t) = list := by
    refine List.filter_eq_self.mpr fun u hu => decide_eq_true ?_
    rintro rfl
    exact ht hu
  induction list with
  | nil => simp
  | cons u rest ih =>
    rw [List.orderedInsert_cons]
    split
    · rw [List.filter_cons_of_neg (by simp), hself]
    · have hut : u ≠ t := by
        rintro rfl
        exact ht List.mem_cons_self
      have hrest : t ∉ rest := fun hmem => ht (List.mem_cons_of_mem u hmem)
      rw [List.filter_cons_of_pos (by simpa using hut), ih hrest]
      refine List.filter_eq_self.mpr fun v hv => decide_eq_true ?_
      rintro rfl
      exact hrest hv

/-- The thread is in the list of the mutex, and has not yet passed its priority on. -/
structure Entering (D : Set Oid) (s : State Tid Oid) (t : Tid) (m : Oid) : Prop where
  listed : t ∈ s.waiters m
  mutex : ∀ m' ∈ D, m' ≠ m → (s.mutex m').priority = s.waitersPriority m'
  before : m ∈ D → (s.mutex m).priority = headPriority s ((s.waiters m).filter (· ≠ t))
  sorted : ∀ m', Sorted s (s.waiters m')
  thread : ∀ u, s.prio u = s.threadGetMutexPriority u

/-- The mutex is given the priority `p` of a waiter: what its owner is asked for is the least of `p` and what
it was asked for before. -/
lemma threadGetMutexPriority_setPriority (hc : Core s pc) {p : ℕ} (hp : p < (s.mutex m).priority) (u : Tid) :
    ((s.setMutex m { s.mutex m with priority := p }).threadGetMutexPriority u).val =
      if (s.mutex m).owner = some u then min p (s.threadGetMutexPriority u).val
      else (s.threadGetMutexPriority u).val := by
  have hat : (s.setMutex m { s.mutex m with priority := p }).mutex m = { s.mutex m with priority := p } :=
    Function.update_self ..
  have hother : ∀ m', m' ≠ m → (s.setMutex m { s.mutex m with priority := p }).mutex m' = s.mutex m' :=
    fun m' hm => Function.update_of_ne hm ..
  split
  · rename_i howner
    have htaken : m ∈ s.takenObjectList u := (hc.owners.own m u).mp howner
    refine eq_of_le_iff fun n => ?_
    rw [State.le_threadGetMutexPriority, le_min_iff, State.le_threadGetMutexPriority]
    constructor
    · rintro ⟨hinit, hall⟩
      have hnp : n ≤ p := by
        have hn := (hall m htaken).1
        rwa [hat] at hn
      refine ⟨hnp, hinit, fun m' hm' => ?_⟩
      by_cases hm : m' = m
      · have hceil := (hall m htaken).2
        rw [hat] at hceil
        rw [hm]
        exact ⟨hnp.trans hp.le, hceil⟩
      · have hn := hall m' hm'
        rwa [hother m' hm] at hn
    · rintro ⟨hnp, hinit, hall⟩
      refine ⟨hinit, fun m' hm' => ?_⟩
      by_cases hm : m' = m
      · rw [hm, hat]
        exact ⟨hnp, (hall m htaken).2⟩
      · rw [hother m' hm]
        exact hall m' hm'
  · rename_i howner
    refine congrArg Fin.val (threadGetMutexPriority_congr rfl rfl fun m' hm' => ?_)
    have hne : m' ≠ m := by
      rintro rfl
      exact howner ((hc.owners.own m' u).mpr hm')
    rw [hother m' hne]
    exact ⟨rfl, rfl⟩

/-- **The priority is passed on**: everything is settled again. -/
lemma Entering.takeBoost (h : Entering D s t m) (hc : Core s pc) (hs : s.takeBoost fuel t m = some s') :
    Settled D s' := by
  have hhead : m ∈ D → s.waitersPriority m = min (s.prio t).val (s.mutex m).priority := by
    intro hD
    rw [waitersPriority_eq, (h.sorted m).headPriority h.listed, h.before hD]
  unfold State.takeBoost at hs
  simp only at hs
  split at hs
  · rename_i hlt
    have hask := threadGetMutexPriority_setPriority hc hlt
    have hmutex : ∀ m' ∈ D, ((s.setMutex m { s.mutex m with priority := (s.prio t).val }).mutex m').priority =
        (s.setMutex m { s.mutex m with priority := (s.prio t).val }).waitersPriority m' := by
      intro m' hD
      change _ = s.waitersPriority m'
      unfold State.setMutex
      by_cases hm : m' = m
      · subst hm
        simp only [Function.update_self]
        rw [hhead hD]
        omega
      · simp only [Function.update_of_ne hm]
        exact h.mutex m' hD hm
    split at hs
    · cases hs
    · rename_i owner howner
      have howner' : (s.mutex m).owner = some owner := by
        rw [← (State.reprio_setPriority (m := m) (s.prio t).val).owner m]
        exact howner
      have hthread : ∀ u, u ≠ owner → s.prio u =
          (s.setMutex m { s.mutex m with priority := (s.prio t).val }).threadGetMutexPriority u := by
        intro u hu
        have hne : (s.mutex m).owner ≠ some u := by
          rw [howner']
          exact fun heq => hu (Option.some.inj heq).symm
        refine (h.thread u).trans (Fin.ext ?_)
        rw [hask, if_neg hne]
      have hown := h.thread owner
      have hask' := hask owner
      rw [if_pos howner', ← hown] at hask'
      split at hs
      · rename_i hurgent
        have hval : (s.prio t).val < (s.prio owner).val := hurgent
        have hc' := (hc.of_reprio (State.reprio_setPriority (m := m) (s.prio t).val)).of_reprio
          (State.reprio_changePriority (t := owner) (s.prio t))
        refine Unsettled.updateLoop (unsettled_changePriority hmutex h.sorted hthread (Fin.ext ?_)) hc' hs
        rw [hask']
        omega
      · rename_i hnot
        have hval : (s.prio owner).val ≤ (s.prio t).val := not_lt.mp hnot
        cases hs
        refine ⟨hmutex, h.sorted, fun u => ?_⟩
        by_cases hu : u = owner
        · subst hu
          refine Fin.ext ?_
          rw [hask']
          change (s.prio u).val = _
          omega
        · exact hthread u hu
  · rename_i hnot
    cases hs
    refine ⟨fun m' hD => ?_, h.sorted, h.thread⟩
    by_cases hm : m' = m
    · subst hm
      rw [hhead hD]
      omega
    · exact h.mutex m' hD hm

/-- **It can be passed on** when no threads wait for each other in a circle. -/
lemma Entering.takeBoost_isSome [Finite Tid] (h : Entering D s t m) (hc : Core s pc) (hacyclic : Acyclic s)
    (hfuel : Nat.card Tid < fuel) : (s.takeBoost fuel t m).isSome := by
  obtain ⟨owner, howner⟩ := Option.ne_none_iff_exists'.mp fun hnone => hc.owners.free m t hnone h.listed
  have hr := State.reprio_setPriority (s := s) (m := m) (s.prio t).val
  unfold State.takeBoost
  simp only
  split
  · have howner' := (hr.owner m).trans howner
    rw [howner']
    simp only
    split
    · have hr' := hr.trans (State.reprio_changePriority (t := owner) (s.prio t))
      refine updateLoop_isSome (hc.of_reprio hr') (hacyclic.of_reprio hr') (lt_of_le_of_lt ?_ hfuel)
      rw [← Set.ncard_univ]
      exact Set.ncard_le_ncard (Set.subset_univ _)
    · rfl
  · rfl

end Steps

end N32L43x.Mutex
