import N32L43x.Mutex.Owner

/-!
Priority ceilings over whole runs.  `rt_mutex_take` of a free mutex and `rt_mutex_setprioceiling`
bring the owner up to the ceiling; `rt_mutex_release` hands the mutex over as it is.
-/

namespace N32L43x.Mutex

open N32L43x.Sched N32L43x.Ipc N32L43x.Lib.Run

variable {Tid Oid : Type}

/-- Every owner is at least as urgent as the ceilings of its mutexes. -/
def AtCeiling (s : State Tid Oid) : Prop :=
  ∀ m t, (s.mutex m).owner = some t → (s.prio t).val ≤ (s.mutex m).ceilingPriority

section Steps

variable {s s' : State Tid Oid} {pc : Tid → Pc Oid} {t : Tid} {m : Oid} {fuel : ℕ}

lemma AtCeiling.keep (h : AtCeiling s) (hprio : s'.prio = s.prio)
    (howner : ∀ m, (s'.mutex m).owner = (s.mutex m).owner)
    (hceil : ∀ m, (s'.mutex m).ceilingPriority = (s.mutex m).ceilingPriority) : AtCeiling s' := by
  intro m t hm
  rw [howner] at hm
  rw [hprio, hceil]
  exact h m t hm

lemma AtCeiling.of_idle (h : AtCeiling s) (hi : Idle s s') : AtCeiling s' :=
  h.keep hi.prio hi.owner fun m => by rw [hi.mutex]

variable [DecidableEq Tid]

/-- A thread is given a priority that its ceilings allow. -/
lemma AtCeiling.changePriority (h : AtCeiling s) {p : Fin 32}
    (hp : ∀ m, (s.mutex m).owner = some t → p.val ≤ (s.mutex m).ceilingPriority) :
    AtCeiling (s.changePriority t p) := by
  intro m u hm
  change (s.mutex m).owner = some u at hm
  change _ ≤ (s.mutex m).ceilingPriority
  by_cases hu : u = t
  · subst hu
    rw [State.prio_changePriority_same]
    exact hp m hm
  · rw [State.prio_changePriority_of_ne hu]
    exact h m u hm

/-- A thread is given the priority that its mutexes ask for. -/
lemma AtCeiling.refresh (h : AtCeiling s) (ho : Owners s) :
    AtCeiling (s.changePriority t (s.threadGetMutexPriority t)) :=
  h.changePriority fun m hm => State.threadGetMutexPriority_le_ceiling ((ho.own m t).mp hm)

variable [DecidableEq Oid]

omit [DecidableEq Tid] in
lemma AtCeiling.setPriority (h : AtCeiling s) (p : ℕ) :
    AtCeiling (s.setMutex m { s.mutex m with priority := p }) :=
  h.keep rfl (State.reprio_setPriority p).owner (State.reprio_setPriority p).ceilingPriority

lemma AtCeiling.requeued (h : AtCeiling s) : AtCeiling (s.requeued t m) :=
  (show AtCeiling (s.requeue t m) from h).setPriority _

/-- The loop of `_thread_update_priority` keeps to the ceilings: it gives each owner what its mutexes
ask for. -/
lemma AtCeiling.updateLoop (h : AtCeiling s) (hc : Core s pc)
    (hs : State.updateLoop fuel s t = some s') : AtCeiling s' := by
  refine State.updateLoop_rule (P := fun s _ => AtCeiling s ∧ Core s pc) (Q := AtCeiling)
    (fun _ _ h _ => h.1) (fun _ _ h _ _ => h.1) (fun _ _ _ _ h _ _ _ _ => h.1.requeued) ?_ fuel s t s'
    ⟨h, hc⟩ hs
  intro s₁ t₁ m owner ⟨h₁, hc₁⟩ hsus hpend _
  have hr := State.reprio_requeued hc₁.threads.placed hsus hpend hc₁.threads.inv
  have hc₂ := hc₁.of_reprio hr
  exact ⟨h₁.requeued.refresh hc₂.owners, hc₂.of_reprio (State.reprio_changePriority _)⟩

lemma AtCeiling.threadUpdatePriority (h : AtCeiling s) (hc : Core s pc) {p : Fin 32}
    (hp : ∀ m, (s.mutex m).owner = some t → p.val ≤ (s.mutex m).ceilingPriority)
    (hs : s.threadUpdatePriority fuel t p = some s') : AtCeiling s' :=
  (h.changePriority hp).updateLoop (hc.of_reprio (State.reprio_changePriority p)) hs

/-- The owner of the mutex is refreshed: it may be above a ceiling of this mutex before. -/
lemma AtCeiling.refreshOwner (hc : Core s pc)
    (h : ∀ m' t, m' ≠ m → (s.mutex m').owner = some t →
      (s.prio t).val ≤ (s.mutex m').ceilingPriority)
    (hs : s.refreshOwner fuel m = some s') : AtCeiling s' := by
  have hle : ∀ m' t, (s.mutex m').owner = some t →
      (s.threadGetMutexPriority t).val ≤ (s.mutex m').ceilingPriority := fun m' t hm' =>
    State.threadGetMutexPriority_le_ceiling ((hc.owners.own m' t).mp hm')
  unfold State.refreshOwner at hs
  cases howner : (s.mutex m).owner with
  | none =>
    rw [howner] at hs
    cases hs
    intro m' t hm'
    refine h m' t ?_ hm'
    rintro rfl
    rw [howner] at hm'
    cases hm'
  | some owner =>
    rw [howner] at hs
    simp only at hs
    split at hs
    · refine AtCeiling.updateLoop (s := s.changePriority owner _) ?_
        (hc.of_reprio (State.reprio_changePriority _)) hs
      intro m' t hm'
      change (s.mutex m').owner = some t at hm'
      change _ ≤ (s.mutex m').ceilingPriority
      by_cases ht : t = owner
      · subst ht
        rw [State.prio_changePriority_same]
        exact hle m' t hm'
      · rw [State.prio_changePriority_of_ne ht]
        refine h m' t ?_ hm'
        rintro rfl
        rw [howner] at hm'
        exact ht (Option.some.inj hm').symm
    · rename_i heq
      cases hs
      intro m' t hm'
      by_cases hm : m' = m
      · subst hm
        rw [howner] at hm'
        obtain rfl := Option.some.inj hm'
        rw [← not_not.mp heq]
        exact hle m' owner howner
      · exact h m' t hm hm'

lemma AtCeiling.waiterLeft (h : AtCeiling s) (hc : Core s pc)
    (hs : s.waiterLeft fuel t m = some s') : AtCeiling s' := by
  have h₁ : AtCeiling (s.mutexUpdatePriority m) := h.setPriority _
  unfold State.waiterLeft at hs
  split at hs
  · exact AtCeiling.refreshOwner (hc.of_reprio (State.reprio_setPriority _))
      (fun m' t _ hm' => h₁ m' t hm') hs
  · cases hs
    exact h₁

lemma AtCeiling.takeBoost (h : AtCeiling s) (hc : Core s pc)
    (hs : s.takeBoost fuel t m = some s') : AtCeiling s' := by
  unfold State.takeBoost at hs
  simp only at hs
  split at hs
  · have h₁ := h.setPriority (m := m) (s.prio t).val
    have hc₁ := hc.of_reprio (State.reprio_setPriority (m := m) (s.prio t).val)
    split at hs
    · cases hs
    · rename_i owner howner
      split at hs
      · rename_i hlt
        refine h₁.threadUpdatePriority hc₁ (fun m' hm' => ?_) hs
        have hle := h₁ m' owner hm'
        have hlt' : (s.prio t).val ≤ (s.prio owner).val := hlt.le
        exact hlt'.trans hle
      · cases hs
        exact h₁
  · cases hs
    exact h

end Steps

/-! ### Every step -/

variable [DecidableEq Tid] [DecidableEq Oid]

/-- The calls that neither end a thread nor set its priority from outside. -/
def Action.ordinary : Action Tid Oid → Bool
  | .detach _ | .exit | .changePriority .. => false
  | _ => true

/-- A mutex is only handed over to a thread that is as urgent as its ceiling. -/
def HandsBelowCeiling (s : System Tid Oid) : Action Tid Oid → Prop
  | .release m => ∀ next ∈ (s.st.waiters m).head?, (s.st.mutex m).owner = s.caller →
      (s.st.mutex m).hold = 1 → (s.st.prio next).val ≤ (s.st.mutex m).ceilingPriority
  | _ => True

instance (s : System Tid Oid) (a : Action Tid Oid) : Decidable (HandsBelowCeiling s a) :=
  match a with
  | .release m => inferInstanceAs (Decidable (∀ next ∈ (s.st.waiters m).head?,
      (s.st.mutex m).owner = s.caller → (s.st.mutex m).hold = 1 →
        (s.st.prio next).val ≤ (s.st.mutex m).ceilingPriority))
  | .take .. | .detach _ | .setprioceiling .. | .exit | .resume | .yield | .timerExpires _
  | .tickIncrease | .changePriority .. | .wait .. | .dequeue .. => isTrue trivial

namespace AtCeiling

variable {fuel : ℕ} {s s' : State Tid Oid} {pc : Tid → Pc Oid} {t u : Tid} {m : Oid}

omit [DecidableEq Tid] in
lemma setHold (h : AtCeiling s) (hold : ℕ) :
    AtCeiling (s.setMutex m { s.mutex m with hold := hold }) := by
  have hsame : ∀ m', ((s.setMutex m { s.mutex m with hold := hold }).mutex m').owner =
      (s.mutex m').owner ∧ ((s.setMutex m { s.mutex m with hold := hold }).mutex m').ceilingPriority =
      (s.mutex m').ceilingPriority := by
    intro m'
    unfold State.setMutex
    by_cases hm : m' = m
    · subst hm
      simp only [Function.update_self, and_self]
    · simp only [Function.update_of_ne hm, and_self]
  exact h.keep rfl (fun m' => (hsame m').1) fun m' => (hsame m').2

lemma takeEnter {ret : Option IpcErr} (h : AtCeiling s)
    (hlive : (s.kernel.look t).life = .live) (ht : State.TakeEnter fuel s t m s' ret) :
    AtCeiling s' := by
  cases ht with
  | again s₁ _ _ _ h₁ h₂ => exact ((h.of_idle h₁).setHold _).of_idle h₂
  | fresh s₁ s₂ _ howner h₁ hceil h₂ =>
    have hs₁ := h.of_idle h₁
    have hprio : s₁.prio = s.prio := h₁.prio
    have hother : ∀ m', m' ≠ m → (s₁.setMutex m
        { s₁.mutex m with owner := some t, priority := 0xff, hold := 1 }).mutex m' = s₁.mutex m' :=
      fun m' hm => Function.update_of_ne hm ..
    have hself : (s₁.setMutex m
        { s₁.mutex m with owner := some t, priority := 0xff, hold := 1 }).mutex m =
        { s.mutex m with owner := some t, priority := 0xff, hold := 1 } := by
      rw [← h₁.mutex]
      exact Function.update_self ..
    have hsus : ¬ (s₁.setMutex m
        { s₁.mutex m with owner := some t, priority := 0xff, hold := 1 }).kernel.Suspended t := by
      change ¬ s₁.kernel.Suspended t
      rw [h₁.suspended_iff]
      unfold Kernel.Suspended
      rw [hlive]
      nofun
    have hlt := (s.prio t).isLt
    refine AtCeiling.of_idle (s := { s₂ with
      takenObjectList := Function.update s₂.takenObjectList t (m :: s₂.takenObjectList t) }) ?_ h₂
    change AtCeiling s₂
    split at hceil
    · -- the thread is brought up to the ceiling
      rename_i hbelow
      rw [State.threadUpdatePriority_of_not_suspended hsus hceil]
      have hval : (toPriority (s.mutex m).ceilingPriority).val = (s.mutex m).ceilingPriority :=
        toPriority_val (by omega)
      intro m' u hu
      change ((s₁.setMutex m _).mutex m').owner = some u at hu
      change _ ≤ ((s₁.setMutex m _).mutex m').ceilingPriority
      by_cases hut : u = t
      · subst hut
        rw [State.prio_changePriority_same, hval]
        by_cases hm : m' = m
        · rw [hm, hself]
        · rw [hother m' hm] at hu ⊢
          have hle := hs₁ m' u hu
          rw [hprio] at hle
          omega
      · rw [State.prio_changePriority_of_ne hut]
        by_cases hm : m' = m
        · rw [hm, hself] at hu
          exact absurd (Option.some.inj hu).symm hut
        · rw [hother m' hm] at hu ⊢
          exact hs₁ m' u hu
    · -- it is there already
      rename_i habove
      rw [hceil]
      intro m' u hu
      change (s₁.prio u).val ≤ _
      by_cases hm : m' = m
      · rw [hm, hself] at hu ⊢
        obtain rfl := Option.some.inj hu
        rw [hprio]
        change (s.prio t).val ≤ (s.mutex m).ceilingPriority
        by_cases hnone : (s.mutex m).ceilingPriority = 0xff
        · rw [hnone]
          omega
        · exact not_lt.mp fun hlow => habove ⟨hnone, hlow⟩
      · rw [hother m' hm] at hu ⊢
        exact hs₁ m' u hu
  | refused _ _ _ hi => exact h.of_idle hi
  | waits s₁ kernel o _ _ h₁ hsus _ _ =>
    refine (h.of_idle h₁).keep ?_ (fun _ => rfl) fun _ => rfl
    funext u
    refine (congrArg Look.currentPriority (congrFun hsus.look u)).trans ?_
    by_cases hu : u = t
    · rw [hu, Function.update_self]
      rfl
    · rw [Function.update_of_ne hu]
      rfl

lemma release (h : AtCeiling s) (hc : Core s pc) (hn : Core.Nobody pc)
    (hC : ∀ next ∈ (s.waiters m).head?, (s.mutex m).owner = some t → (s.mutex m).hold = 1 →
      (s.prio next).val ≤ (s.mutex m).ceilingPriority)
    (hr : State.Release s t m s') : AtCeiling s' := by
  cases hr with
  | refused _ _ hi => exact h.of_idle hi
  | less s₁ _ _ _ h₁ h₂ => exact ((h.of_idle h₁).setHold _).of_idle h₂
  | last s₁ s₂ _ howner hhold h₁ hover h₂ =>
    have hs₁ := h.of_idle h₁
    have hc₁ := hc.of_idle hn h₁
    have hr := State.reprio_givenUp s₁ t m
    have hother : ∀ m', m' ≠ m → (s₁.dropped m).mutex m' = s₁.mutex m' :=
      fun m' hm => Function.update_of_ne hm ..
    -- the thread has what its other mutexes ask for, or what it had
    have hbut : ∀ m' u, m' ≠ m → (s₁.mutex m').owner = some u →
        ((s₁.givenUp t m).prio u).val ≤ (s₁.mutex m').ceilingPriority := by
      intro m' u hm hu
      have hle := hs₁ m' u hu
      unfold State.givenUp State.checkAndUpdatePrio
      simp only
      split
      · by_cases hut : u = t
        · subst hut
          rw [State.prio_changePriority_same, ← hother m' hm]
          refine State.threadGetMutexPriority_le_ceiling ?_
          change m' ∈ (s₁.takenObjectList u).filter (· ≠ m)
          exact List.mem_filter.mpr ⟨(hc₁.owners.own m' u).mp hu, decide_eq_true hm⟩
        · rw [State.prio_changePriority_of_ne hut]
          exact hle
      · exact hle
    refine AtCeiling.of_idle (s := s₂) ?_ h₂
    intro m' u hu
    rw [hover.prio, hover.ceilingPriority, hr.ceilingPriority]
    by_cases hm : m' = m
    · subst hm
      have hwait := hover.owner_self hu
      have hmem : u ∈ s₁.waiters m' := (hr.mem (.mutex m') u).mp hwait
      have hut : u ≠ t := by
        rintro rfl
        have hpend : s₁.pendingObject u = some m' := (hc₁.threads.ok u).mutex m' hmem
        refine hc₁.owners.notOwn m' u hpend ?_
        rw [h₁.mutex]
        exact howner
      have hhead : u ∈ (s.waiters m').head? := by
        rw [← h₁.waiters]
        cases hover with
        | free hlist =>
          rw [hlist] at hwait
          cases hwait
        | next kernel next rest hlist _ =>
          unfold State.handed State.mutexUpdatePriority State.setMutex at hu
          simp only [Function.update_self] at hu
          obtain rfl := Option.some.inj hu
          have hlist₁ : s₁.waiters m' = next :: rest := by
            rw [← hlist]
            exact (congrFun (State.givenUp_suspendThread s₁ t m') _).symm
          rw [hlist₁]
          rfl
      have hle := hC u hhead howner hhold
      rw [State.prio_givenUp_of_ne hut, h₁.prio]
      unfold State.dropped State.setMutex
      simp only [Function.update_self]
      rw [h₁.mutex]
      exact hle
    · rw [hover.owner_of_ne hm, hr.owner, hother m' hm] at hu
      rw [hother m' hm]
      exact hbut m' u hm hu

omit [DecidableEq Tid] [DecidableEq Oid] in
/-- The kernel does something that no priority depends on. -/
lemma withKernel {kernel : Kernel Tid Oid} (h : AtCeiling s) (hlook : ∀ u,
    (kernel.look u).currentPriority = (s.kernel.look u).currentPriority) :
    AtCeiling { s with kernel := kernel } :=
  h.keep (funext hlook) (fun _ => rfl) fun _ => rfl

omit [DecidableEq Oid] in
/-- A write that keeps the priority of a thread. -/
lemma of_look {kernel : Kernel Tid Oid} {x : Look} (h : AtCeiling s)
    (hlook : kernel.look = Function.update s.kernel.look t x)
    (hx : x.currentPriority = (s.kernel.look t).currentPriority) :
    AtCeiling { s with kernel := kernel } := by
  refine h.withKernel fun u => ?_
  rw [hlook]
  by_cases hu : u = t
  · rw [hu, Function.update_self, hx]
  · rw [Function.update_of_ne hu]

/-- **The owners stay at the ceilings** in a step that hands no mutex to a less urgent thread. -/
theorem step {s s' : System Tid Oid} {a : Action Tid Oid} (h : AtCeiling s.st) (hc : Core s.st s.pc)
    (ha : a.ordinary = true) (hC : HandsBelowCeiling s a) (hs : Mutex.step fuel s a = some s') :
    AtCeiling s'.st := by
  cases step_outcome hc hs with
  | take t m timeout suspendFlag st ret hcall htake =>
    exact h.takeEnter (caller_eq_some hcall).2.1 htake
  | release t m st x hcall hr hx =>
    refine h.release hc (nobody_of_caller hc.threads hcall) (fun next hnext howner hhold => ?_) hr
    exact hC next hnext (howner.trans hcall.symm) hhold
  | setprioceiling t m priority st₁ st₂ st hcall h₁ hrefresh h₂ =>
    have hn := nobody_of_caller hc.threads hcall
    have hceil := (hc.of_idle hn h₁).setCeiling m priority
    refine AtCeiling.of_idle (AtCeiling.refreshOwner hceil (fun m' u hm hu => ?_) hrefresh) h₂
    have hsame : (st₁.setMutex m { st₁.mutex m with ceilingPriority := priority }).mutex m' =
        st₁.mutex m' := Function.update_of_ne hm ..
    rw [hsame] at hu ⊢
    exact h.of_idle h₁ m' u hu
  | detach => cases ha
  | exit => cases ha
  | boost t m timeout st hr hpc hboost => exact h.takeBoost hc hboost
  | timer t m timeout hr hpc =>
    change AtCeiling { s.st with
      kernel := if 0 < timeout then s.st.kernel.rtTimerStart t else s.st.kernel }
    split
    · exact h.of_look Kernel.look_rtTimerStart rfl
    · exact h
  | moved t x st hr hpc hi => exact h.of_idle hi
  | finish t m st ret hr hpc hf =>
    cases hf with
    | owns _ _ hi => exact h.of_idle hi
    | fails s₁ s₂ _ _ _ _ h₁ hleft h₂ =>
      have hn : Core.Nobody s.pc := hc.threads.nobody (running_eq_some hr).1 (by rw [hpc]; rfl)
      exact ((h.of_idle h₁).waiterLeft (hc.of_idle hn h₁) hleft).of_idle h₂
  | clear t m hr hpc => exact h
  | quiet a st hi hcpu => exact h.of_idle hi
  | expires t kernel hact hout => exact h.of_look hout.look rfl
  | changePriority => cases ha
  | wait t l timeout suspendFlag kernel st hcall hl hw hi => exact (h.of_look hw.look rfl).of_idle hi
  | dequeue l threadError t rest kernel st hl hlist hready hi hcpu =>
    exact (h.of_look hready.look rfl).of_idle hi

end AtCeiling

/-! ### Runs -/

/-- In every run in which no mutex is handed over to a thread less urgent than its ceiling, in every
state: the owner of a mutex that has a ceiling is at least as urgent as that. -/
theorem ceiling_respected {sched : SchedState Tid} (hb : Booted sched) (flag : SuspList Oid → IpcFlag)
    (fuel : ℕ) (as : List (Action Tid Oid)) (ha : ∀ a ∈ as, a.ordinary = true) {s : System Tid Oid}
    (hC : Along (step fuel) HandsBelowCeiling (System.init sched flag) as)
    (hrun : exec (step fuel) (System.init sched flag) as = some s) (m : Oid) (t : Tid)
    (howner : (s.st.mutex m).owner = some t) (_ : (s.st.mutex m).ceilingPriority ≠ 0xff) :
    (s.st.prio t).val ≤ (s.st.mutex m).ceilingPriority := by
  have hinit : AtCeiling (System.init sched flag : System Tid Oid).st := nofun
  have hinv : Core s.st s.pc ∧ AtCeiling s.st :=
    exec_inv_of_along (I := fun s => Core s.st s.pc ∧ AtCeiling s.st)
      (C := fun s a => a.ordinary = true ∧ HandsBelowCeiling s a)
      (fun _ _ _ h hC hs => ⟨h.1.step hs, h.2.step h.1 hC.1 hC.2 hs⟩) as _ s
      ⟨Core.init hb flag, hinit⟩ ((along_of_forall as _ ha).and hC) hrun
  exact hinv.2 m t howner

section Two

/-- The second thread takes a mutex with the given ceiling and waits for an event; the first thread
waits for the mutex; the second one releases it. -/
def handsOver (ceiling : Fin 32) : List (Action (Fin 2) Unit) :=
  [.setprioceiling () ceiling, .wait (.sem ()) (-1) .uninterruptible,
    .take () (-1) .uninterruptible, .dequeue (.sem ()) .eok, .wait (.event ()) (-1) .uninterruptible,
    .take () (-1) .uninterruptible, .dequeue (.event ()) .eok, .resume, .resume, .resume, .release ()]

/-- A ceiling of 5 is the priority of the first thread. -/
theorem ceiling_respected_handsOver :
    ∃ sched s, exec Sched.step (SchedState.init (fun _ => 10) twoPriorities) twoThreads = some sched ∧
      exec (step 2) (System.init sched fun _ => .fifo) (handsOver 5) = some s ∧
      (s.st.mutex ()).owner = some (0 : Fin 2) ∧ (s.st.mutex ()).ceilingPriority = 5 ∧
      (s.st.prio 0).val ≤ (s.st.mutex ()).ceilingPriority := by
  have hrun : ∀ sched ∈ exec Sched.step (SchedState.init (fun _ => 10) twoPriorities) twoThreads,
      Along (step 2) HandsBelowCeiling (System.init sched fun _ => .fifo) (handsOver 5) ∧
      ∃ s ∈ exec (step 2) (System.init sched fun _ => .fifo) (handsOver 5),
        (s.st.mutex ()).owner = some (0 : Fin 2) ∧ (s.st.mutex ()).ceilingPriority = 5 := by
    decide +kernel
  obtain ⟨sched, hsched⟩ := Option.isSome_iff_exists.mp
    (show (exec Sched.step (SchedState.init (fun _ => 10) twoPriorities) twoThreads).isSome by
      decide +kernel)
  obtain ⟨hC, s, hs, howner, hceil⟩ := hrun sched hsched
  refine ⟨sched, s, hsched, hs, howner, hceil, ?_⟩
  exact ceiling_respected (booted_of_twoThreads hsched) _ 2 _ (by decide) hC hs () 0 howner
    (by rw [hceil]; decide)

/-- With a ceiling of 3 the first thread gets the mutex by hand-over and keeps its priority 5. -/
theorem ceiling_missed :
    ∃ sched s, Booted sched ∧
      exec (step 2) (System.init sched fun _ => .fifo) (handsOver 3) = some s ∧
      (s.st.mutex ()).owner = some (0 : Fin 2) ∧ (s.st.mutex ()).ceilingPriority = 3 ∧
      s.st.prio 0 = 5 := by
  have hrun : ∀ sched ∈ exec Sched.step (SchedState.init (fun _ => 10) twoPriorities) twoThreads,
      ∃ s ∈ exec (step 2) (System.init sched fun _ => .fifo) (handsOver 3),
        (s.st.mutex ()).owner = some (0 : Fin 2) ∧ (s.st.mutex ()).ceilingPriority = 3 ∧
        s.st.prio 0 = 5 := by
    decide +kernel
  obtain ⟨sched, hsched⟩ := Option.isSome_iff_exists.mp
    (show (exec Sched.step (SchedState.init (fun _ => 10) twoPriorities) twoThreads).isSome by
      decide +kernel)
  obtain ⟨s, hs, hres⟩ := hrun sched hsched
  exact ⟨sched, s, booted_of_twoThreads hsched, hs, hres⟩

end Two

end N32L43x.Mutex
