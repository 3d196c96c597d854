import N32L43x.Mutex.Detach

/-!
The owners of the mutexes over whole runs, the ends of threads included.  `_thread_detach_from_mutex`
calls `rt_mutex_release`, which refuses when the calling thread is not the owner: so a thread that is
ended by another one keeps its mutexes.
-/

namespace N32L43x.Mutex

open N32L43x.Sched N32L43x.Ipc N32L43x.Lib.Run

variable {Tid Oid : Type} [DecidableEq Tid] [DecidableEq Oid]

/-- Nobody ends another thread that owns a mutex. -/
def SparesOwners (s : System Tid Oid) : Action Tid Oid → Prop
  | .detach t => s.caller = some t ∨ s.st.takenObjectList t = []
  | _ => True

instance (s : System Tid Oid) (a : Action Tid Oid) : Decidable (SparesOwners s a) :=
  match a with
  | .detach t => inferInstanceAs (Decidable (s.caller = some t ∨ s.st.takenObjectList t = []))
  | .take .. | .release _ | .setprioceiling .. | .exit | .resume | .yield | .timerExpires _
  | .tickIncrease | .changePriority .. | .wait .. | .dequeue .. => isTrue trivial

/-- No owner has ended. -/
def OwnersAlive (s : State Tid Oid) : Prop :=
  ∀ m t, (s.mutex m).owner = some t → (s.kernel.look t).life ≠ .closed

section Steps

variable {fuel : ℕ} {s s' : System Tid Oid} {st st' : State Tid Oid} {pc : Tid → Pc Oid} {t : Tid}
  {m : Oid} {a : Action Tid Oid}

omit [DecidableEq Tid] [DecidableEq Oid] in
lemma Heirs.ownersAlive (h : Heirs st st') (halive : OwnersAlive st) : OwnersAlive st' := by
  intro m t hm hcl
  rw [h.closed] at hcl
  rcases h.owner m t hm with ho | hlife
  · exact halive m t ho hcl
  · exact hlife hcl

omit [DecidableEq Tid] [DecidableEq Oid] in
lemma Core.Detached.ownersAlive {caller : Tid} (h : Core.Detached st st' caller t) (halive : OwnersAlive st)
    (hcond : caller = t ∨ st.takenObjectList t = []) : OwnersAlive st' := by
  intro m u hm hcl
  rcases h.owner m u hm with ho | hlife
  · rcases (h.closed u).mp hcl with rfl | hcl'
    · exact h.gone hcond m hm
    · exact halive m u ho hcl'
  · exact hlife hcl

omit [DecidableEq Oid] in
/-- A thread that has not ended is written to. -/
lemma Heirs.of_look {kernel : Kernel Tid Oid} {x : Look}
    (hlook : kernel.look = Function.update st.kernel.look t x)
    (ht : (st.kernel.look t).life ≠ .closed) (hx : x.life ≠ .closed) :
    Heirs st { st with kernel := kernel } where
  closed u := by
    change (kernel.look u).life = .closed ↔ _
    rw [hlook]
    by_cases hu : u = t
    · rw [hu, Function.update_self]
      exact iff_of_false hx ht
    · rw [Function.update_of_ne hu]
  owner _ _ := .inl

omit [DecidableEq Tid] [DecidableEq Oid] in
/-- The owner of one mutex becomes a thread that has not ended. -/
lemma Heirs.of_owner (hlife : ∀ u, (st'.kernel.look u).life = .closed ↔
      (st.kernel.look u).life = .closed)
    (howner : ∀ m', m' ≠ m → (st'.mutex m').owner = (st.mutex m').owner)
    (ho : (st'.mutex m).owner = some t) (ht : (st.kernel.look t).life ≠ .closed) : Heirs st st' where
  closed := hlife
  owner m' u hm' := by
    by_cases hm : m' = m
    · rw [hm, ho] at hm'
      obtain rfl := Option.some.inj hm'
      exact .inr ht
    · rw [howner m' hm] at hm'
      exact .inl hm'

lemma heirs_takeEnter {ret : Option IpcErr} (hcore : Core st pc)
    (hlive : (st.kernel.look t).life = .live) (h : State.TakeEnter fuel st t m st' ret) :
    Heirs st st' := by
  cases h with
  | again s₁ _ _ _ h₁ h₂ =>
    exact ((Heirs.of_idle h₁).trans (Heirs.setHold m _)).trans (Heirs.of_idle h₂)
  | fresh s₁ s₂ _ _ h₁ hceil h₂ =>
    have hplaced : Placed (s₁.setMutex m
        { s₁.mutex m with owner := some t, priority := 0xff, hold := 1 }) := by
      intro u m' hsus hpend l
      change s₁.kernel.Suspended u at hsus
      rw [h₁.suspended_iff] at hsus
      change s₁.pendingObject u = some m' at hpend
      rw [h₁.pendingObject] at hpend
      change u ∈ s₁.kernel.suspendThread l ↔ _
      rw [h₁.suspendThread]
      exact hcore.threads.placed u m' hsus hpend l
    have hr : Reprio (s₁.setMutex m { s₁.mutex m with owner := some t, priority := 0xff, hold := 1 })
        s₂ := by
      split at hceil
      · exact State.reprio_threadUpdatePriority hplaced h₁.inv hceil
      · rw [hceil]
        exact Reprio.refl _
    have hset : Heirs s₁ (s₁.setMutex m
        { s₁.mutex m with owner := some t, priority := 0xff, hold := 1 }) := by
      refine Heirs.of_owner (m := m) (t := t) (fun _ => Iff.rfl)
        (fun m' hm => State.setMutex_owner_of_ne hm) ?_ ?_
      · unfold State.setMutex
        simp only [Function.update_self]
      · rw [h₁.look, hlive]
        nofun
    have htaken : Heirs s₂ { s₂ with
        takenObjectList := Function.update s₂.takenObjectList t (m :: s₂.takenObjectList t) } :=
      Heirs.of_same (fun _ => rfl) fun _ => rfl
    exact ((((Heirs.of_idle h₁).trans hset).trans (Heirs.of_reprio hr)).trans htaken).trans
      (Heirs.of_idle h₂)
  | refused _ _ _ hi => exact Heirs.of_idle hi
  | waits s₁ kernel o _ _ h₁ hsus _ _ =>
    have hlive₁ : (s₁.kernel.look t).life = .live := by
      rw [h₁.look]
      exact hlive
    have hwait : Heirs s₁ { s₁ with kernel := kernel } :=
      Heirs.of_look hsus.look (by rw [hlive₁]; nofun) nofun
    have hpend : Heirs { s₁ with kernel := kernel } { s₁ with
        kernel := kernel, pendingObject := Function.update s₁.pendingObject t (some m) } :=
      Heirs.of_same (fun _ => rfl) fun _ => rfl
    exact ((Heirs.of_idle h₁).trans hwait).trans hpend

/-- A step ends a thread or nobody. -/
lemma heirs_step (hcore : Core s.st s.pc) (hs : step fuel s a = some s') : Heirs s.st s'.st ∨
    ∃ caller t st, s.caller = some caller ∧ (a = .detach t ∨ caller = t) ∧
      Core.Detached s.st st caller t ∧ Idle st s'.st := by
  cases step_outcome hcore hs with
  | take t m timeout suspendFlag st ret hc htake =>
    exact .inl (heirs_takeEnter hcore (caller_eq_some hc).2.1 htake)
  | release t m st x hc hr hx =>
    exact .inl (Heirs.release hcore (nobody_of_caller hcore.threads hc) hr)
  | setprioceiling t m priority st₁ st₂ st hc h₁ hrefresh h₂ =>
    have hn := nobody_of_caller hcore.threads hc
    have hceil := (hcore.of_idle hn h₁).setCeiling m priority
    have hr := State.reprio_refreshOwner hceil.threads.placed hceil.threads.inv hrefresh
    have hset : Heirs st₁ (st₁.setMutex m { st₁.mutex m with ceilingPriority := priority }) := by
      refine Heirs.of_same (fun _ => rfl) fun m' => ?_
      unfold State.setMutex
      by_cases hm : m' = m
      · rw [hm]
        simp only [Function.update_self]
      · simp only [Function.update_of_ne hm]
    exact .inl ((((Heirs.of_idle h₁).trans hset).trans (Heirs.of_reprio hr)).trans (Heirs.of_idle h₂))
  | detach self t st hc hdetach =>
    obtain ⟨hcore', hd⟩ := hcore.detach (nobody_of_caller hcore.threads hc) hdetach
    exact .inr ⟨self, t, st, hc, .inl rfl, hd, Idle.refl hcore'.threads.inv⟩
  | exit t st hc hdetach =>
    obtain ⟨hcore', hd⟩ := hcore.detach (nobody_of_caller hcore.threads hc) hdetach
    exact .inr ⟨t, t, st, hc, .inr rfl, hd, Idle.schedule hcore'.threads.inv⟩
  | boost t m timeout st hr hpc hboost =>
    exact .inl (Heirs.of_reprio (State.reprio_takeBoost hcore.threads.placed hcore.threads.inv hboost))
  | timer t m timeout hr hpc =>
    have hsus : (s.st.kernel.look t).life = .suspended := ((hcore.threads.ok t).early m (by
      rw [show (s.st.sit s.pc t).pc = .boosted m timeout from hpc]
      rfl)).1
    left
    change Heirs s.st { s.st with
      kernel := if 0 < timeout then s.st.kernel.rtTimerStart t else s.st.kernel }
    split
    · refine Heirs.of_look Kernel.look_rtTimerStart ?_ ?_
      all_goals
        rw [hsus]
        nofun
    · exact Heirs.of_same (fun _ => rfl) fun _ => rfl
  | moved t x st hr hpc hi => exact .inl (Heirs.of_idle hi)
  | finish t m st ret hr hpc hf =>
    cases hf with
    | owns _ _ hi => exact .inl (Heirs.of_idle hi)
    | fails s₁ s₂ _ _ _ _ h₁ hleft h₂ =>
      have hn : Core.Nobody s.pc :=
        hcore.threads.nobody (running_eq_some hr).1 (by rw [hpc]; rfl)
      have hc₁ := hcore.of_idle hn h₁
      have hrep := State.reprio_waiterLeft hc₁.threads.placed h₁.inv hleft
      exact .inl (((Heirs.of_idle h₁).trans (Heirs.of_reprio hrep)).trans (Heirs.of_idle h₂))
  | clear t m hr hpc => exact .inl (Heirs.of_same (fun _ => rfl) fun _ => rfl)
  | quiet a st hi hcpu => exact .inl (Heirs.of_idle hi)
  | expires t kernel hact hout =>
    have hsus : (s.st.kernel.look t).life = .suspended := ((hcore.threads.ok t).active hact).1
    exact .inl (Heirs.of_look hout.look (by rw [hsus]; nofun) nofun)
  | changePriority self t priority hc =>
    exact .inl (Heirs.of_reprio (State.reprio_changePriority priority))
  | wait t l timeout suspendFlag kernel st hc hl hw hi =>
    have hlive : (s.st.kernel.look t).life = .live := (caller_eq_some hc).2.1
    have hwait : Heirs s.st { s.st with kernel := kernel } :=
      Heirs.of_look hw.look (by rw [hlive]; nofun) nofun
    exact .inl (hwait.trans (Heirs.of_idle hi))
  | dequeue l threadError t rest kernel st hl hlist hready hi hcpu =>
    have hmem : t ∈ s.st.kernel.suspendThread l := by
      rw [hlist]
      exact List.mem_cons_self ..
    have hsus : (s.st.kernel.look t).life = .suspended := (hcore.threads.ok t).suspended l hmem
    have hwake : Heirs s.st { s.st with kernel := kernel } :=
      Heirs.of_look hready.look (by rw [hsus]; nofun) nofun
    exact .inl (hwake.trans (Heirs.of_idle hi))

/-- **A step that ends no other thread that owns a mutex leaves no owner that has ended.** -/
theorem ownersAlive_step (hcore : Core s.st s.pc) (halive : OwnersAlive s.st) (hC : SparesOwners s a)
    (hs : step fuel s a = some s') : OwnersAlive s'.st := by
  rcases heirs_step hcore hs with hheirs | ⟨caller, t, st, hc, ha, hd, hi⟩
  · exact hheirs.ownersAlive halive
  · refine (Heirs.of_idle hi).ownersAlive (hd.ownersAlive halive ?_)
    rcases ha with rfl | hself
    · refine hC.imp_left fun hself => ?_
      rw [hc] at hself
      exact Option.some.inj hself
    · exact .inl hself

/-- Who waits for a mutex whose owner is ended owns it after that, or still waits for it. -/
lemma kept_step {o u : Tid} (hcore : Core s.st s.pc) (halive : OwnersAlive s.st)
    (hs : step fuel s a = some s') (hw : u ∈ s.st.waiters m) (ho : (s.st.mutex m).owner = some o)
    (hclosed : (s'.st.kernel.look o).life = .closed) :
    u ∈ s'.st.waiters m ∨ (s'.st.mutex m).owner = some u := by
  rcases heirs_step hcore hs with hheirs | ⟨caller, t, st, -, -, hd, hi⟩
  · exact absurd ((hheirs.closed o).mp hclosed) (halive m o ho)
  · rw [hi.look] at hclosed
    rw [hi.waiters, hi.owner]
    refine hd.kept m u ?_ hw
    rintro rfl
    rcases (hd.closed o).mp hclosed with rfl | hcl
    · exact hcore.owners.notOwn m o ((hcore.threads.ok o).mutex m hw) ho
    · exact halive m o ho hcl

end Steps

/-! ### Runs -/

/-- In every run in which nobody ends another thread that owns a mutex, in every state: a mutex has
an owner if and only if it is held and in the list of exactly this owner, and else it is not held; no
owner has ended; who waits for a mutex waits behind an owner that has not ended, and if the next step
ends that owner, it owns the mutex after that or still waits behind one that has not ended. -/
theorem owners_consistent {sched : SchedState Tid} (hb : Booted sched) (flag : SuspList Oid → IpcFlag)
    (fuel : ℕ) (as : List (Action Tid Oid)) {s : System Tid Oid}
    (hC : Along (step fuel) SparesOwners (System.init sched flag) as)
    (hrun : exec (step fuel) (System.init sched flag) as = some s) :
    (∀ m t, (s.st.mutex m).owner = some t ↔
      0 < (s.st.mutex m).hold ∧ ∀ u, m ∈ s.st.takenObjectList u ↔ u = t) ∧
    (∀ m, (s.st.mutex m).owner = none ↔
      (s.st.mutex m).hold = 0 ∧ ∀ u, m ∉ s.st.takenObjectList u) ∧
    (∀ m t, (s.st.mutex m).owner = some t → (s.st.kernel.look t).life ≠ .closed) ∧
    (∀ m t, t ∈ s.st.waiters m → ∃ o, (s.st.mutex m).owner = some o ∧ o ≠ t ∧
      (s.st.kernel.look o).life ≠ .closed) ∧
    ∀ a s', SparesOwners s a → step fuel s a = some s' → ∀ m t o, t ∈ s.st.waiters m →
      (s.st.mutex m).owner = some o → (s'.st.kernel.look o).life = .closed →
      (s'.st.mutex m).owner = some t ∨
      t ∈ s'.st.waiters m ∧ ∃ o', (s'.st.mutex m).owner = some o' ∧
        (s'.st.kernel.look o').life ≠ .closed := by
  have hinit : OwnersAlive (System.init sched flag : System Tid Oid).st := nofun
  obtain ⟨hcore, halive⟩ : Core s.st s.pc ∧ OwnersAlive s.st :=
    exec_inv_of_along (I := fun s => Core s.st s.pc ∧ OwnersAlive s.st)
      (fun _ _ _ h hC hs => ⟨h.1.step hs, ownersAlive_step h.1 h.2 hC hs⟩) as _ s
      ⟨Core.init hb flag, hinit⟩ hC hrun
  have hown := hcore.owners.own
  have hahead : ∀ {s : System Tid Oid}, Core s.st s.pc → ∀ m t, t ∈ s.st.waiters m →
      ∃ o, (s.st.mutex m).owner = some o := by
    intro s hcore m t hw
    exact Option.ne_none_iff_exists'.mp fun hnone => hcore.owners.free m t hnone hw
  refine ⟨fun m t => ⟨fun ho => ⟨?_, fun u => ?_⟩, fun hm => ?_⟩, fun m => ?_, halive,
    fun m t hw => ?_, fun a s' hC' hs m t o hw ho hcl => ?_⟩
  · rw [hcore.owners.hold_pos, ho]
    nofun
  · rw [← hown, ho, Option.some.injEq, eq_comm]
  · exact (hown m t).mpr ((hm.2 t).mpr rfl)
  · constructor
    · intro hnone
      refine ⟨?_, fun u hu => ?_⟩
      · have hpos := (hcore.owners.hold_pos m).not_left.mpr hnone
        omega
      · rw [← hown, hnone] at hu
        cases hu
    · rintro ⟨hzero, -⟩
      have hpos := (hcore.owners.hold_pos m).not
      rw [hzero, not_not] at hpos
      exact hpos.mp (lt_irrefl 0)
  · obtain ⟨o, ho⟩ := hahead hcore m t hw
    refine ⟨o, ho, ?_, halive m o ho⟩
    rintro rfl
    exact hcore.owners.notOwn m o ((hcore.threads.ok o).mutex m hw) ho
  · rcases kept_step hcore halive hs hw ho hcl with hw' | ho'
    · obtain ⟨o', ho'⟩ := hahead (hcore.step hs) m t hw'
      exact .inr ⟨hw', o', ho', ownersAlive_step hcore halive hC' hs m o' ho'⟩
    · exact .inl ho'

section Two

lemma booted_of_twoThreads {sched : SchedState (Fin 2)}
    (h : exec Sched.step (SchedState.init (fun _ => 10) twoPriorities) twoThreads = some sched) :
    Booted sched := by
  have hlook : ∀ sched ∈ exec Sched.step (SchedState.init (fun _ => 10) twoPriorities) twoThreads,
      ∀ t, (sched.look t).ttmrSet = false ∧
        (sched.look t).currentPriority = (sched.look t).initPriority := by
    decide +kernel
  exact ⟨exec_inv (fun _ _ _ => inv_step) _ _ _ (inv_init _ _) h, fun t => (hlook sched h t).1,
    fun t => (hlook sched h t).2⟩

/-- The second thread takes the mutex while the first one waits for a semaphore, which then waits for
the mutex too; and the second thread returns from its function. -/
def ownerExits : List (Action (Fin 2) Unit) :=
  [.wait (.sem ()) (-1) .uninterruptible, .take () (-1) .uninterruptible, .dequeue (.sem ()) .eok,
    .take () 10 .uninterruptible, .resume, .resume, .resume, .exit]

/-- The first thread deletes the thread `t`, which owns the mutex, and then waits for it. -/
def ownerDeleted (t : Fin 2) : List (Action (Fin 2) Unit) :=
  [.wait (.sem ()) (-1) .uninterruptible, .take () (-1) .uninterruptible, .dequeue (.sem ()) .eok,
    .detach t, .take () (-1) .uninterruptible, .resume, .resume, .resume]

theorem owners_consistent_ownerExits :
    ∃ sched s, exec Sched.step (SchedState.init (fun _ => 10) twoPriorities) twoThreads = some sched ∧
      exec (step 2) (System.init sched fun _ => .fifo) ownerExits = some s ∧
      (s.st.kernel.look 1).life = .closed ∧ (s.st.mutex ()).owner = some 0 ∧
      0 < (s.st.mutex ()).hold ∧ ∀ u, () ∈ s.st.takenObjectList u ↔ u = 0 := by
  have hrun : ∀ sched ∈ exec Sched.step (SchedState.init (fun _ => 10) twoPriorities) twoThreads,
      Along (step 2) SparesOwners (System.init sched fun _ => .fifo) ownerExits ∧
      ∃ s ∈ exec (step 2) (System.init sched fun _ => .fifo) ownerExits,
        (s.st.kernel.look 1).life = .closed ∧ (s.st.mutex ()).owner = some 0 := by
    decide +kernel
  obtain ⟨sched, hsched⟩ := Option.isSome_iff_exists.mp
    (show (exec Sched.step (SchedState.init (fun _ => 10) twoPriorities) twoThreads).isSome by
      decide +kernel)
  obtain ⟨hC, s, hs, hclosed, howner⟩ := hrun sched hsched
  have hall := owners_consistent (booted_of_twoThreads hsched) _ 2 ownerExits hC hs
  exact ⟨sched, s, hsched, hs, hclosed, howner, (hall.1 () 0).mp howner⟩

/-- The first thread waits for ever behind a thread that was deleted. -/
theorem owner_deleted :
    ∃ sched s, Booted sched ∧
      exec (step 2) (System.init sched fun _ => .fifo) (ownerDeleted 1) = some s ∧
      (s.st.mutex ()).owner = some (1 : Fin 2) ∧ (s.st.kernel.look 1).life = .closed ∧
      0 ∈ s.st.waiters () := by
  have hrun : ∀ sched ∈ exec Sched.step (SchedState.init (fun _ => 10) twoPriorities) twoThreads,
      ∃ s ∈ exec (step 2) (System.init sched fun _ => .fifo) (ownerDeleted 1),
        (s.st.mutex ()).owner = some (1 : Fin 2) ∧ (s.st.kernel.look 1).life = .closed ∧
        0 ∈ s.st.waiters () := by
    decide +kernel
  obtain ⟨sched, hsched⟩ := Option.isSome_iff_exists.mp
    (show (exec Sched.step (SchedState.init (fun _ => 10) twoPriorities) twoThreads).isSome by
      decide +kernel)
  obtain ⟨s, hs, hres⟩ := hrun sched hsched
  exact ⟨sched, s, booted_of_twoThreads hsched, hs, hres⟩

end Two

end N32L43x.Mutex
