import N32L43x.Mutex.Core

/-!
What one step of the system can do, and that it keeps the threads and the owners in order.
-/

namespace N32L43x.Mutex

open N32L43x.Sched N32L43x.Ipc

variable {Tid Oid : Type} [DecidableEq Tid] [DecidableEq Oid]

/-- The moves of a thread between the critical sections of its call. -/
inductive Moves {Oid : Type} : Pc Oid → Pc Oid → Prop
  | unlock (m : Oid) : Moves (.timed m) (.waiting m)
  | schedule (m : Oid) : Moves (.waiting m) (.woken m)
  | done : Moves .releasing .run

/-- What a step can do. -/
inductive Outcome (fuel : ℕ) (s : System Tid Oid) : Action Tid Oid → System Tid Oid → Prop
  | take (t : Tid) (m : Oid) (timeout : ℤ) (suspendFlag : SuspendFlag) (st : State Tid Oid)
    (ret : Option IpcErr) (hc : s.caller = some t) (h : State.TakeEnter fuel s.st t m st ret) :
    Outcome fuel s (.take m timeout suspendFlag)
      (s.goto st t (if ret.isSome then .run else .queued m timeout))
  | release (t : Tid) (m : Oid) (st : State Tid Oid) (pc : Pc Oid) (hc : s.caller = some t)
    (h : State.Release s.st t m st) (hpc : pc = .run ∨ pc = .releasing) :
    Outcome fuel s (.release m) (s.goto st t pc)
  | setprioceiling (t : Tid) (m : Oid) (priority : Fin 32) (st₁ st₂ st : State Tid Oid)
    (hc : s.caller = some t) (h₁ : Idle s.st st₁)
    (h : (st₁.setMutex m { st₁.mutex m with ceilingPriority := priority }).refreshOwner fuel m =
      some st₂) (h₂ : Idle st₂ st) :
    Outcome fuel s (.setprioceiling m priority) { s with st := st }
  | detach (self t : Tid) (st : State Tid Oid) (hc : s.caller = some self)
    (h : s.st.threadDetach fuel self t = some st) :
    Outcome fuel s (.detach t) { s with st := st }
  | exit (t : Tid) (st : State Tid Oid) (hc : s.caller = some t)
    (h : s.st.threadDetach fuel t t = some st) : Outcome fuel s .exit { s with st := st.schedule }
  | boost (t : Tid) (m : Oid) (timeout : ℤ) (st : State Tid Oid) (hr : s.running = some t)
    (hpc : s.pc t = .queued m timeout) (h : s.st.takeBoost fuel t m = some st) :
    Outcome fuel s .resume (s.goto st t (.boosted m timeout))
  | timer (t : Tid) (m : Oid) (timeout : ℤ) (hr : s.running = some t)
    (hpc : s.pc t = .boosted m timeout) :
    Outcome fuel s .resume (s.goto { s.st with
      kernel := if 0 < timeout then s.st.kernel.rtTimerStart t else s.st.kernel } t (.timed m))
  | moved (t : Tid) (x : Pc Oid) (st : State Tid Oid) (hr : s.running = some t)
    (hpc : Moves (s.pc t) x) (hi : Idle s.st st) : Outcome fuel s .resume (s.goto st t x)
  | finish (t : Tid) (m : Oid) (st : State Tid Oid) (ret : IpcErr) (hr : s.running = some t)
    (hpc : s.pc t = .woken m) (h : State.TakeFinish fuel s.st t m st ret) :
    Outcome fuel s .resume (s.goto st t (if ret = .eok then .run else .failed m))
  | clear (t : Tid) (m : Oid) (hr : s.running = some t) (hpc : s.pc t = .failed m) :
    Outcome fuel s .resume (s.goto { s.st with
      pendingObject := Function.update s.st.pendingObject t none } t .run)
  | quiet (a : Action Tid Oid) (st : State Tid Oid) (hi : Idle s.st st)
    (hcpu : 0 < s.st.kernel.sched.lockNest → SameCpu s.st.kernel.sched st.kernel.sched) :
    Outcome fuel s a { s with st := st }
  | expires (t : Tid) (kernel : Kernel Tid Oid) (hact : s.st.kernel.timerActive t = true)
    (hout : Kernel.TimesOut { s.st.kernel with
      timerActive := Function.update s.st.kernel.timerActive t false } kernel t) :
    Outcome fuel s (.timerExpires t) { s with st := { s.st with kernel := kernel } }
  | changePriority (self t : Tid) (priority : Fin 32) (hc : s.caller = some self) :
    Outcome fuel s (.changePriority t priority) { s with st := s.st.changePriority t priority }
  | wait (t : Tid) (l : SuspList Oid) (timeout : ℤ) (suspendFlag : SuspendFlag)
    (kernel : Kernel Tid Oid) (st : State Tid Oid) (hc : s.caller = some t) (hl : notMutex l = true)
    (hw : s.st.kernel.rtSpinLock.Waits kernel t l (s.flag l) (decide (0 < timeout)))
    (hi : Idle { s.st with kernel := kernel } st) :
    Outcome fuel s (.wait l timeout suspendFlag) { s with st := st }
  | dequeue (l : SuspList Oid) (threadError : IpcErr) (t : Tid) (rest : List Tid)
    (kernel : Kernel Tid Oid) (st : State Tid Oid) (hl : notMutex l = true)
    (hlist : s.st.kernel.suspendThread l = t :: rest) (hready : s.st.kernel.rtSpinLock.Readies kernel t)
    (hi : Idle { s.st with kernel := kernel } st)
    (hcpu : 0 < s.st.kernel.sched.lockNest → SameCpu s.st.kernel.sched st.kernel.sched) :
    Outcome fuel s (.dequeue l threadError) { s with st := st }

section Cases

variable {fuel : ℕ} {s s' : System Tid Oid} {t : Tid}

omit [DecidableEq Tid] [DecidableEq Oid] in
lemma running_eq_some (h : s.running = some t) : s.st.kernel.sched.currentThread = some t ∧
    ((s.st.kernel.look t).life = .live ∨ (s.pc t).locked = true) := by
  unfold System.running at h
  split at h
  · cases h
  · rename_i u hcur
    split at h
    · rename_i hlive
      obtain rfl := Option.some.inj h
      exact ⟨hcur, hlive⟩
    · cases h

omit [DecidableEq Tid] in
lemma caller_eq_some (h : s.caller = some t) : s.st.kernel.sched.currentThread = some t ∧
    (s.st.kernel.look t).life = .live ∧ s.pc t = .run := by
  unfold System.caller at h
  split at h
  · cases h
  · rename_i u hrun
    split at h
    · rename_i hpc
      obtain rfl := Option.some.inj h
      obtain ⟨hcur, hlive | hlocked⟩ := running_eq_some hrun
      · exact ⟨hcur, hlive, hpc⟩
      · rw [hpc] at hlocked
        cases hlocked
    · cases h

omit [DecidableEq Tid] in
/-- The calling thread is outside all spin locks, and so is everybody else. -/
lemma nobody_of_caller (h : Threads s.st s.pc) (hc : s.caller = some t) : Core.Nobody s.pc := by
  obtain ⟨hcur, -, hpc⟩ := caller_eq_some hc
  exact h.nobody hcur (by rw [hpc]; rfl)

lemma resume_outcome (h : Core s.st s.pc) (hr : s.running = some t)
    (hs : resume fuel s t = some s') : Outcome fuel s .resume s' := by
  unfold resume at hs
  cases hpc : s.pc t with
  | run =>
    rw [hpc] at hs
    cases hs
  | queued m timeout =>
    rw [hpc] at hs
    simp only [Option.map_eq_some_iff] at hs
    obtain ⟨st, hst, rfl⟩ := hs
    exact .boost t m timeout st hr hpc hst
  | boosted m timeout =>
    rw [hpc] at hs
    cases hs
    exact .timer t m timeout hr hpc
  | timed m =>
    rw [hpc] at hs
    cases hs
    exact .moved t (.waiting m) _ hr (hpc ▸ .unlock m) (Idle.unlock h.threads.inv)
  | waiting m =>
    rw [hpc] at hs
    cases hs
    exact .moved t (.woken m) _ hr (hpc ▸ .schedule m) (Idle.schedule h.threads.inv)
  | woken m =>
    rw [hpc] at hs
    simp only [Option.map_eq_some_iff] at hs
    obtain ⟨⟨st, ret⟩, hst, rfl⟩ := hs
    exact .finish t m st ret hr hpc
      (State.takeFinish_cases h.threads.inv h.threads.placed hst)
  | failed m =>
    rw [hpc] at hs
    cases hs
    exact .clear t m hr hpc
  | releasing =>
    rw [hpc] at hs
    cases hs
    exact .moved t .run _ hr (hpc ▸ .done) (Idle.schedule h.threads.inv)

lemma wait_outcome (h : Core s.st s.pc) (hc : s.caller = some t) {l : SuspList Oid}
    (hl : notMutex l = true) (timeout : ℤ) (suspendFlag : SuspendFlag) :
    Outcome fuel s (.wait l timeout suspendFlag)
      { s with st := s.st.waitOn t l (s.flag l) timeout suspendFlag } := by
  obtain ⟨-, hlive, -⟩ := caller_eq_some hc
  have hlive' : (s.st.kernel.rtSpinLock.look t).life = .live := hlive
  have hinv := (Kernel.quiet_rtSpinLock h.threads.inv).inv
  obtain ⟨k₁, hsuspend, hsus⟩ :=
    Kernel.rtThreadSuspendToList_of_live hlive' l (s.flag l) suspendFlag
  have hact : s.st.kernel.rtSpinLock.timerActive t = false := by
    rw [Bool.eq_false_iff]
    intro hact
    have hs := ((h.threads.ok t).active hact).1
    rw [show (s.st.sit s.pc t).life = .live from hlive] at hs
    cases hs
  have hw := hsus.waits hact (0 < timeout)
  have heq : s.st.waitOn t l (s.flag l) timeout suspendFlag =
      { s.st with kernel := (if 0 < timeout then k₁.rtTimerStart t else k₁).rtSpinUnlock } := by
    unfold State.waitOn
    rw [hsuspend]
  rw [heq]
  exact .wait t l timeout suspendFlag _ _ hc hl hw
    (Idle.of_quiet (Kernel.quiet_rtSpinUnlock (hw.inv hinv)))

lemma dequeue_outcome (h : Core s.st s.pc) {l : SuspList Oid} (hl : notMutex l = true)
    (threadError : IpcErr) :
    Outcome fuel s (.dequeue l threadError) { s with st := { s.st with
      kernel := (s.st.kernel.rtSpinLock.rtSuspListDequeue l threadError).1.rtSpinUnlock } } := by
  have hlock := Kernel.quiet_rtSpinLock h.threads.inv
  cases hlist : s.st.kernel.suspendThread l with
  | nil =>
    have hdeq : s.st.kernel.rtSpinLock.rtSuspListDequeue l threadError =
        (s.st.kernel.rtSpinLock, none) := by
      unfold Kernel.rtSuspListDequeue
      rw [show s.st.kernel.rtSpinLock.suspendThread l = [] from hlist]
    rw [hdeq]
    exact .quiet _ _ (Idle.of_quiet (Kernel.quiet_critical h.threads.inv))
      fun hn => Kernel.sameCpu_critical hn ⟨rfl, rfl⟩
  | cons u rest =>
    have hmem : u ∈ s.st.kernel.suspendThread l := by
      rw [hlist]
      exact List.mem_cons_self ..
    have hsus : s.st.kernel.Suspended u := (h.threads.ok u).suspended l hmem
    obtain ⟨k₁, heq, hready⟩ := Kernel.rtSchedThreadReady_of_timerLive
      (k := s.st.kernel.rtSpinLock) (t := u) hsus (h.threads.timerLive hsus)
    have hdeq : s.st.kernel.rtSpinLock.rtSuspListDequeue l threadError =
        ({ k₁ with error := Function.update k₁.error u threadError }, some u) := by
      unfold Kernel.rtSuspListDequeue
      rw [show s.st.kernel.rtSpinLock.suspendThread l = u :: rest from hlist]
      simp only [heq]
    have hinv₁ : Inv k₁.sched := hready.inv hlock.inv
    rw [hdeq]
    have hi₁ : Idle { s.st with kernel := k₁ } { s.st with
        kernel := { k₁ with error := Function.update k₁.error u threadError } } :=
      ⟨hinv₁, rfl, rfl, rfl, rfl, rfl, rfl, rfl, rfl⟩
    have hunlock := Kernel.quiet_rtSpinUnlock
      (k := { k₁ with error := Function.update k₁.error u threadError }) hinv₁
    exact .dequeue l threadError u rest k₁ _ hl hlist hready (hi₁.trans (Idle.of_quiet hunlock))
      fun hn => Kernel.sameCpu_critical hn hready.cpu

/-- **What a step can do.** -/
theorem step_outcome {a : Action Tid Oid} (h : Core s.st s.pc) (hs : step fuel s a = some s') :
    Outcome fuel s a s' := by
  have hinv := h.threads.inv
  cases a with
  | take m timeout suspendFlag =>
    simp only [step, Option.bind_eq_some_iff, Option.map_eq_some_iff] at hs
    obtain ⟨t, hc, ⟨st, ret⟩, hst, rfl⟩ := hs
    exact .take t m timeout suspendFlag st ret hc
      (State.takeEnter_cases hinv h.threads.placed (caller_eq_some hc).2.1 hst)
  | release m =>
    simp only [step, Option.map_eq_some_iff] at hs
    obtain ⟨t, hc, rfl⟩ := hs
    refine .release t m _ _ hc (State.rtMutexRelease_cases hinv (fun u hu => ?_) fun hown => ?_) ?_
    · have hsus : s.st.kernel.Suspended u := (h.threads.ok u).suspended _ hu
      exact ⟨hsus, h.threads.timerLive hsus⟩
    · exact ⟨(h.owners.hold_pos m).mpr (by rw [hown]; nofun), h.owners.hold_le m⟩
    · split
      · exact .inr rfl
      · exact .inl rfl
  | setprioceiling m priority =>
    simp only [step, Option.bind_eq_some_iff, Option.map_eq_some_iff] at hs
    obtain ⟨t, hc, st, hst, rfl⟩ := hs
    unfold State.rtMutexSetprioceiling at hst
    simp only [Option.map_eq_some_iff] at hst
    obtain ⟨st₂, hst₂, rfl⟩ := hst
    have h₁ := Idle.lock hinv
    have hplaced : Placed (s.st.lock.setMutex m { s.st.lock.mutex m with
        ceilingPriority := priority }) := h.threads.placed
    exact .setprioceiling t m priority _ st₂ _ hc h₁ hst₂
      (Idle.unlock ((State.reprio_refreshOwner hplaced h₁.inv hst₂).inv h₁.inv))
  | detach t =>
    simp only [step, Option.bind_eq_some_iff, Option.map_eq_some_iff] at hs
    obtain ⟨self, hc, st, hst, rfl⟩ := hs
    exact .detach self t st hc hst
  | exit =>
    simp only [step, Option.bind_eq_some_iff, Option.map_eq_some_iff] at hs
    obtain ⟨t, hc, st, hst, rfl⟩ := hs
    exact .exit t st hc hst
  | resume =>
    simp only [step, Option.bind_eq_some_iff] at hs
    obtain ⟨t, hr, hs⟩ := hs
    exact resume_outcome h hr hs
  | yield =>
    simp only [step, Option.map_eq_some_iff] at hs
    obtain ⟨t, hc, rfl⟩ := hs
    have hyield : Inv (rtSchedThreadYield s.st.kernel.sched t) := hinv.rtSchedThreadYield
    refine .quiet _ _ ⟨hyield.rtSchedUnlockNResched, ?_, rfl, rfl, rfl, rfl, rfl, rfl, rfl⟩ fun hn => ?_
    · refine (look_rtSchedUnlockNResched hyield).trans ?_
      exact look_modify_of_eq rfl
    · change SameCpu _ (rtSchedUnlockNResched (rtSchedThreadYield s.st.kernel.sched t))
      rw [rtSchedUnlockNResched_of_locked (s := rtSchedThreadYield s.st.kernel.sched t) hn]
      exact ⟨rfl, rfl⟩
  | timerExpires t =>
    simp only [step] at hs
    split at hs
    · rename_i hact
      cases hs
      have hsus : s.st.kernel.Suspended t := ((h.threads.ok t).active hact).1
      exact .expires t _ hact (Kernel.timesOut_threadTimeout hinv hsus)
    · cases hs
  | tickIncrease =>
    simp only [step, Option.map_eq_some_iff] at hs
    obtain ⟨t, hcur, rfl⟩ := hs
    have hstep : Sched.step s.st.kernel.sched (.tickIncrease 1) =
        some (rtSchedTickIncrease s.st.kernel.sched t 1) := by
      simp only [Sched.step, hcur, Option.map_some]
    exact .quiet _ _ ⟨inv_step hinv hstep, look_rtSchedTickIncrease hinv 1, rfl, rfl, rfl, rfl, rfl,
      rfl, rfl⟩ fun hn => sameCpu_rtSchedTickIncrease hn 1
  | changePriority t priority =>
    simp only [step, Option.map_eq_some_iff] at hs
    obtain ⟨self, hc, rfl⟩ := hs
    exact .changePriority self t priority hc
  | wait l timeout suspendFlag =>
    simp only [step, Option.bind_eq_some_iff] at hs
    obtain ⟨t, hc, hs⟩ := hs
    split at hs
    · rename_i hl
      cases hs
      exact wait_outcome h hc hl timeout suspendFlag
    · cases hs
  | dequeue l threadError =>
    simp only [step] at hs
    split at hs
    · rename_i hl
      cases hs
      exact dequeue_outcome h hl threadError
    · cases hs

end Cases

/-! ### The steps keep the threads and the owners in order -/

namespace Core

variable {fuel : ℕ} {s s' : State Tid Oid} {pc : Tid → Pc Oid} {t u : Tid} {m : Oid}

omit [DecidableEq Tid] [DecidableEq Oid] in
/-- A thread that runs outside all calls waits for nothing. -/
lemma pending_of_run (h : Core s pc) (hpc : pc t = .run) : s.pendingObject t = none := by
  cases hp : s.pendingObject t with
  | none => rfl
  | some m =>
    have htarget := (h.threads.ok t).target m hp
    rw [show (s.sit pc t).pc = .run from hpc] at htarget
    cases htarget

omit [DecidableEq Tid] [DecidableEq Oid] in
lemma timer_of_live (h : Core s pc) (hlive : (s.kernel.look t).life = .live) :
    s.kernel.timerActive t = false := by
  rw [Bool.eq_false_iff]
  intro hact
  have hs := ((h.threads.ok t).active hact).1
  rw [show (s.sit pc t).life = .live from hlive] at hs
  cases hs

omit [DecidableEq Tid] [DecidableEq Oid] in
lemma not_listed_of_live (h : Core s pc) (hlive : (s.kernel.look t).life = .live)
    (l : SuspList Oid) : t ∉ s.kernel.suspendThread l := by
  intro hl
  have hs := (h.threads.ok t).suspended l hl
  rw [show (s.sit pc t).life = .live from hlive] at hs
  cases hs

omit [DecidableEq Oid] in
/-- The owner of nothing in particular stays where it is. -/
lemma update_run (hpc : pc t = .run) : Function.update pc t .run = pc := by
  rw [← hpc]
  exact Function.update_eq_self t pc

/-- The uncontended take. -/
lemma fresh {s₁ s₂ : State Tid Oid} (h : Core s₁ pc) (hpc : pc t = .run)
    (howner : (s₁.mutex m).owner = none)
    (hr : Reprio (s₁.setMutex m { s₁.mutex m with owner := some t, priority := 0xff, hold := 1 }) s₂) :
    Core { s₂ with
      takenObjectList := Function.update s₂.takenObjectList t (m :: s₂.takenObjectList t) } pc := by
  have hthreads : Threads (s₁.setMutex m
      { s₁.mutex m with owner := some t, priority := 0xff, hold := 1 }) pc :=
    h.threads.withKernel rfl rfl
  have hthreads₂ : Threads s₂ pc := hthreads.of_reprio hr
  have hpend : s₂.pendingObject = s₁.pendingObject := hr.pendingObject
  refine ⟨hthreads₂.withKernel rfl rfl, (OwnersBut.of_free h.owners howner).acquire (t := t) ?_
    (fun m' hm => ?_) ?_ ?_ ?_ (fun m' u hu => ?_) (fun m' u hu => ?_)⟩
  · change s₂.pendingObject t ≠ some m
    rw [hpend, h.pending_of_run hpc]
    nofun
  · change (s₂.mutex m').owner = _ ∧ (s₂.mutex m').hold = _
    rw [hr.owner, hr.hold]
    unfold State.setMutex
    simp only [Function.update_of_ne hm, and_self]
  · change (s₂.mutex m).owner = _
    rw [hr.owner]
    unfold State.setMutex
    simp only [Function.update_self]
  · change (s₂.mutex m).hold = 1
    rw [hr.hold]
    unfold State.setMutex
    simp only [Function.update_self]
  · change Function.update s₂.takenObjectList t (m :: s₂.takenObjectList t) = _
    rw [hr.takenObjectList]
    rfl
  · exact (hr.mem (.mutex m') u).mp hu
  · have hu' : s₂.pendingObject u = some m' := hu
    rwa [hpend] at hu'

/-- The thread is put in the list of the mutex. -/
lemma queued {kernel : Kernel Tid Oid} {o : Tid} {timeout : ℤ} (h : Core s pc)
    (hlive : (s.kernel.look t).life = .live) (howner : (s.mutex m).owner = some o) (hne : o ≠ t)
    (hsus : s.kernel.Suspends kernel t (.mutex m) .prio) (hn : Nobody pc)
    (hcpu : kernel.sched.currentThread = some t ∧ 0 < kernel.sched.lockNest) :
    Core { s with kernel := kernel, pendingObject := Function.update s.pendingObject t (some m) }
      (Function.update pc t (.queued m timeout)) := by
  have hact := h.timer_of_live hlive
  have hact' : kernel.timerActive t = false := by
    rw [hsus.timerActive, Bool.eq_false_iff]
    intro hact'
    rw [Kernel.timersStopped_le hact'] at hact
    cases hact
  have hlook : ∀ u, u ≠ t → kernel.look u = s.kernel.look u := by
    intro u hu
    rw [hsus.look, Function.update_of_ne hu]
  have hlist : ∀ u l, u ∈ kernel.suspendThread l ↔
      (u = t ∧ l = .mutex m) ∨ u ∈ s.kernel.suspendThread l := by
    intro u l
    rw [hsus.suspendThread]
    by_cases hl : l = .mutex m
    · subst hl
      rw [Function.update_self, Kernel.mem_enqueued]
      simp
    · rw [Function.update_of_ne hl]
      simp [hl]
  refine ⟨h.threads.change t (hsus.inv h.threads.inv) (fun u hu => ?_) ?_ fun u hu => ?_, ?_⟩
  · refine State.sit_congr (by rw [hlook u hu]) (by rw [hlook u hu]) ?_ (fun l => ?_)
      (Function.update_of_ne hu ..) (Function.update_of_ne hu ..)
    · change kernel.timerActive u = _
      rw [hsus.timerActive, Kernel.timersStopped_of_ne hu]
    · change u ∈ kernel.suspendThread l ↔ _
      rw [hlist]
      simp [hu]
  · refine Sit.ok_of_listed (l := .mutex m) ?_ (fun l => ?_) ?_ (fun m' hm' => ?_) nofun
      (fun m' hm' => ?_) (fun m' hm' => ?_)
    · change (kernel.look t).life = _
      rw [hsus.look, Function.update_self]
    · change t ∈ kernel.suspendThread l ↔ _
      rw [hlist]
      simp [h.not_listed_of_live hlive l]
    · change kernel.timerActive t = (kernel.look t).ttmrSet
      rw [hact', hsus.look, Function.update_self]
    · cases hm'
      exact Function.update_self ..
    · unfold State.sit at hm' ⊢
      simp only [Function.update_self] at hm' ⊢
      exact hm'
    · unfold State.sit at hm' ⊢
      simp only [Function.update_self] at hm' ⊢
      exact ⟨hm', hact'⟩
  · by_cases hut : u = t
    · subst hut
      exact hcpu
    · rw [Function.update_of_ne hut, hn u] at hu
      cases hu
  · refine ⟨h.owners.own, h.owners.nodup, h.owners.hold_pos, h.owners.hold_le, fun m' u hm' hu => ?_,
      fun m' u hu => ?_⟩
    · rcases (hlist u _).mp hu with ⟨-, heq⟩ | hu'
      · cases heq
        have hm'' : (s.mutex m).owner = none := hm'
        rw [howner] at hm''
        cases hm''
      · exact h.owners.free m' u hm' hu'
    · change Function.update s.pendingObject t (some m) u = some m' at hu
      by_cases hut : u = t
      · subst hut
        rw [Function.update_self] at hu
        cases hu
        change (s.mutex m).owner ≠ _
        rw [howner]
        exact fun heq => hne (Option.some.inj heq)
      · rw [Function.update_of_ne hut] at hu
        exact h.owners.notOwn m' u hu

lemma takeEnter {ret : Option IpcErr} {timeout : ℤ} (h : Core s pc) (hpc : pc t = .run)
    (hcur : s.kernel.sched.currentThread = some t) (hlive : (s.kernel.look t).life = .live)
    (hn : Nobody pc) (ht : State.TakeEnter fuel s t m s' ret) :
    Core s' (Function.update pc t (if ret.isSome then .run else .queued m timeout)) := by
  cases ht with
  | again s₁ _ howner hhold h₁ h₂ =>
    have hc := h.of_idle hn h₁
    have howner₁ : (s₁.mutex m).owner = some t := by
      rw [h₁.mutex]
      exact howner
    have hset := hc.owners.setHold (m := m) ((s₁.mutex m).hold + 1) (Nat.succ_pos _)
      (by rw [h₁.mutex]; exact hhold) (by rw [howner₁]; nofun)
    rw [Option.isSome_some, if_pos rfl, update_run hpc]
    exact (hc.withOwners hset rfl rfl).of_idle hn h₂
  | fresh s₁ s₂ _ howner h₁ hceil h₂ =>
    have hc := h.of_idle hn h₁
    rw [Option.isSome_some, if_pos rfl, update_run hpc]
    refine (fresh hc hpc (by rw [h₁.mutex]; exact howner) ?_).of_idle hn h₂
    have hplaced : Placed (s₁.setMutex m
        { s₁.mutex m with owner := some t, priority := 0xff, hold := 1 }) := hc.threads.placed
    split at hceil
    · exact State.reprio_threadUpdatePriority hplaced h₁.inv hceil
    · rw [hceil]
      exact Reprio.refl _
  | refused _ e he hi =>
    rw [Option.isSome_some, if_pos rfl, update_run hpc]
    exact h.of_idle hn hi
  | waits s₁ kernel o howner hne h₁ hsus hinv hcpu =>
    have hc := h.of_idle hn h₁
    refine queued hc ?_ ?_ hne hsus hn ⟨hcpu.1.trans hcur, hcpu.2⟩
    · rw [h₁.look]
      exact hlive
    · rw [h₁.mutex]
      exact howner

omit [DecidableEq Oid] in
/-- A thread outside the spin locks goes on outside them. -/
lemma nobody_goto {x : Pc Oid} (h : Core s pc) (hcur : s.kernel.sched.currentThread = some t)
    (hx : x.locked = false) : Nobody (Function.update pc t x) := by
  intro u
  by_cases hu : u = t
  · rw [hu, Function.update_self]
    exact hx
  · rw [Function.update_of_ne hu]
    exact h.threads.others_unlocked hcur hu

omit [DecidableEq Oid] in
/-- What is running leaves the spin lock, or calls the scheduler. -/
lemma moved {x : Pc Oid} (h : Core s pc) (hcur : s.kernel.sched.currentThread = some t)
    (hpc : Moves (pc t) x) (hi : Idle s s') : Core s' (Function.update pc t x) := by
  have htarget : x.target = (pc t).target := by
    generalize pc t = y at hpc
    cases hpc <;> rfl
  have hx : x.locked = false := by
    generalize pc t = y at hpc
    cases hpc <;> rfl
  refine (h.goto hx fun m hm => ?_).of_idle (h.nobody_goto hcur hx) hi
  rw [htarget]
  exact (h.threads.ok t).target m hm

omit [DecidableEq Oid] in
/-- The timer of the thread is started before the spin lock is released. -/
lemma timer {timeout : ℤ} (h : Core s pc) (hpc : pc t = .boosted m timeout) :
    Core { s with kernel := if 0 < timeout then s.kernel.rtTimerStart t else s.kernel }
      (Function.update pc t (.timed m)) := by
  obtain ⟨hsus, hpend, hact⟩ := (h.threads.ok t).early m (by
    rw [show (s.sit pc t).pc = .boosted m timeout from hpc]
    rfl)
  have hlocked : ∀ u, (Function.update pc t (.timed m) u).locked = true → (pc u).locked = true := by
    intro u hu
    by_cases hut : u = t
    · rw [hut, hpc]
      rfl
    · rwa [Function.update_of_ne hut] at hu
  have htarget : ∀ m', s.pendingObject t = some m' → (Pc.timed m).target = some m' := by
    intro m' hm'
    exact (show s.pendingObject t = some m from hpend).symm.trans hm'
  by_cases h0 : 0 < timeout
  · rw [if_pos h0]
    have hlook : ∀ u, u ≠ t → (s.kernel.rtTimerStart t).look u = s.kernel.look u := by
      intro u hu
      rw [Kernel.look_rtTimerStart, Function.update_of_ne hu]
    have hlook_t : (s.kernel.rtTimerStart t).look t = { s.kernel.look t with ttmrSet := true } := by
      rw [Kernel.look_rtTimerStart, Function.update_self]
    refine ⟨h.threads.change t (Kernel.inv_rtTimerStart h.threads.inv) (fun u hu => ?_) ?_
      fun u hu => h.threads.locked u (hlocked u hu), h.owners.keep (fun _ => ⟨rfl, rfl⟩) rfl
      (fun _ _ => id) (fun _ _ => id)⟩
    · refine State.sit_congr (by rw [hlook u hu]) (by rw [hlook u hu]) ?_ (fun _ => Iff.rfl) rfl
        (Function.update_of_ne hu ..)
      exact Function.update_of_ne hu ..
    · have hactive : (s.kernel.rtTimerStart t).timerActive t = true := Function.update_self ..
      refine Sit.ok_of_listed (l := .mutex m) ?_ (h.threads.placed t m hsus hpend) ?_ (fun m' hm' => ?_)
        nofun (fun m' hm' => ?_) (fun m' hm' => ?_)
      · change ((s.kernel.rtTimerStart t).look t).life = _
        rw [hlook_t]
        exact hsus
      · change (s.kernel.rtTimerStart t).timerActive t = ((s.kernel.rtTimerStart t).look t).ttmrSet
        rw [hactive, hlook_t]
      · cases hm'
        exact hpend
      · unfold State.sit
        simp only [Function.update_self]
        exact htarget m' hm'
      · unfold State.sit at hm'
        simp only [Function.update_self] at hm'
        cases hm'
  · rw [if_neg h0]
    refine ⟨h.threads.goto nofun htarget fun _ => ?_, h.owners⟩
    rw [hpc]
    rfl

/-- The thread owns the mutex, or it gives up. -/
lemma finish {ret : IpcErr} (h : Core s pc) (hcur : s.kernel.sched.currentThread = some t)
    (hpc : pc t = .woken m) (hf : State.TakeFinish fuel s t m s' ret) :
    Core s' (Function.update pc t (if ret = .eok then .run else .failed m)) := by
  have hn : Nobody pc := h.threads.nobody hcur (by rw [hpc]; rfl)
  have htarget : ∀ m', s.pendingObject t = some m' → m' = m := by
    intro m' hm'
    have hm := (h.threads.ok t).target m' hm'
    rw [show (s.sit pc t).pc = .woken m from hpc] at hm
    exact (Option.some.inj hm).symm
  cases hf with
  | owns _ howner hi =>
    rw [if_pos rfl]
    have hgoto : Core s (Function.update pc t .run) := by
      refine h.goto rfl fun m' hm' => absurd howner ?_
      obtain rfl := htarget m' hm'
      exact h.owners.notOwn m' t hm'
    exact hgoto.of_idle (h.nobody_goto hcur rfl) hi
  | fails s₁ s₂ _ _ howner hret h₁ hleft h₂ =>
    rw [if_neg hret]
    have hgoto : Core s (Function.update pc t (.failed m)) :=
      h.goto rfl fun m' hm' => congrArg some (htarget m' hm').symm
    have hn' := h.nobody_goto hcur (show (Pc.failed m).locked = false from rfl)
    have hc₁ := hgoto.of_idle hn' h₁
    have hr := State.reprio_waiterLeft hc₁.threads.placed h₁.inv hleft
    exact (hc₁.of_reprio hr).of_idle hn' h₂

omit [DecidableEq Oid] in
/-- A thread that can run waits for nothing any more. -/
lemma clear (h : Core s pc) (hcur : s.kernel.sched.currentThread = some t)
    (hlive : (s.kernel.look t).life = .live) :
    Core { s with pendingObject := Function.update s.pendingObject t none }
      (Function.update pc t .run) := by
  have hpend : ∀ u m', Function.update s.pendingObject t none u = some m' →
      s.pendingObject u = some m' := by
    intro u m' hm'
    by_cases hu : u = t
    · rw [hu, Function.update_self] at hm'
      cases hm'
    · rwa [Function.update_of_ne hu] at hm'
  refine ⟨h.threads.change t h.threads.inv (fun u hu => ?_) ?_ fun u hu => ?_,
    h.owners.keep (fun _ => ⟨rfl, rfl⟩) rfl (fun _ _ => id) (fun m' u => hpend u m')⟩
  · exact State.sit_congr rfl rfl rfl (fun _ => Iff.rfl) (Function.update_of_ne hu ..)
      (Function.update_of_ne hu ..)
  · refine Sit.ok_of_not_suspended ?_ (h.not_listed_of_live hlive) (h.timer_of_live hlive)
      (fun m' hm' => ?_) ?_
    · change (s.kernel.look t).life ≠ _
      rw [hlive]
      nofun
    · change Function.update s.pendingObject t none t = some m' at hm'
      rw [Function.update_self] at hm'
      cases hm'
    · change (Function.update pc t .run t).early = none
      rw [Function.update_self]
      rfl
  · rw [h.nobody_goto hcur (show (Pc.run : Pc Oid).locked = false from rfl) u] at hu
    cases hu

omit [DecidableEq Tid] [DecidableEq Oid] in
/-- Nothing happens to the threads, and what is locked stays so. -/
lemma quiet (h : Core s pc) (hi : Idle s s')
    (hcpu : 0 < s.kernel.sched.lockNest → SameCpu s.kernel.sched s'.kernel.sched) : Core s' pc := by
  refine ⟨h.threads.keep hi.inv (fun _ => Threads.sit_of_idle hi rfl) fun u hu => ?_,
    h.owners.of_idle hi⟩
  exact h.threads.locked_of_sameCpu (hcpu (h.threads.locked u hu).2) u hu

omit [DecidableEq Oid] in
/-- A thread leaves the list it waits in. -/
lemma leave {kernel : Kernel Tid Oid} (h : Core s pc) (hinv : Inv kernel.sched)
    (hlook : ∀ u, u ≠ t → kernel.look u = s.kernel.look u)
    (hlife : (kernel.look t).life ≠ .suspended)
    (htimer : ∀ u, u ≠ t → kernel.timerActive u = s.kernel.timerActive u)
    (hact : kernel.timerActive t = false)
    (hlist : kernel.suspendThread = fun l => (s.kernel.suspendThread l).filter (· ≠ t))
    (hearly : (pc t).early = none)
    (hcpu : 0 < s.kernel.sched.lockNest → SameCpu s.kernel.sched kernel.sched) :
    Core { s with kernel := kernel } pc := by
  have hmem : ∀ u l, u ∈ kernel.suspendThread l ↔ u ≠ t ∧ u ∈ s.kernel.suspendThread l := by
    intro u l
    rw [hlist, List.mem_filter, and_comm]
    simp
  refine ⟨h.threads.change t hinv (fun u hu => ?_) ?_ fun u hu => ?_,
    h.owners.keep (fun _ => ⟨rfl, rfl⟩) rfl (fun m u hu => ((hmem u _).mp hu).2) (fun _ _ => id)⟩
  · refine State.sit_congr (by rw [hlook u hu]) (by rw [hlook u hu]) (htimer u hu) (fun l => ?_) rfl rfl
    rw [hmem]
    exact and_iff_right hu
  · exact Sit.ok_of_not_suspended hlife (fun l hl => ((hmem t l).mp hl).1 rfl) hact
      (h.threads.ok t).target hearly
  · obtain ⟨hcur, hnest⟩ := h.threads.locked u hu
    obtain ⟨hcur', hnest'⟩ := hcpu hnest
    refine ⟨hcur'.trans hcur, ?_⟩
    change 0 < kernel.sched.lockNest
    rw [hnest']
    exact hnest

omit [DecidableEq Oid] in
lemma expires {kernel : Kernel Tid Oid} (h : Core s pc) (hact : s.kernel.timerActive t = true)
    (hout : Kernel.TimesOut { s.kernel with
      timerActive := Function.update s.kernel.timerActive t false } kernel t) :
    Core { s with kernel := kernel } pc := by
  refine h.leave (t := t) hout.inv (fun u hu => ?_) ?_ (fun u hu => ?_) ?_ hout.suspendThread ?_ hout.cpu
  · rw [hout.look, Function.update_of_ne hu]
    rfl
  · rw [hout.look, Function.update_self]
    nofun
  · rw [hout.timerActive]
    exact Function.update_of_ne hu ..
  · rw [hout.timerActive]
    exact Function.update_self ..
  · cases he : (pc t).early with
    | none => rfl
    | some m =>
      have hoff : s.kernel.timerActive t = false := ((h.threads.ok t).early m he).2.2
      rw [hact] at hoff
      cases hoff

omit [DecidableEq Oid] in
/-- A thread is resumed from the list of an object of another kind. -/
lemma dequeue {kernel : Kernel Tid Oid} {l : SuspList Oid} (h : Core s pc) (hl : notMutex l = true)
    (hmem : t ∈ s.kernel.suspendThread l) (hready : s.kernel.rtSpinLock.Readies kernel t)
    (hi : Idle { s with kernel := kernel } s')
    (hcpu : 0 < s.kernel.sched.lockNest → SameCpu s.kernel.sched s'.kernel.sched) : Core s' pc := by
  have hlock := Kernel.quiet_rtSpinLock h.threads.inv
  have hsit : Threads s pc := h.threads
  have hlook : ∀ u, s'.kernel.look u = kernel.look u := fun u => by rw [hi.look]
  have hcore : Core { s with kernel := s'.kernel } pc := by
    refine h.leave (t := t) hi.inv (fun u hu => ?_) ?_ (fun u hu => ?_) ?_ ?_ ?_ hcpu
    · rw [hlook, hready.look, Function.update_of_ne hu]
      rfl
    · rw [hlook, hready.look, Function.update_self]
      nofun
    · rw [hi.timerActive]
      change kernel.timerActive u = _
      rw [hready.timerActive, Kernel.timersStopped_of_ne hu]
      rfl
    · rw [hi.timerActive, Bool.eq_false_iff]
      intro hact
      change kernel.timerActive t = true at hact
      rw [hready.timerActive] at hact
      unfold Kernel.timersStopped at hact
      split at hact
      · rw [Function.update_self] at hact
        cases hact
      · rename_i hset
        exact hset ((hsit.ok t).active hact).2
    · rw [hi.suspendThread]
      exact hready.suspendThread
    · cases he : (pc t).early with
      | none => rfl
      | some m =>
        have hpend : s.pendingObject t = some m := ((hsit.ok t).early m he).2.1
        rw [show s.pendingObject t = none from (hsit.ok t).other l hl hmem] at hpend
        cases hpend
  rw [hi.eq]
  exact hcore

/-- The running thread waits in the list of an object of another kind. -/
lemma wait {kernel : Kernel Tid Oid} {l : SuspList Oid} {flag : IpcFlag} {timed : Bool}
    (h : Core s pc) (hl : notMutex l = true) (hpc : pc t = .run)
    (hlive : (s.kernel.look t).life = .live) (hn : Nobody pc)
    (hw : s.kernel.rtSpinLock.Waits kernel t l flag timed) : Core { s with kernel := kernel } pc := by
  have hlock := Kernel.quiet_rtSpinLock h.threads.inv
  have hpend := h.pending_of_run hpc
  have hlist : ∀ u l', u ∈ kernel.suspendThread l' ↔
      (u = t ∧ l' = l) ∨ u ∈ s.kernel.suspendThread l' := by
    intro u l'
    rw [hw.suspendThread]
    by_cases hl' : l' = l
    · subst hl'
      rw [Function.update_self, Kernel.mem_enqueued]
      simp only [and_true]
      rfl
    · rw [Function.update_of_ne hl']
      simp only [hl', and_false, false_or]
      rfl
  refine ⟨h.threads.change t (hw.inv hlock.inv) (fun u hu => ?_) ?_ fun u hu => ?_,
    h.owners.keep (fun _ => ⟨rfl, rfl⟩) rfl (fun m u hu => ?_) (fun _ _ => id)⟩
  · have hlook : kernel.look u = s.kernel.look u := by
      rw [hw.look, Function.update_of_ne hu]
      rfl
    refine State.sit_congr (by rw [hlook]) (by rw [hlook]) ?_ (fun l' => ?_) rfl rfl
    · change kernel.timerActive u = _
      rw [hw.timerActive, Function.update_of_ne hu]
      rfl
    · change u ∈ kernel.suspendThread l' ↔ _
      rw [hlist]
      simp only [hu, false_and, false_or]
  · refine Sit.ok_of_listed (l := l) ?_ (fun l' => ?_) ?_ (fun m hm => ?_) (fun _ => hpend)
      (h.threads.ok t).target (fun m hm => ?_)
    · change (kernel.look t).life = _
      rw [hw.look, Function.update_self]
    · change t ∈ kernel.suspendThread l' ↔ _
      rw [hlist]
      simp [h.not_listed_of_live hlive l']
    · change kernel.timerActive t = (kernel.look t).ttmrSet
      rw [hw.timerActive, hw.look, Function.update_self, Function.update_self]
    · rw [hm] at hl
      cases hl
    · rw [show (State.sit { s with kernel := kernel } pc t).pc = .run from hpc] at hm
      cases hm
  · rw [hn u] at hu
    cases hu
  · rcases (hlist u _).mp hu with ⟨-, heq⟩ | hu'
    · rw [← heq] at hl
      cases hl
    · exact hu'

end Core

/-! ### The beginning -/

omit [DecidableEq Tid] [DecidableEq Oid]

/-- The mutexes after `rt_mutex_init`, with threads of any status. -/
def System.init (sched : SchedState Tid) (flag : SuspList Oid → IpcFlag) : System Tid Oid where
  st :=
    { kernel :=
        { sched := sched, error := fun _ => .eok, timerActive := fun _ => false
          suspendThread := fun _ => [], arrivals := 0, arrival := fun _ => 0 }
      mutex := fun _ => { owner := none, hold := 0, priority := 0xff, ceilingPriority := 0xff }
      pendingObject := fun _ => none
      takenObjectList := fun _ => [] }
  pc := fun _ => .run
  flag := flag

/-- No thread waits with a timer, and nobody has another priority than its own. -/
structure Booted (sched : SchedState Tid) : Prop where
  inv : Inv sched
  ttmrSet : ∀ t, (sched.look t).ttmrSet = false
  priority : ∀ t, (sched.look t).currentPriority = (sched.look t).initPriority

lemma Core.init {sched : SchedState Tid} (h : Booted sched) (flag : SuspList Oid → IpcFlag) :
    Core (System.init sched flag).st (System.init sched flag).pc where
  threads :=
    { inv := h.inv
      ok := fun t =>
        { suspended := fun _ hl => absurd hl List.not_mem_nil
          mutex := fun _ hl => absurd hl List.not_mem_nil
          other := fun _ _ hl => absurd hl List.not_mem_nil
          pend := fun _ _ hp => by cases hp
          timer := fun _ hset => by
            have hoff := h.ttmrSet t
            rw [show (sched.look t).ttmrSet = true from hset] at hoff
            cases hoff
          active := fun hact => by cases hact
          target := fun _ hp => by cases hp
          early := fun _ hpc => by cases hpc }
      locked := fun _ hpc => by cases hpc }
  owners :=
    { own := fun _ _ => iff_of_false nofun List.not_mem_nil
      nodup := fun _ => List.nodup_nil
      hold_pos := fun _ => iff_of_false (lt_irrefl 0) fun hne => hne rfl
      hold_le := fun _ => Nat.zero_le _
      free := fun _ _ _ => List.not_mem_nil
      notOwn := fun _ _ hp => by cases hp }

end N32L43x.Mutex
