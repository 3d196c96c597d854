import N32L43x.Mutex.Frame

/-!
What the calls do, each said once: which of their branches was taken, and the states it went through.
-/

namespace N32L43x.Mutex

open N32L43x.Sched N32L43x.Ipc

variable {Tid Oid : Type} {s s' s₁ s₂ s₃ : State Tid Oid} {t u : Tid} {m : Oid}

/-- Nothing that a mutex depends on has changed. -/
structure Idle (s s' : State Tid Oid) : Prop where
  inv : Inv s'.kernel.sched
  look : s'.kernel.look = s.kernel.look
  timerActive : s'.kernel.timerActive = s.kernel.timerActive
  suspendThread : s'.kernel.suspendThread = s.kernel.suspendThread
  arrivals : s'.kernel.arrivals = s.kernel.arrivals
  arrival : s'.kernel.arrival = s.kernel.arrival
  mutex : s'.mutex = s.mutex
  pendingObject : s'.pendingObject = s.pendingObject
  takenObjectList : s'.takenObjectList = s.takenObjectList

namespace Idle

lemma trans (h₁ : Idle s₁ s₂) (h₂ : Idle s₂ s₃) : Idle s₁ s₃ :=
  ⟨h₂.inv, h₂.look.trans h₁.look, h₂.timerActive.trans h₁.timerActive,
    h₂.suspendThread.trans h₁.suspendThread, h₂.arrivals.trans h₁.arrivals,
    h₂.arrival.trans h₁.arrival, h₂.mutex.trans h₁.mutex, h₂.pendingObject.trans h₁.pendingObject,
    h₂.takenObjectList.trans h₁.takenObjectList⟩

lemma refl (h : Inv s.kernel.sched) : Idle s s := ⟨h, rfl, rfl, rfl, rfl, rfl, rfl, rfl, rfl⟩

lemma of_quiet {kernel : Kernel Tid Oid} (hq : s.kernel.Quiet kernel) :
    Idle s { s with kernel := kernel } :=
  ⟨hq.inv, hq.look, hq.timerActive, hq.suspendThread, hq.arrivals, hq.arrival, rfl, rfl, rfl⟩

lemma eq (h : Idle s s') : s' = { s with kernel := s'.kernel } := by
  obtain ⟨-, -, -, -, -, -, hmutex, hpend, htaken⟩ := h
  cases s'
  simp only at hmutex hpend htaken
  rw [hmutex, hpend, htaken]

lemma prio (h : Idle s s') : s'.prio = s.prio := by
  unfold State.prio Kernel.prio
  rw [h.look]

lemma waiters (h : Idle s s') : s'.waiters = s.waiters := by
  unfold State.waiters
  rw [h.suspendThread]

lemma suspended_iff (h : Idle s s') (t : Tid) : s'.kernel.Suspended t ↔ s.kernel.Suspended t := by
  unfold Kernel.Suspended
  rw [h.look]

lemma lock (h : Inv s.kernel.sched) : Idle s s.lock := of_quiet (Kernel.quiet_rtSpinLock h)

variable [DecidableEq Tid]

lemma unlock (h : Inv s.kernel.sched) : Idle s s.unlock := of_quiet (Kernel.quiet_rtSpinUnlock h)

lemma schedule (h : Inv s.kernel.sched) : Idle s s.schedule := of_quiet (Kernel.quiet_rtSchedule h)

lemma setError (h : Inv s.kernel.sched) (e : IpcErr) : Idle s (s.setError t e) :=
  ⟨h, rfl, rfl, rfl, rfl, rfl, rfl, rfl, rfl⟩

end Idle

variable [DecidableEq Tid] [DecidableEq Oid]

namespace State

/-! ### `rt_mutex_take` -/

/-- The branches of `_rt_mutex_take` until the thread is suspended. -/
inductive TakeEnter (fuel : ℕ) (s : State Tid Oid) (t : Tid) (m : Oid) :
    State Tid Oid → Option IpcErr → Prop
  /-- the thread owns the mutex already -/
  | again (s₁ s' : State Tid Oid) (howner : (s.mutex m).owner = some t)
    (hhold : (s.mutex m).hold < holdMax) (h₁ : Idle s s₁)
    (h₂ : Idle (s₁.setMutex m { s₁.mutex m with hold := (s₁.mutex m).hold + 1 }) s') :
    TakeEnter fuel s t m s' (some .eok)
  /-- the mutex has no owner -/
  | fresh (s₁ s₂ s' : State Tid Oid) (howner : (s.mutex m).owner = none) (h₁ : Idle s s₁)
    (hceil : if (s.mutex m).ceilingPriority ≠ 0xff ∧
        (s.mutex m).ceilingPriority < (s.prio t).val then
      (s₁.setMutex m { s₁.mutex m with owner := some t, priority := 0xff, hold := 1
        }).threadUpdatePriority fuel t (toPriority (s.mutex m).ceilingPriority) = some s₂
      else s₂ = s₁.setMutex m { s₁.mutex m with owner := some t, priority := 0xff, hold := 1 })
    (h₂ : Idle { s₂ with
      takenObjectList := Function.update s₂.takenObjectList t (m :: s₂.takenObjectList t) } s') :
    TakeEnter fuel s t m s' (some .eok)
  /-- the call returns an error -/
  | refused (s' : State Tid Oid) (e : IpcErr) (he : e ≠ .eok) (h : Idle s s') :
    TakeEnter fuel s t m s' (some e)
  /-- the thread waits -/
  | waits (s₁ : State Tid Oid) (kernel : Kernel Tid Oid) (o : Tid)
    (howner : (s.mutex m).owner = some o) (hne : o ≠ t) (h₁ : Idle s s₁)
    (hsus : s₁.kernel.Suspends kernel t (.mutex m) .prio) (hinv : Inv kernel.sched)
    (hcpu : kernel.sched.currentThread = s.kernel.sched.currentThread ∧ 0 < kernel.sched.lockNest) :
    TakeEnter fuel s t m { s₁ with
      kernel := kernel, pendingObject := Function.update s₁.pendingObject t (some m) } none

lemma takeEnter_cases {fuel : ℕ} {timeout : ℤ} {suspendFlag : SuspendFlag} {ret : Option IpcErr}
    (hinv : Inv s.kernel.sched) (hplaced : Placed s) (hlive : (s.kernel.look t).life = .live)
    (hs : s.takeEnter fuel t m timeout suspendFlag = some (s', ret)) :
    TakeEnter fuel s t m s' ret := by
  have h₁ : Idle s (s.lock.setError t .eok) :=
    (Idle.lock hinv).trans (Idle.setError (Idle.lock hinv).inv .eok)
  unfold takeEnter at hs
  simp only at hs
  by_cases howner : (s.mutex m).owner = some t
  · rw [if_pos (show ((s.lock.setError t .eok).mutex m).owner = some t from howner)] at hs
    split at hs
    · rename_i hhold
      cases hs
      exact .again _ _ howner hhold h₁ (Idle.unlock h₁.inv)
    · cases hs
      exact .refused _ _ nofun (h₁.trans (Idle.unlock h₁.inv))
  · rw [if_neg (show ¬ ((s.lock.setError t .eok).mutex m).owner = some t from howner)] at hs
    split at hs
    · rename_i hnone
      rw [Option.map_eq_some_iff] at hs
      obtain ⟨s₂, hs₂, heq⟩ := hs
      cases heq
      have hinv₂ : Inv s₂.kernel.sched := by
        split at hs₂
        · have hplaced₁ : Placed ((s.lock.setError t .eok).setMutex m
              { (s.lock.setError t .eok).mutex m with owner := some t, priority := 0xff, hold := 1 }) :=
            hplaced
          exact (reprio_threadUpdatePriority hplaced₁ h₁.inv hs₂).inv h₁.inv
        · cases hs₂
          exact h₁.inv
      refine .fresh _ s₂ _ hnone h₁ ?_ (Idle.unlock hinv₂)
      by_cases hc : (s.mutex m).ceilingPriority ≠ 0xff ∧
          (s.mutex m).ceilingPriority < (s.prio t).val
      · rw [if_pos hc]
        have hc' : ((s.lock.setError t .eok).mutex m).ceilingPriority ≠ 0xff ∧
            ((s.lock.setError t .eok).mutex m).ceilingPriority <
              (((s.lock.setError t .eok).setMutex m { (s.lock.setError t .eok).mutex m with
                owner := some t, priority := 0xff, hold := 1 }).prio t).val := hc
        rw [if_pos hc'] at hs₂
        exact hs₂
      · rw [if_neg hc]
        have hc' : ¬ (((s.lock.setError t .eok).mutex m).ceilingPriority ≠ 0xff ∧
            ((s.lock.setError t .eok).mutex m).ceilingPriority <
              (((s.lock.setError t .eok).setMutex m { (s.lock.setError t .eok).mutex m with
                owner := some t, priority := 0xff, hold := 1 }).prio t).val) := hc
        rw [if_neg hc'] at hs₂
        cases hs₂
        rfl
    · rename_i o hsome
      split at hs
      · cases hs
        have h₂ := Idle.setError (t := t) h₁.inv .etimeout
        exact .refused _ _ nofun ((h₁.trans h₂).trans (Idle.unlock h₂.inv))
      · have hlive₁ : ((s.lock.setError t .eok).kernel.look t).life = .live := hlive
        obtain ⟨k', hsuspend, hsus⟩ :=
          Kernel.rtThreadSuspendToList_of_live hlive₁ (.mutex m) .prio suspendFlag
        rw [hsuspend] at hs
        cases hs
        refine .waits _ k' o hsome ?_ h₁ hsus (hsus.inv h₁.inv) ⟨hsus.cpu.1, ?_⟩
        · rintro rfl
          exact howner hsome
        · rw [hsus.cpu.2]
          exact Nat.succ_pos _

/-- `_rt_mutex_take` after `rt_schedule`. -/
inductive TakeFinish (fuel : ℕ) (s : State Tid Oid) (t : Tid) (m : Oid) :
    State Tid Oid → IpcErr → Prop
  | owns (s' : State Tid Oid) (howner : (s.mutex m).owner = some t) (h : Idle s s') :
    TakeFinish fuel s t m s' .eok
  | fails (s₁ s₂ s' : State Tid Oid) (ret : IpcErr) (howner : (s.mutex m).owner ≠ some t)
    (hret : ret ≠ .eok) (h₁ : Idle s s₁) (hleft : s₁.waiterLeft fuel t m = some s₂)
    (h₂ : Idle s₂ s') : TakeFinish fuel s t m s' ret

lemma takeFinish_cases {fuel : ℕ} {ret : IpcErr} (hinv : Inv s.kernel.sched) (hplaced : Placed s)
    (hs : s.takeFinish fuel t m = some (s', ret)) : TakeFinish fuel s t m s' ret := by
  have h₁ := Idle.lock hinv
  unfold takeFinish at hs
  simp only at hs
  split at hs
  · rename_i howner
    cases hs
    exact .owns _ howner (h₁.trans (Idle.unlock h₁.inv))
  · rename_i howner
    rw [Option.map_eq_some_iff] at hs
    obtain ⟨s₂, hleft, heq⟩ := hs
    cases heq
    have hplaced₁ : Placed s.lock := hplaced
    have hinv₂ := (reprio_waiterLeft hplaced₁ h₁.inv hleft).inv h₁.inv
    refine .fails _ s₂ _ _ howner ?_ h₁ hleft (Idle.unlock hinv₂)
    split
    · nofun
    · rename_i herr
      exact herr

/-! ### `rt_mutex_release` -/

omit [DecidableEq Oid] in
/-- The first waiter leaves the list and can run. -/
lemma wakeLoop_of_waiter {k : Kernel Tid Oid} {n : ℕ} {rest : List Tid} (hinv : Inv k.sched)
    (hlist : k.suspendThread (.mutex m) = u :: rest) (hsus : k.Suspended u)
    (htimer : k.TimerLive u) :
    ∃ k', wakeLoop m (n + 1) k = (k', some u) ∧ k.Readies k' u := by
  have hready : (k.sched.thread u).stat ≠ .ready :=
    (stat_of_isSuspended (life_suspended_iff.mp hsus)).2.2.1
  have hsched : (k.listRemove u).sched = k.sched := hinv.toQueue.listRemove_eq hready
  obtain ⟨k', heq, hr⟩ :=
    Kernel.rtSchedThreadReady_of_timerLive (k := k.listRemove u) (t := u) hsus htimer
  refine ⟨k', ?_, hr.look, hr.error, hr.timerActive, ?_, hr.arrivals, hr.arrival, hr.cpu,
    fun h => hr.inv (by rw [hsched]; exact h)⟩
  · unfold wakeLoop
    rw [hlist]
    simp only [heq]
  · rw [hr.suspendThread]
    funext l
    unfold Kernel.listRemove
    simp only [List.filter_filter, Bool.and_self]

/-- The mutex passes to the first waiter. -/
def handed (s : State Tid Oid) (kernel : Kernel Tid Oid) (m : Oid) (next : Tid) : State Tid Oid :=
  mutexUpdatePriority
    { s with
      kernel := kernel
      mutex := Function.update s.mutex m { s.mutex m with owner := some next, hold := 1 }
      takenObjectList := Function.update s.takenObjectList next (m :: s.takenObjectList next)
      pendingObject := Function.update s.pendingObject next none } m

/-- What becomes of a mutex that its owner gives up. -/
inductive HandOver (s : State Tid Oid) (m : Oid) : State Tid Oid → Prop
  | free (hlist : s.waiters m = []) :
    HandOver s m (s.setMutex m { s.mutex m with owner := none, priority := 0xff })
  | next (kernel : Kernel Tid Oid) (next : Tid) (rest : List Tid)
    (hlist : s.waiters m = next :: rest) (hr : s.kernel.Readies kernel next) :
    HandOver s m (s.handed kernel m next)

lemma handOver_cases (hinv : Inv s.kernel.sched)
    (hsus : ∀ u ∈ s.waiters m, s.kernel.Suspended u ∧ s.kernel.TimerLive u) :
    HandOver s m (s.handOver m).1 := by
  unfold handOver
  cases hlist : s.waiters m with
  | nil =>
    simp only [List.length_nil, wakeLoop]
    exact .free hlist
  | cons next rest =>
    obtain ⟨hn, htimer⟩ := hsus next (by rw [hlist]; exact List.mem_cons_self ..)
    obtain ⟨k', heq, hr⟩ := wakeLoop_of_waiter (n := rest.length) hinv hlist hn htimer
    simp only [List.length_cons, heq]
    exact .next k' next rest hlist hr

omit [DecidableEq Tid] in
/-- The mutex is taken off the list it is in. -/
def dropped (s : State Tid Oid) (m : Oid) : State Tid Oid :=
  { s.setMutex m { s.mutex m with hold := 0 } with
    takenObjectList := fun u => (s.takenObjectList u).filter (· ≠ m) }

/-- The owner has released a mutex as often as it has taken it. -/
def givenUp (s : State Tid Oid) (t : Tid) (m : Oid) : State Tid Oid :=
  ((s.dropped m).checkAndUpdatePrio t m).1

/-- The branches of `rt_mutex_release`. -/
inductive Release (s : State Tid Oid) (t : Tid) (m : Oid) : State Tid Oid → Prop
  | refused (s' : State Tid Oid) (howner : (s.mutex m).owner ≠ some t) (h : Idle s s') :
    Release s t m s'
  | less (s₁ s' : State Tid Oid) (howner : (s.mutex m).owner = some t)
    (hhold : (s.mutex m).hold ≠ 1) (h₁ : Idle s s₁)
    (h₂ : Idle (s₁.setMutex m { s₁.mutex m with hold := (s₁.mutex m).hold - 1 }) s') :
    Release s t m s'
  | last (s₁ s₂ s' : State Tid Oid) (howner : (s.mutex m).owner = some t)
    (hhold : (s.mutex m).hold = 1) (h₁ : Idle s s₁) (hover : HandOver (s₁.givenUp t m) m s₂)
    (h₂ : Idle s₂ s') : Release s t m s'

omit [DecidableEq Oid] in
lemma reprio_checkAndUpdatePrio : Reprio s (s.checkAndUpdatePrio t m).1 := by
  unfold checkAndUpdatePrio
  simp only
  split
  · exact reprio_changePriority _
  · exact Reprio.refl s

lemma reprio_givenUp (s : State Tid Oid) (t : Tid) (m : Oid) :
    Reprio (s.dropped m) (s.givenUp t m) :=
  reprio_checkAndUpdatePrio

lemma HandOver.inv (h : HandOver s m s') (hinv : Inv s.kernel.sched) : Inv s'.kernel.sched := by
  cases h with
  | free _ => exact hinv
  | next kernel next rest _ hr => exact hr.inv hinv

lemma givenUp_suspendThread (s : State Tid Oid) (t : Tid) (m : Oid) :
    (s.givenUp t m).kernel.suspendThread = s.kernel.suspendThread := by
  unfold givenUp checkAndUpdatePrio
  simp only
  split <;> rfl

lemma prio_givenUp_of_ne (hu : u ≠ t) : (s.givenUp t m).prio u = s.prio u := by
  unfold givenUp checkAndUpdatePrio
  simp only
  split
  · rw [prio_changePriority_of_ne hu]
    rfl
  · rfl

/-- A thread that becomes the owner keeps its priority. -/
lemma HandOver.prio (h : HandOver s m s') : s'.prio = s.prio := by
  cases h with
  | free _ => rfl
  | next kernel next rest _ hr =>
    funext u
    refine (congrArg Look.currentPriority (congrFun hr.look u)).trans ?_
    by_cases hu : u = next
    · rw [hu, Function.update_self]
      rfl
    · rw [Function.update_of_ne hu]
      rfl

lemma HandOver.ceilingPriority (h : HandOver s m s') (m' : Oid) :
    (s'.mutex m').ceilingPriority = (s.mutex m').ceilingPriority := by
  cases h with
  | free _ =>
    unfold setMutex
    by_cases hm : m' = m
    · subst hm
      simp only [Function.update_self]
    · simp only [Function.update_of_ne hm]
  | next kernel next rest _ hr =>
    unfold handed mutexUpdatePriority setMutex
    by_cases hm : m' = m
    · subst hm
      simp only [Function.update_self]
    · simp only [Function.update_of_ne hm]

lemma rtMutexRelease_cases (hinv : Inv s.kernel.sched)
    (hsus : ∀ u ∈ s.waiters m, s.kernel.Suspended u ∧ s.kernel.TimerLive u)
    (hpos : (s.mutex m).owner = some t → 0 < (s.mutex m).hold ∧ (s.mutex m).hold ≤ holdMax) :
    Release s t m (s.rtMutexRelease t m).1 := by
  have h₁ := Idle.lock hinv
  unfold rtMutexRelease
  simp only
  by_cases howner : (s.mutex m).owner = some t
  · rw [if_neg (show ¬ (s.lock.mutex m).owner ≠ some t from not_not.mpr howner)]
    obtain ⟨hpos, hle⟩ := hpos howner
    unfold holdMax at hle
    have hsub : (s.mutex m).hold ≠ 0 →
        ((s.lock.mutex m).hold + 255) % 256 = (s.mutex m).hold - 1 := by
      intro h0
      change ((s.mutex m).hold + 255) % 256 = _
      omega
    by_cases hone : (s.mutex m).hold = 1
    · have hzero : ((s.lock.mutex m).hold + 255) % 256 = 0 := by
        rw [hsub (by omega), hone]
      have hgiven : s.lock.givenUp t m = (checkAndUpdatePrio
          { s.lock.setMutex m { s.lock.mutex m with
              hold := ((s.lock.mutex m).hold + 255) % 256 } with
            takenObjectList := fun u => (s.takenObjectList u).filter (· ≠ m) } t m).1 := by
        rw [hzero]
        rfl
      rw [if_pos]
      · simp only
        have hr := reprio_givenUp s.lock t m
        have hover : HandOver (s.lock.givenUp t m) m ((s.lock.givenUp t m).handOver m).1 := by
          refine handOver_cases (hr.inv h₁.inv) fun u hu => ?_
          obtain ⟨hu', htimer⟩ := hsus u ((hr.mem _ u).mp hu)
          refine ⟨(hr.suspended_iff u).mpr hu', ?_⟩
          unfold Kernel.TimerLive
          rw [hr.ttmrSet, hr.timerActive]
          exact htimer
        rw [hgiven] at hover
        refine .last s.lock _ _ howner hone h₁ (hgiven ▸ hover) (Idle.unlock ?_)
        exact hover.inv (hgiven ▸ hr.inv h₁.inv)
      · unfold setMutex
        simp only [Function.update_self]
        exact hzero
    · rw [if_neg]
      · rw [hsub (by omega)]
        exact .less s.lock _ howner hone h₁ (Idle.unlock h₁.inv)
      · unfold setMutex
        simp only [Function.update_self]
        rw [hsub (by omega)]
        omega
  · rw [if_pos (show (s.lock.mutex m).owner ≠ some t from howner)]
    have h₂ := Idle.setError (t := t) h₁.inv .error
    exact .refused _ howner ((h₁.trans h₂).trans (Idle.unlock h₂.inv))

end State

end N32L43x.Mutex
