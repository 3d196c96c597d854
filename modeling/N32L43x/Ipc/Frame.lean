import N32L43x.Ipc.Kernel

/-!
What each operation of the kernel does to what the objects see of it: the threads up to scheduling,
their error numbers and timers, and the suspend lists.
-/

namespace N32L43x.Ipc

open N32L43x.Sched

variable {Tid Oid : Type} [DecidableEq Tid] {k k' : Kernel Tid Oid} {t u : Tid} {l : SuspList Oid}

namespace Kernel

/-! ### The spin locks -/

omit [DecidableEq Tid] in
lemma inv_lockNest (h : Inv k.sched) (n : ℕ) : Inv { k.sched with lockNest := n } :=
  ⟨h.toQueue.withCurrent _ _, h.running, h.current⟩

/-- The scheduler may have switched, and that is all. -/
structure Quiet (k k' : Kernel Tid Oid) : Prop where
  inv : Inv k'.sched
  look : k'.look = k.look
  error : k'.error = k.error
  timerActive : k'.timerActive = k.timerActive
  suspendThread : k'.suspendThread = k.suspendThread
  arrivals : k'.arrivals = k.arrivals
  arrival : k'.arrival = k.arrival

lemma quiet_rtSchedule (h : Inv k.sched) : k.Quiet k.rtSchedule :=
  ⟨h.rtSchedUnlockNResched, look_rtSchedUnlockNResched h, rfl, rfl, rfl, rfl, rfl⟩

lemma quiet_rtSpinUnlock (h : Inv k.sched) : k.Quiet k.rtSpinUnlock := by
  have h' := inv_lockNest h (k.sched.lockNest - 1)
  unfold rtSpinUnlock
  simp only
  split
  · exact ⟨h'.rtSchedUnlockNResched, look_rtSchedUnlockNResched h', rfl, rfl, rfl, rfl, rfl⟩
  · exact ⟨h', rfl, rfl, rfl, rfl, rfl, rfl⟩

omit [DecidableEq Tid] in
lemma quiet_rtSpinLock (h : Inv k.sched) : k.Quiet k.rtSpinLock :=
  ⟨inv_lockNest h _, rfl, rfl, rfl, rfl, rfl, rfl⟩

omit [DecidableEq Tid] in
lemma Quiet.trans {k₁ k₂ k₃ : Kernel Tid Oid} (h₁ : k₁.Quiet k₂) (h₂ : k₂.Quiet k₃) :
    k₁.Quiet k₃ :=
  ⟨h₂.inv, h₂.look.trans h₁.look, h₂.error.trans h₁.error, h₂.timerActive.trans h₁.timerActive,
    h₂.suspendThread.trans h₁.suspendThread, h₂.arrivals.trans h₁.arrivals,
    h₂.arrival.trans h₁.arrival⟩

omit [DecidableEq Tid] in
lemma Quiet.suspended_iff (h : k.Quiet k') (t : Tid) : k'.Suspended t ↔ k.Suspended t := by
  unfold Suspended
  rw [h.look]

/-- A critical section within another one. -/
lemma sameCpu_critical {k₁ : Kernel Tid Oid} (h : 0 < k.sched.lockNest)
    (hcpu : SameCpu k.rtSpinLock.sched k₁.sched) : SameCpu k.sched k₁.rtSpinUnlock.sched := by
  have hnest : k₁.sched.lockNest - 1 = k.sched.lockNest := by
    rw [hcpu.2]
    rfl
  unfold rtSpinUnlock
  simp only [hnest]
  rw [if_neg h.ne']
  exact ⟨hcpu.1, rfl⟩

/-- An empty critical section. -/
lemma quiet_critical (h : Inv k.sched) : k.Quiet k.rtSpinLock.rtSpinUnlock :=
  (quiet_rtSpinLock h).trans (quiet_rtSpinUnlock (quiet_rtSpinLock h).inv)

/-- The tick handler charges the running thread. -/
lemma quiet_rtSchedTickIncrease (h : Inv k.sched) (hcur : k.sched.currentThread = some t) :
    k.Quiet { k with sched := rtSchedTickIncrease k.sched t 1 } := by
  have hstep : Sched.step k.sched (.tickIncrease 1) = some (rtSchedTickIncrease k.sched t 1) := by
    simp only [Sched.step, hcur, Option.map_some]
  exact ⟨inv_step h hstep, look_rtSchedTickIncrease h 1, rfl, rfl, rfl, rfl, rfl⟩

/-! ### The operations -/

lemma inv_rtTimerStart (h : Inv k.sched) : Inv (k.rtTimerStart t).sched :=
  h.modify_rest (t := t) (f := fun th => { th with ttmrSet := true }) rfl rfl rfl

lemma look_rtTimerStart :
    (k.rtTimerStart t).look = Function.update k.look t { k.look t with ttmrSet := true } :=
  look_modify (s := k.sched) (t := t) (f := fun th => { th with ttmrSet := true })

lemma timersStopped_of_ne (hu : u ≠ t) : k.timersStopped t u = k.timerActive u := by
  unfold timersStopped
  split
  · exact Function.update_of_ne hu ..
  · rfl

/-- A timer that is not active cannot be stopped. -/
lemma timersStopped_of_not_active (h : k.timerActive t = false) : k.timersStopped t = k.timerActive := by
  unfold timersStopped
  split
  · rw [← h]
    exact Function.update_eq_self t k.timerActive
  · rfl

lemma timersStopped_le (h : k.timersStopped t u = true) : k.timerActive u = true := by
  unfold timersStopped at h
  split at h
  · by_cases hu : u = t
    · subst hu
      rw [Function.update_self] at h
      cases h
    · rwa [Function.update_of_ne hu] at h
  · exact h

omit [DecidableEq Tid] in
lemma mem_enqueued (list : List Tid) (flag : IpcFlag) :
    u ∈ k.enqueued list t flag ↔ u = t ∨ u ∈ list := by
  cases flag with
  | fifo => simp [enqueued, or_comm]
  | prio => simp [enqueued]

omit [DecidableEq Tid] in
lemma nodup_enqueued {list : List Tid} (h : list.Nodup) (ht : t ∉ list) (flag : IpcFlag) :
    (k.enqueued list t flag).Nodup := by
  have hcons : (t :: list).Nodup := List.nodup_cons.mpr ⟨ht, h⟩
  cases flag with
  | fifo => exact (List.perm_append_singleton t list).nodup_iff.mpr hcons
  | prio => exact (List.perm_orderedInsert _ t list).nodup_iff.mpr hcons

/-- The thread leaves the list it waits in and can run. -/
structure Readies (k k' : Kernel Tid Oid) (t : Tid) : Prop where
  look : k'.look = Function.update k.look t { k.look t with life := .live, ttmrSet := false }
  error : k'.error = k.error
  timerActive : k'.timerActive = k.timersStopped t
  suspendThread : k'.suspendThread = fun l => (k.suspendThread l).filter (· ≠ t)
  arrivals : k'.arrivals = k.arrivals
  arrival : k'.arrival = k.arrival
  cpu : SameCpu k.sched k'.sched
  inv : Inv k.sched → Inv k'.sched

/-- The thread stays where it is, for its timer has run out. -/
structure ReadyFails (k k' : Kernel Tid Oid) (t : Tid) : Prop where
  look : k'.look = Function.update k.look t { k.look t with ttmrSet := false }
  error : k'.error = k.error
  timerActive : k'.timerActive = k.timerActive
  suspendThread : k'.suspendThread = k.suspendThread
  arrivals : k'.arrivals = k.arrivals
  arrival : k'.arrival = k.arrival
  cpu : SameCpu k.sched k'.sched
  inv : Inv k.sched → Inv k'.sched

/-- The timer of the thread is running if there is one to stop. -/
def TimerLive (k : Kernel Tid Oid) (t : Tid) : Prop :=
  (k.look t).ttmrSet = true → k.timerActive t = true

lemma rtSchedThreadReady_of_timerLive (hsus : k.Suspended t) (htimer : k.TimerLive t) :
    ∃ k', k.rtSchedThreadReady t = (k', .eok) ∧ k.Readies k' t := by
  have hsus' : (k.sched.thread t).stat.isSuspended = true := life_suspended_iff.mp hsus
  have herr : (if (k.sched.thread t).ttmrSet then
      (if k.timerActive t then .eok else .error) else .eok : RtErr) = .eok := by
    split
    · rename_i hset
      rw [if_pos (htimer hset)]
    · rfl
  have hs : Sched.rtSchedThreadReady k.sched t (if k.timerActive t then .eok else .error) =
      (rtSchedInsertThread ((k.sched.modify t fun th => { th with ttmrSet := false }).listRemove t) t,
        .eok) := by
    unfold Sched.rtSchedThreadReady
    rw [if_pos hsus']
    simp only [herr, if_true]
  unfold rtSchedThreadReady
  rw [if_pos hsus]
  simp only [hs]
  refine ⟨_, rfl, ?_, rfl, rfl, rfl, rfl, rfl, ?_, fun h => ?_⟩
  · refine Eq.trans look_insert ?_
    rw [look_listRemove, look_modify]
    funext u
    by_cases hu : u = t
    · subst hu
      rw [Function.update_self, Function.update_self, Function.update_self]
      rfl
    · rw [Function.update_of_ne hu, Function.update_of_ne hu, Function.update_of_ne hu]
      rfl
  · have h' := sameCpu_rtSchedThreadReady (s := k.sched) (t := t)
      (if k.timerActive t then .eok else .error)
    rw [hs] at h'
    exact h'
  · have h' := h.rtSchedThreadReady (t := t) (if k.timerActive t then .eok else .error)
    rw [hs] at h'
    exact h'

lemma rtSchedThreadReady_of_not_timerLive (hsus : k.Suspended t) (htimer : ¬ k.TimerLive t) :
    ∃ k', k.rtSchedThreadReady t = (k', .error) ∧ k.ReadyFails k' t := by
  have hsus' : (k.sched.thread t).stat.isSuspended = true := life_suspended_iff.mp hsus
  unfold TimerLive at htimer
  rw [Classical.not_imp, Bool.not_eq_true] at htimer
  obtain ⟨hset, hact⟩ := htimer
  have hset' : (k.sched.thread t).ttmrSet = true := hset
  have hs : Sched.rtSchedThreadReady k.sched t .error =
      (k.sched.modify t fun th => { th with ttmrSet := false }, .error) := by
    unfold Sched.rtSchedThreadReady
    rw [if_pos hsus']
    simp only [hset', if_true]
    rw [if_neg nofun]
  unfold rtSchedThreadReady
  rw [if_pos hsus]
  simp only [hact, Bool.false_eq_true, if_false, hs]
  refine ⟨_, rfl, look_modify (s := k.sched) (f := fun th => { th with ttmrSet := false }), rfl, ?_,
    rfl, rfl, rfl, ⟨rfl, rfl⟩, fun h => h.modify_rest (f := fun th => { th with ttmrSet := false }) rfl rfl rfl⟩
  unfold timersStopped
  rw [if_pos hset, ← hact]
  exact Function.update_eq_self t k.timerActive

lemma rtSchedThreadReady_of_not_suspended (hsus : ¬ k.Suspended t) :
    k.rtSchedThreadReady t = (k, .einval) := by
  unfold rtSchedThreadReady
  rw [if_neg hsus]

/-- `_thread_timeout` takes the thread out of the list it waits in. -/
structure TimesOut (k k' : Kernel Tid Oid) (t : Tid) : Prop where
  look : k'.look = Function.update k.look t { k.look t with life := .live }
  error : k'.error = Function.update k.error t .etimeout
  timerActive : k'.timerActive = k.timerActive
  suspendThread : k'.suspendThread = fun l => (k.suspendThread l).filter (· ≠ t)
  arrivals : k'.arrivals = k.arrivals
  arrival : k'.arrival = k.arrival
  cpu : 0 < k.sched.lockNest → SameCpu k.sched k'.sched
  inv : Inv k'.sched

lemma timesOut_of_inv (hwake : Inv (rtSchedInsertThread (k.sched.listRemove t) t)) :
    k.TimesOut (k.threadTimeout t) t := by
  refine ⟨?_, rfl, rfl, rfl, rfl, rfl, fun hlock => ?_, hwake.rtSchedUnlockNResched⟩
  · refine (look_rtSchedUnlockNResched hwake).trans ?_
    rw [look_insert, look_listRemove]
    rfl
  · have hlock' : 0 < (rtSchedInsertThread (k.sched.listRemove t) t).lockNest := by
      rw [insert_lockNest]
      exact hlock
    have heq : (k.threadTimeout t).sched = rtSchedInsertThread (k.sched.listRemove t) t :=
      rtSchedUnlockNResched_of_locked hlock'
    rw [heq]
    exact ⟨insert_currentThread, insert_lockNest⟩

lemma timesOut_threadTimeout (h : Inv k.sched) (hsus : k.Suspended t) :
    k.TimesOut (k.threadTimeout t) t :=
  timesOut_of_inv (h.wakeUp (life_suspended_iff.mp hsus))

/-- The thread has been made ready in spite of its timeout. -/
lemma timesOut_of_live (h : Inv k.sched) (hlive : (k.look t).life = .live) :
    k.TimesOut (k.threadTimeout t) t :=
  timesOut_of_inv (h.wakeUp_of_live (life_live_iff.mp hlive))

/-- **The rule of the loop of `rt_susp_list_resume_all`.** -/
lemma resumeLoop_of_dequeue (P : Kernel Tid Oid → Prop) {threadError : IpcErr}
    (hstep : ∀ k, P k → P (k.rtSuspListDequeue l threadError).1) (n : ℕ) (h : P k) :
    P (resumeLoop l threadError n k) := by
  induction n generalizing k with
  | zero => exact h
  | succ n ih =>
    have hdeq := hstep k h
    unfold resumeLoop
    split
    · rename_i heq
      rw [heq] at hdeq
      exact ih hdeq
    · rename_i heq
      rw [heq] at hdeq
      exact hdeq

variable [DecidableEq Oid]

/-- The thread waits in a list. -/
structure Suspends (k k' : Kernel Tid Oid) (t : Tid) (l : SuspList Oid) (flag : IpcFlag) :
    Prop where
  look : k'.look = Function.update k.look t { k.look t with life := .suspended, ttmrSet := false }
  error : k'.error = k.error
  timerActive : k'.timerActive = k.timersStopped t
  suspendThread : k'.suspendThread =
    Function.update k.suspendThread l (k.enqueued (k.suspendThread l) t flag)
  arrivals : k'.arrivals = k.arrivals + 1
  arrival : k'.arrival = Function.update k.arrival t k.arrivals
  cpu : SameCpu k.sched k'.sched
  inv : Inv k.sched → Inv k'.sched

omit [DecidableEq Tid] [DecidableEq Oid] in
/-- The order in a list is that of the priorities, which suspending a thread keeps. -/
lemma enqueued_congr (h : k'.prio = k.prio) (list : List Tid) (flag : IpcFlag) :
    k'.enqueued list t flag = k.enqueued list t flag := by
  unfold enqueued
  rw [h]

omit [DecidableEq Oid] in
/-- The scheduler's part of `rt_thread_suspend_to_list`. -/
lemma sched_suspend_of_live (hlive : (k.look t).life = .live) (suspendFlag : SuspendFlag) :
    ∃ sched, Sched.rtThreadSuspendToList k.sched t suspendFlag = (sched, .eok) ∧
      sched.look = Function.update k.look t { k.look t with life := .suspended, ttmrSet := false } ∧
      SameCpu k.sched sched ∧ (Inv k.sched → Inv sched) := by
  have hstat := life_live_iff.mp hlive
  refine ⟨(Sched.rtThreadSuspendToList k.sched t suspendFlag).1, ?_, ?_,
    sameCpu_rtThreadSuspendToList suspendFlag, fun h => h.rtThreadSuspendToList suspendFlag⟩
  · unfold Sched.rtThreadSuspendToList
    rw [if_pos hstat]
  · unfold Sched.rtThreadSuspendToList
    rw [if_pos hstat]
    simp only [look_modify, look_remove, remove_thread, modify_thread_same]
    funext u
    by_cases hu : u = t
    · subst hu
      rw [Function.update_self, Function.update_self]
      rfl
    · rw [Function.update_of_ne hu, Function.update_of_ne hu, Function.update_of_ne hu]
      rfl

lemma rtThreadSuspendToList_of_live (hlive : (k.look t).life = .live) (l : SuspList Oid)
    (flag : IpcFlag) (suspendFlag : SuspendFlag) :
    ∃ k', k.rtThreadSuspendToList t (some l) flag suspendFlag = (k', .eok) ∧
      k.Suspends k' t l flag := by
  obtain ⟨sched, hs, hlook, hcpu, hinv⟩ := sched_suspend_of_live hlive suspendFlag
  unfold rtThreadSuspendToList
  rw [hs]
  refine ⟨_, rfl, hlook, rfl, rfl, ?_, rfl, rfl, hcpu, hinv⟩
  unfold rtSuspListEnqueue
  simp only
  rw [enqueued_congr]
  funext u
  unfold prio
  refine (congrArg Look.currentPriority (congrFun hlook u)).trans ?_
  by_cases hu : u = t
  · subst hu
    rw [Function.update_self]
  · rw [Function.update_of_ne hu]

/-- Without a list. -/
lemma rtThreadSuspendToList_none_of_live (hlive : (k.look t).life = .live) (flag : IpcFlag)
    (suspendFlag : SuspendFlag) :
    ∃ k', k.rtThreadSuspendToList t none flag suspendFlag = (k', .eok) ∧
      k'.look = Function.update k.look t { k.look t with life := .suspended, ttmrSet := false } ∧
      k'.error = k.error ∧ k'.timerActive = k.timersStopped t ∧ k'.suspendThread = k.suspendThread ∧
      (Inv k.sched → Inv k'.sched) := by
  obtain ⟨sched, hs, hlook, -, hinv⟩ := sched_suspend_of_live hlive suspendFlag
  unfold rtThreadSuspendToList
  rw [hs]
  exact ⟨_, rfl, hlook, rfl, rfl, rfl, hinv⟩

lemma rtThreadSuspendToList_of_not_live (hlive : (k.look t).life ≠ .live)
    (l : Option (SuspList Oid)) (flag : IpcFlag) (suspendFlag : SuspendFlag) :
    k.rtThreadSuspendToList t l flag suspendFlag = (k, .error) := by
  have hs : Sched.rtThreadSuspendToList k.sched t suspendFlag = (k.sched, .error) := by
    unfold Sched.rtThreadSuspendToList
    rw [if_neg]
    exact fun hstat => hlive (life_live_iff.mpr hstat)
  unfold rtThreadSuspendToList
  rw [hs]

/-- The thread waits in a list, for ever or with a timer. -/
structure Waits (k k' : Kernel Tid Oid) (t : Tid) (l : SuspList Oid) (flag : IpcFlag)
    (timed : Bool) : Prop where
  look : k'.look = Function.update k.look t { k.look t with life := .suspended, ttmrSet := timed }
  error : k'.error = k.error
  timerActive : k'.timerActive = Function.update k.timerActive t timed
  suspendThread : k'.suspendThread =
    Function.update k.suspendThread l (k.enqueued (k.suspendThread l) t flag)
  arrivals : k'.arrivals = k.arrivals + 1
  arrival : k'.arrival = Function.update k.arrival t k.arrivals
  cpu : SameCpu k.sched k'.sched
  inv : Inv k.sched → Inv k'.sched

lemma Suspends.waits {k₁ : Kernel Tid Oid} {flag : IpcFlag} (hs : k.Suspends k₁ t l flag)
    (hact : k.timerActive t = false) (p : Prop) [Decidable p] :
    k.Waits (if p then k₁.rtTimerStart t else k₁) t l flag (decide p) := by
  have hstop : k₁.timerActive = Function.update k.timerActive t false := by
    rw [hs.timerActive, timersStopped_of_not_active hact, ← hact]
    exact (Function.update_eq_self t k.timerActive).symm
  by_cases hp : p
  · rw [if_pos hp, decide_eq_true hp]
    refine ⟨?_, hs.error, ?_, hs.suspendThread, hs.arrivals, hs.arrival, hs.cpu,
      fun h => inv_rtTimerStart (hs.inv h)⟩
    · rw [look_rtTimerStart, hs.look, Function.update_idem, Function.update_self]
    · unfold rtTimerStart
      simp only
      rw [hstop, Function.update_idem]
  · rw [if_neg hp, decide_eq_false hp]
    exact ⟨hs.look, hs.error, hstop, hs.suspendThread, hs.arrivals, hs.arrival, hs.cpu, hs.inv⟩

end Kernel

end N32L43x.Ipc
