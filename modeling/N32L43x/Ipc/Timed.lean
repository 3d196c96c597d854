import N32L43x.Ipc.Frame

/-!
The timers of the threads that wait.  A thread that waits with a timeout has `sched_flag_ttmr_set` and
an active timer, until the tick handler takes the timer off the list; from then on its timeout is under
way, and `_thread_timeout` ends that.
-/

namespace N32L43x.Ipc

open N32L43x.Sched

variable {Tid Oid : Type} {k k' : Kernel Tid Oid} {firing firing' : Option Tid} {t u : Tid}
  {l : SuspList Oid}

/-- What holds of one thread, where `firing` is the thread whose timeout is under way. -/
structure TimedAt (k : Kernel Tid Oid) (firing : Option Tid) (t : Tid) : Prop where
  /-- a thread in a suspend list is suspended -/
  mem : ∀ l, t ∈ k.suspendThread l → k.Suspended t
  timed : k.Suspended t → (k.look t).ttmrSet = true → k.timerActive t = true ∨ firing = some t
  active : k.timerActive t = true → k.Suspended t ∧ (k.look t).ttmrSet = true
  /-- a handler may have made it ready although its timeout is under way -/
  fires : firing = some t →
    (k.Suspended t ∨ (k.look t).life = .live) ∧ k.timerActive t = false
  fresh : (k.look t).life = .init → (k.look t).ttmrSet = false

/-- The invariant of the timers. -/
structure Timed (k : Kernel Tid Oid) (firing : Option Tid) : Prop where
  inv : Inv k.sched
  at_thread : ∀ t, TimedAt k firing t

lemma TimedAt.not_active (h : TimedAt k firing t) (ht : ¬ k.Suspended t) : k.timerActive t = false :=
  Bool.eq_false_iff.mpr fun hact => ht (h.active hact).1

namespace Timed

lemma mem (h : Timed k firing) (hmem : t ∈ k.suspendThread l) : k.Suspended t :=
  (h.at_thread t).mem l hmem

/-- The timer of a thread can be stopped unless its timeout is under way. -/
lemma timerLive (h : Timed k firing) (hsus : k.Suspended t) (hfire : firing ≠ some t) :
    k.TimerLive t := fun hset => ((h.at_thread t).timed hsus hset).resolve_right hfire

/-- With the timeout under way it cannot be stopped. -/
lemma not_timerLive (h : Timed k (some t)) (hset : (k.look t).ttmrSet = true) : ¬ k.TimerLive t := by
  intro hlive
  have hact := hlive hset
  rw [((h.at_thread t).fires rfl).2] at hact
  cases hact

/-- A step that leaves the threads alone. -/
lemma keep (h : Timed k firing) (hinv : Inv k'.sched) (hlook : k'.look = k.look)
    (htimer : k'.timerActive = k.timerActive) (hlist : k'.suspendThread = k.suspendThread) :
    Timed k' firing := by
  refine ⟨hinv, fun u => ?_⟩
  have hsus : k'.Suspended u ↔ k.Suspended u := by
    unfold Kernel.Suspended
    rw [hlook]
  have hu := h.at_thread u
  refine ⟨?_, ?_, ?_, ?_, ?_⟩
  · intro l hmem
    rw [hlist] at hmem
    exact hsus.mpr (hu.mem l hmem)
  · rw [hsus, hlook, htimer]
    exact hu.timed
  · rw [hsus, hlook, htimer]
    exact hu.active
  · rw [hsus, hlook, htimer]
    exact hu.fires
  · rw [hlook]
    exact hu.fresh

lemma quiet (h : Timed k firing) (hq : k.Quiet k') : Timed k' firing :=
  h.keep hq.inv hq.look hq.timerActive hq.suspendThread

lemma rtSpinLock (h : Timed k firing) : Timed k.rtSpinLock firing :=
  h.quiet (Kernel.quiet_rtSpinLock h.inv)

/-- A change to one thread. -/
lemma change (h : Timed k firing) (hinv : Inv k'.sched) (hlook : ∀ u, u ≠ t → k'.look u = k.look u)
    (htimer : ∀ u, u ≠ t → k'.timerActive u = k.timerActive u)
    (hlist : ∀ u l, u ≠ t → u ∈ k'.suspendThread l → u ∈ k.suspendThread l)
    (hfire : ∀ u, u ≠ t → (firing' = some u ↔ firing = some u)) (ht : TimedAt k' firing' t) :
    Timed k' firing' := by
  refine ⟨hinv, fun u => ?_⟩
  by_cases hu : u = t
  · rw [hu]
    exact ht
  · have h' := h.at_thread u
    have hsus : k'.Suspended u ↔ k.Suspended u := by
      unfold Kernel.Suspended
      rw [hlook u hu]
    refine ⟨?_, ?_, ?_, ?_, ?_⟩
    · intro l hmem
      exact hsus.mpr (h'.mem l (hlist u l hu hmem))
    · rw [hsus, hlook u hu, htimer u hu, hfire u hu]
      exact h'.timed
    · rw [hsus, hlook u hu, htimer u hu]
      exact h'.active
    · rw [hsus, hlook u hu, htimer u hu, hfire u hu]
      exact h'.fires
    · rw [hlook u hu]
      exact h'.fresh

variable [DecidableEq Tid]

/-- A thread that has left the lists and can run, whose timer is not active. -/
lemma wake (h : Timed k firing) (hinv : Inv k'.sched) (hlook : ∀ u, u ≠ t → k'.look u = k.look u)
    (hlive : (k'.look t).life = .live) (htimer : ∀ u, u ≠ t → k'.timerActive u = k.timerActive u)
    (hact : k'.timerActive t = false)
    (hlist : k'.suspendThread = fun l => (k.suspendThread l).filter (· ≠ t))
    (hfire : ∀ u, u ≠ t → (firing' = some u ↔ firing = some u)) : Timed k' firing' := by
  have ht : ¬ k'.Suspended t := by
    unfold Kernel.Suspended
    rw [hlive]
    nofun
  refine h.change (t := t) hinv hlook htimer (fun u l _ hmem => ?_) hfire ⟨?_, ?_, ?_, ?_, ?_⟩
  · rw [hlist] at hmem
    exact List.mem_of_mem_filter hmem
  · intro l hmem
    rw [hlist] at hmem
    simp at hmem
  · intro hsus
    exact absurd hsus ht
  · intro hact'
    rw [hact] at hact'
    cases hact'
  · intro _
    exact ⟨.inr hlive, hact⟩
  · intro hinit
    rw [hlive] at hinit
    cases hinit

/-- A timer that is stopped is not active. -/
lemma timersStopped_self (h : Timed k firing) : k.timersStopped t t = false := by
  unfold Kernel.timersStopped
  split
  · exact Function.update_self ..
  · rename_i hset
    exact Bool.eq_false_iff.mpr fun hact => hset ((h.at_thread t).active hact).2

/-- A thread becomes ready. -/
lemma readies (h : Timed k firing) (hr : k.Readies k' t) : Timed k' firing := by
  refine h.wake (hr.inv h.inv) (fun u hu => ?_) ?_ (fun u hu => ?_) ?_ hr.suspendThread
    fun _ _ => Iff.rfl
  · rw [hr.look, Function.update_of_ne hu]
  · rw [hr.look, Function.update_self]
  · rw [hr.timerActive]
    exact Kernel.timersStopped_of_ne hu
  · rw [hr.timerActive]
    exact h.timersStopped_self

/-- The thread is left to its timeout, and is no longer marked as having a timer. -/
lemma readyFails (h : Timed k firing) (hsus : k.Suspended t) (hr : k.ReadyFails k' t)
    (hact : k.timerActive t = false) : Timed k' firing := by
  have hsus' : k'.Suspended t := by
    unfold Kernel.Suspended
    rw [hr.look, Function.update_self]
    exact hsus
  have hset : (k'.look t).ttmrSet = false := by
    rw [hr.look, Function.update_self]
  have hact' : k'.timerActive t = false := by
    rw [hr.timerActive]
    exact hact
  refine h.change (t := t) (hr.inv h.inv) (fun u hu => ?_) (fun u _ => congrFun hr.timerActive u)
    (fun u l _ hmem => ?_) (fun _ _ => Iff.rfl) ⟨?_, ?_, ?_, ?_, fun _ => hset⟩
  · rw [hr.look, Function.update_of_ne hu]
  · rw [hr.suspendThread] at hmem
    exact hmem
  · exact fun _ _ => hsus'
  · intro _ hset'
    rw [hset] at hset'
    cases hset'
  · intro hact''
    rw [hact'] at hact''
    cases hact''
  · exact fun _ => ⟨.inl hsus', hact'⟩

/-- `rt_sched_thread_ready`, of any thread at any time. -/
lemma rtSchedThreadReady (h : Timed k firing) (t : Tid) :
    Timed (k.rtSchedThreadReady t).1 firing := by
  by_cases hsus : k.Suspended t
  · by_cases htimer : k.TimerLive t
    · obtain ⟨k', hready, hr⟩ := Kernel.rtSchedThreadReady_of_timerLive hsus htimer
      rw [hready]
      exact h.readies hr
    · obtain ⟨k', hready, hr⟩ := Kernel.rtSchedThreadReady_of_not_timerLive hsus htimer
      rw [hready]
      unfold Kernel.TimerLive at htimer
      rw [Classical.not_imp, Bool.not_eq_true] at htimer
      exact h.readyFails hsus hr htimer.2
  · rw [Kernel.rtSchedThreadReady_of_not_suspended hsus]
    exact h

/-- `rt_susp_list_dequeue`, of any list at any time. -/
lemma rtSuspListDequeue (h : Timed k firing) (l : SuspList Oid) (threadError : IpcErr) :
    Timed (k.rtSuspListDequeue l threadError).1 firing := by
  unfold Kernel.rtSuspListDequeue
  rcases k.suspendThread l with _ | ⟨t, rest⟩
  · exact h
  · have hready := h.rtSchedThreadReady t
    simp only
    split
    · rename_i heq
      rw [heq] at hready
      exact hready.keep hready.inv rfl rfl rfl
    · rename_i heq
      rw [heq] at hready
      exact hready

lemma resumeLoop (l : SuspList Oid) (threadError : IpcErr) (n : ℕ) (h : Timed k firing) :
    Timed (Kernel.resumeLoop l threadError n k) firing :=
  Kernel.resumeLoop_of_dequeue (fun k => Timed k firing)
    (fun _ h => h.rtSuspListDequeue l threadError) n h

/-- `_thread_timeout` wakes the thread. -/
lemma timesOut (h : Timed k (some t)) (ht : k.TimesOut k' t) : Timed k' none := by
  refine h.wake ht.inv (fun u hu => ?_) ?_ (fun u _ => congrFun ht.timerActive u) ?_ ht.suspendThread
    fun u hu => ?_
  · rw [ht.look, Function.update_of_ne hu]
  · rw [ht.look, Function.update_self]
  · rw [ht.timerActive]
    exact ((h.at_thread t).fires rfl).2
  · rw [Option.some_inj]
    exact iff_of_false nofun (Ne.symm hu)

lemma timesOut_threadTimeout (h : Timed k (some t)) : k.TimesOut (k.threadTimeout t) t := by
  rcases ((h.at_thread t).fires rfl).1 with hsus | hlive
  · exact Kernel.timesOut_threadTimeout h.inv hsus
  · exact Kernel.timesOut_of_live h.inv hlive

/-- The tick handler takes a timer that has run out off the timer list. -/
lemma expires (h : Timed k none) (ht : k.timerActive t = true) :
    Timed { k with timerActive := Function.update k.timerActive t false } (some t) := by
  have h' := h.at_thread t
  obtain ⟨hsus, -⟩ := h'.active ht
  refine h.change (t := t) h.inv (fun _ _ => rfl) (fun u hu => Function.update_of_ne hu ..)
    (fun _ _ _ hmem => hmem) (fun u hu => ?_) ⟨h'.mem, fun _ _ => .inr rfl, ?_, ?_, h'.fresh⟩
  · rw [Option.some_inj]
    exact iff_of_false (Ne.symm hu) nofun
  · intro hact
    simp at hact
  · exact fun _ => ⟨.inl hsus, Function.update_self ..⟩

/-- A thread that can run is suspended, with or without a timer. -/
lemma suspend (h : Timed k firing) (ht : firing ≠ some t) (timed : Bool) (hinv : Inv k'.sched)
    (hlook : k'.look =
      Function.update k.look t { k.look t with life := .suspended, ttmrSet := timed })
    (htimer : k'.timerActive = Function.update k.timerActive t timed)
    (hlist : ∀ u l, u ≠ t → u ∈ k'.suspendThread l → u ∈ k.suspendThread l) : Timed k' firing := by
  have hsus : k'.Suspended t := by
    unfold Kernel.Suspended
    rw [hlook, Function.update_self]
  have hset : (k'.look t).ttmrSet = timed := by
    rw [hlook, Function.update_self]
  have hact : k'.timerActive t = timed := by
    rw [htimer, Function.update_self]
  refine h.change (t := t) hinv (fun u hu => ?_) (fun u hu => ?_) hlist (fun _ _ => Iff.rfl)
    ⟨fun _ _ => hsus, ?_, ?_, ?_, ?_⟩
  · rw [hlook, Function.update_of_ne hu]
  · rw [htimer, Function.update_of_ne hu]
  · intro _ hset'
    rw [hset] at hset'
    exact .inl (hact.trans hset')
  · intro hact'
    rw [hact] at hact'
    exact ⟨hsus, hset.trans hact'⟩
  · intro hf
    exact absurd hf ht
  · intro hinit
    rw [hlook, Function.update_self] at hinit
    cases hinit

/-- `rt_thread_resume` readies the thread, and may reschedule. -/
lemma quiet_rtThreadResume (h : Timed k firing) (t : Tid) :
    (k.rtSchedThreadReady t).1.Quiet (k.rtThreadResume t).1 := by
  have hready := h.rtSchedThreadReady t
  unfold Kernel.rtThreadResume
  split
  · rename_i heq
    rw [heq] at hready ⊢
    exact Kernel.quiet_rtSchedule hready.inv
  · rename_i heq
    rw [heq] at hready ⊢
    exact ⟨hready.inv, rfl, rfl, rfl, rfl, rfl, rfl⟩

/-- `rt_thread_resume`, of any thread at any time. -/
lemma rtThreadResume (h : Timed k firing) (t : Tid) : Timed (k.rtThreadResume t).1 firing :=
  (h.rtSchedThreadReady t).quiet (h.quiet_rtThreadResume t)

/-- Unless its timeout is under way, the thread is not suspended after that. -/
lemma not_suspended_rtThreadResume (h : Timed k firing) (hf : firing ≠ some t) :
    ¬ (k.rtThreadResume t).1.Suspended t := by
  rw [(h.quiet_rtThreadResume t).suspended_iff]
  by_cases hsus : k.Suspended t
  · obtain ⟨k', hready, hr⟩ := Kernel.rtSchedThreadReady_of_timerLive hsus (h.timerLive hsus hf)
    rw [hready]
    unfold Kernel.Suspended
    rw [hr.look, Function.update_self]
    nofun
  · rw [Kernel.rtSchedThreadReady_of_not_suspended hsus]
    exact hsus

lemma rtSpinUnlock (h : Timed k firing) : Timed k.rtSpinUnlock firing :=
  h.quiet (Kernel.quiet_rtSpinUnlock h.inv)

/-- A thread that can run is suspended, with or without a list. -/
lemma rtThreadSuspendToList [DecidableEq Oid] (h : Timed k firing) (hlive : (k.look t).life = .live)
    (hf : firing ≠ some t) (l : Option (SuspList Oid)) (flag : IpcFlag) (suspendFlag : SuspendFlag) :
    ∃ k', k.rtThreadSuspendToList t l flag suspendFlag = (k', .eok) ∧ Timed k' firing ∧
      k'.look = Function.update k.look t { k.look t with life := .suspended, ttmrSet := false } ∧
      k'.error = k.error ∧
      ∀ u l', u ∈ k'.suspendThread l' → u ∈ k.suspendThread l' ∨ (u = t ∧ l = some l') := by
  have hact := (h.at_thread t).not_active (show ¬ k.Suspended t by
    unfold Kernel.Suspended
    rw [hlive]
    nofun)
  have htimer : k.timersStopped t = Function.update k.timerActive t false := by
    rw [Kernel.timersStopped_of_not_active hact, ← hact]
    exact (Function.update_eq_self t k.timerActive).symm
  cases l with
  | none =>
    obtain ⟨k', hsuspend, hlook, herror, htimer', hlist, hinv⟩ :=
      Kernel.rtThreadSuspendToList_none_of_live hlive flag suspendFlag
    have hmem : ∀ u l, u ∈ k'.suspendThread l → u ∈ k.suspendThread l := by
      intro u l hmem
      rw [hlist] at hmem
      exact hmem
    exact ⟨k', hsuspend, h.suspend hf false (hinv h.inv) hlook (htimer'.trans htimer)
      fun u l _ => hmem u l, hlook, herror, fun u l hu => .inl (hmem u l hu)⟩
  | some l =>
    obtain ⟨k', hsuspend, hs⟩ := Kernel.rtThreadSuspendToList_of_live hlive l flag suspendFlag
    have hmem : ∀ u l', u ∈ k'.suspendThread l' → u ∈ k.suspendThread l' ∨ (u = t ∧ l = l') := by
      intro u l' hmem
      rw [hs.suspendThread] at hmem
      by_cases hl : l' = l
      · subst hl
        rw [Function.update_self, Kernel.mem_enqueued] at hmem
        exact hmem.elim (fun hu => .inr ⟨hu, rfl⟩) .inl
      · rw [Function.update_of_ne hl] at hmem
        exact .inl hmem
    refine ⟨k', hsuspend, ?_, hs.look, hs.error, fun u l' hu => ?_⟩
    · exact h.suspend hf false (hs.inv h.inv) hs.look (hs.timerActive.trans htimer)
        fun u l' hu hm => (hmem u l' hm).resolve_right fun hut => hu hut.1
    · rw [Option.some_inj]
      exact hmem u l' hu

/-- The timer of a thread that is suspended without one is started. -/
lemma rtTimerStart (h : Timed k firing) (hsus : k.Suspended t) (hf : firing ≠ some t) :
    Timed (k.rtTimerStart t) firing ∧ (k.rtTimerStart t).Suspended t := by
  have hlook := Kernel.look_rtTimerStart (k := k) (t := t)
  have hset : ((k.rtTimerStart t).look t).ttmrSet = true := by
    rw [hlook, Function.update_self]
  have hact : (k.rtTimerStart t).timerActive t = true := Function.update_self ..
  have hsus' : (k.rtTimerStart t).Suspended t := by
    unfold Kernel.Suspended
    rw [hlook, Function.update_self]
    exact hsus
  refine ⟨h.change (t := t) (Kernel.inv_rtTimerStart h.inv) (fun u hu => ?_)
    (fun u hu => Function.update_of_ne hu ..) (fun _ _ _ hmem => hmem) (fun _ _ => Iff.rfl)
    ⟨fun _ _ => hsus', fun _ _ => .inl hact, fun _ => ⟨hsus', hset⟩, fun hf' => absurd hf' hf, ?_⟩, hsus'⟩
  · rw [hlook, Function.update_of_ne hu]
  · intro hinit
    have hsus'' : ((k.rtTimerStart t).look t).life = .suspended := hsus'
    rw [hsus''] at hinit
    cases hinit

/-- The first half of `rt_thread_startup`: the thread counts as suspended. -/
lemma rtSchedThreadStartup (h : Timed k firing) (hinit : (k.look t).life = .init)
    (hf : firing ≠ some t) :
    Timed { k with sched := Sched.rtSchedThreadStartup k.sched t } firing ∧
      (Sched.rtSchedThreadStartup k.sched t).look =
        Function.update k.look t { k.look t with life := .suspended, ttmrSet := false } := by
  have hset := (h.at_thread t).fresh hinit
  have hact := (h.at_thread t).not_active (show ¬ k.Suspended t by
    unfold Kernel.Suspended
    rw [hinit]
    nofun)
  have hlook : (Sched.rtSchedThreadStartup k.sched t).look =
      Function.update k.look t { k.look t with life := .suspended, ttmrSet := false } := by
    unfold Sched.rtSchedThreadStartup
    rw [look_modify, ← hset]
    rfl
  have hstat : (k.sched.thread t).stat = .init := by
    have hlife : (k.sched.thread t).stat.life = .init := hinit
    cases hst : (k.sched.thread t).stat <;> rw [hst] at hlife <;> first | rfl | cases hlife
  refine ⟨h.suspend hf false (h.inv.rtSchedThreadStartup hstat) hlook ?_ fun _ _ _ hmem => hmem, hlook⟩
  rw [← hact]
  exact (Function.update_eq_self t k.timerActive).symm

end Timed

/-! ### Threads that nothing happens to -/

namespace Kernel

/-- The thread is what it was, and in no list that it was not in. -/
structure SameAt (k k' : Kernel Tid Oid) (t : Tid) : Prop where
  look : k'.look t = k.look t
  error : k'.error t = k.error t
  listed : ∀ l, t ∈ k'.suspendThread l → t ∈ k.suspendThread l

lemma SameAt.trans {k₁ k₂ k₃ : Kernel Tid Oid} (h₁ : SameAt k₁ k₂ t) (h₂ : SameAt k₂ k₃ t) :
    SameAt k₁ k₃ t :=
  ⟨h₂.look.trans h₁.look, h₂.error.trans h₁.error, fun l hl => h₁.listed l (h₂.listed l hl)⟩

lemma SameAt.suspended_iff (h : SameAt k k' t) : k'.Suspended t ↔ k.Suspended t := by
  unfold Suspended
  rw [h.look]

lemma Quiet.sameAt (h : k.Quiet k') (t : Tid) : SameAt k k' t := by
  refine ⟨congrFun h.look t, congrFun h.error t, fun l hl => ?_⟩
  rw [h.suspendThread] at hl
  exact hl

variable [DecidableEq Tid]

lemma TimesOut.sameAt (h : k.TimesOut k' u) (ht : t ≠ u) : SameAt k k' t := by
  refine ⟨?_, ?_, fun l hl => ?_⟩
  · rw [h.look, Function.update_of_ne ht]
  · rw [h.error, Function.update_of_ne ht]
  · rw [h.suspendThread] at hl
    exact List.mem_of_mem_filter hl

lemma sameAt_rtSchedThreadReady (k : Kernel Tid Oid) (ht : t ≠ u) :
    SameAt k (k.rtSchedThreadReady u).1 t := by
  by_cases hsus : k.Suspended u
  · by_cases htimer : k.TimerLive u
    · obtain ⟨k', hready, hr⟩ := rtSchedThreadReady_of_timerLive hsus htimer
      rw [hready]
      refine ⟨?_, congrFun hr.error t, fun l hl => ?_⟩
      · rw [hr.look, Function.update_of_ne ht]
      · rw [hr.suspendThread] at hl
        exact List.mem_of_mem_filter hl
    · obtain ⟨k', hready, hr⟩ := rtSchedThreadReady_of_not_timerLive hsus htimer
      rw [hready]
      refine ⟨?_, congrFun hr.error t, fun l hl => ?_⟩
      · rw [hr.look, Function.update_of_ne ht]
      · rw [hr.suspendThread] at hl
        exact hl
  · rw [rtSchedThreadReady_of_not_suspended hsus]
    exact ⟨rfl, rfl, fun _ hl => hl⟩

/-- A thread that has been started up stays so. -/
lemma ne_init_rtSchedThreadReady (h : (k.look t).life ≠ .init) (u : Tid) :
    ((k.rtSchedThreadReady u).1.look t).life ≠ .init := by
  by_cases ht : t = u
  · subst ht
    by_cases hsus : k.Suspended t
    · by_cases htimer : k.TimerLive t
      · obtain ⟨k', hready, hr⟩ := rtSchedThreadReady_of_timerLive hsus htimer
        rw [hready, hr.look, Function.update_self]
        nofun
      · obtain ⟨k', hready, hr⟩ := rtSchedThreadReady_of_not_timerLive hsus htimer
        rw [hready, hr.look, Function.update_self]
        exact h
    · rw [rtSchedThreadReady_of_not_suspended hsus]
      exact h
  · rw [(sameAt_rtSchedThreadReady k ht).look]
    exact h

lemma sameAt_rtThreadResume (h : Timed k firing) (ht : t ≠ u) :
    SameAt k (k.rtThreadResume u).1 t :=
  (sameAt_rtSchedThreadReady k ht).trans ((h.quiet_rtThreadResume u).sameAt t)

/-- A thread that is not in the list is not dequeued from it. -/
lemma sameAt_rtSuspListDequeue (ht : t ∉ k.suspendThread l) (threadError : IpcErr) :
    SameAt k (k.rtSuspListDequeue l threadError).1 t := by
  unfold rtSuspListDequeue
  rcases hl : k.suspendThread l with _ | ⟨u, rest⟩
  · exact ⟨rfl, rfl, fun _ hl => hl⟩
  · rw [hl] at ht
    have htu : t ≠ u := List.ne_of_not_mem_cons ht
    have hsame := sameAt_rtSchedThreadReady k htu
    simp only
    split
    · rename_i heq
      rw [heq] at hsame
      exact ⟨hsame.look, (Function.update_of_ne htu ..).trans hsame.error, hsame.listed⟩
    · rename_i heq
      rw [heq] at hsame
      exact hsame

end Kernel

/-! ### What the lists lose -/

namespace Kernel

variable [DecidableEq Tid] {threadError : IpcErr} {rest : List Tid}

/-- No thread has joined a list. -/
def Shrinks (k k' : Kernel Tid Oid) : Prop :=
  ∀ l u, u ∈ k'.suspendThread l → u ∈ k.suspendThread l

omit [DecidableEq Tid] in
lemma Shrinks.trans {k₁ k₂ k₃ : Kernel Tid Oid} (h₁ : Shrinks k₁ k₂) (h₂ : Shrinks k₂ k₃) :
    Shrinks k₁ k₃ := fun l u hu => h₁ l u (h₂ l u hu)

omit [DecidableEq Tid] in
lemma Quiet.shrinks (h : k.Quiet k') : Shrinks k k' := by
  intro l u hu
  rw [h.suspendThread] at hu
  exact hu

omit [DecidableEq Tid] in
lemma Shrinks.eq_nil (h : Shrinks k k') (hl : k.suspendThread l = []) : k'.suspendThread l = [] := by
  apply List.eq_nil_iff_forall_not_mem.mpr
  intro u hu
  have hu' := h l u hu
  rw [hl] at hu'
  cases hu'

lemma TimesOut.shrinks (h : k.TimesOut k' t) : Shrinks k k' := by
  intro l u hu
  rw [h.suspendThread] at hu
  exact List.mem_of_mem_filter hu

lemma shrinks_rtSchedThreadReady (k : Kernel Tid Oid) (t : Tid) :
    Shrinks k (k.rtSchedThreadReady t).1 := by
  intro l u hu
  by_cases hsus : k.Suspended t
  · by_cases htimer : k.TimerLive t
    · obtain ⟨k', hready, hr⟩ := rtSchedThreadReady_of_timerLive hsus htimer
      rw [hready, hr.suspendThread] at hu
      exact List.mem_of_mem_filter hu
    · obtain ⟨k', hready, hr⟩ := rtSchedThreadReady_of_not_timerLive hsus htimer
      rw [hready, hr.suspendThread] at hu
      exact hu
  · rw [rtSchedThreadReady_of_not_suspended hsus] at hu
    exact hu

lemma shrinks_rtSuspListDequeue (k : Kernel Tid Oid) (l : SuspList Oid) (threadError : IpcErr) :
    Shrinks k (k.rtSuspListDequeue l threadError).1 := by
  unfold rtSuspListDequeue
  rcases k.suspendThread l with _ | ⟨t, rest⟩
  · exact fun _ _ hu => hu
  · have hready := shrinks_rtSchedThreadReady k t
    simp only
    split <;> rename_i heq <;> rw [heq] at hready <;> exact hready

/-- A thread whose timer can be stopped is dequeued. -/
lemma rtSuspListDequeue_of_cons (hl : k.suspendThread l = t :: rest) (hsus : k.Suspended t)
    (htimer : k.TimerLive t) (threadError : IpcErr) :
    ∃ k', k.rtSuspListDequeue l threadError = (k', some t) ∧
      k'.look = Function.update k.look t { k.look t with life := .live, ttmrSet := false } ∧
      k'.error = Function.update k.error t threadError ∧ k'.timerActive = k.timersStopped t ∧
      k'.suspendThread = fun l => (k.suspendThread l).filter (· ≠ t) := by
  obtain ⟨k', hready, hr⟩ := rtSchedThreadReady_of_timerLive hsus htimer
  unfold rtSuspListDequeue
  simp only [hl, hready]
  refine ⟨_, rfl, hr.look, ?_, hr.timerActive, hr.suspendThread⟩
  rw [hr.error]

/-- A dequeue takes the thread out of the list. -/
lemma length_rtSuspListDequeue {k' : Kernel Tid Oid}
    (h : k.rtSuspListDequeue l threadError = (k', some t)) :
    (k'.suspendThread l).length < (k.suspendThread l).length := by
  unfold rtSuspListDequeue at h
  rcases hl : k.suspendThread l with _ | ⟨u, rest⟩
  · rw [hl] at h
    cases h
  · simp only [hl] at h
    have hremoved : ∀ k₁, k.rtSchedThreadReady u = (k₁, .eok) →
        k₁.suspendThread l = (k.suspendThread l).filter (· ≠ u) := by
      intro k₁ hk₁
      by_cases hsus : k.Suspended u
      · by_cases htimer : k.TimerLive u
        · obtain ⟨k₂, hready, hr⟩ := rtSchedThreadReady_of_timerLive hsus htimer
          rw [hready] at hk₁
          cases hk₁
          rw [hr.suspendThread]
        · obtain ⟨k₂, hready, -⟩ := rtSchedThreadReady_of_not_timerLive hsus htimer
          rw [hready] at hk₁
          cases hk₁
      · rw [rtSchedThreadReady_of_not_suspended hsus] at hk₁
        cases hk₁
    split at h
    · rename_i k₁ heq
      cases h
      have hlist := hremoved k₁ heq
      simp only
      rw [hlist, hl]
      apply List.length_filter_lt_length_iff_exists.mpr
      exact ⟨t, List.mem_cons_self, by simp⟩
    · cases h

lemma shrinks_resumeLoop (l : SuspList Oid) (threadError : IpcErr) (n : ℕ) (k : Kernel Tid Oid) :
    Shrinks k (resumeLoop l threadError n k) :=
  resumeLoop_of_dequeue (Shrinks k) (fun k' h => h.trans (shrinks_rtSuspListDequeue k' l threadError)) n
    fun _ _ hu => hu

/-- The threads behind the one that is dequeued stay what they are. -/
lemma dequeue_others (hl : k.suspendThread l = t :: rest) (hsus : k.Suspended t)
    (htimer : k.TimerLive t) (threadError : IpcErr) :
    ∃ k', k.rtSuspListDequeue l threadError = (k', some t) ∧
      (∀ u, u ≠ t → (k'.Suspended u ↔ k.Suspended u) ∧ (k'.TimerLive u ↔ k.TimerLive u)) ∧
      ∀ u, u ∈ k'.suspendThread l ↔ u ∈ k.suspendThread l ∧ u ≠ t := by
  obtain ⟨k', hdeq, hlook, -, hact, hlist⟩ := rtSuspListDequeue_of_cons hl hsus htimer threadError
  refine ⟨k', hdeq, fun u hu => ?_, fun u => ?_⟩
  · unfold Suspended TimerLive
    rw [hlook, hact, Function.update_of_ne hu, timersStopped_of_ne hu]
    exact ⟨Iff.rfl, Iff.rfl⟩
  · rw [hlist]
    simp [List.mem_filter]

/-- If all timers can be stopped, the loop empties the list. -/
lemma resumeLoop_eq_nil (l : SuspList Oid) (threadError : IpcErr) {n : ℕ}
    (hn : (k.suspendThread l).length < n) (hsus : ∀ t ∈ k.suspendThread l, k.Suspended t)
    (htimer : ∀ t ∈ k.suspendThread l, k.TimerLive t) :
    (resumeLoop l threadError n k).suspendThread l = [] := by
  induction n generalizing k with
  | zero => exact absurd hn (Nat.not_lt_zero _)
  | succ n ih =>
    unfold resumeLoop
    rcases hl : k.suspendThread l with _ | ⟨t, rest⟩
    · have hdeq : k.rtSuspListDequeue l threadError = (k, none) := by
        unfold rtSuspListDequeue
        rw [hl]
      rw [hdeq]
      exact hl
    · have hmem : t ∈ k.suspendThread l := by
        rw [hl]
        exact List.mem_cons_self
      obtain ⟨k', hdeq, hsame, hrest⟩ :=
        dequeue_others hl (hsus t hmem) (htimer t hmem) threadError
      have hlt := length_rtSuspListDequeue hdeq
      rw [hdeq]
      apply ih
      · omega
      · intro u hu
        obtain ⟨hu, hut⟩ := (hrest u).mp hu
        exact (hsame u hut).1.mpr (hsus u hu)
      · intro u hu
        obtain ⟨hu, hut⟩ := (hrest u).mp hu
        exact (hsame u hut).2.mpr (htimer u hu)

/-- A thread whose timer cannot be stopped is not passed over. -/
lemma resumeLoop_ne_nil (l : SuspList Oid) (threadError : IpcErr) (n : ℕ)
    (hsus : ∀ t ∈ k.suspendThread l, k.Suspended t)
    (htimer : ∃ t ∈ k.suspendThread l, ¬ k.TimerLive t) :
    (resumeLoop l threadError n k).suspendThread l ≠ [] := by
  induction n generalizing k with
  | zero =>
    obtain ⟨t, hmem, -⟩ := htimer
    exact List.ne_nil_of_mem hmem
  | succ n ih =>
    obtain ⟨v, hv, hlate⟩ := htimer
    unfold resumeLoop
    rcases hl : k.suspendThread l with _ | ⟨t, rest⟩
    · rw [hl] at hv
      cases hv
    have hmem : t ∈ k.suspendThread l := by
      rw [hl]
      exact List.mem_cons_self
    by_cases hlive : k.TimerLive t
    · obtain ⟨k', hdeq, hsame, hrest⟩ := dequeue_others hl (hsus t hmem) hlive threadError
      have hvt : v ≠ t := fun h => hlate (h ▸ hlive)
      rw [hdeq]
      apply ih
      · intro u hu
        obtain ⟨hu, hut⟩ := (hrest u).mp hu
        exact (hsame u hut).1.mpr (hsus u hu)
      · exact ⟨v, (hrest v).mpr ⟨hv, hvt⟩, fun h => hlate ((hsame v hvt).2.mp h)⟩
    · obtain ⟨k', hready, hr⟩ := rtSchedThreadReady_of_not_timerLive (hsus t hmem) hlive
      have hdeq : k.rtSuspListDequeue l threadError = (k', none) := by
        unfold rtSuspListDequeue
        simp only [hl, hready]
      rw [hdeq]
      simp only
      rw [hr.suspendThread, hl]
      exact List.cons_ne_nil t rest

end Kernel

end N32L43x.Ipc
