import N32L43x.Ipc.Timed
import N32L43x.Lib.Run

/-!
Threads that wait with timeouts, and who wakes them: other threads and interrupt handlers through a
suspend list or with `rt_thread_resume`, and the tick handler.  The objects wait within a critical
section with the interrupts disabled; `rt_thread_sleep` only locks the scheduler, so a handler may run
between its steps.  The tick handler enables the interrupts after it has taken a timer off the list
and before it calls `_thread_timeout`.
-/

namespace N32L43x.Ipc.Timeout

open N32L43x.Sched N32L43x.Lib.Run

/-- Where a thread is in `_thread_sleep`. -/
inductive Pc where
  | run
  /-- the scheduler is locked -/
  | entered
  /-- the thread is suspended and its timer not started -/
  | suspended
  /-- the timer is started -/
  | started
  /-- before `rt_exit_critical` -/
  | leaving
deriving DecidableEq

/-- The kernel, where the threads are, and the thread whose timer the tick handler has taken off the
list. -/
structure System (Tid Oid : Type) where
  kernel : Kernel Tid Oid
  pc : Tid → Pc
  firing : Option Tid

/-- What can happen next. -/
inductive Action (Tid Oid : Type) where
  /-- the running thread waits for an object -/
  | wait (suspList : SuspList Oid) (timeout : ℤ) (ipcFlags : IpcFlag) (suspendFlag : SuspendFlag)
  /-- the running thread calls `rt_thread_suspend` -/
  | suspend (suspendFlag : SuspendFlag)
  /-- the running thread calls `rt_thread_delay` -/
  | sleep
  /-- the running thread goes on with it -/
  | resume
  | enterCritical
  | exitCritical
  | schedule
  /-- somebody calls `rt_susp_list_dequeue` -/
  | dequeue (suspList : SuspList Oid) (threadError : IpcErr)
  /-- somebody calls `rt_thread_resume` -/
  | threadResume (t : Tid)
  /-- the first half of `rt_thread_startup` -/
  | startup (t : Tid)
  /-- the tick handler finds that the timer of a thread has run out -/
  | timerExpires (t : Tid)
  /-- the tick handler calls `_thread_timeout` -/
  | timeoutFunc
  /-- the tick handler charges the running thread -/
  | tickIncrease

variable {Tid Oid : Type} [DecidableEq Tid] [DecidableEq Oid]

/-- The thread that runs when no handler does.  In `_thread_sleep` a suspended thread runs on, with the
scheduler locked. -/
def System.running (s : System Tid Oid) : Option Tid :=
  match s.firing, s.kernel.sched.currentThread with
  | none, some t => if (s.kernel.look t).life = .live ∨ s.pc t ≠ .run then some t else none
  | _, _ => none

/-- `rt_thread_resume`. -/
def rtThreadResume (k : Kernel Tid Oid) (t : Tid) : Kernel Tid Oid :=
  match k.rtSchedThreadReady t with
  | (k, .eok) => k.rtSchedule
  | (k, _) => k

/-- How an object makes a thread wait, within its critical section. -/
def waitOn (k : Kernel Tid Oid) (t : Tid) (suspList : SuspList Oid) (timeout : ℤ) (ipcFlags : IpcFlag)
    (suspendFlag : SuspendFlag) : Kernel Tid Oid :=
  let k := k.rtSpinLock
  let k := { k with error := Function.update k.error t .eintr }
  match k.rtThreadSuspendToList t (some suspList) ipcFlags suspendFlag with
  | (k, .eok) => (if 0 < timeout then k.rtTimerStart t else k).rtSpinUnlock
  | (k, _) => k.rtSpinUnlock

/-- The running thread goes on in `_thread_sleep`. -/
def resume (s : System Tid Oid) (t : Tid) : Option (System Tid Oid) :=
  match s.pc t with
  | .run => none
  | .entered =>
    match s.kernel.rtThreadSuspendToList t none .fifo .interruptible with
    | (kernel, .eok) => some { s with kernel := kernel, pc := Function.update s.pc t .suspended }
    | (kernel, _) => some { s with kernel := kernel.rtSpinUnlock, pc := Function.update s.pc t .run }
  | .suspended =>
    some { s with kernel := s.kernel.rtTimerStart t, pc := Function.update s.pc t .started }
  | .started =>
    let kernel := { s.kernel with error := Function.update s.kernel.error t .eintr }
    some { s with kernel := kernel.rtSchedule, pc := Function.update s.pc t .leaving }
  | .leaving => some { s with kernel := s.kernel.rtSpinUnlock, pc := Function.update s.pc t .run }

/-- One step of the system. -/
def step (s : System Tid Oid) : Action Tid Oid → Option (System Tid Oid)
  | .wait suspList timeout ipcFlags suspendFlag =>
    s.running.bind fun t =>
      if s.pc t = .run then
        some { s with kernel := waitOn s.kernel t suspList timeout ipcFlags suspendFlag }
      else none
  | .suspend suspendFlag =>
    s.running.bind fun t =>
      if s.pc t = .run then
        some { s with kernel := (s.kernel.rtThreadSuspendToList t none .fifo suspendFlag).1 }
      else none
  | .sleep =>
    s.running.bind fun t =>
      if s.pc t = .run then
        let kernel := { s.kernel with error := Function.update s.kernel.error t .eok }
        some { s with kernel := kernel.rtSpinLock, pc := Function.update s.pc t .entered }
      else none
  | .resume => s.running.bind (resume s)
  | .enterCritical =>
    s.running.bind fun t => if s.pc t = .run then some { s with kernel := s.kernel.rtSpinLock } else none
  | .exitCritical =>
    s.running.bind fun t =>
      if s.pc t = .run then some { s with kernel := s.kernel.rtSpinUnlock } else none
  | .schedule => some { s with kernel := s.kernel.rtSchedule }
  | .dequeue suspList threadError =>
    some { s with kernel := (s.kernel.rtSuspListDequeue suspList threadError).1 }
  | .threadResume t => some { s with kernel := rtThreadResume s.kernel t }
  | .startup t =>
    if (s.kernel.look t).life = .init then
      some { s with kernel := { s.kernel with sched := rtSchedThreadStartup s.kernel.sched t } }
    else none
  | .timerExpires t =>
    if s.firing = none ∧ s.kernel.timerActive t = true then
      some { s with
        kernel := { s.kernel with timerActive := Function.update s.kernel.timerActive t false }
        firing := some t }
    else none
  | .timeoutFunc => s.firing.map fun t => { s with kernel := s.kernel.threadTimeout t, firing := none }
  | .tickIncrease =>
    s.kernel.sched.currentThread.map fun t =>
      { s with kernel := { s.kernel with sched := rtSchedTickIncrease s.kernel.sched t 1 } }

omit [DecidableEq Tid] [DecidableEq Oid] in
/-- The system when nobody has waited yet. -/
def System.init (sched : SchedState Tid) : System Tid Oid where
  kernel :=
    { sched := sched, error := fun _ => .eok, timerActive := fun _ => false
      suspendThread := fun _ => [], arrivals := 0, arrival := fun _ => 0 }
  pc := fun _ => .run
  firing := none

/-! ### The condition -/

/-- A thread may be readied: its timeout is not under way or nobody has tried since it is, and it is not
between its suspension and the start of its timer. -/
def System.Calm (s : System Tid Oid) (t : Tid) : Prop :=
  (s.firing = some t → (s.kernel.look t).ttmrSet = true) ∧ s.pc t ≠ .suspended

instance (s : System Tid Oid) (t : Tid) : Decidable (s.Calm t) := inferInstanceAs (Decidable (_ ∧ _))

/-- Only threads that may be are readied. -/
def Calm (s : System Tid Oid) : Action Tid Oid → Prop
  | .dequeue suspList _ => ∀ t ∈ (s.kernel.suspendThread suspList).head?, s.Calm t
  | .threadResume t => s.Calm t
  | _ => True

instance (s : System Tid Oid) (a : Action Tid Oid) : Decidable (Calm s a) :=
  match a with
  | .dequeue suspList _ =>
    inferInstanceAs (Decidable (∀ t ∈ (s.kernel.suspendThread suspList).head?, s.Calm t))
  | .threadResume t => inferInstanceAs (Decidable (s.Calm t))
  | .wait .. => isTrue trivial
  | .suspend _ => isTrue trivial
  | .sleep => isTrue trivial
  | .resume => isTrue trivial
  | .enterCritical => isTrue trivial
  | .exitCritical => isTrue trivial
  | .schedule => isTrue trivial
  | .startup _ => isTrue trivial
  | .timerExpires _ => isTrue trivial
  | .timeoutFunc => isTrue trivial
  | .tickIncrease => isTrue trivial

/-! ### The invariant -/

/-- A thread in `_thread_sleep` that has no timer yet is suspended. -/
def AsleepAt (k : Kernel Tid Oid) (firing : Option Tid) (t : Tid) : Prop :=
  k.Suspended t ∧ (k.look t).ttmrSet = false ∧ firing ≠ some t

structure Good (s : System Tid Oid) : Prop where
  timed : Timed s.kernel s.firing
  fires : ∀ t, s.firing = some t → s.kernel.Suspended t
  asleep : ∀ t, s.pc t = .suspended → AsleepAt s.kernel s.firing t

variable {s s' : System Tid Oid} {k : Kernel Tid Oid} {t : Tid}

section

omit [DecidableEq Tid] [DecidableEq Oid]

lemma firing_of_running (ht : s.running = some t) : s.firing = none := by
  unfold System.running at ht
  split at ht
  · assumption
  · cases ht

lemma live_of_running (ht : s.running = some t) (hpc : s.pc t = .run) :
    (s.kernel.look t).life = .live := by
  unfold System.running at ht
  split at ht
  · split at ht
    · rename_i hact
      cases ht
      exact hact.resolve_right fun hne => hne hpc
    · cases ht
  · cases ht

lemma not_suspended_of_live (h : (k.look t).life = .live) : ¬ k.Suspended t := by
  unfold Kernel.Suspended
  rw [h]
  nofun

end

namespace Good

omit [DecidableEq Oid] in
/-- The others stay what they are, and the timers are right. -/
lemma change (h : Good s) {k' : Kernel Tid Oid} {firing' : Option Tid} {pc' : Tid → Pc}
    (htimed : Timed k' firing') (hlook : ∀ u, u ≠ t → k'.look u = s.kernel.look u)
    (hfire : ∀ u, u ≠ t → firing' = some u → s.firing = some u)
    (hpc : ∀ u, u ≠ t → pc' u = s.pc u) (hft : firing' = some t → k'.Suspended t)
    (ht : pc' t = .suspended → AsleepAt k' firing' t) : Good ⟨k', pc', firing'⟩ := by
  refine ⟨htimed, fun u hu => ?_, fun u hu => ?_⟩
  · by_cases hut : u = t
    · subst hut
      exact hft hu
    · unfold Kernel.Suspended
      rw [hlook u hut]
      exact h.fires u (hfire u hut hu)
  by_cases hut : u = t
  · subst hut
    exact ht hu
  · have hu' : s.pc u = .suspended := (hpc u hut).symm.trans hu
    obtain ⟨hsus, hset, hf⟩ := h.asleep u hu'
    refine ⟨?_, ?_, fun hf' => hf (hfire u hut hf')⟩
    · unfold Kernel.Suspended
      rw [hlook u hut]
      exact hsus
    · rw [hlook u hut]
      exact hset

omit [DecidableEq Tid] [DecidableEq Oid] in
/-- Nothing but the scheduler has changed. -/
lemma quiet (h : Good s) {k' : Kernel Tid Oid} (hinv : Inv k'.sched)
    (hlook : k'.look = s.kernel.look) (htimer : k'.timerActive = s.kernel.timerActive)
    (hlist : k'.suspendThread = s.kernel.suspendThread) : Good { s with kernel := k' } := by
  refine ⟨h.timed.keep hinv hlook htimer hlist, fun u hu => ?_, fun u hu => ?_⟩
  · unfold Kernel.Suspended
    rw [hlook]
    exact h.fires u hu
  obtain ⟨hsus, hset, hf⟩ := h.asleep u hu
  unfold AsleepAt Kernel.Suspended
  rw [hlook]
  exact ⟨hsus, hset, hf⟩

omit [DecidableEq Oid] in
/-- A thread moves on, not into a sleep. -/
lemma move (h : Good s) {x : Pc} (hx : x ≠ .suspended) :
    Good { s with pc := Function.update s.pc t x } := by
  refine h.change (t := t) h.timed (fun _ _ => rfl) (fun _ _ hf => hf)
    (fun u hu => Function.update_of_ne hu ..) (h.fires t) fun hpc => ?_
  rw [Function.update_self] at hpc
  exact absurd hpc hx

/-! ### The steps -/

omit [DecidableEq Oid] in
/-- An attempt to ready a thread that may be readied. -/
lemma rtSchedThreadReady (h : Good s) (hcalm : s.Calm t) :
    Good { s with kernel := (s.kernel.rtSchedThreadReady t).1 } := by
  by_cases hsus : s.kernel.Suspended t
  · by_cases hf : s.firing = some t
    · -- the timer has been taken off the list
      have htimed := h.timed
      rw [hf] at htimed
      obtain ⟨k', hready, hr⟩ := Kernel.rtSchedThreadReady_of_not_timerLive hsus
        (htimed.not_timerLive (hcalm.1 hf))
      rw [hready]
      refine h.change (t := t) (h.timed.readyFails hsus hr ((h.timed.at_thread t).fires hf).2)
        (fun u hu => ?_) (fun _ _ hf => hf) (fun _ _ => rfl) (fun _ => ?_)
        fun hpc => absurd hpc hcalm.2
      · rw [hr.look, Function.update_of_ne hu]
      · unfold Kernel.Suspended
        rw [hr.look, Function.update_self]
        exact hsus
    · obtain ⟨k', hready, hr⟩ := Kernel.rtSchedThreadReady_of_timerLive hsus
        (h.timed.timerLive hsus hf)
      rw [hready]
      refine h.change (t := t) (h.timed.readies hr) (fun u hu => ?_) (fun _ _ hf => hf)
        (fun _ _ => rfl) (fun hf' => absurd hf' hf) fun hpc => absurd hpc hcalm.2
      rw [hr.look, Function.update_of_ne hu]
  · rw [Kernel.rtSchedThreadReady_of_not_suspended hsus]
    exact h

omit [DecidableEq Oid] in
lemma rtSuspListDequeue (h : Good s) (l : SuspList Oid) (threadError : IpcErr)
    (hcalm : ∀ t ∈ (s.kernel.suspendThread l).head?, s.Calm t) :
    Good { s with kernel := (s.kernel.rtSuspListDequeue l threadError).1 } := by
  unfold Kernel.rtSuspListDequeue
  rcases hl : s.kernel.suspendThread l with _ | ⟨t, rest⟩
  · exact h
  · rw [hl] at hcalm
    have hready := h.rtSchedThreadReady (hcalm t rfl)
    simp only
    split
    · rename_i heq
      rw [heq] at hready
      exact hready.quiet hready.timed.inv rfl rfl rfl
    · rename_i heq
      rw [heq] at hready
      exact hready

omit [DecidableEq Oid] in
lemma rtThreadResume (h : Good s) (hcalm : s.Calm t) :
    Good { s with kernel := rtThreadResume s.kernel t } := by
  have hready := h.rtSchedThreadReady hcalm
  unfold Timeout.rtThreadResume
  split
  · rename_i heq
    rw [heq] at hready
    have hq := Kernel.quiet_rtSchedule hready.timed.inv
    exact hready.quiet hq.inv hq.look hq.timerActive hq.suspendThread
  · rename_i heq
    rw [heq] at hready
    exact hready

lemma waitOn (h : Good s) (hlive : (s.kernel.look t).life = .live) (l : SuspList Oid) (timeout : ℤ)
    (flag : IpcFlag) (suspendFlag : SuspendFlag) :
    Good { s with kernel := waitOn s.kernel t l timeout flag suspendFlag } := by
  have hsus := not_suspended_of_live hlive
  have hq := Kernel.quiet_rtSpinLock h.timed.inv
  let k₀ : Kernel Tid Oid :=
    { s.kernel.rtSpinLock with error := Function.update s.kernel.rtSpinLock.error t .eintr }
  obtain ⟨k₁, hsuspend, hs⟩ := Kernel.rtThreadSuspendToList_of_live (k := k₀) hlive l flag suspendFlag
  have hw := hs.waits (show k₀.timerActive t = false from (h.timed.at_thread t).not_active hsus)
    (0 < timeout)
  have hinv := hw.inv hq.inv
  have hq' := Kernel.quiet_rtSpinUnlock hinv
  unfold Timeout.waitOn
  simp only
  rw [hsuspend]
  have hf : s.firing ≠ some t := fun hf => hsus (h.fires t hf)
  refine h.change (t := t) ?_ (fun u hu => ?_) (fun _ _ hf => hf) (fun _ _ => rfl)
    (fun hf' => absurd hf' hf) fun hpc => ?_
  · refine h.timed.suspend hf (decide (0 < timeout)) hq'.inv (hq'.look.trans hw.look)
      (hq'.timerActive.trans hw.timerActive) fun u l' hu hmem => ?_
    rw [hq'.suspendThread, hw.suspendThread] at hmem
    by_cases hl : l' = l
    · subst hl
      rw [Function.update_self, Kernel.mem_enqueued] at hmem
      exact hmem.resolve_left hu
    · rw [Function.update_of_ne hl] at hmem
      exact hmem
  · rw [hq'.look, hw.look, Function.update_of_ne hu]
    rfl
  · exact absurd (h.asleep t hpc).1 hsus

/-- The thread is suspended and has no timer. -/
lemma suspend (h : Good s) (hlive : (s.kernel.look t).life = .live) (hf : s.firing = none)
    (flag : IpcFlag) (suspendFlag : SuspendFlag) (pc' : Tid → Pc) (hpc : ∀ u, u ≠ t → pc' u = s.pc u) :
    ∃ k', s.kernel.rtThreadSuspendToList t none flag suspendFlag = (k', .eok) ∧
      Good ⟨k', pc', s.firing⟩ := by
  have hf' : s.firing ≠ some t := by
    rw [hf]
    nofun
  obtain ⟨k', hsuspend, htimed, hlook, -⟩ :=
    h.timed.rtThreadSuspendToList hlive hf' none flag suspendFlag
  refine ⟨k', hsuspend, h.change (t := t) htimed (fun u hu => ?_) (fun _ _ hf => hf) hpc
    (fun hf => absurd hf hf') fun _ => ?_⟩
  · rw [hlook, Function.update_of_ne hu]
  · refine ⟨?_, ?_, hf'⟩
    · unfold Kernel.Suspended
      rw [hlook, Function.update_self]
    · rw [hlook, Function.update_self]

/-- A step of `_thread_sleep`. -/
lemma resume (h : Good s) (ht : s.running = some t) (hs : resume s t = some s') : Good s' := by
  have hf := firing_of_running ht
  unfold Timeout.resume at hs
  cases hpc : s.pc t with
  | run =>
    rw [hpc] at hs
    cases hs
  | entered =>
    simp only [hpc] at hs
    by_cases hlive : (s.kernel.look t).life = .live
    · obtain ⟨k', hsuspend, hgood⟩ := h.suspend hlive hf .fifo .interruptible
        (Function.update s.pc t .suspended) fun u hu => Function.update_of_ne hu ..
      rw [hsuspend] at hs
      cases hs
      exact hgood
    · rw [Kernel.rtThreadSuspendToList_of_not_live hlive] at hs
      cases hs
      have hq := Kernel.quiet_rtSpinUnlock h.timed.inv
      exact (h.quiet hq.inv hq.look hq.timerActive hq.suspendThread).move nofun
  | suspended =>
    -- the thread is still suspended when its timer is started
    simp only [hpc] at hs
    cases hs
    obtain ⟨hsus, -, hf'⟩ := h.asleep t hpc
    refine h.change (t := t) (h.timed.rtTimerStart hsus hf').1 (fun u hu => ?_) (fun _ _ hf => hf)
      (fun u hu => Function.update_of_ne hu ..) (fun hf => absurd hf hf') fun hpc' => ?_
    · rw [Kernel.look_rtTimerStart, Function.update_of_ne hu]
    · rw [Function.update_self] at hpc'
      cases hpc'
  | started =>
    simp only [hpc] at hs
    cases hs
    let k : Kernel Tid Oid := { s.kernel with error := Function.update s.kernel.error t .eintr }
    have hq := Kernel.quiet_rtSchedule (k := k) h.timed.inv
    exact (h.quiet hq.inv hq.look hq.timerActive hq.suspendThread).move nofun
  | leaving =>
    simp only [hpc] at hs
    cases hs
    have hq := Kernel.quiet_rtSpinUnlock h.timed.inv
    exact (h.quiet hq.inv hq.look hq.timerActive hq.suspendThread).move nofun

omit [DecidableEq Oid] in
/-- The first half of `rt_thread_startup`: the thread counts as suspended. -/
lemma startup (h : Good s) (hinit : (s.kernel.look t).life = .init) :
    Good { s with kernel := { s.kernel with sched := rtSchedThreadStartup s.kernel.sched t } } := by
  have hsus : ¬ s.kernel.Suspended t := by
    unfold Kernel.Suspended
    rw [hinit]
    nofun
  have hf : s.firing ≠ some t := fun hf => hsus (h.fires t hf)
  obtain ⟨htimed, hlook⟩ := h.timed.rtSchedThreadStartup hinit hf
  refine h.change (t := t) htimed (fun u hu => ?_) (fun _ _ hf => hf) (fun _ _ => rfl)
    (fun hf' => absurd hf' hf) fun hpc => ?_
  · exact (congrFun hlook u).trans (Function.update_of_ne hu ..)
  · exact absurd (h.asleep t hpc).1 hsus

/-- Every step that only readies threads that may be keeps the invariant. -/
lemma step (h : Good s) {a : Action Tid Oid} (hC : Calm s a) (hs : step s a = some s') : Good s' := by
  cases a with
  | wait l timeout flag suspendFlag =>
    obtain ⟨t, ht, hs⟩ := Option.bind_eq_some_iff.mp hs
    split at hs
    · rename_i hpc
      cases hs
      exact h.waitOn (live_of_running ht hpc) l timeout flag suspendFlag
    · cases hs
  | suspend suspendFlag =>
    obtain ⟨t, ht, hs⟩ := Option.bind_eq_some_iff.mp hs
    split at hs
    · rename_i hpc
      cases hs
      obtain ⟨k', hsuspend, hgood⟩ := h.suspend (live_of_running ht hpc) (firing_of_running ht) .fifo
        suspendFlag s.pc fun _ _ => rfl
      rw [hsuspend]
      exact hgood
    · cases hs
  | sleep =>
    obtain ⟨t, ht, hs⟩ := Option.bind_eq_some_iff.mp hs
    split at hs
    · cases hs
      let k : Kernel Tid Oid := { s.kernel with error := Function.update s.kernel.error t .eok }
      have hq := Kernel.quiet_rtSpinLock (k := k) h.timed.inv
      exact (h.quiet hq.inv hq.look hq.timerActive hq.suspendThread).move nofun
    · cases hs
  | resume =>
    obtain ⟨t, ht, hs⟩ := Option.bind_eq_some_iff.mp hs
    exact h.resume ht hs
  | enterCritical =>
    obtain ⟨t, ht, hs⟩ := Option.bind_eq_some_iff.mp hs
    split at hs
    · cases hs
      have hq := Kernel.quiet_rtSpinLock h.timed.inv
      exact h.quiet hq.inv hq.look hq.timerActive hq.suspendThread
    · cases hs
  | exitCritical =>
    obtain ⟨t, ht, hs⟩ := Option.bind_eq_some_iff.mp hs
    split at hs
    · cases hs
      have hq := Kernel.quiet_rtSpinUnlock h.timed.inv
      exact h.quiet hq.inv hq.look hq.timerActive hq.suspendThread
    · cases hs
  | schedule =>
    cases hs
    have hq := Kernel.quiet_rtSchedule h.timed.inv
    exact h.quiet hq.inv hq.look hq.timerActive hq.suspendThread
  | dequeue l threadError =>
    cases hs
    exact h.rtSuspListDequeue l threadError hC
  | threadResume t =>
    cases hs
    exact h.rtThreadResume hC
  | startup t =>
    simp only [Timeout.step] at hs
    split at hs
    · rename_i hinit
      cases hs
      exact h.startup hinit
    · cases hs
  | timerExpires t =>
    simp only [Timeout.step] at hs
    split at hs
    · rename_i ht
      cases hs
      have htimed := h.timed
      rw [ht.1] at htimed
      refine h.change (t := t) (htimed.expires ht.2) (fun _ _ => rfl) (fun u hu hf => ?_)
        (fun _ _ => rfl) (fun _ => ((htimed.at_thread t).active ht.2).1) fun hpc => ?_
      · cases hf
        exact absurd rfl hu
      · -- its timer would not be active
        obtain ⟨-, hset, -⟩ := h.asleep t hpc
        have hset' := ((h.timed.at_thread t).active ht.2).2
        rw [hset] at hset'
        cases hset'
    · cases hs
  | timeoutFunc =>
    obtain ⟨t, ht, rfl⟩ := Option.map_eq_some_iff.mp hs
    have htimed := h.timed
    rw [ht] at htimed
    have hout := htimed.timesOut_threadTimeout
    refine h.change (t := t) (htimed.timesOut hout) (fun u hu => ?_) (fun _ _ hf => by cases hf)
      (fun _ _ => rfl) nofun fun hpc => absurd ht (h.asleep t hpc).2.2
    rw [hout.look, Function.update_of_ne hu]
  | tickIncrease =>
    obtain ⟨t, ht, rfl⟩ := Option.map_eq_some_iff.mp hs
    have hq := Kernel.quiet_rtSchedTickIncrease h.timed.inv ht
    exact h.quiet hq.inv hq.look rfl rfl

end Good

omit [DecidableEq Tid] [DecidableEq Oid] in
lemma good_init {sched : SchedState Tid} (hinv : Inv sched) (hset : ∀ t, (sched.look t).ttmrSet = false) :
    Good (System.init sched : System Tid Oid) where
  timed :=
    { inv := hinv
      at_thread := fun t =>
        { mem := fun _ hmem => absurd hmem List.not_mem_nil
          timed := fun _ hset' => absurd ((hset t).symm.trans hset') Bool.false_ne_true
          active := nofun
          fires := nofun
          fresh := fun _ => hset t } }
  fires := nofun
  asleep := nofun

lemma good_of_run {sched : SchedState Tid} (hinv : Inv sched)
    (hset : ∀ t, (sched.look t).ttmrSet = false) (as : List (Action Tid Oid))
    (hC : Along step Calm (System.init sched) as) (hrun : exec step (System.init sched) as = some s) :
    Good s :=
  exec_inv_of_along (fun _ _ _ h hC hs => h.step hC hs) as _ s (good_init hinv hset) hC hrun

section Two

/-- A thread waits for a semaphore, its timer runs out, and a handler that nests in the tick handler
releases the semaphore. -/
def oneRelease (t : Fin 2) : List (Action (Fin 2) Unit) :=
  [.wait (.sem ()) 100 .fifo .uninterruptible, .timerExpires t, .dequeue (.sem ()) .eok]

/-- A thread sleeps, and a handler resumes it before its timer is started. -/
def sleeperResumed (t : Fin 2) : List (Action (Fin 2) Unit) :=
  [.sleep, .resume, .threadResume t, .resume, .resume, .resume, .timerExpires t]

lemma booted_twoThreads : ∃ sched : SchedState (Fin 2),
    exec Sched.step (SchedState.init (fun _ => 10) twoPriorities) twoThreads = some sched ∧ Inv sched ∧
      ∀ t, (sched.look t).ttmrSet = false := by
  obtain ⟨sched, hsched⟩ := Option.isSome_iff_exists.mp
    (show (exec Sched.step (SchedState.init (fun _ => 10) twoPriorities) twoThreads).isSome by
      decide +kernel)
  have hset : ∀ sched ∈ exec Sched.step (SchedState.init (fun _ => 10) twoPriorities) twoThreads,
      ∀ t, (sched.look t).ttmrSet = false := by
    decide +kernel
  exact ⟨sched, hsched, exec_inv (fun _ _ _ => inv_step) _ _ _ (inv_init _ _) hsched,
    hset sched hsched⟩

end Two

end N32L43x.Ipc.Timeout
