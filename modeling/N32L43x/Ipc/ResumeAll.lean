import N32L43x.Ipc.Timeout

/-!
`rt_susp_list_resume_all` and `rt_susp_list_resume_all_irq`: the first thread of the list is dequeued
until that fails.  Between two dequeues the interrupts are enabled, and the tick handler may run; or the
loop runs in a handler that nests in the tick handler, between the removal of a timer from the timer
list and `_thread_timeout`.
-/

namespace N32L43x.Ipc.ResumeAll

open N32L43x.Sched N32L43x.Lib.Run

variable {Tid Oid : Type} [DecidableEq Tid]

/-- `rt_susp_list_dequeue`; an error number that is negative, `none`, is discarded. -/
def rtSuspListDequeue (k : Kernel Tid Oid) (suspList : SuspList Oid) (threadError : Option IpcErr) :
    Kernel Tid Oid × Option Tid :=
  match k.suspendThread suspList with
  | [] => (k, none)
  | t :: _ =>
    match k.rtSchedThreadReady t with
    | (k, .eok) =>
      ({ k with error := Function.update k.error t (threadError.getD (k.error t)) }, some t)
    | (k, _) => (k, none)

/-- A call: the kernel, the thread whose timeout is under way, the threads whose `_thread_timeout` has
run since the call, and whether it has returned. -/
structure Call (Tid Oid : Type) where
  kernel : Kernel Tid Oid
  firing : Option Tid
  timedOut : List Tid
  done : Bool

/-- What can happen next. -/
inductive Action (Tid : Type) where
  /-- the loop dequeues a thread -/
  | dequeue
  | timerExpires (t : Tid)
  | timeoutFunc

/-- One iteration, with the lock that `rt_susp_list_resume_all_irq` takes or without. -/
def iterate (irq : Bool) (suspList : SuspList Oid) (threadError : Option IpcErr)
    (k : Kernel Tid Oid) : Kernel Tid Oid × Option Tid :=
  if irq then
    let (k, thread) := rtSuspListDequeue k.rtSpinLock suspList threadError
    (k.rtSpinUnlock, thread)
  else rtSuspListDequeue k suspList threadError

/-- One step, as long as the call has not returned. -/
def step (irq : Bool) (suspList : SuspList Oid) (threadError : Option IpcErr) (c : Call Tid Oid) :
    Action Tid → Option (Call Tid Oid)
  | .dequeue =>
    if c.done then none
    else
      let (kernel, thread) := iterate irq suspList threadError c.kernel
      some { c with kernel := kernel, done := thread.isNone }
  | .timerExpires t =>
    if c.done = false ∧ c.firing = none ∧ c.kernel.timerActive t = true then
      some { c with
        kernel := { c.kernel with timerActive := Function.update c.kernel.timerActive t false }
        firing := some t }
    else none
  | .timeoutFunc =>
    if c.done then none
    else
      c.firing.map fun t =>
        { c with kernel := c.kernel.threadTimeout t, firing := none, timedOut := t :: c.timedOut }

omit [DecidableEq Tid] in
/-- The beginning of a call. -/
def Call.init (k : Kernel Tid Oid) : Call Tid Oid where
  kernel := k
  firing := none
  timedOut := []
  done := false

/-- What the call is for: the list is empty, and all threads that were in it can run and carry the error
number, or that of their timeout. -/
def WokenAll (suspList : SuspList Oid) (threadError : Option IpcErr) (k : Kernel Tid Oid)
    (c : Call Tid Oid) : Prop :=
  c.kernel.suspendThread suspList = [] ∧ ∀ t ∈ k.suspendThread suspList,
    (c.kernel.look t).life = .live ∧
    c.kernel.error t = if t ∈ c.timedOut then .etimeout else threadError.getD (k.error t)

/-- No thread is dequeued while the timeout of the first one is under way. -/
def Unblocked (suspList : SuspList Oid) (c : Call Tid Oid) : Action Tid → Prop
  | .dequeue => ∀ t ∈ (c.kernel.suspendThread suspList).head?, c.firing ≠ some t
  | _ => True

instance (suspList : SuspList Oid) (c : Call Tid Oid) (a : Action Tid) :
    Decidable (Unblocked suspList c a) :=
  match a with
  | .dequeue =>
    inferInstanceAs (Decidable (∀ t ∈ (c.kernel.suspendThread suspList).head?, c.firing ≠ some t))
  | .timerExpires _ => isTrue trivial
  | .timeoutFunc => isTrue trivial

/-! ### One iteration -/

section Iteration

variable {k : Kernel Tid Oid} {firing : Option Tid} {l : SuspList Oid} {threadError : Option IpcErr}
  {t : Tid} {rest : List Tid}

/-- The first thread is woken. -/
structure Wakes (k k' : Kernel Tid Oid) (t : Tid) (threadError : Option IpcErr) : Prop where
  inv : Inv k'.sched
  look : k'.look = Function.update k.look t { k.look t with life := .live, ttmrSet := false }
  error : k'.error = Function.update k.error t (threadError.getD (k.error t))
  timerActive : k'.timerActive = k.timersStopped t
  suspendThread : k'.suspendThread = fun l => (k.suspendThread l).filter (· ≠ t)

lemma Wakes.trans_quiet {k' k₂ : Kernel Tid Oid} (h : Wakes k k' t threadError)
    (hq : k'.Quiet k₂) : Wakes k k₂ t threadError :=
  ⟨hq.inv, hq.look.trans h.look, hq.error.trans h.error, hq.timerActive.trans h.timerActive,
    hq.suspendThread.trans h.suspendThread⟩

lemma rtSuspListDequeue_of_cons (h : Timed k firing) (hl : k.suspendThread l = t :: rest)
    (hf : firing ≠ some t) :
    ∃ k', rtSuspListDequeue k l threadError = (k', some t) ∧ Wakes k k' t threadError := by
  have hsus : k.Suspended t := h.mem (l := l) (by rw [hl]; exact List.mem_cons_self)
  obtain ⟨k', hready, hr⟩ := Kernel.rtSchedThreadReady_of_timerLive hsus (h.timerLive hsus hf)
  unfold rtSuspListDequeue
  simp only [hl, hready]
  refine ⟨_, rfl, hr.inv h.inv, hr.look, ?_, hr.timerActive, hr.suspendThread⟩
  rw [hr.error]

/-- The first thread is left to its timeout, and nothing is dequeued. -/
lemma rtSuspListDequeue_of_firing (h : Timed k (some t)) (hset : (k.look t).ttmrSet = true)
    (hl : k.suspendThread l = t :: rest) :
    ∃ k', rtSuspListDequeue k l threadError = (k', none) ∧ k.ReadyFails k' t := by
  have hsus : k.Suspended t := h.mem (l := l) (by rw [hl]; exact List.mem_cons_self)
  obtain ⟨k', hready, hr⟩ := Kernel.rtSchedThreadReady_of_not_timerLive hsus (h.not_timerLive hset)
  unfold rtSuspListDequeue
  simp only [hl, hready]
  exact ⟨k', rfl, hr⟩

lemma iterate_of_cons (irq : Bool) (threadError : Option IpcErr) (h : Timed k firing) (hl : k.suspendThread l = t :: rest)
    (hf : firing ≠ some t) :
    ∃ k', iterate irq l threadError k = (k', some t) ∧ Wakes k k' t threadError := by
  unfold iterate
  cases irq with
  | false => exact rtSuspListDequeue_of_cons h hl hf
  | true =>
    have hlock : Timed k.rtSpinLock firing := h.quiet (Kernel.quiet_rtSpinLock h.inv)
    obtain ⟨k', hdeq, hw⟩ := rtSuspListDequeue_of_cons (l := l) hlock hl hf
    rw [if_pos rfl, hdeq]
    have hw' : Wakes k k' t threadError :=
      ⟨hw.inv, hw.look, hw.error, hw.timerActive, hw.suspendThread⟩
    exact ⟨_, rfl, hw'.trans_quiet (Kernel.quiet_rtSpinUnlock hw.inv)⟩

lemma iterate_of_firing (irq : Bool) (threadError : Option IpcErr) (h : Timed k (some t)) (hset : (k.look t).ttmrSet = true)
    (hl : k.suspendThread l = t :: rest) :
    ∃ k', iterate irq l threadError k = (k', none) ∧ k'.suspendThread = k.suspendThread := by
  unfold iterate
  cases irq with
  | false =>
    obtain ⟨k', hdeq, hr⟩ := rtSuspListDequeue_of_firing h hset hl
    exact ⟨k', hdeq, hr.suspendThread⟩
  | true =>
    have hlock : Timed k.rtSpinLock (some t) := h.quiet (Kernel.quiet_rtSpinLock h.inv)
    obtain ⟨k', hdeq, hr⟩ := rtSuspListDequeue_of_firing (l := l) hlock hset hl
    rw [if_pos rfl, hdeq]
    have hq := Kernel.quiet_rtSpinUnlock (hr.inv hlock.inv)
    exact ⟨_, rfl, hq.suspendThread.trans hr.suspendThread⟩

lemma iterate_of_nil (irq : Bool) (threadError : Option IpcErr) (h : Inv k.sched) (hl : k.suspendThread l = []) :
    ∃ k', iterate irq l threadError k = (k', none) ∧ k.Quiet k' := by
  have hdeq : ∀ k : Kernel Tid Oid, k.suspendThread l = [] →
      rtSuspListDequeue k l threadError = (k, none) := by
    intro k hl
    unfold rtSuspListDequeue
    rw [hl]
  unfold iterate
  cases irq with
  | false => exact ⟨k, hdeq k hl, h, rfl, rfl, rfl, rfl, rfl, rfl⟩
  | true =>
    rw [if_pos rfl, hdeq k.rtSpinLock hl]
    exact ⟨_, rfl, Kernel.quiet_critical h⟩

end Iteration

/-! ### Runs -/

/-- How far a call has come: a thread of the list still waits, or it has been woken. -/
structure Progress (l : SuspList Oid) (threadError : Option IpcErr) (k : Kernel Tid Oid)
    (c : Call Tid Oid) : Prop where
  timed : Timed c.kernel c.firing
  set : ∀ t, c.firing = some t → (c.kernel.look t).ttmrSet = true
  thread : ∀ t ∈ k.suspendThread l,
    t ∈ c.kernel.suspendThread l ∧ t ∉ c.timedOut ∧ c.kernel.error t = k.error t ∨
    (c.kernel.look t).life = .live ∧
      c.kernel.error t = if t ∈ c.timedOut then .etimeout else threadError.getD (k.error t)
  done : c.done = true → c.kernel.suspendThread l = []

/-- The call has returned before the list was empty. -/
def Abandoned (l : SuspList Oid) (c : Call Tid Oid) : Prop :=
  c.done = true ∧ c.kernel.suspendThread l ≠ []

section Runs

variable {k : Kernel Tid Oid} {l : SuspList Oid} {threadError : Option IpcErr} {irq : Bool}
  {c c' : Call Tid Oid} {t : Tid}

lemma progress_init (h : Timed k none) : Progress l threadError k (Call.init k) where
  timed := h
  set := nofun
  thread := fun _ ht => .inl ⟨ht, List.not_mem_nil, rfl⟩
  done := nofun

/-- **A dequeue** wakes the first thread, or the list is empty. -/
lemma Progress.dequeue (h : Progress l threadError k c)
    (hC : ∀ t ∈ (c.kernel.suspendThread l).head?, c.firing ≠ some t) :
    Progress l threadError k
      { c with
        kernel := (iterate irq l threadError c.kernel).1
        done := (iterate irq l threadError c.kernel).2.isNone } := by
  rcases hl : c.kernel.suspendThread l with _ | ⟨t, rest⟩
  · obtain ⟨k', hit, hq⟩ := iterate_of_nil irq threadError h.timed.inv hl
    rw [hit]
    refine ⟨h.timed.quiet hq, ?_, ?_, fun _ => by rw [hq.suspendThread]; exact hl⟩
    · simp only
      rw [hq.look]
      exact h.set
    · simp only
      rw [hq.look, hq.error, hq.suspendThread]
      exact h.thread
  · rw [hl] at hC
    have hf : c.firing ≠ some t := hC t rfl
    obtain ⟨k', hit, hw⟩ := iterate_of_cons irq threadError h.timed hl hf
    rw [hit]
    have htimed : Timed k' c.firing := by
      refine h.timed.wake hw.inv (fun u hu => ?_) ?_ (fun u hu => ?_) ?_ hw.suspendThread
        fun _ _ => Iff.rfl
      · rw [hw.look, Function.update_of_ne hu]
      · rw [hw.look, Function.update_self]
      · rw [hw.timerActive]
        exact Kernel.timersStopped_of_ne hu
      · rw [hw.timerActive]
        exact h.timed.timersStopped_self
    refine ⟨htimed, fun u hu => ?_, fun u hu => ?_, nofun⟩
    · have hut : u ≠ t := by
        rintro rfl
        exact hf hu
      simp only
      rw [hw.look, Function.update_of_ne hut]
      exact h.set u hu
    · simp only
      by_cases hut : u = t
      · subst hut
        -- it was in the list, so it has neither timed out nor been given an error number
        right
        have hsus := h.timed.mem (l := l) (t := u) (by rw [hl]; exact List.mem_cons_self)
        have hnot : (c.kernel.look u).life ≠ .live := by
          intro hlive
          rw [Kernel.Suspended, hlive] at hsus
          cases hsus
        obtain ⟨-, hout, herr⟩ := (h.thread u hu).resolve_right fun hlive => hnot hlive.1
        rw [hw.look, hw.error, Function.update_self, Function.update_self, if_neg hout, herr]
        exact ⟨rfl, rfl⟩
      · rw [hw.look, hw.error, hw.suspendThread, Function.update_of_ne hut, Function.update_of_ne hut,
          List.mem_filter]
        rcases h.thread u hu with ⟨hmem, hout, herr⟩ | hlive
        · exact .inl ⟨⟨hmem, decide_eq_true hut⟩, hout, herr⟩
        · exact .inr hlive

/-- **A timeout** wakes its thread. -/
lemma Progress.timeoutFunc (h : Progress l threadError k c) (ht : c.firing = some t)
    (hdone : c.done = false) :
    Progress l threadError k
      { c with kernel := c.kernel.threadTimeout t, firing := none, timedOut := t :: c.timedOut } := by
  have htimed := h.timed
  rw [ht] at htimed
  have hout := htimed.timesOut_threadTimeout
  refine ⟨htimed.timesOut hout, nofun, fun u hu => ?_, fun hd => ?_⟩
  · simp only
    by_cases hut : u = t
    · subst hut
      right
      rw [hout.look, hout.error, Function.update_self, Function.update_self,
        if_pos List.mem_cons_self]
      exact ⟨rfl, rfl⟩
    · have hiff : u ∈ t :: c.timedOut ↔ u ∈ c.timedOut := by
        rw [List.mem_cons, or_iff_right hut]
      rw [hout.look, hout.error, hout.suspendThread, Function.update_of_ne hut,
        Function.update_of_ne hut, List.mem_filter]
      simp only [hiff]
      rcases h.thread u hu with ⟨hmem, hnot, herr⟩ | hlive
      · exact .inl ⟨⟨hmem, decide_eq_true hut⟩, hnot, herr⟩
      · exact .inr hlive
  · rw [hdone] at hd
    cases hd

/-- Every step that meets no first thread whose timeout is under way. -/
lemma Progress.step (h : Progress l threadError k c) {a : Action Tid} (hC : Unblocked l c a)
    (hs : step irq l threadError c a = some c') : Progress l threadError k c' := by
  cases a with
  | dequeue =>
    simp only [ResumeAll.step] at hs
    split at hs
    · cases hs
    · cases hs
      exact h.dequeue hC
  | timerExpires t =>
    simp only [ResumeAll.step] at hs
    split at hs
    · rename_i ht
      cases hs
      obtain ⟨hdone, hf, hact⟩ := ht
      have htimed := h.timed
      rw [hf] at htimed
      refine ⟨htimed.expires hact, fun u hu => ?_, h.thread, h.done⟩
      obtain rfl : t = u := Option.some.inj hu
      exact ((htimed.at_thread t).active hact).2
    · cases hs
  | timeoutFunc =>
    simp only [ResumeAll.step] at hs
    split at hs
    · cases hs
    · rename_i hdone
      obtain ⟨t, ht, rfl⟩ := Option.map_eq_some_iff.mp hs
      exact h.timeoutFunc ht (Bool.eq_false_iff.mpr hdone)

/-- A dequeue that meets one ends the call. -/
lemma Progress.step_blocked (h : Progress l threadError k c) {a : Action Tid} (hC : ¬ Unblocked l c a)
    (hs : ResumeAll.step irq l threadError c a = some c') : Abandoned l c' := by
  cases a with
  | dequeue =>
    obtain ⟨t, hhead, hf⟩ : ∃ t ∈ (c.kernel.suspendThread l).head?, c.firing = some t := by
      unfold Unblocked at hC
      push Not at hC
      exact hC
    obtain ⟨rest, hl⟩ : ∃ rest, c.kernel.suspendThread l = t :: rest := List.head?_eq_some_iff.mp hhead
    have htimed := h.timed
    rw [hf] at htimed
    obtain ⟨k', hit, hlist⟩ := iterate_of_firing irq threadError htimed (h.set t hf) hl
    simp only [ResumeAll.step, hit] at hs
    split at hs
    · cases hs
    · cases hs
      refine ⟨rfl, ?_⟩
      rw [hlist, hl]
      exact List.cons_ne_nil t rest
  | timerExpires t => exact absurd trivial hC
  | timeoutFunc => exact absurd trivial hC

/-- With the call returned and the list empty everybody is awake. -/
lemma Progress.wokenAll (h : Progress l threadError k c) (hl : c.kernel.suspendThread l = []) :
    WokenAll l threadError k c := by
  refine ⟨hl, fun t ht => ?_⟩
  rcases h.thread t ht with ⟨hmem, -, -⟩ | hlive
  · rw [hl] at hmem
    exact absurd hmem List.not_mem_nil
  · exact hlive

/-- For every interleaving with timer interrupts, when the call returns: all threads of the list have
been woken, with the error number or by their timeout, and the list is empty, if and only if no thread
was dequeued while the timeout of the first one was under way. -/
theorem resumeAll_complete_iff (h : Timed k none) (irq : Bool) (l : SuspList Oid)
    (threadError : Option IpcErr) (as : List (Action Tid)) {c : Call Tid Oid}
    (hrun : exec (step irq l threadError) (Call.init k) as = some c) (hdone : c.done = true) :
    WokenAll l threadError k c ↔ Along (step irq l threadError) (Unblocked l) (Call.init k) as := by
  constructor
  · intro hwoken
    refine along_of_exec (I := Progress l threadError k) (B := Abandoned l)
      (fun _ _ _ hc hC hs => hc.step hC hs) (fun _ _ _ hc hC hs => hc.step_blocked hC hs) ?_ as _ c
      (progress_init h) hrun fun hbad => hbad.2 hwoken.1
    intro c a hbad
    cases a <;> simp [ResumeAll.step, hbad.1]
  · intro hC
    have hp : Progress l threadError k c :=
      exec_inv_of_along (fun _ _ _ hc hC hs => hc.step hC hs) as _ c (progress_init h) hC hrun
    exact hp.wokenAll (hp.done hdone)

end Runs

section Two

/-- Two threads wait for a semaphore, the first with a timeout. -/
def twoWait : List (Timeout.Action (Fin 2) Unit) :=
  [.wait (.sem ()) 100 .fifo .uninterruptible, .schedule, .wait (.sem ()) (-1) .fifo .uninterruptible]

/-- The timeout of a thread before both are woken. -/
def timeoutFirst (t : Fin 2) : List (Action (Fin 2)) :=
  [.timerExpires t, .timeoutFunc, .dequeue, .dequeue]

/-- The list as it is after that. -/
lemma timed_twoWait : ∃ sched s, exec Sched.step (SchedState.init (fun _ => 10) twoPriorities)
      twoThreads = some sched ∧
    exec Timeout.step (Timeout.System.init sched) twoWait = some s ∧ Timed s.kernel none := by
  obtain ⟨sched, hsched, hinv, hset⟩ := Timeout.booted_twoThreads
  have hrun : ∀ sched ∈ exec Sched.step (SchedState.init (fun _ => 10) twoPriorities) twoThreads,
      Along Timeout.step Timeout.Calm (Timeout.System.init sched) twoWait ∧
      ∃ s ∈ exec Timeout.step (Timeout.System.init sched) twoWait, s.firing = none := by
    decide +kernel
  obtain ⟨hC, s, hs, hf⟩ := hrun sched hsched
  have htimed := (Timeout.good_of_run hinv hset _ hC hs).timed
  rw [hf] at htimed
  exact ⟨sched, s, hsched, hs, htimed⟩

theorem resumeAll_complete_iff_timeoutFirst : ∃ (k : Kernel (Fin 2) Unit) (c : Call (Fin 2) Unit),
    k.suspendThread (.sem ()) = [0, 1] ∧
    exec (step true (.sem ()) (some .error)) (Call.init k) (timeoutFirst 0) = some c ∧
    WokenAll (.sem ()) (some .error) k c := by
  obtain ⟨sched, s, hsched, hs, htimed⟩ := timed_twoWait
  have hrun : ∀ sched ∈ exec Sched.step (SchedState.init (fun _ => 10) twoPriorities) twoThreads,
      ∀ s ∈ exec Timeout.step (Timeout.System.init sched) twoWait,
      s.kernel.suspendThread (.sem ()) = [0, 1] ∧
      Along (step true (.sem ()) (some .error)) (Unblocked (.sem ())) (Call.init s.kernel)
        (timeoutFirst 0) ∧
      ∃ c ∈ exec (step true (.sem ()) (some .error)) (Call.init s.kernel) (timeoutFirst 0),
        c.done = true := by
    decide +kernel
  obtain ⟨hlist, hC, c, hc, hdone⟩ := hrun sched hsched s hs
  exact ⟨s.kernel, c, hlist, hc,
    (resumeAll_complete_iff htimed true (.sem ()) (some .error) _ hc hdone).mpr hC⟩

/-- The timer of the first thread has been taken off the list when the loop begins: it ends at once, and
both threads still wait. -/
theorem resumeAll_stops : ∃ (k : Kernel (Fin 2) Unit) (c : Call (Fin 2) Unit), Timed k none ∧
    exec (step true (.sem ()) (some .error)) (Call.init k) [.timerExpires 0, .dequeue] = some c ∧
    c.done = true ∧ c.kernel.suspendThread (.sem ()) = [0, 1] ∧
    ¬ WokenAll (.sem ()) (some .error) k c := by
  obtain ⟨sched, s, hsched, hs, htimed⟩ := timed_twoWait
  have hrun : ∀ sched ∈ exec Sched.step (SchedState.init (fun _ => 10) twoPriorities) twoThreads,
      ∀ s ∈ exec Timeout.step (Timeout.System.init sched) twoWait,
      ∃ c ∈ exec (step true (.sem ()) (some .error)) (Call.init s.kernel) [.timerExpires 0, .dequeue],
        c.done = true ∧ c.kernel.suspendThread (.sem ()) = [0, 1] := by
    decide +kernel
  obtain ⟨c, hc, hdone, hlist⟩ := hrun sched hsched s hs
  refine ⟨s.kernel, c, htimed, hc, hdone, hlist, fun hwoken => ?_⟩
  rw [hwoken.1] at hlist
  cases hlist

end Two

end N32L43x.Ipc.ResumeAll
