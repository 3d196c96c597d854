import N32L43x.Event.Send

/-!
Who is woken by an event.  `rt_event_send` does not look at the result of `rt_sched_thread_ready`: a
thread whose timeout is under way, and whose condition the send satisfies, stays in the suspend list and
returns `-RT_ETIMEOUT`, although the events it asked for are cleared.  In a run without such a send no
thread waits in vain, and exactly what is received is cleared.
-/

namespace N32L43x.Event

open N32L43x.Sched N32L43x.Ipc N32L43x.Lib.Run

variable {Tid Oid : Type} [DecidableEq Tid] [DecidableEq Oid]

/-! ### The condition -/

/-- A receive asks for one of its conditions, and no send satisfies the condition of the thread whose
timeout is under way. -/
def Calm (s : System Tid Oid) : Action Tid Oid → Prop
  | .recv _ call _ _ => Asserted call.option
  | .send o set => ∀ t ∈ s.firing, ¬ s.Served o ((s.event o).set ||| set) t
  | _ => True

instance (s : System Tid Oid) (a : Action Tid Oid) : Decidable (Calm s a) :=
  match a with
  | .recv _ call _ _ => inferInstanceAs (Decidable (Asserted call.option))
  | .send o set =>
    inferInstanceAs (Decidable (∀ t ∈ s.firing, ¬ s.Served o ((s.event o).set ||| set) t))
  | .resume => isTrue trivial
  | .reset _ => isTrue trivial
  | .schedule => isTrue trivial
  | .timerExpires _ => isTrue trivial
  | .timeoutFunc => isTrue trivial
  | .tickIncrease => isTrue trivial

/-! ### What is to hold -/

/-- What a receive that succeeds reports. -/
def Call.report (call : Call) (set : EventSet) : Option EventSet :=
  if call.recved then some (set &&& call.set) else none

omit [DecidableEq Tid] [DecidableEq Oid] in
/-- No thread waits for an event that satisfies its condition. -/
def System.Complete (s : System Tid Oid) : Prop :=
  ∀ o, ∀ t ∈ s.kernel.suspendThread (.event o),
    ∃ call, s.pc t = .waiting o call ∧ ¬ Matches call.option call.set (s.event o).set

omit [DecidableEq Tid] [DecidableEq Oid] in
/-- A receive that returns returns `RT_EOK` if and only if its condition was satisfied, and reports the
events that it asked for. -/
def System.Reports (s : System Tid Oid) : Prop :=
  ∀ t o call ret recved, s.pc t = .returns o call ret recved →
    (ret = .eok ↔ (s.satisfied t).isSome) ∧
      ∀ set, s.satisfied t = some set → Matches call.option call.set set ∧ recved = call.report set

/-- The call of `rt_event_recv` a thread is in. -/
def Pc.call? : Pc Oid → Option (Oid × Call)
  | .run => none
  | .waiting o call => some (o, call)
  | .woken o call => some (o, call)
  | .received o call _ => some (o, call)
  | .returns o call _ _ => some (o, call)

/-- The step satisfies the condition of a receive. -/
structure Satisfies (s s' : System Tid Oid) (t : Tid) (o : Oid) (call : Call) (set : EventSet) :
    Prop where
  before : s.satisfied t = none
  after : s'.satisfied t = some set
  call : (s'.pc t).call? = some (o, call)

/-- The set of an event, before the receives that the step satisfies clear it. -/
def sent (s : System Tid Oid) (o : Oid) : Action Tid Oid → EventSet
  | .send o' set => if o' = o then (s.event o).set ||| set else (s.event o).set
  | .reset o' => if o' = o then 0#32 else (s.event o).set
  | _ => (s.event o).set

/-- The events that a step clears are those received with `RT_EVENT_FLAG_CLEAR`. -/
def Cleared (s : System Tid Oid) (a : Action Tid Oid) (s' : System Tid Oid) : Prop :=
  ∀ o i, (s'.event o).set.getLsbD i = true ↔ (sent s o a).getLsbD i = true ∧
    ¬ ∃ t call set, Satisfies s s' t o call set ∧ Clears call.option ∧
      (set &&& call.set).getLsbD i = true

/-! ### The invariant -/

/-- The condition of the call has not been satisfied. -/
def Unanswered (threadError : IpcErr) : Pc Oid → Prop
  | .run => True
  | .waiting .. => threadError ≠ .eok
  | .woken .. => threadError ≠ .eok
  | .received .. => False
  | .returns _ _ ret _ => ret ≠ .eok

/-- The condition of the call was satisfied by `set`. -/
def Answered (threadError : IpcErr) (waiter : Waiter) (set : EventSet) : Pc Oid → Prop
  | .run => False
  | .waiting _ call =>
    threadError = .eok ∧ Matches call.option call.set set ∧ waiter.eventSet = set &&& call.set
  | .woken _ call =>
    threadError = .eok ∧ Matches call.option call.set set ∧ waiter.eventSet = set &&& call.set
  | .received _ call recved =>
    threadError = .eok ∧ Matches call.option call.set set ∧ recved = call.report set
  | .returns _ call ret recved =>
    ret = .eok ∧ Matches call.option call.set set ∧ recved = call.report set

/-- What holds of one thread. -/
structure At (s : System Tid Oid) (t : Tid) : Prop where
  listed : ∀ o, t ∈ s.kernel.suspendThread (.event o) → ∃ call, s.pc t = .waiting o call ∧
    call.set ≠ 0#32 ∧ Asserted call.option ∧ s.waiter t = ⟨call.set, call.option⟩
  unanswered : s.satisfied t = none → Unanswered (s.kernel.error t) (s.pc t)
  /-- it has left the list, and its timer is not about to wake it -/
  answered : ∀ set, s.satisfied t = some set → ¬ s.kernel.Suspended t ∧ s.firing ≠ some t ∧
    Answered (s.kernel.error t) (s.waiter t) set (s.pc t)

structure Core (s : System Tid Oid) : Prop where
  timed : Timed s.kernel s.firing
  nodup : ∀ o, (s.kernel.suspendThread (.event o)).Nodup
  at_thread : ∀ t, At s t

structure Good (s : System Tid Oid) : Prop extends Core s where
  complete : ∀ o t, ¬ s.Served o (s.event o).set t

/-- The thread is left alone. -/
structure Same (s s' : System Tid Oid) (t : Tid) : Prop where
  lists : ∀ l, t ∈ s'.kernel.suspendThread l → t ∈ s.kernel.suspendThread l
  suspended : s'.kernel.Suspended t → s.kernel.Suspended t
  error : s'.kernel.error t = s.kernel.error t
  firing : s'.firing = some t → s.firing = some t
  waiter : s'.waiter t = s.waiter t
  pc : s'.pc t = s.pc t
  satisfied : s'.satisfied t = s.satisfied t

variable {s s' : System Tid Oid} {t : Tid} {o : Oid} {a : Action Tid Oid}

section

omit [DecidableEq Tid] [DecidableEq Oid]

lemma suspended_of_look {k k' : Kernel Tid Oid} (hlook : k'.look t = k.look t) (h : k'.Suspended t) :
    k.Suspended t := by
  unfold Kernel.Suspended at h ⊢
  rwa [hlook] at h

lemma At.same (h : At s t) (hsame : Same s s' t) : At s' t := by
  refine ⟨fun o hmem => ?_, fun hsat => ?_, fun set hsat => ?_⟩
  · rw [hsame.pc, hsame.waiter]
    exact h.listed o (hsame.lists _ hmem)
  · rw [hsame.satisfied] at hsat
    rw [hsame.error, hsame.pc]
    exact h.unanswered hsat
  · rw [hsame.satisfied] at hsat
    obtain ⟨hsus, hfire, hans⟩ := h.answered set hsat
    rw [hsame.error, hsame.waiter, hsame.pc]
    exact ⟨fun hs => hsus (hsame.suspended hs), fun hf => hfire (hsame.firing hf), hans⟩

/-- At most one thread has changed. -/
lemma Core.change (h : Core s) (htimed : Timed s'.kernel s'.firing)
    (hnodup : ∀ o, (s'.kernel.suspendThread (.event o)).Nodup) (hsame : ∀ u, u ≠ t → Same s s' u)
    (ht : At s' t) : Core s' := by
  refine ⟨htimed, hnodup, fun u => ?_⟩
  by_cases hu : u = t
  · rw [hu]
    exact ht
  · exact (h.at_thread u).same (hsame u hu)

/-- Nobody waits in vain if the event has not been sent and nobody has joined the list. -/
lemma Good.of_core (h : Good s) (hcore : Core s') (hevent : s'.event = s.event)
    (hwaiter : s'.waiter = s.waiter) (hlists : Kernel.Shrinks s.kernel s'.kernel) : Good s' := by
  refine ⟨hcore, fun o t hserved => h.complete o t ?_⟩
  unfold System.Served at hserved ⊢
  rw [hevent, hwaiter] at hserved
  exact ⟨hlists _ t hserved.1, hserved.2⟩

end

omit [DecidableEq Tid] in
/-- A step that satisfies nobody clears nothing. -/
lemma cleared_of_none (hevent : ∀ o, (s'.event o).set = sent s o a)
    (hsat : ∀ t, s.satisfied t = none → s'.satisfied t = none) : Cleared s a s' := by
  intro o i
  rw [hevent]
  refine ⟨fun hi => ⟨hi, ?_⟩, fun hi => hi.1⟩
  rintro ⟨t, call, set, hsatisfies, -⟩
  have hnone := hsat t hsatisfies.before
  rw [hsatisfies.after] at hnone
  cases hnone

/-! ### The steps -/

section

omit [DecidableEq Tid] [DecidableEq Oid]

lemma firing_of_running (ht : s.running = some t) : s.firing = none := by
  unfold System.running at ht
  split at ht
  · assumption
  · cases ht

lemma live_of_running (ht : s.running = some t) : (s.kernel.look t).life = .live := by
  unfold System.running at ht
  split at ht
  · split at ht
    · cases ht
      assumption
    · cases ht
  · cases ht

/-- The running thread goes on, and nothing else happens. -/
structure Advances (s s' : System Tid Oid) (t : Tid) : Prop where
  inv : Inv s'.kernel.sched
  look : s'.kernel.look = s.kernel.look
  timerActive : s'.kernel.timerActive = s.kernel.timerActive
  suspendThread : s'.kernel.suspendThread = s.kernel.suspendThread
  firing : s'.firing = s.firing
  error : ∀ u, u ≠ t → s'.kernel.error u = s.kernel.error u
  waiter : ∀ u, u ≠ t → s'.waiter u = s.waiter u
  pc : ∀ u, u ≠ t → s'.pc u = s.pc u
  satisfied : ∀ u, u ≠ t → s'.satisfied u = s.satisfied u

lemma Core.advance (h : Core s) (ht : s.running = some t) (hadv : Advances s s' t)
    (hun : s'.satisfied t = none → Unanswered (s'.kernel.error t) (s'.pc t))
    (hans : ∀ set, s'.satisfied t = some set →
      Answered (s'.kernel.error t) (s'.waiter t) set (s'.pc t)) : Core s' := by
  have hsus := Timeout.not_suspended_of_live (live_of_running ht)
  refine h.change (t := t) ?_ (fun o => ?_) (fun u hu => ?_) ⟨fun o hmem => ?_, hun, fun set hset => ?_⟩
  · rw [hadv.firing]
    exact h.timed.keep hadv.inv hadv.look hadv.timerActive hadv.suspendThread
  · rw [hadv.suspendThread]
    exact h.nodup o
  · refine ⟨fun l hmem => ?_, suspended_of_look (congrFun hadv.look u), hadv.error u hu, fun hf => ?_, hadv.waiter u hu,
      hadv.pc u hu, hadv.satisfied u hu⟩
    · rw [hadv.suspendThread] at hmem
      exact hmem
    · rw [hadv.firing] at hf
      exact hf
  · rw [hadv.suspendThread] at hmem
    exact absurd (h.timed.mem hmem) hsus
  · refine ⟨?_, ?_, hans set hset⟩
    · unfold Kernel.Suspended
      rw [hadv.look]
      exact hsus
    · rw [hadv.firing, firing_of_running ht]
      nofun

/-- A thread that is not in a call has no answer. -/
lemma Core.satisfied_of_run (h : Core s) (hpc : s.pc t = .run) : s.satisfied t = none := by
  rcases hsat : s.satisfied t with _ | set
  · rfl
  · obtain ⟨-, -, hans⟩ := (h.at_thread t).answered set hsat
    rw [hpc] at hans
    exact hans.elim

/-- A thread that waits in the list has no answer yet. -/
lemma Core.satisfied_of_mem (h : Core s) (hmem : t ∈ s.kernel.suspendThread (.event o)) :
    s.satisfied t = none := by
  rcases hsat : s.satisfied t with _ | set
  · rfl
  · exact absurd (h.timed.mem hmem) ((h.at_thread t).answered set hsat).1

end

section Recv

variable {call : Call} {timeout : ℤ} {suspendFlag : SuspendFlag}

/-- The condition is not satisfied, and the thread waits. -/
lemma Good.waits (h : Good s) (ht : s.running = some t) (hpc : s.pc t = .run) (hset : call.set ≠ 0#32)
    (hcall : Asserted call.option) (hmatch : ¬ Matches call.option call.set (s.event o).set)
    {k₀ k₁ : Kernel Tid Oid} (hk₀ : s.kernel.Quiet { k₀ with error := s.kernel.error })
    (herr : k₀.error = Function.update s.kernel.error t .eintr) {flag : IpcFlag} {timed : Bool}
    (hw : k₀.Waits k₁ t (.event o) flag timed) :
    Good { s with
      kernel := k₁.rtSpinUnlock
      waiter := Function.update s.waiter t ⟨call.set, call.option⟩
      pc := Function.update s.pc t (.waiting o call) } := by
  have hsus := Timeout.not_suspended_of_live (live_of_running ht)
  have hf : s.firing ≠ some t := by
    rw [firing_of_running ht]
    nofun
  have hnot : ∀ l, t ∉ s.kernel.suspendThread l := fun l hmem => hsus (h.timed.mem hmem)
  have hq := Kernel.quiet_rtSpinUnlock (hw.inv hk₀.inv)
  have hlook : k₁.rtSpinUnlock.look = Function.update s.kernel.look t
      { s.kernel.look t with life := .suspended, ttmrSet := timed } := by
    rw [hq.look, hw.look, show k₀.look = s.kernel.look from hk₀.look]
  have htimer : k₁.rtSpinUnlock.timerActive = Function.update s.kernel.timerActive t timed := by
    rw [hq.timerActive, hw.timerActive, show k₀.timerActive = s.kernel.timerActive from hk₀.timerActive]
  have hlist : k₁.rtSpinUnlock.suspendThread = Function.update s.kernel.suspendThread (.event o)
      (k₀.enqueued (s.kernel.suspendThread (.event o)) t flag) := by
    rw [hq.suspendThread, hw.suspendThread,
      show k₀.suspendThread = s.kernel.suspendThread from hk₀.suspendThread]
  have herror : k₁.rtSpinUnlock.error = Function.update s.kernel.error t .eintr := by
    rw [hq.error, hw.error, herr]
  have hlists : ∀ u l, u ≠ t → u ∈ k₁.rtSpinUnlock.suspendThread l → u ∈ s.kernel.suspendThread l := by
    intro u l hu hmem
    rw [hlist] at hmem
    by_cases hl : l = .event o
    · subst hl
      rw [Function.update_self, Kernel.mem_enqueued] at hmem
      exact hmem.resolve_left hu
    · rwa [Function.update_of_ne hl] at hmem
  have hcore : Core { s with
      kernel := k₁.rtSpinUnlock
      waiter := Function.update s.waiter t ⟨call.set, call.option⟩
      pc := Function.update s.pc t (.waiting o call) } := by
    refine h.change (t := t) (h.timed.suspend hf timed hq.inv hlook htimer hlists) (fun o' => ?_)
      (fun u hu => ⟨fun l => hlists u l hu, ?_, ?_, id, ?_, ?_, rfl⟩) ⟨fun o' hmem => ?_, fun _ => ?_,
        fun set hsat => ?_⟩
    · simp only [hlist]
      by_cases ho : SuspList.event o' = SuspList.event o
      · rw [ho, Function.update_self]
        exact Kernel.nodup_enqueued (h.nodup o) (hnot _) flag
      · rw [Function.update_of_ne ho]
        exact h.nodup o'
    · exact suspended_of_look ((congrFun hlook u).trans (Function.update_of_ne hu ..))
    · exact (congrFun herror u).trans (Function.update_of_ne hu ..)
    · exact Function.update_of_ne hu ..
    · exact Function.update_of_ne hu ..
    · have ho : o' = o := by
        by_contra ho
        simp only [hlist] at hmem
        rw [Function.update_of_ne fun hl => ho (SuspList.event.inj hl)] at hmem
        exact hnot _ hmem
      subst ho
      exact ⟨call, Function.update_self .., hset, hcall, Function.update_self ..⟩
    · simp only [herror, Function.update_self]
      exact nofun
    · rw [h.satisfied_of_run hpc] at hsat
      cases hsat
  refine ⟨hcore, fun o' u hserved => ?_⟩
  by_cases hu : u = t
  · subst hu
    obtain ⟨call', hpc', -, -, hw'⟩ := (hcore.at_thread u).listed o' hserved.1
    simp only [Function.update_self] at hpc'
    cases hpc'
    have hmatch' := hserved.2
    simp only [Function.update_self] at hmatch'
    exact hmatch hmatch'
  · apply h.complete o' u
    have hmatch' := hserved.2
    simp only [Function.update_of_ne hu] at hmatch'
    exact ⟨hlists u _ hu hserved.1, hmatch'⟩

/-- The condition is satisfied at once. -/
lemma Good.received (h : Good s) (ht : s.running = some t) (hpc : s.pc t = .run)
    (hmatch : Matches call.option call.set (s.event o).set) {k' : Kernel Tid Oid}
    (hq : Kernel.Quiet { s.kernel with error := Function.update s.kernel.error t .eok } k')
    {event : RtEvent} (hevent : event.set =
      if Clears call.option then (s.event o).set &&& ~~~call.set else (s.event o).set)
    (hs' : s' = { s with
      kernel := k'
      event := Function.update s.event o event
      waiter := Function.update s.waiter t ⟨(s.event o).set &&& call.set, call.option⟩
      pc := Function.update s.pc t (.received o call (call.report (s.event o).set))
      satisfied := Function.update s.satisfied t (some (s.event o).set) }) :
    Good s' ∧ Cleared s (.recv o call timeout suspendFlag) s' := by
  have hsus := Timeout.not_suspended_of_live (live_of_running ht)
  have hk' : s'.kernel = k' := by rw [hs']
  have hevent' : s'.event = Function.update s.event o event := by rw [hs']
  have hpc' : s'.pc t = .received o call (call.report (s.event o).set) := by
    rw [hs']
    exact Function.update_self ..
  have hsat' : s'.satisfied t = some (s.event o).set := by
    rw [hs']
    exact Function.update_self ..
  have hset : ∀ o', (s'.event o').set =
      if o' = o ∧ Clears call.option then (s.event o').set &&& ~~~call.set else (s.event o').set := by
    intro o'
    rw [hevent']
    by_cases ho : o' = o
    · subst ho
      rw [Function.update_self, hevent]
      simp only [true_and]
    · rw [Function.update_of_ne ho, if_neg fun h => ho h.1]
  have hadv : Advances s s' t := by
    rw [hs']
    exact ⟨hq.inv, hq.look, hq.timerActive, hq.suspendThread, rfl,
      fun u hu => (congrFun hq.error u).trans (Function.update_of_ne hu ..),
      fun u hu => Function.update_of_ne hu .., fun u hu => Function.update_of_ne hu ..,
      fun u hu => Function.update_of_ne hu ..⟩
  have hcore := h.toCore.advance ht hadv (fun hsat => ?_) fun set hsat => ?_
  · refine ⟨⟨hcore, fun o' u hserved => ?_⟩, fun o' i => ?_⟩
    · -- who is satisfied now was so before
      obtain ⟨hmem, hserved⟩ := hserved
      rw [hadv.suspendThread] at hmem
      have hu : u ≠ t := by
        rintro rfl
        exact hsus (h.timed.mem hmem)
      apply h.complete o' u
      rw [hadv.waiter u hu, hset] at hserved
      refine ⟨hmem, ?_⟩
      split at hserved
      · exact hserved.of_cleared
      · exact hserved
    · have hiff : (∃ u call' set, Satisfies s s' u o' call' set ∧ Clears call'.option ∧
          (set &&& call'.set).getLsbD i = true) ↔
          (o' = o ∧ Clears call.option) ∧ ((s.event o').set &&& call.set).getLsbD i = true := by
        constructor
        · rintro ⟨u, call', set, ⟨hbefore, hafter, hcall'⟩, hclear, hi⟩
          by_cases hu : u = t
          · subst hu
            rw [hpc'] at hcall'
            rw [hsat'] at hafter
            cases hcall'
            cases hafter
            exact ⟨⟨rfl, hclear⟩, hi⟩
          · rw [hadv.satisfied u hu, hbefore] at hafter
            cases hafter
        · rintro ⟨⟨rfl, hclear⟩, hi⟩
          refine ⟨t, call, _, ⟨h.satisfied_of_run hpc, hsat', ?_⟩, hclear, hi⟩
          rw [hpc']
          rfl
      have hsent : sent s o' (.recv o call timeout suspendFlag) = (s.event o').set := rfl
      rw [hiff, hset, hsent]
      split
      · rename_i hclear
        rw [Lib.Bits.getLsbD_and_not, BitVec.getLsbD_and, Bool.and_eq_true]
        exact and_congr_right fun hi => not_congr ⟨fun hi' => ⟨hclear, hi, hi'⟩, fun hi' => hi'.2.2⟩
      · rename_i hclear
        exact ⟨fun hi => ⟨hi, fun hi' => hclear hi'.1⟩, fun hi => hi.1⟩
  · rw [hsat'] at hsat
    cases hsat
  · rw [hsat'] at hsat
    cases hsat
    rw [hpc', hk', hq.error]
    exact ⟨Function.update_self .., hmatch, rfl⟩

omit [DecidableEq Oid] in
/-- A critical section in which only the error number of a thread is written. -/
lemma quiet_errors {k : Kernel Tid Oid} (h : Inv k.sched) (t : Tid) (e e' : IpcErr) :
    let k₀ := Kernel.rtSpinLock { k with error := Function.update k.error t e }
    Kernel.Quiet { k with error := Function.update k.error t e' }
      (Kernel.rtSpinUnlock { k₀ with error := Function.update k₀.error t e' }) := by
  intro k₀
  have hinv : Inv k₀.sched := (Kernel.quiet_rtSpinLock h).inv
  have hq := Kernel.quiet_rtSpinUnlock (k := { k₀ with error := Function.update k₀.error t e' }) hinv
  have herr : Function.update k₀.error t e' = Function.update k.error t e' := Function.update_idem ..
  exact ⟨hq.inv, hq.look, hq.error.trans herr, hq.timerActive, hq.suspendThread, hq.arrivals,
    hq.arrival⟩

omit [DecidableEq Oid] in
/-- The call fails. -/
lemma Good.fails (h : Good s) (ht : s.running = some t) (hpc : s.pc t = .run) {k' : Kernel Tid Oid}
    {error : Tid → IpcErr} (hq : Kernel.Quiet { s.kernel with error := error } k')
    (herr : ∀ u, u ≠ t → error u = s.kernel.error u) {ret : IpcErr} (hret : ret ≠ .eok) :
    Good { s with kernel := k', pc := Function.update s.pc t (.returns o call ret none) } := by
  have hadv : Advances s
      { s with kernel := k', pc := Function.update s.pc t (.returns o call ret none) } t :=
    ⟨hq.inv, hq.look, hq.timerActive, hq.suspendThread, rfl,
      fun u hu => (congrFun hq.error u).trans (herr u hu), fun _ _ => rfl,
      fun u hu => Function.update_of_ne hu .., fun _ _ => rfl⟩
  refine h.of_core (h.toCore.advance ht hadv (fun _ => ?_) fun set hsat => ?_) rfl rfl fun l u hmem => ?_
  · simp only [Function.update_self]
    exact hret
  · simp only [h.satisfied_of_run hpc] at hsat
    cases hsat
  · rw [hadv.suspendThread] at hmem
    exact hmem

/-- `_rt_event_recv`. -/
lemma Good.recv (h : Good s) (hcall : Asserted call.option)
    (hs : step s (.recv o call timeout suspendFlag) = some s') :
    Good s' ∧ Cleared s (.recv o call timeout suspendFlag) s' := by
  obtain ⟨t, ht, hs⟩ := Option.bind_eq_some_iff.mp hs
  split at hs
  case isFalse => cases hs
  rename_i hpc
  have hlive := live_of_running ht
  have hnone : ∀ {s' : System Tid Oid}, s'.event = s.event → s'.satisfied = s.satisfied →
      Cleared s (.recv o call timeout suspendFlag) s' := by
    intro s' hevent hsat
    refine cleared_of_none (fun o' => ?_) fun u hu => ?_
    · rw [hevent]
      rfl
    · rw [hsat]
      exact hu
  unfold rtEventRecv at hs
  by_cases hset : call.set = 0#32
  · simp only [if_pos hset, Function.update_eq_self] at hs
    cases hs
    have hq : Kernel.Quiet s.kernel s.kernel := ⟨h.timed.inv, rfl, rfl, rfl, rfl, rfl, rfl⟩
    exact ⟨h.fails ht hpc hq (fun _ _ => rfl) nofun, hnone rfl rfl⟩
  rw [if_neg hset] at hs
  by_cases hmatch : Matches call.option call.set (s.event o).set
  · simp only [if_pos hmatch] at hs
    have hq := quiet_errors h.timed.inv t .eintr .eok
    have hevent : (if Clears call.option then { s.event o with set := (s.event o).set &&& ~~~call.set }
        else s.event o).set =
          if Clears call.option then (s.event o).set &&& ~~~call.set else (s.event o).set := by
      split <;> rfl
    apply h.received ht hpc hmatch hq hevent
    cases hs
    rfl
  rw [if_neg hmatch] at hs
  by_cases htimeout : timeout = 0
  · simp only [if_pos htimeout, Function.update_eq_self] at hs
    cases hs
    have hq := quiet_errors h.timed.inv t .eintr .etimeout
    exact ⟨h.fails ht hpc hq (fun u hu => Function.update_of_ne hu ..) nofun, hnone rfl rfl⟩
  · let k₀ : Kernel Tid Oid :=
      Kernel.rtSpinLock { s.kernel with error := Function.update s.kernel.error t .eintr }
    obtain ⟨k₁, hsuspend, hsus⟩ := Kernel.rtThreadSuspendToList_of_live (k := k₀) hlive (.event o)
      (s.event o).flag suspendFlag
    have hact : k₀.timerActive t = false :=
      (h.timed.at_thread t).not_active (Timeout.not_suspended_of_live hlive)
    have hwaits := hsus.waits hact (0 < timeout)
    have hk₀ : s.kernel.Quiet { k₀ with error := s.kernel.error } :=
      ⟨(Kernel.quiet_rtSpinLock h.timed.inv).inv, rfl, rfl, rfl, rfl, rfl, rfl⟩
    rw [if_neg htimeout] at hs
    simp only at hs
    rw [hsuspend] at hs
    simp only [Function.update_eq_self] at hs
    cases hs
    exact ⟨h.waits ht hpc hset hcall hmatch hk₀ rfl hwaits, hnone rfl rfl⟩

end Recv

section Send

variable {set : EventSet}

omit [DecidableEq Tid] [DecidableEq Oid] in
/-- The thread whose condition is satisfied, and its call. -/
lemma Core.listed_of_served (h : Core s) (hserved : s.Served o set t) : ∃ call,
    s.pc t = .waiting o call ∧ Matches call.option call.set set ∧
      s.waiter t = ⟨call.set, call.option⟩ := by
  obtain ⟨call, hpc, -, -, hw⟩ := (h.at_thread t).listed o hserved.1
  have hmatch := hserved.2
  rw [hw] at hmatch
  exact ⟨call, hpc, hmatch, hw⟩

/-- What `rt_event_send` does, where `sc` is what its loop leaves. -/
structure Sends (s s' : System Tid Oid) (o : Oid) (set : EventSet) (sc : Scan Tid Oid) : Prop where
  scanned : Scanned set s.firing (s.kernel.suspendThread (.event o))
    ⟨s.kernel.rtSpinLock, s.waiter, 0#32, false⟩ sc
  quiet : sc.kernel.Quiet s'.kernel
  waiter : s'.waiter = sc.waiter
  pc : s'.pc = s.pc
  firing : s'.firing = s.firing
  event : ∀ o' i, (s'.event o').set.getLsbD i = true ↔
    (if o' = o then set else (s.event o').set).getLsbD i = true ∧
      ¬ (o' = o ∧ sc.needClearSet.getLsbD i = true)
  satisfied : ∀ t, s'.satisfied t = if s.Served o set t then some set else s.satisfied t

lemma Good.sends (h : Good s) (hset : set ≠ 0#32)
    (hC : ∀ t ∈ s.firing, ¬ s.Served o ((s.event o).set ||| set) t)
    (hs : step s (.send o set) = some s') : ∃ sc, Sends s s' o ((s.event o).set ||| set) sc := by
  have hq := Kernel.quiet_rtSpinLock h.timed.inv
  have hinfo : ∀ t ∈ s.kernel.suspendThread (.event o), Asserted (s.waiter t).eventInfo := by
    intro t hmem
    obtain ⟨call, -, -, hcall, hw⟩ := (h.at_thread t).listed o hmem
    rw [hw]
    exact hcall
  obtain ⟨sc, hscan, hscanned⟩ := scanned_scan ((s.event o).set ||| set)
    (s.kernel.suspendThread (.event o)) ⟨s.kernel.rtSpinLock, s.waiter, 0#32, false⟩ (h.timed.quiet hq) (h.nodup o) (fun _ hmem => hmem) hinfo
    fun t hmem hhit hf => hC t hf ⟨hmem, hhit⟩
  have hlist : s.kernel.rtSpinLock.suspendThread = s.kernel.suspendThread := rfl
  simp only [step, rtEventSend, if_neg hset, hlist, hscan] at hs
  cases hs
  refine ⟨sc, hscanned, Kernel.quiet_rtSpinUnlock hscanned.timed.inv, rfl, rfl, rfl, fun o' i => ?_,
    fun t => ?_⟩
  · by_cases ho : o' = o
    · subst ho
      simp only [Function.update_self, if_true, true_and]
      split
      · exact Lib.Bits.getLsbD_and_not
      · rename_i hclear
        rw [not_not] at hclear
        rw [hclear, BitVec.getLsbD_zero]
        exact ⟨fun hi => ⟨hi, Bool.false_ne_true⟩, fun hi => hi.1⟩
    · simp only [Function.update_of_ne ho]
      rw [if_neg ho]
      exact ⟨fun hi => ⟨hi, fun h => ho h.1⟩, fun hi => hi.1⟩
  · simp only [ne_eq, hset, not_false_eq_true, true_and]

lemma Sends.core {sc : Scan Tid Oid} (hsends : Sends s s' o set sc) (h : Core s)
    (hC : ∀ t ∈ s.firing, ¬ s.Served o set t) : Core s' := by
  have hscanned := hsends.scanned
  have hq := hsends.quiet
  refine ⟨?_, fun o' => ?_, fun u => ?_⟩
  · rw [hsends.firing]
    exact hscanned.timed.quiet hq
  · rw [hq.suspendThread]
    exact hscanned.nodup _ (h.nodup o')
  by_cases hserved : s.Served o set u
  · obtain ⟨call, hpc, hmatch, hw⟩ := h.listed_of_served hserved
    obtain ⟨hsus, herr, hset⟩ := hscanned.woken u hserved.1 hserved.2
    have hsat : s'.satisfied u = some set := by
      rw [hsends.satisfied, if_pos hserved]
    refine ⟨fun o' hmem => ?_, fun hsat' => ?_, fun set' hsat' => ⟨?_, ?_, ?_⟩⟩
    · rw [hq.suspendThread] at hmem
      exact absurd hserved ((hscanned.mem _ u).mp hmem).2
    · rw [hsat] at hsat'
      cases hsat'
    · rw [hq.suspended_iff]
      exact hsus
    · rw [hsends.firing]
      exact fun hf => hC u hf hserved
    · rw [hsat] at hsat'
      cases hsat'
      rw [hsends.pc, hpc, hq.error, hsends.waiter]
      refine ⟨herr, hmatch, hset.trans ?_⟩
      simp only [hw]
  · obtain ⟨hlook, herr, hw⟩ := hscanned.others u hserved
    refine (h.at_thread u).same ⟨fun l hmem => ?_, ?_, ?_, ?_, ?_, congrFun hsends.pc u, ?_⟩
    · rw [hq.suspendThread] at hmem
      exact ((hscanned.mem l u).mp hmem).1
    · rw [hq.suspended_iff]
      exact suspended_of_look hlook
    · rw [hq.error]
      exact herr
    · rw [hsends.firing]
      exact id
    · rw [hsends.waiter]
      exact hw
    · rw [hsends.satisfied, if_neg hserved]

/-- Who is left in the list waits for something else. -/
lemma Sends.complete {sc : Scan Tid Oid} (hsends : Sends s s' o set sc) (h : Good s) (o' : Oid)
    (u : Tid) : ¬ s'.Served o' (s'.event o').set u := by
  rintro ⟨hmem, hmatch⟩
  have hscanned := hsends.scanned
  rw [hsends.quiet.suspendThread] at hmem
  obtain ⟨hmem, hnot⟩ := (hscanned.mem _ u).mp hmem
  rw [hsends.waiter, (hscanned.others u hnot).2.2] at hmatch
  have hset : (s'.event o').set = (if o' = o then set else (s.event o').set) &&&
      ~~~(if o' = o then sc.needClearSet else 0#32) := by
    apply BitVec.eq_of_getLsbD_eq
    intro i _
    rw [Bool.eq_iff_iff, hsends.event, Lib.Bits.getLsbD_and_not]
    refine and_congr_right fun _ => not_congr ?_
    by_cases ho : o' = o
    · simp only [ho, true_and, if_true]
    · simp only [ho, false_and, if_false, BitVec.getLsbD_zero, Bool.false_eq_true]
  rw [hset] at hmatch
  have hmatch' := hmatch.of_cleared
  by_cases ho : o' = o
  · subst ho
    rw [if_pos rfl] at hmatch'
    exact hnot ⟨hmem, hmatch'⟩
  · rw [if_neg ho] at hmatch'
    exact h.complete o' u ⟨hmem, hmatch'⟩

/-- What a send clears is what the threads it wakes have received. -/
lemma Sends.satisfies_iff {sc : Scan Tid Oid} (hsends : Sends s s' o set sc) (h : Core s) (o' : Oid)
    (i : ℕ) : (∃ t call set', Satisfies s s' t o' call set' ∧ Clears call.option ∧
      (set' &&& call.set).getLsbD i = true) ↔ o' = o ∧ sc.needClearSet.getLsbD i = true := by
  rw [hsends.scanned.clear, BitVec.getLsbD_zero, or_iff_right Bool.false_ne_true]
  constructor
  · rintro ⟨t, call, set', ⟨hbefore, hafter, hcall⟩, hclear, hi⟩
    rw [hsends.satisfied] at hafter
    split at hafter
    · rename_i hserved
      cases hafter
      obtain ⟨call', hpc, -, hw⟩ := h.listed_of_served hserved
      rw [hsends.pc, hpc] at hcall
      cases hcall
      refine ⟨rfl, t, hserved.1, hserved.2, ?_⟩
      simp only [hw]
      exact ⟨hclear, hi⟩
    · rw [hbefore] at hafter
      cases hafter
  · rintro ⟨rfl, t, hmem, hhit, hclear, hi⟩
    have hserved : s.Served o' set t := ⟨hmem, hhit⟩
    obtain ⟨call, hpc, -, hw⟩ := h.listed_of_served hserved
    simp only [hw] at hclear hi
    refine ⟨t, call, set, ⟨h.satisfied_of_mem hmem, ?_, ?_⟩, hclear, hi⟩
    · rw [hsends.satisfied, if_pos hserved]
    · rw [hsends.pc, hpc]
      rfl

/-- `rt_event_send`. -/
lemma Good.send (h : Good s) (hC : ∀ t ∈ s.firing, ¬ s.Served o ((s.event o).set ||| set) t)
    (hs : step s (.send o set) = some s') : Good s' ∧ Cleared s (.send o set) s' := by
  by_cases hset : set = 0#32
  · subst hset
    simp only [step, rtEventSend, if_true, Function.update_eq_self, ne_eq, not_true_eq_false,
      false_and, if_false] at hs
    cases hs
    refine ⟨h, cleared_of_none (fun o' => ?_) fun _ ht => ht⟩
    simp only [sent]
    split
    · exact (BitVec.or_zero ..).symm
    · rfl
  · obtain ⟨sc, hsends⟩ := h.sends hset hC hs
    refine ⟨⟨hsends.core h.toCore hC, hsends.complete h⟩, fun o' i => ?_⟩
    rw [hsends.event, hsends.satisfies_iff h.toCore]
    simp only [sent, eq_comm (a := o)]
    by_cases ho : o' = o
    · simp only [ho, if_true]
    · simp only [ho, if_false]

end Send

section Wake

omit [DecidableEq Oid] in
/-- `rt_susp_list_dequeue` with an error number. -/
lemma Core.dequeue (h : Core s) {threadError : IpcErr} (herr : threadError ≠ .eok) :
    Core { s with kernel := (s.kernel.rtSuspListDequeue (.event o) threadError).1 } := by
  have htimed := h.timed.rtSuspListDequeue (.event o) threadError
  rcases hl : s.kernel.suspendThread (.event o) with _ | ⟨t, rest⟩
  · have hdeq : s.kernel.rtSuspListDequeue (.event o) threadError = (s.kernel, none) := by
      unfold Kernel.rtSuspListDequeue
      rw [hl]
    rw [hdeq]
    exact h
  have hmem : t ∈ s.kernel.suspendThread (.event o) := by
    rw [hl]
    exact List.mem_cons_self
  have hsus := h.timed.mem hmem
  by_cases htimer : s.kernel.TimerLive t
  · obtain ⟨k', hdeq, hlook, herror, -, hlist⟩ :=
      Kernel.rtSuspListDequeue_of_cons hl hsus htimer threadError
    obtain ⟨call, hpc, -⟩ := (h.at_thread t).listed o hmem
    rw [hdeq] at htimed ⊢
    refine h.change (t := t) htimed (fun o' => ?_) (fun u hu => ⟨fun l hu' => ?_, ?_, ?_, id, rfl, rfl,
      rfl⟩) ⟨fun o' hmem' => ?_, fun _ => ?_, fun set hsat => ?_⟩
    · rw [hlist]
      exact (h.nodup o').filter _
    · rw [hlist] at hu'
      exact List.mem_of_mem_filter hu'
    · exact suspended_of_look ((congrFun hlook u).trans (Function.update_of_ne hu ..))
    · exact (congrFun herror u).trans (Function.update_of_ne hu ..)
    · simp [hlist] at hmem'
    · simp only [hpc, herror, Function.update_self]
      exact herr
    · simp only [h.satisfied_of_mem hmem] at hsat
      cases hsat
  · -- the timeout of the first thread is under way, and it is left where it is
    obtain ⟨k', hready, hr⟩ := Kernel.rtSchedThreadReady_of_not_timerLive hsus htimer
    have hdeq : s.kernel.rtSuspListDequeue (.event o) threadError = (k', none) := by
      unfold Kernel.rtSuspListDequeue
      simp only [hl, hready]
    rw [hdeq] at htimed ⊢
    refine ⟨htimed, fun o' => ?_, fun u => (h.at_thread u).same ⟨fun l hu => ?_, fun hu => ?_, ?_, id,
      rfl, rfl, rfl⟩⟩
    · rw [hr.suspendThread]
      exact h.nodup o'
    · rw [hr.suspendThread] at hu
      exact hu
    · unfold Kernel.Suspended at hu
      rw [hr.look] at hu
      by_cases hut : u = t
      · rw [hut]
        exact hsus
      · rw [Function.update_of_ne hut] at hu
        exact hu
    · exact congrFun hr.error u

omit [DecidableEq Tid] [DecidableEq Oid] in
/-- The scheduler may have switched. -/
lemma Core.quiet (h : Core s) {k' : Kernel Tid Oid} (hq : s.kernel.Quiet k') :
    Core { s with kernel := k' } := by
  refine ⟨h.timed.quiet hq, fun o => ?_, fun u => (h.at_thread u).same ⟨fun l hu => ?_,
    suspended_of_look (congrFun hq.look u), congrFun hq.error u, id, rfl, rfl, rfl⟩⟩
  · rw [hq.suspendThread]
    exact h.nodup o
  · rw [hq.suspendThread] at hu
    exact hu

/-- `rt_event_control` with `RT_IPC_CMD_RESET`. -/
lemma Good.reset (h : Good s) (hs : step s (.reset o) = some s') :
    Good s' ∧ Cleared s (.reset o) s' := by
  have hevent : ∀ o', (s'.event o').set = sent s o' (.reset o) := by
    intro o'
    cases hs
    simp only [sent]
    by_cases ho : o = o'
    · rw [if_pos ho, ho, Function.update_self]
    · rw [if_neg ho, Function.update_of_ne (Ne.symm ho)]
  have herr : IpcErr.error ≠ .eok := nofun
  have hlocked := h.toCore.quiet (Kernel.quiet_rtSpinLock h.timed.inv)
  have hcore : ∀ n, Core { s with
      kernel := Kernel.resumeLoop (.event o) .error n s.kernel.rtSpinLock } := fun n =>
    Kernel.resumeLoop_of_dequeue (fun k => Core { s with kernel := k }) (fun _ h => h.dequeue herr) n
      hlocked
  have hshrinks := Kernel.shrinks_resumeLoop (.event o) .error
    ((s.kernel.suspendThread (.event o)).length + 1) s.kernel.rtSpinLock
  have hcore₁ := hcore ((s.kernel.suspendThread (.event o)).length + 1)
  have hq := Kernel.quiet_rtSpinUnlock hcore₁.timed.inv
  have hcore₂ := hcore₁.quiet hq
  refine ⟨⟨?_, fun o' t hserved => ?_⟩, cleared_of_none hevent fun t hsat => ?_⟩
  · cases hs
    exact ⟨hcore₂.timed, hcore₂.nodup, fun t => (hcore₂.at_thread t).same
      ⟨fun _ h => h, id, rfl, id, rfl, rfl, rfl⟩⟩
  · rw [hevent] at hserved
    have hmem : t ∈ s.kernel.suspendThread (.event o') := by
      have hmem := hserved.1
      cases hs
      exact hshrinks _ t (hq.shrinks _ t hmem)
    have hw : s'.waiter = s.waiter := by
      cases hs
      rfl
    have hmatch := hserved.2
    obtain ⟨call, -, hset, -, hcall⟩ := (h.at_thread t).listed o' hmem
    rw [hw] at hmatch
    simp only [sent] at hmatch
    split at hmatch
    · rw [hcall] at hmatch
      exact not_matches_zero hset hmatch
    · exact h.complete o' t ⟨hmem, hmatch⟩
  · cases hs
    exact hsat

end Wake

omit [DecidableEq Oid] in
/-- The running thread goes on with its call. -/
lemma Good.resume (h : Good s) (ht : s.running = some t) (hs : resume s t = some s') :
    Good s' ∧ s'.event = s.event ∧ ∀ u, s.satisfied u = none → s'.satisfied u = none := by
  have hun := (h.at_thread t).unanswered
  have hans := fun set hsat => ((h.at_thread t).answered set hsat).2.2
  unfold Event.resume at hs
  cases hpc : s.pc t with
  | run =>
    rw [hpc] at hs
    cases hs
  | waiting o call =>
    simp only [hpc] at hs hun hans
    cases hs
    have hq := Kernel.quiet_rtSchedule h.timed.inv
    refine ⟨h.of_core (h.toCore.advance ht ⟨hq.inv, hq.look, hq.timerActive, hq.suspendThread, rfl,
      fun u _ => congrFun hq.error u, fun _ _ => rfl, fun u hu => Function.update_of_ne hu ..,
      fun _ _ => rfl⟩ (fun hsat => ?_) fun set hsat => ?_) rfl rfl hq.shrinks, rfl, fun _ hu => hu⟩
    · simp only [Function.update_self, hq.error]
      exact hun hsat
    · simp only [Function.update_self, hq.error]
      exact hans set hsat
  | woken o call =>
    simp only [hpc] at hs hun hans
    split at hs
    · rename_i herr
      cases hs
      refine ⟨h.of_core (h.toCore.advance ht ⟨h.timed.inv, rfl, rfl, rfl, rfl, fun _ _ => rfl,
        fun _ _ => rfl, fun u hu => Function.update_of_ne hu .., fun _ _ => rfl⟩ (fun _ => ?_)
        fun set hsat => ?_) rfl rfl fun _ _ hu => hu, rfl, fun _ hu => hu⟩
      · simp only [Function.update_self]
        exact herr
      · exact absurd (hans set hsat).1 herr
    · rename_i herr
      rw [not_not] at herr
      cases hs
      have hq := Kernel.quiet_critical h.timed.inv
      refine ⟨h.of_core (h.toCore.advance ht ⟨hq.inv, hq.look, hq.timerActive, hq.suspendThread, rfl,
        fun u _ => congrFun hq.error u, fun _ _ => rfl, fun u hu => Function.update_of_ne hu ..,
        fun _ _ => rfl⟩ (fun hsat => ?_) fun set hsat => ?_) rfl rfl hq.shrinks, rfl, fun _ hu => hu⟩
      · exact absurd herr (hun hsat)
      · obtain ⟨-, hmatch, hset⟩ := hans set hsat
        simp only [Function.update_self, hq.error]
        refine ⟨herr, hmatch, ?_⟩
        rw [hset]
        rfl
  | received o call recved =>
    simp only [hpc] at hs hun hans
    cases hs
    refine ⟨h.of_core (h.toCore.advance ht ⟨h.timed.inv, rfl, rfl, rfl, rfl, fun _ _ => rfl,
      fun _ _ => rfl, fun u hu => Function.update_of_ne hu .., fun _ _ => rfl⟩ (fun hsat => ?_)
      fun set hsat => ?_) rfl rfl fun _ _ hu => hu, rfl, fun _ hu => hu⟩
    · exact (hun hsat).elim
    · simp only [Function.update_self]
      exact hans set hsat
  | returns o call ret recved =>
    simp only [hpc] at hs
    cases hs
    refine ⟨h.of_core (h.toCore.advance ht ⟨h.timed.inv, rfl, rfl, rfl, rfl, fun _ _ => rfl,
      fun _ _ => rfl, fun u hu => Function.update_of_ne hu .., fun u hu => Function.update_of_ne hu ..⟩
      (fun _ => ?_) fun set hsat => ?_) rfl rfl fun _ _ hu => hu, rfl, fun u hu => ?_⟩
    · simp only [Function.update_self]
      trivial
    · simp only [Function.update_self] at hsat
      cases hsat
    · by_cases hut : u = t
      · subst hut
        exact Function.update_self ..
      · exact (Function.update_of_ne hut ..).trans hu

omit [DecidableEq Oid] in
/-- The tick handler takes a timer off the list. -/
lemma Good.timerExpires (h : Good s) (hf : s.firing = none) (ht : s.kernel.timerActive t = true) :
    Good { s with
      kernel := { s.kernel with timerActive := Function.update s.kernel.timerActive t false }
      firing := some t } := by
  have htimed := h.timed
  rw [hf] at htimed
  have hsus := ((htimed.at_thread t).active ht).1
  refine h.of_core (h.toCore.change (t := t) (htimed.expires ht) h.nodup
    (fun u hu => ⟨fun _ hmem => hmem, id, rfl, fun hf' => ?_, rfl, rfl, rfl⟩)
    ⟨(h.at_thread t).listed, (h.at_thread t).unanswered, fun set hsat => ?_⟩) rfl rfl
    fun _ _ hu => hu
  · cases hf'
    exact absurd rfl hu
  · exact absurd hsus ((h.at_thread t).answered set hsat).1

omit [DecidableEq Oid] in
/-- `_thread_timeout`, of a thread that has no answer. -/
lemma Good.timeoutFunc (h : Good s) (hf : s.firing = some t) :
    Good { s with kernel := s.kernel.threadTimeout t, firing := none } := by
  have htimed := h.timed
  rw [hf] at htimed
  have hout := htimed.timesOut_threadTimeout
  refine h.of_core (h.toCore.change (t := t) (htimed.timesOut hout) (fun o => ?_)
    (fun u hu => ⟨fun l => hout.shrinks l u, suspended_of_look ?_, ?_, nofun, rfl, rfl, rfl⟩)
    ⟨fun o hmem => ?_, fun hsat => ?_, fun set hsat => ?_⟩) rfl rfl hout.shrinks
  · rw [hout.suspendThread]
    exact (h.nodup o).filter _
  · exact (congrFun hout.look u).trans (Function.update_of_ne hu ..)
  · exact (congrFun hout.error u).trans (Function.update_of_ne hu ..)
  · simp [hout.suspendThread] at hmem
  · have herr : (s.kernel.threadTimeout t).error t = .etimeout := by
      rw [hout.error, Function.update_self]
    have hun := (h.at_thread t).unanswered hsat
    simp only [herr]
    cases hpc : s.pc t <;> simp only [hpc, Unanswered] at hun ⊢ <;> first | exact hun | exact nofun
  · exact absurd hf ((h.at_thread t).answered set hsat).2.1

/-- Every step within the condition. -/
lemma Good.step (h : Good s) (hC : Calm s a) (hs : step s a = some s') :
    Good s' ∧ Cleared s a s' := by
  cases a with
  | recv o call timeout suspendFlag => exact h.recv hC hs
  | resume =>
    obtain ⟨t, ht, hs⟩ := Option.bind_eq_some_iff.mp hs
    obtain ⟨hgood, hevent, hsat⟩ := h.resume ht hs
    refine ⟨hgood, cleared_of_none (fun o => ?_) hsat⟩
    rw [hevent]
    rfl
  | send o set => exact h.send hC hs
  | reset o => exact h.reset hs
  | schedule =>
    cases hs
    have hq := Kernel.quiet_rtSchedule h.timed.inv
    exact ⟨h.of_core (h.toCore.quiet hq) rfl rfl hq.shrinks,
      cleared_of_none (fun _ => rfl) fun _ hu => hu⟩
  | timerExpires t =>
    simp only [Event.step] at hs
    split at hs
    · rename_i ht
      cases hs
      exact ⟨h.timerExpires ht.1 ht.2, cleared_of_none (fun _ => rfl) fun _ hu => hu⟩
    · cases hs
  | timeoutFunc =>
    obtain ⟨t, ht, rfl⟩ := Option.map_eq_some_iff.mp hs
    exact ⟨h.timeoutFunc ht, cleared_of_none (fun _ => rfl) fun _ hu => hu⟩
  | tickIncrease =>
    obtain ⟨t, ht, rfl⟩ := Option.map_eq_some_iff.mp hs
    have hq := Kernel.quiet_rtSchedTickIncrease h.timed.inv ht
    exact ⟨h.of_core (h.toCore.quiet hq) rfl rfl hq.shrinks,
      cleared_of_none (fun _ => rfl) fun _ hu => hu⟩

/-! ### Runs -/

omit [DecidableEq Tid] [DecidableEq Oid] in
lemma good_init {sched : SchedState Tid} (hinv : Inv sched) (hset : ∀ t, (sched.look t).ttmrSet = false)
    (flag : Oid → IpcFlag) (waiter : Tid → Waiter) : Good (System.init sched flag waiter) where
  timed :=
    have hinit : Timeout.Good (Timeout.System.init sched : Timeout.System Tid Oid) :=
      Timeout.good_init hinv hset
    hinit.timed
  nodup := fun _ => List.nodup_nil
  at_thread := fun _ => ⟨fun _ hmem => absurd hmem List.not_mem_nil, fun _ => trivial, nofun⟩
  complete := fun _ _ hserved => absurd hserved.1 List.not_mem_nil

omit [DecidableEq Tid] [DecidableEq Oid] in
lemma Good.system_complete (h : Good s) : s.Complete := by
  intro o t hmem
  obtain ⟨call, hpc, -, -, hw⟩ := (h.at_thread t).listed o hmem
  refine ⟨call, hpc, fun hmatch => h.complete o t ⟨hmem, ?_⟩⟩
  rw [hw]
  exact hmatch

omit [DecidableEq Tid] [DecidableEq Oid] in
lemma Core.reports (h : Core s) : s.Reports := by
  intro t o call ret recved hpc
  have hun := (h.at_thread t).unanswered
  have hans := fun set hsat => ((h.at_thread t).answered set hsat).2.2
  simp only [hpc] at hun hans
  rcases hsat : s.satisfied t with _ | set
  · exact ⟨iff_of_false (hun hsat) nofun, nofun⟩
  · obtain ⟨hret, hmatch, hrecved⟩ := hans set hsat
    refine ⟨iff_of_true hret rfl, fun set' hset' => ?_⟩
    cases hset'
    exact ⟨hmatch, hrecved⟩

/-- In every run whose receives ask for one of their conditions, and in which no send satisfies the
condition of a thread whose timeout is under way, no thread ever waits for an event that satisfies its
condition, the receives that succeed are those whose condition was satisfied and report what they asked
for of what was sent, and every step clears just what the receives it satisfies have received with
`RT_EVENT_FLAG_CLEAR`. -/
theorem wakeups_complete {sched : SchedState Tid} (hinv : Inv sched)
    (hset : ∀ t, (sched.look t).ttmrSet = false) (flag : Oid → IpcFlag) (waiter : Tid → Waiter)
    (as : List (Action Tid Oid)) (hC : Along step Calm (System.init sched flag waiter) as)
    (hrun : exec step (System.init sched flag waiter) as = some s) :
    s.Complete ∧ s.Reports ∧ ∀ a s', Calm s a → step s a = some s' → Cleared s a s' := by
  have hgood := exec_inv_of_along (fun _ _ _ h hC hs => (h.step hC hs).1) as _ s
    (good_init hinv hset flag waiter) hC hrun
  exact ⟨hgood.system_complete, hgood.reports, fun _ _ hC' hs => (hgood.step hC' hs).2⟩

section Two

/-- Any of two events. -/
def anyOf (option : BitVec 8) : Call := ⟨3#32, option, true⟩

/-- Two threads wait, one for both of two events, which it clears, and one for any of two others. -/
def twoReceives : List (Action (Fin 2) Unit) :=
  [.recv () ⟨3#32, 5#8, true⟩ (-1) .uninterruptible, .recv () ⟨6#32, 2#8, true⟩ 100 .uninterruptible,
    .send () 3#32, .resume, .resume, .resume]

/-- A thread waits, its timer runs out, and a handler that nests in the tick handler sends an event. -/
def lateSend (option : BitVec 8) (t : Fin 2) : List (Action (Fin 2) Unit) :=
  [.recv () (anyOf option) 100 .uninterruptible, .timerExpires t, .send () 1#32]

/-- The system of two threads and one event. -/
def twoSystem (sched : SchedState (Fin 2)) : System (Fin 2) Unit :=
  System.init sched (fun _ => .fifo) fun _ => ⟨0#32, 0#8⟩

theorem wakeups_complete_twoReceives : ∃ (sched : SchedState (Fin 2)) (s : System (Fin 2) Unit),
    exec step (twoSystem sched) twoReceives = some s ∧ s.Complete ∧ s.Reports ∧
      s.pc 0 = .returns () ⟨3#32, 5#8, true⟩ .eok (some 3#32) ∧ (s.event ()).set = 0#32 := by
  obtain ⟨sched, hsched, hinv, hset⟩ := Timeout.booted_twoThreads
  have hrun : ∀ sched ∈ exec Sched.step (SchedState.init (fun _ => 10) twoPriorities) twoThreads,
      Along step Calm (twoSystem sched) twoReceives ∧
      ∃ s ∈ exec step (twoSystem sched) twoReceives,
        s.pc 0 = .returns () ⟨3#32, 5#8, true⟩ .eok (some 3#32) ∧ (s.event ()).set = 0#32 := by
    decide +kernel
  obtain ⟨hC, s, hs, hpc, hevent⟩ := hrun sched hsched
  obtain ⟨hcomplete, hreports, -⟩ := wakeups_complete hinv hset _ _ _ hC hs
  exact ⟨sched, s, hs, hcomplete, hreports, hpc, hevent⟩

/-- The thread stays in the list although its condition is satisfied; and one that clears what it
receives returns `-RT_ETIMEOUT`, but the event is cleared. -/
theorem wakeup_lost : ∃ sched : SchedState (Fin 2), Inv sched ∧ (∀ t, (sched.look t).ttmrSet = false) ∧
    (∃ s, exec step (twoSystem sched) (lateSend 2#8 0) = some s ∧ ¬ s.Complete ∧
      0 ∈ s.kernel.suspendThread (.event ()) ∧ s.pc 0 = .waiting () (anyOf 2#8) ∧
      Matches 2#8 3#32 (s.event ()).set) ∧
    ∃ s, exec step (twoSystem sched) (lateSend 6#8 0 ++ [.timeoutFunc, .resume, .resume]) = some s ∧
      ¬ s.Reports ∧ s.pc 0 = .returns () (anyOf 6#8) .etimeout none ∧ s.satisfied 0 = some 1#32 ∧
      (s.event ()).set = 0#32 := by
  obtain ⟨sched, hsched, hinv, hset⟩ := Timeout.booted_twoThreads
  have hrun : ∀ sched ∈ exec Sched.step (SchedState.init (fun _ => 10) twoPriorities) twoThreads,
      (∃ s ∈ exec step (twoSystem sched) (lateSend 2#8 0),
        0 ∈ s.kernel.suspendThread (.event ()) ∧ s.pc 0 = .waiting () (anyOf 2#8) ∧
        Matches 2#8 3#32 (s.event ()).set) ∧
      ∃ s ∈ exec step (twoSystem sched) (lateSend 6#8 0 ++ [.timeoutFunc, .resume, .resume]),
        s.pc 0 = .returns () (anyOf 6#8) .etimeout none ∧ s.satisfied 0 = some 1#32 ∧
        (s.event ()).set = 0#32 := by
    decide +kernel
  obtain ⟨⟨s, hs, hmem, hpc, hmatch⟩, s', hs', hpc', hsat, hevent⟩ := hrun sched hsched
  refine ⟨sched, hinv, hset, ⟨s, hs, fun hcomplete => ?_, hmem, hpc, hmatch⟩, s', hs',
    fun hreports => ?_, hpc', hsat, hevent⟩
  · obtain ⟨call, hpc', hnot⟩ := hcomplete () 0 hmem
    rw [hpc] at hpc'
    cases hpc'
    exact hnot hmatch
  · have hret := (hreports 0 () _ _ _ hpc').1.mpr
    rw [hsat] at hret
    cases hret rfl

end Two

end N32L43x.Event
