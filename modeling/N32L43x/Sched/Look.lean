import N32L43x.Sched.Runs

/-!
What the scheduler leaves alone: which of the threads that can run is running is its own affair,
everything else about a thread is changed by the operation that says so.
-/

namespace N32L43x.Sched

/-- The status of a thread as far as the scheduler does not decide it. -/
inductive Life where
  | init
  /-- ready or running -/
  | live
  | suspended
  | closed
deriving DecidableEq

def ThreadStat.life : ThreadStat → Life
  | .init => .init
  | .close => .closed
  | .ready => .live
  | .running => .live
  | .suspend _ => .suspended

/-- The fields of a thread that `rt_schedule` keeps. -/
structure Look where
  life : Life
  initPriority : Fin 32
  currentPriority : Fin 32
  ttmrSet : Bool

def Thread.look (th : Thread) : Look where
  life := th.stat.life
  initPriority := th.initPriority
  currentPriority := th.currentPriority
  ttmrSet := th.ttmrSet

def SchedState.look {Tid : Type} (s : SchedState Tid) (t : Tid) : Look := (s.thread t).look

lemma life_suspended_iff {st : ThreadStat} : st.life = .suspended ↔ st.isSuspended = true := by
  cases st <;> simp [ThreadStat.life, ThreadStat.isSuspended]

lemma life_live_iff {st : ThreadStat} : st.life = .live ↔ st = .ready ∨ st = .running := by
  cases st <;> simp [ThreadStat.life]

variable {Tid : Type} [DecidableEq Tid] {s : SchedState Tid} {t u : Tid} {f : Thread → Thread}

lemma look_modify : (s.modify t f).look = Function.update s.look t (f (s.thread t)).look := by
  funext u
  by_cases hu : u = t
  · subst hu
    simp [SchedState.look]
  · simp [SchedState.look, modify_thread_of_ne hu, hu]

/-- A write to other fields. -/
lemma look_modify_of_eq (h : (f (s.thread t)).look = (s.thread t).look) :
    (s.modify t f).look = s.look := by
  rw [look_modify, h]
  exact Function.update_eq_self t s.look

@[simp] lemma look_listRemove : (s.listRemove t).look = s.look := rfl

@[simp] lemma look_remove : (rtSchedRemoveThread s t).look = s.look := by
  funext u
  unfold SchedState.look
  rw [remove_thread]

lemma look_insert : (rtSchedInsertThread s t).look =
    Function.update s.look t { s.look t with life := .live } := by
  by_cases hc : s.currentThread = some t
  · rw [insert_current hc, look_modify]
    rfl
  · have hthread := insert_thread hc
    have hlook : (rtSchedInsertThread s t).look =
        (s.modify t fun th => { th with stat := .ready }).look := by
      funext u
      unfold SchedState.look
      rw [hthread]
    rw [hlook, look_modify]
    rfl

lemma look_switchTo {c first : Tid} {needInsert : Bool} (hfirst : (s.thread first).stat = .ready)
    (hins : (s.thread c).stat = .running ↔ needInsert = true) :
    (switchTo s c first needInsert).look = s.look := by
  let s1 : SchedState Tid := { s with currentThread := some first }
  have h1 : s1.look = s.look := rfl
  let s2 := if needInsert then rtSchedInsertThread s1 c else s1
  have h2 : s2.look = s.look := by
    cases needInsert with
    | true =>
      have hlive : (s.look c).life = .live := life_live_iff.mpr (.inr (hins.mpr rfl))
      simp only [s2, if_true]
      rw [look_insert, h1, ← hlive]
      exact Function.update_eq_self c s.look
    | false => rfl
  have h3 : (s2.modify c fun th => { th with yield := false }).look = s.look := by
    rw [look_modify_of_eq rfl, h2]
  have hlive : (s.look first).life = .live := life_live_iff.mpr (.inl hfirst)
  have hth : ((rtSchedRemoveThread (s2.modify c fun th => { th with yield := false }) first).thread
      first).look = s.look first := by
    rw [remove_thread]
    exact congrFun h3 first
  unfold switchTo
  simp only
  rw [look_modify_of_eq, look_remove]
  · exact h3
  · refine Eq.trans ?_ hth.symm
    have hlook : ∀ th : Thread, th.look = s.look first →
        ({ th with stat := .running } : Thread).look = s.look first := by
      intro th h
      have h' : ({ th with stat := .running } : Thread).look = { th.look with life := .live } := rfl
      rw [h', h, ← hlive]
    exact hlook _ hth

/-- `rt_schedule` only decides which of the threads that can run is running. -/
lemma look_rtSchedule (h : Inv s) {c : Tid} (hc : s.currentThread = some c) :
    (rtSchedule s c).look = s.look := by
  rcases rtSchedule_cases h hc with
    ⟨heq, -⟩ | ⟨first, hr, -, ⟨heq, hrun, -⟩ | ⟨needInsert, heq, hins, -⟩⟩
  · rw [heq]
  · rw [heq, look_modify_of_eq, look_remove]
    rw [remove_thread]
    unfold Thread.look
    rw [hrun]
  · rw [heq]
    exact look_switchTo hr hins

lemma look_rtSchedUnlockNResched (h : Inv s) : (rtSchedUnlockNResched s).look = s.look := by
  unfold rtSchedUnlockNResched
  split
  · rfl
  · rename_i c hc
    exact look_rtSchedule h hc

lemma look_rtSchedTickIncrease (h : Inv s) (tick : ℕ) :
    (rtSchedTickIncrease s t tick).look = s.look := by
  have h' : Inv (s.modify t fun th => { th with remainingTick := th.remainingTick - tick }) :=
    h.modify_rest rfl rfl rfl
  unfold rtSchedTickIncrease
  simp only
  split
  · exact look_modify_of_eq rfl
  · rw [look_rtSchedUnlockNResched h'.rtSchedThreadYield]
    unfold rtSchedThreadYield
    rw [look_modify_of_eq rfl, look_modify_of_eq rfl]

/-- The new priority, and whether the thread is ready or not is none of its affair. -/
lemma look_rtSchedUpdatePriority (p : Fin 32) (updateInitPrio : Bool) :
    (rtSchedUpdatePriority s t p updateInitPrio).look = Function.update s.look t
      { s.look t with
        initPriority := if updateInitPrio then p else (s.look t).initPriority
        currentPriority := p } := by
  unfold rtSchedUpdatePriority
  split
  · rename_i hr
    have hlive : (s.look t).life = .live := life_live_iff.mpr (.inl hr)
    simp only [look_insert, look_modify, look_remove, remove_thread, Function.update_idem,
      Function.update_self]
    rw [← hlive]
    rfl
  · rw [look_modify]
    rfl

lemma look_rtThreadClose : (rtThreadClose s t).look =
    Function.update s.look t { s.look t with life := .closed } := by
  unfold rtThreadClose
  split
  · rename_i hcl
    have hlife : (s.look t).life = .closed := congrArg ThreadStat.life hcl
    rw [← hlife]
    exact (Function.update_eq_self t s.look).symm
  · rw [look_modify]
    split <;> simp only [look_remove, remove_thread] <;> rfl

/-! ### The running thread and the lock -/

@[simp] lemma modify_lockNest : (s.modify t f).lockNest = s.lockNest := rfl

@[simp] lemma remove_lockNest : (rtSchedRemoveThread s t).lockNest = s.lockNest := by
  unfold rtSchedRemoveThread
  simp only
  split <;> rfl

@[simp] lemma insert_lockNest : (rtSchedInsertThread s t).lockNest = s.lockNest := by
  unfold rtSchedInsertThread
  split <;> rfl

/-- Neither the running thread nor the lock of the scheduler changes. -/
def SameCpu (s s' : SchedState Tid) : Prop :=
  s'.currentThread = s.currentThread ∧ s'.lockNest = s.lockNest

omit [DecidableEq Tid] in
lemma SameCpu.trans {s₁ s₂ s₃ : SchedState Tid} (h₁ : SameCpu s₁ s₂) (h₂ : SameCpu s₂ s₃) :
    SameCpu s₁ s₃ :=
  ⟨h₂.1.trans h₁.1, h₂.2.trans h₁.2⟩

lemma sameCpu_rtSchedUpdatePriority (p : Fin 32) (updateInitPrio : Bool) :
    SameCpu s (rtSchedUpdatePriority s t p updateInitPrio) := by
  unfold rtSchedUpdatePriority
  split
  · exact ⟨by simp, by simp⟩
  · exact ⟨rfl, rfl⟩

lemma sameCpu_rtThreadSuspendToList (flag : SuspendFlag) :
    SameCpu s (rtThreadSuspendToList s t flag).1 := by
  unfold rtThreadSuspendToList
  split
  · exact ⟨by simp, by simp⟩
  · exact ⟨rfl, rfl⟩

lemma sameCpu_rtSchedThreadReady (timerStop : RtErr) :
    SameCpu s (rtSchedThreadReady s t timerStop).1 := by
  unfold rtSchedThreadReady
  split
  · simp only
    generalize (if (s.thread t).ttmrSet = true then timerStop else .eok) = err
    split
    · exact ⟨by rw [insert_currentThread]; rfl, by rw [insert_lockNest]; rfl⟩
    · exact ⟨rfl, rfl⟩
  · exact ⟨rfl, rfl⟩

lemma sameCpu_rtThreadClose : SameCpu s (rtThreadClose s t) := by
  unfold rtThreadClose
  split
  · exact ⟨rfl, rfl⟩
  · split
    · exact ⟨by simp, by simp⟩
    · exact ⟨rfl, rfl⟩

/-- With the scheduler locked nothing is switched. -/
lemma rtSchedUnlockNResched_of_locked (h : 0 < s.lockNest) : rtSchedUnlockNResched s = s := by
  unfold rtSchedUnlockNResched
  split
  · rfl
  · unfold rtSchedule
    rw [if_neg]
    exact fun h0 => h.ne' h0.1

lemma sameCpu_rtSchedTickIncrease (h : 0 < s.lockNest) (tick : ℕ) :
    SameCpu s (rtSchedTickIncrease s t tick) := by
  unfold rtSchedTickIncrease
  simp only
  split
  · exact ⟨rfl, rfl⟩
  · rw [rtSchedUnlockNResched_of_locked]
    · exact ⟨rfl, rfl⟩
    · exact h

end N32L43x.Sched
