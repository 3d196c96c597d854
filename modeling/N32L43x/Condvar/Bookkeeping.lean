import N32L43x.Condvar.Kept

/-!
The words of a condition variable, `waiting_mtx` and `waiters_cnt`.  They agree with the threads, and no
assertion fails, as long as the last thread that leaves finds no other one between its look at `waiting_mtx`
and the increase of `waiters_cnt`.
-/

namespace N32L43x.Condvar

open N32L43x.Ipc N32L43x.Waitqueue N32L43x.Lib.Count N32L43x.Lib.Run

/-- The thread has found the mutex in `waiting_mtx`, or put it there, and relies on it: it is between the two
reads of `CV_ASSERT_LOCKED`, or before it increases `waiters_cnt`. -/
def Pc.relies : Pc → Bool
  | .asserted _ | .joined _ => true
  | _ => false

/-- The thread is before its second critical section of `rt_condvar_timedwait`. -/
def Pc.uncounts : Pc → Bool
  | .removed _ => true
  | _ => false

variable {Ag : Type} {cv cv' : RtCondvar Ag} {a t : Ag} {next : Option Ag}

/-- The thread is suspended in the wait queue. -/
def Sleeps (cv : RtCondvar Ag) (t : Ag) : Prop :=
  (cv.thread t).suspended = true ∧ t ∈ cv.event.waitingList

instance [DecidableEq Ag] (cv : RtCondvar Ag) (t : Ag) : Decidable (Sleeps cv t) :=
  inferInstanceAs (Decidable (_ ∧ _))

/-- What the two words say, and the assertions. -/
structure Bookkeeping [Fintype Ag] (cv : RtCondvar Ag) : Prop where
  associated : ∀ t, Sleeps cv t → cv.waitingMtx = true
  counted : cv.waitersCnt = (count fun t => (cv.thread t).pc.counts : ℕ)
  asserted : cv.failed = false

/-- The last thread that leaves resets `waiting_mtx` while no other thread relies on it. -/
def Spares (cv : RtCondvar Ag) : Action Ag → Prop
  | .run t _ => (cv.thread t).pc.uncounts = true → cv.waitersCnt = 1 → ∀ u, (cv.thread u).pc.relies = false
  | _ => True

instance [Fintype Ag] (cv : RtCondvar Ag) (act : Action Ag) : Decidable (Spares cv act) :=
  match act with
  | .run t _ => inferInstanceAs (Decidable ((cv.thread t).pc.uncounts = true → cv.waitersCnt = 1 →
      ∀ u, (cv.thread u).pc.relies = false))
  | .lock _ _ | .unlock _ _ | .call _ _ | .other _ _ | .expire _ => isTrue trivial

/-! ### The invariant -/

/-- Whoever is counted, or relies on it, finds the mutex in `waiting_mtx`. -/
structure Associated (cv : RtCondvar Ag) : Prop where
  counted : 0 < cv.waitersCnt → cv.waitingMtx = true
  relies : ∀ t, (cv.thread t).pc.relies = true → cv.waitingMtx = true
  asserted : cv.failed = false

/-- The step touches neither word, and no thread comes to rely on them. -/
structure Quiet (cv cv' : RtCondvar Ag) : Prop where
  waitersCnt : cv'.waitersCnt = cv.waitersCnt
  waitingMtx : cv'.waitingMtx = cv.waitingMtx
  failed : cv'.failed = cv.failed
  relies : ∀ t, (cv'.thread t).pc.relies = true → (cv.thread t).pc.relies = true

lemma Quiet.trans {cv₁ cv₂ cv₃ : RtCondvar Ag} (h : Quiet cv₁ cv₂) (h' : Quiet cv₂ cv₃) : Quiet cv₁ cv₃ where
  waitersCnt := h'.waitersCnt.trans h.waitersCnt
  waitingMtx := h'.waitingMtx.trans h.waitingMtx
  failed := h'.failed.trans h.failed
  relies := fun t ht => h.relies t (h'.relies t ht)

lemma Quiet.keeps (hq : Quiet cv cv') (h : Associated cv) : Associated cv' where
  counted := by
    rw [hq.waitersCnt, hq.waitingMtx]
    exact h.counted
  relies := by
    rw [hq.waitingMtx]
    exact fun t ht => h.relies t (hq.relies t ht)
  asserted := hq.failed.trans h.asserted

variable [DecidableEq Ag]

/-- One thread changes, and does not come to rely on the words. -/
lemma quiet_of_update {th : Thread} (hthread : cv'.thread = Function.update cv.thread a th)
    (hth : th.pc.relies = true → (cv.thread a).pc.relies = true) (hcnt : cv'.waitersCnt = cv.waitersCnt)
    (hmtx : cv'.waitingMtx = cv.waitingMtx) (hfailed : cv'.failed = cv.failed) : Quiet cv cv' := by
  refine ⟨hcnt, hmtx, hfailed, fun t ht => ?_⟩
  rw [hthread] at ht
  by_cases hta : t = a
  · subst hta
    rw [Function.update_self] at ht
    exact hth ht
  · rwa [Function.update_of_ne hta] at ht

lemma quiet_setPc (cv : RtCondvar Ag) (a : Ag) {pc : Pc} (h : pc.relies = false) : Quiet cv (setPc cv a pc) :=
  quiet_of_update rfl (fun hp => absurd (h.symm.trans hp) Bool.false_ne_true) rfl rfl rfl

lemma quiet_handOver (h : handOver cv next = some cv') : Quiet cv cv' := by
  rcases handOver_cases h with rfl | ⟨v, -, rfl⟩
  · exact ⟨rfl, rfl, rfl, fun _ ht => ht⟩
  · exact quiet_of_update rfl id rfl rfl rfl

lemma quiet_rtMutexTake (cv : RtCondvar Ag) (a : Ag) (timeout : ℤ) :
    Quiet cv (rtMutexTake cv a timeout).1 := by
  rcases rtMutexTake_cases cv a timeout with ⟨hold, err, ret, -, -, htake, -⟩ | ⟨-, htake⟩ | ⟨-, -, htake⟩
  · rw [htake]
    exact quiet_of_update rfl id rfl rfl rfl
  · rw [htake]
    exact quiet_of_update rfl id rfl rfl rfl
  · rw [htake]
    exact quiet_of_update rfl id rfl rfl rfl

lemma quiet_rtMutexRelease {r : RtCondvar Ag × IpcErr} (h : rtMutexRelease cv a next = some r) :
    Quiet cv r.1 := by
  unfold rtMutexRelease at h
  split_ifs at h
  · obtain rfl := Option.some.inj h
    exact quiet_of_update rfl id rfl rfl rfl
  · obtain ⟨cv₁, hcv₁, rfl⟩ := Option.map_eq_some_iff.mp h
    exact quiet_handOver hcv₁
  · obtain rfl := Option.some.inj h
    exact ⟨rfl, rfl, rfl, fun _ ht => ht⟩

lemma quiet_rtWqueueWakeup (cv : RtCondvar Ag) (waker : Waker) : Quiet cv (rtWqueueWakeup cv waker) := by
  obtain ⟨hcnt, hmtx, hfailed⟩ : (rtWqueueWakeup cv waker).waitersCnt = cv.waitersCnt ∧
      (rtWqueueWakeup cv waker).waitingMtx = cv.waitingMtx ∧
      (rtWqueueWakeup cv waker).failed = cv.failed := by
    unfold rtWqueueWakeup
    split
    · split <;> exact ⟨rfl, rfl, rfl⟩
    · exact ⟨rfl, rfl, rfl⟩
  exact ⟨hcnt, hmtx, hfailed, fun t ht => by rwa [pc_rtWqueueWakeup cv waker t] at ht⟩

/-! ### The steps -/

/-- The mutex is released without an error by the thread that holds it once. -/
lemma rtMutexRelease_eok {r : RtCondvar Ag × IpcErr} (howner : cv.owner = some a)
    (h : rtMutexRelease cv a next = some r) : r.2 = .eok := by
  unfold rtMutexRelease at h
  rw [if_neg (fun hne => hne howner)] at h
  split_ifs at h
  · obtain ⟨cv₁, -, rfl⟩ := Option.map_eq_some_iff.mp h
    rfl
  · obtain rfl := Option.some.inj h
    rfl

variable [Fintype Ag]

/-- **A thread goes on with its call**, and spares those that rely on the words. -/
lemma Associated.runThread (h : Associated cv) (hgood : Good cv)
    (hspares : Spares cv (.run a next)) (hs : runThread cv a next = some cv') : Associated cv' := by
  have ha := hgood.thread a
  cases hat : (cv.thread a).pc with
  | idle => simp [Condvar.runThread, hat] at hs
  | lockWait =>
    simp only [Condvar.runThread, hat] at hs
    split_ifs at hs
    obtain rfl := Option.some.inj hs
    exact (quiet_setPc cv a rfl).keeps h
  | asserting call =>
    simp only [Condvar.runThread, hat] at hs
    split_ifs at hs with hmtx
    · obtain rfl := Option.some.inj hs
      exact ⟨fun _ => hmtx, fun _ _ => hmtx, h.asserted⟩
    · obtain rfl := Option.some.inj hs
      exact (quiet_setPc cv a (by cases call <;> rfl)).keeps h
  | asserted call =>
    have hmtx : cv.waitingMtx = true := h.relies a (by rw [hat]; rfl)
    have howner : cv.owner = some a := (ha.holds (by rw [hat]; rfl)).1
    simp only [Condvar.runThread, hat] at hs
    rw [if_pos ⟨hmtx, howner⟩] at hs
    obtain rfl := Option.some.inj hs
    exact (quiet_setPc cv a (by cases call <;> rfl)).keeps h
  | joining timeout =>
    simp only [Condvar.runThread, hat] at hs
    obtain rfl := Option.some.inj hs
    exact ⟨fun _ => rfl, fun _ _ => rfl, h.asserted⟩
  | joined timeout =>
    have hmtx : cv.waitingMtx = true := h.relies a (by rw [hat]; rfl)
    simp only [Condvar.runThread, hat] at hs
    obtain rfl := Option.some.inj hs
    exact ⟨fun _ => hmtx, fun _ _ => hmtx, h.asserted⟩
  | counted timeout =>
    have hflag : cv.event.flag ≠ .wakeup :=
      hgood.flag_clean (a := a) (by rw [hat]; rfl) (by rw [hat]; exact Pc.noConfusion)
    have hsus := (ha.awake (by rw [hat]; rfl) (by rw [hat]; rfl)).suspended
    simp only [Condvar.runThread, hat] at hs
    rw [waitqInqueue_eq { cv with critical := some a } timeout hflag hsus] at hs
    obtain rfl := Option.some.inj hs
    refine Quiet.keeps (Quiet.trans ?_ (quiet_setPc _ a rfl)) h
    exact quiet_of_update rfl id rfl rfl rfl
  | inqueued rc =>
    have howner : cv.owner = some a := (ha.holds (by rw [hat]; rfl)).1
    simp only [Condvar.runThread, hat] at hs
    obtain ⟨⟨cv₁, ret⟩, hrelease, heq⟩ := Option.map_eq_some_iff.mp hs
    obtain rfl : ret = .eok := rtMutexRelease_eok howner hrelease
    obtain rfl := heq
    refine Quiet.keeps ((quiet_rtMutexRelease hrelease).trans (Quiet.trans ?_ (quiet_setPc _ a rfl))) h
    exact ⟨rfl, rfl, rfl, fun _ ht => ht⟩
  | sleeping rc =>
    simp only [Condvar.runThread, hat] at hs
    split_ifs at hs
    · obtain rfl := Option.some.inj hs
      exact (quiet_setPc cv a rfl).keeps h
    · obtain rfl := Option.some.inj hs
      exact (quiet_setPc cv a rfl).keeps h
  | leaving rc =>
    simp only [Condvar.runThread, hat] at hs
    obtain rfl := Option.some.inj hs
    refine Quiet.keeps ?_ h
    exact quiet_of_update rfl (fun hp => by cases hp) rfl rfl rfl
  | removed rc =>
    simp only [Condvar.runThread, hat] at hs
    split_ifs at hs with hone hmtx
    · -- the last one that leaves
      obtain rfl := Option.some.inj hs
      have hrest := hspares (by rw [hat]; rfl) hone
      refine ⟨fun hpos => ?_, fun t ht => ?_, h.asserted⟩
      · have hpos' : 0 < cv.waitersCnt - 1 := hpos
        omega
      · have hq : Quiet cv (setPc cv a (.retaking rc)) := quiet_setPc cv a rfl
        have hrelies := hq.relies t ht
        rw [hrest t] at hrelies
        cases hrelies
    · have hpos : 0 < cv.waitersCnt := by omega
      exact absurd (h.counted hpos) hmtx
    · obtain rfl := Option.some.inj hs
      have hq : Quiet cv (setPc cv a (.retaking rc)) := quiet_setPc cv a rfl
      refine ⟨fun hpos => h.counted ?_, fun t ht => h.relies t (hq.relies t ht), h.asserted⟩
      have hpos' : 0 < cv.waitersCnt - 1 := hpos
      omega
  | retaking rc =>
    have hquiet := quiet_rtMutexTake cv a (-1)
    have hfree : cv.owner ≠ some a := ha.released (by rw [hat]; rfl)
    simp only [Condvar.runThread, hat] at hs
    rcases rtMutexTake_cases cv a (-1) with
      ⟨hold, err, ret, -, -, -, hzero | hown⟩ | ⟨-, htake⟩ | ⟨-, -, htake⟩
    · cases hzero
    · exact absurd hown hfree
    · rw [htake] at hs hquiet
      obtain rfl := Option.some.inj hs
      exact (hquiet.trans (quiet_setPc _ a rfl)).keeps h
    · rw [htake] at hs hquiet
      obtain rfl := Option.some.inj hs
      exact (hquiet.trans (quiet_setPc _ a rfl)).keeps h
  | takeWait rc =>
    simp only [Condvar.runThread, hat] at hs
    split_ifs at hs with hsus htake
    · obtain rfl := Option.some.inj hs
      exact (quiet_setPc cv a rfl).keeps h
    · have howner := ((ha.taken rc hat).2 (eq_false_of_ne_true hsus)).1
      exact absurd (if_pos howner) htake
  | returns rc =>
    simp only [Condvar.runThread, hat] at hs
    obtain rfl := Option.some.inj hs
    exact (quiet_setPc cv a rfl).keeps h
  | checking waker =>
    simp only [Condvar.runThread, hat] at hs
    obtain rfl := Option.some.inj hs
    exact (quiet_setPc cv a (by split <;> rfl)).keeps h
  | waking waker =>
    simp only [Condvar.runThread, hat] at hs
    obtain rfl := Option.some.inj hs
    exact ((quiet_rtWqueueWakeup cv waker).trans (quiet_setPc _ a rfl)).keeps h
  | clearing =>
    simp only [Condvar.runThread, hat] at hs
    obtain rfl := Option.some.inj hs
    refine Quiet.keeps ?_ h
    exact quiet_of_update rfl (fun hp => by cases hp) rfl rfl rfl

/-- **Every step in which the last thread that leaves spares the others keeps the association.** -/
lemma Associated.step {act : Action Ag} (h : Associated cv) (hgood : Good cv) (hspares : Spares cv act)
    (hs : step cv act = some cv') : Associated cv' := by
  cases act with
  | lock t timeout =>
    have hquiet := quiet_rtMutexTake cv t timeout
    simp only [Condvar.step] at hs
    split_ifs at hs
    rcases htake : rtMutexTake cv t timeout with ⟨cv₁, _ | ret⟩
    · rw [htake] at hs hquiet
      obtain rfl := Option.some.inj hs
      exact (hquiet.trans (quiet_setPc _ t rfl)).keeps h
    · rw [htake] at hs hquiet
      obtain rfl := Option.some.inj hs
      exact hquiet.keeps h
  | unlock t next =>
    simp only [Condvar.step] at hs
    split_ifs at hs
    obtain ⟨r, hrelease, rfl⟩ := Option.map_eq_some_iff.mp hs
    exact (quiet_rtMutexRelease hrelease).keeps h
  | call t call =>
    simp only [Condvar.step] at hs
    split_ifs at hs
    obtain rfl := Option.some.inj hs
    exact (quiet_setPc cv t rfl).keeps h
  | run t next =>
    simp only [Condvar.step] at hs
    split_ifs at hs
    exact h.runThread hgood hspares hs
  | other t err =>
    simp only [Condvar.step] at hs
    split_ifs at hs
    obtain rfl := Option.some.inj hs
    refine Quiet.keeps ?_ h
    exact quiet_of_update rfl id rfl rfl rfl
  | expire t =>
    simp only [Condvar.step] at hs
    split_ifs at hs
    obtain rfl := Option.some.inj hs
    refine Quiet.keeps ?_ h
    exact quiet_of_update rfl id rfl rfl rfl

omit [DecidableEq Ag] [Fintype Ag] in
lemma associated_rtCondvarInit : Associated (rtCondvarInit : RtCondvar Ag) where
  counted := fun hpos => absurd hpos (Int.lt_irrefl 0)
  relies := by
    intro t ht
    cases ht
  asserted := rfl

lemma Good.bookkeeping (h : Good cv) (hassoc : Associated cv) : Bookkeeping cv where
  associated := by
    rintro t ⟨-, hmem⟩
    have hpos := count_pos (p := fun t => (cv.thread t).pc.counts) (a := t)
      (Pc.counts_of_queued ((h.thread t).queued hmem))
    apply hassoc.counted
    rw [h.counted]
    exact Int.natCast_pos.mpr hpos
  counted := h.counted
  asserted := hassoc.asserted

/-! ### Runs -/

/-- **In a run in which the last thread that leaves always spares the others** `waiting_mtx` is the mutex
while a thread is suspended in the wait queue, `waiters_cnt` is the number of threads between its increase and
its decrease, and no assertion has failed. -/
theorem bookkeeping_of_spares {as : List (Action Ag)}
    (hspares : Along step Spares (rtCondvarInit : RtCondvar Ag) as)
    (hs : exec step (rtCondvarInit : RtCondvar Ag) as = some cv) : Bookkeeping cv := by
  have hstep : ∀ (cv : RtCondvar Ag) act cv', Good cv ∧ Associated cv → Spares cv act →
      step cv act = some cv' → Good cv' ∧ Associated cv' :=
    fun _ _ _ h hspares hs => ⟨h.1.step hs, h.2.step h.1 hspares hs⟩
  obtain ⟨hgood, hassoc⟩ := exec_inv_of_along hstep as _ cv ⟨good_rtCondvarInit, associated_rtCondvarInit⟩
    hspares hs
  exact hgood.bookkeeping hassoc

section Two

/-- A thread waits, and is suspended. -/
def waits (t : Fin 2) (timeout : BitVec 32) : List (Action (Fin 2)) :=
  [.lock t (-1), .call t (.timedwait timeout)] ++ List.replicate 5 (.run t none)

theorem bookkeeping_of_spares_waits : ∃ cv, exec step rtCondvarInit (waits 0 5) = some cv ∧
    (cv.thread 0).pc = .sleeping 0 ∧ Bookkeeping cv := by
  have hrun : ∃ cv ∈ exec step rtCondvarInit (waits 0 5), (cv.thread 0).pc = .sleeping 0 := by decide
  obtain ⟨cv, hs, hpc⟩ := hrun
  exact ⟨cv, hs, hpc, bookkeeping_of_spares (by decide) hs⟩

/-- The thread `u` has found the mutex in `waiting_mtx`, and has not yet increased `waiters_cnt`, when the
timer of `t` expires and that one leaves.  Then `u` is suspended. -/
def leavesTooEarly (t u : Fin 2) : List (Action (Fin 2)) :=
  waits t 5 ++ [.lock u (-1), .call u (.timedwait 5)] ++ List.replicate 3 (.run u none) ++ [.expire t] ++
    List.replicate 4 (.run t none) ++ [.run u none, .run u none, .run u (some t)]

/-- The second thread is suspended in the wait queue, and `waiting_mtx` is zero.  When its own timer expires,
the assertion at its end fails. -/
theorem association_lost :
    (∃ cv, exec step rtCondvarInit (leavesTooEarly 0 1) = some cv ∧ Sleeps cv 1 ∧ cv.waitingMtx = false ∧
      ¬ Bookkeeping cv) ∧
    ∃ cv, exec step rtCondvarInit (leavesTooEarly 0 1 ++ [.expire 1] ++ List.replicate 3 (.run 1 none)) =
      some cv ∧ cv.failed = true := by
  have hrun : ∃ cv ∈ exec step rtCondvarInit (leavesTooEarly 0 1), Sleeps cv 1 ∧ cv.waitingMtx = false := by
    decide
  obtain ⟨cv, hs, hsleeps, hmtx⟩ := hrun
  refine ⟨⟨cv, hs, hsleeps, hmtx, fun hbook => ?_⟩, ?_⟩
  · have hset := hbook.associated 1 hsleeps
    rw [hmtx] at hset
    cases hset
  · have hlater : ∃ cv ∈ exec step rtCondvarInit
        (leavesTooEarly 0 1 ++ [.expire 1] ++ List.replicate 3 (.run 1 none)), cv.failed = true := by
      decide
    exact hlater

end Two

end N32L43x.Condvar
