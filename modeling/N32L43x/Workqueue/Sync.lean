import N32L43x.Workqueue.Flags

/-!
`rt_workqueue_cancel_work_sync`, beside the worker and anybody who submits and cancels items.

The call reads `work_current` without the lock.  If it is the item, the call waits on the semaphore of the
queue, on which the worker wakes all waiting threads after each item; if not, the item is cancelled as
`rt_workqueue_cancel_work` does it.
-/

namespace N32L43x.Workqueue

open N32L43x.Lib.Run

/-! ### The threads -/

/-- Where the worker stands in `_workqueue_thread_entry` and `_workqueue_work_completion`. -/
inductive WorkerPc (W : Type*)
  /-- before the section under the lock -/
  | lock
  /-- in `work_func` -/
  | function (w : W)
  /-- before `work_current = RT_NULL` -/
  | clear (w : W)
  /-- before `rt_sem_trytake` -/
  | tryTake
  /-- before `rt_sem_release` -/
  | release
deriving DecidableEq

/-- The item the worker is at. -/
def WorkerPc.current {W : Type*} : WorkerPc W → Option W
  | .function w => some w
  | .clear w => some w
  | _ => none

/-- Where a thread stands in `rt_workqueue_cancel_work_sync`. -/
inductive SyncPc (W : Type*)
  | idle
  /-- before `work_current` is read -/
  | sample (w : W)
  /-- before `rt_sem_take` -/
  | take (w : W)
  /-- suspended in `rt_sem_take` -/
  | waiting (w : W)
  /-- before `_workqueue_cancel_work` -/
  | cancel (w : W)
  /-- before the return -/
  | returns (w : W)
deriving DecidableEq

/-- The item of the call a thread is in. -/
def SyncPc.item {W : Type*} : SyncPc W → Option W
  | .idle => none
  | .sample w => some w
  | .take w => some w
  | .waiting w => some w
  | .cancel w => some w
  | .returns w => some w

/-- The queue with its worker, its semaphore and the threads that call. -/
structure Sync (W Ag : Type*) where
  q : RtWorkqueue W Ag
  worker : WorkerPc W
  /-- the value of `queue->sem` -/
  sem : ℕ
  /-- the threads that wait on it -/
  waiting : List Ag
  pc : Ag → SyncPc W

/-- A queue in which nothing has happened. -/
def Sync.create {W Ag : Type*} (tick : BitVec 32) (work : W → RtWork) : Sync W Ag :=
  ⟨rtWorkqueueCreate tick work, .lock, 0, [], fun _ => .idle⟩

variable {W Ag : Type*} [DecidableEq W] [DecidableEq Ag]

namespace Sync

def setPc (s : Sync W Ag) (ag : Ag) (pc : SyncPc W) : Sync W Ag :=
  { s with pc := Function.update s.pc ag pc }

/-- `rt_sem_release`. -/
def semRelease (s : Sync W Ag) : Option (Sync W Ag) :=
  match s.waiting with
  | [] => some { s with sem := s.sem + 1 }
  | ag :: rest =>
    match s.pc ag with
    | .waiting w => some { s with waiting := rest, pc := Function.update s.pc ag (.returns w) }
    | _ => none

/-- The next step of the worker. -/
def runWorker (s : Sync W Ag) : Option (Sync W Ag) :=
  match s.worker with
  | .lock =>
    let q := workerSection s.q
    match q.workCurrent with
    | none => some { s with q := q }
    | some w => some { s with q := q, worker := .function w }
  | .function w => some { s with worker := .clear w }
  | .clear _ => some { s with q := { s.q with workCurrent := none }, worker := .tryTake }
  | .tryTake =>
    if s.sem > 0 then some { s with sem := s.sem - 1, worker := .lock } else some { s with worker := .release }
  | .release => s.semRelease.map fun s => { s with worker := .tryTake }

/-- The next step of a thread in `rt_workqueue_cancel_work_sync`. -/
def runSync (s : Sync W Ag) (ag : Ag) : Option (Sync W Ag) :=
  match s.pc ag with
  | .idle => none
  | .sample w =>
    if s.q.workCurrent = some w then some (s.setPc ag (.take w)) else some (s.setPc ag (.cancel w))
  | .take w =>
    if s.sem > 0 then some { s.setPc ag (.returns w) with sem := s.sem - 1 }
    else some { s.setPc ag (.waiting w) with waiting := s.waiting ++ [ag] }
  | .waiting _ => none
  | .cancel w => some { s.setPc ag (.returns w) with q := (workqueueCancelWork s.q w).1 }
  | .returns _ => some (s.setPc ag .idle)

inductive Action (W Ag : Type*)
  /-- a submission, by the function of the item itself or by somebody else -/
  | submit (w : W) (ticks : BitVec 32) (own : Bool)
  | urgent (w : W) (own : Bool)
  | cancel (w : W)
  | cancelSync (ag : Ag) (w : W)
  | run (ag : Ag)
  | worker
  | tickIncrease

def step (s : Sync W Ag) : Action W Ag → Option (Sync W Ag)
  | .submit w ticks _ => some { s with q := (workqueueSubmitWork s.q w ticks).1 }
  | .urgent w _ => some { s with q := (rtWorkqueueUrgentWork s.q w).1 }
  | .cancel w => some { s with q := (workqueueCancelWork s.q w).1 }
  | .cancelSync ag w =>
    match s.pc ag with
    | .idle => some (s.setPc ag (.sample w))
    | _ => none
  | .run ag => s.runSync ag
  | .worker => s.runWorker
  | .tickIncrease => some { s with q := { s.q with tick := s.q.tick + 1#32, now := s.q.now + 1 } }

/-! ### What is asked of the others, and the condition -/

/-- Who submits an item: its own function while the worker runs it, or others before a call for the item. -/
def MaySubmit (s : Sync W Ag) (w : W) (own : Bool) : Prop :=
  if own then s.worker = .function w else ∀ ag, (s.pc ag).item ≠ some w

def Valid (s : Sync W Ag) : Action W Ag → Prop
  | .submit w _ own => MaySubmit s w own
  | .urgent w own => MaySubmit s w own
  | _ => True

/-- An item is on one of the lists. -/
def Listed (q : RtWorkqueue W Ag) (w : W) : Prop := w ∈ q.workList ∨ w ∈ q.delayedList

/-- No call waits for the item to be done. -/
def NoneWaits (s : Sync W Ag) (w : W) : Prop := ∀ ag, s.pc ag ≠ .take w ∧ s.pc ag ≠ .waiting w

/-- The condition on a step: an item that is found executing is not on a list and is not submitted by its
function any more, and an item is not executing when the call cancels it. -/
def Kept (s : Sync W Ag) : Action W Ag → Prop
  | .submit w _ own => own = true → NoneWaits s w
  | .urgent w own => own = true → NoneWaits s w
  | .run ag => ∀ w, (s.pc ag = .sample w → s.q.workCurrent = some w → ¬ Listed s.q w) ∧
      (s.pc ag = .cancel w → s.q.workCurrent ≠ some w)
  | _ => True

/-- An item that may be freed: it is on no list, and the worker is not in its function. -/
def Unused (s : Sync W Ag) (w : W) : Prop := ¬ Listed s.q w ∧ s.worker ≠ .function w

/-- A call that returns has made its item free to reuse. -/
def Returns (s : Sync W Ag) : Action W Ag → Prop
  | .run ag => ∀ w, s.pc ag = .returns w → Unused s w
  | _ => True

/-! ### The lists -/

variable {q : RtWorkqueue W Ag} {s s' : Sync W Ag} {w u : W} {ag : Ag} {a : Action W Ag}

omit [DecidableEq Ag] in
lemma listed_submit (q : RtWorkqueue W Ag) (w : W) (ticks : BitVec 32) (hu : u ≠ w) :
    Listed (workqueueSubmitWork q w ticks).1 u ↔ Listed q u := by
  unfold workqueueSubmitWork Listed
  dsimp only
  split
  · simp [listRemove, hu]
  · split
    · simp [listRemove, hu]
    · simp [listRemove, hu]

omit [DecidableEq Ag] in
lemma listed_urgent (q : RtWorkqueue W Ag) (w : W) (hu : u ≠ w) :
    Listed (rtWorkqueueUrgentWork q w).1 u ↔ Listed q u := by
  simp [rtWorkqueueUrgentWork, Listed, listRemove, hu]

omit [DecidableEq Ag] in
lemma listed_cancel (q : RtWorkqueue W Ag) (w : W) :
    Listed (workqueueCancelWork q w).1 u ↔ Listed q u ∧ u ≠ w := by
  simp [workqueueCancelWork, Listed, listRemove]
  tauto

omit [DecidableEq W] [DecidableEq Ag] in
lemma listed_timerCheck : ∀ (rest : List W) (q : RtWorkqueue W Ag), q.delayedList = rest →
    (Listed (timerCheck q rest) u ↔ Listed q u)
  | [], _, _ => Iff.rfl
  | w :: rest, q, hlist => by
    unfold timerCheck
    split
    · rw [listed_timerCheck rest _ rfl]
      unfold Listed
      rw [hlist]
      simp
      tauto
    · rfl

omit [DecidableEq W] [DecidableEq Ag] in
lemma timerCheck_workCurrent : ∀ (rest : List W) (q : RtWorkqueue W Ag),
    (timerCheck q rest).workCurrent = q.workCurrent
  | [], _ => rfl
  | w :: rest, q => by
    unfold timerCheck
    split
    · exact timerCheck_workCurrent rest _
    · rfl

omit [DecidableEq W] [DecidableEq Ag] in
/-- The worker takes an item from the lists and puts none on them. -/
lemma listed_workerSection (hcurrent : q.workCurrent = none) :
    (∀ u, Listed (workerSection q) u → Listed q u) ∧
      ∀ w, (workerSection q).workCurrent = some w → Listed q w := by
  have hlisted : ∀ u, Listed (timerCheck q q.delayedList) u ↔ Listed q u :=
    fun u => listed_timerCheck q.delayedList q rfl
  have hnone := (timerCheck_workCurrent q.delayedList q).trans hcurrent
  unfold workerSection
  dsimp only
  cases hlist : (timerCheck q q.delayedList).workList with
  | nil =>
    refine ⟨fun u hu => (hlisted u).mp hu, fun w hw => ?_⟩
    rw [hnone] at hw
    cases hw
  | cons w rest =>
    refine ⟨fun u hu => (hlisted u).mp ?_, fun u hu => (hlisted u).mp ?_⟩
    · rcases hu with hu | hu
      · exact .inl (hlist ▸ List.mem_cons_of_mem w hu)
      · exact .inr hu
    · obtain rfl : w = u := Option.some.inj hu
      exact .inl (hlist ▸ List.mem_cons_self)

/-! ### The invariant -/

/-- What holds between the steps. -/
structure Inv (s : Sync W Ag) : Prop where
  current : s.q.workCurrent = s.worker.current
  /-- there is something to take only while the worker is about to take it back -/
  sem : s.sem = 0 ∨ s.sem = 1 ∧ s.worker = .tryTake
  waiting : ∀ ag ∈ s.waiting, ∃ w, s.pc ag = .waiting w
  nodup : s.waiting.Nodup
  /-- an item that is waited for is on no list -/
  awaited : ∀ ag w, s.pc ag = .take w ∨ s.pc ag = .waiting w → ¬ Listed s.q w
  returning : ∀ ag w, s.pc ag = .returns w → ¬ Listed s.q w ∧ s.q.workCurrent ≠ some w

omit [DecidableEq W] [DecidableEq Ag] in
/-- The lists change, and not for an item that somebody waits for or returns from. -/
lemma Inv.lists (h : Inv s) {q : RtWorkqueue W Ag} (hcurrent : q.workCurrent = s.q.workCurrent)
    (hlisted : ∀ ag w, s.pc ag = .take w ∨ s.pc ag = .waiting w ∨ s.pc ag = .returns w →
      ¬ Listed s.q w → ¬ Listed q w) : Inv { s with q := q } := by
  refine ⟨hcurrent.trans h.current, h.sem, h.waiting, h.nodup, fun ag w hpc => ?_,
    fun ag w hpc => ⟨?_, ?_⟩⟩
  · exact hlisted ag w (hpc.imp_right .inl) (h.awaited ag w hpc)
  · exact hlisted ag w (.inr (.inr hpc)) (h.returning ag w hpc).1
  · show q.workCurrent ≠ some w
    rw [hcurrent]
    exact (h.returning ag w hpc).2

omit [DecidableEq W] in
/-- A thread goes on, to a place where nothing is known of the item, or what has to be known is. -/
lemma Inv.setPc (h : Inv s) {pc : SyncPc W} (hold : ∀ w, s.pc ag ≠ .waiting w)
    (hawaited : ∀ w, pc = .take w → ¬ Listed s.q w) (hwaiting : ∀ w, pc ≠ .waiting w)
    (hreturning : ∀ w, pc = .returns w → ¬ Listed s.q w ∧ s.q.workCurrent ≠ some w) :
    Inv (s.setPc ag pc) := by
  have hself : (s.setPc ag pc).pc ag = pc := Function.update_self ..
  have hother : ∀ ag', ag' ≠ ag → (s.setPc ag pc).pc ag' = s.pc ag' := fun ag' hne =>
    Function.update_of_ne hne _ _
  refine ⟨h.current, h.sem, fun ag' hmem => ?_, h.nodup, fun ag' w hpc => ?_, fun ag' w hpc => ?_⟩
  · obtain ⟨w, hw⟩ := h.waiting ag' hmem
    have hne : ag' ≠ ag := by
      rintro rfl
      exact hold w hw
    exact ⟨w, (hother ag' hne).trans hw⟩
  · by_cases hne : ag' = ag
    · subst hne
      rw [hself] at hpc
      exact hpc.elim (hawaited w) fun heq => absurd heq (hwaiting w)
    · rw [hother ag' hne] at hpc
      exact h.awaited ag' w hpc
  · by_cases hne : ag' = ag
    · subst hne
      rw [hself] at hpc
      exact hreturning w hpc
    · rw [hother ag' hne] at hpc
      exact h.returning ag' w hpc

omit [DecidableEq W] [DecidableEq Ag] in
/-- Who submits an item that nobody may wait for or return from. -/
lemma Inv.notWaited (h : Inv s) {own : Bool} (hvalid : MaySubmit s w own)
    (hkept : own = true → NoneWaits s w) (ag : Ag) (u : W)
    (hpc : s.pc ag = .take u ∨ s.pc ag = .waiting u ∨ s.pc ag = .returns u) : u ≠ w := by
  rintro rfl
  cases own with
  | false =>
    have hitem : (s.pc ag).item = some u := by
      rcases hpc with hpc | hpc | hpc <;> rw [hpc] <;> rfl
    exact hvalid ag hitem
  | true =>
    have hfunction : s.worker = .function u := hvalid
    rcases hpc with hpc | hpc | hpc
    · exact (hkept rfl ag).1 hpc
    · exact (hkept rfl ag).2 hpc
    · refine (h.returning ag u hpc).2 ?_
      rw [h.current, hfunction]
      rfl

omit [DecidableEq W] in
lemma Inv.semRelease (h : Inv s) (hworker : s.worker = .release) (hs : s.semRelease = some s') :
    Inv { s' with worker := .tryTake } := by
  have hnone : s.q.workCurrent = none := by rw [h.current, hworker]; rfl
  have hzero : s.sem = 0 := by
    refine h.sem.resolve_right fun hone => ?_
    rw [hworker] at hone
    cases hone.2
  unfold Sync.semRelease at hs
  cases hwaiting : s.waiting with
  | nil =>
    rw [hwaiting] at hs
    cases hs
    refine ⟨hnone, .inr ⟨?_, rfl⟩, fun ag hmem => absurd hmem List.not_mem_nil, List.nodup_nil, h.awaited,
      h.returning⟩
    show s.sem + 1 = 1
    rw [hzero]
  | cons ag rest =>
    obtain ⟨w, hpc⟩ := h.waiting ag (hwaiting ▸ List.mem_cons_self)
    rw [hwaiting] at hs
    simp only [hpc] at hs
    cases hs
    have hnodup := h.nodup
    rw [hwaiting] at hnodup
    obtain ⟨hag, hnodup⟩ := List.nodup_cons.mp hnodup
    refine ⟨hnone, .inl hzero, fun ag' hmem => ?_, hnodup, fun ag' u hpc' => ?_, fun ag' u hpc' => ?_⟩
    · obtain ⟨u, hu⟩ := h.waiting ag' (hwaiting ▸ List.mem_cons_of_mem ag hmem)
      refine ⟨u, ?_⟩
      show Function.update s.pc ag _ ag' = _
      rw [Function.update_of_ne fun heq : ag' = ag => hag (heq ▸ hmem)]
      exact hu
    · replace hpc' : Function.update s.pc ag (.returns w) ag' = .take u ∨
          Function.update s.pc ag (.returns w) ag' = .waiting u := hpc'
      by_cases hne : ag' = ag
      · subst hne
        rw [Function.update_self] at hpc'
        rcases hpc' with heq | heq
        · cases heq
        · cases heq
      · rw [Function.update_of_ne hne] at hpc'
        exact h.awaited ag' u hpc'
    · replace hpc' : Function.update s.pc ag (.returns w) ag' = .returns u := hpc'
      by_cases hne : ag' = ag
      · subst hne
        rw [Function.update_self] at hpc'
        cases hpc'
        refine ⟨h.awaited ag' w (.inr hpc), ?_⟩
        show s.q.workCurrent ≠ _
        rw [hnone]
        rintro ⟨⟩
      · rw [Function.update_of_ne hne] at hpc'
        exact h.returning ag' u hpc'

omit [DecidableEq W] [DecidableEq Ag] in
lemma Inv.sem_eq_zero (h : Inv s) (hworker : s.worker ≠ .tryTake) : s.sem = 0 :=
  h.sem.resolve_right fun hone => hworker hone.2

omit [DecidableEq W] in
lemma Inv.runWorker (h : Inv s) (hs : s.runWorker = some s') : Inv s' := by
  have hcurrent := h.current
  unfold Sync.runWorker at hs
  cases hworker : s.worker with
  | lock =>
    rw [hworker] at hs hcurrent
    dsimp only at hs
    have hzero := h.sem_eq_zero (by rw [hworker]; rintro ⟨⟩)
    obtain ⟨hlisted, htaken⟩ := listed_workerSection hcurrent
    have hawaited : ∀ ag u, s.pc ag = .take u ∨ s.pc ag = .waiting u → ¬ Listed (workerSection s.q) u :=
      fun ag u hpc hin => h.awaited ag u hpc (hlisted u hin)
    have hreturning : ∀ ag u, s.pc ag = .returns u → ¬ Listed (workerSection s.q) u ∧
        (workerSection s.q).workCurrent ≠ some u :=
      fun ag u hpc => ⟨fun hin => (h.returning ag u hpc).1 (hlisted u hin),
        fun heq => (h.returning ag u hpc).1 (htaken u heq)⟩
    cases hsection : (workerSection s.q).workCurrent with
    | none =>
      rw [hsection] at hs
      cases hs
      exact ⟨hsection, .inl hzero, h.waiting, h.nodup, hawaited, hreturning⟩
    | some w =>
      rw [hsection] at hs
      cases hs
      exact ⟨hsection, .inl hzero, h.waiting, h.nodup, hawaited, hreturning⟩
  | function w =>
    rw [hworker] at hs hcurrent
    cases hs
    have hzero := h.sem_eq_zero (by rw [hworker]; rintro ⟨⟩)
    exact ⟨hcurrent, .inl hzero, h.waiting, h.nodup, h.awaited, h.returning⟩
  | clear w =>
    rw [hworker] at hs
    cases hs
    have hzero := h.sem_eq_zero (by rw [hworker]; rintro ⟨⟩)
    refine ⟨rfl, .inl hzero, h.waiting, h.nodup, h.awaited,
      fun ag u hpc => ⟨(h.returning ag u hpc).1, ?_⟩⟩
    show none ≠ some u
    rintro ⟨⟩
  | tryTake =>
    rw [hworker] at hs hcurrent
    dsimp only at hs
    split at hs
    · rename_i hpos
      cases hs
      have hone : s.sem = 1 := (h.sem.resolve_left (by omega)).1
      refine ⟨hcurrent, .inl ?_, h.waiting, h.nodup, h.awaited, h.returning⟩
      show s.sem - 1 = 0
      omega
    · rename_i hno
      cases hs
      exact ⟨hcurrent, .inl (by show s.sem = 0; omega), h.waiting, h.nodup, h.awaited, h.returning⟩
  | release =>
    rw [hworker] at hs
    obtain ⟨s₁, hs₁, rfl⟩ := Option.map_eq_some_iff.mp hs
    exact h.semRelease hworker hs₁

lemma Inv.runSync (h : Inv s) (hkept : ∀ w, (s.pc ag = .sample w → s.q.workCurrent = some w → ¬ Listed s.q w) ∧
      (s.pc ag = .cancel w → s.q.workCurrent ≠ some w)) (hs : s.runSync ag = some s') : Inv s' := by
  unfold Sync.runSync at hs
  cases hpc : s.pc ag with
  | idle =>
    rw [hpc] at hs
    cases hs
  | sample w =>
    rw [hpc] at hs
    dsimp only at hs
    have hold : ∀ u, s.pc ag ≠ .waiting u := by rw [hpc]; rintro u ⟨⟩
    split at hs
    · rename_i hcurrent
      cases hs
      refine h.setPc hold (fun u heq => ?_) (by rintro u ⟨⟩) (by rintro u ⟨⟩)
      cases heq
      exact (hkept w).1 hpc hcurrent
    · cases hs
      exact h.setPc hold (by rintro u ⟨⟩) (by rintro u ⟨⟩) (by rintro u ⟨⟩)
  | take w =>
    rw [hpc] at hs
    dsimp only at hs
    have hold : ∀ u, s.pc ag ≠ .waiting u := by rw [hpc]; rintro u ⟨⟩
    split at hs
    · rename_i hpos
      cases hs
      obtain ⟨hone, hworker⟩ := h.sem.resolve_left (by omega)
      have h' : Inv (s.setPc ag (.returns w)) := by
        refine h.setPc hold (by rintro u ⟨⟩) (by rintro u ⟨⟩) fun u heq => ?_
        cases heq
        refine ⟨h.awaited ag w (.inl hpc), ?_⟩
        rw [h.current, hworker]
        rintro ⟨⟩
      refine ⟨h'.current, .inl ?_, h'.waiting, h'.nodup, h'.awaited, h'.returning⟩
      show s.sem - 1 = 0
      omega
    · cases hs
      have hnot : ag ∉ s.waiting := by
        intro hmem
        obtain ⟨u, hu⟩ := h.waiting ag hmem
        exact hold u hu
      refine ⟨h.current, h.sem, fun ag' hmem => ?_, ?_, fun ag' u hpc' => ?_, fun ag' u hpc' => ?_⟩
      · show ∃ u, Function.update s.pc ag (.waiting w) ag' = .waiting u
        by_cases hne : ag' = ag
        · subst hne
          exact ⟨w, Function.update_self ..⟩
        · rcases List.mem_append.mp hmem with hmem | hmem
          · obtain ⟨u, hu⟩ := h.waiting ag' hmem
            exact ⟨u, (Function.update_of_ne hne _ _).trans hu⟩
          · exact absurd (List.mem_singleton.mp hmem) hne
      · show (s.waiting ++ [ag]).Nodup
        refine List.nodup_append.mpr ⟨h.nodup, List.nodup_singleton ag, fun x hx y hy heq => ?_⟩
        exact hnot (List.mem_singleton.mp hy ▸ heq ▸ hx)
      · replace hpc' : Function.update s.pc ag (.waiting w) ag' = .take u ∨
            Function.update s.pc ag (.waiting w) ag' = .waiting u := hpc'
        by_cases hne : ag' = ag
        · subst hne
          rw [Function.update_self] at hpc'
          rcases hpc' with heq | heq
          · cases heq
          · cases heq
            exact h.awaited ag' w (.inl hpc)
        · rw [Function.update_of_ne hne] at hpc'
          exact h.awaited ag' u hpc'
      · replace hpc' : Function.update s.pc ag (.waiting w) ag' = .returns u := hpc'
        by_cases hne : ag' = ag
        · subst hne
          rw [Function.update_self] at hpc'
          cases hpc'
        · rw [Function.update_of_ne hne] at hpc'
          exact h.returning ag' u hpc'
  | waiting w =>
    rw [hpc] at hs
    cases hs
  | cancel w =>
    rw [hpc] at hs
    cases hs
    have hold : ∀ u, s.pc ag ≠ .waiting u := by rw [hpc]; rintro u ⟨⟩
    have h' : Inv { s with q := (workqueueCancelWork s.q w).1 } :=
      h.lists rfl fun _ u _ hnot hin => hnot ((listed_cancel s.q w).mp hin).1
    refine h'.setPc hold (by rintro u ⟨⟩) (by rintro u ⟨⟩) fun u heq => ?_
    cases heq
    exact ⟨fun hin => ((listed_cancel s.q w).mp hin).2 rfl, (hkept w).2 hpc⟩
  | returns w =>
    rw [hpc] at hs
    cases hs
    have hold : ∀ u, s.pc ag ≠ .waiting u := by rw [hpc]; rintro u ⟨⟩
    exact h.setPc hold (by rintro u ⟨⟩) (by rintro u ⟨⟩) (by rintro u ⟨⟩)

/-- **Every step** within the condition keeps the invariant. -/
lemma Inv.step (h : Inv s) (hvalid : Valid s a) (hkept : Kept s a) (hs : step s a = some s') : Inv s' := by
  cases a with
  | submit w ticks own =>
    cases hs
    refine h.lists ?_ fun ag u hpc hnot => ?_
    · unfold workqueueSubmitWork
      dsimp only
      split
      · rfl
      · split <;> rfl
    · rw [listed_submit s.q w ticks (h.notWaited hvalid hkept ag u hpc)]
      exact hnot
  | urgent w own =>
    cases hs
    refine h.lists rfl fun ag u hpc hnot => ?_
    rw [listed_urgent s.q w (h.notWaited hvalid hkept ag u hpc)]
    exact hnot
  | cancel w =>
    cases hs
    exact h.lists rfl fun _ u _ hnot hin => hnot ((listed_cancel s.q w).mp hin).1
  | cancelSync ag w =>
    unfold Sync.step at hs
    cases hpc : s.pc ag with
    | idle =>
      simp only [hpc] at hs
      cases hs
      exact h.setPc (by rw [hpc]; rintro u ⟨⟩) (by rintro u ⟨⟩) (by rintro u ⟨⟩) (by rintro u ⟨⟩)
    | sample u => simp [hpc] at hs
    | take u => simp [hpc] at hs
    | waiting u => simp [hpc] at hs
    | cancel u => simp [hpc] at hs
    | returns u => simp [hpc] at hs
  | run ag => exact h.runSync hkept hs
  | worker => exact h.runWorker hs
  | tickIncrease =>
    cases hs
    exact h.lists rfl fun _ _ _ hnot => hnot

omit [DecidableEq W] [DecidableEq Ag] in
lemma Inv.returns (h : Inv s) (a : Action W Ag) : Returns s a := by
  cases a with
  | run ag =>
    intro w hpc
    obtain ⟨hnot, hcurrent⟩ := h.returning ag w hpc
    refine ⟨hnot, fun hfunction => hcurrent ?_⟩
    rw [h.current, hfunction]
    rfl
  | submit w ticks own => trivial
  | urgent w own => trivial
  | cancel w => trivial
  | cancelSync ag w => trivial
  | worker => trivial
  | tickIncrease => trivial

/-- **An item may be reused** when `rt_workqueue_cancel_work_sync` returns, in every run within the
condition. -/
theorem cancelWorkSync_unused (tick : BitVec 32) (work : W → RtWork) (as : List (Action W Ag))
    (hrun : Along step (fun s a => Valid s a ∧ Kept s a) (create tick work) as) :
    Along step Returns (create tick work) as := by
  have hstart : Inv (create tick work : Sync W Ag) :=
    ⟨rfl, .inl rfl, fun _ hmem => absurd hmem List.not_mem_nil, List.nodup_nil,
      fun _ _ _ => not_or.mpr ⟨List.not_mem_nil, List.not_mem_nil⟩, by rintro _ _ ⟨⟩⟩
  exact along_of_inv (fun _ _ _ h hc hs => h.step hc.1 hc.2 hs) (fun _ a h _ => h.returns a) as _ hstart hrun

instance [Fintype Ag] (s : Sync W Ag) (w : W) (own : Bool) : Decidable (MaySubmit s w own) :=
  inferInstanceAs (Decidable (if own then s.worker = .function w else ∀ ag, (s.pc ag).item ≠ some w))

instance [Fintype Ag] (s : Sync W Ag) (a : Action W Ag) : Decidable (Valid s a) :=
  match a with
  | .submit w _ own => inferInstanceAs (Decidable (MaySubmit s w own))
  | .urgent w own => inferInstanceAs (Decidable (MaySubmit s w own))
  | .cancel _ => isTrue trivial
  | .cancelSync _ _ => isTrue trivial
  | .run _ => isTrue trivial
  | .worker => isTrue trivial
  | .tickIncrease => isTrue trivial

instance [Fintype Ag] (s : Sync W Ag) (w : W) : Decidable (NoneWaits s w) :=
  inferInstanceAs (Decidable (∀ ag, s.pc ag ≠ .take w ∧ s.pc ag ≠ .waiting w))

instance (q : RtWorkqueue W Ag) (w : W) : Decidable (Listed q w) :=
  inferInstanceAs (Decidable (w ∈ q.workList ∨ w ∈ q.delayedList))

instance [Fintype W] [Fintype Ag] (s : Sync W Ag) (a : Action W Ag) : Decidable (Kept s a) :=
  match a with
  | .submit w _ own => inferInstanceAs (Decidable (own = true → NoneWaits s w))
  | .urgent w own => inferInstanceAs (Decidable (own = true → NoneWaits s w))
  | .run ag => inferInstanceAs (Decidable
      (∀ w, (s.pc ag = .sample w → s.q.workCurrent = some w → ¬ Listed s.q w) ∧
        (s.pc ag = .cancel w → s.q.workCurrent ≠ some w)))
  | .cancel _ => isTrue trivial
  | .cancelSync _ _ => isTrue trivial
  | .worker => isTrue trivial
  | .tickIncrease => isTrue trivial

/-- A thread finds the item executing and waits for its end. -/
def awaited : List (Action Unit Unit) :=
  [.submit () 0#32 false, .worker, .cancelSync () (), .run (), .run (), .worker, .worker, .worker, .worker,
    .run ()]

theorem cancelWorkSync_unused_awaited :
    Along step Returns (create 0#32 fun _ => ⟨0#32, 0⟩ : Sync Unit Unit) awaited :=
  cancelWorkSync_unused 0#32 (fun _ => ⟨0#32, 0⟩) awaited (by decide +kernel)

/-- The function of the item submits it again before it ends. -/
def resubmitted : List (Action Unit Unit) :=
  [.submit () 0#32 false, .worker, .cancelSync () (), .run (), .run (), .submit () 0#32 true, .worker, .worker,
    .worker, .worker]

/-- The call returns while the item is on `work_list`. -/
theorem cancelWorkSync_returns_listed :
    ∃ s : Sync Unit Unit, Along step Valid (create 0#32 fun _ => ⟨0#32, 0⟩) resubmitted ∧
      exec step (create 0#32 fun _ => ⟨0#32, 0⟩) resubmitted = some s ∧ ¬ Returns s (.run ()) := by
  have hrun : ∃ s ∈ exec step (create 0#32 fun _ => ⟨0#32, 0⟩ : Sync Unit Unit) resubmitted,
      s.pc () = .returns () ∧ Listed s.q () := by decide +kernel
  obtain ⟨s, hs, hpc, hlisted⟩ := hrun
  exact ⟨s, by decide +kernel, hs, fun hreturns => (hreturns () hpc).1 hlisted⟩

end Sync

end N32L43x.Workqueue
