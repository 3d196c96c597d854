import N32L43x.Dataqueue.Ring

/-!
The data queue refines the bounded sequence of items, as long as no index has to go beyond 15 bits and
the queue has not become empty between the two looks of `rt_data_queue_len`.
-/

namespace N32L43x.Dataqueue

open N32L43x.Ipc N32L43x.Lib N32L43x.Lib.Atomic N32L43x.Lib.Ring N32L43x.Lib.Run

variable {Ag : Type*} {q q' q₁ : RtDataQueue Ag} {items : List RtDataItem} {ag : Ag} {op : AbsOp}
  {env : Env} {pc' : Pc}

/-! ### The indices and the items -/

/-- The queue holds these items, the first one to be popped next. -/
structure Holds (q : RtDataQueue Ag) (items : List RtDataItem) : Prop where
  size_pos : 0 < q.size
  size_lt : q.size < 0x10000
  get_lt : q.getIndex < q.size
  length_le : items.length ≤ q.size
  putIndex : q.putIndex = (q.getIndex + items.length) % q.size
  isEmpty : q.isEmpty = true ↔ items.length = 0
  isFull : q.isFull = true ↔ items.length = q.size
  /-- either the indices wrap around where they should, or they have not wrapped around yet -/
  range : q.size ≤ 0x8000 ∨ q.getIndex + items.length ≤ 0x7fff
  contents : contents q.queue q.size q.getIndex items.length = items

lemma nextIndex_eq {size index : ℕ} (hlt : index < size) (hrange : size ≤ 0x8000 ∨ index < 0x7fff) :
    nextIndex size index = (index + 1) % size := by
  simp only [nextIndex]
  by_cases hwrap : index + 1 = size
  · rw [hwrap, Nat.mod_self]
    by_cases hsize : size = 0x8000
    · rw [hsize, Nat.mod_self, if_neg (by decide)]
    · rw [Nat.mod_eq_of_lt (by omega), if_pos rfl]
  · rw [Nat.mod_eq_of_lt (show index + 1 < 0x8000 by omega), if_neg hwrap,
      Nat.mod_eq_of_lt (by omega)]

/-- The queue, as far as the ring goes. -/
lemma Holds.onRing (h : Holds q items) : OnRing q q.size items :=
  ⟨h.get_lt, h.length_le, h.putIndex, h.isEmpty, h.isFull, h.contents⟩

lemma Holds.put (h : Holds q items) (hroom : q.isFull = false)
    (hrange : q.size ≤ 0x8000 ∨ q.putIndex ≠ 0x7fff) (item : RtDataItem) :
    Holds (put q item) (items ++ [item]) := by
  have hget := h.get_lt
  have hput := h.onRing.put_lt
  have heq := h.onRing.putIndex_eq_ite
  have hlt := h.onRing.length_lt hroom
  have hold := h.range
  have hnext : nextIndex q.size q.putIndex = (q.putIndex + 1) % q.size :=
    nextIndex_eq hput (by split at heq <;> omega)
  have hring := h.onRing.put hroom hnext item
  refine ⟨h.size_pos, h.size_lt, hget, hring.length_le, hring.putIndex, hring.isEmpty, hring.isFull, ?_,
    hring.contents⟩
  show q.size ≤ 0x8000 ∨ q.getIndex + (items ++ [item]).length ≤ 0x7fff
  rw [List.length_append, List.length_singleton]
  split at heq <;> omega

lemma Holds.take (h : Holds q items) (hsome : q.isEmpty = false) :
    ∃ rest, items = q.queue q.getIndex :: rest ∧ Holds (take q) rest := by
  have hget := h.get_lt
  have hlen := h.length_le
  have hold := h.range
  have hpos : items.length ≠ 0 := by
    intro hzero
    cases hsome.symm.trans (h.isEmpty.mpr hzero)
  have hnext : nextIndex q.size q.getIndex = (q.getIndex + 1) % q.size := nextIndex_eq hget (by omega)
  obtain ⟨rest, hitems, hring⟩ := h.onRing.take hsome hnext
  refine ⟨rest, hitems, h.size_pos, h.size_lt, hring.get_lt, hring.length_le, hring.putIndex, hring.isEmpty,
    hring.isFull, ?_, hring.contents⟩
  show q.size ≤ 0x8000 ∨ nextIndex q.size q.getIndex + rest.length ≤ 0x7fff
  have hwrap := mod_eq_ite (show q.getIndex + 1 < 2 * q.size by omega)
  rw [hitems, List.length_cons] at hlen hold
  rw [hnext, hwrap]
  split <;> omega

/-- The critical section of `rt_data_queue_len`, when the queue is not empty. -/
lemma Holds.count (h : Holds q items) (hsome : q.isEmpty = false) : (count q).toNat = items.length := by
  have hget := h.get_lt
  have heq := h.onRing.putIndex_eq_ite
  have hlen := h.length_le
  have hsize := h.size_lt
  have hne : items.length ≠ 0 := by
    intro hzero
    cases hsome.symm.trans (h.isEmpty.mpr hzero)
  unfold Dataqueue.count
  split
  · rw [BitVec.toNat_sub, BitVec.toNat_ofNat, BitVec.toNat_ofNat]
    split at heq <;> omega
  · rw [BitVec.toNat_sub, BitVec.toNat_add, BitVec.toNat_ofNat, BitVec.toNat_ofNat, BitVec.toNat_ofNat]
    split at heq <;> omega

lemma Holds.len (h : Holds q items) : rtDataQueueLen q = items.length := by
  unfold rtDataQueueLen
  split
  · rename_i hempty
    exact (h.isEmpty.mp hempty).symm
  · rename_i hsome
    exact h.count (eq_false_of_ne_true hsome)

/-! ### A step of one agent -/

/-- How an agent is seen. -/
def absPc : Pc → Pend AbsOp Result IpcErr
  | .idle => .idle
  | .pushEntry item _ => .called (.push item)
  | .pushWait item _ => .called (.push item)
  | .popEntry _ => .called .pop
  | .popWait _ => .called .pop
  | .resetEntry => .called .reset
  | .resetPop => .done (.ok .wasReset)
  | .resetPush => .done (.ok .wasReset)
  | .lenEntry => .called .len
  | .lenCount => .called .len
  | .done res => .done res

/-- The state of the specification. -/
def view (q : RtDataQueue Ag) (items : List RtDataItem) :
    Object Ag AbsOp Result IpcErr (List RtDataItem) where
  value := items
  pend ag := absPc (q.pc ag)

/-- Only lists and errors differ. -/
structure SameData (q q' : RtDataQueue Ag) : Prop where
  queue : q'.queue = q.queue
  size : q'.size = q.size
  getIndex : q'.getIndex = q.getIndex
  isEmpty : q'.isEmpty = q.isEmpty
  putIndex : q'.putIndex = q.putIndex
  isFull : q'.isFull = q.isFull
  pc : q'.pc = q.pc

lemma SameData.holds (hs : SameData q q') (h : Holds q items) : Holds q' items := by
  refine ⟨?_, ?_, ?_, ?_, ?_, ?_, ?_, ?_, ?_⟩
  · rw [hs.size]
    exact h.size_pos
  · rw [hs.size]
    exact h.size_lt
  · rw [hs.size, hs.getIndex]
    exact h.get_lt
  · rw [hs.size]
    exact h.length_le
  · rw [hs.size, hs.getIndex, hs.putIndex]
    exact h.putIndex
  · rw [hs.isEmpty]
    exact h.isEmpty
  · rw [hs.isFull, hs.size]
    exact h.isFull
  · rw [hs.size, hs.getIndex]
    exact h.range
  · rw [hs.queue, hs.size, hs.getIndex]
    exact h.contents

lemma SameData.view (hs : SameData q q') (items : List RtDataItem) : view q' items = view q items := by
  unfold Dataqueue.view
  rw [hs.pc]

lemma sameData_dequeuePop (q : RtDataQueue Ag) (ready : Bool) : SameData q (dequeuePop q ready) := by
  unfold dequeuePop
  split
  · exact ⟨rfl, rfl, rfl, rfl, rfl, rfl, rfl⟩
  · split <;> exact ⟨rfl, rfl, rfl, rfl, rfl, rfl, rfl⟩

lemma sameData_dequeuePush (q : RtDataQueue Ag) (ready : Bool) : SameData q (dequeuePush q ready) := by
  unfold dequeuePush
  split
  · exact ⟨rfl, rfl, rfl, rfl, rfl, rfl, rfl⟩
  · split <;> exact ⟨rfl, rfl, rfl, rfl, rfl, rfl, rfl⟩

variable [DecidableEq Ag]

lemma Holds.setPc (h : Holds q items) : Holds (setPc q ag pc') items :=
  ⟨h.size_pos, h.size_lt, h.get_lt, h.length_le, h.putIndex, h.isEmpty, h.isFull, h.range, h.contents⟩

/-- The step is matched over its label by one of the specification, and the queue holds what that has. -/
def Matched (q : RtDataQueue Ag) (items : List RtDataItem) (a : Action Ag) (q' : RtDataQueue Ag) : Prop :=
  ∃ items', Holds q' items' ∧ q'.size = q.size ∧
    exec (Atomic.step (apply q.size)) (view q items) (label q a q') = some (view q' items')

lemma view_setPc (q : RtDataQueue Ag) (items : List RtDataItem) :
    view (setPc q ag pc') items = (view q items).setPend ag (absPc pc') := by
  have hpend : (fun ag' => absPc ((setPc q ag pc').pc ag')) =
      Function.update (fun ag' => absPc (q.pc ag')) ag (absPc pc') := by
    funext ag'
    by_cases hag : ag' = ag
    · subst hag
      simp [setPc]
    · simp [setPc, Function.update_of_ne hag]
  unfold view Object.setPend
  rw [hpend]

lemma label_setPc (q₁ : RtDataQueue Ag) : label q (.run ag env) (setPc q₁ ag pc') =
    runLabel ag (q.pc ag) pc' := by
  simp [label, setPc]

/-- A step the specification does not see. -/
lemma matched_silent (h : Holds q items) (hs : SameData q q₁) (hx : absPc pc' = absPc (q.pc ag))
    (hlabel : runLabel ag (q.pc ag) pc' = []) : Matched q items (.run ag env) (setPc q₁ ag pc') := by
  refine ⟨items, (hs.holds h).setPc, hs.size, ?_⟩
  have hsame : (view q items).setPend ag (absPc (q.pc ag)) = view q items := by
    unfold Object.setPend
    rw [show absPc (q.pc ag) = (view q items).pend ag from rfl, Function.update_eq_self]
  rw [label_setPc, hlabel, view_setPc, hs.view, hx, hsame]
  rfl

/-- A call fails: it has no effect, and the error is what it will return. -/
lemma matched_fail (h : Holds q items) (hs : SameData q q₁) (hop : absPc (q.pc ag) = .called op)
    {e : IpcErr} (hlabel : runLabel ag (q.pc ag) (.done (.error e)) = [.fail ag e]) :
    Matched q items (.run ag env) (setPc q₁ ag (.done (.error e))) := by
  refine ⟨items, (hs.holds h).setPc, hs.size, ?_⟩
  rw [label_setPc, hlabel, view_setPc, hs.view]
  exact exec_fail hop e

/-- The moment a call has its effect. -/
lemma matched_commit {items' : List RtDataItem} {res : Result} (h' : Holds q₁ items')
    (hsize : q₁.size = q.size) (hpc : q₁.pc = q.pc) (hop : absPc (q.pc ag) = .called op)
    (happly : apply q.size items op = some (items', res)) (hdone : absPc pc' = .done (.ok res))
    (hlabel : runLabel ag (q.pc ag) pc' = [.commit ag]) :
    Matched q items (.run ag env) (setPc q₁ ag pc') := by
  refine ⟨items', h'.setPc, hsize, ?_⟩
  have hview : view q₁ items' = { view q items with value := items' } := by
    unfold view
    rw [hpc]
  rw [label_setPc, hlabel, view_setPc, hview, hdone]
  exact exec_commit hop happly

/-! ### The calls -/

/-- The push goes on to store its item. -/
def Stores (q : RtDataQueue Ag) (ag : Ag) : Prop :=
  match q.pc ag with
  | .pushEntry .. => q.isFull = false
  | .pushWait .. => q.isFull = false ∧ ag ∉ q.suspendedPushList ∧ q.error ag = .eok
  | _ => False

instance (q : RtDataQueue Ag) (ag : Ag) : Decidable (Stores q ag) := by
  unfold Stores
  split <;> infer_instance

/-- An item is not stored at the last index of 15 bits in a queue that goes on after it, and the queue is
not empty in the critical section of `rt_data_queue_len`. -/
def Proper (q : RtDataQueue Ag) : Action Ag → Prop
  | .run ag _ =>
    (Stores q ag → q.size ≤ 0x8000 ∨ q.putIndex ≠ 0x7fff) ∧ (q.pc ag = .lenCount → q.isEmpty = false)
  | _ => True

instance (q : RtDataQueue Ag) (a : Action Ag) : Decidable (Proper q a) :=
  match a with
  | .run ag _ => inferInstanceAs (Decidable ((Stores q ag → q.size ≤ 0x8000 ∨ q.putIndex ≠ 0x7fff) ∧
      (q.pc ag = .lenCount → q.isEmpty = false)))
  | .call .. => isTrue trivial
  | .expire _ => isTrue trivial

lemma matched_pushLoop {item : RtDataItem} {timeout : ℤ} (h : Holds q items)
    (hpc : q.pc ag = .pushEntry item timeout ∨ q.pc ag = .pushWait item timeout)
    (hrange : q.isFull = false → q.size ≤ 0x8000 ∨ q.putIndex ≠ 0x7fff) :
    Matched q items (.run ag env) (pushLoop q ag item timeout env) := by
  have hop : absPc (q.pc ag) = .called (.push item) := by
    rcases hpc with hpc | hpc <;> rw [hpc] <;> rfl
  have hlabel : ∀ pc', runLabel ag (q.pc ag) pc' = runLabel ag (.pushEntry item timeout) pc' := by
    intro pc'
    rcases hpc with hpc | hpc
    · rw [hpc]
    · rw [hpc]
      cases pc' with
      | done res => cases res <;> rfl
      | _ => rfl
  unfold pushLoop
  split
  · split
    · exact matched_fail h ⟨rfl, rfl, rfl, rfl, rfl, rfl, rfl⟩ hop (hlabel _)
    have herror : SameData q (setError q ag .eok) := ⟨rfl, rfl, rfl, rfl, rfl, rfl, rfl⟩
    simp only
    split
    · exact matched_silent h ⟨rfl, rfl, rfl, rfl, rfl, rfl, rfl⟩ hop.symm (hlabel _)
    · exact matched_fail h herror hop (hlabel _)
  · rename_i hroom
    have hfull := eq_false_of_ne_true hroom
    have hput := h.put hfull (hrange hfull) item
    have hdeq := sameData_dequeuePop (put q item) env.ready
    refine matched_commit (hdeq.holds hput) hdeq.size hdeq.pc hop ?_ rfl (hlabel _)
    have hlt : items.length < q.size := h.onRing.length_lt hfull
    unfold apply
    simp only
    rw [if_pos hlt]

lemma matched_popLoop {timeout : ℤ} (h : Holds q items)
    (hpc : q.pc ag = .popEntry timeout ∨ q.pc ag = .popWait timeout)
    (hs : popLoop q ag timeout env = some q') : Matched q items (.run ag env) q' := by
  have hop : absPc (q.pc ag) = .called .pop := by
    rcases hpc with hpc | hpc <;> rw [hpc] <;> rfl
  have hlabel : ∀ pc', runLabel ag (q.pc ag) pc' = runLabel ag (.popEntry timeout) pc' := by
    intro pc'
    rcases hpc with hpc | hpc
    · rw [hpc]
    · rw [hpc]
      cases pc' with
      | done res => cases res <;> rfl
      | _ => rfl
  unfold popLoop at hs
  split at hs
  · split at hs
    · cases hs
      exact matched_fail h ⟨rfl, rfl, rfl, rfl, rfl, rfl, rfl⟩ hop (hlabel _)
    simp only at hs
    split at hs
    · cases hs
      exact matched_silent h ⟨rfl, rfl, rfl, rfl, rfl, rfl, rfl⟩ hop.symm (hlabel _)
    · cases hs
  · rename_i hsome
    cases hs
    obtain ⟨rest, rfl, htake⟩ := h.take (eq_false_of_ne_true hsome)
    have hwoken : SameData (take q)
        (if rtDataQueueLen (take q) ≤ (take q).lwm then dequeuePush (take q) env.ready else take q) := by
      split
      · exact sameData_dequeuePush ..
      · exact ⟨rfl, rfl, rfl, rfl, rfl, rfl, rfl⟩
    exact matched_commit (hwoken.holds htake) hwoken.size hwoken.pc hop rfl rfl (hlabel _)

omit [DecidableEq Ag] in
lemma holds_reset (h : Holds q items) : Holds
    { q with getIndex := 0, putIndex := 0, isEmpty := true, isFull := false } [] := by
  have hring := h.onRing.reset
  exact ⟨h.size_pos, h.size_lt, hring.get_lt, hring.length_le, hring.putIndex, hring.isEmpty, hring.isFull,
    .inr (Nat.zero_le _), hring.contents⟩

/-- A step of the calls of `rt_susp_list_resume_all_irq`. -/
lemma matched_resume (h : Holds q items) (hs : SameData q q₁)
    (hpc : q.pc ag = .resetPop ∨ q.pc ag = .resetPush) : Matched q items (.run ag env) q₁ := by
  refine ⟨items, hs.holds h, hs.size, ?_⟩
  have hlabel : label q (.run ag env) q₁ = [] := by
    simp only [label, hs.pc]
    rcases hpc with hpc | hpc <;> rw [hpc] <;> rfl
  rw [hlabel, hs.view]
  rfl

lemma matched_run (h : Holds q items) (hC : Proper q (.run ag env)) (hs : runAgent q ag env = some q') :
    Matched q items (.run ag env) q' := by
  obtain ⟨hstores, hcount⟩ := hC
  unfold Stores at hstores
  unfold runAgent at hs
  cases hpc : q.pc ag with
  | idle =>
    rw [hpc] at hs
    cases hs
  | pushEntry item timeout =>
    simp only [hpc] at hs hstores
    cases hs
    exact matched_pushLoop h (.inl hpc) hstores
  | pushWait item timeout =>
    simp only [hpc] at hs hstores
    split at hs
    · cases hs
    rename_i hlist
    split at hs
    · cases hs
      have hop : absPc (q.pc ag) = .called (.push item) := by rw [hpc]; rfl
      exact matched_fail h ⟨rfl, rfl, rfl, rfl, rfl, rfl, rfl⟩ hop (by rw [hpc]; rfl)
    · rename_i herror
      cases hs
      exact matched_pushLoop h (.inr hpc) fun hroom => hstores ⟨hroom, hlist, not_ne_iff.mp herror⟩
  | popEntry timeout =>
    simp only [hpc] at hs
    exact matched_popLoop h (.inl hpc) hs
  | popWait timeout =>
    simp only [hpc] at hs
    split at hs
    · cases hs
    split at hs
    · cases hs
      have hop : absPc (q.pc ag) = .called .pop := by rw [hpc]; rfl
      exact matched_fail h ⟨rfl, rfl, rfl, rfl, rfl, rfl, rfl⟩ hop (by rw [hpc]; rfl)
    · exact matched_popLoop h (.inr hpc) hs
  | resetEntry =>
    simp only [hpc] at hs
    cases hs
    have hop : absPc (q.pc ag) = .called .reset := by rw [hpc]; rfl
    exact matched_commit (holds_reset h) rfl rfl hop rfl rfl (by rw [hpc]; rfl)
  | resetPop =>
    simp only [hpc] at hs
    split at hs
    · split at hs
      · cases hs
        exact matched_resume h ⟨rfl, rfl, rfl, rfl, rfl, rfl, rfl⟩ (.inl hpc)
      · cases hs
        refine matched_silent h ⟨rfl, rfl, rfl, rfl, rfl, rfl, rfl⟩ ?_ ?_ <;> rw [hpc] <;> rfl
    · cases hs
      refine matched_silent h ⟨rfl, rfl, rfl, rfl, rfl, rfl, rfl⟩ ?_ ?_ <;> rw [hpc] <;> rfl
  | resetPush =>
    simp only [hpc] at hs
    split at hs
    · split at hs
      · cases hs
        exact matched_resume h ⟨rfl, rfl, rfl, rfl, rfl, rfl, rfl⟩ (.inr hpc)
      · cases hs
        refine matched_silent h ⟨rfl, rfl, rfl, rfl, rfl, rfl, rfl⟩ ?_ ?_ <;> rw [hpc] <;> rfl
    · cases hs
      refine matched_silent h ⟨rfl, rfl, rfl, rfl, rfl, rfl, rfl⟩ ?_ ?_ <;> rw [hpc] <;> rfl
  | lenEntry =>
    have hop : absPc (q.pc ag) = .called .len := by rw [hpc]; rfl
    simp only [hpc] at hs
    split at hs
    · rename_i hempty
      cases hs
      have happly : apply q.size items .len = some (items, .length 0) := by
        rw [← h.isEmpty.mp hempty]
        rfl
      exact matched_commit h rfl rfl hop happly rfl (by rw [hpc]; rfl)
    · cases hs
      exact matched_silent h ⟨rfl, rfl, rfl, rfl, rfl, rfl, rfl⟩ hop.symm (by rw [hpc]; rfl)
  | lenCount =>
    have hop : absPc (q.pc ag) = .called .len := by rw [hpc]; rfl
    simp only [hpc] at hs
    cases hs
    rw [h.count (hcount hpc)]
    exact matched_commit h rfl rfl hop rfl rfl (by rw [hpc]; rfl)
  | done res =>
    simp only [hpc] at hs
    cases hs
    refine ⟨items, h.setPc, rfl, ?_⟩
    have hpend : (view q items).pend ag = .done res := by
      unfold view
      simp only [hpc]
      rfl
    rw [label_setPc, view_setPc, hpc]
    exact exec_ret hpend

/-- **One step.**  It is matched by the specification over its label. -/
theorem matched_step {a : Action Ag} (h : Holds q items) (hC : Proper q a)
    (hs : Dataqueue.step q a = some q') : Matched q items a q' := by
  cases a with
  | run ag env => exact matched_run h hC hs
  | call ag op =>
    simp only [Dataqueue.step] at hs
    split at hs
    · rename_i hidle
      cases hs
      refine ⟨items, h.setPc, rfl, ?_⟩
      have hpend : (view q items).pend ag = .idle := by
        unfold view
        simp only [hidle]
        rfl
      have hentry : absPc (entryPc op) = .called op.abs := by cases op <;> rfl
      rw [view_setPc, hentry]
      exact exec_call hpend op.abs
    · cases hs
  | expire ag =>
    simp only [Dataqueue.step] at hs
    split at hs
    · cases hs
      have hsame : SameData q (setError
          { q with
            suspendedPushList := q.suspendedPushList.filter (· ≠ ag)
            suspendedPopList := q.suspendedPopList.filter (· ≠ ag) } ag .etimeout) :=
        ⟨rfl, rfl, rfl, rfl, rfl, rfl, rfl⟩
      exact ⟨items, hsame.holds h, rfl, rfl⟩
    · cases hs

/-! ### Whole runs -/

omit [DecidableEq Ag] in
lemma holds_init (queue : ℕ → RtDataItem) (lwm : ℕ) {size : ℕ} (hpos : 0 < size)
    (hlt : size < 0x10000) : Holds (rtDataQueueInit queue size lwm : RtDataQueue Ag) [] := by
  have hsize : size % 0x10000 = size := Nat.mod_eq_of_lt hlt
  unfold rtDataQueueInit
  rw [hsize]
  exact ⟨hpos, hlt, hpos, Nat.zero_le _, (Nat.zero_mod _).symm, iff_of_true rfl rfl,
    iff_of_false (fun hc => by cases hc) hpos.ne, .inr (Nat.zero_le _), rfl⟩

/-- **The data queue is a bounded sequence of items.**  In every run in which no item is stored at the last
index of 15 bits in a longer queue, and `rt_data_queue_len` does not find the queue emptied since it looked
at the flag, what any agents see, the starts and returns of their calls, is a run of the specification,
in which each call that succeeds has its effect at one moment; and at every moment the flags and the length
are those of the sequence. -/
theorem dataqueue_refines (queue : ℕ → RtDataItem) (lwm : ℕ) {size : ℕ} (hpos : 0 < size)
    (hlt : size < 0x10000) (as : List (Action Ag))
    (hC : Along Dataqueue.step Proper (rtDataQueueInit queue size lwm) as)
    (hrun : exec Dataqueue.step (rtDataQueueInit queue size lwm) as = some q) :
    ∃ t, exec (Atomic.step (apply size)) (Object.init [])
        (observe Dataqueue.step label (rtDataQueueInit queue size lwm) as) = some t ∧
      t.value.length ≤ size ∧ t.value = contents q.queue size q.getIndex t.value.length ∧
      (q.isEmpty = true ↔ t.value.length = 0) ∧ (q.isFull = true ↔ t.value.length = size) ∧
      ¬ (q.isEmpty = true ∧ q.isFull = true) ∧ rtDataQueueLen q = t.value.length := by
  have hsim : ∀ (q : RtDataQueue Ag) (a : Action Ag) (q' : RtDataQueue Ag)
      (t : Object Ag AbsOp Result IpcErr (List RtDataItem)),
      (∃ items, Holds q items ∧ q.size = size ∧ t = view q items) → Proper q a →
      Dataqueue.step q a = some q' →
      ∃ t', exec (Atomic.step (apply size)) t (label q a q') = some t' ∧
        ∃ items, Holds q' items ∧ q'.size = size ∧ t' = view q' items := by
    rintro q a q' t ⟨items, h, rfl, rfl⟩ hC hs
    obtain ⟨items', h', hsize', hexec⟩ := matched_step h hC hs
    exact ⟨_, hexec, items', h', hsize', rfl⟩
  obtain ⟨t, hexec, items, h, rfl, rfl⟩ := exec_simulates_of_along hsim as _ q (Object.init [])
    ⟨[], holds_init queue lwm hpos hlt, Nat.mod_eq_of_lt hlt, rfl⟩ hC hrun
  refine ⟨_, hexec, h.length_le, h.contents.symm, h.isEmpty, h.isFull, ?_, h.len⟩
  rintro ⟨hempty, hfull⟩
  have hzero := h.isEmpty.mp hempty
  have hpos' := h.size_pos
  rw [h.isFull.mp hfull] at hzero
  omega

/-- One agent pushes twice into a queue of two and pops once. -/
def twoPushes : List (Action Unit) :=
  [.call () (.push ⟨1#32, 4#32⟩ 0), .run () ⟨true, true⟩, .run () ⟨true, true⟩,
    .call () (.push ⟨2#32, 4#32⟩ 0), .run () ⟨true, true⟩, .run () ⟨true, true⟩,
    .call () (.pop 0), .run () ⟨true, true⟩]

theorem dataqueue_refines_twoPushes : ∃ q : RtDataQueue Unit,
    exec Dataqueue.step (rtDataQueueInit (fun _ => ⟨0#32, 0#32⟩) 2 0) twoPushes = some q ∧
      q.pc () = .done (.ok (.popped ⟨1#32, 4#32⟩)) ∧ ∃ t,
        exec (Atomic.step (apply 2)) (Object.init [])
          (observe Dataqueue.step label (rtDataQueueInit (fun _ => ⟨0#32, 0#32⟩) 2 0) twoPushes) = some t ∧
        rtDataQueueLen q = t.value.length := by
  obtain ⟨q, hq, hpc⟩ : ∃ q : RtDataQueue Unit,
      exec Dataqueue.step (rtDataQueueInit (fun _ => ⟨0#32, 0#32⟩) 2 0) twoPushes = some q ∧
        q.pc () = .done (.ok (.popped ⟨1#32, 4#32⟩)) := ⟨_, rfl, rfl⟩
  have hC : Along Dataqueue.step Proper
      (rtDataQueueInit (fun _ => ⟨0#32, 0#32⟩) 2 0 : RtDataQueue Unit) twoPushes := by
    decide +kernel
  obtain ⟨t, hexec, -, -, -, -, -, hlen⟩ := dataqueue_refines _ 0 (by decide) (by decide) _ hC hq
  exact ⟨q, hq, hpc, t, hexec, hlen⟩

/-! ### What goes wrong otherwise -/

/-- An agent asks for the length of a queue of two that holds one item; after it has looked at the flag
another one pops the item. -/
def poppedMeanwhile : List (Action Bool) :=
  [.call true (.push ⟨1#32, 4#32⟩ 0), .run true ⟨true, true⟩, .run true ⟨true, true⟩,
    .call true .len, .run true ⟨true, true⟩,
    .call false (.pop 0), .run false ⟨true, true⟩, .run false ⟨true, true⟩,
    .run true ⟨true, true⟩, .run true ⟨true, true⟩]

/-- A whole push of the only agent. -/
def push (item : RtDataItem) : List (Action Unit) :=
  [.call () (.push item 0), .run () ⟨true, true⟩, .run () ⟨true, true⟩]

/-- Many of them. -/
def pushes (item : RtDataItem) : ℕ → List (Action Unit)
  | 0 => []
  | n + 1 => pushes item n ++ push item

lemma exec_push {q : RtDataQueue Unit} (hpc : q.pc () = .idle) (hroom : q.isFull = false)
    (hlist : q.suspendedPopList = []) (item : RtDataItem) :
    exec Dataqueue.step q (push item) = some (put q item) := by
  simp [push, exec, Dataqueue.step, hpc, entryPc, setPc, runAgent, pushLoop, hroom, dequeuePop, put,
    hlist]

/-- A queue of 40000 takes that many items before an index has to wrap around. -/
lemma exec_pushes (item : RtDataItem) {n : ℕ} (hn : n ≤ 0x7fff) : ∃ q : RtDataQueue Unit,
    exec Dataqueue.step (rtDataQueueInit (fun _ => item) 40000 0) (pushes item n) = some q ∧
      q.pc () = .idle ∧ q.suspendedPopList = [] ∧ q.size = 40000 ∧ q.getIndex = 0 ∧
      Holds q (List.replicate n item) := by
  induction n with
  | zero => exact ⟨_, rfl, rfl, rfl, rfl, rfl, holds_init _ 0 (by decide) (by decide)⟩
  | succ n ih =>
    obtain ⟨q, hexec, hpc, hlist, hsize, hget, h⟩ := ih (by omega)
    have hput := h.putIndex
    have hfull := h.isFull
    rw [hsize, hget, List.length_replicate, Nat.zero_add, Nat.mod_eq_of_lt (by omega)] at hput
    rw [hsize, List.length_replicate] at hfull
    have hroom : q.isFull = false := by
      apply eq_false_of_ne_true
      intro hf
      have := hfull.mp hf
      omega
    refine ⟨put q item, ?_, hpc, hlist, hsize, hget, ?_⟩
    · rw [pushes, exec_append_some hexec]
      exact exec_push hpc hroom hlist item
    · rw [List.replicate_succ']
      exact h.put hroom (.inr (by omega)) item

/-- The length that is returned is one that the queue has at no moment of the call: it had one item, then
none.  And a queue of 40000 items is full with 32768, and says that it has 40000. -/
theorem dataqueue_departs :
    (∃ q : RtDataQueue Bool,
      exec Dataqueue.step (rtDataQueueInit (fun _ => ⟨0#32, 0#32⟩) 2 0) (poppedMeanwhile.take 9) = some q ∧
      q.pc true = .done (.ok (.length 2)) ∧ q.isEmpty = true ∧
      (exec (Atomic.step (apply 2)) (Object.init [])
        (observe Dataqueue.step label (rtDataQueueInit (fun _ => ⟨0#32, 0#32⟩) 2 0)
          poppedMeanwhile)).isNone) ∧
    ∀ item, ∃ q : RtDataQueue Unit,
      exec Dataqueue.step (rtDataQueueInit (fun _ => item) 40000 0)
        (pushes item 32768 ++ [.call () (.push item 0), .run () ⟨true, true⟩]) = some q ∧
      q.pc () = .done (.error .etimeout) ∧ q.isFull = true ∧ rtDataQueueLen q = 40000 := by
  constructor
  · exact ⟨_, rfl, rfl, rfl, by decide +kernel⟩
  · intro item
    obtain ⟨q, hexec, hpc, hlist, hsize, hget, h⟩ := exec_pushes item (Nat.le_refl 0x7fff)
    have hput : q.putIndex = 0x7fff := by
      rw [h.putIndex, hsize, hget, List.length_replicate]
    have hroom : q.isFull = false := by
      apply eq_false_of_ne_true
      intro hf
      have hfull := h.isFull.mp hf
      rw [hsize, List.length_replicate] at hfull
      cases hfull
    have hnext : nextIndex q.size q.putIndex = 0 := by
      rw [hsize, hput]
      rfl
    have hfull : (put q item).isFull = true := by
      show (if nextIndex q.size q.putIndex = q.getIndex then true else q.isFull) = true
      rw [hnext, hget, if_pos rfl]
    refine ⟨setPc (setPc (put q item) () (.pushEntry item 0)) () (.done (.error .etimeout)), ?_, rfl, hfull,
      ?_⟩
    · have hall : exec Dataqueue.step (rtDataQueueInit (fun _ => item) 40000 0) (pushes item 32768) =
          some (put q item) := by
        show exec Dataqueue.step _ (pushes item 32767 ++ push item) = _
        rw [exec_append_some hexec]
        exact exec_push hpc hroom hlist item
      rw [exec_append_some hall]
      have hidle : (put q item).pc () = .idle := hpc
      simp [exec, Dataqueue.step, hidle, entryPc, setPc, runAgent, pushLoop, hfull]
    · have hput' : (put q item).putIndex = 0 := hnext
      have hget' : (put q item).getIndex = 0 := hget
      have hsize' : (put q item).size = 40000 := hsize
      have hcount : (count (put q item)).toNat = 40000 := by
        unfold count
        rw [hput', hget', hsize']
        rfl
      exact hcount

end N32L43x.Dataqueue
