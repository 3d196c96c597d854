import N32L43x.Ipc.Answers
import N32L43x.Lib.Answers
import N32L43x.Dataqueue.Refine

/-!
What the pushes and pops of a data queue return, when it may be reset meanwhile.  `rt_data_queue_deinit`
is a reset, up to the moment the memory is freed.
-/

namespace N32L43x.Dataqueue

open N32L43x.Ipc N32L43x.Lib N32L43x.Lib.Answers N32L43x.Lib.Run

variable {Ag : Type*} [DecidableEq Ag] {q q' q₁ : RtDataQueue Ag} {items items' : List RtDataItem} {ag : Ag}
  {env : Env} {pc' : Pc} {cap : ℕ} {item : RtDataItem} {timeout : ℤ}

/-- A call whose answer matters. -/
inductive Transfer
  | push (item : RtDataItem)
  | pop

/-- The effect of a push and a pop on at most `cap` items, and what they answer. -/
def transfer (cap : ℕ) (items : List RtDataItem) : Transfer → Option (List RtDataItem × Answer RtDataItem)
  | .push item => if items.length < cap then some (items ++ [item], ⟨0, none⟩) else none
  | .pop =>
    match items with
    | [] => none
    | item :: items => some (items, ⟨0, some item⟩)

/-- How an agent is seen: a reset and a question for the length are no transfers. -/
def answerPc : Pc → Pend Transfer RtDataItem
  | .pushEntry item _ => .called (.push item)
  | .pushWait item _ => .called (.push item)
  | .popEntry _ => .called .pop
  | .popWait _ => .called .pop
  | .done (.ok .pushed) => .effective ⟨0, none⟩
  | .done (.ok (.popped item)) => .effective ⟨0, some item⟩
  | .done (.error _) => .failed
  | _ => .idle

/-- What is seen of an agent that goes on from `pc` to `pc'`. -/
def answerRunLabel (ag : Ag) (pc pc' : Pc) : List (Answers.Label Ag Transfer RtDataItem) :=
  match pc, pc' with
  | .done (.ok .pushed), _ => [.ret ag ⟨0, none⟩]
  | .done (.ok (.popped item)), _ => [.ret ag ⟨0, some item⟩]
  | .done (.error e), _ => [.ret ag ⟨e.value, none⟩]
  | .done _, _ => []
  | .resetEntry, _ => [.reset]
  | _, .done (.error _) => [.fail ag]
  | _, .done (.ok .pushed) => [.commit ag]
  | _, .done (.ok (.popped _)) => [.commit ag]
  | _, _ => []

/-- What is seen of a step. -/
def answerLabel (q : RtDataQueue Ag) (a : Action Ag) (q' : RtDataQueue Ag) :
    List (Answers.Label Ag Transfer RtDataItem) :=
  match a with
  | .call ag (.push item _) => [.call ag (.push item)]
  | .call ag (.pop _) => [.call ag .pop]
  | .call _ _ => []
  | .expire _ => []
  | .run ag _ => answerRunLabel ag (q.pc ag) (q'.pc ag)

/-- A reset wakes nobody with this step. -/
def WakesNobody (q : RtDataQueue Ag) : Action Ag → Prop
  | .run ag env =>
    (q.pc ag = .resetPop → env.ready = false ∨ q.suspendedPopList = []) ∧
      (q.pc ag = .resetPush → env.ready = false ∨ q.suspendedPushList = [])
  | _ => True

instance (q : RtDataQueue Ag) (a : Action Ag) : Decidable (WakesNobody q a) :=
  match a with
  | .run ag env =>
    inferInstanceAs (Decidable ((q.pc ag = .resetPop → env.ready = false ∨ q.suspendedPopList = []) ∧
      (q.pc ag = .resetPush → env.ready = false ∨ q.suspendedPushList = [])))
  | .call .. => isTrue trivial
  | .expire _ => isTrue trivial

/-! ### A step of one agent -/

/-- The state of the specification. -/
def answerView (q : RtDataQueue Ag) (items : List RtDataItem) :
    Object Ag Transfer RtDataItem (List RtDataItem) where
  value := items
  pend ag := answerPc (q.pc ag)

/-- The step is matched over its label, and the ring holds what the specification has. -/
def Answered (q : RtDataQueue Ag) (items : List RtDataItem) (a : Action Ag) (q' : RtDataQueue Ag) : Prop :=
  ∃ items', OnRing q' (capacity q'.size) items' ∧ q'.size = q.size ∧
    exec (Answers.step (transfer (capacity q.size)) []) (answerView q items) (answerLabel q a q') =
      some (answerView q' items')

omit [DecidableEq Ag] in
lemma SameData.onRing (hs : SameData q q') (h : OnRing q cap items) : OnRing q' cap items := by
  refine ⟨?_, h.length_le, ?_, ?_, ?_, ?_⟩
  · rw [hs.getIndex]
    exact h.get_lt
  · rw [hs.getIndex, hs.putIndex]
    exact h.putIndex
  · rw [hs.isEmpty]
    exact h.isEmpty
  · rw [hs.isFull]
    exact h.isFull
  · rw [hs.queue, hs.getIndex]
    exact h.contents

lemma OnRing.setPc (h : OnRing q cap items) : OnRing (setPc q ag pc') cap items :=
  ⟨h.get_lt, h.length_le, h.putIndex, h.isEmpty, h.isFull, h.contents⟩

lemma answerView_setPc (q : RtDataQueue Ag) (items : List RtDataItem) :
    answerView (setPc q ag pc') items = (answerView q items).setPend ag (answerPc pc') := by
  have hpend : (fun ag' => answerPc ((setPc q ag pc').pc ag')) =
      Function.update (fun ag' => answerPc (q.pc ag')) ag (answerPc pc') := by
    funext ag'
    by_cases hag : ag' = ag
    · subst hag
      simp [setPc]
    · simp [setPc, Function.update_of_ne hag]
  unfold answerView Object.setPend
  rw [hpend]

omit [DecidableEq Ag] in
lemma answerView_congr (hpc : q₁.pc = q.pc) (items : List RtDataItem) :
    answerView q₁ items = { answerView q items with value := items } := by
  unfold answerView
  rw [hpc]

lemma answerLabel_setPc (q₁ : RtDataQueue Ag) : answerLabel q (.run ag env) (setPc q₁ ag pc') =
    answerRunLabel ag (q.pc ag) pc' := by
  simp [answerLabel, setPc]

/-- A step the specification does not see. -/
lemma answered_silent (h : OnRing q (capacity q.size) items) (hs : SameData q q₁)
    (hx : answerPc pc' = answerPc (q.pc ag)) (hlabel : answerRunLabel ag (q.pc ag) pc' = []) :
    Answered q items (.run ag env) (setPc q₁ ag pc') := by
  refine ⟨items, ?_, hs.size, ?_⟩
  · rw [show capacity (setPc q₁ ag pc').size = capacity q.size from congrArg capacity hs.size]
    exact (hs.onRing h).setPc
  · rw [answerLabel_setPc, hlabel, answerView_setPc, answerView_congr hs.pc, hx]
    exact congrArg some (Object.setPend_of_pend rfl).symm

/-- A call fails: it has no effect. -/
lemma answered_fail {op : Transfer} {e : IpcErr} (h : OnRing q (capacity q.size) items) (hs : SameData q q₁)
    (hop : answerPc (q.pc ag) = .called op)
    (hlabel : answerRunLabel ag (q.pc ag) (.done (.error e)) = [.fail ag]) :
    Answered q items (.run ag env) (setPc q₁ ag (.done (.error e))) := by
  refine ⟨items, ?_, hs.size, ?_⟩
  · rw [show capacity (setPc q₁ ag (.done (.error e))).size = capacity q.size from congrArg capacity hs.size]
    exact (hs.onRing h).setPc
  · rw [answerLabel_setPc, hlabel, answerView_setPc, answerView_congr hs.pc]
    exact exec_cons_some (step_fail (show (answerView q items).pend ag = .called op from hop)) []

/-- The moment an item is stored or taken. -/
lemma answered_commit {op : Transfer} {ans : Answer RtDataItem} (h' : OnRing q₁ (capacity q.size) items')
    (hsize : q₁.size = q.size) (hpc : q₁.pc = q.pc) (hop : answerPc (q.pc ag) = .called op)
    (happly : transfer (capacity q.size) items op = some (items', ans))
    (hdone : answerPc pc' = .effective ans) (hlabel : answerRunLabel ag (q.pc ag) pc' = [.commit ag]) :
    Answered q items (.run ag env) (setPc q₁ ag pc') := by
  refine ⟨items', ?_, hsize, ?_⟩
  · rw [show capacity (setPc q₁ ag pc').size = capacity q.size from congrArg capacity hsize]
    exact h'.setPc
  · have hview : answerView q₁ items' = { answerView q items with value := items' } := by
      unfold answerView
      rw [hpc]
    rw [answerLabel_setPc, hlabel, answerView_setPc, hview, hdone]
    exact exec_cons_some (step_commit (show (answerView q items).pend ag = .called op from hop) happly) []

/-! ### The calls -/

lemma answered_pushLoop (h : OnRing q (capacity q.size) items)
    (hpc : q.pc ag = .pushEntry item timeout ∨ q.pc ag = .pushWait item timeout) :
    Answered q items (.run ag env) (pushLoop q ag item timeout env) := by
  have hop : answerPc (q.pc ag) = .called (.push item) := by
    rcases hpc with hpc | hpc <;> rw [hpc] <;> rfl
  have hfail : ∀ e, answerRunLabel ag (q.pc ag) (.done (.error e)) = [.fail ag] := by
    intro e
    rcases hpc with hpc | hpc <;> rw [hpc] <;> rfl
  unfold pushLoop
  split
  · split
    · exact answered_fail h ⟨rfl, rfl, rfl, rfl, rfl, rfl, rfl⟩ hop (hfail _)
    have herror : SameData q (setError q ag .eok) := ⟨rfl, rfl, rfl, rfl, rfl, rfl, rfl⟩
    simp only
    split
    · refine answered_silent h ⟨rfl, rfl, rfl, rfl, rfl, rfl, rfl⟩ hop.symm ?_
      rcases hpc with hpc | hpc <;> rw [hpc] <;> rfl
    · exact answered_fail h herror hop (hfail _)
  · rename_i hroom
    have hfull := eq_false_of_ne_true hroom
    have hput := h.put hfull (nextIndex_capacity h.put_lt) item
    have hdeq := sameData_dequeuePop (put q item) env.ready
    refine answered_commit (hdeq.onRing hput) hdeq.size hdeq.pc hop ?_ rfl ?_
    · unfold transfer
      simp only
      rw [if_pos (h.length_lt hfull)]
    · rcases hpc with hpc | hpc <;> rw [hpc] <;> rfl

lemma answered_popLoop (h : OnRing q (capacity q.size) items)
    (hpc : q.pc ag = .popEntry timeout ∨ q.pc ag = .popWait timeout)
    (hs : popLoop q ag timeout env = some q') : Answered q items (.run ag env) q' := by
  have hop : answerPc (q.pc ag) = .called .pop := by
    rcases hpc with hpc | hpc <;> rw [hpc] <;> rfl
  unfold popLoop at hs
  split at hs
  · split at hs
    · cases hs
      refine answered_fail h ⟨rfl, rfl, rfl, rfl, rfl, rfl, rfl⟩ hop ?_
      rcases hpc with hpc | hpc <;> rw [hpc] <;> rfl
    simp only at hs
    split at hs
    · cases hs
      refine answered_silent h ⟨rfl, rfl, rfl, rfl, rfl, rfl, rfl⟩ hop.symm ?_
      rcases hpc with hpc | hpc <;> rw [hpc] <;> rfl
    · cases hs
  · rename_i hsome
    cases hs
    obtain ⟨rest, rfl, htake⟩ := h.take (eq_false_of_ne_true hsome) (nextIndex_capacity h.get_lt)
    have hwoken : SameData (take q)
        (if rtDataQueueLen (take q) ≤ (take q).lwm then dequeuePush (take q) env.ready else take q) := by
      split
      · exact sameData_dequeuePush ..
      · exact ⟨rfl, rfl, rfl, rfl, rfl, rfl, rfl⟩
    refine answered_commit (hwoken.onRing htake) hwoken.size hwoken.pc hop rfl rfl ?_
    rcases hpc with hpc | hpc <;> rw [hpc] <;> rfl

/-! ### The error numbers -/

/-- The error a call returns. -/
def failure : Pc → Option IpcErr
  | .done (.error e) => some e
  | _ => none

lemma failure_of {e : IpcErr} (he : e.value < 0) : ∀ e', failure (.done (.error e)) = some e' → e'.value < 0 := by
  rintro e' ⟨⟩
  exact he

lemma fair_pushLoop (h : Fair failure q.error q.pc) :
    Fair failure (pushLoop q ag item timeout env).error (pushLoop q ag item timeout env).pc := by
  have herr : Fair failure (setError q ag .eok).error (setError q ag .eok).pc := h.setError (.inl rfl) ag
  unfold pushLoop
  split
  · split
    · exact h.setPc (failure_of (by decide)) ag
    dsimp only
    split
    · exact herr.setPc (fun _ he => by cases he) ag
    · exact herr.setPc (failure_of (by decide)) ag
  · refine Fair.setPc ?_ (fun _ he => by cases he) ag
    unfold dequeuePop
    split
    · exact h
    · split <;> exact h

lemma fair_popLoop (h : Fair failure q.error q.pc) (hs : popLoop q ag timeout env = some q') :
    Fair failure q'.error q'.pc := by
  have herr : Fair failure (setError q ag .eok).error (setError q ag .eok).pc := h.setError (.inl rfl) ag
  unfold popLoop at hs
  split at hs
  · split at hs
    · cases hs
      exact h.setPc (failure_of (by decide)) ag
    dsimp only at hs
    split at hs <;> cases hs
    exact herr.setPc (fun _ he => by cases he) ag
  · cases hs
    refine Fair.setPc ?_ (fun _ he => by cases he) ag
    split
    · unfold dequeuePush
      split
      · exact h
      · split <;> exact h
    · exact h

/-! ### One step -/

/-- A step of the agent `ag` that is matched, and leaves the error numbers fair. -/
lemma answered_run (h : OnRing q (capacity q.size) items) (hfair : Fair failure q.error q.pc)
    (hC : WakesNobody q (.run ag env)) (hs : runAgent q ag env = some q') :
    Answered q items (.run ag env) q' ∧ Fair failure q'.error q'.pc := by
  have hsame : SameData q q := ⟨rfl, rfl, rfl, rfl, rfl, rfl, rfl⟩
  unfold runAgent at hs
  cases hpc : q.pc ag with
  | idle =>
    rw [hpc] at hs
    cases hs
  | pushEntry item timeout =>
    simp only [hpc] at hs
    cases hs
    exact ⟨answered_pushLoop h (.inl hpc), fair_pushLoop hfair⟩
  | pushWait item timeout =>
    simp only [hpc] at hs
    split at hs
    · cases hs
    split at hs <;> cases hs
    · rename_i hne
      have hop : answerPc (q.pc ag) = .called (.push item) := by rw [hpc]; rfl
      exact ⟨answered_fail h hsame hop (by rw [hpc]; rfl), hfair.setPc (failure_of (hfair.value_neg hne)) ag⟩
    · exact ⟨answered_pushLoop h (.inr hpc), fair_pushLoop hfair⟩
  | popEntry timeout =>
    simp only [hpc] at hs
    exact ⟨answered_popLoop h (.inl hpc) hs, fair_popLoop hfair hs⟩
  | popWait timeout =>
    simp only [hpc] at hs
    split at hs
    · cases hs
    split at hs
    · rename_i hne
      cases hs
      have hop : answerPc (q.pc ag) = .called .pop := by rw [hpc]; rfl
      exact ⟨answered_fail h hsame hop (by rw [hpc]; rfl), hfair.setPc (failure_of (hfair.value_neg hne)) ag⟩
    · exact ⟨answered_popLoop h (.inr hpc) hs, fair_popLoop hfair hs⟩
  | resetEntry =>
    simp only [hpc] at hs
    cases hs
    refine ⟨⟨[], h.reset.setPc, rfl, ?_⟩, hfair.setPc (fun _ he => by cases he) ag⟩
    have hidle : (answerView q []).pend ag = .idle := congrArg answerPc hpc
    rw [answerLabel_setPc, hpc, answerView_setPc]
    exact congrArg some (Object.setPend_of_pend hidle).symm
  | resetPop =>
    simp only [hpc] at hs
    have hdone : Answered q items (.run ag env) (setPc q ag .resetPush) :=
      answered_silent h hsame (by rw [hpc]; rfl) (by rw [hpc]; rfl)
    split at hs
    · rename_i t ts hlist
      rcases hC.1 hpc with hready | hempty
      · rw [hready] at hs
        cases hs
        exact ⟨hdone, hfair.setPc (fun _ he => by cases he) ag⟩
      · rw [hempty] at hlist
        cases hlist
    · cases hs
      exact ⟨hdone, hfair.setPc (fun _ he => by cases he) ag⟩
  | resetPush =>
    simp only [hpc] at hs
    have hdone : Answered q items (.run ag env) (setPc q ag (.done (.ok .wasReset))) :=
      answered_silent h hsame (by rw [hpc]; rfl) (by rw [hpc]; rfl)
    split at hs
    · rename_i t ts hlist
      rcases hC.2 hpc with hready | hempty
      · rw [hready] at hs
        cases hs
        exact ⟨hdone, hfair.setPc (fun _ he => by cases he) ag⟩
      · rw [hempty] at hlist
        cases hlist
    · cases hs
      exact ⟨hdone, hfair.setPc (fun _ he => by cases he) ag⟩
  | lenEntry =>
    simp only [hpc] at hs
    split at hs <;> cases hs
    · exact ⟨answered_silent h hsame (by rw [hpc]; rfl) (by rw [hpc]; rfl),
        hfair.setPc (fun _ he => by cases he) ag⟩
    · exact ⟨answered_silent h hsame (by rw [hpc]; rfl) (by rw [hpc]; rfl),
        hfair.setPc (fun _ he => by cases he) ag⟩
  | lenCount =>
    simp only [hpc] at hs
    cases hs
    exact ⟨answered_silent h hsame (by rw [hpc]; rfl) (by rw [hpc]; rfl),
      hfair.setPc (fun _ he => by cases he) ag⟩
  | done res =>
    simp only [hpc] at hs
    cases hs
    have hpend : (answerView q items).pend ag = answerPc (.done res) := congrArg answerPc hpc
    refine ⟨?_, hfair.setPc (fun _ he => by cases he) ag⟩
    refine ⟨items, h.setPc, rfl, ?_⟩
    rw [answerLabel_setPc, hpc, answerView_setPc]
    cases res with
    | error e => exact exec_cons_some (step_ret_failed hpend (hfair.failed ag e (by rw [hpc]; rfl))) []
    | ok res =>
      cases res with
      | pushed => exact exec_cons_some (step_ret hpend) []
      | popped item => exact exec_cons_some (step_ret hpend) []
      | wasReset => exact congrArg some (Object.setPend_of_pend (p := .idle) hpend).symm
      | length n => exact congrArg some (Object.setPend_of_pend (p := .idle) hpend).symm

/-- **One step.**  If it is not one by which a reset wakes a blocked caller, it is matched over its
label. -/
theorem answered_step {a : Action Ag} (h : OnRing q (capacity q.size) items)
    (hfair : Fair failure q.error q.pc) (hC : WakesNobody q a) (hs : Dataqueue.step q a = some q') :
    Answered q items a q' ∧ Fair failure q'.error q'.pc := by
  cases a with
  | run ag env => exact answered_run h hfair hC hs
  | call ag op =>
    simp only [Dataqueue.step] at hs
    split at hs
    · rename_i hidle
      cases hs
      have hpend : (answerView q items).pend ag = .idle := congrArg answerPc hidle
      refine ⟨⟨items, h.setPc, rfl, ?_⟩, hfair.setPc (fun _ he => by cases op <;> cases he) ag⟩
      rw [answerView_setPc]
      cases op with
      | push item timeout => exact exec_cons_some (step_call hpend (.push item)) []
      | pop timeout => exact exec_cons_some (step_call hpend .pop) []
      | reset => exact congrArg some (Object.setPend_of_pend (p := .idle) hpend).symm
      | len => exact congrArg some (Object.setPend_of_pend (p := .idle) hpend).symm
    · cases hs
  | expire ag =>
    simp only [Dataqueue.step] at hs
    split at hs
    · cases hs
      refine ⟨⟨items, ?_, rfl, rfl⟩, hfair.setError (.inr (by decide)) ag⟩
      exact SameData.onRing (q := q) ⟨rfl, rfl, rfl, rfl, rfl, rfl, rfl⟩ h
    · cases hs

/-! ### Whole runs -/

/-- What a push or a pop is about to return is right. -/
def Says (pend : Pend Transfer RtDataItem) : Except IpcErr Result → Prop
  | .error e => pend = .failed ∧ e.value < 0
  | .ok .pushed => pend = .effective ⟨0, none⟩
  | .ok (.popped item) => pend = .effective ⟨0, some item⟩
  | .ok _ => True

/-- The pushes and pops of a data queue say whether they had their effect, in every run in which no reset
wakes a blocked caller. -/
lemma answers_run (queue : ℕ → RtDataItem) (lwm : ℕ) {size : ℕ} (hpos : 0 < size % 0x10000)
    (as : List (Action Ag)) (hC : Along Dataqueue.step WakesNobody (rtDataQueueInit queue size lwm) as)
    (hrun : exec Dataqueue.step (rtDataQueueInit queue size lwm) as = some q) :
    ∃ t, exec (Answers.step (transfer (capacity (size % 0x10000))) []) (Object.init [])
        (observe Dataqueue.step answerLabel (rtDataQueueInit queue size lwm) as) = some t ∧
      OnRing q (capacity (size % 0x10000)) t.value ∧ ∀ ag res, q.pc ag = .done res → Says (t.pend ag) res := by
  have hsim : ∀ (q : RtDataQueue Ag) (a : Action Ag) (q' : RtDataQueue Ag)
      (t : Object Ag Transfer RtDataItem (List RtDataItem)),
      (∃ items, OnRing q (capacity q.size) items ∧ Fair failure q.error q.pc ∧ q.size = size % 0x10000 ∧
        t = answerView q items) → WakesNobody q a → Dataqueue.step q a = some q' →
      ∃ t', exec (Answers.step (transfer (capacity (size % 0x10000))) []) t (answerLabel q a q') = some t' ∧
        ∃ items, OnRing q' (capacity q'.size) items ∧ Fair failure q'.error q'.pc ∧
          q'.size = size % 0x10000 ∧ t' = answerView q' items := by
    rintro q a q' t ⟨items, h, hfair, hsize, rfl⟩ hC hs
    obtain ⟨⟨items', h', hsize', hexec⟩, hfair'⟩ := answered_step h hfair hC hs
    rw [hsize] at hexec
    exact ⟨_, hexec, items', h', hfair', hsize'.trans hsize, rfl⟩
  have hcap : 0 < capacity (size % 0x10000) := by
    unfold capacity
    split
    · exact hpos
    · decide
  have hring : OnRing (rtDataQueueInit queue size lwm : RtDataQueue Ag) (capacity (size % 0x10000)) [] :=
    ⟨hcap, Nat.zero_le _, (Nat.zero_mod _).symm, iff_of_true rfl rfl,
      iff_of_false (fun hc => by cases hc) hcap.ne, rfl⟩
  have hfair : Fair failure (rtDataQueueInit queue size lwm : RtDataQueue Ag).error
      (rtDataQueueInit queue size lwm).pc := ⟨fun _ => .inl rfl, fun _ _ he => by cases he⟩
  obtain ⟨t, hexec, items, h, hfair, hsize, rfl⟩ := exec_simulates_of_along hsim as _ q (Object.init [])
    ⟨[], hring, hfair, rfl, rfl⟩ hC hrun
  rw [hsize] at h
  refine ⟨_, hexec, h, fun ag res hpc => ?_⟩
  have hpend : (answerView q items).pend ag = answerPc (.done res) := congrArg answerPc hpc
  cases res with
  | error e => exact ⟨hpend, hfair.failed ag e (by rw [hpc]; rfl)⟩
  | ok res =>
    cases res with
    | pushed => exact hpend
    | popped item => exact hpend
    | wasReset => trivial
    | length n => trivial

end N32L43x.Dataqueue
