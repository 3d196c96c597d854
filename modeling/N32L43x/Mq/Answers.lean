import N32L43x.Ipc.Answers
import N32L43x.Lib.Answers
import N32L43x.Mq.Refine

/-!
A message queue that may be reset or detached while callers are blocked on it, and what the calls return.
-/

namespace N32L43x.Mq

open N32L43x.Ipc N32L43x.Lib N32L43x.Lib.Answers N32L43x.Lib.Links N32L43x.Lib.Run

variable {Ag : Type*} [DecidableEq Ag] {enqueue : List Ag → Ag → List Ag} {q q' : Mq Ag} {ag : Ag}
  {pc' : Pc} {fl ql hl : List ℕ} {M elapsed : ℕ} {ready : Bool}

/-- What happens to a message queue.  With a reset and a detach stands how many threads of each list the
scheduler can make ready. -/
inductive Event (Ag : Type*)
  | act (a : Action Ag)
  /-- the scheduler does not suspend an agent that would wait -/
  | refused (ag : Ag) (elapsed : ℕ)
  /-- `rt_mq_control` with `RT_IPC_CMD_RESET` -/
  | reset (receivers senders : ℕ)
  /-- `rt_mq_detach`; also `rt_mq_delete`, up to the moment the memory is freed -/
  | detach (receivers senders : ℕ)

/-- `rt_susp_list_resume_all` with `RT_ERROR` for both lists. -/
def resumeAll (q : Mq Ag) (receivers senders : ℕ) : Mq Ag :=
  let receiversLeft := rtSuspListResumeAll rtError receivers q.suspendThread q.error
  let sendersLeft := rtSuspListResumeAll rtError senders q.suspendSenderThread receiversLeft.2
  { q with suspendThread := receiversLeft.1, suspendSenderThread := sendersLeft.1, error := sendersLeft.2 }

/-- The loop of `rt_mq_control` that releases the messages, for fewer than `fuel` of them. -/
def releaseAll : ℕ → Mq Ag → Option (Mq Ag)
  | 0, _ => none
  | fuel + 1, q =>
    match q.msgQueueHead with
    | none => some q
    | some msg =>
      let q :=
        { q with
          msgQueueHead := (q.node msg).next
          msgQueueTail := if q.msgQueueTail = some msg then none else q.msgQueueTail }
      let q := setNode q msg { q.node msg with next := q.msgQueueFree }
      releaseAll fuel { q with msgQueueFree := some msg }

/-- The agent is suspended, or resumed and not yet run. -/
def waits : Pc → Bool
  | .sendWait .. => true
  | .recvWait .. => true
  | _ => false

def eventStep (enqueue : List Ag → Ag → List Ag) (q : Mq Ag) : Event Ag → Option (Mq Ag)
  | .act a => step enqueue q a
  | .refused ag elapsed =>
    match runAgent enqueue q ag elapsed false with
    | none => none
    | some q' =>
      -- `rt_thread_suspend_to_list` has failed
      if waits (q'.pc ag) then some (setPc (setError q ag .eintr) ag (.done (.err .error))) else none
  | .reset receivers senders =>
    (releaseAll (q.maxMsgs + 1) (resumeAll q receivers senders)).map fun q => { q with entry := 0 }
  | .detach receivers senders => some (resumeAll q receivers senders)

/-- What a call returns, and what it stores in `buffer`. -/
def Result.answer : Result → Answer Msg
  | .ok => ⟨0, none⟩
  | .bytes buffer => ⟨buffer.length, some buffer⟩
  | .err e => ⟨e.value, none⟩

/-- What is seen of a step, as far as the answers go. -/
def Label.answer : Label Ag → Answers.Label Ag AbsOp Msg
  | .call ag op => .call ag op
  | .commit ag => .commit ag
  | .fail ag _ => .fail ag
  | .ret ag res => .ret ag res.answer

/-- What is seen of an event. -/
def eventLabel (q : Mq Ag) (ev : Event Ag) (q' : Mq Ag) : List (Answers.Label Ag AbsOp Msg) :=
  match ev with
  | .act a => (label q a q').map Label.answer
  | .refused ag _ => [.fail ag]
  | .reset .. => [.reset]
  | .detach .. => []

/-- A reset or a detach wakes nobody. -/
def WakesNobody (q : Mq Ag) : Event Ag → Prop
  | .reset receivers senders | .detach receivers senders =>
    Ipc.WakesNobody receivers q.suspendThread ∧ Ipc.WakesNobody senders q.suspendSenderThread
  | _ => True

instance (q : Mq Ag) (ev : Event Ag) : Decidable (WakesNobody q ev) :=
  match ev with
  | .act _ => isTrue trivial
  | .refused .. => isTrue trivial
  | .reset receivers senders => inferInstanceAs (Decidable (Ipc.WakesNobody receivers q.suspendThread ∧
      Ipc.WakesNobody senders q.suspendSenderThread))
  | .detach receivers senders => inferInstanceAs (Decidable (Ipc.WakesNobody receivers q.suspendThread ∧
      Ipc.WakesNobody senders q.suspendSenderThread))

/-- The effect of a call, and what it answers. -/
abbrev applies (maxMsgs : ℕ) : List Msg → AbsOp → Option (List Msg × Answer Msg) :=
  answering (fun queue op => op.apply maxMsgs queue) Result.answer

/-! ### The specification, as far as the answers go -/

def AbsPc.answer : AbsPc → Pend AbsOp Msg
  | .idle => .idle
  | .called op => .called op
  | .done (.err _) => .failed
  | .done res => .effective res.answer

def AbsQueue.answers (t : AbsQueue Ag) : Object Ag AbsOp Msg (List Msg) where
  value := t.queue
  pend ag := (t.pend ag).answer

lemma answers_setPend (t : AbsQueue Ag) (ag : Ag) (pc : AbsPc) :
    (t.setPend ag pc).answers = t.answers.setPend ag pc.answer := by
  have hpend : (fun ag' => ((t.setPend ag pc).pend ag').answer) =
      Function.update (fun ag' => (t.pend ag').answer) ag pc.answer := by
    funext ag'
    by_cases hag : ag' = ag
    · subst hag
      simp [AbsQueue.setPend]
    · simp [AbsQueue.setPend, Function.update_of_ne hag]
  unfold AbsQueue.answers Object.setPend
  rw [hpend]
  rfl

/-- The error a call returns, if it returns one, is a negative number. -/
def Negative : Label Ag → Prop
  | .ret _ (.err e) => e.value < 0
  | _ => True

/-- What has an effect is not an error. -/
lemma apply_answer {queue queue' : List Msg} {op : AbsOp} {res : Result}
    (h : op.apply M queue = some (queue', res)) : (AbsPc.done res).answer = .effective res.answer := by
  cases op with
  | send msg =>
    simp only [AbsOp.apply] at h
    split at h <;> cases h
    rfl
  | urgent msg =>
    simp only [AbsOp.apply] at h
    split at h <;> cases h
    rfl
  | recv size =>
    cases queue with
    | nil => cases h
    | cons msg queue =>
      cases h
      rfl

lemma answers_step {t t' : AbsQueue Ag} {l : Label Ag} (h : absStep M t l = some t') (hneg : Negative l) :
    Answers.step (applies M) [] t.answers l.answer = some t'.answers := by
  have hpend : ∀ ag p, t.pend ag = p → t.answers.pend ag = p.answer := fun ag p hp => congrArg AbsPc.answer hp
  cases l with
  | call ag op =>
    simp only [absStep] at h
    split at h
    · rename_i hidle
      cases h
      rw [answers_setPend]
      exact step_call (hpend ag _ hidle) op
    · cases h
  | commit ag =>
    simp only [absStep] at h
    split at h
    · rename_i op hcalled
      obtain ⟨⟨queue, res⟩, happly, ht⟩ := Option.map_eq_some_iff.mp h
      subst ht
      rw [answers_setPend, apply_answer happly]
      refine step_commit (hpend ag _ hcalled) ?_
      show answering _ Result.answer t.queue op = _
      simp [answering, happly]
    · cases h
  | fail ag e =>
    simp only [absStep] at h
    split at h
    · rename_i hcalled
      cases h
      rw [answers_setPend]
      exact step_fail (hpend ag _ hcalled)
    · cases h
  | ret ag res =>
    simp only [absStep] at h
    split at h
    · rename_i res' hdone
      split at h
      · rename_i heq
        subst heq
        cases h
        rw [answers_setPend]
        cases res with
        | err e => exact step_ret_failed (hpend ag _ hdone) hneg
        | _ => exact step_ret (hpend ag _ hdone)
      · cases h
    · cases h

lemma answers_exec {ls : List (Label Ag)} {t t' : AbsQueue Ag} (h : exec (absStep M) t ls = some t')
    (hneg : ∀ l ∈ ls, Negative l) :
    exec (Answers.step (applies M) []) t.answers (ls.map Label.answer) = some t'.answers := by
  induction ls generalizing t with
  | nil =>
    obtain rfl : t = t' := by simpa [exec] using h
    rfl
  | cons l ls ih =>
    rcases hs : absStep M t l with _ | u
    · rw [exec_cons_none hs] at h
      cases h
    · rw [exec_cons_some hs] at h
      rw [List.map_cons, exec_cons_some (answers_step hs (hneg l List.mem_cons_self))]
      exact ih h fun l' hl' => hneg l' (List.mem_cons_of_mem l hl')

/-! ### The error numbers -/

/-- The error a call returns. -/
def failure : Pc → Option IpcErr
  | .done (.err e) => some e
  | _ => none

lemma failure_of {e : IpcErr} (he : e.value < 0) : ∀ e', failure (.done (.err e)) = some e' → e'.value < 0 := by
  rintro e' ⟨⟩
  exact he

lemma fair_dequeueReceiver (q : Mq Ag) (h : Fair failure q.error q.pc) (ready : Bool) :
    Fair failure (dequeueReceiver q ready).error (dequeueReceiver q ready).pc := by
  unfold dequeueReceiver
  split
  · exact h
  · split
    · exact h.setError (.inl rfl) _
    · exact h

lemma fair_dequeueSender (q : Mq Ag) (h : Fair failure q.error q.pc) (ready : Bool) :
    Fair failure (dequeueSender q ready).error (dequeueSender q ready).pc := by
  unfold dequeueSender
  split
  · exact h
  · split
    · exact h.setError (.inl rfl) _
    · exact h

lemma fair_sendLoop {buffer : Msg} {timeout : ℤ} (h : Fair failure q.error q.pc) :
    Fair failure (sendLoop enqueue q ag buffer timeout).error (sendLoop enqueue q ag buffer timeout).pc := by
  have herr : Fair failure (setError q ag .eintr).error (setError q ag .eintr).pc :=
    h.setError (.inr (by decide)) ag
  unfold sendLoop
  split
  · exact h.setPc (fun _ he => by cases he) ag
  · dsimp only
    split
    · exact herr.setPc (failure_of (by decide)) ag
    · exact herr.setPc (fun _ he => by cases he) ag

omit [DecidableEq Ag] in
lemma linkTail_error (q : Mq Ag) (n : ℕ) : (linkTail q n).error = q.error ∧ (linkTail q n).pc = q.pc := by
  unfold linkTail
  cases q.msgQueueTail <;> exact ⟨rfl, rfl⟩

lemma fair_link {urgent : Bool} {n : ℕ} (h : Fair failure q.error q.pc) :
    Fair failure (link q ag urgent n ready).error (link q ag urgent n ready).pc := by
  have hlinked : Fair failure (if urgent then linkHead q n else linkTail q n).error
      (if urgent then linkHead q n else linkTail q n).pc := by
    cases urgent with
    | true => exact h
    | false =>
      rw [if_neg Bool.false_ne_true, (linkTail_error q n).1, (linkTail_error q n).2]
      exact h
  unfold link
  dsimp only
  generalize (if urgent then linkHead q n else linkTail q n) = q₁ at hlinked ⊢
  split
  · exact (fair_dequeueReceiver { q₁ with entry := q₁.entry + 1 } hlinked ready).setPc
      (fun _ he => by cases he) ag
  · exact hlinked.setPc (failure_of (by decide)) ag

lemma fair_recvLoop {size : ℕ} {timeout : ℤ} (h : Fair failure q.error q.pc)
    (hs : recvLoop enqueue q ag size timeout = some q') : Fair failure q'.error q'.pc := by
  have herr : Fair failure (setError q ag .eintr).error (setError q ag .eintr).pc :=
    h.setError (.inr (by decide)) ag
  unfold recvLoop at hs
  split at hs
  · dsimp only at hs
    split at hs <;> cases hs
    · exact (herr.setError (.inr (by decide)) ag).setPc (failure_of (by decide)) ag
    · exact herr.setPc (fun _ he => by cases he) ag
  · split at hs <;> cases hs
    exact h.setPc (fun _ he => by cases he) ag

lemma fair_run (h : Fair failure q.error q.pc) (hs : runAgent enqueue q ag elapsed ready = some q') :
    Fair failure q'.error q'.pc := by
  unfold runAgent at hs
  cases hpc : q.pc ag with
  | idle =>
    rw [hpc] at hs
    cases hs
  | sendEntry buffer timeout =>
    simp only [hpc] at hs
    split at hs
    · cases hs
      exact h.setPc (failure_of (by decide)) ag
    split at hs <;> cases hs
    · exact h.setPc (failure_of (by decide)) ag
    · exact fair_sendLoop h
  | sendWait buffer timeout =>
    simp only [hpc] at hs
    split at hs
    · cases hs
    split at hs <;> cases hs
    · rename_i hne
      exact h.setPc (failure_of (h.value_neg hne)) ag
    · exact fair_sendLoop h
  | urgentEntry buffer =>
    simp only [hpc] at hs
    split at hs
    · cases hs
      exact h.setPc (failure_of (by decide)) ag
    split at hs <;> cases hs
    · exact h.setPc (failure_of (by decide)) ag
    · exact h.setPc (fun _ he => by cases he) ag
  | taken urgent buffer msg =>
    simp only [hpc] at hs
    cases hs
    exact h.setPc (fun _ he => by cases he) ag
  | copying urgent buffer msg i =>
    simp only [hpc] at hs
    split at hs <;> cases hs
    · exact h.setPc (fun _ he => by cases he) ag
    · exact fair_link h
  | recvEntry size timeout =>
    simp only [hpc] at hs
    split at hs
    · cases hs
      exact h.setPc (failure_of (by decide)) ag
    · exact fair_recvLoop h hs
  | recvWait size timeout =>
    simp only [hpc] at hs
    split at hs
    · cases hs
    split at hs
    · rename_i hne
      cases hs
      exact h.setPc (failure_of (h.value_neg hne)) ag
    · exact fair_recvLoop h hs
  | recvTaken size msg =>
    simp only [hpc] at hs
    cases hs
    exact h.setPc (fun _ he => by cases he) ag
  | recvCopying msg len buffer =>
    simp only [hpc] at hs
    split at hs <;> cases hs
    · exact h.setPc (fun _ he => by cases he) ag
    · exact (fair_dequeueSender
        { setNode q msg { q.node msg with next := q.msgQueueFree } with msgQueueFree := some msg }
        h ready).setPc (fun _ he => by cases he) ag
  | done res =>
    simp only [hpc] at hs
    cases hs
    exact h.setPc (fun _ he => by cases he) ag

lemma fair_step {a : Action Ag} (h : Fair failure q.error q.pc) (hs : step enqueue q a = some q') :
    Fair failure q'.error q'.pc := by
  cases a with
  | run ag elapsed ready => exact fair_run h hs
  | call ag op =>
    simp only [step] at hs
    split at hs
    · cases hs
      exact h.setPc (fun _ he => by cases op <;> cases he) ag
    · cases hs
  | expire ag =>
    simp only [step] at hs
    split at hs
    · cases hs
      exact h.setError (.inr (by decide)) ag
    · cases hs

omit [DecidableEq Ag] in
/-- A call returns a negative error only. -/
lemma negative_label (h : Fair failure q.error q.pc) {a : Action Ag} : ∀ l ∈ label q a q', Negative l := by
  cases a with
  | call ag op => simp [label, Negative]
  | expire ag => simp [label]
  | run ag elapsed ready =>
    intro l hl
    simp only [label] at hl
    unfold runLabel at hl
    split at hl
    · rename_i res hpc
      obtain rfl := List.mem_singleton.mp hl
      cases res with
      | err e => exact h.failed ag e (by rw [hpc]; rfl)
      | _ => trivial
    all_goals
      first
        | (obtain rfl := List.mem_singleton.mp hl
           trivial)
        | cases hl

omit [DecidableEq Ag] in
lemma initNode_agents (q : Mq Ag) (nodes : List ℕ) :
    (nodes.foldl initNode q).error = q.error ∧ (nodes.foldl initNode q).pc = q.pc := by
  induction nodes generalizing q with
  | nil => exact ⟨rfl, rfl⟩
  | cons n nodes ih => exact ih (initNode q n)

omit [DecidableEq Ag] in
lemma fair_init {msgSize poolSize : ℕ} {garbage : ℕ → MqMessage}
    (h : rtMqInit msgSize poolSize garbage = some q) : Fair failure q.error q.pc := by
  unfold rtMqInit at h
  dsimp only at h
  split at h
  · cases h
  · obtain rfl := Option.some.inj h
    refine ⟨fun ag => .inl ?_, fun ag e he => ?_⟩
    · rw [(initNode_agents _ _).1]
    · rw [(initNode_agents _ _).2] at he
      cases he

/-! ### A reset -/

omit [DecidableEq Ag] in
/-- The messages are released: their nodes go to the free list, and no other node is touched. -/
lemma releaseAll_spec {fuel : ℕ} (hfree : Links (fun n => (q.node n).next) q.msgQueueFree fl)
    (hqueue : Links (fun n => (q.node n).next) q.msgQueueHead ql) (htail : q.msgQueueTail = ql.getLast?)
    (hnodup : (fl ++ ql).Nodup) (hfuel : ql.length < fuel) :
    ∃ q', releaseAll fuel q = some q' ∧ Links (fun n => (q'.node n).next) q'.msgQueueFree (ql.reverse ++ fl) ∧
      q'.msgQueueHead = none ∧ q'.msgQueueTail = none ∧ (∀ n, n ∉ ql → q'.node n = q.node n) ∧
      q'.maxMsgs = q.maxMsgs ∧ q'.error = q.error ∧ q'.pc = q.pc := by
  induction ql generalizing q fl fuel with
  | nil =>
    obtain ⟨fuel, rfl⟩ := Nat.exists_eq_succ_of_ne_zero (Nat.ne_of_gt hfuel)
    have hhead : q.msgQueueHead = none := hqueue
    refine ⟨q, ?_, hfree, hhead, htail, fun _ _ => rfl, rfl, rfl, rfl⟩
    simp only [releaseAll, hhead]
  | cons n ql ih =>
    obtain ⟨fuel, rfl⟩ := Nat.exists_eq_succ_of_ne_zero (Nat.ne_of_gt (Nat.zero_lt_of_lt hfuel))
    obtain ⟨hhead, hrest⟩ := hqueue
    have hperm : (fl ++ n :: ql).Perm (n :: fl ++ ql) := List.perm_middle
    have hnodup' : (n :: fl ++ ql).Nodup := hperm.nodup hnodup
    have hn : n ∉ fl ++ ql := (List.nodup_cons.mp hnodup').1
    have haway : ∀ x, x ≠ n → Function.update q.node n { q.node n with next := q.msgQueueFree } x = q.node x :=
      fun x hx => Function.update_of_ne hx _ _
    obtain ⟨q₁, hq₁⟩ : ∃ q₁, q₁ = ({ setNode { q with
        msgQueueHead := (q.node n).next
        msgQueueTail := if q.msgQueueTail = some n then none else q.msgQueueTail } n
        { q.node n with next := q.msgQueueFree } with msgQueueFree := some n } : Mq Ag) := ⟨_, rfl⟩
    have hnode : q₁.node = Function.update q.node n { q.node n with next := q.msgQueueFree } := by
      rw [hq₁]
      rfl
    have hfree' : Links (fun x => (q₁.node x).next) q₁.msgQueueFree (n :: fl) := by
      rw [show q₁.msgQueueFree = some n by rw [hq₁]]
      refine hfree.push ?_ fun x hx => ?_
      · simp [hnode]
      · rw [hnode, haway x fun hxn => hn (hxn ▸ List.mem_append_left _ hx)]
    have hqueue' : Links (fun x => (q₁.node x).next) q₁.msgQueueHead ql := by
      rw [show q₁.msgQueueHead = (q.node n).next by rw [hq₁]; rfl]
      refine hrest.congr fun x hx => ?_
      rw [hnode, haway x fun hxn => hn (hxn ▸ List.mem_append_right _ hx)]
    have htail' : q₁.msgQueueTail = ql.getLast? := by
      rw [show q₁.msgQueueTail = if q.msgQueueTail = some n then none else q.msgQueueTail by rw [hq₁]; rfl,
        htail]
      cases hql : ql.getLast? with
      | none =>
        rw [List.getLast?_eq_none_iff] at hql
        rw [hql]
        simp
      | some y =>
        have hy : y ≠ n := by
          rintro rfl
          exact hn (List.mem_append_right _ (List.mem_of_getLast? hql))
        rw [List.getLast?_cons, hql]
        simp [hy]
    obtain ⟨q', hq', hlinks, hhead', htail'', hsame, hmax, herror, hpc⟩ :=
      ih hfree' hqueue' htail' hnodup' (Nat.lt_of_succ_lt_succ hfuel)
    refine ⟨q', ?_, ?_, hhead', htail'', fun x hx => ?_, ?_, ?_, ?_⟩
    · rw [releaseAll, hhead, ← hq', hq₁]
    · rw [List.reverse_cons, List.append_assoc]
      exact hlinks
    · rw [List.mem_cons, not_or] at hx
      rw [hsame x hx.2, hnode, haway x hx.1]
    · rw [hmax, hq₁]
      rfl
    · rw [herror, hq₁]
      rfl
    · rw [hpc, hq₁]
      rfl

omit [DecidableEq Ag] in
/-- A reset that wakes nobody empties the queue. -/
lemma inv_releaseAll (h : Inv q fl ql hl) : ∃ q', releaseAll (q.maxMsgs + 1) q = some q' ∧
    Inv { q' with entry := 0 } (ql.reverse ++ fl) [] hl ∧ q'.maxMsgs = q.maxMsgs ∧ q'.error = q.error ∧
    q'.pc = q.pc ∧ ∀ ag, absPc q'.node (q.pc ag) = absPc q.node (q.pc ag) := by
  have hlen := h.pool.length_eq
  rw [List.length_append, List.length_append, List.length_range] at hlen
  obtain ⟨q', hq', hfree, hhead, htail, hsame, hmax, herror, hpc⟩ := releaseAll_spec h.free h.queue h.tail
    (List.nodup_append.mp h.nodup).1 (show ql.length < q.maxMsgs + 1 by omega)
  have hheld : ∀ ag n, holds (q.pc ag) = some n → q'.node n = q.node n :=
    fun ag n hn => hsame n (h.notMem_of_held hn).2.1
  refine ⟨q', hq', ⟨hfree, hhead, htail, rfl, ?_, ?_, ?_, ?_⟩, hmax, herror, hpc,
    fun ag => absPc_congr (hheld ag)⟩
  · show (ql.reverse ++ fl ++ [] ++ hl).Perm (List.range q'.maxMsgs)
    rw [hmax, List.append_nil]
    refine List.Perm.trans (List.Perm.append_right hl ?_) h.pool
    exact ((List.reverse_perm ql).append_right fl).trans List.perm_append_comm
  · show Held q'.pc hl
    rw [hpc]
    exact h.held
  · intro ag
    show AgentOk q'.node (q'.pc ag)
    rw [hpc]
    exact (h.agents ag).congr (hheld ag)
  · show q'.maxMsgs ≤ rtMqEntryMax
    rw [hmax]
    exact h.max

/-! ### One event -/

lemma resumeAll_of_wakesNobody {receivers senders : ℕ}
    (h : Ipc.WakesNobody receivers q.suspendThread ∧ Ipc.WakesNobody senders q.suspendSenderThread) :
    resumeAll q receivers senders = q := by
  simp only [resumeAll, h.1.resumeAll, h.2.resumeAll]

lemma link_pc (urgent : Bool) (n : ℕ) : ∃ res, (link q ag urgent n ready).pc ag = .done res := by
  unfold link
  dsimp only
  generalize (if urgent then linkHead q n else linkTail q n) = q₁
  split
  · exact ⟨_, Function.update_self ..⟩
  · exact ⟨_, Function.update_self ..⟩

/-- An agent that comes to wait is in a call that has had no effect. -/
lemma called_of_waits (hs : runAgent enqueue q ag elapsed ready = some q') (hwaits : waits (q'.pc ag) = true) :
    holds (q.pc ag) = none ∧ ∃ op, absPc q.node (q.pc ag) = .called op := by
  unfold runAgent at hs
  cases hpc : q.pc ag with
  | sendEntry buffer timeout => exact ⟨rfl, _, rfl⟩
  | sendWait buffer timeout => exact ⟨rfl, _, rfl⟩
  | recvEntry size timeout => exact ⟨rfl, _, rfl⟩
  | recvWait size timeout => exact ⟨rfl, _, rfl⟩
  | idle =>
    rw [hpc] at hs
    cases hs
  | urgentEntry buffer =>
    simp only [hpc] at hs
    split at hs
    · cases hs
      simp [setPc, waits] at hwaits
    · split at hs <;> cases hs <;> simp [setPc, waits] at hwaits
  | copying urgent buffer msg i =>
    simp only [hpc] at hs
    split at hs <;> cases hs
    · simp [setPc, waits] at hwaits
    · obtain ⟨res, hres⟩ := @link_pc _ _ q ag ready urgent msg
      simp [hres, waits] at hwaits
  | recvCopying msg len buffer =>
    simp only [hpc] at hs
    split at hs <;> cases hs <;> simp [setPc, putFree, waits] at hwaits
  | _ =>
    simp only [hpc] at hs
    cases hs
    simp [setPc, waits] at hwaits

/-- **One event.**  If it wakes nobody by a reset or a detach, it is matched over its label. -/
theorem answers_event {ev : Event Ag} {t : AbsQueue Ag} (hR : Refines M q t) (hfair : Fair failure q.error q.pc)
    (hC : WakesNobody q ev) (hs : eventStep enqueue q ev = some q') :
    Fair failure q'.error q'.pc ∧ ∃ t', Refines M q' t' ∧
      exec (Answers.step (applies M) []) t.answers (eventLabel q ev q') = some t'.answers := by
  cases ev with
  | act a =>
    obtain ⟨t', hexec, hR'⟩ := sim_step hR hs
    exact ⟨fair_step hfair hs, t', hR', answers_exec hexec (negative_label hfair)⟩
  | refused ag elapsed =>
    obtain ⟨fl, ql, hl, h, hM, rfl⟩ := hR
    simp only [eventStep] at hs
    split at hs
    · cases hs
    · rename_i q₁ hrun
      split at hs
      · rename_i hwaits
        cases hs
        obtain ⟨hholds, op, hop⟩ := called_of_waits hrun hwaits
        have herr : Fair failure (setError q ag .eintr).error (setError q ag .eintr).pc :=
          hfair.setError (.inr (by decide)) ag
        have hinv : Inv (setPc (setError q ag .eintr) ag (.done (.err .error))) fl ql hl :=
          h.move rfl rfl rfl rfl rfl rfl rfl hholds.symm trivial
        refine ⟨herr.setPc (failure_of (by decide)) ag, _, ⟨fl, ql, hl, hinv, hM, rfl⟩, ?_⟩
        have hm : Moves q (setPc (setError q ag .eintr) ag (.done (.err .error))) ag (.done (.err .error)) :=
          moves_of_node rfl rfl rfl
        rw [hm.absState ql ql, answers_setPend]
        have hpend : (absState q ql).answers.pend ag = .called op := congrArg AbsPc.answer hop
        exact exec_cons_some (step_fail hpend) []
      · cases hs
  | reset receivers senders =>
    obtain ⟨fl, ql, hl, h, hM, rfl⟩ := hR
    obtain ⟨q₁, hq₁, hinv, hmax, herror, hpc, habs⟩ := inv_releaseAll h
    simp only [eventStep, resumeAll_of_wakesNobody hC, hq₁] at hs
    cases hs
    refine ⟨?_, absState { q₁ with entry := 0 } [], ⟨_, _, _, hinv, hmax.trans hM, rfl⟩, ?_⟩
    · show Fair failure q₁.error q₁.pc
      rw [herror, hpc]
      exact hfair
    · have hpend : (absState { q₁ with entry := 0 } []).pend = (absState q ql).pend := by
        funext ag
        show absPc q₁.node (q₁.pc ag) = absPc q.node (q.pc ag)
        rw [hpc]
        exact habs ag
      show some _ = some _
      unfold AbsQueue.answers
      rw [hpend]
      rfl
  | detach receivers senders =>
    simp only [eventStep, resumeAll_of_wakesNobody hC] at hs
    cases hs
    exact ⟨hfair, t, hR, rfl⟩

/-! ### Whole runs -/

/-- What a call is about to return is right. -/
def Says (pend : Pend AbsOp Msg) : Result → Prop
  | .err e => pend = .failed ∧ e.value < 0
  | res => pend = .effective res.answer

/-- The calls of a message queue say whether they had their effect, in every run in which no reset and no
detach wakes a blocked caller. -/
lemma answers_run (enqueue : List Ag → Ag → List Ag) {msgSize poolSize : ℕ} {garbage : ℕ → MqMessage}
    {q₀ : Mq Ag} (hinit : rtMqInit msgSize poolSize garbage = some q₀) (evs : List (Event Ag))
    (hC : Along (eventStep enqueue) WakesNobody q₀ evs) (hrun : exec (eventStep enqueue) q₀ evs = some q) :
    ∃ t, exec (Answers.step (applies q₀.maxMsgs) []) (Object.init [])
        (observe (eventStep enqueue) eventLabel q₀ evs) = some t ∧
      (∃ ql, Links (fun n => (q.node n).next) q.msgQueueHead ql ∧
        t.value = ql.map fun n => content (q.node n)) ∧
      ∀ ag res, q.pc ag = .done res → Says (t.pend ag) res := by
  have hsim : ∀ (q : Mq Ag) (ev : Event Ag) (q' : Mq Ag) (t : Object Ag AbsOp Msg (List Msg)),
      (Fair failure q.error q.pc ∧ ∃ u, Refines q₀.maxMsgs q u ∧ t = u.answers) → WakesNobody q ev →
      eventStep enqueue q ev = some q' →
      ∃ t', exec (Answers.step (applies q₀.maxMsgs) []) t (eventLabel q ev q') = some t' ∧
        (Fair failure q'.error q'.pc ∧ ∃ u, Refines q₀.maxMsgs q' u ∧ t' = u.answers) := by
    rintro q ev q' t ⟨hfair, u, hR, rfl⟩ hC hs
    obtain ⟨hfair', u', hR', hexec⟩ := answers_event hR hfair hC hs
    exact ⟨_, hexec, hfair', u', hR', rfl⟩
  obtain ⟨t, ht, hfair, u, ⟨fl, ql, hl, h, -, rfl⟩, rfl⟩ := exec_simulates_of_along hsim evs q₀ q
    (Object.init []) ⟨fair_init hinit, _, refines_init hinit, rfl⟩ hC hrun
  refine ⟨_, ht, ⟨ql, h.queue, rfl⟩, fun ag res hpc => ?_⟩
  have hpend : (absState q ql).answers.pend ag = (absPc q.node (.done res)).answer :=
    congrArg (fun pc => (absPc q.node pc).answer) hpc
  cases res with
  | ok => exact hpend
  | bytes buffer => exact hpend
  | err e => exact ⟨hpend, hfair.failed ag e (by rw [hpc]; rfl)⟩

end N32L43x.Mq
