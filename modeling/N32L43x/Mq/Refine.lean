import N32L43x.Mq.Nodes

/-!
The message queue refines the bounded sequence of messages: every step of an agent is matched by the
steps of the specification that its label names.
-/

namespace N32L43x.Mq

open N32L43x.Ipc N32L43x.Lib.Links N32L43x.Lib.Run

variable {Ag : Type*} [DecidableEq Ag] {enqueue : List Ag → Ag → List Ag}
  {q q' : Mq Ag} {fl ql hl : List ℕ} {ag : Ag} {n : ℕ} {pc' : Pc} {t : AbsQueue Ag} {M : ℕ}

/-- The state of the specification: the messages of the queued nodes, and the agents as they are
seen. -/
def absState (q : Mq Ag) (ql : List ℕ) : AbsQueue Ag where
  queue := ql.map fun n => content (q.node n)
  pend ag := absPc q.node (q.pc ag)

/-- **The refinement relation.** -/
def Refines (M : ℕ) (q : Mq Ag) (t : AbsQueue Ag) : Prop :=
  ∃ fl ql hl, Inv q fl ql hl ∧ q.maxMsgs = M ∧ t = absState q ql

/-! ### A step of one agent -/

/-- Only the agent `ag` moves, to `pc'`, and the others are seen as before. -/
structure Moves (q q' : Mq Ag) (ag : Ag) (pc' : Pc) : Prop where
  pcs : q'.pc = Function.update q.pc ag pc'
  other : ∀ ag', ag' ≠ ag → absPc q'.node (q.pc ag') = absPc q.node (q.pc ag')
  max : q'.maxMsgs = q.maxMsgs

lemma moves_of_node (hpcs : q'.pc = Function.update q.pc ag pc') (hnode : q'.node = q.node)
    (hmax : q'.maxMsgs = q.maxMsgs) : Moves q q' ag pc' :=
  ⟨hpcs, fun _ _ => by rw [hnode], hmax⟩

/-- Links may change anywhere, messages only in the node the agent holds. -/
lemma moves_of_content (h : Inv q fl ql hl) (hold : holds (q.pc ag) = some n)
    (hpcs : q'.pc = Function.update q.pc ag pc')
    (hcontent : ∀ x, x ≠ n → content (q'.node x) = content (q.node x))
    (hmax : q'.maxMsgs = q.maxMsgs) : Moves q q' ag pc' := by
  refine ⟨hpcs, fun ag' hne => ?_, hmax⟩
  have hdiff : ∀ m, holds (q.pc ag') = some m → m ≠ n := by
    rintro m hm rfl
    exact hne (h.held.unique ag' ag m hm hold)
  cases hpc : q.pc ag' with
  | recvTaken size msg =>
    rw [hpc] at hdiff
    simp only [absPc, hcontent msg (hdiff msg rfl)]
  | recvCopying msg len buffer =>
    rw [hpc] at hdiff
    simp only [absPc, hcontent msg (hdiff msg rfl)]
  | _ => rfl

/-- The state of the specification after the step. -/
lemma Moves.absState (hm : Moves q q' ag pc') (ql ql' : List ℕ) : absState q' ql' =
    ({ absState q ql with queue := ql'.map fun n => content (q'.node n) }).setPend ag
      (absPc q'.node pc') := by
  have hpend : (fun ag' => absPc q'.node (q'.pc ag')) =
      Function.update (fun ag' => absPc q.node (q.pc ag')) ag (absPc q'.node pc') := by
    funext ag'
    rw [hm.pcs]
    by_cases hag : ag' = ag
    · subst hag
      rw [Function.update_self, Function.update_self]
    · rw [Function.update_of_ne hag, Function.update_of_ne hag]
      exact hm.other ag' hag
  simp only [Mq.absState, AbsQueue.setPend]
  rw [hpend]

lemma Moves.label (hm : Moves q q' ag pc') (elapsed : ℕ) (ready : Bool) :
    label q (.run ag elapsed ready) q' = runLabel ag (q.pc ag) pc' := by
  simp only [Mq.label, hm.pcs, Function.update_self]

/-- The step is matched over its label. -/
def Matched (M : ℕ) (q : Mq Ag) (ql : List ℕ) (a : Action Ag) (q' : Mq Ag) : Prop :=
  ∃ t', exec (absStep M) (absState q ql) (label q a q') = some t' ∧ Refines M q' t'

section Kinds

variable {fl' ql' hl' : List ℕ} {elapsed : ℕ} {ready : Bool}

/-- A step the specification does not see. -/
lemma sim_silent (hm : Moves q q' ag pc') (hinv : Inv q' fl' ql' hl') (hM : q.maxMsgs = M)
    (hx : absPc q'.node pc' = absPc q.node (q.pc ag))
    (hqueue : (ql'.map fun n => content (q'.node n)) = ql.map fun n => content (q.node n))
    (hlabel : runLabel ag (q.pc ag) pc' = []) :
    Matched M q ql (.run ag elapsed ready) q' := by
  have hsame : absState q' ql' = absState q ql := by
    rw [hm.absState ql ql', hqueue, hx]
    simp [AbsQueue.setPend, Mq.absState]
  refine ⟨absState q ql, ?_, fl', ql', hl', hinv, hm.max.trans hM, hsame.symm⟩
  rw [hm.label, hlabel]
  rfl

/-- The moment a call has its effect. -/
lemma sim_commit {op : AbsOp} {res : Result} (hm : Moves q q' ag pc') (hinv : Inv q' fl' ql' hl')
    (hM : q.maxMsgs = M) (hop : absPc q.node (q.pc ag) = .called op)
    (happly : op.apply M (ql.map fun n => content (q.node n)) =
      some (ql'.map (fun n => content (q'.node n)), res))
    (hx : absPc q'.node pc' = .done res)
    (hlabel : runLabel ag (q.pc ag) pc' = [.commit ag]) :
    Matched M q ql (.run ag elapsed ready) q' := by
  refine ⟨absState q' ql', ?_, fl', ql', hl', hinv, hm.max.trans hM, rfl⟩
  have hpend : (absState q ql).pend ag = .called op := hop
  have hstep : absStep M (absState q ql) (.commit ag) = some (absState q' ql') := by
    simp only [absStep, hpend]
    rw [show (absState q ql).queue = ql.map fun n => content (q.node n) from rfl, happly,
      hm.absState ql ql', hx]
    rfl
  rw [hm.label, hlabel, exec_cons_some hstep]
  rfl

/-- A call fails: it has no effect, and the error is what it will return. -/
lemma sim_fail {op : AbsOp} {e : IpcErr} (hm : Moves q q' ag (.done (.err e)))
    (hinv : Inv q' fl' ql hl') (hM : q.maxMsgs = M) (hop : absPc q.node (q.pc ag) = .called op)
    (hqueue : (ql.map fun n => content (q'.node n)) = ql.map fun n => content (q.node n)) :
    Matched M q ql (.run ag elapsed ready) q' := by
  refine ⟨absState q' ql, ?_, fl', ql, hl', hinv, hm.max.trans hM, rfl⟩
  have hlabel : runLabel ag (q.pc ag) (.done (.err e)) = [.fail ag e] := by
    cases hpc : q.pc ag with
    | done res =>
      rw [hpc] at hop
      cases hop
    | _ => rfl
  have hpend : (absState q ql).pend ag = .called op := hop
  have hstep : absStep M (absState q ql) (.fail ag e) = some (absState q' ql) := by
    simp only [absStep, hpend]
    rw [hm.absState ql ql, hqueue]
    rfl
  rw [hm.label, hlabel, exec_cons_some hstep]
  rfl

/-- A step that moves the agent, with at most the waiting lists and errors changed. -/
lemma sim_move (h : Inv q fl ql hl) (hM : q.maxMsgs = M) (hnode : q'.node = q.node)
    (hmax : q'.maxMsgs = q.maxMsgs) (hentry : q'.entry = q.entry)
    (hhead : q'.msgQueueHead = q.msgQueueHead) (htail : q'.msgQueueTail = q.msgQueueTail)
    (hfree : q'.msgQueueFree = q.msgQueueFree) (hpcs : q'.pc = Function.update q.pc ag pc')
    (hholds : holds pc' = holds (q.pc ag)) (hok : AgentOk q.node pc')
    (hx : absPc q.node pc' = absPc q.node (q.pc ag)) (hlabel : runLabel ag (q.pc ag) pc' = []) :
    Matched M q ql (.run ag elapsed ready) q' := by
  refine sim_silent (moves_of_node hpcs hnode hmax)
    (h.move hnode hmax hentry hhead htail hfree hpcs hholds hok) hM ?_ ?_ hlabel
  · rw [hnode]
    exact hx
  · rw [hnode]

/-- The same for a call that fails. -/
lemma sim_refuse {op : AbsOp} {e : IpcErr} (h : Inv q fl ql hl) (hM : q.maxMsgs = M)
    (hnode : q'.node = q.node) (hmax : q'.maxMsgs = q.maxMsgs) (hentry : q'.entry = q.entry)
    (hhead : q'.msgQueueHead = q.msgQueueHead) (htail : q'.msgQueueTail = q.msgQueueTail)
    (hfree : q'.msgQueueFree = q.msgQueueFree)
    (hpcs : q'.pc = Function.update q.pc ag (.done (.err e))) (hholds : holds (q.pc ag) = none)
    (hop : absPc q.node (q.pc ag) = .called op) : Matched M q ql (.run ag elapsed ready) q' := by
  refine sim_fail (moves_of_node hpcs hnode hmax)
    (h.move hnode hmax hentry hhead htail hfree hpcs hholds.symm trivial) hM hop ?_
  rw [hnode]

/-- A step that writes the node the agent holds. -/
lemma sim_write {m : MqMessage} (h : Inv q fl ql hl) (hM : q.maxMsgs = M)
    (hold : holds (q.pc ag) = some n) (hnew : holds pc' = some n)
    (hok : AgentOk (Function.update q.node n m) pc')
    (hx : absPc (Function.update q.node n m) pc' = absPc q.node (q.pc ag))
    (hlabel : runLabel ag (q.pc ag) pc' = []) :
    Matched M q ql (.run ag elapsed ready) (setPc (setNode q n m) ag pc') := by
  obtain ⟨-, hq, -⟩ := h.notMem_of_held hold
  have haway : ∀ x, x ≠ n → content (Function.update q.node n m x) = content (q.node x) :=
    fun x hx => congrArg content (Function.update_of_ne hx _ _)
  refine sim_silent (moves_of_content h hold rfl haway rfl) (h.write hold hnew hok) hM hx ?_ hlabel
  refine List.map_congr_left fun x hxq => haway x ?_
  rintro rfl
  exact hq hxq

end Kinds

/-! ### Sending -/

section Sending

variable {elapsed : ℕ} {ready : Bool} {buffer : Msg} {timeout : ℤ}

/-- The agent is at the entry of a send, or waits in it. -/
def InSend (pc : Pc) (buffer : Msg) : Prop :=
  ∃ timeout, pc = .sendEntry buffer timeout ∨ pc = .sendWait buffer timeout

lemma sim_sendLoop (h : Inv q fl ql hl) (hM : q.maxMsgs = M) (hpc : InSend (q.pc ag) buffer) :
    Matched M q ql (.run ag elapsed ready) (sendLoop enqueue q ag buffer timeout) := by
  have hop : absPc q.node (q.pc ag) = .called (.send buffer) := by
    rcases hpc with ⟨τ, hpc | hpc⟩ <;> rw [hpc] <;> rfl
  have hold : holds (q.pc ag) = none := by
    rcases hpc with ⟨τ, hpc | hpc⟩ <;> rw [hpc] <;> rfl
  unfold sendLoop
  split
  · rename_i n hfree
    have hlabel : runLabel ag (q.pc ag) (.taken false buffer n) = [] := by
      rcases hpc with ⟨τ, hpc | hpc⟩ <;> rw [hpc] <;> rfl
    obtain ⟨fl', hinv⟩ :=
      h.take hfree hold (show holds (.taken false buffer n) = some n from rfl) trivial
    exact sim_silent (moves_of_node rfl rfl rfl) hinv hM hop.symm rfl hlabel
  · dsimp only
    split
    · exact sim_refuse h hM rfl rfl rfl rfl rfl rfl rfl hold hop
    · have hlabel : runLabel ag (q.pc ag) (.sendWait buffer timeout) = [] := by
        rcases hpc with ⟨τ, hpc | hpc⟩ <;> rw [hpc] <;> rfl
      exact sim_move h hM rfl rfl rfl rfl rfl rfl rfl hold.symm trivial hop.symm hlabel

/-- The node is given its length, and the link of a node for the tail is cleared. -/
lemma sim_taken {urgent : Bool} (h : Inv q fl ql hl) (hM : q.maxMsgs = M)
    (hpc : q.pc ag = .taken urgent buffer n) :
    Matched M q ql (.run ag elapsed ready) (setPc (setNode q n { q.node n with
      next := if urgent then (q.node n).next else none, length := buffer.length }) ag
      (.copying urgent buffer n 0)) := by
  refine sim_write h hM (by rw [hpc]; rfl) rfl ?_ (by rw [hpc]; rfl) (by rw [hpc]; rfl)
  simp only [AgentOk, Function.update_self]
  refine ⟨trivial, ?_, Nat.zero_le _, by simp⟩
  rintro rfl
  rfl

/-- One byte is copied into the node. -/
lemma sim_copyIn {urgent : Bool} {i : ℕ} {byte : UInt8} (h : Inv q fl ql hl) (hM : q.maxMsgs = M)
    (hpc : q.pc ag = .copying urgent buffer n i) (hbyte : buffer[i]? = some byte) :
    Matched M q ql (.run ag elapsed ready) (setPc (setNode q n { q.node n with
      data := Function.update (q.node n).data i byte }) ag
      (.copying urgent buffer n (i + 1))) := by
  have hok := h.agents ag
  rw [hpc] at hok
  simp only [AgentOk] at hok
  obtain ⟨hlen, hnext, -, hcopied⟩ := hok
  refine sim_write h hM (by rw [hpc]; rfl) rfl ?_ (by rw [hpc]; rfl) (by rw [hpc]; rfl)
  simp only [AgentOk, Function.update_self]
  refine ⟨hlen, hnext, (List.getElem?_eq_some_iff.mp hbyte).1, ?_⟩
  intro j hj
  by_cases hji : j = i
  · subst hji
    rw [Function.update_self, hbyte]
  · rw [Function.update_of_ne hji]
    exact hcopied j (by omega)

omit [DecidableEq Ag] in
/-- A node whose bytes are all copied holds the message. -/
lemma content_of_copied {urgent : Bool} {i : ℕ} (hok : AgentOk q.node (.copying urgent buffer n i))
    (hend : buffer[i]? = none) : content (q.node n) = buffer := by
  simp only [AgentOk] at hok
  obtain ⟨hlen, -, -, hcopied⟩ := hok
  have hi : buffer.length ≤ i := List.getElem?_eq_none_iff.mp hend
  apply List.ext_getElem?
  intro j
  unfold content
  rcases Nat.lt_or_ge j buffer.length with hj | hj
  · rw [hcopied j (by omega), List.getElem?_map, List.getElem?_range (by omega)]
    rfl
  · rw [List.getElem?_eq_none hj, List.getElem?_eq_none]
    rw [List.length_map, List.length_range, hlen]
    exact hj

omit [DecidableEq Ag] in
/-- What the two ways of linking have in common: the queue has one node more, no other node on the
free list or in somebody's hands changes, and no message does. -/
lemma link_spec (h : Inv q fl ql hl) (hold : holds (q.pc ag) = some n) (urgent : Bool)
    (hnext : urgent = false → (q.node n).next = none) :
    let Q := if urgent then linkHead q n else linkTail q n
    let ql' := if urgent then n :: ql else ql ++ [n]
    Links (fun x => (Q.node x).next) Q.msgQueueHead ql' ∧ Q.msgQueueTail = ql'.getLast? ∧
      (∀ x, x ∈ fl ∨ x ∈ hl → x ≠ n → Q.node x = q.node x) ∧
      (∀ x, content (Q.node x) = content (q.node x)) ∧
      Q.msgQueueFree = q.msgQueueFree ∧ Q.entry = q.entry ∧ Q.maxMsgs = q.maxMsgs ∧
      Q.pc = q.pc := by
  cases urgent with
  | true =>
    obtain ⟨hlinks, htail, haway, hcontent⟩ := linkHead_spec h hold
    exact ⟨hlinks, htail, fun x _ hx => haway x hx, hcontent, rfl, rfl, rfl, rfl⟩
  | false =>
    obtain ⟨hlinks, htail, haway, hcontent⟩ := linkTail_spec h hold (hnext rfl)
    have hnodup := h.nodup
    rw [List.nodup_append, List.nodup_append] at hnodup
    have hnot : ∀ x, x ∈ fl ∨ x ∈ hl → x ∉ ql := by
      rintro x (hx | hx) hxq
      · exact hnodup.1.2.2 x hx x hxq rfl
      · exact hnodup.2.2 x (List.mem_append_right _ hxq) x hx rfl
    refine ⟨hlinks, ?_, fun x hx _ => haway x (hnot x hx), hcontent, ?_, ?_, ?_, ?_⟩
    · simpa using htail
    all_goals
      simp only [linkTail]
      cases q.msgQueueTail <;> rfl

lemma dequeueReceiver_fields (q : Mq Ag) (ready : Bool) :
    (dequeueReceiver q ready).node = q.node ∧ (dequeueReceiver q ready).maxMsgs = q.maxMsgs ∧
      (dequeueReceiver q ready).entry = q.entry ∧
      (dequeueReceiver q ready).msgQueueHead = q.msgQueueHead ∧
      (dequeueReceiver q ready).msgQueueTail = q.msgQueueTail ∧
      (dequeueReceiver q ready).msgQueueFree = q.msgQueueFree ∧
      (dequeueReceiver q ready).pc = q.pc := by
  unfold dequeueReceiver
  split
  · exact ⟨rfl, rfl, rfl, rfl, rfl, rfl, rfl⟩
  · split <;> exact ⟨rfl, rfl, rfl, rfl, rfl, rfl, rfl⟩

omit [DecidableEq Ag] in
/-- A node in somebody's hands leaves room in the queue. -/
lemma length_lt_max (h : Inv q fl ql hl) (hold : holds (q.pc ag) = some n) :
    ql.length < q.maxMsgs := by
  obtain ⟨-, -, hmem⟩ := h.notMem_of_held hold
  have hlen := h.pool.length_eq
  rw [List.length_append, List.length_append, List.length_range] at hlen
  have hpos := List.length_pos_of_mem hmem
  omega

/-- **The filled node is linked**: the moment a send has its effect. -/
lemma sim_link {urgent : Bool} {i : ℕ} (h : Inv q fl ql hl) (hM : q.maxMsgs = M)
    (hpc : q.pc ag = .copying urgent buffer n i) (hend : buffer[i]? = none) :
    Matched M q ql (.run ag elapsed ready) (link q ag urgent n ready) := by
  have hold : holds (q.pc ag) = some n := by rw [hpc]; rfl
  have hok := h.agents ag
  rw [hpc] at hok
  have hcontent := content_of_copied hok hend
  simp only [AgentOk] at hok
  have hspec := link_spec h hold urgent hok.2.1
  dsimp only at hspec
  unfold link
  set Q := if urgent then linkHead q n else linkTail q n with hQ
  set ql' := if urgent then n :: ql else ql ++ [n] with hql'
  obtain ⟨hlinks, htail, hsame, hcontents, hfree, hentry, hmax, hpcs⟩ := hspec
  have hroom := length_lt_max h hold
  have hmaxle := h.max
  have hcount : Q.entry < rtMqEntryMax := by
    rw [hentry, h.entry]
    omega
  rw [if_pos hcount]
  obtain ⟨fnode, fmax, fentry, fhead, ftail, ffree, fpc⟩ :=
    dequeueReceiver_fields { Q with entry := Q.entry + 1 } ready
  -- from here on only these fields of the new state matter
  obtain ⟨q', hq', gnode, gmax, gentry, ghead, gtail, gfree, gpc⟩ : ∃ q',
      setPc (dequeueReceiver { Q with entry := Q.entry + 1 } ready) ag (.done .ok) = q' ∧
      q'.node = Q.node ∧ q'.maxMsgs = q.maxMsgs ∧ q'.entry = q.entry + 1 ∧
      q'.msgQueueHead = Q.msgQueueHead ∧ q'.msgQueueTail = Q.msgQueueTail ∧
      q'.msgQueueFree = q.msgQueueFree ∧ q'.pc = Function.update q.pc ag (.done .ok) :=
    ⟨_, rfl, fnode, fmax.trans hmax, fentry.trans (congrArg (· + 1) hentry), fhead, ftail,
      ffree.trans hfree, congrArg (Function.update · ag _) (fpc.trans hpcs)⟩
  rw [hq']
  obtain ⟨hnf, -, -⟩ := h.notMem_of_held hold
  have hlength : ql'.length = ql.length + 1 := by
    rw [hql']
    split <;> simp
  have hcontents' : ∀ x, content (q'.node x) = content (q.node x) := by
    intro x
    rw [gnode]
    exact hcontents x
  have hinv : Inv q' fl ql' (hl.erase n) := by
    refine h.relink hold (show holds (.done .ok) = none from rfl) trivial ?_ ?_ ?_ ?_ ?_ gmax gpc ?_
    · rw [gnode, gfree]
      refine h.free.congr fun x hx => ?_
      have hxn : x ≠ n := by
        rintro rfl
        exact hnf hx
      exact congrArg MqMessage.next (hsame x (.inl hx) hxn)
    · rw [gnode, ghead]
      exact hlinks
    · rw [gtail]
      exact htail
    · rw [gentry, h.entry, hlength]
    · rw [hql']
      split
      · exact List.perm_middle
      · rw [← List.append_assoc]
        exact List.perm_append_singleton _ _
    · intro x hx hxn
      rw [gnode]
      exact hsame x (.inr hx) hxn
  refine sim_commit (moves_of_content h hold gpc (fun x _ => hcontents' x) gmax) hinv hM
    (show absPc q.node (q.pc ag) = .called (if urgent then .urgent buffer else .send buffer) by
      rw [hpc]; rfl) ?_ rfl (by rw [hpc]; rfl)
  have hlt : ql.length < M := by rw [← hM]; exact hroom
  have hmap : (ql'.map fun x => content (q'.node x)) = ql'.map fun x => content (q.node x) :=
    List.map_congr_left fun x _ => hcontents' x
  rw [hmap, hql']
  cases urgent with
  | true => simp [AbsOp.apply, hlt, hcontent]
  | false => simp [AbsOp.apply, hlt, hcontent]

end Sending

/-! ### Receiving -/

section Receiving

variable {elapsed : ℕ} {ready : Bool} {size : ℕ} {timeout : ℤ}

/-- The agent is at the entry of a receive, or waits in it. -/
def InRecv (pc : Pc) (size : ℕ) : Prop :=
  ∃ timeout, pc = .recvEntry size timeout ∨ pc = .recvWait size timeout

/-- **The head of the queue is unlinked**: the moment a receive has its effect. -/
lemma sim_unlink (h : Inv q fl ql hl) (hM : q.maxMsgs = M) (hpc : InRecv (q.pc ag) size)
    (hentry : q.entry ≠ 0) (hhead : q.msgQueueHead = some n) :
    Matched M q ql (.run ag elapsed ready)
      (setPc { q with
        msgQueueHead := (q.node n).next
        msgQueueTail := if q.msgQueueTail = some n then none else q.msgQueueTail
        entry := if q.entry > 0 then q.entry - 1 else q.entry } ag (.recvTaken size n)) := by
  have hop : absPc q.node (q.pc ag) = .called (.recv size) := by
    rcases hpc with ⟨τ, hpc | hpc⟩ <;> rw [hpc] <;> rfl
  have hold : holds (q.pc ag) = none := by
    rcases hpc with ⟨τ, hpc | hpc⟩ <;> rw [hpc] <;> rfl
  have hlabel : runLabel ag (q.pc ag) (.recvTaken size n) = [.commit ag] := by
    rcases hpc with ⟨τ, hpc | hpc⟩ <;> rw [hpc] <;> rfl
  have hlinks := h.queue
  have htail := h.tail
  have hcount := h.entry
  cases ql with
  | nil => exact absurd hcount hentry
  | cons x ql =>
    obtain ⟨hx, hrest⟩ := hlinks
    rw [hhead] at hx
    obtain rfl := Option.some.inj hx
    have hnodup := h.nodup
    have hdis := List.nodup_append.mp hnodup
    have hnq : n ∉ ql := by
      have := (List.nodup_append.mp hdis.1).2.1
      exact (List.nodup_cons.mp this).1
    have hnh : n ∉ hl := by
      intro hmem
      exact hdis.2.2 n (by simp) n hmem rfl
    have hinv : Inv (setPc { q with
        msgQueueHead := (q.node n).next
        msgQueueTail := if q.msgQueueTail = some n then none else q.msgQueueTail
        entry := if q.entry > 0 then q.entry - 1 else q.entry } ag (.recvTaken size n))
        fl ql (n :: hl) := by
      refine ⟨h.free, hrest, ?_, ?_, ?_, h.held.acquire hold rfl hnh,
        h.agents_update (fun _ _ _ _ => rfl) trivial, h.max⟩
      · show (if q.msgQueueTail = some n then none else q.msgQueueTail) = ql.getLast?
        rw [htail]
        cases ql with
        | nil => exact if_pos rfl
        | cons y ql =>
          rw [List.getLast?_cons_cons, if_neg]
          intro hlast
          exact hnq (List.mem_of_getLast? hlast)
      · show (if q.entry > 0 then q.entry - 1 else q.entry) = _
        rw [if_pos (by omega), hcount]
        rfl
      · refine List.Perm.trans ?_ h.pool
        have hmid : (fl ++ ql ++ n :: hl).Perm (n :: (fl ++ ql ++ hl)) := List.perm_middle
        refine hmid.trans ?_
        rw [List.append_assoc, List.append_assoc, List.cons_append]
        exact List.perm_middle.symm
    exact sim_commit (moves_of_node rfl rfl rfl) hinv hM hop rfl rfl hlabel

lemma sim_recvLoop (h : Inv q fl ql hl) (hM : q.maxMsgs = M) (hpc : InRecv (q.pc ag) size)
    (hs : recvLoop enqueue q ag size timeout = some q') :
    Matched M q ql (.run ag elapsed ready) q' := by
  have hop : absPc q.node (q.pc ag) = .called (.recv size) := by
    rcases hpc with ⟨τ, hpc | hpc⟩ <;> rw [hpc] <;> rfl
  have hold : holds (q.pc ag) = none := by
    rcases hpc with ⟨τ, hpc | hpc⟩ <;> rw [hpc] <;> rfl
  unfold recvLoop at hs
  split at hs
  · dsimp only at hs
    split at hs
    · cases hs
      exact sim_refuse h hM rfl rfl rfl rfl rfl rfl rfl hold hop
    · cases hs
      have hlabel : runLabel ag (q.pc ag) (.recvWait size timeout) = [] := by
        rcases hpc with ⟨τ, hpc | hpc⟩ <;> rw [hpc] <;> rfl
      exact sim_move h hM rfl rfl rfl rfl rfl rfl rfl hold.symm trivial hop.symm hlabel
  · rename_i hentry
    split at hs
    · cases hs
    · rename_i n hhead
      cases hs
      exact sim_unlink h hM hpc hentry hhead

lemma length_content (m : MqMessage) : (content m).length = m.length := by simp [content]

lemma sim_recvTaken (h : Inv q fl ql hl) (hM : q.maxMsgs = M) (hpc : q.pc ag = .recvTaken size n) :
    Matched M q ql (.run ag elapsed ready) (setPc q ag (.recvCopying n
      (if (q.node n).length > size then size else (q.node n).length) [])) := by
  refine sim_move h hM rfl rfl rfl rfl rfl rfl rfl (by rw [hpc]; rfl) ?_ ?_ (by rw [hpc]; rfl)
  · simp only [AgentOk]
    refine ⟨?_, Nat.zero_le _, rfl⟩
    split <;> omega
  · rw [hpc]
    simp only [absPc]
    split
    · rfl
    · -- the buffer has room for the whole message
      have hlen := length_content (q.node n)
      rw [List.take_of_length_le (by omega), List.take_of_length_le (by omega)]

lemma sim_copyOut {len : ℕ} {buffer : Msg} (h : Inv q fl ql hl) (hM : q.maxMsgs = M)
    (hpc : q.pc ag = .recvCopying n len buffer) (hlt : buffer.length < len) :
    Matched M q ql (.run ag elapsed ready) (setPc q ag (.recvCopying n len
      (buffer ++ [(q.node n).data buffer.length]))) := by
  have hok := h.agents ag
  rw [hpc] at hok
  simp only [AgentOk] at hok
  obtain ⟨hlen, -, hcopied⟩ := hok
  refine sim_move h hM rfl rfl rfl rfl rfl rfl rfl (by rw [hpc]; rfl) ?_ (by rw [hpc]; rfl)
    (by rw [hpc]; rfl)
  simp only [AgentOk, List.length_append, List.length_singleton]
  refine ⟨hlen, hlt, ?_⟩
  have hget : (content (q.node n))[buffer.length]? = some ((q.node n).data buffer.length) := by
    unfold content
    rw [List.getElem?_map, List.getElem?_range (by omega)]
    rfl
  rw [List.take_add_one, hget, ← hcopied]
  rfl

lemma dequeueSender_fields (q : Mq Ag) (ready : Bool) :
    (dequeueSender q ready).node = q.node ∧ (dequeueSender q ready).maxMsgs = q.maxMsgs ∧
      (dequeueSender q ready).entry = q.entry ∧
      (dequeueSender q ready).msgQueueHead = q.msgQueueHead ∧
      (dequeueSender q ready).msgQueueTail = q.msgQueueTail ∧
      (dequeueSender q ready).msgQueueFree = q.msgQueueFree ∧
      (dequeueSender q ready).pc = q.pc := by
  unfold dequeueSender
  split
  · exact ⟨rfl, rfl, rfl, rfl, rfl, rfl, rfl⟩
  · split <;> exact ⟨rfl, rfl, rfl, rfl, rfl, rfl, rfl⟩

/-- The node goes back to the free list, and the receive returns the bytes it has copied. -/
lemma sim_putFree {len : ℕ} {buffer : Msg} (h : Inv q fl ql hl) (hM : q.maxMsgs = M)
    (hpc : q.pc ag = .recvCopying n len buffer) (hend : ¬ buffer.length < len) :
    Matched M q ql (.run ag elapsed ready) (putFree q ag n buffer ready) := by
  have hold : holds (q.pc ag) = some n := by rw [hpc]; rfl
  have hok := h.agents ag
  rw [hpc] at hok
  simp only [AgentOk] at hok
  obtain ⟨-, hle, hcopied⟩ := hok
  obtain rfl : len = buffer.length := by omega
  obtain ⟨hnf, hnq, -⟩ := h.notMem_of_held hold
  set Q := setNode q n { q.node n with next := q.msgQueueFree } with hQ
  have haway : ∀ x, x ≠ n → Q.node x = q.node x := fun x hx => Function.update_of_ne hx _ _
  obtain ⟨fnode, fmax, fentry, fhead, ftail, ffree, fpc⟩ :=
    dequeueSender_fields { Q with msgQueueFree := some n } ready
  obtain ⟨q', hq', gnode, gmax, gentry, ghead, gtail, gfree, gpc⟩ : ∃ q',
      putFree q ag n buffer ready = q' ∧
      q'.node = Q.node ∧ q'.maxMsgs = q.maxMsgs ∧ q'.entry = q.entry ∧
      q'.msgQueueHead = q.msgQueueHead ∧ q'.msgQueueTail = q.msgQueueTail ∧
      q'.msgQueueFree = some n ∧ q'.pc = Function.update q.pc ag (.done (.bytes buffer)) :=
    ⟨_, rfl, fnode, fmax, fentry, fhead, ftail, ffree, congrArg (Function.update · ag _) fpc⟩
  rw [hq']
  have hnext : ∀ l : List ℕ, n ∉ l → ∀ x ∈ l, (Q.node x).next = (q.node x).next := by
    intro l hl x hx
    have hxn : x ≠ n := by
      rintro rfl
      exact hl hx
    rw [haway x hxn]
  have hinv : Inv q' (n :: fl) ql (hl.erase n) := by
    refine h.relink hold (show holds (.done (.bytes buffer)) = none from rfl) trivial ?_ ?_ ?_ ?_
      (List.Perm.refl _) gmax gpc ?_
    · rw [gnode, gfree]
      refine h.free.push ?_ (hnext fl hnf)
      simp [hQ, setNode]
    · rw [gnode, ghead]
      exact h.queue.congr (hnext ql hnq)
    · rw [gtail]
      exact h.tail
    · rw [gentry]
      exact h.entry
    · intro x _ hxn
      rw [gnode]
      exact haway x hxn
  refine sim_silent (moves_of_content h hold gpc ?_ gmax) hinv hM ?_ ?_ (by rw [hpc]; rfl)
  · intro x hx
    rw [gnode, haway x hx]
  · rw [hpc]
    simp only [absPc]
    rw [← hcopied]
  · refine List.map_congr_left fun x hx => ?_
    have hxn : x ≠ n := by
      rintro rfl
      exact hnq hx
    rw [gnode, haway x hxn]

end Receiving

/-! ### Every step -/

lemma sim_run {elapsed : ℕ} {ready : Bool} (h : Inv q fl ql hl) (hM : q.maxMsgs = M)
    (hs : runAgent enqueue q ag elapsed ready = some q') :
    Matched M q ql (.run ag elapsed ready) q' := by
  unfold runAgent at hs
  cases hpc : q.pc ag with
  | idle =>
    rw [hpc] at hs
    cases hs
  | sendEntry buffer timeout =>
    have hop : absPc q.node (q.pc ag) = .called (.send buffer) := by rw [hpc]; rfl
    have hold : holds (q.pc ag) = none := by rw [hpc]; rfl
    simp only [hpc] at hs
    split at hs
    · cases hs
      exact sim_refuse h hM rfl rfl rfl rfl rfl rfl rfl hold hop
    · split at hs
      · cases hs
        exact sim_refuse h hM rfl rfl rfl rfl rfl rfl rfl hold hop
      · cases hs
        exact sim_sendLoop h hM ⟨timeout, .inl hpc⟩
  | sendWait buffer timeout =>
    have hop : absPc q.node (q.pc ag) = .called (.send buffer) := by rw [hpc]; rfl
    have hold : holds (q.pc ag) = none := by rw [hpc]; rfl
    simp only [hpc] at hs
    split at hs
    · cases hs
    · split at hs
      · cases hs
        exact sim_refuse h hM rfl rfl rfl rfl rfl rfl rfl hold hop
      · cases hs
        exact sim_sendLoop h hM ⟨timeout, .inr hpc⟩
  | urgentEntry buffer =>
    have hop : absPc q.node (q.pc ag) = .called (.urgent buffer) := by rw [hpc]; rfl
    have hold : holds (q.pc ag) = none := by rw [hpc]; rfl
    simp only [hpc] at hs
    split at hs
    · cases hs
      exact sim_refuse h hM rfl rfl rfl rfl rfl rfl rfl hold hop
    · split at hs
      · cases hs
        exact sim_refuse h hM rfl rfl rfl rfl rfl rfl rfl hold hop
      · rename_i n hfree
        cases hs
        obtain ⟨fl', hinv⟩ :=
          h.take hfree hold (show holds (.taken true buffer n) = some n from rfl) trivial
        exact sim_silent (moves_of_node rfl rfl rfl) hinv hM hop.symm rfl (by rw [hpc]; rfl)
  | taken urgent buffer n =>
    simp only [hpc] at hs
    cases hs
    exact sim_taken h hM hpc
  | copying urgent buffer n i =>
    simp only [hpc] at hs
    split at hs
    · rename_i byte hbyte
      cases hs
      exact sim_copyIn h hM hpc hbyte
    · rename_i hend
      cases hs
      exact sim_link h hM hpc hend
  | recvEntry size timeout =>
    simp only [hpc] at hs
    split at hs
    · cases hs
      have hop : absPc q.node (q.pc ag) = .called (.recv size) := by rw [hpc]; rfl
      exact sim_refuse h hM rfl rfl rfl rfl rfl rfl rfl (by rw [hpc]; rfl) hop
    · exact sim_recvLoop h hM ⟨timeout, .inl hpc⟩ hs
  | recvWait size timeout =>
    simp only [hpc] at hs
    split at hs
    · cases hs
    · split at hs
      · cases hs
        have hop : absPc q.node (q.pc ag) = .called (.recv size) := by rw [hpc]; rfl
        exact sim_refuse h hM rfl rfl rfl rfl rfl rfl rfl (by rw [hpc]; rfl) hop
      · exact sim_recvLoop h hM ⟨timeout, .inr hpc⟩ hs
  | recvTaken size n =>
    simp only [hpc] at hs
    cases hs
    exact sim_recvTaken h hM hpc
  | recvCopying n len buffer =>
    simp only [hpc] at hs
    split at hs
    · rename_i hlt
      cases hs
      exact sim_copyOut h hM hpc hlt
    · rename_i hend
      cases hs
      exact sim_putFree h hM hpc hend
  | done res =>
    simp only [hpc] at hs
    cases hs
    have hinv : Inv (setPc q ag .idle) fl ql hl := h.setPc (by rw [hpc]; rfl) trivial
    have hm : Moves q (setPc q ag .idle) ag .idle := moves_of_node rfl rfl rfl
    refine ⟨absState (setPc q ag .idle) ql, ?_, fl, ql, hl, hinv, hM, rfl⟩
    have hpend : (absState q ql).pend ag = .done res := by
      simp only [Mq.absState, hpc]
      rfl
    have hstep : absStep M (absState q ql) (.ret ag res) = some (absState (setPc q ag .idle) ql) := by
      simp only [absStep, hpend, if_true]
      rw [hm.absState ql ql]
      rfl
    rw [hm.label, hpc]
    exact exec_cons_some hstep []

/-- **One step.**  It is matched by the specification over its label. -/
theorem sim_step {a : Action Ag} (hR : Refines M q t) (hs : step enqueue q a = some q') :
    ∃ t', exec (absStep M) t (label q a q') = some t' ∧ Refines M q' t' := by
  obtain ⟨fl, ql, hl, h, hM, rfl⟩ := hR
  cases a with
  | run ag elapsed ready => exact sim_run h hM hs
  | call ag op =>
    simp only [step] at hs
    split at hs
    · rename_i hidle
      cases hs
      have hinv : Inv (setPc q ag (entryPc op)) fl ql hl := by
        refine h.setPc ?_ ?_
        · rw [hidle]
          cases op <;> rfl
        · cases op <;> trivial
      have hm : Moves q (setPc q ag (entryPc op)) ag (entryPc op) := moves_of_node rfl rfl rfl
      refine ⟨absState (setPc q ag (entryPc op)) ql, ?_, fl, ql, hl, hinv, hM, rfl⟩
      have hpend : (absState q ql).pend ag = .idle := by
        simp only [Mq.absState, hidle]
        rfl
      have hstep : absStep M (absState q ql) (.call ag op.abs) =
          some (absState (setPc q ag (entryPc op)) ql) := by
        simp only [absStep, hpend]
        rw [hm.absState ql ql]
        cases op <;> rfl
      exact exec_cons_some hstep []
    · cases hs
  | expire ag =>
    simp only [step] at hs
    split at hs
    · cases hs
      exact ⟨absState q ql, rfl, fl, ql, hl, h.congr rfl rfl rfl rfl rfl rfl rfl, hM, rfl⟩
    · cases hs

/-! ### The start -/

omit [DecidableEq Ag] in
/-- The nodes `0 .. k - 1` put on the free list, the last one first. -/
lemma initNode_foldl (q : Mq Ag) (hfree : q.msgQueueFree = none) : ∀ k,
    ((List.range k).foldl initNode q).msgQueueHead = q.msgQueueHead ∧
    ((List.range k).foldl initNode q).msgQueueTail = q.msgQueueTail ∧
    ((List.range k).foldl initNode q).entry = q.entry ∧
    ((List.range k).foldl initNode q).maxMsgs = q.maxMsgs ∧
    ((List.range k).foldl initNode q).pc = q.pc ∧
    Links (fun n => (((List.range k).foldl initNode q).node n).next)
      ((List.range k).foldl initNode q).msgQueueFree (List.range k).reverse
  | 0 => ⟨rfl, rfl, rfl, rfl, rfl, hfree⟩
  | k + 1 => by
    obtain ⟨hhead, htail, hentry, hmax, hpc, hlinks⟩ := initNode_foldl q hfree k
    rw [List.range_succ, List.foldl_append, List.reverse_append]
    refine ⟨hhead, htail, hentry, hmax, hpc, ?_⟩
    refine hlinks.push ?_ ?_
    · simp [initNode]
    · intro x hx
      have hxk : x ≠ k := by
        have : x < k := by simpa using hx
        omega
      simp [initNode, Function.update_of_ne hxk]

omit [DecidableEq Ag] in
lemma refines_init {msgSize poolSize : ℕ} {garbage : ℕ → MqMessage}
    (h : rtMqInit msgSize poolSize garbage = some q) :
    Refines q.maxMsgs q ⟨[], fun _ => .idle⟩ := by
  unfold rtMqInit at h
  dsimp only at h
  split at h
  · cases h
  · obtain rfl := Option.some.inj h
    set maxMsgs := poolSize / (rtAlign msgSize + sizeofMqMessage) % 65536 with hmaxMsgs
    have hmax : maxMsgs < 65536 := Nat.mod_lt _ (by decide)
    obtain ⟨fhead, ftail, fentry, fmax, fpc, flinks⟩ := initNode_foldl
      { node := garbage, msgSize := msgSize % 65536, maxMsgs := maxMsgs, entry := 0
        msgQueueHead := none, msgQueueTail := none, msgQueueFree := none
        suspendThread := [], suspendSenderThread := []
        error := fun _ => .eok, pc := fun _ : Ag => .idle } rfl maxMsgs
    refine ⟨(List.range maxMsgs).reverse, [], [], ⟨flinks, fhead, ftail, fentry, ?_, ?_, ?_, ?_⟩,
      rfl, ?_⟩
    · rw [fmax, List.append_nil, List.append_nil]
      exact List.reverse_perm _
    · rw [fpc]
      exact ⟨by simp [holds], by simp [holds]⟩
    · rw [fpc]
      exact fun _ => trivial
    · rw [fmax]
      exact Nat.le_of_lt_succ hmax
    · simp only [Mq.absState, fpc, List.map_nil]
      rfl

/-! ### Whole runs -/

/-- **The message queue is a bounded sequence of messages.**  What any agents see of any run, the
starts and returns of their calls, is a run of the specification, in which a send appends its
message, an urgent send prepends it, and a receive removes the head and delivers its bytes up to the
size of the buffer, each at one moment of the call; and at every moment `entry` is the length of the
sequence, and the free nodes, the queued nodes and the nodes in the hands of senders and receivers
are all the nodes of the pool. -/
theorem mq_refines (enqueue : List Ag → Ag → List Ag) {msgSize poolSize : ℕ}
    {garbage : ℕ → MqMessage} {q₀ : Mq Ag} (hinit : rtMqInit msgSize poolSize garbage = some q₀)
    (as : List (Action Ag)) (hrun : exec (step enqueue) q₀ as = some q) :
    ∃ t, exec (absStep q₀.maxMsgs) ⟨[], fun _ => .idle⟩ (observe (step enqueue) label q₀ as)
        = some t ∧
      q.entry = t.queue.length ∧
      ∃ fl ql hl, Links (fun n => (q.node n).next) q.msgQueueFree fl ∧
        Links (fun n => (q.node n).next) q.msgQueueHead ql ∧
        t.queue = (ql.map fun n => content (q.node n)) ∧
        (∀ n, n ∈ hl ↔ ∃! ag, holds (q.pc ag) = some n) ∧
        (fl ++ ql ++ hl).Nodup ∧ fl.length + ql.length + hl.length = q₀.maxMsgs := by
  have hsim : ∀ (s : Mq Ag) (a : Action Ag) (s' : Mq Ag) (t : AbsQueue Ag),
      Refines q₀.maxMsgs s t → step enqueue s a = some s' →
      ∃ t', exec (absStep q₀.maxMsgs) t (label s a s') = some t' ∧ Refines q₀.maxMsgs s' t' :=
    fun _ _ _ _ hR hs => sim_step hR hs
  obtain ⟨t, ht, fl, ql, hl, h, hM, rfl⟩ :=
    exec_simulates hsim as q₀ q _ (refines_init hinit) hrun
  refine ⟨_, ht, ?_, fl, ql, hl, h.free, h.queue, rfl, ?_, h.nodup, ?_⟩
  · rw [h.entry]
    simp [Mq.absState]
  · intro n
    rw [h.held.mem_iff]
    constructor
    · rintro ⟨ag, hag⟩
      exact ⟨ag, hag, fun ag' hag' => h.held.unique ag' ag n hag' hag⟩
    · rintro ⟨ag, hag, -⟩
      exact ⟨ag, hag⟩
  · have hlen := h.pool.length_eq
    rw [List.length_append, List.length_append, List.length_range, hM] at hlen
    exact hlen

/-- One agent sends a message of two bytes and receives it into a buffer of one byte. -/
def shortRecv : List (Action Unit) :=
  .call () (.send [1, 2] 0) :: List.replicate 6 (.run () 0 true) ++
    .call () (.recv 1 0) :: List.replicate 4 (.run () 0 true)

/-- A queue of four messages of eight bytes. -/
theorem mq_refines_short :
    ∃ q₀ q, rtMqInit 8 64 (fun _ => ⟨none, 0, fun _ => 0⟩) = some q₀ ∧
      exec (step fun l ag => l ++ [ag]) q₀ shortRecv = some q ∧
      ∃ t, exec (absStep q₀.maxMsgs) ⟨[], fun _ => .idle⟩
          (observe (step fun l ag => l ++ [ag]) label q₀ shortRecv) = some t ∧
        q.entry = t.queue.length := by
  have hrun : ∀ q₀ ∈ rtMqInit 8 64 (fun _ => ⟨none, 0, fun _ => 0⟩),
      (exec (step fun l ag => l ++ [ag]) q₀ shortRecv).isSome := by decide +kernel
  obtain ⟨q₀, hq₀⟩ := Option.isSome_iff_exists.mp
    (show (@rtMqInit Unit 8 64 fun _ => ⟨none, 0, fun _ => 0⟩).isSome by decide +kernel)
  obtain ⟨q, hq⟩ := Option.isSome_iff_exists.mp (hrun q₀ hq₀)
  obtain ⟨t, ht, hentry, -⟩ := mq_refines _ hq₀ shortRecv hq
  exact ⟨q₀, q, hq₀, hq, t, ht, hentry⟩

/-- A receive with a buffer shorter than the message delivers its first bytes only: the message sent
is `[1, 2]`, what is received is `[1]`, and the rest is gone with the node. -/
theorem recv_truncates :
    ∃ q₀ q, rtMqInit 8 64 (fun _ => ⟨none, 0, fun _ => 0⟩) = some q₀ ∧
      exec (step fun l ag => l ++ [ag]) q₀ shortRecv = some q ∧
      q.pc () = .done (.bytes [1]) ∧ q.entry = 0 := by
  have hrun : ∀ q₀ ∈ rtMqInit 8 64 (fun _ => ⟨none, 0, fun _ => 0⟩),
      ∃ q ∈ exec (step fun l ag => l ++ [ag]) q₀ shortRecv,
        q.pc () = .done (.bytes [1]) ∧ q.entry = 0 := by decide +kernel
  obtain ⟨q₀, hq₀⟩ := Option.isSome_iff_exists.mp
    (show (@rtMqInit Unit 8 64 fun _ => ⟨none, 0, fun _ => 0⟩).isSome by decide +kernel)
  obtain ⟨q, hq, hres⟩ := hrun q₀ hq₀
  exact ⟨q₀, q, hq₀, hq, hres⟩

end N32L43x.Mq
