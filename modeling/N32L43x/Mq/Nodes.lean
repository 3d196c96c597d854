import Mathlib.Data.List.Perm.Basic
import Mathlib.Data.List.Nodup
import N32L43x.Lib.Links
import N32L43x.Mq.Spec

/-!
The nodes of a message queue.  At every moment each node is on the free list, on the queue, or in the
hands of exactly one agent that fills it or reads it; so what an agent does outside the lock touches
no node of anybody else.
-/

namespace N32L43x.Mq

open N32L43x.Ipc N32L43x.Lib.Links

variable {Ag : Type*} [DecidableEq Ag]

/-- The message in a node. -/
def content (m : MqMessage) : Msg := (List.range m.length).map m.data

/-- The node in the hands of an agent. -/
def holds : Pc → Option ℕ
  | .taken _ _ msg => some msg
  | .copying _ _ msg _ => some msg
  | .recvTaken _ msg => some msg
  | .recvCopying msg _ _ => some msg
  | _ => none

/-- What an agent has made of its node so far: the bytes copied in, or the bytes copied out. -/
def AgentOk (node : ℕ → MqMessage) : Pc → Prop
  | .copying urgent buffer msg i =>
    (node msg).length = buffer.length ∧ (urgent = false → (node msg).next = none) ∧
      i ≤ buffer.length ∧ ∀ j < i, buffer[j]? = some ((node msg).data j)
  | .recvCopying msg len buffer =>
    len ≤ (node msg).length ∧ buffer.length ≤ len ∧
      buffer = (content (node msg)).take buffer.length
  | _ => True

/-- The agent as the specification sees it. -/
def absPc (node : ℕ → MqMessage) : Pc → AbsPc
  | .idle => .idle
  | .sendEntry buffer _ => .called (.send buffer)
  | .sendWait buffer _ => .called (.send buffer)
  | .urgentEntry buffer => .called (.urgent buffer)
  | .taken urgent buffer _ => .called (if urgent then .urgent buffer else .send buffer)
  | .copying urgent buffer _ _ => .called (if urgent then .urgent buffer else .send buffer)
  | .recvEntry size _ => .called (.recv size)
  | .recvWait size _ => .called (.recv size)
  | .recvTaken size msg => .done (.bytes ((content (node msg)).take size))
  | .recvCopying msg len _ => .done (.bytes ((content (node msg)).take len))
  | .done res => .done res

/-- The nodes in the hands of the agents, each of exactly one. -/
structure Held (pc : Ag → Pc) (hl : List ℕ) : Prop where
  mem_iff : ∀ n, n ∈ hl ↔ ∃ ag, holds (pc ag) = some n
  unique : ∀ ag ag' n, holds (pc ag) = some n → holds (pc ag') = some n → ag = ag'

/-- The lists of the queue: the free nodes `fl`, the queued nodes `ql` and the held nodes `hl` are
all the nodes of the pool. -/
structure Inv (q : Mq Ag) (fl ql hl : List ℕ) : Prop where
  free : Links (fun n => (q.node n).next) q.msgQueueFree fl
  queue : Links (fun n => (q.node n).next) q.msgQueueHead ql
  tail : q.msgQueueTail = ql.getLast?
  entry : q.entry = ql.length
  pool : (fl ++ ql ++ hl).Perm (List.range q.maxMsgs)
  held : Held q.pc hl
  agents : ∀ ag, AgentOk q.node (q.pc ag)
  max : q.maxMsgs ≤ rtMqEntryMax

variable {q q' : Mq Ag} {fl ql hl : List ℕ} {ag : Ag} {n : ℕ} {pc' : Pc}

/-! ### Frames -/

lemma AgentOk.congr {node node' : ℕ → MqMessage} {pc : Pc} (h : AgentOk node pc)
    (hsame : ∀ n, holds pc = some n → node' n = node n) : AgentOk node' pc := by
  cases pc with
  | copying urgent buffer msg i =>
    simp only [AgentOk] at h ⊢
    rw [hsame msg rfl]
    exact h
  | recvCopying msg len buffer =>
    simp only [AgentOk] at h ⊢
    rw [hsame msg rfl]
    exact h
  | _ => trivial

lemma absPc_congr {node node' : ℕ → MqMessage} {pc : Pc}
    (hsame : ∀ n, holds pc = some n → node' n = node n) : absPc node' pc = absPc node pc := by
  cases pc with
  | recvTaken size msg =>
    simp only [absPc, hsame msg rfl]
  | recvCopying msg len buffer =>
    simp only [absPc, hsame msg rfl]
  | _ => rfl

omit [DecidableEq Ag] in
/-- The waiting lists and the errors of the threads do not matter. -/
lemma Inv.congr (h : Inv q fl ql hl) (hnode : q'.node = q.node) (hmax : q'.maxMsgs = q.maxMsgs)
    (hentry : q'.entry = q.entry) (hhead : q'.msgQueueHead = q.msgQueueHead)
    (htail : q'.msgQueueTail = q.msgQueueTail) (hfree : q'.msgQueueFree = q.msgQueueFree)
    (hpc : q'.pc = q.pc) : Inv q' fl ql hl := by
  constructor
  · rw [hnode, hfree]
    exact h.free
  · rw [hnode, hhead]
    exact h.queue
  · rw [htail]
    exact h.tail
  · rw [hentry]
    exact h.entry
  · rw [hmax]
    exact h.pool
  · rw [hpc]
    exact h.held
  · rw [hnode, hpc]
    exact h.agents
  · rw [hmax]
    exact h.max

omit [DecidableEq Ag] in
lemma Inv.nodup (h : Inv q fl ql hl) : (fl ++ ql ++ hl).Nodup :=
  h.pool.symm.nodup List.nodup_range

omit [DecidableEq Ag] in
/-- A held node is on neither list. -/
lemma Inv.notMem_of_held (h : Inv q fl ql hl) (hn : holds (q.pc ag) = some n) :
    n ∉ fl ∧ n ∉ ql ∧ n ∈ hl := by
  have hmem : n ∈ hl := (h.held.mem_iff n).mpr ⟨ag, hn⟩
  have hnodup := h.nodup
  rw [List.nodup_append] at hnodup
  have hdis := hnodup.2.2
  refine ⟨fun hf => ?_, fun hq => ?_, hmem⟩
  · exact hdis n (List.mem_append_left _ hf) n hmem rfl
  · exact hdis n (List.mem_append_right _ hq) n hmem rfl

/-! ### Who holds what -/

lemma Held.keep {pc : Ag → Pc} (h : Held pc hl) (hsame : holds pc' = holds (pc ag)) :
    Held (Function.update pc ag pc') hl := by
  have hholds : ∀ ag', holds (Function.update pc ag pc' ag') = holds (pc ag') := by
    intro ag'
    by_cases hag : ag' = ag
    · subst hag
      rw [Function.update_self, hsame]
    · rw [Function.update_of_ne hag]
  constructor
  · intro n
    simp only [hholds]
    exact h.mem_iff n
  · intro ag₁ ag₂ n h₁ h₂
    rw [hholds] at h₁ h₂
    exact h.unique ag₁ ag₂ n h₁ h₂

lemma Held.acquire {pc : Ag → Pc} (h : Held pc hl) (hold : holds (pc ag) = none)
    (hnew : holds pc' = some n) (hn : n ∉ hl) : Held (Function.update pc ag pc') (n :: hl) := by
  constructor
  · intro m
    rw [List.mem_cons, h.mem_iff]
    constructor
    · rintro (rfl | ⟨ag', hag'⟩)
      · exact ⟨ag, by rw [Function.update_self, hnew]⟩
      · have hne : ag' ≠ ag := by
          rintro rfl
          rw [hold] at hag'
          cases hag'
        exact ⟨ag', by rw [Function.update_of_ne hne, hag']⟩
    · rintro ⟨ag', hag'⟩
      by_cases hag : ag' = ag
      · subst hag
        rw [Function.update_self, hnew] at hag'
        exact .inl (Option.some.inj hag').symm
      · rw [Function.update_of_ne hag] at hag'
        exact .inr ⟨ag', hag'⟩
  · intro ag₁ ag₂ m h₁ h₂
    -- the node is new in the hands of `ag`, so nobody else has it
    have hother : ∀ ag', ag' ≠ ag → holds (pc ag') ≠ some n :=
      fun ag' _ hag' => hn ((h.mem_iff n).mpr ⟨ag', hag'⟩)
    by_cases ha₁ : ag₁ = ag <;> by_cases ha₂ : ag₂ = ag
    · rw [ha₁, ha₂]
    · subst ha₁
      rw [Function.update_self, hnew] at h₁
      obtain rfl := Option.some.inj h₁
      rw [Function.update_of_ne ha₂] at h₂
      exact absurd h₂ (hother ag₂ ha₂)
    · subst ha₂
      rw [Function.update_self, hnew] at h₂
      obtain rfl := Option.some.inj h₂
      rw [Function.update_of_ne ha₁] at h₁
      exact absurd h₁ (hother ag₁ ha₁)
    · rw [Function.update_of_ne ha₁] at h₁
      rw [Function.update_of_ne ha₂] at h₂
      exact h.unique ag₁ ag₂ m h₁ h₂

lemma Held.release {pc : Ag → Pc} (h : Held pc hl) (hnodup : hl.Nodup)
    (hold : holds (pc ag) = some n) (hnew : holds pc' = none) :
    Held (Function.update pc ag pc') (hl.erase n) := by
  constructor
  · intro m
    rw [hnodup.mem_erase_iff, h.mem_iff]
    constructor
    · rintro ⟨hne, ag', hag'⟩
      have hag : ag' ≠ ag := by
        rintro rfl
        rw [hold] at hag'
        exact hne (Option.some.inj hag').symm
      exact ⟨ag', by rw [Function.update_of_ne hag, hag']⟩
    · rintro ⟨ag', hag'⟩
      by_cases hag : ag' = ag
      · subst hag
        rw [Function.update_self, hnew] at hag'
        cases hag'
      · rw [Function.update_of_ne hag] at hag'
        refine ⟨?_, ag', hag'⟩
        rintro rfl
        exact hag (h.unique ag' ag m hag' hold)
  · intro ag₁ ag₂ m h₁ h₂
    have hback : ∀ ag', holds (Function.update pc ag pc' ag') = some m →
        holds (pc ag') = some m := by
      intro ag' hag'
      by_cases hag : ag' = ag
      · subst hag
        rw [Function.update_self, hnew] at hag'
        cases hag'
      · rwa [Function.update_of_ne hag] at hag'
    exact h.unique ag₁ ag₂ m (hback ag₁ h₁) (hback ag₂ h₂)

/-! ### The steps of an agent -/

/-- The agents after a step of `ag` that changes no node but the one it holds. -/
lemma Inv.agents_update (h : Inv q fl ql hl) {node' : ℕ → MqMessage}
    (hsame : ∀ ag' m, ag' ≠ ag → holds (q.pc ag') = some m → node' m = q.node m)
    (hpc : AgentOk node' pc') (ag' : Ag) : AgentOk node' (Function.update q.pc ag pc' ag') := by
  by_cases hag : ag' = ag
  · subst hag
    rw [Function.update_self]
    exact hpc
  · rw [Function.update_of_ne hag]
    exact (h.agents ag').congr fun m hm => hsame ag' m hag hm

/-- A step that changes nothing but where the agent stands. -/
lemma Inv.setPc (h : Inv q fl ql hl) (hholds : holds pc' = holds (q.pc ag))
    (hpc : AgentOk q.node pc') : Inv (setPc q ag pc') fl ql hl :=
  ⟨h.free, h.queue, h.tail, h.entry, h.pool, h.held.keep hholds,
    h.agents_update (fun _ _ _ _ => rfl) hpc, h.max⟩

/-- The same with changes to the waiting lists and the errors. -/
lemma Inv.move (h : Inv q fl ql hl) (hnode : q'.node = q.node) (hmax : q'.maxMsgs = q.maxMsgs)
    (hentry : q'.entry = q.entry) (hhead : q'.msgQueueHead = q.msgQueueHead)
    (htail : q'.msgQueueTail = q.msgQueueTail) (hfree : q'.msgQueueFree = q.msgQueueFree)
    (hpcs : q'.pc = Function.update q.pc ag pc') (hholds : holds pc' = holds (q.pc ag))
    (hpc : AgentOk q.node pc') : Inv q' fl ql hl :=
  (h.setPc hholds hpc).congr hnode hmax hentry hhead htail hfree hpcs

/-- A step that writes the node the agent holds. -/
lemma Inv.write (h : Inv q fl ql hl) (hold : holds (q.pc ag) = some n)
    (hnew : holds pc' = some n) {m : MqMessage}
    (hpc : AgentOk (Function.update q.node n m) pc') :
    Inv (Mq.setPc (setNode q n m) ag pc') fl ql hl := by
  obtain ⟨hf, hq, -⟩ := h.notMem_of_held hold
  have haway : ∀ x, x ≠ n → (Function.update q.node n m) x = q.node x :=
    fun x hx => Function.update_of_ne hx _ _
  have hlinks : ∀ l : List ℕ, n ∉ l → ∀ x ∈ l,
      ((Function.update q.node n m) x).next = (q.node x).next := by
    intro l hl x hx
    rw [haway x fun hxn => hl (hxn ▸ hx)]
  refine ⟨h.free.congr (hlinks fl hf), h.queue.congr (hlinks ql hq), h.tail, h.entry, h.pool,
    h.held.keep (hnew.trans hold.symm), h.agents_update ?_ hpc, h.max⟩
  intro ag' x hne hx
  refine haway x ?_
  rintro rfl
  exact hne (h.held.unique ag' ag x hx hold)

/-- A step that takes a node from the free list. -/
lemma Inv.take (h : Inv q fl ql hl) (hfree : q.msgQueueFree = some n)
    (hold : holds (q.pc ag) = none) (hnew : holds pc' = some n) (hpc : AgentOk q.node pc') :
    ∃ fl', Inv (Mq.setPc { q with msgQueueFree := (q.node n).next } ag pc') fl' ql (n :: hl) := by
  have hlinks := h.free
  rw [hfree] at hlinks
  cases fl with
  | nil => cases hlinks
  | cons x fl =>
    obtain ⟨hx, hrest⟩ := hlinks
    obtain rfl := Option.some.inj hx
    have hnodup := h.nodup
    have hn : n ∉ hl := by
      rw [List.cons_append, List.cons_append, List.nodup_cons] at hnodup
      exact fun hmem => hnodup.1 (List.mem_append_right _ hmem)
    refine ⟨fl, hrest, h.queue, h.tail, h.entry, ?_, h.held.acquire hold hnew hn,
      h.agents_update (fun _ _ _ _ => rfl) hpc, h.max⟩
    exact List.perm_middle.trans h.pool

omit [DecidableEq Ag] in
lemma linkTail_eq {t h : ℕ} (htail : q.msgQueueTail = some t) (hhead : q.msgQueueHead = some h) :
    linkTail q n =
      { setNode q t { q.node t with next := some n } with msgQueueTail := some n } := by
  unfold linkTail
  simp only [htail, setNode, hhead]

omit [DecidableEq Ag] in
/-- The last node of the queue is linked to a new one. -/
lemma linkTail_spec (h : Inv q fl ql hl) (hold : holds (q.pc ag) = some n)
    (hnext : (q.node n).next = none) :
    Links (fun x => ((linkTail q n).node x).next) (linkTail q n).msgQueueHead (ql ++ [n]) ∧
      (linkTail q n).msgQueueTail = some n ∧
      (∀ x, x ∉ ql → (linkTail q n).node x = q.node x) ∧
      (∀ x, content ((linkTail q n).node x) = content (q.node x)) := by
  obtain ⟨-, hnq, -⟩ := h.notMem_of_held hold
  have htail := h.tail
  have hqueue := h.queue
  rcases List.eq_nil_or_concat ql with rfl | ⟨l, t, rfl⟩
  · -- the queue is empty
    have hhead : q.msgQueueHead = none := hqueue
    have htail' : q.msgQueueTail = none := htail
    simp only [linkTail, htail', hhead]
    exact ⟨⟨rfl, hnext⟩, trivial, fun _ _ => trivial, fun _ => trivial⟩
  · rw [List.concat_eq_append] at hqueue htail hnq ⊢
    have htail' : q.msgQueueTail = some t := by simpa using htail
    obtain ⟨x, hhead⟩ : ∃ x, q.msgQueueHead = some x := by
      rw [hqueue.head]
      cases l <;> simp
    have hnodup := h.nodup
    rw [List.concat_eq_append] at hnodup
    have ht : t ∉ l := by
      rw [List.nodup_append, List.nodup_append] at hnodup
      have := (List.nodup_append.mp hnodup.1.2.1).2.2
      exact fun hmem => this t hmem t (by simp) rfl
    have hne : n ≠ t := by
      rintro rfl
      exact hnq (by simp)
    rw [linkTail_eq htail' hhead]
    dsimp only [setNode]
    rw [List.append_assoc]
    refine ⟨hqueue.snoc ?_ ?_ ?_, rfl, ?_, ?_⟩
    · intro x hx
      have hxt : x ≠ t := fun hxt => ht (hxt ▸ hx)
      simp only [Function.update_of_ne hxt]
    · simp only [Function.update_self]
    · simp only [Function.update_of_ne hne, hnext]
    · intro x hx
      refine Function.update_of_ne ?_ _ _
      rintro rfl
      exact hx (by simp)
    · intro x
      by_cases hxt : x = t
      · subst hxt
        rw [Function.update_self]
        rfl
      · rw [Function.update_of_ne hxt]

omit [DecidableEq Ag] in
/-- The node becomes the first of the queue. -/
lemma linkHead_spec (h : Inv q fl ql hl) (hold : holds (q.pc ag) = some n) :
    Links (fun x => ((linkHead q n).node x).next) (linkHead q n).msgQueueHead (n :: ql) ∧
      (linkHead q n).msgQueueTail = (n :: ql).getLast? ∧
      (∀ x, x ≠ n → (linkHead q n).node x = q.node x) ∧
      (∀ x, content ((linkHead q n).node x) = content (q.node x)) := by
  obtain ⟨-, hnq, -⟩ := h.notMem_of_held hold
  have hnode : (linkHead q n).node =
      Function.update q.node n { q.node n with next := q.msgQueueHead } := rfl
  have hhead : (linkHead q n).msgQueueHead = some n := rfl
  rw [hnode, hhead]
  refine ⟨h.queue.push ?_ ?_, ?_, ?_, ?_⟩
  · simp only [Function.update_self]
  · intro x hx
    have hxn : x ≠ n := fun hxn => hnq (hxn ▸ hx)
    simp only [Function.update_of_ne hxn]
  · have htail := h.tail
    rw [List.getLast?_cons, ← htail]
    simp only [linkHead, setNode]
    cases q.msgQueueTail <;> rfl
  · intro x hx
    exact Function.update_of_ne hx _ _
  · intro x
    by_cases hxn : x = n
    · subst hxn
      rw [Function.update_self]
      rfl
    · rw [Function.update_of_ne hxn]

/-- A free list, a queue and hands that are left alone by a change of links on nodes nobody else
holds. -/
lemma Inv.relink (h : Inv q fl ql hl) (hold : holds (q.pc ag) = some n) (hnew : holds pc' = none)
    (hpc : AgentOk q'.node pc') {fl' ql' : List ℕ}
    (hfree : Links (fun x => (q'.node x).next) q'.msgQueueFree fl')
    (hqueue : Links (fun x => (q'.node x).next) q'.msgQueueHead ql')
    (htail : q'.msgQueueTail = ql'.getLast?) (hentry : q'.entry = ql'.length)
    (hmove : (fl' ++ ql').Perm (n :: (fl ++ ql)))
    (hmax : q'.maxMsgs = q.maxMsgs) (hpcs : q'.pc = Function.update q.pc ag pc')
    (hnodes : ∀ x, x ∈ hl → x ≠ n → q'.node x = q.node x) :
    Inv q' fl' ql' (hl.erase n) := by
  obtain ⟨-, -, hmem⟩ := h.notMem_of_held hold
  have hnodup : hl.Nodup := (List.nodup_append.mp h.nodup).2.1
  refine ⟨hfree, hqueue, htail, hentry, ?_, ?_, ?_, ?_⟩
  · rw [hmax]
    refine List.Perm.trans ?_ h.pool
    have hsplit : (fl' ++ ql' ++ hl.erase n).Perm (n :: (fl ++ ql) ++ hl.erase n) :=
      hmove.append_right _
    refine hsplit.trans ?_
    rw [List.cons_append]
    refine List.perm_middle.symm.trans ?_
    exact (List.perm_cons_erase hmem).symm.append_left _
  · rw [hpcs]
    exact h.held.release hnodup hold hnew
  · rw [hpcs]
    refine h.agents_update ?_ hpc
    intro ag' x hne hx
    refine hnodes x ((h.held.mem_iff x).mpr ⟨ag', hx⟩) ?_
    rintro rfl
    exact hne (h.held.unique ag' ag x hx hold)
  · rw [hmax]
    exact h.max

end N32L43x.Mq
