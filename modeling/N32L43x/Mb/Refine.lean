import N32L43x.Lib.Ring
import N32L43x.Mb.Defs

/-!
The mailbox refines the bounded sequence of words: every step of an agent is matched by the steps of the
specification that its label names.
-/

namespace N32L43x.Mb

open N32L43x.Ipc N32L43x.Lib N32L43x.Lib.Atomic N32L43x.Lib.Ring N32L43x.Lib.Run

variable {Ag : Type*} [DecidableEq Ag] {enqueue : List Ag → Ag → List Ag} {mb mb' mb₁ : Mailbox Ag}
  {ag : Ag} {pc' : Pc} {op : AbsOp} {env : Env} {value : Word}

/-! ### The offsets and the mails -/

/-- The offsets are within the pool, and `in_offset` is behind the last mail. -/
structure Inv (mb : Mailbox Ag) : Prop where
  size : mb.size ≤ rtMbEntryMax
  entry : mb.entry ≤ mb.size
  inOffset : mb.inOffset = (mb.outOffset + mb.entry) % mb.size
  outOffset : mb.outOffset ≤ mb.size - 1

/-- The mails, the first one to be received next. -/
def mails (mb : Mailbox Ag) : List Word := contents mb.msgPool mb.size mb.outOffset mb.entry

omit [DecidableEq Ag] in
lemma length_mails (mb : Mailbox Ag) : (mails mb).length = mb.entry := length_contents ..

/-- The next offset, as the code has it. -/
lemma wrap_eq {k size : ℕ} (hk : k < size) (hsize : size ≤ rtMbEntryMax) :
    (if (k + 1) % 0x10000 ≥ size then 0 else (k + 1) % 0x10000) = (k + 1) % size := by
  unfold rtMbEntryMax at hsize
  rw [Nat.mod_eq_of_lt (show k + 1 < 0x10000 by omega)]
  split
  · rw [show k + 1 = size by omega, Nat.mod_self]
  · exact (Nat.mod_eq_of_lt (by omega)).symm

omit [DecidableEq Ag] in
lemma Inv.putBack (h : Inv mb) (hfull : mb.entry < mb.size) (value : Word) :
    Inv { putBack mb value with entry := mb.entry + 1 } ∧
      mails { putBack mb value with entry := mb.entry + 1 } = mails mb ++ [value] := by
  have hin : mb.inOffset < mb.size := by
    rw [h.inOffset]
    exact Nat.mod_lt _ (by omega)
  constructor
  · refine ⟨h.size, hfull, ?_, h.outOffset⟩
    show (if (mb.inOffset + 1) % 0x10000 ≥ mb.size then 0 else (mb.inOffset + 1) % 0x10000) =
      (mb.outOffset + (mb.entry + 1)) % mb.size
    rw [wrap_eq hin h.size, h.inOffset, Nat.mod_add_mod]
    rfl
  · unfold mails
    show contents (Function.update mb.msgPool mb.inOffset value) mb.size mb.outOffset (mb.entry + 1) = _
    rw [h.inOffset]
    exact contents_push_back hfull value

omit [DecidableEq Ag] in
lemma Inv.putFront (h : Inv mb) (hfull : mb.entry < mb.size) (value : Word) :
    Inv { putFront mb value with entry := (mb.entry + 1) % 0x10000 } ∧
      mails { putFront mb value with entry := (mb.entry + 1) % 0x10000 } = value :: mails mb := by
  have hsize := h.size
  have hout := h.outOffset
  unfold rtMbEntryMax at hsize
  have hentry : (mb.entry + 1) % 0x10000 = mb.entry + 1 := Nat.mod_eq_of_lt (by omega)
  obtain ⟨k, hk⟩ : ∃ k, k = if mb.outOffset > 0 then mb.outOffset - 1
      else (mb.size + 0xffff) % 0x10000 := ⟨_, rfl⟩
  -- the cell before the first mail
  have hkeq : mb.outOffset > 0 ∧ k = mb.outOffset - 1 ∨ mb.outOffset = 0 ∧ k = mb.size - 1 := by
    rw [hk]
    split <;> omega
  have hlt : k < mb.size := by omega
  have hnext : (k + 1) % mb.size = mb.outOffset := by
    rcases hkeq with ⟨hpos, rfl⟩ | ⟨hzero, rfl⟩
    · rw [Nat.sub_add_cancel hpos]
      exact Nat.mod_eq_of_lt (by omega)
    · rw [hzero, Nat.sub_add_cancel (by omega), Nat.mod_self]
  have hmb : ({ Mb.putFront mb value with entry := (mb.entry + 1) % 0x10000 } : Mailbox Ag) =
      { mb with
        msgPool := Function.update mb.msgPool k value, outOffset := k, entry := mb.entry + 1 } := by
    unfold Mb.putFront
    simp only [← hk, hentry]
  rw [hmb]
  constructor
  · refine ⟨h.size, hfull, ?_, Nat.le_sub_one_of_lt hlt⟩
    show mb.inOffset = (k + (mb.entry + 1)) % mb.size
    rw [h.inOffset, ← hnext, Nat.mod_add_mod]
    congr 1
    omega
  · exact contents_push_front hnext hlt hfull value

omit [DecidableEq Ag] in
lemma Inv.takeFront (h : Inv mb) (hempty : mb.entry ≠ 0) :
    Inv (takeFront mb) ∧ mails mb = mb.msgPool mb.outOffset :: mails (takeFront mb) := by
  have hentry := h.entry
  have hout : mb.outOffset < mb.size := by
    have hle := h.outOffset
    omega
  have hmb : Mb.takeFront mb =
      { mb with outOffset := (mb.outOffset + 1) % mb.size, entry := mb.entry - 1 } := by
    unfold Mb.takeFront
    simp only [wrap_eq hout h.size]
    rw [if_pos (Nat.pos_of_ne_zero hempty)]
  obtain ⟨n, hn⟩ := Nat.exists_eq_succ_of_ne_zero hempty
  rw [hmb]
  constructor
  · refine ⟨h.size, (Nat.sub_le _ _).trans hentry, ?_, ?_⟩
    · show mb.inOffset = ((mb.outOffset + 1) % mb.size + (mb.entry - 1)) % mb.size
      rw [h.inOffset, Nat.mod_add_mod]
      congr 1
      omega
    · show (mb.outOffset + 1) % mb.size ≤ mb.size - 1
      exact Nat.le_sub_one_of_lt (Nat.mod_lt _ (by omega))
  · unfold mails
    simp only
    rw [hn, Nat.succ_sub_one, Nat.succ_eq_add_one, contents_succ, Nat.mod_eq_of_lt hout]

/-! ### A step of one agent -/

/-- How an agent is seen. -/
def absPc : Pc → Pend AbsOp Result IpcErr
  | .idle => .idle
  | .sendEntry value _ | .sendWait value _ => .called (.send value)
  | .urgentEntry value => .called (.urgent value)
  | .recvEntry _ | .recvWait _ => .called .recv
  | .done res => .done res

/-- The state of the specification. -/
def view (mb : Mailbox Ag) : Object Ag AbsOp Result IpcErr (List Word) where
  value := mails mb
  pend ag := absPc (mb.pc ag)

/-- The step keeps the invariant and is matched over its label. -/
structure Matched (mb : Mailbox Ag) (a : Action Ag) (mb' : Mailbox Ag) : Prop where
  inv : Inv mb'
  size : mb'.size = mb.size
  exec : exec (Atomic.step (apply mb.size)) (view mb) (label mb a mb') = some (view mb')

/-- Only lists and errors differ. -/
structure SameData (mb mb' : Mailbox Ag) : Prop where
  msgPool : mb'.msgPool = mb.msgPool
  size : mb'.size = mb.size
  entry : mb'.entry = mb.entry
  inOffset : mb'.inOffset = mb.inOffset
  outOffset : mb'.outOffset = mb.outOffset
  pc : mb'.pc = mb.pc

omit [DecidableEq Ag] in
lemma SameData.inv (hs : SameData mb mb') (h : Inv mb) : Inv mb' := by
  refine ⟨?_, ?_, ?_, ?_⟩
  · rw [hs.size]
    exact h.size
  · rw [hs.size, hs.entry]
    exact h.entry
  · rw [hs.size, hs.entry, hs.inOffset, hs.outOffset]
    exact h.inOffset
  · rw [hs.size, hs.outOffset]
    exact h.outOffset

omit [DecidableEq Ag] in
lemma SameData.mails (hs : SameData mb mb') : mails mb' = mails mb := by
  unfold Mb.mails
  rw [hs.msgPool, hs.size, hs.entry, hs.outOffset]

omit [DecidableEq Ag] in
lemma SameData.view (hs : SameData mb mb') : view mb' = view mb := by
  unfold Mb.view
  rw [hs.mails, hs.pc]

lemma sameData_dequeueReceiver (mb : Mailbox Ag) (ready : Bool) :
    SameData mb (dequeueReceiver mb ready) := by
  unfold dequeueReceiver
  split
  · exact ⟨rfl, rfl, rfl, rfl, rfl, rfl⟩
  · split <;> exact ⟨rfl, rfl, rfl, rfl, rfl, rfl⟩

lemma sameData_dequeueSender (mb : Mailbox Ag) (ready : Bool) :
    SameData mb (dequeueSender mb ready) := by
  unfold dequeueSender
  split
  · exact ⟨rfl, rfl, rfl, rfl, rfl, rfl⟩
  · split <;> exact ⟨rfl, rfl, rfl, rfl, rfl, rfl⟩

lemma view_setPc (mb : Mailbox Ag) (ag : Ag) (pc' : Pc) :
    view (setPc mb ag pc') = (view mb).setPend ag (absPc pc') := by
  have hpend : (fun ag' => absPc ((setPc mb ag pc').pc ag')) =
      Function.update (fun ag' => absPc (mb.pc ag')) ag (absPc pc') := by
    funext ag'
    by_cases hag : ag' = ag
    · subst hag
      simp [setPc]
    · simp [setPc, Function.update_of_ne hag]
  unfold view Object.setPend
  rw [hpend]
  rfl

lemma label_setPc (mb₁ : Mailbox Ag) : label mb (.run ag env) (setPc mb₁ ag pc') =
    runLabel ag (mb.pc ag) pc' := by
  simp [label, setPc]

/-- A step the specification does not see. -/
lemma matched_silent (h : Inv mb) (hs : SameData mb mb₁) (hx : absPc pc' = absPc (mb.pc ag))
    (hlabel : runLabel ag (mb.pc ag) pc' = []) : Matched mb (.run ag env) (setPc mb₁ ag pc') := by
  have hinv := hs.inv h
  refine ⟨⟨hinv.size, hinv.entry, hinv.inOffset, hinv.outOffset⟩, hs.size, ?_⟩
  have hsame : (view mb).setPend ag (absPc (mb.pc ag)) = view mb := by
    unfold Object.setPend
    rw [show absPc (mb.pc ag) = (view mb).pend ag from rfl, Function.update_eq_self]
  rw [label_setPc, hlabel, view_setPc, hs.view, hx, hsame]
  rfl

/-- A call fails: it has no effect, and the error is what it will return. -/
lemma matched_fail (h : Inv mb) (hs : SameData mb mb₁) (hop : absPc (mb.pc ag) = .called op)
    (e : IpcErr) : Matched mb (.run ag env) (setPc mb₁ ag (.done (.error e))) := by
  have hinv := hs.inv h
  refine ⟨⟨hinv.size, hinv.entry, hinv.inOffset, hinv.outOffset⟩, hs.size, ?_⟩
  have hlabel : runLabel ag (mb.pc ag) (.done (.error e)) = [.fail ag e] := by
    cases hpc : mb.pc ag with
    | done res =>
      rw [hpc] at hop
      cases hop
    | _ => rfl
  rw [label_setPc, hlabel, view_setPc, hs.view]
  exact exec_fail hop e

/-- The moment a call has its effect. -/
lemma matched_commit {res : Result} (hinv : Inv mb₁) (hsize : mb₁.size = mb.size)
    (hpc : mb₁.pc = mb.pc) (hop : absPc (mb.pc ag) = .called op)
    (happly : apply mb.size (mails mb) op = some (mails mb₁, res)) :
    Matched mb (.run ag env) (setPc mb₁ ag (.done (.ok res))) := by
  refine ⟨⟨hinv.size, hinv.entry, hinv.inOffset, hinv.outOffset⟩, hsize, ?_⟩
  have hlabel : runLabel ag (mb.pc ag) (.done (.ok res)) = [.commit ag] := by
    cases hpc : mb.pc ag with
    | done res =>
      rw [hpc] at hop
      cases hop
    | _ => rfl
  have hview : view mb₁ = { view mb with value := mails mb₁ } := by
    unfold view
    rw [hpc]
  rw [label_setPc, hlabel, view_setPc, hview]
  exact exec_commit hop happly

/-! ### The calls -/

lemma matched_sendLoop (h : Inv mb) (hop : absPc (mb.pc ag) = .called (.send value)) (timeout : ℤ) :
    Matched mb (.run ag env) (sendLoop enqueue mb ag value timeout env) := by
  unfold sendLoop
  split
  · -- the mailbox is full
    have herr : SameData mb (setError mb ag .eintr) := ⟨rfl, rfl, rfl, rfl, rfl, rfl⟩
    simp only
    split
    · exact matched_fail h herr hop .efull
    split
    · refine matched_silent h ⟨rfl, rfl, rfl, rfl, rfl, rfl⟩ hop.symm ?_
      cases hpc : mb.pc ag with
      | done res =>
        rw [hpc] at hop
        cases hop
      | _ => rfl
    · exact matched_fail h herr hop .error
  · rename_i hfull
    have hlt : mb.entry < mb.size := lt_of_le_of_ne h.entry hfull
    obtain ⟨hinv, hmails⟩ := h.putBack hlt value
    have hdeq := sameData_dequeueReceiver { putBack mb value with entry := mb.entry + 1 } env.ready
    simp only
    rw [if_pos (show (putBack mb value).entry < rtMbEntryMax from hlt.trans_le h.size)]
    refine matched_commit (hdeq.inv hinv) hdeq.size hdeq.pc hop ?_
    have happly : apply mb.size (mails mb) (.send value) = some (mails mb ++ [value], .sent) := by
      unfold apply
      simp only [length_mails]
      rw [if_pos hlt]
    rw [happly, ← hdeq.mails.trans hmails]
    rfl

lemma matched_urgent (h : Inv mb) (hop : absPc (mb.pc ag) = .called (.urgent value)) :
    Matched mb (.run ag env) (urgent mb ag value env) := by
  unfold urgent
  split
  · exact matched_fail h ⟨rfl, rfl, rfl, rfl, rfl, rfl⟩ hop .efull
  · rename_i hfull
    have hlt : mb.entry < mb.size := lt_of_le_of_ne h.entry hfull
    obtain ⟨hinv, hmails⟩ := h.putFront hlt value
    have hdeq := sameData_dequeueReceiver
      { putFront mb value with entry := (mb.entry + 1) % 0x10000 } env.ready
    refine matched_commit (hdeq.inv hinv) hdeq.size hdeq.pc hop ?_
    have happly : apply mb.size (mails mb) (.urgent value) = some (value :: mails mb, .sent) := by
      unfold apply
      simp only [length_mails]
      rw [if_pos hlt]
    rw [happly, ← hdeq.mails.trans hmails]
    rfl

lemma matched_recvLoop (h : Inv mb) (hop : absPc (mb.pc ag) = .called .recv) (timeout : ℤ) :
    Matched mb (.run ag env) (recvLoop enqueue mb ag timeout env) := by
  unfold recvLoop
  split
  · -- the mailbox is empty
    have herr : SameData mb (setError mb ag .eintr) := ⟨rfl, rfl, rfl, rfl, rfl, rfl⟩
    have herr' : SameData mb (setError (setError mb ag .eintr) ag .etimeout) :=
      ⟨rfl, rfl, rfl, rfl, rfl, rfl⟩
    simp only
    split
    · exact matched_fail h herr' hop .etimeout
    split
    · refine matched_silent h ⟨rfl, rfl, rfl, rfl, rfl, rfl⟩ hop.symm ?_
      cases hpc : mb.pc ag with
      | done res =>
        rw [hpc] at hop
        cases hop
      | _ => rfl
    · exact matched_fail h herr hop .error
  · rename_i hempty
    obtain ⟨hinv, hmails⟩ := h.takeFront hempty
    have hdeq := sameData_dequeueSender (takeFront mb) env.ready
    refine matched_commit (hdeq.inv hinv) hdeq.size hdeq.pc hop ?_
    rw [hdeq.mails, hmails]
    rfl

lemma matched_run (h : Inv mb) (hs : runAgent enqueue mb ag env = some mb') :
    Matched mb (.run ag env) mb' := by
  unfold runAgent at hs
  cases hpc : mb.pc ag with
  | idle =>
    rw [hpc] at hs
    cases hs
  | sendEntry value timeout =>
    have hop : absPc (mb.pc ag) = .called (.send value) := by rw [hpc]; rfl
    simp only [hpc] at hs
    split at hs <;> cases hs
    · exact matched_fail h ⟨rfl, rfl, rfl, rfl, rfl, rfl⟩ hop .efull
    · exact matched_sendLoop h hop timeout
  | sendWait value timeout =>
    have hop : absPc (mb.pc ag) = .called (.send value) := by rw [hpc]; rfl
    simp only [hpc] at hs
    split at hs
    · cases hs
    split at hs <;> cases hs
    · exact matched_fail h ⟨rfl, rfl, rfl, rfl, rfl, rfl⟩ hop _
    · exact matched_sendLoop h hop _
  | urgentEntry value =>
    simp only [hpc] at hs
    cases hs
    exact matched_urgent h (by rw [hpc]; rfl)
  | recvEntry timeout =>
    have hop : absPc (mb.pc ag) = .called .recv := by rw [hpc]; rfl
    simp only [hpc] at hs
    split at hs <;> cases hs
    · exact matched_fail h ⟨rfl, rfl, rfl, rfl, rfl, rfl⟩ hop .etimeout
    · exact matched_recvLoop h hop timeout
  | recvWait timeout =>
    have hop : absPc (mb.pc ag) = .called .recv := by rw [hpc]; rfl
    simp only [hpc] at hs
    split at hs
    · cases hs
    split at hs <;> cases hs
    · exact matched_fail h ⟨rfl, rfl, rfl, rfl, rfl, rfl⟩ hop _
    · exact matched_recvLoop h hop _
  | done res =>
    simp only [hpc] at hs
    cases hs
    refine ⟨⟨h.size, h.entry, h.inOffset, h.outOffset⟩, rfl, ?_⟩
    have hpend : (view mb).pend ag = .done res := by
      unfold view
      simp only [hpc]
      rfl
    rw [label_setPc, view_setPc, hpc]
    exact exec_ret hpend

/-- **One step.**  It is matched by the specification over its label. -/
theorem matched_step {a : Action Ag} (h : Inv mb) (hs : Mb.step enqueue mb a = some mb') :
    Matched mb a mb' := by
  cases a with
  | run ag env => exact matched_run h hs
  | call ag op =>
    simp only [Mb.step] at hs
    split at hs
    · rename_i hidle
      cases hs
      refine ⟨⟨h.size, h.entry, h.inOffset, h.outOffset⟩, rfl, ?_⟩
      have hpend : (view mb).pend ag = .idle := by
        unfold view
        simp only [hidle]
        rfl
      have hentry : absPc (entryPc op) = .called op.abs := by cases op <;> rfl
      rw [view_setPc, hentry]
      exact exec_call hpend op.abs
    · cases hs
  | expire ag =>
    simp only [Mb.step] at hs
    split at hs
    · cases hs
      exact ⟨⟨h.size, h.entry, h.inOffset, h.outOffset⟩, rfl, rfl⟩
    · cases hs

/-! ### Whole runs -/

omit [DecidableEq Ag] in
lemma inv_init (msgPool : ℕ → Word) (size : ℕ) : Inv (rtMbInit msgPool size : Mailbox Ag) := by
  have hlt : size % 0x10000 ≤ rtMbEntryMax := by
    unfold rtMbEntryMax
    omega
  exact ⟨hlt, Nat.zero_le _, (Nat.zero_mod _).symm, Nat.zero_le _⟩

/-- **The mailbox is a bounded sequence of words.**  What any agents see of any run, the starts and
returns of their calls, is a run of the specification, in which a send appends its word, an urgent send
prepends it, and a receive removes the head and delivers it, each at one moment of the call; and at every
moment the sequence is what the pool holds between the offsets. -/
theorem mb_refines (enqueue : List Ag → Ag → List Ag) (msgPool : ℕ → Word) (size : ℕ)
    (as : List (Action Ag)) (mb : Mailbox Ag)
    (hrun : exec (Mb.step enqueue) (rtMbInit msgPool size) as = some mb) :
    ∃ t, exec (Atomic.step (apply mb.size)) (Object.init [])
        (observe (Mb.step enqueue) label (rtMbInit msgPool size) as) = some t ∧
      t.value = mails mb ∧ mb.entry = t.value.length ∧ mb.size = size % 0x10000 ∧
      mb.entry ≤ mb.size ∧ mb.inOffset = (mb.outOffset + mb.entry) % mb.size ∧
      (0 < mb.size → mb.inOffset < mb.size ∧ mb.outOffset < mb.size) := by
  have hsim : ∀ (mb : Mailbox Ag) (a : Action Ag) (mb' : Mailbox Ag)
      (t : Object Ag AbsOp Result IpcErr (List Word)),
      (Inv mb ∧ mb.size = size % 0x10000 ∧ t = view mb) → Mb.step enqueue mb a = some mb' →
      ∃ t', exec (Atomic.step (apply (size % 0x10000))) t (label mb a mb') = some t' ∧
        (Inv mb' ∧ mb'.size = size % 0x10000 ∧ t' = view mb') := by
    rintro mb a mb' t ⟨hinv, hsize, rfl⟩ hs
    have hm := matched_step hinv hs
    have hexec := hm.exec
    rw [hsize] at hexec
    exact ⟨view mb', hexec, hm.inv, hm.size.trans hsize, rfl⟩
  obtain ⟨t, ht, hinv, hsize, rfl⟩ := exec_simulates hsim as _ mb (view (rtMbInit msgPool size))
    ⟨inv_init msgPool size, rfl, rfl⟩ hrun
  rw [← hsize] at ht
  refine ⟨view mb, ht, rfl, (length_mails mb).symm, hsize, hinv.entry, hinv.inOffset, fun hpos => ?_⟩
  have hout := hinv.outOffset
  refine ⟨?_, by omega⟩
  rw [hinv.inOffset]
  exact Nat.mod_lt _ hpos

/-- A mailbox of two words: a send, an urgent send that wraps the offset around, and two receives. -/
def urgentFirst : List (Action Unit) :=
  [.call () (.send 1#32 0), .run () ⟨0, true, true⟩, .run () ⟨0, true, true⟩,
    .call () (.urgent 2#32), .run () ⟨0, true, true⟩, .run () ⟨0, true, true⟩,
    .call () (.recv 0), .run () ⟨0, true, true⟩]

theorem mb_refines_urgentFirst :
    ∃ mb, exec (Mb.step fun list ag => list ++ [ag]) (rtMbInit (fun _ => 0#32) 2) urgentFirst = some mb ∧
      mb.pc () = .done (.ok (.mail 2#32)) ∧
      ∃ t, exec (Atomic.step (apply mb.size)) (Object.init [])
          (observe (Mb.step fun list ag => list ++ [ag]) label (rtMbInit (fun _ => 0#32) 2) urgentFirst) =
            some t ∧ t.value = mails mb ∧ mb.inOffset = (mb.outOffset + mb.entry) % mb.size := by
  obtain ⟨mb, hmb, hpc⟩ : ∃ mb, exec (Mb.step fun list ag => list ++ [ag])
      (rtMbInit (fun _ => 0#32) 2) urgentFirst = some mb ∧ mb.pc () = .done (.ok (.mail 2#32)) :=
    ⟨_, rfl, rfl⟩
  obtain ⟨t, ht, hmails, -, -, -, hin, -⟩ := mb_refines _ _ _ _ mb hmb
  exact ⟨mb, hmb, hpc, t, ht, hmails, hin⟩

end N32L43x.Mb
