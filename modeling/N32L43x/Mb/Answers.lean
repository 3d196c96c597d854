import N32L43x.Ipc.Answers
import N32L43x.Lib.Answers
import N32L43x.Mb.Refine

/-!
A mailbox that may be reset or detached while callers are blocked on it, and what the calls return.
-/

namespace N32L43x.Mb

open N32L43x.Ipc N32L43x.Lib N32L43x.Lib.Answers N32L43x.Lib.Run

variable {Ag : Type*} [DecidableEq Ag] {enqueue : List Ag → Ag → List Ag} {mb mb' : Mailbox Ag} {ag : Ag}
  {pc' : Pc} {env : Env} {value : Word} {timeout : ℤ}

/-- What happens to a mailbox.  With a reset and a detach stands how many threads of each list the
scheduler can make ready. -/
inductive Event (Ag : Type*)
  | act (a : Action Ag)
  /-- `rt_mb_control` with `RT_IPC_CMD_RESET` -/
  | reset (receivers senders : ℕ)
  /-- `rt_mb_detach`; also `rt_mb_delete`, up to the moment the memory is freed -/
  | detach (receivers senders : ℕ)

/-- `rt_susp_list_resume_all` with `RT_ERROR` for both lists. -/
def resumeAll (mb : Mailbox Ag) (receivers senders : ℕ) : Mailbox Ag :=
  let receiversLeft := rtSuspListResumeAll rtError receivers mb.suspendThread mb.error
  let sendersLeft := rtSuspListResumeAll rtError senders mb.suspendSenderThread receiversLeft.2
  { mb with suspendThread := receiversLeft.1, suspendSenderThread := sendersLeft.1, error := sendersLeft.2 }

def eventStep (enqueue : List Ag → Ag → List Ag) (mb : Mailbox Ag) : Event Ag → Option (Mailbox Ag)
  | .act a => Mb.step enqueue mb a
  | .reset receivers senders =>
    some { resumeAll mb receivers senders with entry := 0, inOffset := 0, outOffset := 0 }
  | .detach receivers senders => some (resumeAll mb receivers senders)

/-- What a call that succeeds returns, and what it stores at `value`. -/
def Result.answer : Result → Answer Word
  | .sent => ⟨0, none⟩
  | .mail value => ⟨0, some value⟩

/-- What is seen of an event. -/
def eventLabel (mb : Mailbox Ag) (ev : Event Ag) (mb' : Mailbox Ag) : List (Label Ag AbsOp Word) :=
  match ev with
  | .act a => (label mb a mb').map (.of Result.answer IpcErr.value)
  | .reset .. => [.reset]
  | .detach .. => []

/-- A reset or a detach wakes nobody. -/
def WakesNobody (mb : Mailbox Ag) : Event Ag → Prop
  | .act _ => True
  | .reset receivers senders | .detach receivers senders =>
    Ipc.WakesNobody receivers mb.suspendThread ∧ Ipc.WakesNobody senders mb.suspendSenderThread

instance (mb : Mailbox Ag) (ev : Event Ag) : Decidable (WakesNobody mb ev) :=
  match ev with
  | .act _ => isTrue trivial
  | .reset receivers senders => inferInstanceAs (Decidable (Ipc.WakesNobody receivers mb.suspendThread ∧
      Ipc.WakesNobody senders mb.suspendSenderThread))
  | .detach receivers senders => inferInstanceAs (Decidable (Ipc.WakesNobody receivers mb.suspendThread ∧
      Ipc.WakesNobody senders mb.suspendSenderThread))

/-! ### The error numbers -/

/-- The error a call returns. -/
def failure : Pc → Option IpcErr
  | .done (.error e) => some e
  | _ => none

lemma failure_of {e : IpcErr} (he : e.value < 0) : ∀ e', failure (.done (.error e)) = some e' → e'.value < 0 := by
  rintro e' ⟨⟩
  exact he

lemma fair_dequeueReceiver (mb : Mailbox Ag) (h : Fair failure mb.error mb.pc) (ready : Bool) :
    Fair failure (dequeueReceiver mb ready).error (dequeueReceiver mb ready).pc := by
  unfold dequeueReceiver
  split
  · exact h
  · split
    · exact h.setError (.inl rfl) _
    · exact h

lemma fair_dequeueSender (mb : Mailbox Ag) (h : Fair failure mb.error mb.pc) (ready : Bool) :
    Fair failure (dequeueSender mb ready).error (dequeueSender mb ready).pc := by
  unfold dequeueSender
  split
  · exact h
  · split
    · exact h.setError (.inl rfl) _
    · exact h

lemma fair_sendLoop (h : Fair failure mb.error mb.pc) :
    Fair failure (sendLoop enqueue mb ag value timeout env).error
      (sendLoop enqueue mb ag value timeout env).pc := by
  have herr : Fair failure (setError mb ag .eintr).error (setError mb ag .eintr).pc :=
    h.setError (.inr (by decide)) ag
  unfold sendLoop
  split
  · dsimp only
    split
    · exact herr.setPc (failure_of (by decide)) ag
    split
    · exact herr.setPc (fun _ he => by cases he) ag
    · exact herr.setPc (failure_of (by decide)) ag
  · dsimp only
    split
    · exact (fair_dequeueReceiver { putBack mb value with entry := (putBack mb value).entry + 1 }
        h env.ready).setPc (fun _ he => by cases he) ag
    · exact h.setPc (failure_of (by decide)) ag

lemma fair_urgent (h : Fair failure mb.error mb.pc) :
    Fair failure (urgent mb ag value env).error (urgent mb ag value env).pc := by
  unfold urgent
  split
  · exact h.setPc (failure_of (by decide)) ag
  · exact (fair_dequeueReceiver
      { putFront mb value with entry := ((putFront mb value).entry + 1) % 0x10000 }
      h env.ready).setPc (fun _ he => by cases he) ag

lemma fair_recvLoop (h : Fair failure mb.error mb.pc) :
    Fair failure (recvLoop enqueue mb ag timeout env).error (recvLoop enqueue mb ag timeout env).pc := by
  have herr : Fair failure (setError mb ag .eintr).error (setError mb ag .eintr).pc :=
    h.setError (.inr (by decide)) ag
  unfold recvLoop
  split
  · dsimp only
    split
    · exact (herr.setError (.inr (by decide)) ag).setPc (failure_of (by decide)) ag
    split
    · exact herr.setPc (fun _ he => by cases he) ag
    · exact herr.setPc (failure_of (by decide)) ag
  · exact (fair_dequeueSender (takeFront mb) h env.ready).setPc (fun _ he => by cases he) ag

lemma fair_run (h : Fair failure mb.error mb.pc) (hs : runAgent enqueue mb ag env = some mb') :
    Fair failure mb'.error mb'.pc := by
  unfold runAgent at hs
  cases hpc : mb.pc ag with
  | idle =>
    rw [hpc] at hs
    cases hs
  | sendEntry value timeout =>
    simp only [hpc] at hs
    split at hs <;> cases hs
    · exact h.setPc (failure_of (by decide)) ag
    · exact fair_sendLoop h
  | sendWait value timeout =>
    simp only [hpc] at hs
    split at hs
    · cases hs
    split at hs <;> cases hs
    · rename_i hne
      exact h.setPc (failure_of (h.value_neg hne)) ag
    · exact fair_sendLoop h
  | urgentEntry value =>
    simp only [hpc] at hs
    cases hs
    exact fair_urgent h
  | recvEntry timeout =>
    simp only [hpc] at hs
    split at hs <;> cases hs
    · exact h.setPc (failure_of (by decide)) ag
    · exact fair_recvLoop h
  | recvWait timeout =>
    simp only [hpc] at hs
    split at hs
    · cases hs
    split at hs <;> cases hs
    · rename_i hne
      exact h.setPc (failure_of (h.value_neg hne)) ag
    · exact fair_recvLoop h
  | done res =>
    simp only [hpc] at hs
    cases hs
    exact h.setPc (fun _ he => by cases he) ag

lemma fair_step {a : Action Ag} (h : Fair failure mb.error mb.pc) (hs : Mb.step enqueue mb a = some mb') :
    Fair failure mb'.error mb'.pc := by
  cases a with
  | run ag env => exact fair_run h hs
  | call ag op =>
    simp only [Mb.step] at hs
    split at hs
    · cases hs
      exact h.setPc (fun _ he => by cases op <;> cases he) ag
    · cases hs
  | expire ag =>
    simp only [Mb.step] at hs
    split at hs
    · cases hs
      exact h.setError (.inr (by decide)) ag
    · cases hs

/-! ### One event -/

lemma resumeAll_of_wakesNobody {receivers senders : ℕ}
    (h : Ipc.WakesNobody receivers mb.suspendThread ∧ Ipc.WakesNobody senders mb.suspendSenderThread) :
    resumeAll mb receivers senders = mb := by
  simp only [resumeAll, h.1.resumeAll, h.2.resumeAll]

omit [DecidableEq Ag] in
/-- A call returns a negative error only. -/
lemma negative_label (h : Fair failure mb.error mb.pc) {a : Action Ag} :
    ∀ l ∈ label mb a mb', Negative IpcErr.value l := by
  cases a with
  | call ag op => simp [label, Negative]
  | expire ag => simp [label]
  | run ag env =>
    intro l hl
    simp only [label] at hl
    unfold runLabel at hl
    split at hl
    · rename_i res hpc
      obtain rfl := List.mem_singleton.mp hl
      cases res with
      | ok res => trivial
      | error e => exact h.failed ag e (by rw [hpc]; rfl)
    all_goals
      first
        | (obtain rfl := List.mem_singleton.mp hl
           trivial)
        | cases hl

/-- The object that answers, as the mailbox implements it. -/
def answers (mb : Mailbox Ag) : Object Ag AbsOp Word (List Word) := .of Result.answer (view mb)

/-- **One event.**  If it wakes nobody by a reset or a detach, it is matched over its label. -/
theorem answers_event {ev : Event Ag} (h : Inv mb) (hfair : Fair failure mb.error mb.pc)
    (hC : WakesNobody mb ev) (hs : eventStep enqueue mb ev = some mb') :
    Inv mb' ∧ Fair failure mb'.error mb'.pc ∧ mb'.size = mb.size ∧
      exec (Answers.step (answering (apply mb.size) Result.answer) []) (answers mb)
        (eventLabel mb ev mb') = some (answers mb') := by
  cases ev with
  | act a =>
    have hm := matched_step h hs
    exact ⟨hm.inv, fair_step hfair hs, hm.size, exec_of [] _ _ _ hm.exec (negative_label hfair)⟩
  | reset receivers senders =>
    simp only [eventStep, resumeAll_of_wakesNobody hC] at hs
    cases hs
    refine ⟨⟨h.size, Nat.zero_le _, (Nat.zero_mod _).symm, Nat.zero_le _⟩, hfair, rfl, ?_⟩
    rfl
  | detach receivers senders =>
    simp only [eventStep, resumeAll_of_wakesNobody hC] at hs
    cases hs
    exact ⟨h, hfair, rfl, rfl⟩

/-! ### Whole runs -/

/-- What a call is about to return is right. -/
def Says (pend : Pend AbsOp Word) : Except IpcErr Result → Prop
  | .error e => pend = .failed ∧ e.value < 0
  | .ok res => pend = .effective res.answer

/-- The calls of a mailbox say whether they had their effect, in every run in which no reset and no detach
wakes a blocked caller. -/
lemma answers_run (enqueue : List Ag → Ag → List Ag) (msgPool : ℕ → Word) (size : ℕ) (evs : List (Event Ag))
    (hC : Along (eventStep enqueue) WakesNobody (rtMbInit msgPool size) evs)
    (hrun : exec (eventStep enqueue) (rtMbInit msgPool size) evs = some mb) :
    ∃ t, exec (Answers.step (answering (apply mb.size) Result.answer) []) (Object.init [])
        (observe (eventStep enqueue) eventLabel (rtMbInit msgPool size) evs) = some t ∧
      t.value = mails mb ∧ ∀ ag res, mb.pc ag = .done res → Says (t.pend ag) res := by
  have hsim : ∀ (mb : Mailbox Ag) (ev : Event Ag) (mb' : Mailbox Ag) (t : Object Ag AbsOp Word (List Word)),
      (Inv mb ∧ Fair failure mb.error mb.pc ∧ mb.size = size % 0x10000 ∧ t = answers mb) →
      WakesNobody mb ev → eventStep enqueue mb ev = some mb' →
      ∃ t', exec (Answers.step (answering (apply (size % 0x10000)) Result.answer) []) t
          (eventLabel mb ev mb') = some t' ∧
        (Inv mb' ∧ Fair failure mb'.error mb'.pc ∧ mb'.size = size % 0x10000 ∧ t' = answers mb') := by
    rintro mb ev mb' t ⟨hinv, hfair, hsize, rfl⟩ hC hs
    obtain ⟨hinv', hfair', hsize', hexec⟩ := answers_event hinv hfair hC hs
    rw [hsize] at hexec
    exact ⟨_, hexec, hinv', hfair', hsize'.trans hsize, rfl⟩
  have hfair : Fair failure (rtMbInit msgPool size : Mailbox Ag).error (rtMbInit msgPool size).pc :=
    ⟨fun _ => .inl rfl, fun _ _ he => by cases he⟩
  obtain ⟨t, ht, -, hfair, hsize, rfl⟩ := exec_simulates_of_along hsim evs _ mb (Object.init [])
    ⟨inv_init msgPool size, hfair, rfl, rfl⟩ hC hrun
  rw [← hsize] at ht
  refine ⟨_, ht, rfl, fun ag res hpc => ?_⟩
  have hpend : (answers mb).pend ag = Pend.of Result.answer (absPc (.done res)) :=
    congrArg (fun pc => Pend.of Result.answer (absPc pc)) hpc
  cases res with
  | ok res => exact hpend
  | error e => exact ⟨hpend, hfair.failed ag e (by rw [hpc]; rfl)⟩

end N32L43x.Mb
