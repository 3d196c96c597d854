import Mathlib.Data.Int.Notation
import N32L43x.Lib.Atomic

/-!
Objects whose calls say by a number whether they had their effect.  A call that had it returns the number
that goes with it, and what it has stored for its caller; a call that had none returns a negative number.
At any moment somebody may also empty the object.
-/

namespace N32L43x.Lib.Answers

open N32L43x.Lib.Run

variable {Ag Op Out S Res Err : Type*}

/-- What a call returns, and what it has stored for its caller. -/
structure Answer (Out : Type*) where
  value : ℤ
  out : Option Out
deriving DecidableEq

/-- An agent: it has called, or the call has had its effect, or is over without one, and will return. -/
inductive Pend (Op Out : Type*)
  | idle
  | called (op : Op)
  | effective (ans : Answer Out)
  | failed

/-- The value of the object, and the agents. -/
structure Object (Ag Op Out S : Type*) where
  value : S
  pend : Ag → Pend Op Out

/-- What is seen of a run: calls, what they return, the moments they take effect or fail, and those at
which the object is emptied. -/
inductive Label (Ag Op Out : Type*)
  | call (ag : Ag) (op : Op)
  | commit (ag : Ag)
  | fail (ag : Ag)
  | reset
  | ret (ag : Ag) (ans : Answer Out)

variable [DecidableEq Ag]

def Object.setPend (t : Object Ag Op Out S) (ag : Ag) (p : Pend Op Out) : Object Ag Op Out S :=
  { t with pend := Function.update t.pend ag p }

/-- One step, where `apply` is the effect of an operation and what it answers. -/
def step [DecidableEq Out] (apply : S → Op → Option (S × Answer Out)) (empty : S)
    (t : Object Ag Op Out S) : Label Ag Op Out → Option (Object Ag Op Out S)
  | .call ag op =>
    match t.pend ag with
    | .idle => some (t.setPend ag (.called op))
    | _ => none
  | .commit ag =>
    match t.pend ag with
    | .called op =>
      (apply t.value op).map fun (value, ans) => { t with value := value }.setPend ag (.effective ans)
    | _ => none
  | .fail ag =>
    match t.pend ag with
    | .called _ => some (t.setPend ag .failed)
    | _ => none
  | .reset => some { t with value := empty }
  | .ret ag ans =>
    match t.pend ag with
    | .effective ans' => if ans = ans' then some (t.setPend ag .idle) else none
    | .failed => if ans.value < 0 then some (t.setPend ag .idle) else none
    | _ => none

/-- A new object. -/
def Object.init (value : S) : Object Ag Op Out S := ⟨value, fun _ => .idle⟩

/-- An agent that stays as it is. -/
lemma Object.setPend_of_pend {t : Object Ag Op Out S} {ag : Ag} {p : Pend Op Out} (h : t.pend ag = p) :
    t.setPend ag p = t := by
  unfold Object.setPend
  rw [← h, Function.update_eq_self]

/-! ### One step -/

variable [DecidableEq Out] {apply : S → Op → Option (S × Answer Out)} {empty : S}
  {t : Object Ag Op Out S} {ag : Ag} {op : Op} {ans : Answer Out}

lemma step_call (h : t.pend ag = .idle) (op : Op) :
    step apply empty t (.call ag op) = some (t.setPend ag (.called op)) := by
  simp [step, h]

lemma step_commit (h : t.pend ag = .called op) {value : S} (happly : apply t.value op = some (value, ans)) :
    step apply empty t (.commit ag) = some ({ t with value := value }.setPend ag (.effective ans)) := by
  simp [step, h, happly]

lemma step_fail (h : t.pend ag = .called op) :
    step apply empty t (.fail ag) = some (t.setPend ag .failed) := by
  simp [step, h]

lemma step_ret (h : t.pend ag = .effective ans) :
    step apply empty t (.ret ag ans) = some (t.setPend ag .idle) := by
  simp [step, h]

lemma step_ret_failed (h : t.pend ag = .failed) (hneg : ans.value < 0) :
    step apply empty t (.ret ag ans) = some (t.setPend ag .idle) := by
  simp [step, h, hneg]

/-! ### Objects whose calls deliver results or fail with errors -/

/-- What a result or an error says to the caller. -/
def answer (ok : Res → Answer Out) (value : Err → ℤ) : Except Err Res → Answer Out
  | .ok res => ok res
  | .error e => ⟨value e, none⟩

/-- An agent, as far as the answers go. -/
def Pend.of (ok : Res → Answer Out) : Atomic.Pend Op Res Err → Pend Op Out
  | .idle => .idle
  | .called op => .called op
  | .done (.ok res) => .effective (ok res)
  | .done (.error _) => .failed

/-- An object, as far as the answers go. -/
def Object.of (ok : Res → Answer Out) (t : Atomic.Object Ag Op Res Err S) : Object Ag Op Out S where
  value := t.value
  pend ag := .of ok (t.pend ag)

/-- What is seen of a step. -/
def Label.of (ok : Res → Answer Out) (value : Err → ℤ) : Atomic.Label Ag Op Res Err → Label Ag Op Out
  | .call ag op => .call ag op
  | .commit ag => .commit ag
  | .fail ag _ => .fail ag
  | .ret ag res => .ret ag (answer ok value res)

/-- The error a call returns, if it returns one, is a negative number. -/
def Negative (value : Err → ℤ) : Atomic.Label Ag Op Res Err → Prop
  | .ret _ (.error e) => value e < 0
  | _ => True

/-- The effect of an operation, and what it answers. -/
def answering (apply : S → Op → Option (S × Res)) (ok : Res → Answer Out) (value : S) (op : Op) :
    Option (S × Answer Out) :=
  (apply value op).map fun (value, res) => (value, ok res)

omit [DecidableEq Out] in
lemma Object.of_setPend (ok : Res → Answer Out) (t : Atomic.Object Ag Op Res Err S) (ag : Ag)
    (p : Atomic.Pend Op Res Err) : Object.of ok (t.setPend ag p) = (Object.of ok t).setPend ag (.of ok p) := by
  have hpend : (fun ag' => Pend.of ok ((t.setPend ag p).pend ag')) =
      Function.update (fun ag' => Pend.of ok (t.pend ag')) ag (.of ok p) := by
    funext ag'
    by_cases hag : ag' = ag
    · subst hag
      simp [Atomic.Object.setPend]
    · simp [Atomic.Object.setPend, Function.update_of_ne hag]
  unfold Object.of Object.setPend
  rw [hpend]
  rfl

/-- A step of an object is one of the object that answers. -/
lemma step_of [DecidableEq (Except Err Res)] {apply : S → Op → Option (S × Res)} {ok : Res → Answer Out}
    {value : Err → ℤ} {t t' : Atomic.Object Ag Op Res Err S} {l : Atomic.Label Ag Op Res Err}
    (h : Atomic.step apply t l = some t') (hneg : Negative value l) (empty : S) :
    step (answering apply ok) empty (.of ok t) (.of ok value l) = some (.of ok t') := by
  have hpend : ∀ ag p, t.pend ag = p → (Object.of ok t).pend ag = .of ok p :=
    fun ag p hp => congrArg (Pend.of ok) hp
  cases l with
  | call ag op =>
    simp only [Atomic.step] at h
    split at h
    · rename_i hidle
      cases h
      rw [Object.of_setPend]
      exact step_call (hpend ag _ hidle) op
    · cases h
  | commit ag =>
    simp only [Atomic.step] at h
    split at h
    · rename_i op hcalled
      obtain ⟨⟨v, res⟩, happly, ht⟩ := Option.map_eq_some_iff.mp h
      subst ht
      rw [Object.of_setPend]
      refine step_commit (hpend ag _ hcalled) ?_
      show answering apply ok t.value op = _
      simp [answering, happly]
    · cases h
  | fail ag e =>
    simp only [Atomic.step] at h
    split at h
    · rename_i hcalled
      cases h
      rw [Object.of_setPend]
      exact step_fail (hpend ag _ hcalled)
    · cases h
  | ret ag res =>
    simp only [Atomic.step] at h
    split at h
    · rename_i res' hdone
      split at h
      · rename_i heq
        subst heq
        cases h
        rw [Object.of_setPend]
        cases res with
        | ok res => exact step_ret (hpend ag _ hdone)
        | error e => exact step_ret_failed (hpend ag _ hdone) hneg
      · cases h
    · cases h

/-- So is a run. -/
lemma exec_of [DecidableEq (Except Err Res)] {apply : S → Op → Option (S × Res)} {ok : Res → Answer Out}
    {value : Err → ℤ} (empty : S) : ∀ (ls : List (Atomic.Label Ag Op Res Err))
      (t t' : Atomic.Object Ag Op Res Err S), exec (Atomic.step apply) t ls = some t' →
      (∀ l ∈ ls, Negative value l) →
      exec (step (answering apply ok) empty) (.of ok t) (ls.map (.of ok value)) = some (.of ok t')
  | [], t, t', h, _ => by
    obtain rfl : t = t' := by simpa [exec] using h
    rfl
  | l :: ls, t, t', h, hneg => by
    rcases hs : Atomic.step apply t l with _ | u
    · rw [exec_cons_none hs] at h
      cases h
    · rw [exec_cons_some hs] at h
      rw [List.map_cons, exec_cons_some (step_of hs (hneg l List.mem_cons_self) empty)]
      exact exec_of empty ls u t' h fun l' hl' => hneg l' (List.mem_cons_of_mem l hl')

end N32L43x.Lib.Answers
