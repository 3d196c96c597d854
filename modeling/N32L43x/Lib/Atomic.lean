import Mathlib.Logic.Function.Basic
import N32L43x.Lib.Run

/-!
Objects on which every call takes effect at once, at some moment between its start and its return, or
fails without an effect.  An object is given by the effect of an operation on its value, where that is
possible.
-/

namespace N32L43x.Lib.Atomic

open N32L43x.Lib.Run

variable {Ag Op Res Err S : Type*}

/-- An agent: it has called, or the call has had its effect, or failed, and will return. -/
inductive Pend (Op Res Err : Type*)
  | idle
  | called (op : Op)
  | done (res : Except Err Res)

/-- The value of the object, and the agents. -/
structure Object (Ag Op Res Err S : Type*) where
  value : S
  pend : Ag → Pend Op Res Err

/-- What is seen of a run: calls and returns, and the moments calls take effect or fail. -/
inductive Label (Ag Op Res Err : Type*)
  | call (ag : Ag) (op : Op)
  | commit (ag : Ag)
  | fail (ag : Ag) (e : Err)
  | ret (ag : Ag) (res : Except Err Res)

variable [DecidableEq Ag]

def Object.setPend (t : Object Ag Op Res Err S) (ag : Ag) (p : Pend Op Res Err) :
    Object Ag Op Res Err S :=
  { t with pend := Function.update t.pend ag p }

/-- One step, where `apply` is the effect of an operation and what it returns. -/
def step [DecidableEq (Except Err Res)] (apply : S → Op → Option (S × Res))
    (t : Object Ag Op Res Err S) : Label Ag Op Res Err → Option (Object Ag Op Res Err S)
  | .call ag op =>
    match t.pend ag with
    | .idle => some (t.setPend ag (.called op))
    | _ => none
  | .commit ag =>
    match t.pend ag with
    | .called op =>
      (apply t.value op).map fun (value, res) => { t with value := value }.setPend ag (.done (.ok res))
    | _ => none
  | .fail ag e =>
    match t.pend ag with
    | .called _ => some (t.setPend ag (.done (.error e)))
    | _ => none
  | .ret ag res =>
    match t.pend ag with
    | .done res' => if res = res' then some (t.setPend ag .idle) else none
    | _ => none

/-- A new object. -/
def Object.init (value : S) : Object Ag Op Res Err S := ⟨value, fun _ => .idle⟩

/-! ### Runs of one step -/

variable [DecidableEq (Except Err Res)] {apply : S → Op → Option (S × Res)}
  {t : Object Ag Op Res Err S} {ag : Ag} {op : Op}

lemma exec_call (h : t.pend ag = .idle) (op : Op) :
    exec (step apply) t [.call ag op] = some (t.setPend ag (.called op)) := by
  simp [exec, step, h]

lemma exec_commit (h : t.pend ag = .called op) {value : S} {res : Res}
    (happly : apply t.value op = some (value, res)) : exec (step apply) t [.commit ag] =
      some ({ t with value := value }.setPend ag (.done (.ok res))) := by
  simp [exec, step, h, happly]

lemma exec_fail (h : t.pend ag = .called op) (e : Err) :
    exec (step apply) t [.fail ag e] = some (t.setPend ag (.done (.error e))) := by
  simp [exec, step, h]

lemma exec_ret {res : Except Err Res} (h : t.pend ag = .done res) :
    exec (step apply) t [.ret ag res] = some (t.setPend ag .idle) := by
  simp [exec, step, h]

end N32L43x.Lib.Atomic
