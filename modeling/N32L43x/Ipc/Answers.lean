import Mathlib.Data.Nat.Init
import Mathlib.Logic.Function.Basic
import N32L43x.Ipc.Err

/-!
The error numbers of the threads that wait on an object, and what the calls make of them.  A thread that
is woken returns its error number, unless it is `RT_EOK`; so all depends on who woke it.
-/

namespace N32L43x.Ipc

variable {Ag Pc : Type*} [DecidableEq Ag] {error : Ag → IpcErr} {pc : Ag → Pc} {ag : Ag} {n : ℕ}
  {list : List Ag} {e : IpcErr}

/-- `rt_susp_list_resume_all`: the threads that stay in the list, and the error numbers.  `n` of the
dequeues succeed, if there are as many threads. -/
def rtSuspListResumeAll (threadError : IpcErr) : ℕ → List Ag → (Ag → IpcErr) → List Ag × (Ag → IpcErr)
  | 0, list, error => (list, error)
  | _ + 1, [], error => ([], error)
  | n + 1, t :: ts, error => rtSuspListResumeAll threadError n ts (Function.update error t threadError)

omit [DecidableEq Ag] in
/-- Nobody is woken. -/
def WakesNobody (n : ℕ) (list : List Ag) : Prop := n = 0 ∨ list = []

instance (n : ℕ) (list : List Ag) : Decidable (WakesNobody n list) :=
  inferInstanceAs (Decidable (_ ∨ _))

lemma WakesNobody.resumeAll (h : WakesNobody n list) (threadError : IpcErr) (error : Ag → IpcErr) :
    rtSuspListResumeAll threadError n list error = (list, error) := by
  rcases h with rfl | rfl
  · cases list <;> rfl
  · cases n <;> rfl

/-- The error numbers are `RT_EOK` or negative, and so is what a call returns that has failed: `failure` is
the error that a place in a call stands for. -/
structure Fair (failure : Pc → Option IpcErr) (error : Ag → IpcErr) (pc : Ag → Pc) : Prop where
  error : ∀ ag, error ag = .eok ∨ (error ag).value < 0
  failed : ∀ ag e, failure (pc ag) = some e → e.value < 0

variable {failure : Pc → Option IpcErr}

lemma Fair.setError (h : Fair failure error pc) (he : e = .eok ∨ e.value < 0) (ag : Ag) :
    Fair failure (Function.update error ag e) pc := by
  refine ⟨fun ag' => ?_, h.failed⟩
  by_cases hag : ag' = ag
  · subst hag
    rw [Function.update_self]
    exact he
  · rw [Function.update_of_ne hag]
    exact h.error ag'

lemma Fair.setPc (h : Fair failure error pc) {pc' : Pc} (hpc : ∀ e, failure pc' = some e → e.value < 0)
    (ag : Ag) : Fair failure error (Function.update pc ag pc') := by
  refine ⟨h.error, fun ag' e he => ?_⟩
  by_cases hag : ag' = ag
  · subst hag
    rw [Function.update_self] at he
    exact hpc e he
  · rw [Function.update_of_ne hag] at he
    exact h.failed ag' e he

omit [DecidableEq Ag] in
/-- The error number of a thread that gives up is negative. -/
lemma Fair.value_neg (h : Fair failure error pc) (hne : error ag ≠ .eok) : (error ag).value < 0 :=
  (h.error ag).resolve_left hne

end N32L43x.Ipc
