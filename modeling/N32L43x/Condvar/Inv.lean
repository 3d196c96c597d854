import Mathlib.Data.List.Basic
import N32L43x.Condvar.Defs
import N32L43x.Lib.Count

/-!
What holds of a condition variable in every state.  Each thread has a part of the invariant, which only
its own steps, the hand-over of the mutex, a wake-up and its timer touch.
-/

namespace N32L43x.Condvar

open N32L43x.Ipc N32L43x.Waitqueue N32L43x.Lib.Count

/-! ### Where a thread is -/

/-- It holds the mutex, once. -/
def Pc.holds : Pc → Bool
  | .asserting _ | .asserted _ | .joining _ | .joined _ | .counted _ | .inqueued _ | .returns _ => true
  | .checking _ | .waking _ | .clearing => true
  | _ => false

/-- It has released the mutex, and not yet asked for it again. -/
def Pc.released : Pc → Bool
  | .sleeping _ | .leaving _ | .removed _ | .retaking _ => true
  | _ => false

/-- It is in `waiters_cnt`. -/
def Pc.counts : Pc → Bool
  | .counted _ | .inqueued _ | .sleeping _ | .leaving _ | .removed _ => true
  | _ => false

/-- Its node may be in the wait queue. -/
def Pc.queued : Pc → Bool
  | .inqueued _ | .sleeping _ | .leaving _ => true
  | _ => false

/-- It waits for the mutex. -/
def Pc.takes : Pc → Bool
  | .lockWait | .takeWait _ => true
  | _ => false

/-- It runs, outside the wait. -/
def Pc.active : Pc → Bool
  | .idle | .asserting _ | .asserted _ | .joining _ | .joined _ | .counted _ => true
  | .checking _ | .waking _ | .clearing => true
  | _ => false

/-- It was suspended in the wait queue: what `_waitq_inqueue` returned. -/
def Pc.slept : Pc → Option ℤ
  | .inqueued rc | .sleeping rc => some rc
  | _ => none

/-- Its wait is over: what it will return. -/
def Pc.rc : Pc → Option ℤ
  | .leaving rc | .removed rc | .retaking rc | .takeWait rc | .returns rc => some rc
  | _ => none

/-- A thread that waits for the mutex is nowhere else. -/
lemma Pc.of_takes {pc : Pc} (h : pc.takes = true) :
    pc.holds = false ∧ pc.released = false ∧ pc.slept = none := by
  cases pc <;> first | exact ⟨rfl, rfl, rfl⟩ | cases h

lemma Pc.of_active {pc : Pc} (h : pc.active = true) :
    pc.takes = false ∧ pc.slept = none ∧ pc.released = false ∧ pc.rc = none ∧ pc.queued = false := by
  cases pc <;> first | exact ⟨rfl, rfl, rfl, rfl, rfl⟩ | cases h

lemma Call.active_entered (call : Call) : call.entered.active = true := by cases call <;> rfl

lemma Call.counts_entered (call : Call) : call.entered.counts = false := by cases call <;> rfl

lemma Pc.counts_of_queued {pc : Pc} (h : pc.queued = true) : pc.counts = true := by
  cases pc <;> first | rfl | cases h

lemma Pc.takes_of_queued {pc : Pc} (h : pc.queued = true) : pc.takes = false := by
  cases pc <;> first | rfl | cases h

lemma Pc.rc_of_slept {pc : Pc} (h : pc.slept.isSome = true) : pc.rc = none := by
  cases pc <;> first | rfl | cases h

/-! ### One thread -/

/-- The thread has been resumed, and `rc` is `0` unless its timer has done it. -/
def Woken (th : Thread) (rc : ℤ) : Prop :=
  ∃ cause, th.resumedBy = some cause ∧ ((∃ waker, cause = .waker waker) → rc = 0)

variable {Ag : Type} {cv cv' : RtCondvar Ag} {t u : Ag}

/-- The thread is not suspended. -/
structure Awake (cv : RtCondvar Ag) (t : Ag) : Prop where
  suspended : (cv.thread t).suspended = false
  timerActive : (cv.thread t).timerActive = false
  listed : t ∉ cv.suspendThread

/-- The part of the invariant that is about one thread. -/
structure Local (cv : RtCondvar Ag) (t : Ag) : Prop where
  holds : (cv.thread t).pc.holds = true → cv.owner = some t ∧ cv.hold = 1
  released : (cv.thread t).pc.released = true → cv.owner ≠ some t
  queued : t ∈ cv.event.waitingList → (cv.thread t).pc.queued = true
  listed : t ∈ cv.suspendThread → (cv.thread t).suspended = true ∧ (cv.thread t).pc.takes = true
  timer : (cv.thread t).timerActive = true → (cv.thread t).suspended = true
  suspended : (cv.thread t).suspended = true → t ∈ cv.suspendThread ∨
    (cv.thread t).pc.slept.isSome = true ∧ t ∈ cv.event.waitingList ∧ (cv.thread t).resumedBy = none
  taken : ∀ rc, (cv.thread t).pc = .takeWait rc → (cv.thread t).timerActive = false ∧
    ((cv.thread t).suspended = false → cv.owner = some t ∧ cv.hold = 1)
  slept : ∀ rc, (cv.thread t).pc.slept = some rc → rc = 0 ∧
    ((cv.thread t).suspended = false → Woken (cv.thread t) (errnoRc (cv.thread t).error))
  done : ∀ rc, (cv.thread t).pc.rc = some rc → Woken (cv.thread t) rc

namespace Local

lemma awake_of_ready (h : Local cv t) (hsus : (cv.thread t).suspended = false) : Awake cv t := by
  refine ⟨hsus, ?_, fun hlist => ?_⟩
  · by_contra htimer
    have hs := h.timer (eq_true_of_ne_false htimer)
    rw [hsus] at hs
    cases hs
  · have hs := (h.listed hlist).1
    rw [hsus] at hs
    cases hs

/-- A thread that is nowhere suspended in the model is awake. -/
lemma awake (h : Local cv t) (htakes : (cv.thread t).pc.takes = false)
    (hslept : (cv.thread t).pc.slept = none) : Awake cv t := by
  refine h.awake_of_ready (eq_false_of_ne_true fun hsus => ?_)
  rcases h.suspended hsus with hlist | ⟨hsome, -, -⟩
  · have htakes' := (h.listed hlist).2
    rw [htakes] at htakes'
    cases htakes'
  · rw [hslept] at hsome
    cases hsome

/-- A thread that is awake, and goes on. -/
lemma of_awake (haw : Awake cv t) (htakes : (cv.thread t).pc.takes = false)
    (hslept : (cv.thread t).pc.slept = none)
    (hholds : (cv.thread t).pc.holds = true → cv.owner = some t ∧ cv.hold = 1)
    (hreleased : (cv.thread t).pc.released = true → cv.owner ≠ some t)
    (hqueued : t ∈ cv.event.waitingList → (cv.thread t).pc.queued = true)
    (hdone : ∀ rc, (cv.thread t).pc.rc = some rc → Woken (cv.thread t) rc) : Local cv t where
  holds := hholds
  released := hreleased
  queued := hqueued
  listed := fun hlist => absurd hlist haw.listed
  timer := by
    intro htimer
    rw [haw.timerActive] at htimer
    cases htimer
  suspended := by
    intro hsus
    rw [haw.suspended] at hsus
    cases hsus
  taken := by
    intro rc hpc
    rw [hpc] at htakes
    cases htakes
  slept := by
    intro rc hpc
    rw [hslept] at hpc
    cases hpc
  done := hdone

/-- A thread that can be suspended in the wait queue is not in the list of the mutex. -/
lemma not_listed (h : Local cv t) (htakes : (cv.thread t).pc.takes = false) : t ∉ cv.suspendThread := by
  intro hlist
  have htakes' := (h.listed hlist).2
  rw [htakes] at htakes'
  cases htakes'

lemma not_queued (h : Local cv t) (hq : (cv.thread t).pc.queued = false) : t ∉ cv.event.waitingList := by
  intro hmem
  have hq' := h.queued hmem
  rw [hq] at hq'
  cases hq'

end Local

/-! ### What a step of one thread leaves alone -/

/-- What the other threads see of a step of `a`. -/
structure Frame (cv cv' : RtCondvar Ag) (a : Ag) : Prop where
  thread : ∀ t, t ≠ a → cv'.thread t = cv.thread t
  waitingList : ∀ t, t ≠ a → (t ∈ cv'.event.waitingList ↔ t ∈ cv.event.waitingList)
  suspendThread : ∀ t, t ≠ a → (t ∈ cv'.suspendThread ↔ t ∈ cv.suspendThread)
  owner : ∀ t, t ≠ a → (cv'.owner = some t ↔ cv.owner = some t)
  hold : ∀ t, t ≠ a → cv.owner = some t → cv'.hold = cv.hold

lemma Frame.keeps {a : Ag} (hf : Frame cv cv' a) (ht : t ≠ a) (h : Local cv t) : Local cv' t := by
  have hth := hf.thread t ht
  have howns : cv.owner = some t ∧ cv.hold = 1 → cv'.owner = some t ∧ cv'.hold = 1 := by
    rintro ⟨howner, hhold⟩
    exact ⟨(hf.owner t ht).mpr howner, (hf.hold t ht howner).trans hhold⟩
  constructor
  · rw [hth]
    exact fun hp => howns (h.holds hp)
  · rw [hth, Ne, hf.owner t ht]
    exact h.released
  · rw [hth, hf.waitingList t ht]
    exact h.queued
  · rw [hth, hf.suspendThread t ht]
    exact h.listed
  · rw [hth]
    exact h.timer
  · rw [hth, hf.suspendThread t ht, hf.waitingList t ht]
    exact h.suspended
  · rw [hth]
    exact fun rc hpc => ⟨(h.taken rc hpc).1, fun hsus => howns ((h.taken rc hpc).2 hsus)⟩
  · rw [hth]
    exact h.slept
  · rw [hth]
    exact h.done

/-! ### The invariant -/

/-- The invariant. -/
structure Good [Fintype Ag] (cv : RtCondvar Ag) : Prop where
  thread : ∀ t, Local cv t
  flag : cv.event.flag = .wakeup → ∃ t, (cv.thread t).pc = .clearing
  order : cv.event.waitingList.Pairwise fun t u => (cv.thread t).since < (cv.thread u).since
  clock : ∀ t ∈ cv.event.waitingList, (cv.thread t).since < cv.clock
  counted : cv.waitersCnt = (count fun t => (cv.thread t).pc.counts : ℕ)

variable [Fintype Ag] [DecidableEq Ag]

omit [DecidableEq Ag] in
lemma good_rtCondvarInit : Good (rtCondvarInit : RtCondvar Ag) where
  thread := by
    intro t
    refine Local.of_awake ⟨rfl, rfl, ?_⟩ rfl rfl ?_ ?_ ?_ ?_
    · exact List.not_mem_nil
    · intro hp
      cases hp
    · intro hp
      cases hp
    · intro hp
      cases hp
    · intro rc hp
      cases hp
  flag := by
    intro hflag
    cases hflag
  order := List.Pairwise.nil
  clock := by
    intro t ht
    cases ht
  counted := by
    have hzero : (count fun t => ((rtCondvarInit : RtCondvar Ag).thread t).pc.counts) = 0 :=
      count_eq_zero fun t => rfl
    rw [hzero]
    rfl

namespace Good

variable {a : Ag}

/-- **A step of one thread.** -/
lemma of_frame (h : Good cv) (hf : Frame cv cv' a) (ha : Local cv' a)
    (hflag : cv'.event.flag = .wakeup →
      (cv'.thread a).pc = .clearing ∨ cv.event.flag = .wakeup ∧ (cv.thread a).pc ≠ .clearing)
    (horder : cv'.event.waitingList.Pairwise fun t u => (cv'.thread t).since < (cv'.thread u).since)
    (hclock : ∀ t ∈ cv'.event.waitingList, (cv'.thread t).since < cv'.clock)
    (hcount : cv'.waitersCnt + (cv.thread a).pc.counts.toNat =
      cv.waitersCnt + (cv'.thread a).pc.counts.toNat) : Good cv' where
  thread := by
    intro t
    by_cases ht : t = a
    · rw [ht]
      exact ha
    · exact hf.keeps ht (h.thread t)
  flag := by
    intro hw
    rcases hflag hw with hpc | ⟨hold, hpc⟩
    · exact ⟨a, hpc⟩
    · obtain ⟨t, ht⟩ := h.flag hold
      have hne : t ≠ a := by
        rintro rfl
        exact hpc ht
      exact ⟨t, by rw [hf.thread t hne, ht]⟩
  order := horder
  clock := hclock
  counted := by
    have hcnt := count_of_agree (p := fun t => (cv.thread t).pc.counts)
      (q := fun t => (cv'.thread t).pc.counts) a fun t ht => by rw [hf.thread t ht]
    have := h.counted
    omega

/-- A step of one thread that adds no node to the wait queue. -/
lemma frame (h : Good cv) (hf : Frame cv cv' a) (ha : Local cv' a)
    (hlist : cv'.event.waitingList.Sublist cv.event.waitingList)
    (hflag : cv'.event.flag = .wakeup →
      (cv'.thread a).pc = .clearing ∨ cv.event.flag = .wakeup ∧ (cv.thread a).pc ≠ .clearing)
    (hclock : cv'.clock = cv.clock) (hsince : (cv'.thread a).since = (cv.thread a).since)
    (hcount : cv'.waitersCnt + (cv.thread a).pc.counts.toNat =
      cv.waitersCnt + (cv'.thread a).pc.counts.toNat) : Good cv' := by
  have hsince' : ∀ t, (cv'.thread t).since = (cv.thread t).since := by
    intro t
    by_cases ht : t = a
    · rw [ht, hsince]
    · rw [hf.thread t ht]
  refine h.of_frame hf ha hflag ?_ ?_ hcount
  · simp only [hsince']
    exact h.order.sublist hlist
  · intro t ht
    rw [hsince', hclock]
    exact h.clock t (hlist.subset ht)

/-- A step that leaves a thread where it is. -/
lemma stays (h : Good cv) (hf : Frame cv cv' a) (ha : Local cv' a) (hevent : cv'.event = cv.event)
    (hclock : cv'.clock = cv.clock) (hcnt : cv'.waitersCnt = cv.waitersCnt)
    (hsince : (cv'.thread a).since = (cv.thread a).since)
    (hpc : (cv'.thread a).pc = (cv.thread a).pc) : Good cv' := by
  refine h.frame hf ha ?_ ?_ hclock hsince ?_
  · rw [hevent]
  · rw [hevent, hpc]
    intro hw
    by_cases hclear : (cv.thread a).pc = .clearing
    · exact .inl hclear
    · exact .inr ⟨hw, hclear⟩
  · rw [hcnt, hpc]

omit [DecidableEq Ag] in
/-- A failed assertion stops the thread where it is. -/
lemma failed (h : Good cv) : Good (fail cv) where
  thread := by
    intro t
    have ht := h.thread t
    exact ⟨ht.holds, ht.released, ht.queued, ht.listed, ht.timer, ht.suspended, ht.taken, ht.slept, ht.done⟩
  flag := h.flag
  order := h.order
  clock := h.clock
  counted := h.counted

end Good

end N32L43x.Condvar
