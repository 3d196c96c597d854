import N32L43x.Condvar.Steps

/-!
The wait queue of a condition variable: a thread joins it and leaves it, and is resumed in it by another
thread or by its timer.
-/

namespace N32L43x.Condvar

open N32L43x.Ipc N32L43x.Waitqueue N32L43x.Lib.Count

variable {Ag : Type} [Fintype Ag] [DecidableEq Ag] {cv cv' : RtCondvar Ag} {a t u : Ag}

/-! ### The loops -/

/-- All but the error number is the same. -/
def SameButError (th th' : Thread) : Prop := ∃ err, th' = { th with error := err }

lemma SameButError.refl (th : Thread) : SameButError th th := ⟨th.error, rfl⟩

lemma SameButError.trans {th₁ th₂ th₃ : Thread} (h : SameButError th₁ th₂) (h' : SameButError th₂ th₃) :
    SameButError th₁ th₃ := by
  obtain ⟨_, rfl⟩ := h
  obtain ⟨err, rfl⟩ := h'
  exact ⟨err, rfl⟩

omit [Fintype Ag] in
lemma sameButError_update (thread : Ag → Thread) (t u : Ag) :
    SameButError (thread u) (Function.update thread t { thread t with error := .eok } u) := by
  by_cases h : u = t
  · subst h
    rw [Function.update_self]
    exact ⟨.eok, rfl⟩
  · rw [Function.update_of_ne h]
    exact SameButError.refl _

/-- What the loop of `rt_wqueue_wakeup` does to a list: no thread of it is suspended, and none is resumed,
or the first one that is suspended is resumed. -/
inductive WakesOne (thread : Ag → Thread) (l : List Ag) : (Ag → Thread) × Option Ag → Prop
  | none {thread' : Ag → Thread} (hawake : ∀ t ∈ l, (thread t).suspended = false)
      (hsame : ∀ t, SameButError (thread t) (thread' t)) : WakesOne thread l (thread', none)
  | some {thread' : Ag → Thread} (pre : List Ag) {post : List Ag} {u : Ag} (hl : l = pre ++ u :: post)
      (hpre : ∀ t ∈ pre, (thread t).suspended = false) (hsus : (thread u).suspended = true)
      (hu : thread' u = (thread u).resumed .signal)
      (hsame : ∀ t, t ≠ u → SameButError (thread t) (thread' t)) : WakesOne thread l (thread', some u)

omit [Fintype Ag] in
lemma wakesOne_wakeupLoop (thread : Ag → Thread) (l : List Ag) :
    WakesOne thread l (wakeupLoop thread l) := by
  induction l generalizing thread with
  | nil => exact .none (fun _ ht => by cases ht) fun _ => SameButError.refl _
  | cons t l ih =>
    unfold wakeupLoop
    split_ifs with hsus
    · exact .some [] rfl (fun _ ht => by cases ht) hsus (Function.update_self ..) fun v hv => by
        rw [Function.update_of_ne hv]
        exact SameButError.refl _
    · have hawake : (thread t).suspended = false := eq_false_of_ne_true hsus
      have hupd := sameButError_update thread t
      have hsus' : ∀ v, (Function.update thread t { thread t with error := .eok } v).suspended =
          (thread v).suspended := by
        intro v
        obtain ⟨err, herr⟩ := hupd v
        rw [herr]
      generalize hloop : wakeupLoop _ l = r
      have hr := hloop ▸ ih (Function.update thread t { thread t with error := .eok })
      cases hr with
      | none hl hsame =>
        refine .none ?_ fun v => (hupd v).trans (hsame v)
        intro v hv
        rcases List.mem_cons.mp hv with rfl | hv'
        · exact hawake
        · exact (hsus' v).symm.trans (hl v hv')
      | @some thread' pre post w hl hpre hw hthread hsame =>
        have hne : w ≠ t := by
          rintro rfl
          rw [hsus', hawake] at hw
          cases hw
        rw [Function.update_of_ne hne] at hw hthread
        refine .some (t :: pre) (by rw [hl]; rfl) ?_ hw hthread fun v hv =>
          (hupd v).trans (hsame v hv)
        intro v hv
        rcases List.mem_cons.mp hv with rfl | hv'
        · exact hawake
        · exact (hsus' v).symm.trans (hpre v hv')

omit [Fintype Ag] in
/-- The loop of `rt_wqueue_wakeup_all` resumes nobody that is not suspended. -/
lemma wakeupAllLoop_of_awake (l : List Ag) (thread : Ag → Thread) (h : (thread u).suspended = false) :
    SameButError (thread u) (wakeupAllLoop thread l u) := by
  induction l generalizing thread with
  | nil => exact SameButError.refl _
  | cons t l ih =>
    unfold wakeupAllLoop
    split_ifs with hsus
    · have hne : u ≠ t := by
        rintro rfl
        rw [h] at hsus
        cases hsus
      have hsame := ih (Function.update thread t ((thread t).resumed .broadcast))
        (by rw [Function.update_of_ne hne]; exact h)
      rwa [Function.update_of_ne hne] at hsame
    · have hupd := sameButError_update thread t u
      refine hupd.trans (ih _ ?_)
      obtain ⟨err, herr⟩ := hupd
      rw [herr]
      exact h

omit [Fintype Ag] in
/-- It resumes everybody in the list that is. -/
lemma wakeupAllLoop_of_suspended {l : List Ag} (thread : Ag → Thread) (h : (thread u).suspended = true)
    (hu : u ∈ l) : SameButError ((thread u).resumed .broadcast) (wakeupAllLoop thread l u) := by
  induction l generalizing thread with
  | nil => cases hu
  | cons t l ih =>
    unfold wakeupAllLoop
    by_cases hut : u = t
    · subst hut
      rw [if_pos h]
      have hself : Function.update thread u ((thread u).resumed .broadcast) u =
          (thread u).resumed .broadcast := Function.update_self ..
      have hsame := wakeupAllLoop_of_awake (u := u) l
        (Function.update thread u ((thread u).resumed .broadcast)) (by rw [hself]; rfl)
      rwa [hself] at hsame
    · have hl : u ∈ l := (List.mem_cons.mp hu).resolve_left hut
      split_ifs with hsus
      · have hsame := ih (Function.update thread t ((thread t).resumed .broadcast))
          (by rw [Function.update_of_ne hut]; exact h) hl
        rwa [Function.update_of_ne hut] at hsame
      · have hsame := ih (Function.update thread t { thread t with error := .eok })
          (by rw [Function.update_of_ne hut]; exact h) hl
        rwa [Function.update_of_ne hut] at hsame

omit [Fintype Ag] in
/-- It touches nobody else. -/
lemma wakeupAllLoop_of_notMem {l : List Ag} {thread : Ag → Thread} (hu : u ∉ l) :
    wakeupAllLoop thread l u = thread u := by
  induction l generalizing thread with
  | nil => rfl
  | cons t l ih =>
    have hut : u ≠ t := fun heq => hu (heq ▸ List.mem_cons_self)
    have hl : u ∉ l := fun hmem => hu (List.mem_cons_of_mem t hmem)
    unfold wakeupAllLoop
    split_ifs
    · rw [ih hl, Function.update_of_ne hut]
    · rw [ih hl, Function.update_of_ne hut]

omit [Fintype Ag] in
/-- A wake-up leaves every thread where it is. -/
lemma pc_rtWqueueWakeup (cv : RtCondvar Ag) (waker : Waker) (t : Ag) :
    ((rtWqueueWakeup cv waker).thread t).pc = (cv.thread t).pc := by
  have hsame : ∀ {th th' : Thread}, SameButError th th' → th'.pc = th.pc := by
    rintro th _ ⟨err, rfl⟩
    rfl
  cases waker with
  | signal =>
    have hloop := wakesOne_wakeupLoop cv.thread cv.event.waitingList
    unfold rtWqueueWakeup
    generalize wakeupLoop cv.thread cv.event.waitingList = r at hloop
    cases hloop with
    | none _ hrest => exact hsame (hrest t)
    | @some thread' pre post u _ _ _ hu hrest =>
      by_cases htu : t = u
      · simp only [htu, hu]
        rfl
      · exact hsame (hrest t htu)
  | broadcast =>
    by_cases hmem : t ∈ cv.event.waitingList
    · by_cases hsus : (cv.thread t).suspended = true
      · exact (hsame (wakeupAllLoop_of_suspended cv.thread hsus hmem)).trans rfl
      · exact hsame (wakeupAllLoop_of_awake _ cv.thread (eq_false_of_ne_true hsus))
    · exact congrArg Thread.pc (wakeupAllLoop_of_notMem hmem)

/-! ### The invariant -/

omit [Fintype Ag] in
lemma frame_setThread (th : Thread) : Frame cv (setThread cv t th) t where
  thread := fun _ hu => Function.update_of_ne hu ..
  waitingList := fun _ _ => Iff.rfl
  suspendThread := fun _ _ => Iff.rfl
  owner := fun _ _ => Iff.rfl
  hold := fun _ _ _ => rfl

omit [Fintype Ag] in
lemma waitqInqueue_eq (cv : RtCondvar Ag) (timeout : BitVec 32) (hflag : cv.event.flag ≠ .wakeup)
    (hsus : (cv.thread t).suspended = false) :
    waitqInqueue cv t timeout =
      ({ setThread cv t { cv.thread t with
          suspended := true
          timerActive := decide (timeout ≠ rtWaitingForever)
          since := cv.clock
          resumedBy := none } with
        event := { cv.event with waitingList := cv.event.waitingList ++ [t] }
        clock := cv.clock + 1 }, 0) := by
  simp [waitqInqueue, setThread, hflag, hsus, IpcErr.value]

namespace Good

omit [DecidableEq Ag] in
/-- While a thread holds the mutex outside `clearing` the flag of the queue is not set. -/
lemma flag_clean (h : Good cv) (hholds : (cv.thread a).pc.holds = true)
    (hpc : (cv.thread a).pc ≠ .clearing) : cv.event.flag ≠ .wakeup := by
  intro hflag
  obtain ⟨u, hu⟩ := h.flag hflag
  have howner := ((h.thread a).holds hholds).1
  have howner' := ((h.thread u).holds (by rw [hu]; rfl)).1
  obtain rfl : a = u := Option.some.inj (howner.symm.trans howner')
  exact hpc hu

/-- A thread that holds the mutex is suspended in the wait queue. -/
lemma suspends {timeout : BitVec 32} (timer : Bool) (h : Good cv)
    (hat : (cv.thread a).pc = .counted timeout) :
    Good { setThread cv a ⟨true, timer, (cv.thread a).error, .inqueued 0, cv.clock, none⟩ with
      event := { cv.event with waitingList := cv.event.waitingList ++ [a] }
      clock := cv.clock + 1
      critical := some a } := by
  have ha := h.thread a
  have hholds := ha.holds (by rw [hat]; rfl)
  have hnot : a ∉ cv.suspendThread := ha.not_listed (by rw [hat]; rfl)
  have hout : a ∉ cv.event.waitingList := ha.not_queued (by rw [hat]; rfl)
  have hself : (setThread cv a ⟨true, timer, (cv.thread a).error, .inqueued 0, cv.clock, none⟩).thread a =
      ⟨true, timer, (cv.thread a).error, .inqueued 0, cv.clock, none⟩ := Function.update_self ..
  have hrest : ∀ t ∈ cv.event.waitingList,
      (setThread cv a ⟨true, timer, (cv.thread a).error, .inqueued 0, cv.clock, none⟩).thread t =
        cv.thread t := by
    intro t ht
    refine Function.update_of_ne ?_ ..
    rintro rfl
    exact hout ht
  refine h.of_frame (a := a) ⟨?_, ?_, ?_, ?_, ?_⟩ ?_ ?_ ?_ ?_ ?_
  · exact fun t ht => Function.update_of_ne ht ..
  · intro t ht
    simp [ht]
  · exact fun _ _ => Iff.rfl
  · exact fun _ _ => Iff.rfl
  · exact fun _ _ _ => rfl
  · constructor
    · exact fun _ => hholds
    · simp only [hself]
      intro hp
      cases hp
    · simp only [hself]
      exact fun _ => rfl
    · exact fun hmem => absurd hmem hnot
    · simp only [hself]
      exact fun _ => trivial
    · simp only [hself]
      exact fun _ => .inr ⟨rfl, List.mem_append_right _ (List.mem_singleton_self a), trivial⟩
    · simp only [hself]
      intro rc hp
      cases hp
    · simp only [hself]
      intro rc hp
      exact ⟨(Option.some.inj hp).symm, fun hsus => by cases hsus⟩
    · simp only [hself]
      intro rc hp
      cases hp
  · intro hflag
    refine .inr ⟨hflag, ?_⟩
    rw [hat]
    intro hp
    cases hp
  · refine List.pairwise_append.mpr ⟨?_, List.pairwise_singleton _ _, ?_⟩
    · refine h.order.imp_of_mem fun {t u} ht hu hlt => ?_
      simp only [hrest t ht, hrest u hu]
      exact hlt
    · intro t ht u hu
      obtain rfl := List.mem_singleton.mp hu
      simp only [hrest t ht, hself]
      exact h.clock t ht
  · intro t ht
    rcases List.mem_append.mp ht with ht | ht
    · simp only [hrest t ht]
      exact Nat.lt_succ_of_lt (h.clock t ht)
    · obtain rfl := List.mem_singleton.mp ht
      simp only [hself]
      exact Nat.lt_succ_self _
  · simp only [hself, hat]
    rfl

/-- The loops of the wake-ups clear the error number of a thread that is not suspended. -/
lemma clearsError (h : Good cv) (hsus : (cv.thread t).suspended = false) :
    Good (setThread cv t { cv.thread t with error := .eok }) := by
  have ht := h.thread t
  have hself : (setThread cv t { cv.thread t with error := .eok }).thread t =
      { cv.thread t with error := .eok } := Function.update_self ..
  refine h.stays (frame_setThread _) ?_ rfl rfl rfl (by rw [hself]) (by rw [hself])
  constructor
  · rw [hself]
    exact ht.holds
  · rw [hself]
    exact ht.released
  · rw [hself]
    exact ht.queued
  · rw [hself]
    exact ht.listed
  · rw [hself]
    exact ht.timer
  · rw [hself]
    exact ht.suspended
  · rw [hself]
    exact ht.taken
  · rw [hself]
    intro rc hrc
    obtain ⟨hzero, hwoken⟩ := ht.slept rc hrc
    refine ⟨hzero, fun _ => ?_⟩
    obtain ⟨cause, hcause, -⟩ := hwoken hsus
    exact ⟨cause, hcause, fun _ => rfl⟩
  · rw [hself]
    exact ht.done

/-- They resume one that is. -/
lemma resumes (h : Good cv) (hmem : t ∈ cv.event.waitingList) (hsus : (cv.thread t).suspended = true)
    (waker : Waker) :
    Good (setThread cv t ((cv.thread t).resumed waker)) := by
  have ht := h.thread t
  have hqueued := ht.queued hmem
  have htakes := Pc.takes_of_queued hqueued
  have hself : (setThread cv t ((cv.thread t).resumed waker)).thread t =
      (cv.thread t).resumed waker := Function.update_self ..
  refine h.stays (frame_setThread _) ?_ rfl rfl rfl (by rw [hself]; rfl) (by rw [hself]; rfl)
  constructor
  · rw [hself]
    exact ht.holds
  · rw [hself]
    exact ht.released
  · exact fun _ => by rw [hself]; exact hqueued
  · exact fun hlist => absurd hlist (ht.not_listed htakes)
  · rw [hself]
    intro htimer
    cases htimer
  · rw [hself]
    intro hsus'
    cases hsus'
  · rw [hself]
    intro rc hrc
    have hpc : (cv.thread t).pc = .takeWait rc := hrc
    rw [hpc] at htakes
    cases htakes
  · rw [hself]
    intro rc hrc
    exact ⟨(ht.slept rc hrc).1, fun _ => ⟨.waker waker, rfl, fun _ => rfl⟩⟩
  · rw [hself]
    have hslept : (cv.thread t).pc.slept.isSome = true := by
      rcases ht.suspended hsus with hlist | ⟨hslept, -, -⟩
      · exact absurd hlist (ht.not_listed htakes)
      · exact hslept
    intro rc hrc
    have hnone : (cv.thread t).pc.rc = some rc := hrc
    rw [Pc.rc_of_slept hslept] at hnone
    cases hnone

/-- A thread that is not suspended is taken off the wait queue. -/
lemma unlinks (h : Good cv) (hsus : (cv.thread t).suspended = false) :
    Good { cv with event := { cv.event with waitingList := cv.event.waitingList.filter (· ≠ t) } } := by
  have ht := h.thread t
  have haw := ht.awake_of_ready hsus
  refine h.frame (a := t) ⟨?_, ?_, ?_, ?_, ?_⟩ ?_ List.filter_sublist ?_ rfl rfl rfl
  · exact fun _ _ => rfl
  · intro u hu
    simp [hu]
  · exact fun _ _ => Iff.rfl
  · exact fun _ _ => Iff.rfl
  · exact fun _ _ _ => rfl
  · constructor
    · exact ht.holds
    · exact ht.released
    · intro hmem
      simp at hmem
    · exact ht.listed
    · exact ht.timer
    · intro hsus'
      rw [hsus] at hsus'
      cases hsus'
    · exact ht.taken
    · exact ht.slept
    · exact ht.done
  · intro hflag
    by_cases hclear : (cv.thread t).pc = .clearing
    · exact .inl hclear
    · exact .inr ⟨hflag, hclear⟩

lemma wakeupLoop {l : List Ag} (h : Good cv) (hl : ∀ t ∈ l, t ∈ cv.event.waitingList) :
    Good { cv with thread := (wakeupLoop cv.thread l).1 } := by
  induction l generalizing cv with
  | nil => exact h
  | cons t l ih =>
    unfold Condvar.wakeupLoop
    split_ifs with hsus
    · exact h.resumes (hl t List.mem_cons_self) hsus .signal
    · exact ih (h.clearsError (eq_false_of_ne_true hsus)) fun u hu => hl u (List.mem_cons_of_mem t hu)

lemma wakeupAllLoop {l : List Ag} (h : Good cv) (hl : ∀ t ∈ l, t ∈ cv.event.waitingList) :
    Good { cv with thread := wakeupAllLoop cv.thread l } := by
  induction l generalizing cv with
  | nil => exact h
  | cons t l ih =>
    have hl' : ∀ u ∈ l, u ∈ cv.event.waitingList := fun u hu => hl u (List.mem_cons_of_mem t hu)
    unfold Condvar.wakeupAllLoop
    split_ifs with hsus
    · exact ih (h.resumes (hl t List.mem_cons_self) hsus .broadcast) hl'
    · exact ih (h.clearsError (eq_false_of_ne_true hsus)) hl'

/-- The thread that wakes the others up has set the flag of the queue. -/
lemma flagged (waker : Waker) (h : Good cv) (hat : (cv.thread a).pc = .waking waker) :
    Good (setPc { cv with event := { cv.event with flag := .wakeup } } a .clearing) := by
  have ha := h.thread a
  refine h.goes ⟨rfl, rfl, rfl, rfl, rfl⟩ ⟨?_, rfl, rfl, ?_, ?_, ?_⟩ ?_ rfl (fun _ => .inl rfl) ?_
  · exact ha.awake (by rw [hat]; rfl) (by rw [hat]; rfl)
  · exact fun _ => ha.holds (by rw [hat]; rfl)
  · intro hp
    cases hp
  · intro rc hp
    cases hp
  · exact fun hmem => absurd hmem (ha.not_queued (by rw [hat]; rfl))
  · rw [hat]
    rfl

/-- `rt_wqueue_wakeup` and `rt_wqueue_wakeup_all`. -/
lemma wakes {waker : Waker} (h : Good cv) (hat : (cv.thread a).pc = .waking waker) :
    Good (setPc (rtWqueueWakeup cv waker) a .clearing) := by
  have hout : a ∉ cv.event.waitingList := (h.thread a).not_queued (by rw [hat]; rfl)
  cases waker with
  | signal =>
    have hgood := h.wakeupLoop fun _ ht => ht
    have hloop := wakesOne_wakeupLoop cv.thread cv.event.waitingList
    unfold rtWqueueWakeup
    generalize Condvar.wakeupLoop cv.thread cv.event.waitingList = r at hgood hloop
    cases hloop with
    | @none thread' _ hsame =>
      refine hgood.flagged .signal ?_
      obtain ⟨err, herr⟩ := hsame a
      simp only [herr, hat]
    | @some thread' pre post u hl _ _ hu hsame =>
      have hau : a ≠ u := by
        rintro rfl
        exact hout (hl ▸ List.mem_append_right pre List.mem_cons_self)
      have hgood' := hgood.unlinks (t := u) (by simp only [hu]; rfl)
      refine hgood'.flagged .signal ?_
      obtain ⟨err, herr⟩ := hsame a hau
      simp only [herr, hat]
  | broadcast =>
    have hgood := h.wakeupAllLoop fun _ ht => ht
    refine hgood.flagged .broadcast ?_
    simp only [wakeupAllLoop_of_notMem hout, hat]

/-- The timer of a thread that is suspended in the wait queue, or waits for the mutex. -/
lemma expires (h : Good cv) (htimer : (cv.thread t).timerActive = true) :
    Good { setThread cv t { (cv.thread t).ready with error := .etimeout, resumedBy := some .timeout } with
      suspendThread := cv.suspendThread.filter (· ≠ t) } := by
  have ht := h.thread t
  have hself : (setThread cv t
      { (cv.thread t).ready with error := .etimeout, resumedBy := some .timeout }).thread t =
        { (cv.thread t).ready with error := .etimeout, resumedBy := some .timeout } :=
    Function.update_self ..
  have hwoken : ∀ rc, Woken { (cv.thread t).ready with error := .etimeout, resumedBy := some .timeout } rc := by
    rintro rc
    refine ⟨.timeout, rfl, ?_⟩
    rintro ⟨waker, hwaker⟩
    cases hwaker
  refine h.stays (a := t) ⟨?_, ?_, ?_, ?_, ?_⟩ ?_ rfl rfl rfl ?_ ?_
  · exact fun _ hu => Function.update_of_ne hu ..
  · exact fun _ _ => Iff.rfl
  · intro u hu
    simp [hu]
  · exact fun _ _ => Iff.rfl
  · exact fun _ _ _ => rfl
  · constructor
    · simp only [hself]
      exact ht.holds
    · simp only [hself]
      exact ht.released
    · simp only [hself]
      exact ht.queued
    · intro hmem
      simp at hmem
    · simp only [hself]
      intro hactive
      cases hactive
    · simp only [hself]
      intro hsus
      cases hsus
    · simp only [hself]
      intro rc hrc
      have hinactive := (ht.taken rc hrc).1
      rw [htimer] at hinactive
      cases hinactive
    · simp only [hself]
      exact fun rc hrc => ⟨(ht.slept rc hrc).1, fun _ => hwoken _⟩
    · simp only [hself]
      exact fun rc _ => hwoken rc
  · simp only [hself]
    rfl
  · simp only [hself]
    rfl

end Good

end N32L43x.Condvar
