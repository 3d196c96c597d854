import N32L43x.Timer.Within

/-!
What the check and the calls do to the two lists, whatever the periods and the tick are: a timer is linked
once, and the temporary list of a check holds the timer whose callback runs, if anything.
-/

namespace N32L43x.Timer

variable {Id : Type*} [DecidableEq Id] {s s' : TimerState Id} {t : Id}

/-- The list has every timer once, and the temporary list holds the timer whose callback runs. -/
structure Tidy (s : TimerState Id) : Prop where
  nodup : s.timerList.Nodup
  tmp : ∀ t ∈ s.list, s.list = [t] ∧ s.pc = .callback t ∧ t ∉ s.timerList

omit [DecidableEq Id] in
lemma tidy_init (tick : BitVec 32) (periodic : Id → Bool) (time : Id → BitVec 32) :
    Tidy (init tick periodic time) where
  nodup := List.nodup_nil
  tmp := by simp [init]

omit [DecidableEq Id] in
/-- Out of a callback the temporary list is empty. -/
lemma Tidy.list_nil (h : Tidy s) (hpc : ∀ t, s.pc ≠ .callback t) : s.list = [] :=
  List.eq_nil_iff_forall_not_mem.mpr fun t ht => hpc t (h.tmp t ht).2.1

/-- What a callback may do during a check: it starts no timer, and it returns. -/
def InCallback : Action Id → Prop
  | .call (.start _) => False
  | .call _ => True
  | .ret => True
  | _ => False

/-- A step that takes timers out of the lists, and leaves their deadlines and the check alone. -/
structure Unlinks (s s' : TimerState Id) : Prop where
  timerList : s'.timerList.Sublist s.timerList
  list : s'.list = s.list ∨ ∃ u, s'.list = s.list.erase u
  timeoutTick : ∀ u, (s'.timer u).timeoutTick = (s.timer u).timeoutTick
  tick : s'.tick = s.tick
  pc : s'.pc = s.pc
  log : s'.log = s.log

lemma Unlinks.refl (s : TimerState Id) : Unlinks s s :=
  ⟨List.Sublist.refl _, .inl rfl, fun _ => rfl, rfl, rfl, rfl⟩

lemma unlinks_timerRemove (s : TimerState Id) (t : Id) : Unlinks s (timerRemove s t) :=
  ⟨List.erase_sublist, .inr ⟨t, rfl⟩, fun _ => rfl, rfl, rfl, rfl⟩

lemma Unlinks.setTimer (h : Unlinks s s') {tm : RtTimer} (hk : KeepsDeadline (s'.timer t) tm) :
    Unlinks s (setTimer s' t tm) := by
  refine ⟨h.timerList, h.list, fun u => ?_, h.tick, h.pc, h.log⟩
  refine Eq.trans ?_ (h.timeoutTick u)
  by_cases hu : u = t
  · subst hu
    simp [Timer.setTimer, hk.timeoutTick]
  · simp [Timer.setTimer, Function.update_of_ne hu]

/-- What a stop and a detach leave. -/
lemma unlinks_deactivate (s : TimerState Id) (t : Id) : Unlinks s (deactivate (timerRemove s t) t) :=
  (unlinks_timerRemove s t).setTimer ⟨rfl, rfl, rfl⟩

/-- A call that starts nothing takes timers out of the lists at most. -/
lemma unlinks_call (s : TimerState Id) {c : Call Id} (hc : InCallback (.call c)) :
    Unlinks s (call s c) := by
  cases c with
  | start t => exact hc.elim
  | stop t =>
    show Unlinks s (rtTimerStop s t).1
    unfold rtTimerStop
    split
    · exact Unlinks.refl s
    · exact unlinks_deactivate s t
  | detach t => exact unlinks_deactivate s t
  | control t cmd =>
    cases cmd with
    | setTime time =>
      refine Unlinks.setTimer ?_ ⟨rfl, rfl, rfl⟩
      split
      · exact unlinks_deactivate s t
      · exact Unlinks.refl s
    | setOneshot => exact (Unlinks.refl s).setTimer ⟨rfl, rfl, rfl⟩
    | setPeriodic => exact (Unlinks.refl s).setTimer ⟨rfl, rfl, rfl⟩

lemma Tidy.unlinks (h : Tidy s) (hu : Unlinks s s') : Tidy s' := by
  refine ⟨h.nodup.sublist hu.timerList, fun t ht => ?_⟩
  have hmem : t ∈ s.list := by
    rcases hu.list with heq | ⟨v, heq⟩
    · rwa [heq] at ht
    · rw [heq] at ht
      exact List.mem_of_mem_erase ht
  obtain ⟨hone, hpc, hnot⟩ := h.tmp t hmem
  refine ⟨?_, hu.pc.trans hpc, fun hlist => hnot (hu.timerList.subset hlist)⟩
  rcases hu.list with heq | ⟨v, heq⟩
  · exact heq.trans hone
  · rw [heq, hone] at ht ⊢
    by_cases hv : t = v
    · subst hv
      simp at ht
    · simp [hv]

lemma Tidy.timerStart (h : Tidy s) (t : Id) : Tidy (timerStart s t) := by
  have hperm : (Timer.timerStart s t).timerList.Perm (t :: s.timerList.erase t) :=
    List.perm_orderedInsert _ _ _
  refine ⟨?_, fun u hu => ?_⟩
  · exact hperm.nodup_iff.mpr (List.nodup_cons.mpr ⟨h.nodup.not_mem_erase, h.nodup.erase t⟩)
  · have hu' : u ∈ s.list.erase t := hu
    obtain ⟨hone, hpc, hnot⟩ := h.tmp u (List.mem_of_mem_erase hu')
    have hut : u ≠ t := by
      rintro rfl
      rw [hone] at hu'
      simp at hu'
    refine ⟨?_, hpc, fun hmem => ?_⟩
    · show s.list.erase t = [u]
      rw [hone]
      simp [hut]
    · rcases List.mem_cons.1 (hperm.subset hmem) with heq | hmem
      · exact hut heq
      · exact hnot (List.mem_of_mem_erase hmem)

lemma Tidy.call (h : Tidy s) (c : Call Id) : Tidy (call s c) := by
  cases c with
  | start t => exact h.timerStart t
  | stop t => exact h.unlinks (unlinks_call s trivial)
  | control t cmd => exact h.unlinks (unlinks_call s trivial)
  | detach t => exact h.unlinks (unlinks_call s trivial)

/-! ### The check -/

/-- What popping a timer changes. -/
lemma popTimer_spec (s : TimerState Id) (t : Id) :
    (popTimer s t).list = t :: s.list.erase t ∧ (popTimer s t).pc = .callback t ∧
      (popTimer s t).tick = s.tick ∧ (popTimer s t).log = s.log ++ [.fire t s.now] ∧
      (∀ u, ((popTimer s t).timer u).timeoutTick = (s.timer u).timeoutTick ∧
        ((popTimer s t).timer u).initTick = (s.timer u).initTick ∧
        ((popTimer s t).timer u).periodic = (s.timer u).periodic) := by
  unfold popTimer
  dsimp only
  split
  · exact ⟨rfl, rfl, rfl, rfl, fun _ => ⟨rfl, rfl, rfl⟩⟩
  · refine ⟨rfl, rfl, rfl, rfl, fun u => ?_⟩
    by_cases hu : u = t
    · subst hu
      simp [deactivate, setTimer, timerRemove]
    · simp [deactivate, setTimer, timerRemove, Function.update_of_ne hu]

lemma Tidy.popTimer (h : Tidy s) (t : Id) (hnil : s.list = []) : Tidy (popTimer s t) := by
  obtain ⟨hlist, hpc, -⟩ := popTimer_spec s t
  refine ⟨?_, fun u hu => ?_⟩
  · rw [popTimer_timerList]
    exact h.nodup.erase t
  · rw [hlist, hnil] at hu
    obtain rfl : u = t := by simpa using hu
    refine ⟨by simp [hlist, hnil], hpc, ?_⟩
    rw [popTimer_timerList]
    exact h.nodup.not_mem_erase

/-- **One turn of the loop**: the head of the list is popped if it is due, or the check ends. -/
lemma timerCheckLoop_eq (s : TimerState Id) :
    (∃ t ∈ s.timerList, Due s t ∧ timerCheckLoop s = popTimer s t) ∨ timerCheckLoop s = endCheck s := by
  unfold timerCheckLoop
  split
  · exact .inr rfl
  · next t rest hlist =>
    split
    · next hdue => exact .inl ⟨t, by simp [hlist], hdue, rfl⟩
    · exact .inr rfl

lemma Tidy.timerCheckLoop (h : Tidy s) (hnil : s.list = []) : Tidy (timerCheckLoop s) := by
  rcases timerCheckLoop_eq s with ⟨t, -, -, heq⟩ | heq
  · rw [heq]
    exact h.popTimer t hnil
  · rw [heq]
    exact ⟨h.nodup, by simp [endCheck]⟩

/-- After a callback of `t` nothing has happened, or `t` is started again. -/
lemma timerCheckReturn_eq (h : Tidy s) (hpc : s.pc = .callback t) :
    (timerCheckReturn s t).list = [] ∧ (Unlinks s (timerCheckReturn s t) ∧
      (∀ u, ((timerCheckReturn s t).timer u).initTick = (s.timer u).initTick ∧
        ((timerCheckReturn s t).timer u).periodic = (s.timer u).periodic) ∨
      (s.timer t).periodic = true ∧ t ∉ s.timerList ∧
        timerCheckReturn s t = timerStart (deactivate (timerRemove s t) t) t) := by
  unfold timerCheckReturn
  split
  · next hnil => exact ⟨hnil, .inl ⟨Unlinks.refl s, fun _ => ⟨rfl, rfl⟩⟩⟩
  · next hne =>
    obtain ⟨u, hu⟩ := List.exists_mem_of_ne_nil _ hne
    obtain ⟨hone, hpc', hnot⟩ := h.tmp u hu
    obtain rfl : t = u := by
      rw [hpc] at hpc'
      injection hpc'
    have hnil : (timerRemove s t).list = [] := by simp [timerRemove, hone]
    dsimp only
    split
    · next hagain =>
      refine ⟨?_, .inr ⟨hagain.1, hnot, rfl⟩⟩
      show (timerRemove s t).list.erase t = []
      rw [hnil, List.erase_nil]
    · exact ⟨hnil, .inl ⟨unlinks_timerRemove s t, fun _ => ⟨rfl, rfl⟩⟩⟩

lemma Tidy.timerCheckReturn (h : Tidy s) (hpc : s.pc = .callback t) : Tidy (timerCheckReturn s t) := by
  rcases (timerCheckReturn_eq h hpc).2 with ⟨hu, -⟩ | ⟨-, -, heq⟩
  · exact h.unlinks hu
  · rw [heq]
    exact (h.unlinks (unlinks_deactivate s t)).timerStart t

/-- Every step keeps the lists tidy. -/
lemma Tidy.step {a : Action Id} (h : Tidy s) (hs : step s a = some s') : Tidy s' := by
  cases a with
  | call c =>
    obtain rfl : Timer.call s c = s' := by simpa [Timer.step] using hs
    exact h.call c
  | tick =>
    simp only [Timer.step] at hs
    split at hs
    · next hpc =>
      obtain rfl := Option.some.inj hs
      have hnil : s.list = [] := h.list_nil (by simp [hpc])
      exact ⟨h.nodup, by simp [hnil]⟩
    · cases hs
  | check =>
    simp only [Timer.step] at hs
    split at hs
    · obtain rfl := Option.some.inj hs
      exact Tidy.timerCheckLoop ⟨h.nodup, by simp⟩ rfl
    · cases hs
  | ret =>
    simp only [Timer.step] at hs
    split at hs
    · next t hpc =>
      obtain rfl := Option.some.inj hs
      exact (h.timerCheckReturn hpc).timerCheckLoop (timerCheckReturn_eq h hpc).1
    · cases hs

end N32L43x.Timer
