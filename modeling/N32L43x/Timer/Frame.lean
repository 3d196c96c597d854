import N32L43x.Timer.Jump
import N32L43x.Timer.Tidy

/-!
What the steps leave of one timer.  Whatever happens to the others, a timer that nobody starts keeps its
record while it is linked, and the check takes it out of the list only when it is due.
-/

namespace N32L43x.Timer

variable {Id : Type*} [DecidableEq Id] {s s' s'' : TimerState Id} {i t : Id}

/-- Timer `i` is left alone, or taken out of the list. -/
structure Frames (i : Id) (s s' : TimerState Id) : Prop where
  linked : i ∈ s'.timerList → i ∈ s.timerList ∧ s'.timer i = s.timer i
  initTick : (s'.timer i).initTick = (s.timer i).initTick
  periodic : (s'.timer i).periodic = (s.timer i).periodic

omit [DecidableEq Id] in
lemma Frames.refl (i : Id) (s : TimerState Id) : Frames i s s := ⟨fun h => ⟨h, rfl⟩, rfl, rfl⟩

omit [DecidableEq Id] in
lemma Frames.trans (h : Frames i s s') (h' : Frames i s' s'') : Frames i s s'' where
  linked hi := by
    obtain ⟨hi', heq'⟩ := h'.linked hi
    obtain ⟨hi, heq⟩ := h.linked hi'
    exact ⟨hi, heq'.trans heq⟩
  initTick := h'.initTick.trans h.initTick
  periodic := h'.periodic.trans h.periodic

/-! ### The calls -/

lemma frames_timerRemove (i : Id) (s : TimerState Id) (t : Id) : Frames i s (timerRemove s t) :=
  ⟨fun h => ⟨List.mem_of_mem_erase h, rfl⟩, rfl, rfl⟩

lemma frames_setTimer (s : TimerState Id) (hi : i ≠ t) (tm : RtTimer) : Frames i s (setTimer s t tm) where
  linked h := ⟨h, by simp [setTimer, Function.update_of_ne hi]⟩
  initTick := by simp [setTimer, Function.update_of_ne hi]
  periodic := by simp [setTimer, Function.update_of_ne hi]

lemma frames_timerStart (s : TimerState Id) (hi : i ≠ t) : Frames i s (timerStart s t) where
  linked h := by
    refine ⟨?_, timerStart_timer_of_ne hi⟩
    rcases (List.mem_orderedInsert _).mp h with heq | hmem
    · exact absurd heq hi
    · exact List.mem_of_mem_erase hmem
  initTick := by rw [timerStart_timer_of_ne hi]
  periodic := by rw [timerStart_timer_of_ne hi]

/-- A timer that is stopped leaves the list. -/
lemma not_mem_deactivate (h : Tidy s) (t : Id) : t ∉ (deactivate (timerRemove s t) t).timerList :=
  h.nodup.not_mem_erase

lemma frames_deactivate (h : Tidy s) (i t : Id) : Frames i s (deactivate (timerRemove s t) t) := by
  by_cases hi : i = t
  · subst hi
    refine ⟨fun hmem => absurd hmem (not_mem_deactivate h i), ?_, ?_⟩
    · simp [deactivate, setTimer, timerRemove]
    · simp [deactivate, setTimer, timerRemove]
  · exact (frames_timerRemove i s t).trans (frames_setTimer _ hi _)

lemma frames_stop (h : Tidy s) (i t : Id) : Frames i s (rtTimerStop s t).1 := by
  unfold rtTimerStop
  split
  · exact Frames.refl i s
  · exact frames_deactivate h i t

/-- A call on another timer. -/
lemma frames_call (h : Tidy s) {c : Call Id} (hi : i ≠ c.timer) : Frames i s (call s c) := by
  cases c with
  | start t => exact frames_timerStart s hi
  | stop t => exact frames_stop h i t
  | detach t => exact frames_deactivate h i t
  | control t cmd =>
    cases cmd with
    | setTime time =>
      refine Frames.trans ?_ (frames_setTimer _ hi _)
      split
      · exact frames_deactivate h i t
      · exact Frames.refl i s
    | setOneshot | setPeriodic => exact frames_setTimer s hi _

/-- No call touches the clock. -/
lemma call_tick (s : TimerState Id) (c : Call Id) : (call s c).tick = s.tick := by
  cases c with
  | stop t =>
    show (rtTimerStop s t).1.tick = s.tick
    unfold rtTimerStop
    split <;> rfl
  | control t cmd =>
    cases cmd with
    | setTime time =>
      simp only [call, rtTimerControl, setTimer]
      split <;> rfl
    | setOneshot | setPeriodic => rfl
  | start t | detach t => rfl

/-! ### The check -/

lemma frames_popTimer (h : Tidy s) (i t : Id) : Frames i s (popTimer s t) where
  linked hi := by
    rw [popTimer_timerList] at hi
    have hne : i ≠ t := by
      rintro rfl
      exact h.nodup.not_mem_erase hi
    exact ⟨List.mem_of_mem_erase hi, popTimer_timer_of_ne hne⟩
  initTick := ((popTimer_spec s t).2.2.2.2 i).2.1
  periodic := ((popTimer_spec s t).2.2.2.2 i).2.2

/-- The check does not touch the clock. -/
lemma loop_clock (s : TimerState Id) :
    (timerCheckLoop s).tick = s.tick ∧ (timerCheckLoop s).now = s.now := by
  rcases timerCheckLoop_eq s with ⟨t, -, -, heq⟩ | heq
  · rw [heq]
    exact ⟨(popTimer_spec s t).2.2.1, popTimer_now s t⟩
  · rw [heq]
    exact ⟨rfl, rfl⟩

/-- **The loop of the check**: the timer it calls was linked and due. -/
lemma loop_spec (h : Tidy s) (i : Id) :
    Frames i s (timerCheckLoop s) ∧
      ∀ t, (timerCheckLoop s).pc = .callback t → t ∈ s.timerList ∧ Due s t := by
  rcases timerCheckLoop_eq s with ⟨t, ht, hdue, heq⟩ | heq
  · rw [heq]
    refine ⟨frames_popTimer h i t, fun u hu => ?_⟩
    rw [(popTimer_spec s t).2.1] at hu
    obtain rfl : t = u := by injection hu
    exact ⟨ht, hdue⟩
  · rw [heq]
    refine ⟨⟨fun hi => ⟨hi, rfl⟩, rfl, rfl⟩, ?_⟩
    rintro t ⟨⟩

lemma return_clock (s : TimerState Id) (t : Id) : (timerCheckReturn s t).tick = s.tick ∧
    (timerCheckReturn s t).now = s.now ∧ (timerCheckReturn s t).pc = s.pc := by
  unfold timerCheckReturn
  split
  · exact ⟨rfl, rfl, rfl⟩
  · dsimp only
    split
    · exact ⟨rfl, rfl, rfl⟩
    · exact ⟨rfl, rfl, rfl⟩

/-- The return of a callback starts its own timer again, if any. -/
lemma frames_timerCheckReturn (hi : i ≠ t ∨ (s.timer i).periodic = false) :
    Frames i s (timerCheckReturn s t) := by
  unfold timerCheckReturn
  split
  · exact Frames.refl i s
  · dsimp only
    split
    · next hagain =>
      have hi : i ≠ t := by
        rcases hi with hi | hi
        · exact hi
        · rintro rfl
          have hper : (s.timer i).periodic = true := hagain.1
          rw [hi] at hper
          cases hper
      exact ((frames_timerRemove i s t).trans (frames_setTimer _ hi _)).trans (frames_timerStart _ hi)
    · exact frames_timerRemove i s t

/-! ### The test of the check -/

omit [DecidableEq Id] in
/-- A deadline that is at most half the range of the counter ahead is not taken for one that has
passed. -/
lemma le_of_due {st n : ℕ} (htick : s.tick = BitVec.ofNat 32 s.now)
    (htimeout : (s.timer i).timeoutTick = BitVec.ofNat 32 (st + n)) (hst : st < s.now)
    (hn : n ≤ rtTickMax + 2 - rtTickMax / 2) (hdue : Due s i) : st + n ≤ s.now := by
  by_contra hlt
  have hlt : s.now < st + n := Nat.lt_of_not_ge hlt
  have hmax : rtTickMax / 2 = 2147483647 := rfl
  have hrange : rtTickMax + 2 - rtTickMax / 2 = 2147483650 := rfl
  have hsub : (s.tick - (s.timer i).timeoutTick).toNat = 2 ^ 32 - (st + n - s.now) := by
    rw [htick, htimeout]
    exact Lib.Circular.toNat_ofNat_sub_of_lt hlt (by omega)
  unfold Due at hdue
  rw [hsub, hmax] at hdue
  omega

end N32L43x.Timer
