import N32L43x.Timer.Within

/-!
The order of the timer list.  The deadlines that are linked at one time lie between the last tick
and half the range of the counter ahead of it, so the wrapping comparison of `_timer_start` agrees
with the order of the deadlines on the clock that does not wrap around, and the list is ordered by
deadline and, among equal deadlines, by the order of the starts.
-/

namespace N32L43x.Timer

open N32L43x.Lib.Run N32L43x.Lib.Circular

variable {Id : Type*} [DecidableEq Id] {s s' : TimerState Id} {t u : Id}

/-- The list is ordered by circular deadline, with equal deadlines in the order of the starts. -/
def Ordered (s : TimerState Id) : Prop :=
  s.timerList.Pairwise fun a b =>
    CircLe (s.timer a).timeoutTick (s.timer b).timeoutTick ∧
      ((s.timer a).timeoutTick = (s.timer b).timeoutTick → (s.timer a).stamp < (s.timer b).stamp)

/-! ### The invariant -/

/-- What is known of a timer in the list.  Outside the tick interrupt no linked deadline has
passed, inside it the ones of the last tick may not have been popped yet. -/
structure Linked (s : TimerState Id) (t : Id) : Prop where
  timeout : (s.timer t).timeoutTick = BitVec.ofNat 32 (s.timer t).deadline
  lower : s.now ≤ (s.timer t).deadline + 1
  idle : s.pc = .idle → s.now ≤ (s.timer t).deadline
  upper : (s.timer t).deadline < s.now + rtTickMax / 2
  stamp : (s.timer t).stamp < s.starts

structure Inv (s : TimerState Id) : Prop where
  tick : s.tick = BitVec.ofNat 32 s.now
  inits : ∀ t, (s.timer t).initTick.toNat < rtTickMax / 2
  linked : ∀ t ∈ s.timerList, Linked s t
  sorted : s.timerList.Pairwise (Before s.timer)
  tmp : ∀ t ∈ s.list, s.list = [t] ∧ s.pc = .callback t ∧ t ∉ s.timerList

omit [DecidableEq Id] in
lemma linked_iff : Linked s t ↔ LinkedWithin 1 s t :=
  ⟨fun h => ⟨h.timeout, h.lower, h.idle, h.upper, h.stamp⟩,
    fun h => ⟨h.timeout, h.lower, h.idle, h.upper, h.stamp⟩⟩

omit [DecidableEq Id] in
/-- The tick is one past a deadline at most. -/
lemma inv_iff : Inv s ↔ InvWithin 1 s :=
  ⟨fun h => ⟨h.tick, h.inits, fun t ht => linked_iff.mp (h.linked t ht), h.sorted, h.tmp⟩,
    fun h => ⟨h.tick, h.inits, fun t ht => linked_iff.mpr (h.linked t ht), h.sorted, h.tmp⟩⟩

lemma one_lt_half : 1 < rtTickMax / 2 := by decide

omit [DecidableEq Id] in
/-- One tick behind, no time is too far ahead. -/
lemma InvWithin.near_of_one (h : InvWithin 1 s) (t : Id) : Near s t := by
  intro u hmem _ hdue
  have hmax : rtTickMax / 2 = 2147483647 := rfl
  have hrange : rtTickMax + 1 - rtTickMax / 2 = 2147483649 := rfl
  have htime := h.inits t
  have hl := h.linked u hmem
  have hle := (due_iff one_lt_half h.tick hl).mp hdue
  have hlow := hl.lower
  rw [h.tick, hl.timeout, toNat_ofNat_sub hle (by omega)]
  omega

namespace Inv

omit [DecidableEq Id] in
lemma nodup (h : Inv s) : s.timerList.Nodup := (inv_iff.mp h).nodup

lemma timerRemove (h : Inv s) (t : Id) : Inv (timerRemove s t) :=
  inv_iff.mpr ((inv_iff.mp h).timerRemove t)

lemma deactivate (h : Inv s) (t : Id) : Inv (deactivate s t) :=
  inv_iff.mpr ((inv_iff.mp h).deactivate t)

lemma timerStart (h : Inv s) (t : Id) : Inv (timerStart s t) :=
  inv_iff.mpr ((inv_iff.mp h).timerStart one_lt_half ((inv_iff.mp h).near_of_one t))

omit [DecidableEq Id] in
lemma clear_list (h : Inv s) : Inv { s with list := [] } := inv_iff.mpr (inv_iff.mp h).clear_list

/-- After a callback the temporary list is empty again. -/
lemma timerCheckReturn (h : Inv s) (hpc : s.pc = .callback t) :
    Inv (timerCheckReturn s t) ∧ (timerCheckReturn s t).list = [] := by
  obtain ⟨h', hnil⟩ := (inv_iff.mp h).timerCheckReturn one_lt_half hpc
    fun _ => (inv_iff.mp h).near_of_one t
  exact ⟨inv_iff.mpr h', hnil⟩

/-- **The invariant survives every step.** -/
theorem step {a : Action Id} (h : Inv s) (htime : TimeBelow a) (hs : step s a = some s') :
    Inv s' := by
  have hnear : NearAt s a := by
    unfold NearAt
    split
    · exact (inv_iff.mp h).near_of_one _
    · exact fun t _ _ => (inv_iff.mp h).near_of_one t
    · trivial
  exact inv_iff.mpr ((inv_iff.mp h).step (le_refl 1) one_lt_half htime hnear hs)

end Inv

omit [DecidableEq Id] in
lemma inv_init (tick : BitVec 32) (periodic : Id → Bool) (time : Id → BitVec 32)
    (htime : ∀ t, (time t).toNat < rtTickMax / 2) : Inv (init tick periodic time) :=
  inv_iff.mpr (invWithin_init tick periodic time htime)

lemma mem_timerStart (h : Inv s) : u ∈ (timerStart s t).timerList ↔ u = t ∨ u ∈ s.timerList :=
  (inv_iff.mp h).mem_timerStart

/-- **One turn of the check.**  It pops the head of the list, whose deadline is reached, or it ends
with no reached deadline left in the list. -/
lemma timerCheckLoop_cases (h : Inv s) :
    (∃ t rest, s.timerList = t :: rest ∧ (s.timer t).deadline ≤ s.now ∧
      timerCheckLoop s = popTimer s t) ∨
    ((∀ u ∈ s.timerList, s.now < (s.timer u).deadline) ∧ timerCheckLoop s = endCheck s) :=
  (inv_iff.mp h).timerCheckLoop_cases one_lt_half

omit [DecidableEq Id] in
/-- The order on the clock that does not wrap around is the circular order of the ticks. -/
theorem Inv.ordered (h : Inv s) : Ordered s := by
  refine h.sorted.imp_of_mem ?_
  intro a b ha hb hab
  have hmax : rtTickMax / 2 = 2147483647 := rfl
  have hla := (h.linked a ha).lower
  have hub := (h.linked b hb).upper
  rw [(h.linked a ha).timeout, (h.linked b hb).timeout]
  have hle : (s.timer a).deadline ≤ (s.timer b).deadline := by
    unfold Before at hab
    omega
  constructor
  · exact circLe_ofNat hle (by omega)
  · intro heq
    have hdead := eq_of_ofNat_eq heq hle (by omega)
    unfold Before at hab
    omega

end N32L43x.Timer
