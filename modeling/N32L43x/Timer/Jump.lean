import N32L43x.Timer.Firing

/-!
The tick is advanced by many ticks at once after a sleep (`rt_tick_increase_tick`), and the check that
follows finds timers that are overdue by different amounts: which it fires, in which order, and when a
start in between goes wrong.
-/

namespace N32L43x.Timer

open N32L43x.Lib.Run N32L43x.Lib.Circular

variable {Id : Type*} [DecidableEq Id] {s s' : TimerState Id} {t u : Id}

/-! ### The system -/

/-- The timers, and two history variables: the timers that were due when the tick was last advanced and
that no call has named since, and the timers fired since then, with their deadlines. -/
structure JumpState (Id : Type*) where
  base : TimerState Id
  expired : List Id
  fired : List (Id × BitVec 32)

inductive JumpAction (Id : Type*)
  | base (a : Action Id)
  /-- `rt_tick_increase_tick` counts the ticks of a sleep -/
  | jump (tick : BitVec 32)

/-- The timer a call names. -/
def Call.timer : Call Id → Id
  | .start t | .stop t | .control t _ | .detach t => t

/-- The tick has been advanced. -/
def advanced (s : TimerState Id) : JumpState Id := ⟨s, s.timerList.filter (Due s ·), []⟩

/-- The timer whose callback has been entered. -/
def firedBy (s : TimerState Id) : List (Id × BitVec 32) :=
  match s.pc with
  | .callback t => [(t, (s.timer t).timeoutTick)]
  | _ => []

def jumpStep (s : JumpState Id) : JumpAction Id → Option (JumpState Id)
  | .base (.call c) => some ⟨call s.base c, s.expired.filter (· ≠ c.timer), s.fired⟩
  | .base .tick => (step s.base .tick).map advanced
  | .base a => (step s.base a).map fun base => ⟨base, s.expired, s.fired ++ firedBy base⟩
  | .jump tick =>
    if s.base.pc = .idle then
      some (advanced { s.base with
        tick := s.base.tick + tick, now := s.base.now + tick.toNat, pc := .entered })
    else none

/-- The times and the jumps are below half the range of the counter. -/
def InRange : JumpAction Id → Prop
  | .base a => TimeBelow a
  | .jump tick => tick.toNat < rtTickMax / 2

/-- The condition: a timer that is started while others are overdue is not too far ahead of them. -/
def JumpNear (s : JumpState Id) : JumpAction Id → Prop
  | .base a => NearAt s.base a
  | .jump _ => True

/-! ### What the calls leave of the list -/

/-- A timer in the list was there with its deadline, or the deadline has not passed. -/
def Later (s s' : TimerState Id) : Prop :=
  ∀ u ∈ s'.timerList,
    u ∈ s.timerList ∧ (s'.timer u).deadline = (s.timer u).deadline ∨ s.now ≤ (s'.timer u).deadline

/-- A timer is in the list if it was, with its deadline. -/
def Stays (t : Id) (s s' : TimerState Id) : Prop :=
  (t ∈ s.timerList → t ∈ s'.timerList) ∧ (s'.timer t).deadline = (s.timer t).deadline

lemma setTimer_deadline {tm : RtTimer} (hk : KeepsDeadline (s.timer t) tm) (u : Id) :
    ((setTimer s t tm).timer u).deadline = (s.timer u).deadline := by
  by_cases hu : u = t
  · subst hu
    simp [setTimer, hk.deadline]
  · simp [setTimer, Function.update_of_ne hu]

lemma deactivate_deadline (s : TimerState Id) (t u : Id) :
    ((deactivate s t).timer u).deadline = (s.timer u).deadline := by
  have hk : KeepsDeadline (s.timer t) { s.timer t with activated := false } := ⟨rfl, rfl, rfl⟩
  exact setTimer_deadline hk u

lemma Later.setTimer (h : Later s s') {tm : RtTimer} (hk : KeepsDeadline (s'.timer t) tm) :
    Later s (setTimer s' t tm) := by
  intro u hu
  rw [setTimer_deadline hk]
  exact h u hu

lemma Stays.setTimer (h : Stays u s s') {tm : RtTimer} (hk : KeepsDeadline (s'.timer t) tm) :
    Stays u s (setTimer s' t tm) := by
  unfold Stays
  rw [setTimer_deadline hk]
  exact h

omit [DecidableEq Id] in
lemma later_refl (s : TimerState Id) : Later s s := fun _ hu => .inl ⟨hu, rfl⟩

omit [DecidableEq Id] in
lemma stays_refl (t : Id) (s : TimerState Id) : Stays t s s := ⟨id, rfl⟩

lemma later_timerRemove (s : TimerState Id) (t : Id) : Later s (timerRemove s t) :=
  fun _ hu => .inl ⟨List.mem_of_mem_erase hu, rfl⟩

lemma stays_timerRemove (s : TimerState Id) (hu : u ≠ t) : Stays u s (timerRemove s t) :=
  ⟨fun hmem => (List.mem_erase_of_ne hu).mpr hmem, rfl⟩

lemma later_timerStart (s : TimerState Id) (t : Id) : Later s (timerStart s t) := by
  intro u hu
  by_cases hut : u = t
  · subst hut
    right
    rw [timerStart_deadline]
    exact Nat.le_add_right _ _
  · left
    rw [timerStart_timer_of_ne hut]
    have hmem : u = t ∨ u ∈ s.timerList.erase t := (List.mem_orderedInsert _).mp hu
    exact ⟨List.mem_of_mem_erase (hmem.resolve_left hut), rfl⟩

lemma stays_timerStart (s : TimerState Id) (hu : u ≠ t) : Stays u s (timerStart s t) := by
  refine ⟨fun hmem => ?_, by rw [timerStart_timer_of_ne hu]⟩
  exact (List.mem_orderedInsert _).mpr (.inr ((List.mem_erase_of_ne hu).mpr hmem))

lemma call_now (s : TimerState Id) (c : Call Id) : (call s c).now = s.now := by
  cases c with
  | stop t =>
    show (rtTimerStop s t).1.now = s.now
    unfold rtTimerStop
    split <;> rfl
  | control t cmd =>
    cases cmd with
    | setTime time =>
      simp only [call, rtTimerControl, setTimer]
      split <;> rfl
    | setOneshot | setPeriodic => rfl
  | start t | detach t => rfl

lemma call_pc (s : TimerState Id) (c : Call Id) : (call s c).pc = s.pc := by
  cases c with
  | stop t =>
    show (rtTimerStop s t).1.pc = s.pc
    unfold rtTimerStop
    split <;> rfl
  | control t cmd =>
    cases cmd with
    | setTime time =>
      simp only [call, rtTimerControl, setTimer]
      split <;> rfl
    | setOneshot | setPeriodic => rfl
  | start t | detach t => rfl

lemma later_call (s : TimerState Id) (c : Call Id) : Later s (call s c) := by
  have hunlink : ∀ t, Later s (deactivate (timerRemove s t) t) := fun t =>
    (later_timerRemove s t).setTimer ⟨rfl, rfl, rfl⟩
  cases c with
  | start t => exact later_timerStart s t
  | stop t =>
    show Later s (rtTimerStop s t).1
    unfold rtTimerStop
    split
    · exact later_refl s
    · exact hunlink t
  | detach t => exact hunlink t
  | control t cmd =>
    cases cmd with
    | setTime time =>
      refine Later.setTimer ?_ ⟨rfl, rfl, rfl⟩
      split
      · exact hunlink t
      · exact later_refl s
    | setOneshot | setPeriodic => exact (later_refl s).setTimer ⟨rfl, rfl, rfl⟩

lemma stays_call (s : TimerState Id) {c : Call Id} (hu : u ≠ c.timer) : Stays u s (call s c) := by
  have hunlink : ∀ t, u ≠ t → Stays u s (deactivate (timerRemove s t) t) := fun t ht =>
    (stays_timerRemove s ht).setTimer ⟨rfl, rfl, rfl⟩
  cases c with
  | start t => exact stays_timerStart s hu
  | stop t =>
    show Stays u s (rtTimerStop s t).1
    unfold rtTimerStop
    split
    · exact stays_refl u s
    · exact hunlink t hu
  | detach t => exact hunlink t hu
  | control t cmd =>
    cases cmd with
    | setTime time =>
      refine Stays.setTimer ?_ ⟨rfl, rfl, rfl⟩
      split
      · exact hunlink t hu
      · exact stays_refl u s
    | setOneshot | setPeriodic => exact (stays_refl u s).setTimer ⟨rfl, rfl, rfl⟩

/-- The return of the callback of `t` changes no timer in the list. -/
lemma timerCheckReturn_list {e : ℕ} (h : InvWithin e s) (hpc : s.pc = .callback t) :
    Later s (timerCheckReturn s t) ∧ (timerCheckReturn s t).now = s.now ∧
      ∀ u ∈ s.timerList, Stays u s (timerCheckReturn s t) := by
  unfold timerCheckReturn
  split
  · exact ⟨later_refl s, rfl, fun u _ => stays_refl u s⟩
  · rename_i hne
    obtain ⟨v, hv⟩ := List.exists_mem_of_ne_nil _ hne
    obtain ⟨-, hpc', hnot⟩ := h.tmp v hv
    obtain rfl : t = v := by
      rw [hpc] at hpc'
      injection hpc'
    have hother : ∀ u ∈ s.timerList, u ≠ t := by
      rintro u hu rfl
      exact hnot hu
    dsimp only
    split
    · refine ⟨fun u hu => ?_, rfl, fun u hu => ?_⟩
      · rcases later_timerStart (deactivate (timerRemove s t) t) t u hu with ⟨hmem, hdead⟩ | hnow
        · left
          exact ⟨List.mem_of_mem_erase hmem, hdead.trans (deactivate_deadline ..)⟩
        · exact .inr hnow
      · have hstop : Stays u s (deactivate (timerRemove s t) t) :=
          (stays_timerRemove s (hother u hu)).setTimer ⟨rfl, rfl, rfl⟩
        have hstart := stays_timerStart (deactivate (timerRemove s t) t) (hother u hu)
        exact ⟨fun hmem => hstart.1 (hstop.1 hmem), hstart.2.trans hstop.2⟩
    · exact ⟨later_timerRemove s t, rfl, fun u hu => stays_timerRemove s (hother u hu)⟩

/-! ### What is fired -/

/-- The deadlines that were fired, on the clock that does not wrap around: they are in order, they have
passed, and no timer in the list is ahead of them. -/
structure InOrder (s : TimerState Id) (ds : List ℕ) : Prop where
  sorted : ds.Pairwise (· ≤ ·)
  passed : ∀ d ∈ ds, d ≤ s.now ∧ s.now < d + rtTickMax / 2
  ahead : ∀ d ∈ ds, ∀ u ∈ s.timerList, d ≤ (s.timer u).deadline

/-- The invariant. -/
structure Good (s : JumpState Id) : Prop where
  inv : InvWithin (rtTickMax / 2 - 1) s.base
  order : ∃ ds, s.fired.map Prod.snd = ds.map (BitVec.ofNat 32) ∧ InOrder s.base ds
  expired : ∀ t ∈ s.expired, t ∈ s.fired.map Prod.fst ∨
    t ∈ s.base.timerList ∧ (s.base.timer t).deadline ≤ s.base.now

omit [DecidableEq Id] in
lemma InOrder.later {ds : List ℕ} (h : InOrder s ds) (hlater : Later s s') (hnow : s'.now = s.now) :
    InOrder s' ds where
  sorted := h.sorted
  passed := by
    rw [hnow]
    exact h.passed
  ahead d hd u hu := by
    rcases hlater u hu with ⟨hmem, hdead⟩ | hpast
    · rw [hdead]
      exact h.ahead d hd u hmem
    · exact (h.passed d hd).1.trans hpast

lemma half_sub_one_lt : rtTickMax / 2 - 1 < rtTickMax / 2 := by decide

omit [DecidableEq Id] in
/-- In the circular order, too. -/
lemma InOrder.circLe {ds : List ℕ} (h : InOrder s ds) :
    (ds.map (BitVec.ofNat 32)).Pairwise CircLe := by
  rw [List.pairwise_map]
  refine h.sorted.imp_of_mem ?_
  intro a b ha hb hab
  have hmax : rtTickMax / 2 = 2147483647 := rfl
  have hpa := (h.passed a ha).2
  have hpb := (h.passed b hb).1
  exact circLe_ofNat hab (by omega)

/-- The head of the list is fired. -/
lemma InOrder.pop {ds : List ℕ} {rest : List Id} (h : InOrder s ds)
    (hinv : InvWithin (rtTickMax / 2 - 1) s) (hlist : s.timerList = t :: rest)
    (hdue : (s.timer t).deadline ≤ s.now) :
    InOrder (popTimer s t) (ds ++ [(s.timer t).deadline]) := by
  have hmax : rtTickMax / 2 = 2147483647 := rfl
  have hmem : t ∈ s.timerList := by simp [hlist]
  have hlow := (hinv.linked t hmem).lower
  have hdead : ∀ u, ((popTimer s t).timer u).deadline = (s.timer u).deadline := by
    intro u
    by_cases hu : u = t
    · subst hu
      rw [popTimer_timer_self]
    · rw [popTimer_timer_of_ne hu]
  constructor
  · rw [List.pairwise_append]
    refine ⟨h.sorted, List.pairwise_singleton _ _, fun a ha b hb => ?_⟩
    obtain rfl := List.mem_singleton.mp hb
    exact h.ahead a ha t hmem
  · intro d hd
    rw [popTimer_now]
    rcases List.mem_append.mp hd with hd | hd
    · exact h.passed d hd
    · obtain rfl := List.mem_singleton.mp hd
      omega
  · intro d hd u hu
    rw [hdead]
    rw [popTimer_timerList] at hu
    have hu' := List.mem_of_mem_erase hu
    rcases List.mem_append.mp hd with hd | hd
    · exact h.ahead d hd u hu'
    · obtain rfl := List.mem_singleton.mp hd
      have hsorted := hinv.sorted
      rw [hlist, List.pairwise_cons] at hsorted
      rw [hlist, List.erase_cons_head] at hu
      have hbefore := hsorted.1 u hu
      unfold Before at hbefore
      omega

namespace Good

variable {expired : List Id} {fired : List (Id × BitVec 32)}

/-- A turn of the check: it fires a timer, or it returns with no timer due in the list. -/
lemma turn (h : Good ⟨s, expired, fired⟩) (hnil : s.list = []) :
    Good ⟨timerCheckLoop s, expired, fired ++ firedBy (timerCheckLoop s)⟩ ∧
      ((timerCheckLoop s).pc = .idle → ∀ u ∈ (timerCheckLoop s).timerList,
        (timerCheckLoop s).now < ((timerCheckLoop s).timer u).deadline) := by
  have hinv := h.inv.timerCheckLoop half_sub_one_lt hnil
  obtain ⟨ds, hds, horder⟩ := h.order
  rcases h.inv.timerCheckLoop_cases half_sub_one_lt with ⟨t, rest, hlist, hdue, heq⟩ | ⟨hdone, heq⟩
  · have hlist' : s.timerList = t :: rest := hlist
    have hmem : t ∈ s.timerList := by simp [hlist']
    have hpc : (popTimer s t).pc = .callback t := rfl
    have hfired : firedBy (popTimer s t) = [(t, (s.timer t).timeoutTick)] := by
      unfold firedBy
      rw [hpc]
      simp only
      rw [popTimer_timer_self]
    rw [heq] at hinv ⊢
    rw [hfired]
    refine ⟨⟨hinv, ⟨_, ?_, horder.pop h.inv hlist hdue⟩, fun u hu => ?_⟩, fun hidle => ?_⟩
    · rw [List.map_append, List.map_append, hds, List.map_singleton, List.map_singleton,
        (h.inv.linked t hmem).timeout]
    · by_cases hut : u = t
      · simp [hut]
      · simp only
        rw [popTimer_timerList, popTimer_now, popTimer_timer_of_ne hut, List.mem_erase_of_ne hut,
          List.map_append, List.mem_append]
        rcases h.expired u hu with hu | hu
        · exact .inl (.inl hu)
        · exact .inr hu
    · rw [hpc] at hidle
      cases hidle
  · have hfired : firedBy (endCheck s) = [] := rfl
    rw [heq] at hinv ⊢
    rw [hfired, List.append_nil]
    exact ⟨⟨hinv, ⟨ds, hds, horder.sorted, horder.passed, horder.ahead⟩, h.expired⟩, fun _ => hdone⟩

omit [DecidableEq Id] in
/-- The tick has been advanced, by less than half the range. -/
lemma advance [DecidableEq Id] (h : InvWithin (rtTickMax / 2 - 1) s) (hpc : s.pc = .idle) {d : ℕ}
    (hd : d < rtTickMax / 2) : Good (advanced
      { s with tick := s.tick + BitVec.ofNat 32 d, now := s.now + d, pc := .entered }) := by
  have hinv := h.advance hpc (Nat.le_sub_one_of_lt hd)
  refine ⟨hinv, ⟨[], rfl, List.Pairwise.nil, by simp, by simp⟩, fun t ht => .inr ?_⟩
  obtain ⟨hmem, hdue⟩ := List.mem_filter.mp ht
  exact ⟨hmem, (due_iff half_sub_one_lt hinv.tick (hinv.linked t hmem)).mp (of_decide_eq_true hdue)⟩

/-- **The invariant survives every step**, and a check that returns leaves no timer due in the list. -/
lemma step {s s' : JumpState Id} {a : JumpAction Id} (h : Good s) (hrange : InRange a)
    (hnear : JumpNear s a) (hs : jumpStep s a = some s') :
    Good s' ∧ (s.base.pc ≠ .idle → s'.base.pc = .idle →
      ∀ u ∈ s'.base.timerList, s'.base.now < (s'.base.timer u).deadline) := by
  obtain ⟨ds, hds, horder⟩ := h.order
  have hone : 1 < rtTickMax / 2 := one_lt_half
  cases a with
  | jump tick =>
    simp only [jumpStep] at hs
    split at hs
    · rename_i hpc
      cases hs
      have h' := advance h.inv hpc hrange
      rw [BitVec.ofNat_toNat, BitVec.setWidth_eq] at h'
      exact ⟨h', fun hin => absurd hpc hin⟩
    · cases hs
  | base a =>
    cases a with
    | call c =>
      cases hs
      have hinv := h.inv.step (Nat.le_sub_one_of_lt hone) half_sub_one_lt hrange hnear rfl
      refine ⟨⟨hinv, ⟨ds, hds, horder.later (later_call s.base c) (call_now ..)⟩, fun t ht => ?_⟩,
        fun hin hout => ?_⟩
      · obtain ⟨hmem, htc⟩ := List.mem_filter.mp ht
        have hstays := stays_call s.base (of_decide_eq_true htc)
        rcases h.expired t hmem with hfired | ⟨hlist, hdead⟩
        · exact .inl hfired
        · right
          simp only
          rw [hstays.2, call_now]
          exact ⟨hstays.1 hlist, hdead⟩
      · rw [show (call s.base c).pc = s.base.pc from call_pc ..] at hout
        exact absurd hout hin
    | tick =>
      simp only [jumpStep, Timer.step] at hs
      split at hs
      · rename_i hpc
        cases hs
        exact ⟨advance h.inv hpc hone, fun hin => absurd hpc hin⟩
      · cases hs
    | check =>
      simp only [jumpStep, Timer.step] at hs
      split at hs
      · cases hs
        have hclear : Good ⟨{ s.base with list := [] }, s.expired, s.fired⟩ :=
          ⟨h.inv.clear_list, ⟨ds, hds, horder.sorted, horder.passed, horder.ahead⟩, h.expired⟩
        obtain ⟨h', hdone⟩ := hclear.turn rfl
        exact ⟨h', fun _ => hdone⟩
      · cases hs
    | ret =>
      simp only [jumpStep, Timer.step] at hs
      split at hs
      · rename_i t hpc
        cases hs
        obtain ⟨hinv, hnil⟩ := h.inv.timerCheckReturn half_sub_one_lt hpc (hnear t hpc)
        obtain ⟨hlater, hnow, hstays⟩ := timerCheckReturn_list h.inv hpc
        have hreturn : Good ⟨timerCheckReturn s.base t, s.expired, s.fired⟩ := by
          refine ⟨hinv, ⟨ds, hds, horder.later hlater hnow⟩, fun u hu => ?_⟩
          rcases h.expired u hu with hfired | ⟨hlist, hdead⟩
          · exact .inl hfired
          · right
            simp only
            rw [(hstays u hlist).2, hnow]
            exact ⟨(hstays u hlist).1 hlist, hdead⟩
        obtain ⟨h', hdone⟩ := hreturn.turn hnil
        exact ⟨h', fun _ => hdone⟩
      · cases hs

end Good

/-! ### Runs -/

/-- The timers as `rt_timer_init` leaves them. -/
def jumpInit (tick : BitVec 32) (periodic : Id → Bool) (time : Id → BitVec 32) : JumpState Id :=
  ⟨init tick periodic time, [], []⟩

omit [DecidableEq Id] in
lemma good_jumpInit (tick : BitVec 32) (periodic : Id → Bool) (time : Id → BitVec 32)
    (htime : ∀ t, (time t).toNat < rtTickMax / 2) : Good (jumpInit tick periodic time) :=
  ⟨invWithin_init tick periodic time htime, ⟨[], rfl, List.Pairwise.nil, by simp, by simp⟩, nofun⟩

/-- **The check after a jump.**  In a run in which no timer is started too far ahead of one that is
overdue, whenever a check returns, no timer in the list is due; the timers that were due when the tick was
advanced have fired, unless a call has named them since; and what has fired has fired in the circular
order of the deadlines. -/
theorem check_fires_overdue (tick : BitVec 32) (periodic : Id → Bool) (time : Id → BitVec 32)
    (htime : ∀ t, (time t).toNat < rtTickMax / 2) (as : List (JumpAction Id)) (a : JumpAction Id)
    (hrange : ∀ b ∈ as ++ [a], InRange b)
    (hnear : Along jumpStep JumpNear (jumpInit tick periodic time) (as ++ [a])) {s s' : JumpState Id}
    (hrun : exec jumpStep (jumpInit tick periodic time) as = some s) (hs : jumpStep s a = some s')
    (hin : s.base.pc ≠ .idle) (hout : s'.base.pc = .idle) :
    (∀ t ∈ s'.base.timerList, ¬ Due s'.base t) ∧ (∀ t ∈ s'.expired, t ∈ s'.fired.map Prod.fst) ∧
      (s'.fired.map Prod.snd).Pairwise CircLe := by
  have hall := hnear.and (along_of_forall _ _ hrange)
  have hgood : Good s := by
    refine exec_inv_of_along (C := fun s a => JumpNear s a ∧ InRange a) ?_ as _ s
      (good_jumpInit tick periodic time htime) hall.of_append_left hrun
    intro s a s' h hC hs
    exact (h.step hC.2 hC.1 hs).1
  obtain ⟨hnear', hrange'⟩ := hall.of_append hrun
  obtain ⟨hgood', hdone⟩ := hgood.step hrange' hnear' hs
  have hlater := hdone hin hout
  obtain ⟨ds, hds, horder⟩ := hgood'.order
  refine ⟨fun t ht hdue => ?_, fun t ht => ?_, ?_⟩
  · have hle := (due_iff half_sub_one_lt hgood'.inv.tick (hgood'.inv.linked t ht)).mp hdue
    exact absurd (hlater t ht) (Nat.not_lt.mpr hle)
  · rcases hgood'.expired t ht with hfired | ⟨hlist, hdead⟩
    · exact hfired
    · exact absurd (hlater t hlist) (Nat.not_lt.mpr hdead)
  · rw [hds]
    exact horder.circLe

section Three

/-- Two timers run, the tick jumps beyond both deadlines, and the callback of the first one starts a
third. -/
def startedInCallback (a b c : Id) (tick : BitVec 32) : List (JumpAction Id) :=
  [.base (.call (.start a)), .base (.call (.start b)), .jump tick, .base .check,
    .base (.call (.start c))]

/-- The times of three timers. -/
def times (time : BitVec 32) : Fin 3 → BitVec 32
  | 0 => 1#32
  | 1 => 2#32
  | _ => time

instance NearAt.decidable (s : TimerState (Fin 3)) : ∀ a, Decidable (NearAt s a)
  | .call (.start t) => inferInstanceAs (Decidable (Near s t))
  | .ret => inferInstanceAs (Decidable (∀ t, s.pc = .callback t → Restarts s t → Near s t))
  | .call (.stop _) | .call (.control _ _) | .call (.detach _) | .tick | .check => isTrue trivial

instance JumpNear.decidable (s : JumpState (Fin 3)) : ∀ a, Decidable (JumpNear s a)
  | .base a => inferInstanceAs (Decidable (NearAt s.base a))
  | .jump _ => isTrue trivial

/-- Within the range, both overdue timers fire, and the third one waits. -/
theorem check_fires_overdue_near : ∃ s' : JumpState (Fin 3),
    exec jumpStep (jumpInit 0xfffffffe#32 (fun _ => false) (times 5#32))
      (startedInCallback 0 1 2 0x7ffffffe#32 ++ [.base .ret] ++ [.base .ret]) = some s' ∧
    s'.fired.map Prod.fst = [0, 1] ∧ s'.base.timerList = [2] ∧
    (∀ t ∈ s'.base.timerList, ¬ Due s'.base t) ∧ (∀ t ∈ s'.expired, t ∈ s'.fired.map Prod.fst) ∧
      (s'.fired.map Prod.snd).Pairwise CircLe := by
  have htime : ∀ t, (times 5#32 t).toNat < rtTickMax / 2 := by decide +kernel
  have hrange : ∀ b ∈ startedInCallback (0 : Fin 3) 1 2 0x7ffffffe#32 ++ [.base .ret] ++ [.base .ret],
      InRange b := by
    simp [startedInCallback, InRange, TimeBelow, timeOf, rtTickMax]
  have hrun : Along jumpStep JumpNear (jumpInit 0xfffffffe#32 (fun _ => false) (times 5#32))
        (startedInCallback (0 : Fin 3) 1 2 0x7ffffffe#32 ++ [.base .ret] ++ [.base .ret]) ∧
      ∃ s ∈ exec jumpStep (jumpInit 0xfffffffe#32 (fun _ => false) (times 5#32))
        (startedInCallback (0 : Fin 3) 1 2 0x7ffffffe#32 ++ [.base .ret]), s.base.pc ≠ .idle ∧
      ∃ s' ∈ jumpStep s (.base .ret), s'.base.pc = .idle ∧ s'.fired.map Prod.fst = [0, 1] ∧
        s'.base.timerList = [2] := by
    decide +kernel
  obtain ⟨hnear, s, hs, hin, s', hs', hout, hfired, hlist⟩ := hrun
  refine ⟨s', ?_, hfired, hlist, ?_⟩
  · rw [exec_append_some hs, exec_cons_some hs']
    rfl
  · exact check_fires_overdue _ _ _ htime _ _ hrange hnear hs hs' hin hout

/-- The third timer is started with a time within the range, and is put in front of the second, which is
overdue: the check returns without firing that one. -/
theorem overdue_left_behind : (∀ t, (times 0x7ffffffe#32 t).toNat < rtTickMax / 2) ∧
    (∀ b ∈ startedInCallback (0 : Fin 3) 1 2 0x7ffffffe#32 ++ [.base .ret], InRange b) ∧
    ∃ s', exec jumpStep (jumpInit 0#32 (fun _ => false) (times 0x7ffffffe#32))
        (startedInCallback (0 : Fin 3) 1 2 0x7ffffffe#32 ++ [.base .ret]) = some s' ∧
      s'.base.pc = .idle ∧ s'.base.timerList = [2, 1] ∧ Due s'.base 1 := by
  refine ⟨by decide +kernel, ?_, ?_⟩
  · simp [startedInCallback, InRange, TimeBelow, timeOf, rtTickMax]
  · have hrun : ∃ s' ∈ exec jumpStep (jumpInit 0#32 (fun _ => false) (times 0x7ffffffe#32))
        (startedInCallback (0 : Fin 3) 1 2 0x7ffffffe#32 ++ [.base .ret]),
        s'.base.pc = .idle ∧ s'.base.timerList = [2, 1] ∧ Due s'.base 1 := by
      decide +kernel
    obtain ⟨s', hs', hres⟩ := hrun
    exact ⟨s', hs', hres⟩

end Three

end N32L43x.Timer
