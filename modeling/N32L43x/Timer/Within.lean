import N32L43x.Lib.Circular
import N32L43x.Lib.Ordered
import N32L43x.Timer.Defs

/-!
The order of the timer list while the tick is at most `e` past the deadlines in it, where `e` is less
than half the range of the counter.  A timer that is not started too far ahead of one that is overdue
gets its place by the wrapping comparison of `_timer_start` as it would by the deadlines on the clock
that does not wrap around.
-/

namespace N32L43x.Timer

open N32L43x.Lib.Run N32L43x.Lib.Circular N32L43x.Lib.Ordered

variable {Id : Type*} [DecidableEq Id] {s s' : TimerState Id} {t u : Id} {e : ℕ}

/-! ### The invariant -/

/-- The order of the list: by deadline, and by start among equal deadlines. -/
def Before (timer : Id → RtTimer) (a b : Id) : Prop :=
  (timer a).deadline < (timer b).deadline ∨
    (timer a).deadline = (timer b).deadline ∧ (timer a).stamp < (timer b).stamp

/-- What is known of a timer in the list.  Outside the tick interrupt no linked deadline has
passed, inside it the tick is at most `e` past one. -/
structure LinkedWithin (e : ℕ) (s : TimerState Id) (t : Id) : Prop where
  timeout : (s.timer t).timeoutTick = BitVec.ofNat 32 (s.timer t).deadline
  lower : s.now ≤ (s.timer t).deadline + e
  idle : s.pc = .idle → s.now ≤ (s.timer t).deadline
  upper : (s.timer t).deadline < s.now + rtTickMax / 2
  stamp : (s.timer t).stamp < s.starts

structure InvWithin (e : ℕ) (s : TimerState Id) : Prop where
  tick : s.tick = BitVec.ofNat 32 s.now
  inits : ∀ t, (s.timer t).initTick.toNat < rtTickMax / 2
  linked : ∀ t ∈ s.timerList, LinkedWithin e s t
  sorted : s.timerList.Pairwise (Before s.timer)
  tmp : ∀ t ∈ s.list, s.list = [t] ∧ s.pc = .callback t ∧ t ∉ s.timerList

/-- The tick has reached the deadline of the timer, by the test of `_timer_check`. -/
def Due (s : TimerState Id) (t : Id) : Prop :=
  (s.tick - (s.timer t).timeoutTick).toNat < rtTickMax / 2

instance (s : TimerState Id) (t : Id) : Decidable (Due s t) := inferInstanceAs (Decidable (_ < _))

/-- From the earliest timer in the list that is due to the new deadline of `t` it is not so far that
`_timer_start` would take that one for the later one. -/
def Near (s : TimerState Id) (t : Id) : Prop :=
  ∀ u ∈ s.timerList, u ≠ t → Due s u →
    (s.tick - (s.timer u).timeoutTick).toNat + (s.timer t).initTick.toNat ≤
      rtTickMax + 1 - rtTickMax / 2

instance (s : TimerState Id) (t : Id) : Decidable (Near s t) :=
  inferInstanceAs (Decidable (∀ u ∈ _, _ → _ → _))

omit [DecidableEq Id] in
lemma before_trans (timer : Id → RtTimer) (a b c : Id) (hab : Before timer a b)
    (hbc : Before timer b c) : Before timer a c := by
  unfold Before at *
  omega

omit [DecidableEq Id] in
lemma not_before_self (timer : Id → RtTimer) (a : Id) : ¬ Before timer a a := by
  unfold Before
  omega

omit [DecidableEq Id] in
lemma InvWithin.nodup (h : InvWithin e s) : s.timerList.Nodup := by
  refine h.sorted.imp ?_
  rintro a b hab rfl
  exact not_before_self _ _ hab

omit [DecidableEq Id] in
lemma invWithin_init (tick : BitVec 32) (periodic : Id → Bool) (time : Id → BitVec 32)
    (htime : ∀ t, (time t).toNat < rtTickMax / 2) : InvWithin e (init tick periodic time) where
  tick := by simp [init]
  inits := htime
  linked := by simp [init]
  sorted := List.Pairwise.nil
  tmp := by simp [init]

/-! ### Unlinking a timer, and writing its flags and time -/

/-- The temporary list has one timer at most, so it is empty once that one is unlinked. -/
lemma InvWithin.mem_erase_tmp (h : InvWithin e s) (hu : u ∈ s.list.erase t) :
    u ≠ t ∧ s.list.erase t = [u] ∧ s.pc = .callback u ∧ u ∉ s.timerList := by
  obtain ⟨hone, hpc, hnot⟩ := h.tmp u (List.mem_of_mem_erase hu)
  rw [hone] at hu ⊢
  by_cases hut : u = t
  · subst hut
    rw [List.erase_cons_head] at hu
    cases hu
  · refine ⟨hut, ?_, hpc, hnot⟩
    simp [hut]

lemma InvWithin.timerRemove (h : InvWithin e s) (t : Id) : InvWithin e (timerRemove s t) where
  tick := h.tick
  inits := h.inits
  linked u hu := by
    have hl := h.linked u (List.mem_of_mem_erase hu)
    exact ⟨hl.timeout, hl.lower, hl.idle, hl.upper, hl.stamp⟩
  sorted := h.sorted.sublist List.erase_sublist
  tmp u hu := by
    obtain ⟨-, hone, hpc, hnot⟩ := h.mem_erase_tmp hu
    exact ⟨hone, hpc, fun hmem => hnot (List.mem_of_mem_erase hmem)⟩

/-- A write to a timer that leaves its deadline alone. -/
structure KeepsDeadline (old new : RtTimer) : Prop where
  timeoutTick : new.timeoutTick = old.timeoutTick
  deadline : new.deadline = old.deadline
  stamp : new.stamp = old.stamp

lemma before_setTimer {tm : RtTimer} (hk : KeepsDeadline (s.timer t) tm) (a b : Id) :
    Before (setTimer s t tm).timer a b ↔ Before s.timer a b := by
  have hdead : ∀ u, ((setTimer s t tm).timer u).deadline = (s.timer u).deadline := by
    intro u
    by_cases hu : u = t
    · subst hu
      simp [setTimer, hk.deadline]
    · simp [setTimer, Function.update_of_ne hu]
  have hstamp : ∀ u, ((setTimer s t tm).timer u).stamp = (s.timer u).stamp := by
    intro u
    by_cases hu : u = t
    · subst hu
      simp [setTimer, hk.stamp]
    · simp [setTimer, Function.update_of_ne hu]
  simp only [Before, hdead, hstamp]

lemma LinkedWithin.setTimer {tm : RtTimer} (hk : KeepsDeadline (s.timer t) tm) (h : LinkedWithin e s u) :
    LinkedWithin e (setTimer s t tm) u := by
  by_cases hu : u = t
  · subst hu
    constructor
    · simpa [Timer.setTimer, hk.timeoutTick, hk.deadline] using h.timeout
    · simpa [Timer.setTimer, hk.deadline] using h.lower
    · simpa [Timer.setTimer, hk.deadline] using h.idle
    · simpa [Timer.setTimer, hk.deadline] using h.upper
    · simpa [Timer.setTimer, hk.stamp] using h.stamp
  · constructor
    · simpa [Timer.setTimer, Function.update_of_ne hu] using h.timeout
    · simpa [Timer.setTimer, Function.update_of_ne hu] using h.lower
    · simpa [Timer.setTimer, Function.update_of_ne hu] using h.idle
    · simpa [Timer.setTimer, Function.update_of_ne hu] using h.upper
    · simpa [Timer.setTimer, Function.update_of_ne hu] using h.stamp

lemma InvWithin.setTimer {tm : RtTimer} (h : InvWithin e s) (hk : KeepsDeadline (s.timer t) tm)
    (htime : tm.initTick.toNat < rtTickMax / 2) : InvWithin e (setTimer s t tm) where
  tick := h.tick
  inits u := by
    by_cases hu : u = t
    · subst hu
      simpa [Timer.setTimer] using htime
    · simpa [Timer.setTimer, Function.update_of_ne hu] using h.inits u
  linked u hu := (h.linked u hu).setTimer hk
  sorted := h.sorted.imp fun {a b} hab => (before_setTimer hk a b).mpr hab
  tmp := h.tmp

lemma InvWithin.deactivate (h : InvWithin e s) (t : Id) : InvWithin e (deactivate s t) :=
  h.setTimer ⟨rfl, rfl, rfl⟩ (h.inits t)

/-! ### Starting a timer -/

lemma timerStart_timer_of_ne (hu : u ≠ t) : (timerStart s t).timer u = s.timer u := by
  simp [timerStart, timerRemove, setTimer, Function.update_of_ne hu]

lemma timerStart_deadline (s : TimerState Id) (t : Id) :
    ((timerStart s t).timer t).deadline = s.now + (s.timer t).initTick.toNat := by
  simp [timerStart, timerRemove, setTimer]

lemma timerStart_stamp (s : TimerState Id) (t : Id) :
    ((timerStart s t).timer t).stamp = s.starts := by
  simp [timerStart, timerRemove, setTimer]

lemma timerStart_timeoutTick (s : TimerState Id) (t : Id) :
    ((timerStart s t).timer t).timeoutTick = s.tick + (s.timer t).initTick := by
  simp [timerStart, timerRemove, setTimer]

lemma InvWithin.mem_timerStart (h : InvWithin e s) :
    u ∈ (timerStart s t).timerList ↔ u = t ∨ u ∈ s.timerList := by
  have hmem : u ∈ (timerStart s t).timerList ↔ u = t ∨ u ∈ s.timerList.erase t := by
    exact List.mem_orderedInsert _
  rw [hmem, h.nodup.mem_erase_iff]
  tauto

lemma LinkedWithin.timerStart_of_ne (h : LinkedWithin e s u) (hu : u ≠ t) : LinkedWithin e (timerStart s t) u := by
  have htimer := timerStart_timer_of_ne (s := s) hu
  constructor
  · rw [htimer]
    exact h.timeout
  · rw [htimer]
    exact h.lower
  · rw [htimer]
    exact h.idle
  · rw [htimer]
    exact h.upper
  · rw [htimer]
    exact Nat.lt_succ_of_lt h.stamp

lemma InvWithin.linked_timerStart (h : InvWithin e s) (t : Id) :
    LinkedWithin e (timerStart s t) t := by
  have htime := h.inits t
  constructor
  · rw [timerStart_timeoutTick, timerStart_deadline, h.tick, BitVec.ofNat_add]
    simp
  · rw [timerStart_deadline]
    show s.now ≤ _
    omega
  · rw [timerStart_deadline]
    show _ → s.now ≤ _
    omega
  · rw [timerStart_deadline]
    show _ < s.now + _
    omega
  · rw [timerStart_stamp]
    exact Nat.lt_succ_self _

omit [DecidableEq Id] in
/-- The test of `_timer_start` finds the place of the new timer: it stops in front of the later
deadlines, and it passes the earlier ones and the equal ones. -/
lemma breaksAt_iff (ht : LinkedWithin e s t) (hu : LinkedWithin e s u)
    (hlow : s.now ≤ (s.timer t).deadline)
    (hfar : (s.timer t).deadline ≤ (s.timer u).deadline + (rtTickMax + 1 - rtTickMax / 2)) :
    BreaksAt s.timer t u ↔ (s.timer t).deadline < (s.timer u).deadline := by
  have hmax : rtTickMax / 2 = 2147483647 := rfl
  have hrange : rtTickMax + 1 - rtTickMax / 2 = 2147483649 := rfl
  have h₁ := ht.upper
  have h₂ := hu.upper
  unfold BreaksAt
  rw [ht.timeout, hu.timeout]
  rcases le_or_gt (s.timer t).deadline (s.timer u).deadline with hle | hlt
  · have hsub := toNat_ofNat_sub (w := 32) hle (by omega)
    rw [← BitVec.toNat_ne_iff_ne, hsub, BitVec.toNat_zero]
    omega
  · have hsub := toNat_ofNat_sub_of_lt (w := 32) hlt (by omega)
    rw [hsub]
    omega

omit [DecidableEq Id] in
/-- The test of `_timer_check`: has the tick reached the deadline? -/
lemma due_iff (he : e < rtTickMax / 2) (htick : s.tick = BitVec.ofNat 32 s.now)
    (ht : LinkedWithin e s t) : Due s t ↔ (s.timer t).deadline ≤ s.now := by
  have hmax : rtTickMax / 2 = 2147483647 := rfl
  have hlow := ht.lower
  have hup := ht.upper
  unfold Due
  rw [htick, ht.timeout]
  rcases le_or_gt (s.timer t).deadline s.now with hle | hlt
  · rw [toNat_ofNat_sub hle (by omega)]
    omega
  · rw [toNat_ofNat_sub_of_lt hlt (by omega)]
    omega

omit [DecidableEq Id] in
/-- The condition on a start, on the clock that does not wrap around. -/
lemma InvWithin.near_deadline (h : InvWithin e s) (he : e < rtTickMax / 2) (hnear : Near s t)
    (hmem : u ∈ s.timerList) (hut : u ≠ t) :
    s.now + (s.timer t).initTick.toNat ≤
      (s.timer u).deadline + (rtTickMax + 1 - rtTickMax / 2) := by
  have hmax : rtTickMax / 2 = 2147483647 := rfl
  have htime := h.inits t
  have hl := h.linked u hmem
  rcases le_or_gt (s.timer u).deadline s.now with hle | hlt
  · have hnear' := hnear u hmem hut ((due_iff he h.tick hl).mpr hle)
    have hlow := hl.lower
    rw [h.tick, hl.timeout, toNat_ofNat_sub hle (by omega)] at hnear'
    omega
  · omega

lemma InvWithin.timerStart (h : InvWithin e s) (he : e < rtTickMax / 2) (hnear : Near s t) :
    InvWithin e (timerStart s t) where
  tick := h.tick
  inits u := by
    by_cases hu : u = t
    · subst hu
      simpa [Timer.timerStart, Timer.timerRemove, Timer.setTimer] using h.inits u
    · rw [timerStart_timer_of_ne hu]
      exact h.inits u
  linked u hu := by
    by_cases hut : u = t
    · subst hut
      exact h.linked_timerStart u
    · have hmem := (h.mem_timerStart.mp hu).resolve_left hut
      exact (h.linked u hmem).timerStart_of_ne hut
  sorted := by
    -- the elements of the list the new timer is inserted into are linked after the start as before
    have hold : ∀ u ∈ s.timerList.erase t, u ≠ t ∧ u ∈ s.timerList := by
      intro u hu
      exact h.nodup.mem_erase_iff.mp hu
    have hlink : ∀ u ∈ s.timerList.erase t, LinkedWithin e (Timer.timerStart s t) u := by
      intro u hu
      exact (h.linked u (hold u hu).2).timerStart_of_ne (hold u hu).1
    have hlow : (Timer.timerStart s t).now ≤ ((Timer.timerStart s t).timer t).deadline := by
      rw [timerStart_deadline]
      exact Nat.le_add_right _ _
    have hfar : ∀ u ∈ s.timerList.erase t, ((Timer.timerStart s t).timer t).deadline ≤
        ((Timer.timerStart s t).timer u).deadline + (rtTickMax + 1 - rtTickMax / 2) := by
      intro u hu
      rw [timerStart_deadline, timerStart_timer_of_ne (hold u hu).1]
      exact h.near_deadline he hnear (hold u hu).2 (hold u hu).1
    have hstamp := timerStart_stamp s t
    apply pairwise_orderedInsert (R := Before (Timer.timerStart s t).timer) (before_trans _)
    · refine (h.sorted.sublist List.erase_sublist).imp_of_mem ?_
      intro a b ha hb hab
      unfold Before
      rw [timerStart_timer_of_ne (hold a ha).1, timerStart_timer_of_ne (hold b hb).1]
      exact hab
    · intro u hu hbrk
      exact .inl ((breaksAt_iff (h.linked_timerStart t) (hlink u hu) hlow (hfar u hu)).mp hbrk)
    · intro u hu hbrk
      have hle := mt (breaksAt_iff (h.linked_timerStart t) (hlink u hu) hlow (hfar u hu)).mpr hbrk
      have hs : (s.timer u).stamp < s.starts := (h.linked u (hold u hu).2).stamp
      rw [← timerStart_timer_of_ne (hold u hu).1, ← hstamp] at hs
      unfold Before
      omega
  tmp u hu := by
    obtain ⟨hut, hone, hpc, hnot⟩ := h.mem_erase_tmp hu
    refine ⟨hone, hpc, fun hmem => ?_⟩
    rcases h.mem_timerStart.mp hmem with rfl | hmem
    · exact hut rfl
    · exact hnot hmem

/-! ### The calls -/

lemma InvWithin.control (h : InvWithin e s) (t : Id) {cmd : Ctrl}
    (htime : ∀ time, cmd = .setTime time → time.toNat < rtTickMax / 2) :
    InvWithin e (rtTimerControl s t cmd).1 := by
  cases cmd with
  | setTime time =>
    have hinv : InvWithin e (if (s.timer t).activated then Timer.deactivate (Timer.timerRemove s t) t
        else s) := by
      split
      · exact (h.timerRemove t).deactivate t
      · exact h
    exact hinv.setTimer ⟨rfl, rfl, rfl⟩ (htime time rfl)
  | setOneshot => exact h.setTimer ⟨rfl, rfl, rfl⟩ (h.inits t)
  | setPeriodic => exact h.setTimer ⟨rfl, rfl, rfl⟩ (h.inits t)

lemma InvWithin.call (h : InvWithin e s) (he : e < rtTickMax / 2) {c : Call Id}
    (htime : TimeBelow (.call c)) (hnear : ∀ t, c = .start t → Near s t) :
    InvWithin e (call s c) := by
  cases c with
  | start t => exact h.timerStart he (hnear t rfl)
  | stop t =>
    show InvWithin e (rtTimerStop s t).1
    unfold rtTimerStop
    split
    · exact h
    · exact (h.timerRemove t).deactivate t
  | control t cmd =>
    refine h.control t fun time hcmd => ?_
    subst hcmd
    exact htime time rfl
  | detach t => exact (h.timerRemove t).deactivate t

/-! ### The check -/

/-- **One turn of the check.**  It pops the head of the list, whose deadline is reached, or it ends
with no reached deadline left in the list. -/
lemma InvWithin.timerCheckLoop_cases (h : InvWithin e s) (he : e < rtTickMax / 2) :
    (∃ t rest, s.timerList = t :: rest ∧ (s.timer t).deadline ≤ s.now ∧
      timerCheckLoop s = popTimer s t) ∨
    ((∀ u ∈ s.timerList, s.now < (s.timer u).deadline) ∧ timerCheckLoop s = endCheck s) := by
  rcases hlist : s.timerList with _ | ⟨t, rest⟩
  · right
    refine ⟨by simp, ?_⟩
    simp [timerCheckLoop, hlist]
  · have hmem : t ∈ s.timerList := by simp [hlist]
    have hdue := due_iff he h.tick (h.linked t hmem)
    by_cases hle : (s.timer t).deadline ≤ s.now
    · left
      refine ⟨t, rest, rfl, hle, ?_⟩
      simp only [timerCheckLoop, hlist]
      exact if_pos (hdue.mpr hle)
    · right
      have hsorted := h.sorted
      rw [hlist, List.pairwise_cons] at hsorted
      constructor
      · intro u hu
        rcases List.mem_cons.mp hu with rfl | hu
        · omega
        · have hbef := hsorted.1 u hu
          unfold Before at hbef
          omega
      · simp only [timerCheckLoop, hlist]
        exact if_neg (mt hdue.mp hle)

omit [DecidableEq Id] in
lemma InvWithin.endCheck (h : InvWithin e s) (hdone : ∀ u ∈ s.timerList, s.now < (s.timer u).deadline) :
    InvWithin e (endCheck s) where
  tick := h.tick
  inits := h.inits
  linked u hu := by
    have hl := h.linked u hu
    exact ⟨hl.timeout, hl.lower, fun _ => (hdone u hu).le, hl.upper, hl.stamp⟩
  sorted := h.sorted
  tmp := by simp [Timer.endCheck]

/-- The state `popTimer` leaves, without its callback entered. -/
lemma InvWithin.popped (h : InvWithin e s) (t : Id) :
    InvWithin e (if (s.timer t).periodic then Timer.timerRemove s t
      else Timer.deactivate (Timer.timerRemove s t) t) := by
  split
  · exact h.timerRemove t
  · exact (h.timerRemove t).deactivate t

lemma popTimer_timerList (s : TimerState Id) (t : Id) :
    (popTimer s t).timerList = s.timerList.erase t := by
  unfold popTimer
  dsimp only
  split <;> rfl

lemma InvWithin.popTimer (h : InvWithin e s) (t : Id) (hnil : s.list = []) : InvWithin e (popTimer s t) where
  tick := by
    have := (h.popped t).tick
    unfold Timer.popTimer
    exact this
  inits := (h.popped t).inits
  linked u hu := by
    have hl := (h.popped t).linked u hu
    exact ⟨hl.timeout, hl.lower, by rintro ⟨⟩, hl.upper, hl.stamp⟩
  sorted := (h.popped t).sorted
  tmp u hu := by
    have hlist : (Timer.popTimer s t).list = [t] := by
      unfold Timer.popTimer
      dsimp only
      split <;> simp [Timer.timerRemove, Timer.deactivate, Timer.setTimer, hnil]
    rw [hlist] at hu
    obtain rfl := List.mem_singleton.mp hu
    refine ⟨hlist, rfl, ?_⟩
    rw [popTimer_timerList]
    exact h.nodup.not_mem_erase

lemma InvWithin.timerCheckLoop (h : InvWithin e s) (he : e < rtTickMax / 2) (hnil : s.list = []) :
    InvWithin e (timerCheckLoop s) := by
  rcases h.timerCheckLoop_cases he with ⟨t, rest, -, -, heq⟩ | ⟨hdone, heq⟩
  · rw [heq]
    exact h.popTimer t hnil
  · rw [heq]
    exact h.endCheck hdone

/-- The callback of `t` returns and `t` is started again. -/
def Restarts (s : TimerState Id) (t : Id) : Prop :=
  s.list ≠ [] ∧ (s.timer t).periodic = true ∧ (s.timer t).activated = true

instance (s : TimerState Id) (t : Id) : Decidable (Restarts s t) :=
  inferInstanceAs (Decidable (_ ∧ _ = _ ∧ _ = _))

lemma Near.deactivate (h : Near s t) : Near (Timer.deactivate (Timer.timerRemove s t) t) t := by
  have htimer : ∀ u, ((Timer.deactivate (Timer.timerRemove s t) t).timer u).timeoutTick =
      (s.timer u).timeoutTick := by
    intro u
    by_cases hu : u = t
    · subst hu
      simp [Timer.deactivate, Timer.setTimer, Timer.timerRemove]
    · simp [Timer.deactivate, Timer.setTimer, Timer.timerRemove, Function.update_of_ne hu]
  intro u hmem hut hdue
  unfold Due at hdue
  rw [htimer] at hdue ⊢
  have hold := h u (List.mem_of_mem_erase hmem) hut hdue
  simpa [Timer.deactivate, Timer.setTimer, Timer.timerRemove] using hold

/-- After a callback the temporary list is empty again. -/
lemma InvWithin.timerCheckReturn (h : InvWithin e s) (he : e < rtTickMax / 2)
    (hpc : s.pc = .callback t) (hnear : Restarts s t → Near s t) :
    InvWithin e (timerCheckReturn s t) ∧ (timerCheckReturn s t).list = [] := by
  unfold Timer.timerCheckReturn
  split
  · rename_i hnil
    exact ⟨h, hnil⟩
  · rename_i hne
    obtain ⟨u, hu⟩ := List.exists_mem_of_ne_nil _ hne
    obtain ⟨hone, hpc', -⟩ := h.tmp u hu
    obtain rfl : t = u := by
      rw [hpc] at hpc'
      injection hpc'
    have hnil : (Timer.timerRemove s t).list = [] := by simp [Timer.timerRemove, hone]
    dsimp only
    split
    · rename_i hagain
      refine ⟨((h.timerRemove t).deactivate t).timerStart he (hnear ⟨hne, hagain⟩).deactivate, ?_⟩
      show (Timer.timerRemove s t).list.erase t = []
      rw [hnil, List.erase_nil]
    · exact ⟨h.timerRemove t, hnil⟩

omit [DecidableEq Id] in
/-- The clock goes on by `d` ticks outside the tick interrupt, where no deadline has passed. -/
lemma InvWithin.advance {e' : ℕ} (h : InvWithin e s) (hpc : s.pc = .idle) {d : ℕ} (hd : d ≤ e') :
    InvWithin e' { s with tick := s.tick + BitVec.ofNat 32 d, now := s.now + d, pc := .entered } where
  tick := by
    rw [h.tick, BitVec.ofNat_add]
  inits := h.inits
  linked u hu := by
    have hl := h.linked u hu
    have hidle := hl.idle hpc
    have hup := hl.upper
    refine ⟨hl.timeout, ?_, by rintro ⟨⟩, ?_, hl.stamp⟩
    · show s.now + d ≤ (s.timer u).deadline + _
      omega
    · show (s.timer u).deadline < s.now + d + _
      omega
  sorted := h.sorted
  tmp u hu := by
    obtain ⟨-, hpc', -⟩ := h.tmp u hu
    rw [hpc] at hpc'
    cases hpc'

omit [DecidableEq Id] in
lemma InvWithin.clear_list (h : InvWithin e s) : InvWithin e { s with list := [] } :=
  ⟨h.tick, h.inits, fun u hu => ⟨(h.linked u hu).timeout, (h.linked u hu).lower,
    (h.linked u hu).idle, (h.linked u hu).upper, (h.linked u hu).stamp⟩, h.sorted, by simp⟩

/-- A timer that the step starts is not too far ahead of one that is due. -/
def NearAt (s : TimerState Id) : Action Id → Prop
  | .call (.start t) => Near s t
  | .ret => ∀ t, s.pc = .callback t → Restarts s t → Near s t
  | _ => True

/-- **The invariant survives every step.** -/
theorem InvWithin.step {a : Action Id} (h : InvWithin e s) (hone : 1 ≤ e) (he : e < rtTickMax / 2)
    (htime : TimeBelow a) (hnear : NearAt s a) (hs : step s a = some s') : InvWithin e s' := by
  cases a with
  | call c =>
    obtain rfl : Timer.call s c = s' := by simpa [Timer.step] using hs
    refine h.call he htime ?_
    rintro t rfl
    exact hnear
  | tick =>
    simp only [Timer.step] at hs
    split at hs
    · rename_i hpc
      cases hs
      exact h.advance hpc hone
    · cases hs
  | check =>
    simp only [Timer.step] at hs
    split at hs
    · cases hs
      exact h.clear_list.timerCheckLoop he rfl
    · cases hs
  | ret =>
    simp only [Timer.step] at hs
    split at hs
    · rename_i t hpc
      cases hs
      obtain ⟨hinv, hnil⟩ := h.timerCheckReturn he hpc (hnear t hpc)
      exact hinv.timerCheckLoop he hnil
    · cases hs

/-! ### A start too far ahead -/

/-- Otherwise the timer is put in front of one that is due, although its deadline is later. -/
lemma InvWithin.not_sorted_of_not_near (h : InvWithin e s) (he : e < rtTickMax / 2)
    (hnear : ¬ Near s t) :
    ¬ (Timer.timerStart s t).timerList.Pairwise (Before (Timer.timerStart s t).timer) := by
  have hmax : rtTickMax / 2 = 2147483647 := rfl
  have hrange : rtTickMax + 1 - rtTickMax / 2 = 2147483649 := rfl
  unfold Near at hnear
  push Not at hnear
  obtain ⟨u, hmem, hut, hdue, hfar⟩ := hnear
  have htime := h.inits t
  have hl := h.linked u hmem
  have hle := (due_iff he h.tick hl).mp hdue
  have hlow := hl.lower
  rw [h.tick, hl.timeout, toNat_ofNat_sub hle (by omega)] at hfar
  -- the difference of the two deadlines looks like a small negative one
  have hbrk : BreaksAt (Timer.timerStart s t).timer t u := by
    unfold BreaksAt
    rw [timerStart_timer_of_ne hut, (h.linked_timerStart t).timeout, hl.timeout, timerStart_deadline]
    have hsub := toNat_ofNat_sub_of_lt (w := 32)
      (show (s.timer u).deadline < s.now + (s.timer t).initTick.toNat by omega) (by omega)
    rw [← BitVec.toNat_ne_iff_ne, hsub, BitVec.toNat_zero]
    omega
  intro hsorted
  have hold : u ∈ s.timerList.erase t := h.nodup.mem_erase_iff.mpr ⟨hut, hmem⟩
  have hbefore := rel_of_pairwise_orderedInsert hsorted hold hbrk
  unfold Before at hbefore
  rw [timerStart_timer_of_ne hut, timerStart_deadline] at hbefore
  omega

end N32L43x.Timer
