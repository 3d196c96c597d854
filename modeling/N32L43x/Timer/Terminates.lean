import N32L43x.Timer.Tidy

/-!
When a check comes to its end.  A periodic timer goes back into the list that is being scanned, at the
tick plus its period; with a period of zero, or one so long that the deadline counts as passed, it is due
at once and the check pops it again without end.  The times that are accepted include these.
-/

namespace N32L43x.Timer

open N32L43x.Lib.Run

variable {Id : Type*} [DecidableEq Id] {s s' s₀ : TimerState Id} {t u : Id} {evs : List (Event Id)}

/-! ### What a check does -/

def Event.timer? : Event Id → Option Id
  | .fire t _ => some t
  | .done _ => none

/-- The timers whose callbacks were called, in order. -/
def firedTimers (evs : List (Event Id)) : List Id := evs.filterMap Event.timer?

/-- A timer with this period is due at once when it is started again. -/
def Overdue (time : BitVec 32) : Prop := (0#32 - time).toNat < rtTickMax / 2

instance (time : BitVec 32) : Decidable (Overdue time) := inferInstanceAs (Decidable (_ < _))

/-- A command that gives no timer an overdue period. -/
def KeepsPeriods (s : TimerState Id) : Action Id → Prop
  | .call (.control t (.setTime time)) => (s.timer t).periodic = true → ¬ Overdue time
  | .call (.control t .setPeriodic) => ¬ Overdue (s.timer t).initTick
  | _ => True

/-- A check that was entered in `s₀` and stands at `s`: it has called the callback of every timer at most
once, of those that were in the list, and it comes to its end when the callbacks return. -/
structure Finishes (s₀ s : TimerState Id) : Prop where
  once : ∃ evs, s.log = s₀.log ++ evs ∧ (firedTimers evs).Nodup ∧ ∀ t ∈ firedTimers evs, t ∈ s₀.timerList
  ends : ∃ n s', exec step s (List.replicate n .ret) = some s' ∧ s'.pc = .idle

/-! ### The periods -/

/-- The lists are tidy, and no periodic timer is overdue by its period. -/
structure Sane (s : TimerState Id) : Prop extends Tidy s where
  period : ∀ t, (s.timer t).periodic = true → ¬ Overdue (s.timer t).initTick

omit [DecidableEq Id] in
lemma sane_init (tick : BitVec 32) {periodic : Id → Bool} {time : Id → BitVec 32}
    (h : ∀ t, periodic t = true → ¬ Overdue (time t)) : Sane (init tick periodic time) where
  toTidy := tidy_init tick periodic time
  period := h

/-- A write to a timer that keeps the periods right. -/
lemma period_setTimer {tm : RtTimer} (h : ∀ u, (s.timer u).periodic = true → ¬ Overdue (s.timer u).initTick)
    (htm : tm.periodic = true → ¬ Overdue tm.initTick) (u : Id) :
    ((setTimer s t tm).timer u).periodic = true → ¬ Overdue ((setTimer s t tm).timer u).initTick := by
  by_cases hu : u = t
  · subst hu
    simpa [setTimer] using htm
  · simpa [setTimer, Function.update_of_ne hu] using h u

lemma Sane.timerStart (h : Sane s) (t : Id) : Sane (timerStart s t) where
  toTidy := h.toTidy.timerStart t
  period := period_setTimer h.period (h.period t)

lemma Sane.call (h : Sane s) {c : Call Id} (hk : KeepsPeriods s (.call c)) : Sane (call s c) := by
  refine ⟨h.toTidy.call c, ?_⟩
  cases c with
  | start t => exact (h.timerStart t).period
  | stop t =>
    simp only [Timer.call, rtTimerStop]
    split
    · exact h.period
    · exact period_setTimer h.period (h.period t)
  | detach t => exact period_setTimer h.period (h.period t)
  | control t cmd =>
    cases cmd with
    | setTime time =>
      have htime : (s.timer t).periodic = true → ¬ Overdue time := hk
      simp only [Timer.call, rtTimerControl]
      split
      · refine period_setTimer (period_setTimer h.period (h.period t)) ?_
        simpa [deactivate, Timer.setTimer, Timer.timerRemove] using htime
      · exact period_setTimer h.period hk
    | setOneshot =>
      refine period_setTimer h.period ?_
      rintro ⟨⟩
    | setPeriodic => exact period_setTimer h.period fun _ => hk

lemma Sane.timerCheckLoop (h : Sane s) (hnil : s.list = []) : Sane (timerCheckLoop s) := by
  refine ⟨h.toTidy.timerCheckLoop hnil, fun u hu => ?_⟩
  rcases timerCheckLoop_eq s with ⟨t, -, -, heq⟩ | heq
  · obtain ⟨-, -, -, -, htimer⟩ := popTimer_spec s t
    rw [heq, (htimer u).2.1]
    rw [heq, (htimer u).2.2] at hu
    exact h.period u hu
  · rw [heq] at hu ⊢
    exact h.period u hu

lemma Sane.timerCheckReturn (h : Sane s) (hpc : s.pc = .callback t) : Sane (timerCheckReturn s t) := by
  refine ⟨h.toTidy.timerCheckReturn hpc, fun u hu => ?_⟩
  rcases (timerCheckReturn_eq h.toTidy hpc).2 with ⟨-, htimer⟩ | ⟨-, -, heq⟩
  · rw [(htimer u).1]
    exact h.period u ((htimer u).2 ▸ hu)
  · have hstop : Sane (deactivate (timerRemove s t) t) :=
      ⟨h.toTidy.unlinks (unlinks_deactivate s t), period_setTimer h.period (h.period t)⟩
    rw [heq] at hu ⊢
    exact (hstop.timerStart t).period u hu

/-- Every step keeps the timers sane. -/
lemma Sane.step {a : Action Id} (h : Sane s) (hk : KeepsPeriods s a) (hs : step s a = some s') :
    Sane s' := by
  refine ⟨h.toTidy.step hs, ?_⟩
  cases a with
  | call c =>
    obtain rfl : Timer.call s c = s' := by simpa [Timer.step] using hs
    exact (h.call hk).period
  | tick =>
    simp only [Timer.step] at hs
    split at hs
    · obtain rfl := Option.some.inj hs
      exact h.period
    · cases hs
  | check =>
    simp only [Timer.step] at hs
    split at hs
    · obtain rfl := Option.some.inj hs
      have hsane : Sane { s with list := [] } := ⟨⟨h.nodup, by simp⟩, h.period⟩
      exact (hsane.timerCheckLoop rfl).period
    · cases hs
  | ret =>
    simp only [Timer.step] at hs
    split at hs
    · next t hpc =>
      obtain rfl := Option.some.inj hs
      exact ((h.timerCheckReturn hpc).timerCheckLoop (timerCheckReturn_eq h.toTidy hpc).1).period
    · cases hs

/-! ### A check -/

omit [DecidableEq Id] in
lemma firedTimers_append (evs evs' : List (Event Id)) :
    firedTimers (evs ++ evs') = firedTimers evs ++ firedTimers evs' :=
  List.filterMap_append

/-- A check that was entered in `s₀` has called the callbacks of some timers, which were in the list then
and are not due any more. -/
structure Checking (s₀ s : TimerState Id) (evs : List (Event Id)) : Prop where
  sane : Sane s
  log : s.log = s₀.log ++ evs
  nodup : (firedTimers evs).Nodup
  fired : ∀ t ∈ firedTimers evs, t ∈ s₀.timerList
  linked : ∀ t ∈ s.timerList, t ∈ s₀.timerList
  due : ∀ t ∈ s.timerList, Due s t → t ∉ firedTimers evs
  callback : ∀ t, s.pc = .callback t → t ∈ firedTimers evs
  entered : s.pc ≠ .entered

lemma Checking.unlinks (h : Checking s₀ s evs) (hu : Unlinks s s') (hsane : Sane s') :
    Checking s₀ s' evs where
  sane := hsane
  log := hu.log.trans h.log
  nodup := h.nodup
  fired := h.fired
  linked t ht := h.linked t (hu.timerList.subset ht)
  due t ht hdue := by
    refine h.due t (hu.timerList.subset ht) ?_
    unfold Due at hdue ⊢
    rwa [hu.tick, hu.timeoutTick] at hdue
  callback t ht := h.callback t (hu.pc.symm.trans ht)
  entered := by
    rw [hu.pc]
    exact h.entered

/-- The loop goes on to a timer that has not been called, or the check ends. -/
lemma loop_checking (hsane : Sane s) (hnil : s.list = []) (hlog : s.log = s₀.log ++ evs)
    (hnodup : (firedTimers evs).Nodup) (hfired : ∀ t ∈ firedTimers evs, t ∈ s₀.timerList)
    (hlinked : ∀ t ∈ s.timerList, t ∈ s₀.timerList)
    (hdue : ∀ t ∈ s.timerList, Due s t → t ∉ firedTimers evs) :
    ∃ e, Checking s₀ (timerCheckLoop s) (evs ++ [e]) ∧
      ((timerCheckLoop s).pc = .idle ∨
        (firedTimers (evs ++ [e])).length = (firedTimers evs).length + 1) := by
  have hsane' := hsane.timerCheckLoop hnil
  rcases timerCheckLoop_eq s with ⟨t, ht, htdue, heq⟩ | heq
  · obtain ⟨-, hpc, htick, hpoplog, htimer⟩ := popTimer_spec s t
    have hone : firedTimers [Event.fire t s.now] = [t] := rfl
    rw [heq] at hsane' ⊢
    refine ⟨.fire t s.now, ⟨hsane', ?_, ?_, ?_, ?_, ?_, ?_, ?_⟩, .inr ?_⟩
    · rw [hpoplog, hlog, List.append_assoc]
    · rw [firedTimers_append, hone]
      refine List.nodup_append.mpr ⟨hnodup, List.nodup_singleton t, ?_⟩
      rintro a ha b hb rfl
      rw [List.mem_singleton.1 hb] at ha
      exact hdue t ht htdue ha
    · intro u hu
      rw [firedTimers_append, hone, List.mem_append, List.mem_singleton] at hu
      rcases hu with hu | rfl
      · exact hfired u hu
      · exact hlinked u ht
    · intro u hu
      rw [popTimer_timerList] at hu
      exact hlinked u (List.mem_of_mem_erase hu)
    · intro u hu hudue
      rw [popTimer_timerList, hsane.nodup.mem_erase_iff] at hu
      rw [firedTimers_append, hone, List.mem_append, List.mem_singleton, not_or]
      refine ⟨hdue u hu.2 ?_, hu.1⟩
      unfold Due at hudue ⊢
      rwa [htick, (htimer u).1] at hudue
    · intro u hu
      rw [hpc] at hu
      obtain rfl : t = u := by injection hu
      rw [firedTimers_append, hone]
      simp
    · rw [hpc]
      rintro ⟨⟩
    · rw [firedTimers_append, hone, List.length_append, List.length_singleton]
  · have hdone : firedTimers [(.done s.now : Event Id)] = [] := rfl
    rw [heq] at hsane' ⊢
    refine ⟨.done s.now, ⟨hsane', ?_, ?_, ?_, hlinked, ?_, ?_, ?_⟩, .inl rfl⟩
    · show s.log ++ [.done s.now] = _
      rw [hlog, List.append_assoc]
    · rw [firedTimers_append, hdone, List.append_nil]
      exact hnodup
    · rw [firedTimers_append, hdone, List.append_nil]
      exact hfired
    · rw [firedTimers_append, hdone, List.append_nil]
      exact hdue
    · rintro u ⟨⟩
    · rintro ⟨⟩

/-- A timer that is started is due at once when its period is overdue. -/
lemma due_timerStart (s : TimerState Id) (t : Id) :
    Due (timerStart s t) t ↔ Overdue (s.timer t).initTick := by
  have hsub : (timerStart s t).tick - ((timerStart s t).timer t).timeoutTick =
      0#32 - (s.timer t).initTick := by
    rw [timerStart_timeoutTick]
    show s.tick - (s.tick + (s.timer t).initTick) = _
    bv_omega
  unfold Due
  rw [hsub]
  exact Iff.rfl

/-- **A callback returns**: the check goes on to another timer, or it ends. -/
lemma Checking.ret (h : Checking s₀ s evs) (hpc : s.pc = .callback t) :
    ∃ e, Checking s₀ (timerCheckLoop (timerCheckReturn s t)) (evs ++ [e]) ∧
      ((timerCheckLoop (timerCheckReturn s t)).pc = .idle ∨
        (firedTimers (evs ++ [e])).length = (firedTimers evs).length + 1) := by
  obtain ⟨hnil, hcases⟩ := timerCheckReturn_eq h.sane.toTidy hpc
  have hsane := h.sane.timerCheckReturn hpc
  rcases hcases with ⟨hu, -⟩ | ⟨hper, hnot, heq⟩
  · have h' := h.unlinks hu hsane
    exact loop_checking hsane hnil h'.log h'.nodup h'.fired h'.linked h'.due
  · have hlink : ∀ u ∈ (timerCheckReturn s t).timerList, u = t ∨ u ∈ s.timerList := by
      intro u hmem
      rw [heq] at hmem
      rcases (List.mem_orderedInsert _).mp hmem with rfl | hmem
      · exact .inl rfl
      · exact .inr (List.mem_of_mem_erase (List.mem_of_mem_erase hmem))
    refine loop_checking hsane hnil ?_ h.nodup h.fired (fun u hu => ?_) fun u hu hdue => ?_
    · rw [heq]
      exact h.log
    · rcases hlink u hu with rfl | hu
      · exact h.fired u (h.callback u hpc)
      · exact h.linked u hu
    · rcases hlink u hu with rfl | hmem
      · rw [heq] at hdue
        refine absurd ((due_timerStart _ u).mp hdue) ?_
        simpa [deactivate, setTimer, timerRemove] using h.sane.period u hper
      · have hut : u ≠ t := by
          rintro rfl
          exact hnot hmem
        refine h.due u hmem ?_
        rw [heq] at hdue
        unfold Due at hdue ⊢
        rw [timerStart_timer_of_ne hut] at hdue
        simpa [timerStart, deactivate, setTimer, timerRemove, Function.update_of_ne hut] using hdue

/-- While callbacks run the check stays as it is, or goes on. -/
lemma Checking.step {a : Action Id} (h : Checking s₀ s evs) (ha : InCallback a) (hk : KeepsPeriods s a)
    (hs : step s a = some s') : ∃ evs', Checking s₀ s' evs' := by
  cases a with
  | call c =>
    obtain rfl : Timer.call s c = s' := by simpa [Timer.step] using hs
    exact ⟨evs, h.unlinks (unlinks_call s ha) (h.sane.call hk)⟩
  | tick => exact ha.elim
  | check => exact ha.elim
  | ret =>
    simp only [Timer.step] at hs
    split at hs
    · next t hpc =>
      obtain rfl := Option.some.inj hs
      obtain ⟨e, h', -⟩ := h.ret hpc
      exact ⟨evs ++ [e], h'⟩
    · cases hs

/-- The entry into a check. -/
lemma Sane.check (h : Sane s) (hs : Timer.step s .check = some s') :
    ∃ evs, Checking s s' evs := by
  simp only [Timer.step] at hs
  split at hs
  · obtain rfl := Option.some.inj hs
    have hsane : Sane { s with list := [] } := ⟨⟨h.nodup, by simp⟩, h.period⟩
    have hlog : s.log = s.log ++ [] := (List.append_nil _).symm
    have hnone : ∀ t ∈ firedTimers ([] : List (Event Id)), t ∈ s.timerList := by simp [firedTimers]
    obtain ⟨e, hc, -⟩ := loop_checking hsane rfl hlog List.nodup_nil hnone
      (fun t ht => ht) (by simp [firedTimers])
    exact ⟨_, hc⟩
  · cases hs

omit [DecidableEq Id] in
/-- What is left of a check: the timers that were in the list and have not been called. -/
lemma Checking.fired_le (h : Checking s₀ s evs) : (firedTimers evs).length ≤ s₀.timerList.length :=
  (h.nodup.subperm h.fired).length_le

/-- **The measure of a check**: every callback that returns uses up one of the timers that were in the
list. -/
lemma Checking.ends {n : ℕ} (h : Checking s₀ s evs)
    (hn : s₀.timerList.length ≤ (firedTimers evs).length + n) :
    ∃ m s', exec Timer.step s (List.replicate m .ret) = some s' ∧ s'.pc = .idle := by
  induction n generalizing s evs with
  | zero =>
    cases hpc : s.pc with
    | idle => exact ⟨0, s, rfl, hpc⟩
    | entered => exact absurd hpc h.entered
    | callback t =>
      have hret : Timer.step s .ret = some (timerCheckLoop (timerCheckReturn s t)) := by
        simp [Timer.step, hpc]
      obtain ⟨e, h', hidle | hlen⟩ := h.ret hpc
      · exact ⟨1, _, exec_cons_some hret _, hidle⟩
      · have hle := h'.fired_le
        omega
  | succ n ih =>
    cases hpc : s.pc with
    | idle => exact ⟨0, s, rfl, hpc⟩
    | entered => exact absurd hpc h.entered
    | callback t =>
      have hret : Timer.step s .ret = some (timerCheckLoop (timerCheckReturn s t)) := by
        simp [Timer.step, hpc]
      obtain ⟨e, h', hidle | hlen⟩ := h.ret hpc
      · exact ⟨1, _, exec_cons_some hret _, hidle⟩
      · obtain ⟨m, s', hexec, hidle⟩ := ih h' (by omega)
        refine ⟨m + 1, s', ?_, hidle⟩
        rw [List.replicate_succ, exec_cons_some hret]
        exact hexec

lemma Checking.finishes (h : Checking s₀ s evs) : Finishes s₀ s where
  once := ⟨evs, h.log, h.nodup, h.fired⟩
  ends := h.ends (Nat.le_add_left ..)

/-! ### A check that does not end -/

/-- A check in the callback of a periodic timer that is due again as soon as the callback returns. -/
structure Stuck (s : TimerState Id) (t : Id) : Prop where
  timerList : s.timerList = []
  list : s.list = [t]
  pc : s.pc = .callback t
  periodic : (s.timer t).periodic = true
  activated : (s.timer t).activated = true
  overdue : Overdue (s.timer t).initTick

/-- A periodic timer with an overdue period that is started on an empty list is called at once. -/
lemma stuck_timerStart (htimers : s.timerList = []) (hlist : s.list = [])
    (hper : (s.timer t).periodic = true) (htime : Overdue (s.timer t).initTick) :
    Stuck (timerCheckLoop (timerStart s t)) t := by
  have hone : (timerStart s t).timerList = [t] := by simp [timerStart, timerRemove, setTimer, htimers]
  have hnil : (timerStart s t).list = [] := by simp [timerStart, timerRemove, setTimer, hlist]
  have hper' : ((timerStart s t).timer t).periodic = true := by
    simpa [timerStart, timerRemove, setTimer] using hper
  have hact : ((timerStart s t).timer t).activated = true := by simp [timerStart, timerRemove, setTimer]
  have hinit : ((timerStart s t).timer t).initTick = (s.timer t).initTick := by
    simp [timerStart, timerRemove, setTimer]
  have hdue : Due (timerStart s t) t := (due_timerStart s t).mpr htime
  have heq : timerCheckLoop (timerStart s t) = popTimer (timerStart s t) t := by
    unfold timerCheckLoop
    rw [hone]
    exact if_pos hdue
  have hpop : popTimer (timerStart s t) t =
      { timerRemove (timerStart s t) t with
        list := t :: (timerRemove (timerStart s t) t).list
        pc := .callback t
        log := s.log ++ [.fire t s.now] } := by
    have hper'' : ((timerRemove (timerStart s t) t).timer t).periodic = true := hper'
    simp only [popTimer, hper'', ↓reduceIte]
    rfl
  rw [heq, hpop]
  refine ⟨?_, ?_, rfl, hper', hact, ?_⟩
  · show (timerStart s t).timerList.erase t = []
    rw [hone, List.erase_cons_head]
  · show t :: (timerStart s t).list.erase t = [t]
    rw [hnil, List.erase_nil]
  · show Overdue ((timerStart s t).timer t).initTick
    rw [hinit]
    exact htime

/-- Its callback returns, and it is called again. -/
lemma Stuck.ret (h : Stuck s t) : ∃ s', step s .ret = some s' ∧ Stuck s' t := by
  refine ⟨timerCheckLoop (timerCheckReturn s t), by simp [Timer.step, h.pc], ?_⟩
  have heq : timerCheckReturn s t = timerStart (deactivate (timerRemove s t) t) t := by
    have hne : s.list ≠ [] := by simp [h.list]
    have hper : ((timerRemove s t).timer t).periodic = true ∧ ((timerRemove s t).timer t).activated = true :=
      ⟨h.periodic, h.activated⟩
    unfold timerCheckReturn
    rw [if_neg hne]
    exact if_pos hper
  rw [heq]
  refine stuck_timerStart ?_ ?_ ?_ ?_
  · simp [deactivate, timerRemove, setTimer, h.timerList]
  · simp [deactivate, timerRemove, setTimer, h.list]
  · simpa [deactivate, timerRemove, setTimer] using h.periodic
  · simpa [deactivate, timerRemove, setTimer] using h.overdue

/-- **Such a check never ends.** -/
lemma Stuck.run {n : ℕ} (h : Stuck s t) (hs : exec step s (List.replicate n .ret) = some s') :
    s'.pc = .callback t := by
  induction n generalizing s with
  | zero =>
    obtain rfl : s = s' := by simpa [exec] using hs
    exact h.pc
  | succ n ih =>
    obtain ⟨s₁, hret, h₁⟩ := h.ret
    rw [List.replicate_succ, exec_cons_some hret] at hs
    exact ih h₁ hs

/-- The run that starts a timer in the tick interrupt, before the check. -/
lemma exec_start_check (tick : BitVec 32) (periodic : Id → Bool) (time : Id → BitVec 32) (t : Id) :
    ∃ s s', exec step (init tick periodic time) [.tick, .call (.start t)] = some s ∧
      exec step s [.check] = some s' ∧
      (periodic t = true → Overdue (time t) → Stuck s' t) := by
  refine ⟨timerStart { init tick periodic time with
    tick := tick + 1#32, now := tick.toNat + 1, pc := .entered } t, _, rfl, rfl, ?_⟩
  exact fun hper htime => stuck_timerStart rfl rfl hper htime

/-- **A check comes to its end if and only if no periodic timer has an overdue period**, in every run that
gives none such a period. -/
theorem check_finishes_iff (tick : BitVec 32) (periodic : Id → Bool) (time : Id → BitVec 32) :
    (∀ as bs s s', Along step KeepsPeriods (init tick periodic time) (as ++ .check :: bs) →
        (∀ b ∈ bs, InCallback b) → exec step (init tick periodic time) as = some s →
        exec step s (.check :: bs) = some s' → Finishes s s') ↔
      ∀ t, periodic t = true → ¬ Overdue (time t) := by
  constructor
  · intro hall t hper htime
    obtain ⟨s, s', hs, hs', hstuck⟩ := exec_start_check tick periodic time t
    have halong : Along step KeepsPeriods (init tick periodic time)
        ([.tick, .call (.start t)] ++ .check :: []) := ⟨trivial, trivial, trivial, trivial⟩
    obtain ⟨n, s₁, hexec, hidle⟩ := (hall _ [] s s' halong (by simp) hs hs').ends
    have hpc := (hstuck hper htime).run hexec
    rw [hidle] at hpc
    cases hpc
  · intro htime as bs s s' halong hbs hs hs'
    have hsane : Sane s := exec_inv_of_along (fun _ _ _ h hk => h.step hk) as _ s
      (sane_init tick htime) halong.of_append_left hs
    have hrest := halong.of_append_right hs
    rcases hcheck : step s .check with _ | s₁
    · rw [exec_cons_none hcheck] at hs'
      cases hs'
    · rw [exec_cons_some hcheck] at hs'
      rw [along_cons_some hcheck] at hrest
      have hin : Along step (fun _ b => InCallback b) s₁ bs := along_of_forall bs s₁ hbs
      obtain ⟨evs, hc⟩ := exec_inv_of_along (I := fun r => ∃ evs, Checking s r evs)
        (fun r a r' h hk hr => h.elim fun _ h => h.step hk.1 hk.2 hr) bs s₁ s'
        (hsane.check hcheck) (hin.and hrest.2) hs'
      exact hc.finishes

/-- A period of zero, which every check of the time admits: the callback of the timer is called again and
again in the same check, without end. -/
theorem check_zero_period_not_finished :
    ∃ s s' : TimerState Unit,
      exec step (init 0#32 (fun _ => true) (fun _ => 0#32)) [.tick, .call (.start ())] = some s ∧
      exec step s [.check] = some s' ∧
      (∀ n r, exec step s' (List.replicate n .ret) = some r → r.pc = .callback ()) ∧
      ¬ Finishes s s' := by
  obtain ⟨s, s', hs, hs', hstuck⟩ := exec_start_check 0#32 (fun _ => true) (fun _ => 0#32) ()
  have h : Stuck s' () := hstuck rfl (by decide)
  refine ⟨s, s', hs, hs', fun n r hr => h.run hr, fun hfin => ?_⟩
  obtain ⟨n, r, hexec, hidle⟩ := hfin.ends
  have hpc := h.run hexec
  rw [hidle] at hpc
  cases hpc

end N32L43x.Timer
