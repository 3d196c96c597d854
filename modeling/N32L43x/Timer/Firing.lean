import N32L43x.Timer.Order

/-!
The firing of a one-shot timer.  From its start on, a one-shot timer that is left alone is first
armed, linked in the list with its deadline, and no check has ended at a tick that had reached the
deadline; then its callback has run, once, and the timer is unlinked and stays so.
-/

namespace N32L43x.Timer

open N32L43x.Lib.Run

variable {Id : Type*} [DecidableEq Id] {s s' : TimerState Id} {t u : Id} {d : ℕ}
  {evs : List (Event Id)}

/-! ### What is said of the events since a start -/

def NoFire (t : Id) (evs : List (Event Id)) : Prop := ∀ n, .fire t n ∉ evs

/-- The timer an event fires, if it does so at tick `d` or later. -/
def Event.firedAt (d : ℕ) : Event Id → Option Id
  | .fire u n => if d ≤ n then some u else none
  | .done _ => none

/-- The timers whose callbacks were run at tick `d` or later, in order. -/
def firedFrom (d : ℕ) (evs : List (Event Id)) : List Id := evs.filterMap (Event.firedAt d)

/-- The callback of `t` is still to come: no check has ended at a tick that had reached the deadline
`d`, and since that tick no other callback was run twice, so finitely many are ahead of it. -/
structure Pending (t : Id) (d : ℕ) (evs : List (Event Id)) : Prop where
  noFire : NoFire t evs
  notDone : ∀ n, .done n ∈ evs → n < d
  others : (firedFrom d evs).Nodup

/-- The callback of `t` was run exactly once, in the first check whose tick had reached the deadline
`d`. -/
def FiredOnce (t : Id) (d : ℕ) (evs : List (Event Id)) : Prop :=
  ∃ pre n post, evs = pre ++ .fire t n :: post ∧ Pending t d pre ∧ d ≤ n ∧ NoFire t post

/-- Nobody starts `t` again, and while it is in the list nobody stops or detaches it, makes it
periodic or gives it a new time. -/
def Undisturbed (t : Id) (s : TimerState Id) (a : Action Id) : Prop :=
  a ≠ .call (.start t) ∧
    (t ∈ s.timerList → a ≠ .call (.stop t) ∧ a ≠ .call (.detach t) ∧
      a ≠ .call (.control t .setPeriodic) ∧ ∀ time, a ≠ .call (.control t (.setTime time)))

omit [DecidableEq Id] in
lemma pending_nil (t : Id) (d : ℕ) : Pending t d [] :=
  ⟨by simp [NoFire], by simp, by simp [firedFrom]⟩

omit [DecidableEq Id] in
lemma Pending.done (h : Pending t d evs) {n : ℕ} (hn : n < d) : Pending t d (evs ++ [.done n]) where
  noFire m := by simpa using h.noFire m
  notDone m hm := by
    rcases List.mem_append.mp hm with hm | hm
    · exact h.notDone m hm
    · obtain rfl : m = n := by simpa using hm
      exact hn
  others := by
    have hsame : firedFrom d (evs ++ [.done n]) = firedFrom d evs := by
      unfold firedFrom
      rw [List.filterMap_append]
      exact List.append_nil _
    rw [hsame]
    exact h.others

omit [DecidableEq Id] in
lemma Pending.fire_other (h : Pending t d evs) (hu : u ≠ t) {n : ℕ}
    (hnew : d ≤ n → u ∉ firedFrom d evs) : Pending t d (evs ++ [.fire u n]) where
  noFire m := by
    have hnot := h.noFire m
    simp only [List.mem_append, List.mem_singleton, not_or]
    refine ⟨hnot, ?_⟩
    rintro ⟨⟩
    exact hu rfl
  notDone m hm := h.notDone m (by simpa using hm)
  others := by
    by_cases hd : d ≤ n
    · have hsplit : firedFrom d (evs ++ [.fire u n]) = firedFrom d evs ++ [u] := by
        simp [firedFrom, Event.firedAt, hd]
      rw [hsplit, List.nodup_append]
      refine ⟨h.others, List.nodup_singleton u, ?_⟩
      rintro a ha b hb rfl
      obtain rfl := List.mem_singleton.mp hb
      exact hnew hd ha
    · have hsame : firedFrom d (evs ++ [.fire u n]) = firedFrom d evs := by
        simp [firedFrom, Event.firedAt, hd]
      rw [hsame]
      exact h.others

omit [DecidableEq Id] in
lemma Pending.fire (h : Pending t d evs) {n : ℕ} (hn : d ≤ n) : FiredOnce t d (evs ++ [.fire t n]) :=
  ⟨evs, n, [], rfl, h, hn, by simp [NoFire]⟩

omit [DecidableEq Id] in
lemma FiredOnce.append (h : FiredOnce t d evs) {e : Event Id} (he : ∀ n, e ≠ .fire t n) :
    FiredOnce t d (evs ++ [e]) := by
  obtain ⟨pre, n, post, rfl, hpre, hn, hpost⟩ := h
  refine ⟨pre, n, post ++ [e], by simp, hpre, hn, ?_⟩
  intro m hm
  rcases List.mem_append.mp hm with hm | hm
  · exact hpost m hm
  · exact he m (List.mem_singleton.mp hm).symm

/-! ### Armed and spent -/

/-- `t` waits in the list for its deadline `d`.  A timer that has fired since that deadline is
behind it if it is in the list again. -/
structure Armed (t : Id) (d : ℕ) (evs : List (Event Id)) (s : TimerState Id) : Prop where
  mem : t ∈ s.timerList
  deadline : (s.timer t).deadline = d
  oneShot : (s.timer t).periodic = false
  pending : Pending t d evs
  past : ∀ u ∈ firedFrom d evs, d ≤ s.now
  behind : ∀ u ∈ firedFrom d evs, u ∈ s.timerList → ¬ Before s.timer u t

/-- `t` has fired and is not in the list. -/
structure Spent (t : Id) (d : ℕ) (evs : List (Event Id)) (s : TimerState Id) : Prop where
  notMem : t ∉ s.timerList
  inactive : (s.timer t).activated = false
  once : FiredOnce t d evs

/-- One or the other, with the events since the log stood at `base`. -/
def Tracked (t : Id) (d : ℕ) (base : List (Event Id)) (s : TimerState Id) : Prop :=
  ∃ evs, s.log = base ++ evs ∧ (Armed t d evs s ∨ Spent t d evs s)

lemma Armed.timerRemove (h : Armed t d evs s) (hu : u ≠ t) : Armed t d evs (timerRemove s u) where
  mem := (List.mem_erase_of_ne hu.symm).mpr h.mem
  deadline := h.deadline
  oneShot := h.oneShot
  pending := h.pending
  past := h.past
  behind v hv hmem := h.behind v hv (List.mem_of_mem_erase hmem)

lemma Armed.setTimer (h : Armed t d evs s) {tm : RtTimer} (hk : KeepsDeadline (s.timer u) tm)
    (hone : u = t → tm.periodic = false) : Armed t d evs (setTimer s u tm) where
  mem := h.mem
  deadline := by
    by_cases hu : t = u
    · subst hu
      simp [Timer.setTimer, hk.deadline, h.deadline]
    · simp [Timer.setTimer, Function.update_of_ne hu, h.deadline]
  oneShot := by
    by_cases hu : t = u
    · subst hu
      simp [Timer.setTimer, hone rfl]
    · simp [Timer.setTimer, Function.update_of_ne hu, h.oneShot]
  pending := h.pending
  past := h.past
  behind v hv hmem := by
    rw [before_setTimer hk]
    exact h.behind v hv hmem

lemma Armed.timerStart (hinv : Inv s) (h : Armed t d evs s) (hu : u ≠ t) :
    Armed t d evs (timerStart s u) where
  mem := (mem_timerStart hinv).mpr (.inr h.mem)
  deadline := by
    rw [timerStart_timer_of_ne hu.symm]
    exact h.deadline
  oneShot := by
    rw [timerStart_timer_of_ne hu.symm]
    exact h.oneShot
  pending := h.pending
  past := h.past
  behind v hv hmem := by
    unfold Before
    rw [timerStart_timer_of_ne (s := s) hu.symm]
    by_cases hvu : v = u
    · -- the timer that is started has its deadline at the tick or later, and a later start
      subst hvu
      have hpast := h.past v hv
      have hstamp := (hinv.linked t h.mem).stamp
      rw [timerStart_deadline, timerStart_stamp, h.deadline]
      omega
    · have hbehind := h.behind v hv (((mem_timerStart hinv).mp hmem).resolve_left hvu)
      unfold Before at hbehind
      rw [timerStart_timer_of_ne (s := s) hvu]
      exact hbehind

lemma Spent.timerRemove (h : Spent t d evs s) (u : Id) : Spent t d evs (timerRemove s u) where
  notMem hmem := h.notMem (List.mem_of_mem_erase hmem)
  inactive := h.inactive
  once := h.once

lemma Spent.setTimer (h : Spent t d evs s) {tm : RtTimer} (hact : u = t → tm.activated = false) :
    Spent t d evs (setTimer s u tm) where
  notMem := h.notMem
  inactive := by
    by_cases hu : t = u
    · subst hu
      simp [Timer.setTimer, hact rfl]
    · simp [Timer.setTimer, Function.update_of_ne hu, h.inactive]
  once := h.once

lemma Spent.timerStart (hinv : Inv s) (h : Spent t d evs s) (hu : u ≠ t) :
    Spent t d evs (timerStart s u) where
  notMem hmem := by
    rcases (mem_timerStart hinv).mp hmem with rfl | hmem
    · exact hu rfl
    · exact h.notMem hmem
  inactive := by
    rw [timerStart_timer_of_ne hu.symm]
    exact h.inactive
  once := h.once

/-! ### The calls -/

lemma Armed.call (hinv : Inv s) (h : Armed t d evs s) {c : Call Id}
    (hund : Undisturbed t s (.call c)) : Armed t d evs (call s c) := by
  obtain ⟨hstart, hlist⟩ := hund
  obtain ⟨hstop, hdetach, hper, htime⟩ := hlist h.mem
  cases c with
  | start u =>
    have hu : u ≠ t := by
      rintro rfl
      exact hstart rfl
    exact h.timerStart hinv hu
  | stop u =>
    have hu : u ≠ t := by
      rintro rfl
      exact hstop rfl
    show Armed t d evs (rtTimerStop s u).1
    unfold rtTimerStop
    split
    · exact h
    · exact (h.timerRemove hu).setTimer ⟨rfl, rfl, rfl⟩ fun hut => absurd hut hu
  | detach u =>
    have hu : u ≠ t := by
      rintro rfl
      exact hdetach rfl
    exact (h.timerRemove hu).setTimer ⟨rfl, rfl, rfl⟩ fun hut => absurd hut hu
  | control u cmd =>
    cases cmd with
    | setTime time =>
      have hu : u ≠ t := by
        rintro rfl
        exact htime time rfl
      refine Armed.setTimer ?_ ⟨rfl, rfl, rfl⟩ fun hut => absurd hut hu
      split
      · exact (h.timerRemove hu).setTimer ⟨rfl, rfl, rfl⟩ fun hut => absurd hut hu
      · exact h
    | setOneshot => exact h.setTimer ⟨rfl, rfl, rfl⟩ fun _ => rfl
    | setPeriodic =>
      refine h.setTimer ⟨rfl, rfl, rfl⟩ ?_
      rintro rfl
      exact absurd rfl hper

lemma Spent.call (hinv : Inv s) (h : Spent t d evs s) {c : Call Id}
    (hstart : c ≠ .start t) : Spent t d evs (call s c) := by
  have hunlink : ∀ u, Spent t d evs (deactivate (Timer.timerRemove s u) u) := fun u =>
    (h.timerRemove u).setTimer fun _ => rfl
  cases c with
  | start u =>
    have hu : u ≠ t := by
      rintro rfl
      exact hstart rfl
    exact h.timerStart hinv hu
  | stop u =>
    show Spent t d evs (rtTimerStop s u).1
    unfold rtTimerStop
    split
    · exact h
    · exact hunlink u
  | detach u => exact hunlink u
  | control u cmd =>
    cases cmd with
    | setTime time =>
      have hstopped : Spent t d evs (if (s.timer u).activated
          then deactivate (Timer.timerRemove s u) u else s) := by
        split
        · exact hunlink u
        · exact h
      refine hstopped.setTimer ?_
      rintro rfl
      exact hstopped.inactive
    | setOneshot =>
      refine h.setTimer ?_
      rintro rfl
      exact h.inactive
    | setPeriodic =>
      refine h.setTimer ?_
      rintro rfl
      exact h.inactive

/-! ### The check -/

lemma popTimer_timer_of_ne (hu : u ≠ t) : (popTimer s t).timer u = s.timer u := by
  unfold popTimer
  dsimp only
  split
  · rfl
  · simp [deactivate, setTimer, Function.update_of_ne hu, timerRemove]

lemma popTimer_timer_self (s : TimerState Id) (t : Id) : (popTimer s t).timer t =
    { s.timer t with activated := (s.timer t).periodic && (s.timer t).activated } := by
  unfold popTimer
  dsimp only
  split
  · rename_i hper
    have hper' : (s.timer t).periodic = true := hper
    rw [hper', Bool.true_and]
    show s.timer t = _
    rw [← hper']
  · rename_i hper
    have hper' : (s.timer t).periodic = false := Bool.eq_false_of_not_eq_true hper
    simp [deactivate, setTimer, timerRemove, hper']

lemma before_popTimer (s : TimerState Id) (t a b : Id) :
    Before (popTimer s t).timer a b ↔ Before s.timer a b := by
  have hdead : ∀ u, ((popTimer s t).timer u).deadline = (s.timer u).deadline ∧
      ((popTimer s t).timer u).stamp = (s.timer u).stamp := by
    intro u
    by_cases hu : u = t
    · subst hu
      rw [popTimer_timer_self]
      exact ⟨rfl, rfl⟩
    · rw [popTimer_timer_of_ne hu]
      exact ⟨rfl, rfl⟩
  simp only [Before, (hdead _).1, (hdead _).2]

lemma popTimer_log (s : TimerState Id) (t : Id) :
    (popTimer s t).log = s.log ++ [.fire t s.now] := by
  unfold popTimer
  dsimp only
  split <;> rfl

lemma popTimer_now (s : TimerState Id) (t : Id) : (popTimer s t).now = s.now := by
  unfold popTimer
  dsimp only
  split <;> rfl

/-- Another timer fires while `t` is armed: it was ahead of `t`, so it had not fired before. -/
lemma Armed.popTimer_other (hinv : Inv s) (h : Armed t d evs s) (hu : u ≠ t) {rest : List Id}
    (hlist : s.timerList = u :: rest) :
    Armed t d (evs ++ [.fire u s.now]) (popTimer s u) := by
  have hbefore : Before s.timer u t := by
    have hsorted := hinv.sorted
    have hmem := h.mem
    rw [hlist] at hsorted hmem
    exact (List.pairwise_cons.mp hsorted).1 t ((List.mem_cons.mp hmem).resolve_left hu.symm)
  have hnew : u ∉ firedFrom d evs := by
    intro hfired
    exact h.behind u hfired (by simp [hlist]) hbefore
  have hfired : ∀ v ∈ firedFrom d (evs ++ [.fire u s.now]),
      v ∈ firedFrom d evs ∨ v = u ∧ d ≤ s.now := by
    intro v hv
    unfold firedFrom at hv ⊢
    rw [List.filterMap_append, List.mem_append] at hv
    refine hv.imp id fun hlast => ?_
    by_cases hd : d ≤ s.now
    · have hvu : v = u := by simpa [Event.firedAt, hd] using hlast
      exact ⟨hvu, hd⟩
    · simp [Event.firedAt, hd] at hlast
  constructor
  · rw [popTimer_timerList]
    exact (List.mem_erase_of_ne hu.symm).mpr h.mem
  · rw [popTimer_timer_of_ne hu.symm]
    exact h.deadline
  · rw [popTimer_timer_of_ne hu.symm]
    exact h.oneShot
  · exact h.pending.fire_other hu fun _ => hnew
  · intro v hv
    rw [popTimer_now]
    rcases hfired v hv with hv | ⟨-, hd⟩
    · exact h.past v hv
    · exact hd
  · intro v hv hmem
    rw [before_popTimer]
    rw [popTimer_timerList] at hmem
    rcases hfired v hv with hv | ⟨rfl, -⟩
    · exact h.behind v hv (List.mem_of_mem_erase hmem)
    · exact absurd hmem hinv.nodup.not_mem_erase

/-- `t` itself fires. -/
lemma Armed.popTimer_self (hinv : Inv s) (h : Armed t d evs s) (hdue : d ≤ s.now) :
    Spent t d (evs ++ [.fire t s.now]) (popTimer s t) where
  notMem := by
    rw [popTimer_timerList]
    exact hinv.nodup.not_mem_erase
  inactive := by
    rw [popTimer_timer_self]
    simp [h.oneShot]
  once := h.pending.fire hdue

lemma Spent.popTimer (h : Spent t d evs s) (hu : u ≠ t) :
    Spent t d (evs ++ [.fire u s.now]) (popTimer s u) where
  notMem := by
    rw [popTimer_timerList]
    exact fun hmem => h.notMem (List.mem_of_mem_erase hmem)
  inactive := by
    rw [popTimer_timer_of_ne hu.symm]
    exact h.inactive
  once := by
    refine h.once.append ?_
    rintro n ⟨⟩
    exact hu rfl

omit [DecidableEq Id] in
lemma Armed.endCheck (h : Armed t d evs s)
    (hdone : ∀ u ∈ s.timerList, s.now < (s.timer u).deadline) :
    Armed t d (evs ++ [.done s.now]) (endCheck s) := by
  have hlt : s.now < d := by
    rw [← h.deadline]
    exact hdone t h.mem
  have hfired : ∀ v ∈ firedFrom d (evs ++ [.done s.now]), v ∈ firedFrom d evs := by
    intro v hv
    unfold firedFrom at hv ⊢
    rw [List.filterMap_append, List.mem_append] at hv
    refine hv.resolve_right ?_
    rintro ⟨⟩
  exact ⟨h.mem, h.deadline, h.oneShot, h.pending.done hlt, fun v hv => h.past v (hfired v hv),
    fun v hv => h.behind v (hfired v hv)⟩

/-- **One turn of the check.** -/
lemma Tracked.timerCheckLoop {base : List (Event Id)} (hinv : Inv s) (h : Tracked t d base s) :
    Tracked t d base (timerCheckLoop s) := by
  obtain ⟨evs, hlog, h⟩ := h
  rcases timerCheckLoop_cases hinv with ⟨u, rest, hlist, hdue, heq⟩ | ⟨hdone, heq⟩
  · refine ⟨evs ++ [.fire u s.now], ?_, ?_⟩
    · rw [heq, popTimer_log, hlog, List.append_assoc]
    · rw [heq]
      rcases h with h | h
      · by_cases hu : u = t
        · subst hu
          rw [h.deadline] at hdue
          exact .inr (h.popTimer_self hinv hdue)
        · exact .inl (h.popTimer_other hinv hu hlist)
      · refine .inr (h.popTimer ?_)
        rintro rfl
        exact h.notMem (by simp [hlist])
  · refine ⟨evs ++ [.done s.now], ?_, ?_⟩
    · rw [heq, endCheck, hlog, List.append_assoc]
    · rw [heq]
      rcases h with h | h
      · exact .inl (h.endCheck hdone)
      · exact .inr ⟨h.notMem, h.inactive, h.once.append (by rintro n ⟨⟩)⟩

/-- A callback returns: if its timer starts again, it is not `t`. -/
lemma Tracked.timerCheckReturn {base : List (Event Id)} (hinv : Inv s) (h : Tracked t d base s)
    (hpc : s.pc = .callback u) : Tracked t d base (timerCheckReturn s u) := by
  unfold Timer.timerCheckReturn
  split
  · exact h
  · rename_i hne
    obtain ⟨v, hv⟩ := List.exists_mem_of_ne_nil _ hne
    obtain ⟨-, hpc', hnot⟩ := hinv.tmp v hv
    obtain rfl : u = v := by
      rw [hpc] at hpc'
      injection hpc'
    have hinv' : Inv (deactivate (Timer.timerRemove s u) u) := (hinv.timerRemove u).deactivate u
    obtain ⟨evs, hlog, h⟩ := h
    dsimp only
    refine ⟨evs, ?_, ?_⟩
    · split <;> exact hlog
    rcases h with h | h
    · left
      have hu : u ≠ t := by
        rintro rfl
        exact hnot h.mem
      have hunlinked : Armed t d evs (deactivate (Timer.timerRemove s u) u) :=
        (h.timerRemove hu).setTimer ⟨rfl, rfl, rfl⟩ fun hut => absurd hut hu
      split
      · exact hunlinked.timerStart hinv' hu
      · exact h.timerRemove hu
    · right
      split
      · rename_i hact
        have hu : u ≠ t := by
          rintro rfl
          have hact' : (s.timer u).activated = true := hact.2
          rw [h.inactive] at hact'
          cases hact'
        have hunlinked : Spent t d evs (deactivate (Timer.timerRemove s u) u) :=
          (h.timerRemove u).setTimer fun _ => rfl
        exact hunlinked.timerStart hinv' hu
      · exact h.timerRemove u

lemma Tracked.step {base : List (Event Id)} {a : Action Id} (hinv : Inv s)
    (h : Tracked t d base s) (hund : Undisturbed t s a) (hs : step s a = some s') :
    Tracked t d base s' := by
  cases a with
  | call c =>
    obtain rfl : Timer.call s c = s' := by simpa [Timer.step] using hs
    obtain ⟨evs, hlog, h⟩ := h
    have hlog' : (Timer.call s c).log = s.log := by
      cases c with
      | start u => rfl
      | stop u =>
        show (rtTimerStop s u).1.log = _
        unfold rtTimerStop
        split <;> rfl
      | detach u => rfl
      | control u cmd =>
        cases cmd with
        | setTime time =>
          simp only [Timer.call, rtTimerControl, setTimer]
          split <;> rfl
        | setOneshot => rfl
        | setPeriodic => rfl
    refine ⟨evs, hlog'.trans hlog, ?_⟩
    rcases h with h | h
    · exact .inl (h.call hinv hund)
    · refine .inr (h.call hinv ?_)
      rintro rfl
      exact hund.1 rfl
  | tick =>
    simp only [Timer.step] at hs
    split at hs
    · cases hs
      obtain ⟨evs, hlog, h⟩ := h
      refine ⟨evs, hlog, ?_⟩
      rcases h with h | h
      · exact .inl ⟨h.mem, h.deadline, h.oneShot, h.pending,
          fun v hv => Nat.le_succ_of_le (h.past v hv), h.behind⟩
      · exact .inr ⟨h.notMem, h.inactive, h.once⟩
    · cases hs
  | check =>
    simp only [Timer.step] at hs
    split at hs
    · cases hs
      apply Tracked.timerCheckLoop hinv.clear_list
      obtain ⟨evs, hlog, h⟩ := h
      refine ⟨evs, hlog, ?_⟩
      rcases h with h | h
      · exact .inl ⟨h.mem, h.deadline, h.oneShot, h.pending, h.past, h.behind⟩
      · exact .inr ⟨h.notMem, h.inactive, h.once⟩
    · cases hs
  | ret =>
    simp only [Timer.step] at hs
    split at hs
    · rename_i u hpc
      cases hs
      exact (h.timerCheckReturn hinv hpc).timerCheckLoop (hinv.timerCheckReturn hpc).1
    · cases hs

/-- A start arms a one-shot timer. -/
lemma armed_start (hinv : Inv s) (hone : (s.timer t).periodic = false) :
    Armed t (s.now + (s.timer t).initTick.toNat) [] (timerStart s t) where
  mem := (mem_timerStart hinv).mpr (.inl rfl)
  deadline := timerStart_deadline s t
  oneShot := by simpa [timerStart, timerRemove, setTimer] using hone
  pending := pending_nil t _
  past := by simp [firedFrom]
  behind := by simp [firedFrom]

/-! ### Whole runs -/

/-- **The timer list and the one-shot timers.**  In every state of every run, at every starting
value of the tick, the active list is ordered by circular deadline with equal deadlines in start
order; and a one-shot timer that is started there and left alone has its callback run exactly once,
in the first check whose tick has reached its deadline: until then no check ends at such a tick, and
at most one callback of each other timer comes first. -/
theorem ordered_and_fires_once (tick : BitVec 32) (periodic : Id → Bool) (time : Id → BitVec 32)
    (htime : ∀ t, (time t).toNat < rtTickMax / 2) (as : List (Action Id))
    (has : ∀ a ∈ as, TimeBelow a) (s : TimerState Id)
    (hrun : exec step (init tick periodic time) as = some s) :
    Ordered s ∧ ∀ t, (s.timer t).periodic = false → ∀ (bs : List (Action Id)) (s' : TimerState Id),
      (∀ b ∈ bs, TimeBelow b) → Along step (Undisturbed t) (timerStart s t) bs →
      exec step s (.call (.start t) :: bs) = some s' →
      ∃ evs, s'.log = s.log ++ evs ∧
        (Pending t (s.now + (s.timer t).initTick.toNat) evs ∨
          FiredOnce t (s.now + (s.timer t).initTick.toNat) evs) := by
  have hinv : Inv s := exec_inv_of_along (C := fun _ a => TimeBelow a)
    (fun _ _ _ hI ha hs => hI.step ha hs) as _ s (inv_init tick periodic time htime)
    (along_of_forall as _ has) hrun
  refine ⟨hinv.ordered, ?_⟩
  intro t hone bs s' hbs hund hrun'
  have hstart : step s (.call (.start t)) = some (timerStart s t) := rfl
  rw [exec_cons_some hstart] at hrun'
  set d := s.now + (s.timer t).initTick.toNat with hd
  have htracked : Inv s' ∧ Tracked t d s.log s' := by
    refine exec_inv_of_along (I := fun s => Inv s ∧ Tracked t d _ s)
      (C := fun s a => TimeBelow a ∧ Undisturbed t s a) ?_ bs _ s' ⟨?_, ?_⟩
      ((along_of_forall bs _ hbs).and hund) hrun'
    · rintro r a r' ⟨hI, htr⟩ ⟨ha, hu⟩ hs
      exact ⟨hI.step ha hs, htr.step hI hu hs⟩
    · exact hinv.timerStart t
    · exact ⟨[], (List.append_nil _).symm, .inl (armed_start hinv hone)⟩
  obtain ⟨-, evs, hlog, h⟩ := htracked
  refine ⟨evs, hlog, ?_⟩
  rcases h with h | h
  · exact .inl h.pending
  · exact .inr h.once

/-- At the largest tick, a timer of one tick fires when the counter has wrapped around. -/
theorem ordered_and_fires_once_wrap :
    ∃ s', exec step (init 0xffffffff#32 (fun _ : Unit => false) fun _ => 1#32)
        [.call (.start ()), .tick, .check, .ret] = some s' ∧
      ∃ evs, s'.log = [] ++ evs ∧ (Pending () 0x100000000 evs ∨ FiredOnce () 0x100000000 evs) := by
  set s₀ := init 0xffffffff#32 (fun _ : Unit => false) fun _ => 1#32 with hs₀
  have hsome : (exec step s₀ [.call (.start ()), .tick, .check, .ret]).isSome := by decide +kernel
  obtain ⟨s', hs'⟩ := Option.isSome_iff_exists.mp hsome
  have hdeadline : s₀.now + (s₀.timer ()).initTick.toNat = 0x100000000 := by decide +kernel
  refine ⟨s', hs', ?_⟩
  rw [← hdeadline]
  refine (ordered_and_fires_once 0xffffffff#32 (fun _ : Unit => false) (fun _ => 1#32)
    (fun _ => by decide) [] (by simp) s₀ rfl).2 () rfl [.tick, .check, .ret] s'
    (by simp [TimeBelow, timeOf]) ?_ hs'
  refine (along_of_forall (P := fun a : Action Unit => ∀ c, a ≠ .call c) _ _ (by simp)).imp ?_
  intro s a ha
  exact ⟨ha _, fun _ => ⟨ha _, ha _, ha _, fun _ => ha _⟩⟩

/-- A new time given to a started one-shot timer unlinks it: the check at its deadline ends without
its callback, though nobody has stopped, restarted or detached it. -/
theorem not_fires_once_setTime :
    ∃ s', exec step (init 0#32 (fun _ : Unit => false) fun _ => 1#32)
        [.call (.start ()), .call (.control () (.setTime 2#32)), .tick, .check] = some s' ∧
      s'.log = [.done 1] ∧ ¬ (Pending () 1 s'.log ∨ FiredOnce () 1 s'.log) := by
  refine ⟨_, rfl, rfl, ?_⟩
  rintro (h | ⟨pre, n, post, heq, -⟩)
  · exact absurd (h.notDone 1 (by decide)) (by decide)
  · have hmem : Event.fire () n ∈ ([.done 1] : List (Event Unit)) := by
      have hlog : ([.done 1] : List (Event Unit)) = pre ++ .fire () n :: post := heq
      rw [hlog]
      simp
    simp at hmem

end N32L43x.Timer
