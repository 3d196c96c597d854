import N32L43x.Ipc.Timeout
import N32L43x.Completion.Defs

/-!
A completion is a token.  A wake-up that comes between the timeout of the thread and its next look at the
word is found there, and the thread that finds the word as it left it has timed out.
-/

namespace N32L43x.Completion

open N32L43x.Sched N32L43x.Ipc N32L43x.Lib.Run

variable {Tid Oid : Type} {s s' : System Tid Oid} {k k' : Kernel Tid Oid}
  {firing firing' : Option Tid} {word : Word Tid} {t u : Tid}

/-- The thread is in no list.  It finds the word as it left it, and has timed out if it is awake; or it
finds that the completion is completed, and is awake or will be once its timeout has come. -/
def Sleeps (k : Kernel Tid Oid) (firing : Option Tid) (word : Word Tid) (t : Tid) : Prop :=
  (k.look t).life ≠ .init ∧ (∀ l, t ∉ k.suspendThread l) ∧
    (word = ⟨some t, false⟩ ∧ (k.Suspended t ∨ k.error t ≠ .eok) ∨
      word = ⟨none, true⟩ ∧ (k.Suspended t → firing = some t))

/-- Nothing happens to the thread. -/
lemma Sleeps.same (h : Sleeps k firing word t) (hk : k.SameAt k' t)
    (hf : firing = some t → firing' = some t) : Sleeps k' firing' word t := by
  obtain ⟨hinit, hlists, hcase⟩ := h
  refine ⟨?_, fun l hl => hlists l (hk.listed l hl), ?_⟩
  · rw [hk.look]
    exact hinit
  rw [hk.suspended_iff, hk.error]
  rcases hcase with hout | ⟨hword, hsus⟩
  · exact .inl hout
  · exact .inr ⟨hword, fun hs => hf (hsus hs)⟩

/-- The invariant. -/
structure Good (s : System Tid Oid) : Prop where
  timed : Timed s.kernel s.firing
  idle : s.sleeper = none → s.suspThreadNFlag.thread = none
  sleeps : ∀ t, s.sleeper = some t → Sleeps s.kernel s.firing s.suspThreadNFlag t

namespace Good

/-- A step of others. -/
lemma same (h : Good s) (htimed : Timed k' firing')
    (hk : ∀ t, s.sleeper = some t → s.kernel.SameAt k' t)
    (hf : ∀ t, s.sleeper = some t → s.firing = some t → firing' = some t) :
    Good { s with kernel := k', firing := firing' } :=
  ⟨htimed, h.idle, fun t ht => (h.sleeps t ht).same (hk t ht) (hf t ht)⟩

lemma quiet (h : Good s) (hq : s.kernel.Quiet k') : Good { s with kernel := k' } :=
  h.same (h.timed.quiet hq) (fun t _ => hq.sameAt t) fun _ _ hf => hf

variable [DecidableEq Tid]

lemma not_sleeper_of_not_waits (h : s.waits t = false) : s.sleeper ≠ some t := by
  intro hsleep
  obtain ⟨w, hw, hif⟩ := Option.bind_eq_some_iff.mp hsleep
  split at hif
  · simp only [System.waits, hw, Option.any_some] at h
    exact of_decide_eq_false h (Option.some.inj hif)
  · cases hif

/-- **A wake-up.**  It is refused if and only if the completion is completed, and leaves it so. -/
lemma wakeup (h : Good s) (threadErrno : Option IpcErr) :
    let (k', word, ret) := rtCompletionWakeupByErrno s.kernel s.suspThreadNFlag threadErrno
    Good { s with kernel := k', suspThreadNFlag := word } ∧ word.completed = true ∧
      (ret = .ebusy ↔ s.suspThreadNFlag.completed = true) := by
  have hlock := h.quiet (Kernel.quiet_rtSpinLock h.timed.inv)
  unfold rtCompletionWakeupByErrno
  simp only
  by_cases hcompleted : s.suspThreadNFlag.completed = true
  · rw [if_pos hcompleted]
    exact ⟨hlock.quiet (Kernel.quiet_rtSpinUnlock hlock.timed.inv), hcompleted,
      iff_of_true rfl hcompleted⟩
  rw [if_neg hcompleted]
  cases hthread : s.suspThreadNFlag.thread with
  | none =>
    have hunlock := hlock.quiet (Kernel.quiet_rtSpinUnlock hlock.timed.inv)
    refine ⟨⟨hunlock.timed, fun _ => rfl, fun t ht => ?_⟩, rfl, iff_of_false nofun hcompleted⟩
    -- a thread that sleeps would be in the word
    rcases (h.sleeps t ht).2.2 with ⟨hword, -⟩ | ⟨hword, -⟩
    · rw [hword] at hthread
      cases hthread
    · exact absurd (congrArg Word.completed hword) hcompleted
  | some u =>
    have hsleeper : s.sleeper = some u := by
      cases hs : s.sleeper with
      | none =>
        rw [h.idle hs] at hthread
        cases hthread
      | some t =>
        rcases (h.sleeps t hs).2.2 with ⟨hword, -⟩ | ⟨hword, -⟩
        · rw [hword] at hthread
          exact hthread
        · rw [hword] at hthread
          cases hthread
    let k₀ := setErrno s.kernel.rtSpinLock u threadErrno
    have hk₀ : Timed k₀ s.firing ∧ k₀.suspendThread = s.kernel.suspendThread ∧
        k₀.look = s.kernel.look := by
      cases threadErrno with
      | none => exact ⟨hlock.timed, rfl, rfl⟩
      | some threadErrno => exact ⟨hlock.timed.keep hlock.timed.inv rfl rfl rfl, rfl, rfl⟩
    have htimed := hk₀.1.rtThreadResume u
    have hgood : Good { s with
        kernel := (k₀.rtThreadResume u).1.rtSpinUnlock, suspThreadNFlag := ⟨none, true⟩ } := by
      have hq := (hk₀.1.quiet_rtThreadResume u)
      have hq' := Kernel.quiet_rtSpinUnlock htimed.inv
      refine ⟨htimed.quiet hq', fun _ => rfl, fun t ht => ?_⟩
      obtain rfl : u = t := Option.some.inj (hsleeper.symm.trans ht)
      refine ⟨?_, fun l hl => ?_, .inr ⟨rfl, fun hsus => ?_⟩⟩
      · simp only
        rw [hq'.look, hq.look]
        apply Kernel.ne_init_rtSchedThreadReady
        rw [hk₀.2.2]
        exact (h.sleeps u hsleeper).1
      · simp only at hl
        rw [hq'.suspendThread, hq.suspendThread] at hl
        have hl' := Kernel.shrinks_rtSchedThreadReady k₀ u l u hl
        rw [hk₀.2.1] at hl'
        exact (h.sleeps u hsleeper).2.1 l hl'
      · by_contra hf
        exact hk₀.1.not_suspended_rtThreadResume hf ((hq'.suspended_iff u).mp hsus)
    simp only
    split
    all_goals
      rename_i hresume
      rw [hresume] at hgood
      exact ⟨hgood, rfl, iff_of_false nofun hcompleted⟩

/-! ### The waiting thread -/

omit [DecidableEq Tid] in
lemma firing_of_running (ht : s.running = some t) : s.firing = none := by
  unfold System.running at ht
  split at ht
  · assumption
  · cases ht

omit [DecidableEq Tid] in
lemma live_of_running (ht : s.running = some t) : (s.kernel.look t).life = .live := by
  unfold System.running at ht
  split at ht
  · split at ht
    · rename_i hlive
      cases ht
      exact hlive
    · cases ht
  · cases ht

omit [DecidableEq Tid] in
lemma not_firing_of_running (ht : s.running = some t) : s.firing ≠ some t := by
  rw [firing_of_running ht]
  nofun

end Good

/-- What the section from `__try_again` on has done: it has taken the token, or there is none and the wait
has failed, or the thread sleeps. -/
inductive Tried (k : Kernel Tid Oid) (firing : Option Tid) (t : Tid) : Word Tid → Word Tid → Pc → Prop
  | taken (thread : Option Tid) : Tried k firing t ⟨thread, true⟩ ⟨none, false⟩ (.returns .eok)
  | failed (ret : IpcErr) (hret : ret ≠ .eok) :
    Tried k firing t ⟨none, false⟩ ⟨none, false⟩ (.returns ret)
  | asleep (suspendFlag : SuspendFlag) (h : Sleeps k firing ⟨some t, false⟩ t) :
    Tried k firing t ⟨none, false⟩ ⟨some t, false⟩ (.waiting suspendFlag)

variable [DecidableEq Tid] [DecidableEq Oid]

lemma tryAgain_spec (word : Word Tid) (h : Timed k firing) (hlive : (k.look t).life = .live) (hf : firing ≠ some t)
    (hword : word.completed = true ∨ word = ⟨none, false⟩) (timeout : ℤ) (suspendFlag : SuspendFlag) :
    let (k', word', pc) := tryAgain k word t timeout suspendFlag
    Timed k' firing ∧ Tried k' firing t word word' pc := by
  unfold tryAgain
  rcases hword with hcompleted | rfl
  · obtain ⟨thread, completed⟩ := word
    obtain rfl : completed = true := hcompleted
    exact ⟨h.rtSpinUnlock, .taken thread⟩
  rw [if_pos rfl]
  split
  rename_i heq
  split at heq
  · cases heq
    exact ⟨h.rtSpinUnlock, .failed .etimeout nofun⟩
  let k₀ : Kernel Tid Oid := { k with error := Function.update k.error t .eok }
  have h₀ : Timed k₀ firing := h.keep h.inv rfl rfl rfl
  obtain ⟨k₁, hsuspend, htimed, hlook, -, hlists⟩ :=
    h₀.rtThreadSuspendToList hlive hf none .fifo suspendFlag
  have hsus : k₁.Suspended t := by
    unfold Kernel.Suspended
    rw [hlook, Function.update_self]
  have hnot : ∀ l, t ∉ k₁.suspendThread l := by
    intro l hl
    rcases hlists t l hl with hl' | ⟨-, hnone⟩
    · exact Timeout.not_suspended_of_live hlive (h.mem hl')
    · cases hnone
  simp only at heq
  rw [hsuspend] at heq
  cases heq
  have hfinal : Timed (if 0 < timeout then k₁.rtTimerStart t else k₁) firing ∧
      (if 0 < timeout then k₁.rtTimerStart t else k₁).Suspended t ∧
      (if 0 < timeout then k₁.rtTimerStart t else k₁).suspendThread = k₁.suspendThread := by
    split
    · obtain ⟨htimed', hsus'⟩ := htimed.rtTimerStart hsus hf
      exact ⟨htimed', hsus', rfl⟩
    · exact ⟨htimed, hsus, rfl⟩
  obtain ⟨htimed', hsus', hsame⟩ := hfinal
  have hq := Kernel.quiet_rtSpinUnlock htimed'.inv
  refine ⟨htimed'.quiet hq, .asleep suspendFlag ⟨fun hinit => ?_, fun l hl => ?_, .inl ⟨rfl, .inl ?_⟩⟩⟩
  · cases hinit.symm.trans ((hq.suspended_iff t).mpr hsus')
  · rw [hq.suspendThread, hsame] at hl
    exact hnot l hl
  · exact (hq.suspended_iff t).mpr hsus'

omit [DecidableEq Tid] [DecidableEq Oid] in
/-- What is decided is what the specification decides. -/
lemma Tried.decides {word' : Word Tid} {pc : Pc} (h : Tried k firing t word word' pc) :
    exec specStep ⟨word.completed, .called⟩ (seen .called pc.wait) =
      some ⟨word'.completed, pc.wait⟩ := by
  cases h with
  | taken thread => rfl
  | failed ret hret => simp [Pc.wait, seen, exec, specStep, hret]
  | asleep suspendFlag h => rfl

omit [DecidableEq Tid] [DecidableEq Oid] in
/-- The thread sleeps, or nobody is in the word. -/
lemma Tried.sleeps {word' : Word Tid} {pc : Pc} (h : Tried k firing t word word' pc) :
    pc.sleeps = false ∧ word'.thread = none ∨ pc.sleeps = true ∧ Sleeps k firing word' t := by
  cases h with
  | taken thread => exact .inl ⟨rfl, rfl⟩
  | failed ret hret => exact .inl ⟨rfl, rfl⟩
  | asleep suspendFlag h => exact .inr ⟨rfl, h⟩

/-- A step of the waiting thread keeps the invariant and is one of the specification. -/
def Advances (s : System Tid Oid) (s' : System Tid Oid) : Prop :=
  Good s' ∧ exec specStep s.token (label s .resume s') = some s'.token

omit [DecidableEq Oid] in
lemma Tried.advances {pc₀ pc : Pc} {word' : Word Tid} (hwaiter : s.waiter = some (t, pc₀))
    (hcalled : pc₀.wait = .called) (htimed : Timed k' s.firing)
    (h : Tried k' s.firing t s.suspThreadNFlag word' pc) :
    Advances s { s with kernel := k', suspThreadNFlag := word', waiter := some (t, pc) } := by
  have htoken : s.token = ⟨s.suspThreadNFlag.completed, .called⟩ := by
    unfold System.token
    rw [hwaiter, Option.elim_some, hcalled]
  have hsleeper : ∀ u, (⟨k', word', some (t, pc), s.firing⟩ : System Tid Oid).sleeper = some u ↔
      pc.sleeps = true ∧ t = u := by
    intro u
    unfold System.sleeper
    rw [Option.bind_some]
    split <;> simp_all
  refine ⟨⟨htimed, ?_, ?_⟩, ?_⟩
  · intro hnone
    rcases h.sleeps with ⟨-, hthread⟩ | ⟨hpc, -⟩
    · exact hthread
    · cases hnone.symm.trans ((hsleeper t).mpr ⟨hpc, rfl⟩)
  · intro u hu
    obtain ⟨hpc, rfl⟩ := (hsleeper u).mp hu
    rcases h.sleeps with ⟨hpc', -⟩ | ⟨-, hsleeps⟩
    · cases hpc.symm.trans hpc'
    · exact hsleeps
  · have hdecides := h.decides
    simp only [label, htoken]
    exact hdecides

/-- The section after the call of `rt_schedule`. -/
lemma recheck_spec (h : Timed k firing) (hlive : (k.look t).life = .live) (hf : firing ≠ some t)
    (hsleeps : Sleeps k firing word t) (suspendFlag : SuspendFlag) :
    let (k', word', pc) := recheck k word t suspendFlag
    Timed k' firing ∧
      (Tried k' firing t word word' pc ∨
        word = ⟨some t, false⟩ ∧ word' = ⟨none, false⟩ ∧ pc = .returns (k.error t) ∧
          k.error t ≠ .eok) := by
  unfold recheck
  rcases hsleeps.2.2 with ⟨rfl, hout⟩ | ⟨rfl, -⟩
  · rw [if_neg (not_not_intro rfl)]
    have herror := hout.resolve_left (Timeout.not_suspended_of_live hlive)
    exact ⟨h.rtSpinLock.rtSpinUnlock, .inr ⟨rfl, rfl, rfl, herror⟩⟩
  · rw [if_pos (by nofun)]
    have htried := tryAgain_spec ⟨none, true⟩ h.rtSpinLock hlive hf (.inl rfl) 0 suspendFlag
    exact ⟨htried.1, .inl htried.2⟩

/-- **The waiting thread goes on.** -/
lemma Good.resume (h : Good s) (ht : s.running = some t) (hs : resume s t = some s') :
    Advances s s' := by
  have hlive := live_of_running ht
  have hf := not_firing_of_running ht
  unfold Completion.resume at hs
  rcases hwaiter : s.waiter with _ | ⟨thread, pc⟩
  · rw [hwaiter] at hs
    cases hs
  rw [hwaiter] at hs
  by_cases hthread : thread = t
  swap
  · simp only [if_neg hthread] at hs
    cases hs
  subst hthread
  have hsleeper : s.sleeper = if pc.sleeps then some thread else none := by
    unfold System.sleeper
    rw [hwaiter]
    rfl
  cases pc with
  | entering timeout suspendFlag =>
    simp only [if_true] at hs
    have hidle := h.idle hsleeper
    have hword : s.suspThreadNFlag.completed = true ∨ s.suspThreadNFlag = ⟨none, false⟩ := by
      rcases hw : s.suspThreadNFlag with ⟨thread', completed⟩
      rw [hw] at hidle
      cases completed with
      | true => exact .inl rfl
      | false =>
        obtain rfl : thread' = none := hidle
        exact .inr rfl
    have htried := tryAgain_spec _ h.timed.rtSpinLock hlive hf hword timeout suspendFlag
    rcases htry : tryAgain s.kernel.rtSpinLock s.suspThreadNFlag thread timeout suspendFlag with
      ⟨k', word', pc⟩
    rw [htry] at hs htried
    cases hs
    exact htried.2.advances hwaiter rfl htried.1
  | waiting suspendFlag =>
    simp only [if_true] at hs
    cases hs
    have hq := Kernel.quiet_rtSchedule h.timed.inv
    refine ⟨⟨h.timed.quiet hq, fun hnone => absurd hnone (Option.some_ne_none thread), fun u hu => ?_⟩,
      ?_⟩
    · obtain rfl : thread = u := Option.some.inj hu
      exact (h.sleeps thread hsleeper).same (hq.sameAt thread) fun hf => hf
    · simp only [label, System.token, hwaiter]
      rfl
  | woken suspendFlag =>
    simp only [if_true] at hs
    have htried := recheck_spec h.timed hlive hf (h.sleeps thread hsleeper) suspendFlag
    rcases hrecheck : recheck s.kernel s.suspThreadNFlag thread suspendFlag with ⟨k', word', pc⟩
    rw [hrecheck] at hs htried
    cases hs
    rcases htried.2 with htried' | ⟨hword, rfl, rfl, herror⟩
    · exact htried'.advances hwaiter rfl htried.1
    · refine ⟨⟨htried.1, fun _ => rfl, fun u hu => absurd hu.symm (Option.some_ne_none u)⟩, ?_⟩
      simp only [label, System.token, hwaiter, hword, Option.elim_some]
      simp [Pc.wait, seen, exec, specStep, herror]
  | returns ret =>
    simp only [if_true] at hs
    cases hs
    have hidle := h.idle hsleeper
    refine ⟨⟨h.timed, fun _ => hidle, fun u hu => absurd hu.symm (Option.some_ne_none u)⟩, ?_⟩
    simp only [label, System.token, hwaiter, Option.elim_some, Option.elim_none]
    simp [Pc.wait, seen, exec, specStep]

/-- **Every step** keeps the invariant and is one of the specification. -/
lemma Good.step (h : Good s) {a : Action Tid Oid} (hs : step s a = some s') :
    Good s' ∧ exec specStep s.token (label s a s') = some s'.token := by
  have hlabel : ∀ {k' : Kernel Tid Oid} {firing' : Option Tid},
      exec specStep s.token [] = some { s with kernel := k', firing := firing' }.token := rfl
  cases a with
  | wait timeout suspendFlag =>
    obtain ⟨t, ht, hs⟩ := Option.bind_eq_some_iff.mp hs
    split at hs
    · rename_i hwaiter
      cases hs
      have hidle := h.idle (by unfold System.sleeper; rw [hwaiter]; rfl)
      refine ⟨⟨h.timed, fun _ => hidle, fun u hu => absurd hu.symm (Option.some_ne_none u)⟩, ?_⟩
      simp only [label, System.token, hwaiter]
      rfl
    · cases hs
  | resume =>
    obtain ⟨t, ht, hs⟩ := Option.bind_eq_some_iff.mp hs
    exact h.resume ht hs
  | wakeup threadErrno =>
    have hwakeup := h.wakeup threadErrno
    rcases hw : rtCompletionWakeupByErrno s.kernel s.suspThreadNFlag threadErrno with ⟨k', word, ret⟩
    rw [hw] at hwakeup
    simp only [Completion.step, hw] at hs
    cases hs
    obtain ⟨hgood, hcompleted, hbusy⟩ := hwakeup
    refine ⟨hgood, ?_⟩
    simp only [label, System.token, hw, hcompleted]
    simp [exec, specStep, hbusy]
  | schedule =>
    cases hs
    exact ⟨h.quiet (Kernel.quiet_rtSchedule h.timed.inv), hlabel⟩
  | threadResume t =>
    simp only [Completion.step] at hs
    split at hs
    · cases hs
    · rename_i hnot
      cases hs
      have hne := not_sleeper_of_not_waits (eq_false_of_ne_true hnot)
      refine ⟨h.same (h.timed.rtThreadResume t) (fun u hu => ?_) fun _ _ hf => hf, hlabel⟩
      apply Kernel.sameAt_rtThreadResume h.timed
      rintro rfl
      exact hne hu
  | suspend l flag suspendFlag =>
    obtain ⟨t, ht, hs⟩ := Option.bind_eq_some_iff.mp hs
    split at hs
    · cases hs
    · rename_i hnot
      have hne := not_sleeper_of_not_waits (eq_false_of_ne_true hnot)
      obtain ⟨k', hsuspend, htimed, hlook, herror, hlists⟩ := h.timed.rtThreadSuspendToList
        (live_of_running ht) (not_firing_of_running ht) l flag suspendFlag
      cases hs
      rw [hsuspend]
      refine ⟨h.same htimed (fun u hu => ?_) fun _ _ hf => hf, hlabel⟩
      have hut : u ≠ t := by
        rintro rfl
        exact hne hu
      refine ⟨?_, congrFun herror u, fun l' hl => ?_⟩
      · rw [hlook, Function.update_of_ne hut]
      · exact (hlists u l' hl).resolve_right fun hu' => hut hu'.1
  | dequeue l threadError =>
    cases hs
    refine ⟨h.same (h.timed.rtSuspListDequeue l threadError) (fun t ht => ?_) fun _ _ hf => hf, hlabel⟩
    exact Kernel.sameAt_rtSuspListDequeue ((h.sleeps t ht).2.1 l) threadError
  | startup t =>
    simp only [Completion.step] at hs
    split at hs
    · rename_i hinit
      cases hs
      have hf : s.firing ≠ some t := by
        intro hf
        rcases ((h.timed.at_thread t).fires hf).1 with hsus | hlive
        · cases hinit.symm.trans hsus
        · cases hinit.symm.trans hlive
      obtain ⟨htimed, hlook⟩ := h.timed.rtSchedThreadStartup hinit hf
      refine ⟨h.same htimed (fun u hu => ⟨?_, rfl, fun _ hl => hl⟩) fun _ _ hf => hf, hlabel⟩
      refine (congrFun hlook u).trans (Function.update_of_ne ?_ ..)
      rintro rfl
      exact (h.sleeps u hu).1 hinit
    · cases hs
  | timerExpires t =>
    simp only [Completion.step] at hs
    split at hs
    · rename_i ht
      cases hs
      have htimed := h.timed
      rw [ht.1] at htimed
      refine ⟨h.same (htimed.expires ht.2) (fun u _ => ⟨rfl, rfl, fun _ hl => hl⟩) (fun u _ hf => ?_),
        hlabel⟩
      rw [ht.1] at hf
      cases hf
    · cases hs
  | timeoutFunc =>
    obtain ⟨t, ht, rfl⟩ := Option.map_eq_some_iff.mp hs
    have htimed := h.timed
    rw [ht] at htimed
    have hout := htimed.timesOut_threadTimeout
    refine ⟨⟨htimed.timesOut hout, h.idle, fun u hu => ?_⟩, hlabel⟩
    have hsleeps := h.sleeps u hu
    by_cases hut : u = t
    · subst hut
      have hlife : ((s.kernel.threadTimeout u).look u).life = .live := by
        rw [hout.look, Function.update_self]
      have herror : (s.kernel.threadTimeout u).error u = .etimeout := by
        rw [hout.error, Function.update_self]
      obtain ⟨-, hlists, hcase⟩ := hsleeps
      refine ⟨?_, fun l hl => ?_, ?_⟩
      · simp only
        rw [hlife]
        decide
      · simp only at hl
        rw [hout.suspendThread] at hl
        exact hlists l (List.mem_of_mem_filter hl)
      · rcases hcase with ⟨hword, -⟩ | ⟨hword, -⟩
        · refine .inl ⟨hword, .inr ?_⟩
          simp only
          rw [herror]
          decide
        · exact .inr ⟨hword, fun hsus => absurd hsus (Timeout.not_suspended_of_live hlife)⟩
    · refine hsleeps.same (hout.sameAt hut) fun hf => ?_
      rw [ht] at hf
      exact absurd (Option.some.inj hf).symm hut
  | tickIncrease =>
    obtain ⟨t, ht, rfl⟩ := Option.map_eq_some_iff.mp hs
    exact ⟨h.quiet (Kernel.quiet_rtSchedTickIncrease h.timed.inv ht), hlabel⟩

/-! ### Runs -/

/-- **One step of the specification.** -/
lemma outstanding_step {q q' : Token} {e : Event} (h : specStep q e = some q') :
    q'.outstanding + e.succeeds.toNat = q.outstanding + e.accepted.toNat := by
  obtain ⟨available, wait⟩ := q
  cases e with
  | waitCalled =>
    simp only [specStep] at h
    split at h
    · rename_i hwait
      subst hwait
      cases h
      rfl
    · cases h
  | waitDecides ret =>
    simp only [specStep] at h
    split at h
    · rename_i hcond
      obtain ⟨rfl, hret⟩ := hcond
      cases h
      by_cases hok : ret = .eok
      · subst hok
        obtain rfl := hret.mp rfl
        rfl
      · obtain rfl : available = false := Bool.eq_false_iff.mpr fun ha => hok (hret.mpr ha)
        simp [Token.outstanding, Event.succeeds, Event.accepted, hok]
    · cases h
  | waitReturns ret =>
    simp only [specStep] at h
    split at h
    · rename_i hwait
      subst hwait
      cases h
      by_cases hok : ret = .eok
      · simp [Token.outstanding, Event.succeeds, Event.accepted, hok]
      · simp [Token.outstanding, Event.succeeds, Event.accepted, hok]
    · cases h
  | wakeup ret =>
    simp only [specStep] at h
    split at h
    · rename_i hbusy
      cases h
      by_cases hret : ret = .ebusy
      · obtain rfl := hbusy.mp hret
        simp [Token.outstanding, Event.succeeds, Event.accepted, hret]
      · obtain rfl : available = false := Bool.eq_false_iff.mpr fun ha => hret (hbusy.mpr ha)
        simp [Token.outstanding, Event.succeeds, Event.accepted, hret]
        omega
    · cases h

lemma outstanding_run (events : List Event) : ∀ {q q' : Token},
    exec specStep q events = some q' →
    q'.outstanding + events.countP Event.succeeds = q.outstanding + events.countP Event.accepted := by
  induction events with
  | nil =>
    intro q q' h
    obtain rfl : q = q' := by simpa [exec] using h
    rfl
  | cons e events ih =>
    intro q q' h
    rcases he : specStep q e with _ | q₁
    · rw [exec_cons_none he] at h
      cases h
    · rw [exec_cons_some he] at h
      have hstep := outstanding_step he
      have hrun := ih h
      rw [List.countP_cons, List.countP_cons]
      have htoNat : ∀ b : Bool, (if b = true then 1 else 0) = b.toNat := fun b => by cases b <;> rfl
      rw [htoNat, htoNat]
      omega

/-- In every run the completion is a token: the wake-ups that are not refused and the waits that return
`RT_EOK` alternate, a wait fails only if there is no token when that is decided, no thread stays asleep
when there is one, and a thread that finds the word as it left it has an error number that is not zero. -/
theorem completion_conserves {sched : SchedState Tid} (hinv : Inv sched)
    (hset : ∀ t, (sched.look t).ttmrSet = false) (as : List (Action Tid Oid))
    (hrun : exec step (System.init sched) as = some s) :
    let events := observe step label (System.init sched) as
    exec specStep ⟨false, .idle⟩ events = some s.token ∧
      events.countP Event.accepted = events.countP Event.succeeds + s.token.outstanding ∧
      (∀ t, s.sleeper = some t → s.suspThreadNFlag.completed = true → s.kernel.Suspended t →
        s.firing = some t) ∧
      ∀ t suspendFlag, s.waiter = some (t, .woken suspendFlag) → s.running = some t →
        s.suspThreadNFlag = ⟨some t, false⟩ → s.kernel.error t ≠ .eok := by
  intro events
  have hsim : ∀ (s : System Tid Oid) (a : Action Tid Oid) (s' : System Tid Oid) (q : Token),
      (Good s ∧ q = s.token) → step s a = some s' →
      ∃ q', exec specStep q (label s a s') = some q' ∧ Good s' ∧ q' = s'.token := by
    rintro s a s' q ⟨h, rfl⟩ hs
    obtain ⟨hgood, hexec⟩ := h.step hs
    exact ⟨_, hexec, hgood, rfl⟩
  have hinit : Good (System.init sched : System Tid Oid) :=
    ⟨(Timeout.good_init hinv hset).timed, fun _ => rfl, nofun⟩
  obtain ⟨q, hspec, hgood, rfl⟩ := exec_simulates hsim as _ s _ ⟨hinit, rfl⟩ hrun
  refine ⟨hspec, ?_, ?_, ?_⟩
  · have hcount := outstanding_run _ hspec
    have hzero : (System.init sched : System Tid Oid).token.outstanding = 0 := rfl
    rw [hzero, Nat.zero_add] at hcount
    exact hcount.symm.trans (Nat.add_comm ..)
  · intro t ht hcompleted
    rcases (hgood.sleeps t ht).2.2 with ⟨hword, -⟩ | ⟨-, hsus⟩
    · rw [hword] at hcompleted
      cases hcompleted
    · exact hsus
  · intro t suspendFlag hwaiter ht hword
    have hsleeper : s.sleeper = some t := by
      unfold System.sleeper
      rw [hwaiter]
      rfl
    rcases (hgood.sleeps t hsleeper).2.2 with ⟨-, hout⟩ | ⟨hword', -⟩
    · exact hout.resolve_left (Timeout.not_suspended_of_live (Good.live_of_running ht))
    · cases hword.symm.trans hword'

section Two

/-- A thread waits with a timeout, which runs out; a handler that nests in the tick handler completes; and
the thread returns. -/
def lateDone (t : Fin 2) : List (Action (Fin 2) Unit) :=
  [.wait 100 .uninterruptible, .resume, .timerExpires t, .wakeup (some .eok), .timeoutFunc, .resume,
    .resume, .resume]

theorem completion_conserves_lateDone :
    ∃ (sched : SchedState (Fin 2)) (s : System (Fin 2) Unit),
      exec step (System.init sched) (lateDone 0) = some s ∧
      exec specStep ⟨false, .idle⟩ (observe step label (System.init sched) (lateDone 0)) =
        some s.token ∧ s.token = ⟨false, .idle⟩ ∧
      (observe step label (System.init sched) (lateDone 0)).countP Event.succeeds = 1 := by
  obtain ⟨sched, hsched, hinv, hset⟩ := Timeout.booted_twoThreads
  have hrun : ∀ sched ∈ exec Sched.step (SchedState.init (fun _ => 10) twoPriorities) twoThreads,
      (∃ s ∈ exec step (System.init sched : System (Fin 2) Unit) (lateDone 0),
        s.token = ⟨false, .idle⟩) ∧
      (observe step label (System.init sched) (lateDone 0)).countP Event.succeeds = 1 := by
    decide +kernel
  obtain ⟨⟨s, hs, htoken⟩, hcount⟩ := hrun sched hsched
  exact ⟨sched, s, hs, (completion_conserves hinv hset _ hs).1, htoken, hcount⟩

end Two

end N32L43x.Completion
