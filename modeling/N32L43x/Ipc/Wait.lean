import Mathlib.Data.BitVec
import N32L43x.Ipc.Err
import N32L43x.Lib.Circular
import N32L43x.Lib.Run

/-!
The loops in which a thread waits for a mailbox, a message queue, a memory pool or a data queue: woken, it
looks whether what it waits for is there, and waits again if another thread was faster.  How much of the
timeout the next wait asks for is counted by each of the functions in one of three ways.
-/

namespace N32L43x.Ipc.Wait

open N32L43x.Lib.Run N32L43x.Lib.Circular

/-! ### The loops -/

/-- Where a function takes the ticks that it has waited off its timeout. -/
inductive Counting
  /-- in the critical section in which it looks again -/
  | locked
  /-- before that critical section -/
  | unlocked
  | never
deriving DecidableEq

/-- What the loops differ in. -/
structure WaitLoop where
  counting : Counting
  /-- `thread->error` before the thread is suspended -/
  resetError : IpcErr
  /-- what is returned when no time is left -/
  noWait : IpcErr

/-- The functions. -/
inductive Function
  | rtMbSendWait
  | rtMbRecv
  | rtMqSendWait
  | rtMqRecv
  | rtMpAlloc
  | rtDataQueuePush
  | rtDataQueuePop
deriving DecidableEq

def Function.waitLoop : Function → WaitLoop
  | .rtMbSendWait => ⟨.locked, .eintr, .efull⟩
  | .rtMbRecv => ⟨.locked, .eintr, .etimeout⟩
  | .rtMqSendWait => ⟨.locked, .eintr, .efull⟩
  | .rtMqRecv => ⟨.locked, .eintr, .etimeout⟩
  | .rtMpAlloc => ⟨.unlocked, .eok, .etimeout⟩
  | .rtDataQueuePush => ⟨.never, .eok, .etimeout⟩
  | .rtDataQueuePop => ⟨.never, .eok, .etimeout⟩

/-- Where the call stands. -/
inductive Pc
  /-- before its first critical section -/
  | entry
  /-- suspended -/
  | asleep
  /-- ready again, before it reads `thread->error` -/
  | woken
  /-- before the next critical section -/
  | retry
  /-- done with the loop -/
  | returned (ret : IpcErr)
deriving DecidableEq

/-- A thread timer that was started: when, and for how many ticks. -/
structure Request where
  now : ℕ
  ticks : ℕ
deriving DecidableEq

/-- The local variables of the call and the tick; and history that the call does not read: the clock that
does not wrap around, the last suspension and the ticks it asked for, the time up to which the ticks are
taken off, and the timers started. -/
structure State where
  /-- `rt_tick` -/
  tick : BitVec 32
  /-- `timeout`, and `time` in `rt_mp_alloc` -/
  timeout : BitVec 32
  /-- `tick_delta`, and `before_sleep` in `rt_mp_alloc` -/
  tickDelta : BitVec 32
  /-- `thread->error` -/
  error : IpcErr
  pc : Pc
  now : ℕ
  since : ℕ
  waited : ℕ
  counted : ℕ
  requests : List Request

/-- A call that begins. -/
def State.init (tick timeout : BitVec 32) : State where
  tick := tick
  timeout := timeout
  tickDelta := 0#32
  error := .eok
  pc := .entry
  now := tick.toNat
  since := 0
  waited := 0
  counted := 0
  requests := []

/-- `timeout -= delta; if (timeout < 0) timeout = 0;`. -/
def timeoutLeft (timeout delta : BitVec 32) : BitVec 32 :=
  if (timeout - delta).toInt < 0 then 0#32 else timeout - delta

/-- The recalculation of the timeout. -/
def recalculate (s : State) : State :=
  if 0 < s.timeout.toInt then
    { s with timeout := timeoutLeft s.timeout (s.tick - s.tickDelta), counted := s.now }
  else s

/-- The timer that is started now. -/
def State.request (s : State) : Request := ⟨s.now, s.timeout.toNat⟩

/-- The thread is suspended, with a timer if the timeout is finite. -/
def suspend (f : WaitLoop) (s : State) : State :=
  let s := { s with error := f.resetError, pc := .asleep }
  if 0 < s.timeout.toInt then
    { s with
      tickDelta := s.tick
      since := s.now, waited := s.timeout.toNat, counted := s.now
      requests := s.requests ++ [s.request] }
  else s

/-- The condition of the loop, and its body up to the call of `rt_schedule`. -/
def look (f : WaitLoop) (s : State) (available : Bool) : State :=
  if available then { s with pc := .returned .eok }
  else if s.timeout = 0#32 then { s with pc := .returned f.noWait }
  else suspend f s

/-- What can happen next. -/
inductive Action
  /-- time passes -/
  | ticks (n : ℕ)
  /-- the call looks whether what it waits for is there -/
  | look (available : Bool)
  /-- somebody, or the timer, makes the thread ready -/
  | wake (threadError : IpcErr)
  /-- the thread runs again -/
  | resume
deriving DecidableEq

def step (f : WaitLoop) (s : State) : Action → Option State
  | .ticks n => some { s with tick := s.tick + BitVec.ofNat 32 n, now := s.now + n }
  | .look available =>
    match s.pc with
    | .entry => some (look f s available)
    | .retry => some (look f (if f.counting = .locked then recalculate s else s) available)
    | _ => none
  | .wake threadError =>
    if s.pc = .asleep then some { s with error := threadError, pc := .woken } else none
  | .resume =>
    if s.pc = .woken then
      if s.error = .eok then
        let s := { s with pc := .retry }
        some (if f.counting = .unlocked then recalculate s else s)
      else some { s with pc := .returned s.error }
    else none

/-! ### What is to hold -/

/-- No timer runs beyond `t` ticks from the first suspension. -/
def Bounded (t : ℕ) (requests : List Request) : Prop :=
  ∀ first ∈ requests.head?, ∀ r ∈ requests, r.now + r.ticks ≤ first.now + t

/-- The time up to which the call takes the ticks off when it looks again. -/
def countedAt (f : WaitLoop) (s : State) : ℕ :=
  if f.counting = .locked then s.now else s.counted

/-- The condition on a step.  When the call looks again in vain, the ticks counted since the suspension do
not exceed those asked for by more than half the range of the counter, up to the whole range; and if they
are fewer, no tick has passed that is not counted. -/
def Counted (f : WaitLoop) (s : State) : Action → Prop
  | .look false =>
    s.pc = .retry →
      (s.waited < countedAt f s - s.since →
        (countedAt f s - s.since - s.waited) % 0x100000000 ≤ 0x80000000) ∧
      (countedAt f s - s.since < s.waited → s.now = countedAt f s)
  | _ => True

instance Counted.decidable (f : WaitLoop) (s : State) : ∀ a, Decidable (Counted f s a)
  | .look false => inferInstanceAs (Decidable (_ = _ → _ ∧ _))
  | .look true | .ticks _ | .wake _ | .resume => isTrue trivial

/-! ### The arithmetic of the timeout -/

variable {w e : ℕ}

lemma toInt_pos_iff (x : BitVec 32) : 0 < x.toInt ↔ 0 < x.toNat ∧ x.toNat < 0x80000000 := by
  rw [BitVec.toInt_eq_toNat_cond]
  split <;> omega

/-- As long as not more was waited than asked for, the rest is left. -/
lemma timeoutLeft_of_le (hw : w < 0x80000000) (he : e ≤ w) :
    (timeoutLeft (BitVec.ofNat 32 w) (BitVec.ofNat 32 e)).toNat = w - e := by
  have hsub := toNat_ofNat_sub (w := 32) he (by omega)
  unfold timeoutLeft
  rw [if_neg]
  · exact hsub
  · rw [BitVec.toInt_eq_toNat_cond, hsub]
    omega

/-- Beyond that nothing is left, unless the difference wraps around. -/
lemma timeoutLeft_of_lt (hw : w < 0x80000000) (he : w < e) :
    (timeoutLeft (BitVec.ofNat 32 w) (BitVec.ofNat 32 e)).toNat = 0 ↔
      (e - w) % 0x100000000 ≤ 0x80000000 := by
  have hnat : (BitVec.ofNat 32 w - BitVec.ofNat 32 e).toNat =
      (0x100000000 - (e - w) % 0x100000000) % 0x100000000 := by
    rw [BitVec.toNat_sub, BitVec.toNat_ofNat, BitVec.toNat_ofNat]
    omega
  unfold timeoutLeft
  split
  · rename_i hlt
    rw [BitVec.toInt_eq_toNat_cond, hnat] at hlt
    simp only [BitVec.toNat_zero, true_iff]
    split at hlt <;> omega
  · rename_i hge
    rw [BitVec.toInt_eq_toNat_cond, hnat] at hge
    rw [hnat]
    split at hge <;> omega

lemma timeoutLeft_lt (timeout delta : BitVec 32) : (timeoutLeft timeout delta).toNat < 0x80000000 := by
  unfold timeoutLeft
  split
  · decide
  · rename_i hge
    rw [BitVec.toInt_eq_toNat_cond] at hge
    split at hge <;> omega

/-! ### The invariant -/

variable {f : WaitLoop} {s s' : State} {t : ℕ}

/-- The last suspension asked for ticks up to `deadline`. -/
structure Waiting (s : State) (deadline : ℕ) : Prop where
  period : 0 < s.waited ∧ s.waited < 0x80000000
  deadline : s.since + s.waited = deadline
  since : s.since ≤ s.counted ∧ s.counted ≤ s.now

/-- The timeout and the tick of the last suspension, as the call has them. -/
structure Kept (s : State) : Prop where
  timeout : s.timeout = BitVec.ofNat 32 s.waited
  tickDelta : s.tickDelta = BitVec.ofNat 32 s.since

/-- The invariant, where the first timer was started for `t` ticks. -/
structure Good (f : WaitLoop) (t : ℕ) (s : State) : Prop where
  tick : s.tick = BitVec.ofNat 32 s.now
  bounded : Bounded t s.requests
  entry : s.pc = .entry → s.requests = [] ∧ s.timeout.toNat = t ∧ 0 < s.timeout.toInt
  waiting : s.pc = .asleep ∨ s.pc = .woken ∨ s.pc = .retry →
    ∃ first ∈ s.requests.head?, Waiting s (first.now + t)
  kept : s.pc = .asleep ∨ s.pc = .woken ∨ s.pc = .retry ∧ f.counting ≠ .unlocked →
    Kept s ∧ s.counted = s.since
  left : s.pc = .retry → f.counting = .unlocked → s.timeout =
    timeoutLeft (BitVec.ofNat 32 s.waited) (BitVec.ofNat 32 (s.counted - s.since))

/-- Nobody takes a request back. -/
lemma requests_grow {a : Action} (hs : step f s a = some s') : s.requests <+: s'.requests := by
  have hsuspend : ∀ s : State, s.requests <+: (suspend f s).requests := by
    intro s
    unfold suspend
    simp only
    split
    · exact List.prefix_append ..
    · exact List.prefix_rfl
  have hrecalculate : ∀ s : State, (recalculate s).requests = s.requests := by
    intro s
    unfold recalculate
    split <;> rfl
  have hlook : ∀ (s : State) (available : Bool), s.requests <+: (look f s available).requests := by
    intro s available
    unfold look
    split
    · exact List.prefix_rfl
    split
    · exact List.prefix_rfl
    · exact hsuspend s
  cases a with
  | ticks n =>
    cases hs
    exact List.prefix_rfl
  | look available =>
    simp only [step] at hs
    split at hs
    · cases hs
      exact hlook s available
    · cases hs
      refine List.IsPrefix.trans ?_ (hlook _ available)
      split
      · rw [hrecalculate]
      · exact List.prefix_rfl
    · cases hs
  | wake threadError =>
    simp only [step] at hs
    split at hs
    · cases hs
      exact List.prefix_rfl
    · cases hs
  | resume =>
    simp only [step] at hs
    split at hs
    · split at hs <;> cases hs
      · split
        · rw [hrecalculate]
        · exact List.prefix_rfl
      · exact List.prefix_rfl
    · cases hs

lemma requests_grow_exec : ∀ (as : List Action) (s s' : State), exec (step f) s as = some s' →
    s.requests <+: s'.requests
  | [], s, s', hrun => by
    obtain rfl : s = s' := by simpa [exec] using hrun
    exact List.prefix_rfl
  | a :: as, s, s', hrun => by
    rcases hs : step f s a with _ | u
    · rw [exec_cons_none hs] at hrun
      cases hrun
    · rw [exec_cons_some hs] at hrun
      exact (requests_grow hs).trans (requests_grow_exec as u s' hrun)

lemma Bounded.of_append_left {rs rs' : List Request} (h : Bounded t rs') (hpre : rs <+: rs') :
    Bounded t rs := by
  intro first hfirst r hr
  obtain ⟨rest, rfl⟩ := hpre
  refine h first ?_ r (List.mem_append_left _ hr)
  rw [List.head?_append_of_ne_nil]
  · exact hfirst
  · exact List.ne_nil_of_mem hr

/-- A request that is added. -/
lemma bounded_append {rs : List Request} {first r : Request} (h : Bounded t rs)
    (hfirst : first ∈ rs.head?) : Bounded t (rs ++ [r]) ↔ r.now + r.ticks ≤ first.now + t := by
  have hhead : (rs ++ [r]).head? = rs.head? := by
    apply List.head?_append_of_ne_nil
    rintro rfl
    cases hfirst
  unfold Bounded
  rw [hhead]
  constructor
  · intro hall
    exact hall first hfirst r (by simp)
  · intro hle p hp q hq
    rcases List.mem_append.mp hq with hq | hq
    · exact h p hp q hq
    · obtain rfl := List.mem_singleton.mp hq
      obtain rfl : first = p := by
        rw [Option.mem_def] at hfirst hp
        exact Option.some.inj (hfirst.symm.trans hp)
      exact hle

lemma requests_suspend (hpos : 0 < s.timeout.toInt) :
    (suspend f s).requests = s.requests ++ [s.request] := by
  unfold suspend
  simp only [if_pos hpos]
  rfl

/-- A suspension with a timer that runs out when the first one would have. -/
lemma good_suspend (htick : s.tick = BitVec.ofNat 32 s.now) (hpos : 0 < s.timeout.toInt)
    (first : Request) (hfirst : first ∈ (s.requests ++ [s.request]).head?)
    (hbounded : Bounded t (s.requests ++ [s.request]))
    (hsum : s.now + s.timeout.toNat = first.now + t) : Good f t (suspend f s) := by
  have hreq := requests_suspend (f := f) hpos
  have hs : suspend f s = { s with
      error := f.resetError, pc := .asleep, tickDelta := s.tick, since := s.now
      waited := s.timeout.toNat, counted := s.now
      requests := s.requests ++ [s.request] } := by
    unfold suspend
    simp only [if_pos hpos]
    rfl
  rw [hs]
  refine ⟨htick, hbounded, nofun, fun _ => ⟨first, hfirst, ?_, hsum, ?_⟩,
    fun _ => ⟨⟨?_, htick⟩, rfl⟩, nofun⟩
  · exact (toInt_pos_iff _).mp hpos
  · exact ⟨le_refl _, le_refl _⟩
  · simp only
    rw [BitVec.ofNat_toNat, BitVec.setWidth_eq]

/-- A call that has returned. -/
lemma Good.returned (h : Good f t s) (ret : IpcErr) : Good f t { s with pc := .returned ret } where
  tick := h.tick
  bounded := h.bounded
  entry := nofun
  waiting := nofun
  kept := by
    rintro (hpc | hpc | hpc)
    · cases hpc
    · cases hpc
    · cases hpc.1
  left := nofun

/-- The timeout with which the call looks again. -/
lemma Good.timeout_retry (h : Good f t s) (hpc : s.pc = .retry) :
    (if f.counting = .locked then recalculate s else s).timeout =
      timeoutLeft (BitVec.ofNat 32 s.waited) (BitVec.ofNat 32 (countedAt f s - s.since)) := by
  obtain ⟨first, -, hwait⟩ := h.waiting (.inr (.inr hpc))
  have hw := hwait.period
  have hsince := hwait.since
  unfold countedAt
  by_cases hlocked : f.counting = .locked
  · obtain ⟨hkept, -⟩ := h.kept (.inr (.inr ⟨hpc, by rw [hlocked]; nofun⟩))
    have hpos : 0 < s.timeout.toInt := by
      rw [hkept.timeout, toInt_pos_iff, BitVec.toNat_ofNat, Nat.mod_eq_of_lt (by omega)]
      exact hw
    have hdelta : s.tick - s.tickDelta = BitVec.ofNat 32 (s.now - s.since) := by
      rw [h.tick, hkept.tickDelta]
      conv_lhs => rw [show s.now = s.now - s.since + s.since by omega]
      rw [BitVec.ofNat_add, BitVec.add_sub_cancel]
    rw [if_pos hlocked, if_pos hlocked]
    unfold recalculate
    rw [if_pos hpos, ← hkept.timeout, ← hdelta]
  · rw [if_neg hlocked, if_neg hlocked]
    by_cases hunlocked : f.counting = .unlocked
    · exact h.left hpc hunlocked
    · -- nothing is taken off
      obtain ⟨hkept, hcounted⟩ := h.kept (.inr (.inr ⟨hpc, hunlocked⟩))
      have hleft := timeoutLeft_of_le hw.2 (Nat.zero_le s.waited)
      apply BitVec.eq_of_toNat_eq
      rw [hcounted, Nat.sub_self, hleft, hkept.timeout, BitVec.toNat_ofNat]
      omega

/-- The call looks again in vain: it ends, or it waits no longer than it may, or beyond that. -/
lemma Good.look_retry (h : Good f t s) (hpc : s.pc = .retry) :
    (Counted f s (.look false) →
      Good f t (look f (if f.counting = .locked then recalculate s else s) false)) ∧
    (¬ Counted f s (.look false) →
      ¬ Bounded t (look f (if f.counting = .locked then recalculate s else s) false).requests) := by
  obtain ⟨first, hfirst, hwait⟩ := h.waiting (.inr (.inr hpc))
  obtain ⟨hpos, hw⟩ := hwait.period
  have hsum := hwait.deadline
  have hle : s.since ≤ countedAt f s ∧ countedAt f s ≤ s.now := by
    have hsince := hwait.since
    unfold countedAt
    split <;> omega
  have htimeout := h.timeout_retry hpc
  generalize hs₁ : (if f.counting = .locked then recalculate s else s) = s₁ at htimeout ⊢
  have hsame : s₁.requests = s.requests ∧ s₁.now = s.now ∧ s₁.tick = s.tick := by
    rw [← hs₁]
    split
    · unfold recalculate
      split <;> exact ⟨rfl, rfl, rfl⟩
    · exact ⟨rfl, rfl, rfl⟩
  obtain ⟨hreq, hnow, htick⟩ := hsame
  have hlt : s₁.timeout.toNat < 0x80000000 := by
    rw [htimeout]
    exact timeoutLeft_lt _ _
  -- what is left, in either case
  have hcounted : Counted f s (.look false) ↔
      (s.waited < countedAt f s - s.since →
        (countedAt f s - s.since - s.waited) % 0x100000000 ≤ 0x80000000) ∧
      (countedAt f s - s.since < s.waited → s.now = countedAt f s) :=
    ⟨fun hC => hC hpc, fun hC _ => hC⟩
  have hleft : s₁.timeout.toNat = 0 ∨ 0 < s₁.timeout.toNat := Nat.eq_zero_or_pos _
  have hiff : s₁.timeout.toNat = 0 ∧ Counted f s (.look false) ∨ 0 < s₁.timeout.toNat ∧
      (Counted f s (.look false) ↔ s.now + s₁.timeout.toNat ≤ first.now + t) ∧
      (Counted f s (.look false) → s.now + s₁.timeout.toNat = first.now + t) := by
    rw [hcounted]
    rcases le_or_gt (countedAt f s - s.since) s.waited with he | he
    · rw [htimeout, timeoutLeft_of_le hw he]
      omega
    · have hzero := timeoutLeft_of_lt hw he
      rw [← htimeout] at hzero
      omega
  rcases hiff with ⟨hzero, hC⟩ | ⟨hsome, hbounded, hexact⟩
  · have hlook : look f s₁ false = { s₁ with pc := .returned f.noWait } := by
      unfold look
      rw [if_neg nofun, if_pos (BitVec.eq_of_toNat_eq hzero)]
    refine ⟨fun _ => ?_, fun hnot => absurd hC hnot⟩
    rw [hlook]
    refine ⟨?_, ?_, nofun, nofun, ?_, nofun⟩
    · simp only
      rw [htick, hnow]
      exact h.tick
    · simp only
      rw [hreq]
      exact h.bounded
    · rintro (hret | hret | hret)
      · cases hret
      · cases hret
      · cases hret.1
  · have hne : s₁.timeout ≠ 0#32 := by
      intro h0
      rw [h0] at hsome
      exact absurd hsome (by decide)
    have hint : 0 < s₁.timeout.toInt := (toInt_pos_iff _).mpr ⟨hsome, hlt⟩
    have hlook : look f s₁ false = suspend f s₁ := by
      unfold look
      rw [if_neg nofun, if_neg hne]
    have happend := bounded_append (r := s₁.request) h.bounded hfirst
    unfold State.request at happend
    rw [hlook]
    constructor
    · intro hC
      refine good_suspend ?_ hint first ?_ ?_ ?_
      · rw [htick, hnow]
        exact h.tick
      · rw [hreq, List.head?_append_of_ne_nil]
        · exact hfirst
        · rintro hnil
          rw [hnil] at hfirst
          cases hfirst
      · unfold State.request
        rw [hreq, hnow]
        rw [hnow] at happend
        exact happend.mpr (hbounded.mp hC)
      · rw [hnow]
        exact hexact hC
    · intro hnot hall
      rw [requests_suspend hint, hreq] at hall
      unfold State.request at hall
      rw [hnow] at hall happend
      exact hnot (hbounded.mpr (happend.mp hall))

/-- The first time the call looks. -/
lemma Good.look_entry (h : Good f t s) (hpc : s.pc = .entry) (available : Bool) :
    Good f t (look f s available) := by
  obtain ⟨hreq, htimeout, hpos⟩ := h.entry hpc
  unfold look
  split
  · exact h.returned .eok
  split
  · exact h.returned f.noWait
  · refine good_suspend h.tick hpos s.request ?_ ?_ ?_
    · rw [hreq]
      rfl
    · rw [hreq]
      intro first hfirst r hr
      obtain rfl := List.mem_singleton.mp hr
      obtain rfl : s.request = first := Option.some.inj hfirst
      exact (congrArg (s.now + ·) htimeout).le
    · rw [htimeout]
      rfl

/-- A step that meets the condition keeps the invariant, and the requests show one that does not. -/
lemma Good.step_iff {a : Action} (h : Good f t s) (hs : step f s a = some s') :
    (Counted f s a → Good f t s') ∧ (¬ Counted f s a → ¬ Bounded t s'.requests) := by
  cases a with
  | ticks n =>
    cases hs
    refine ⟨fun _ => ⟨?_, h.bounded, h.entry, fun hpc => ?_, fun hpc => ?_, h.left⟩,
      fun hnot => absurd trivial hnot⟩
    · simp only
      rw [h.tick, BitVec.ofNat_add]
    · obtain ⟨first, hfirst, hwait⟩ := h.waiting hpc
      exact ⟨first, hfirst, hwait.period, hwait.deadline, hwait.since.1,
        Nat.le_add_right_of_le hwait.since.2⟩
    · obtain ⟨hkept, hcounted⟩ := h.kept hpc
      exact ⟨⟨hkept.timeout, hkept.tickDelta⟩, hcounted⟩
  | look available =>
    simp only [step] at hs
    split at hs
    · rename_i hpc
      cases hs
      refine ⟨fun _ => h.look_entry hpc available, fun hnot => absurd ?_ hnot⟩
      cases available with
      | false =>
        intro hretry
        rw [hpc] at hretry
        cases hretry
      | true => trivial
    · rename_i hpc
      cases hs
      cases available with
      | false => exact h.look_retry hpc
      | true =>
        refine ⟨fun _ => ?_, fun hnot => absurd trivial hnot⟩
        have hrecalc : Good f t { s with pc := .returned .eok } := h.returned .eok
        unfold look recalculate
        rw [if_pos rfl]
        split
        · split
          · exact ⟨h.tick, h.bounded, nofun, nofun, fun hpc => by simp at hpc, nofun⟩
          · exact hrecalc
        · exact hrecalc
    · cases hs
  | wake threadError =>
    simp only [step] at hs
    split at hs
    · rename_i hpc
      cases hs
      obtain ⟨hkept, hcounted⟩ := h.kept (.inl hpc)
      obtain ⟨first, hfirst, hwait⟩ := h.waiting (.inl hpc)
      refine ⟨fun _ => ⟨h.tick, h.bounded, nofun, fun _ => ⟨first, hfirst, ?_⟩, fun _ => ?_, nofun⟩,
        fun hnot => absurd trivial hnot⟩
      · exact ⟨hwait.period, hwait.deadline, hwait.since⟩
      · exact ⟨⟨hkept.timeout, hkept.tickDelta⟩, hcounted⟩
    · cases hs
  | resume =>
    refine ⟨fun _ => ?_, fun hnot => absurd trivial hnot⟩
    simp only [step] at hs
    split at hs
    · rename_i hpc
      obtain ⟨hkept, hcounted⟩ := h.kept (.inr (.inl hpc))
      obtain ⟨first, hfirst, hwait⟩ := h.waiting (.inr (.inl hpc))
      split at hs <;> cases hs
      · by_cases hunlocked : f.counting = .unlocked
        · rw [if_pos hunlocked]
          have hpos : 0 < s.timeout.toInt := by
            have hw := hwait.period
            rw [hkept.timeout, toInt_pos_iff, BitVec.toNat_ofNat, Nat.mod_eq_of_lt (by omega)]
            exact hw
          have hsince := hwait.since
          have hdelta : s.tick - s.tickDelta = BitVec.ofNat 32 (s.now - s.since) := by
            rw [h.tick, hkept.tickDelta]
            conv_lhs => rw [show s.now = s.now - s.since + s.since by omega]
            rw [BitVec.ofNat_add, BitVec.add_sub_cancel]
          unfold recalculate
          rw [if_pos hpos]
          refine ⟨h.tick, h.bounded, nofun, fun _ => ⟨first, hfirst, hwait.period, hwait.deadline, ?_⟩,
            fun hpc' => ?_, fun _ _ => ?_⟩
          · exact ⟨hsince.1.trans hsince.2, le_refl _⟩
          · rcases hpc' with hpc' | hpc' | hpc'
            · cases hpc'
            · cases hpc'
            · exact absurd hunlocked hpc'.2
          · simp only
            rw [hdelta, hkept.timeout]
        · rw [if_neg hunlocked]
          refine ⟨h.tick, h.bounded, nofun, fun _ => ⟨first, hfirst, ?_⟩, fun _ => ?_,
            fun _ hun => absurd hun hunlocked⟩
          · exact ⟨hwait.period, hwait.deadline, hwait.since⟩
          · exact ⟨⟨hkept.timeout, hkept.tickDelta⟩, hcounted⟩
      · exact h.returned s.error
    · cases hs

/-! ### Runs -/

lemma good_init (tick timeout : BitVec 32) (hpos : 0 < timeout.toInt) :
    Good f timeout.toNat (State.init tick timeout) where
  tick := by
    unfold State.init
    simp only
    rw [BitVec.ofNat_toNat, BitVec.setWidth_eq]
  bounded := fun _ hfirst => by cases hfirst
  entry _ := ⟨rfl, rfl, hpos⟩
  waiting := by
    rintro (hpc | hpc | hpc) <;> cases hpc
  kept := by
    rintro (hpc | hpc | hpc)
    · cases hpc
    · cases hpc
    · cases hpc.1
  left := nofun

/-- **The total wait.**  For every function and every finite timeout: in a run of a call, no timer that it
starts runs beyond the timeout from the first suspension if and only if, whenever it looks again in vain,
the ticks since the suspension are counted and do not wrap around. -/
theorem bounded_iff_counted (fn : Function) (tick timeout : BitVec 32) (hpos : 0 < timeout.toInt)
    (as : List Action) (s : State)
    (hrun : exec (step fn.waitLoop) (State.init tick timeout) as = some s) :
    Bounded timeout.toNat s.requests ↔
      Along (step fn.waitLoop) (Counted fn.waitLoop) (State.init tick timeout) as := by
  have hexact := states_iff_along (I := Good fn.waitLoop timeout.toNat)
    (Q := fun s => Bounded timeout.toNat s.requests) (C := Counted fn.waitLoop)
    (fun s a s' h hC hs => (h.step_iff hs).1 hC) (fun s a s' h hC hs => (h.step_iff hs).2 hC)
    (fun _ h => h.bounded) as _ s (good_init tick timeout hpos) hrun
  rw [← hexact]
  constructor
  · intro hbounded bs hbs u hu
    obtain ⟨rest, rfl⟩ := hbs
    rw [exec_append_some hu] at hrun
    exact hbounded.of_append_left (requests_grow_exec rest u s hrun)
  · intro hall
    exact hall as List.prefix_rfl s hrun

/-- The thread is woken twice in time, and finds what it waits for taken each time. -/
def wokenTwice : List Action :=
  [.look false, .ticks 4, .wake .eok, .resume, .look false, .ticks 3, .wake .eok, .resume, .look false]

theorem bounded_iff_counted_wokenTwice : ∃ s,
    exec (step Function.rtMbRecv.waitLoop) (State.init 0xfffffffe#32 10#32) wokenTwice = some s ∧
      s.requests = [⟨0xfffffffe, 10⟩, ⟨0x100000002, 6⟩, ⟨0x100000005, 3⟩] ∧
      Bounded 10 s.requests := by
  have hC : Along (step Function.rtMbRecv.waitLoop) (Counted Function.rtMbRecv.waitLoop)
      (State.init 0xfffffffe#32 10#32) wokenTwice := by
    decide +kernel
  have hrun : ∃ s ∈ exec (step Function.rtMbRecv.waitLoop) (State.init 0xfffffffe#32 10#32) wokenTwice,
      s.requests = [⟨0xfffffffe, 10⟩, ⟨0x100000002, 6⟩, ⟨0x100000005, 3⟩] := by
    decide +kernel
  obtain ⟨s, hs, hreq⟩ := hrun
  exact ⟨s, hs, hreq, (bounded_iff_counted .rtMbRecv _ _ (by decide) _ s hs).mpr hC⟩

/-- A data queue asks for the whole timeout again; a memory pool does not count a tick between the
recalculation and the critical section; and a mailbox asks for more than before when the thread has not run
for more than half the range of the counter. -/
theorem waits_too_long :
    (∃ s, exec (step Function.rtDataQueuePop.waitLoop) (State.init 0#32 10#32)
        [.look false, .ticks 5, .wake .eok, .resume, .look false] = some s ∧
      s.requests = [⟨0, 10⟩, ⟨5, 10⟩] ∧ ¬ Bounded 10 s.requests) ∧
    (∃ s, exec (step Function.rtMpAlloc.waitLoop) (State.init 0#32 10#32)
        [.look false, .ticks 5, .wake .eok, .resume, .ticks 1, .look false] = some s ∧
      s.requests = [⟨0, 10⟩, ⟨6, 5⟩] ∧ ¬ Bounded 10 s.requests) ∧
    ∃ s, exec (step Function.rtMbRecv.waitLoop) (State.init 0#32 10#32)
        [.look false, .wake .eok, .ticks 0x8000000b, .resume, .look false] = some s ∧
      s.requests = [⟨0, 10⟩, ⟨0x8000000b, 0x7fffffff⟩] ∧ ¬ Bounded 10 s.requests := by
  have htwo : ∀ q r : Request, r.now + r.ticks > q.now + 10 → ¬ Bounded 10 [q, r] := by
    intro q r hlt hall
    exact absurd (hall q rfl r (by simp)) (Nat.not_le.mpr hlt)
  refine ⟨⟨_, rfl, rfl, htwo _ _ (by decide)⟩, ⟨_, rfl, rfl, htwo _ _ (by decide)⟩, _, rfl, rfl, ?_⟩
  exact htwo _ _ (by decide)

end N32L43x.Ipc.Wait
