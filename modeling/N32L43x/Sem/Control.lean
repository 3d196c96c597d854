import N32L43x.Ipc.Timeout
import N32L43x.Sem.Conserve

/-!
`rt_sem_init` and `rt_sem_control`, beside the calls that take and release: when the value of a
semaphore is within its limit, and one that is not zero means that no thread waits.
-/

namespace N32L43x.Sem.Control

open N32L43x.Sched N32L43x.Ipc N32L43x.Lib.Run

/-- A command of `rt_sem_control`, with its argument. -/
inductive Cmd where
  /-- `RT_IPC_CMD_RESET` -/
  | reset (arg : ℕ)
  /-- `RT_IPC_CMD_SET_VLIMIT` -/
  | setVlimit (arg : ℕ)

/-- `RT_SEM_VALUE_MAX`. -/
def rtSemValueMax : ℕ := 65535

/-- `rt_sem_init` and `rt_sem_create`, without the suspend list. -/
def rtSemInit (value : ℕ) (flag : IpcFlag) : Semaphore :=
  { value := value % 0x10000, maxValue := rtSemValueMax, flag := flag }

variable {Tid Oid : Type} [DecidableEq Tid] [DecidableEq Oid]

omit [DecidableEq Oid] in
/-- `rt_sem_control` up to the end of its critical section: what it returns, and `need_schedule`. -/
def rtSemControl (k : Kernel Tid Oid) (sem : Semaphore) (o : Oid) :
    Cmd → Kernel Tid Oid × Semaphore × IpcErr × Bool
  | .reset arg =>
    let k := k.rtSpinLock.rtSuspListResumeAll (.sem o) .error
    (k.rtSpinUnlock, { sem with value := arg % 0x10000 }, .eok, true)
  | .setVlimit arg =>
    let maxValue := arg % 0x10000
    if rtSemValueMax < maxValue ∨ maxValue < 1 then (k, sem, .einval, false)
    else
      let k := k.rtSpinLock
      let needSchedule := decide (maxValue < sem.value ∧ k.suspendThread (.sem o) ≠ [])
      let k := if needSchedule then k.rtSuspListResumeAll (.sem o) .error else k
      (k.rtSpinUnlock, { sem with maxValue := maxValue }, .eok, needSchedule)

/-- What can happen next.  Who initialises a semaphore or calls `rt_sem_control` is left open. -/
inductive Action (Tid Oid : Type) where
  | base (a : Sem.Action Tid Oid)
  /-- `rt_sem_init` or `rt_sem_create`, of a semaphore that nobody waits for -/
  | init (o : Oid) (value : ℕ) (flag : IpcFlag)
  | control (o : Oid) (cmd : Cmd)
  /-- the call of `rt_schedule` at the end of `rt_sem_control` -/
  | schedule

/-- One step of the system. -/
def step (s : System Tid Oid) : Action Tid Oid → Option (System Tid Oid)
  | .base a => Sem.step s a
  | .init o value flag =>
    if s.kernel.suspendThread (.sem o) = [] then
      some { s with sem := Function.update s.sem o (rtSemInit value flag) }
    else none
  | .control o cmd =>
    let (kernel, sem, _, _) := rtSemControl s.kernel (s.sem o) o cmd
    some { s with kernel := kernel, sem := Function.update s.sem o sem }
  | .schedule => some { s with kernel := s.kernel.rtSchedule }

/-! ### What is to hold -/

variable {s s' : System Tid Oid} {t : Tid} {o : Oid} {k k' : Kernel Tid Oid} {sem : Semaphore}
  {firing : Option Tid}

omit [DecidableEq Tid] [DecidableEq Oid] in
/-- What is to hold of one semaphore. -/
def SoundAt (k : Kernel Tid Oid) (sem : Semaphore) (o : Oid) : Prop :=
  sem.value ≤ sem.maxValue ∧ (0 < sem.value → k.suspendThread (.sem o) = [])

/-- What is to hold of all of them. -/
def Sound (s : System Tid Oid) : Prop := ∀ o, SoundAt s.kernel (s.sem o) o

/-- The condition: the new value is within the limit, the new limit is not below the value, and a value
that is not zero is set only when the timer of every thread that waits can still be stopped. -/
def Respectful (s : System Tid Oid) : Action Tid Oid → Prop
  | .control o (.reset arg) =>
    arg % 0x10000 ≤ (s.sem o).maxValue ∧
      (0 < arg % 0x10000 → ∀ t ∈ s.kernel.suspendThread (.sem o), s.kernel.TimerLive t)
  | .control o (.setVlimit arg) => 1 ≤ arg % 0x10000 → (s.sem o).value ≤ arg % 0x10000
  | _ => True

omit [DecidableEq Tid] [DecidableEq Oid] in
/-- A semaphore that is left alone, while no thread joins its list. -/
lemma SoundAt.shrinks (h : SoundAt k sem o) (hk : k.Shrinks k') : SoundAt k' sem o :=
  ⟨h.1, fun hvalue => hk.eq_nil (h.2 hvalue)⟩

/-- The invariant. -/
structure Good (s : System Tid Oid) : Prop where
  timed : Timed s.kernel s.firing
  sound : Sound s

namespace Good

omit [DecidableEq Tid] [DecidableEq Oid] in
lemma keep (h : Good s) (htimed : Timed s'.kernel s'.firing) (hk : s.kernel.Shrinks s'.kernel)
    (hsem : s'.sem = s.sem) : Good s' := by
  refine ⟨htimed, fun o => ?_⟩
  rw [hsem]
  exact (h.sound o).shrinks hk

omit [DecidableEq Tid] in
/-- A step that writes one semaphore. -/
lemma write (h : Good s) (htimed : Timed s'.kernel s'.firing)
    (hk : ∀ o', o' ≠ o → ∀ u, u ∈ s'.kernel.suspendThread (.sem o') →
      u ∈ s.kernel.suspendThread (.sem o'))
    (hsem : s'.sem = Function.update s.sem o sem) (ho : SoundAt s'.kernel sem o) : Good s' := by
  refine ⟨htimed, fun o' => ?_⟩
  rw [hsem]
  by_cases ho' : o' = o
  · subst ho'
    rw [Function.update_self]
    exact ho
  · rw [Function.update_of_ne ho']
    refine ⟨(h.sound o').1, fun hvalue => ?_⟩
    apply List.eq_nil_iff_forall_not_mem.mpr
    intro u hu
    have hmem := hk o' ho' u hu
    rw [(h.sound o').2 hvalue] at hmem
    cases hmem

/-! ### Taking and releasing -/

/-- `_rt_sem_take` that does not wait. -/
lemma take_at_once (h : Good s) (o : Oid) {timeout : ℤ} {suspendFlag : SuspendFlag}
    (hnow : 0 < (s.sem o).value ∨ timeout = 0) {s' : System Tid Oid}
    (hkernel : s'.kernel = (rtSemTake s.kernel (s.sem o) t o timeout suspendFlag).1)
    (hsem : s'.sem = Function.update s.sem o (rtSemTake s.kernel (s.sem o) t o timeout suspendFlag).2.1)
    (hfire' : s'.firing = s.firing) : Good s' := by
  have hinv := h.timed.inv
  have hcases : ∃ k' sem', s.kernel.Quiet k' ∧ s'.kernel = k' ∧
      s'.sem = Function.update s.sem o sem' ∧ sem'.value ≤ (s.sem o).value ∧
      sem'.maxValue = (s.sem o).maxValue := by
    by_cases hvalue : 0 < (s.sem o).value
    · obtain ⟨k', hq, htake⟩ := rtSemTake_of_value (t := t) hinv hvalue timeout suspendFlag
      rw [htake] at hkernel hsem
      exact ⟨k', _, hq, hkernel, hsem, Nat.sub_le _ 1, rfl⟩
    · obtain rfl := hnow.resolve_left hvalue
      obtain ⟨k', hq, htake⟩ := rtSemTake_of_zero (t := t) hinv hvalue suspendFlag
      rw [htake] at hkernel hsem
      exact ⟨k', _, hq, hkernel, hsem, le_refl _, rfl⟩
  obtain ⟨k', sem', hq, rfl, hsem', hvalue, hmax⟩ := hcases
  refine h.write ?_ (fun o' _ u hu => hq.shrinks _ u hu) hsem' ⟨?_, fun hpos => ?_⟩
  · rw [hfire']
    exact h.timed.quiet hq
  · have hle := (h.sound o).1
    omega
  · exact hq.shrinks.eq_nil ((h.sound o).2 (hpos.trans_le hvalue))

/-- `_rt_sem_take` of the running thread. -/
lemma take (h : Good s) (hfire : s.firing = none) (hlive : (s.kernel.look t).life = .live) (o : Oid)
    (timeout : ℤ) (suspendFlag : SuspendFlag) {s' : System Tid Oid}
    (hkernel : s'.kernel = (rtSemTake s.kernel (s.sem o) t o timeout suspendFlag).1)
    (hsem : s'.sem = Function.update s.sem o (rtSemTake s.kernel (s.sem o) t o timeout suspendFlag).2.1)
    (hfire' : s'.firing = s.firing) : Good s' := by
  by_cases hnow : 0 < (s.sem o).value ∨ timeout = 0
  · exact h.take_at_once o hnow hkernel hsem hfire'
  · obtain ⟨hvalue, htimeout⟩ := not_or.mp hnow
    have hsus : ¬ s.kernel.Suspended t := not_suspended_of_live hlive
    obtain ⟨k', htake, hw⟩ := rtSemTake_of_wait (t := t) h.timed.inv hvalue htimeout hlive
      ((h.timed.at_thread t).not_active hsus) suspendFlag
    rw [htake] at hkernel hsem
    obtain rfl : s'.kernel = k' := hkernel
    refine h.write ?_ (fun o' ho' u hu => ?_) hsem ⟨(h.sound o).1, fun hpos => absurd hpos hvalue⟩
    · rw [hfire']
      refine h.timed.suspend ?_ _ hw.inv hw.look hw.timerActive fun u l hut hu => ?_
      · rw [hfire]
        nofun
      · rw [hw.suspendThread] at hu
        by_cases hl : l = .sem o
        · subst hl
          rw [Function.update_self, Kernel.mem_enqueued] at hu
          exact hu.resolve_left hut
        · rwa [Function.update_of_ne hl] at hu
    · rw [hw.suspendThread, Function.update_of_ne (by simpa using ho')] at hu
      exact hu

/-- `rt_sem_release`, by anyone. -/
lemma release (h : Good s) (o : Oid) {s' : System Tid Oid}
    (hkernel : s'.kernel = (rtSemRelease s.kernel (s.sem o) o).1 ∨
      s'.kernel = (rtSemRelease s.kernel (s.sem o) o).1.rtSchedule)
    (hsem : s'.sem = Function.update s.sem o (rtSemRelease s.kernel (s.sem o) o).2.1)
    (hfire : s'.firing = s.firing) : Good s' := by
  have hlock := Kernel.quiet_rtSpinLock h.timed.inv
  have hstep : Timed (rtSemRelease s.kernel (s.sem o) o).1 s.firing ∧
      s.kernel.Shrinks (rtSemRelease s.kernel (s.sem o) o).1 ∧
      SoundAt (rtSemRelease s.kernel (s.sem o) o).1 (rtSemRelease s.kernel (s.sem o) o).2.1 o := by
    rcases hl : s.kernel.suspendThread (.sem o) with _ | ⟨t, rest⟩
    · obtain ⟨k', hq, hrel⟩ := rtSemRelease_of_nil (s.sem o) h.timed.inv hl
      have hnil : k'.suspendThread (.sem o) = [] := by
        rw [hq.suspendThread]
        exact hl
      have hle := (h.sound o).1
      rw [hrel]
      split <;> refine ⟨h.timed.quiet hq, hq.shrinks, ?_, fun _ => hnil⟩ <;> simp only <;> omega
    · have hrel : rtSemRelease s.kernel (s.sem o) o =
          ((s.kernel.rtSpinLock.rtSuspListDequeue (.sem o) .eok).1.rtSpinUnlock, s.sem o, .eok, true) := by
        unfold rtSemRelease
        simp only [show s.kernel.rtSpinLock.suspendThread (.sem o) = t :: rest from hl]
      have hdeq := (h.timed.quiet hlock).rtSuspListDequeue (.sem o) .eok
      have hunlock := Kernel.quiet_rtSpinUnlock hdeq.inv
      have hshrinks := (hlock.shrinks.trans
        (Kernel.shrinks_rtSuspListDequeue s.kernel.rtSpinLock (.sem o) .eok)).trans hunlock.shrinks
      rw [hrel]
      exact ⟨hdeq.quiet hunlock, hshrinks, (h.sound o).shrinks hshrinks⟩
  obtain ⟨htimed, hshrinks, hsound⟩ := hstep
  rcases hkernel with hkernel | hkernel
  · refine h.write ?_ (fun o' _ u hu => ?_) hsem ?_ <;> rw [hkernel] at *
    · rw [hfire]
      exact htimed
    · exact hshrinks _ u hu
    · exact hsound
  · have hq := Kernel.quiet_rtSchedule htimed.inv
    refine h.write ?_ (fun o' _ u hu => ?_) hsem ?_ <;> rw [hkernel] at *
    · rw [hfire]
      exact htimed.quiet hq
    · exact hshrinks _ u (hq.shrinks _ u hu)
    · exact hsound.shrinks hq.shrinks

end Good

/-! ### The control commands -/

omit [DecidableEq Oid] in
/-- `rt_susp_list_resume_all` in a critical section. -/
lemma resumeAll_spec (h : Timed k firing) (l : SuspList Oid) :
    Timed (k.rtSpinLock.rtSuspListResumeAll l .error).rtSpinUnlock firing ∧
      k.Shrinks (k.rtSpinLock.rtSuspListResumeAll l .error).rtSpinUnlock ∧
      ((k.rtSpinLock.rtSuspListResumeAll l .error).rtSpinUnlock.suspendThread l = [] ↔
        ∀ t ∈ k.suspendThread l, k.TimerLive t) := by
  have hlock := Kernel.quiet_rtSpinLock h.inv
  have hlocked := h.quiet hlock
  have hall : Timed (k.rtSpinLock.rtSuspListResumeAll l .error) firing :=
    hlocked.resumeLoop l .error _
  have hunlock := Kernel.quiet_rtSpinUnlock hall.inv
  have hsus : ∀ t ∈ k.rtSpinLock.suspendThread l, k.rtSpinLock.Suspended t :=
    fun t ht => hlocked.mem ht
  refine ⟨hall.quiet hunlock, (hlock.shrinks.trans
    (Kernel.shrinks_resumeLoop l .error _ k.rtSpinLock)).trans hunlock.shrinks, ?_⟩
  rw [hunlock.suspendThread]
  constructor
  · intro hnil
    by_contra hlate
    push Not at hlate
    exact Kernel.resumeLoop_ne_nil l .error _ hsus hlate hnil
  · intro hlive
    exact Kernel.resumeLoop_eq_nil l .error (Nat.lt_succ_self _) hsus hlive

omit [DecidableEq Oid] in
/-- What `rt_sem_control` leaves, and when it keeps what is to hold. -/
lemma rtSemControl_spec (htimed : Timed k firing) (hsound : SoundAt k sem o) (cmd : Cmd) :
    Timed (rtSemControl k sem o cmd).1 firing ∧ k.Shrinks (rtSemControl k sem o cmd).1 ∧
      (SoundAt (rtSemControl k sem o cmd).1 (rtSemControl k sem o cmd).2.1 o ↔
        match cmd with
        | .reset arg => arg % 0x10000 ≤ sem.maxValue ∧
          (0 < arg % 0x10000 → ∀ t ∈ k.suspendThread (.sem o), k.TimerLive t)
        | .setVlimit arg => 1 ≤ arg % 0x10000 → sem.value ≤ arg % 0x10000) := by
  obtain ⟨hall, hshrinks, hnil⟩ := resumeAll_spec htimed (.sem o)
  cases cmd with
  | reset arg =>
    refine ⟨hall, hshrinks, ?_⟩
    unfold SoundAt rtSemControl
    simp only
    rw [hnil]
  | setVlimit arg =>
    unfold rtSemControl
    by_cases hvalid : rtSemValueMax < arg % 0x10000 ∨ arg % 0x10000 < 1
    · -- the argument is rejected
      simp only [if_pos hvalid]
      have hzero : ¬ 1 ≤ arg % 0x10000 := by
        unfold rtSemValueMax at hvalid
        omega
      exact ⟨htimed, fun _ _ hu => hu, iff_of_true hsound fun h => absurd h hzero⟩
    · simp only [if_neg hvalid]
      have hone : 1 ≤ arg % 0x10000 := by omega
      by_cases hneed : arg % 0x10000 < sem.value ∧ k.rtSpinLock.suspendThread (.sem o) ≠ []
      · rw [if_pos (decide_eq_true hneed)]
        refine ⟨hall, hshrinks, iff_of_false (fun h => ?_) fun h => ?_⟩
        · exact absurd h.1 (Nat.not_le.mpr hneed.1)
        · exact absurd (h hone) (Nat.not_le.mpr hneed.1)
      · rw [if_neg (by simpa using hneed)]
        have hq := Kernel.quiet_critical htimed.inv
        refine ⟨htimed.quiet hq, hq.shrinks, ?_⟩
        constructor
        · exact fun h _ => h.1
        · intro h
          exact ⟨h hone, fun hvalue => hq.shrinks.eq_nil (hsound.2 hvalue)⟩

/-! ### Steps -/

namespace Good

/-- A step of a thread, up to the scheduler. -/
lemma resume (h : Good s) (hs : Sem.resume s t = some s') : Good s' := by
  have hq := Kernel.quiet_rtSchedule h.timed.inv
  have hsame : s.kernel.Shrinks s.kernel := fun _ _ hu => hu
  unfold Sem.resume at hs
  split at hs <;> cases hs
  · exact h.keep (h.timed.quiet hq) hq.shrinks rfl
  · exact h.keep h.timed hsame rfl
  · exact h.keep h.timed hsame rfl
  · exact h.keep (h.timed.quiet hq) hq.shrinks rfl
  · exact h.keep h.timed hsame rfl

/-- The calls that take and release, and the tick handler. -/
lemma base (h : Good s) {a : Sem.Action Tid Oid} (hs : Sem.step s a = some s') : Good s' := by
  cases a with
  | take o timeout suspendFlag =>
    simp only [Sem.step, Option.bind_eq_some_iff] at hs
    obtain ⟨t, hrun, hs⟩ := hs
    obtain ⟨hfire, -, hlive⟩ := running_eq_some hrun
    split at hs
    · cases hs
      exact h.take hfire hlive o timeout suspendFlag rfl rfl rfl
    · cases hs
  | release o =>
    simp only [Sem.step, Option.bind_eq_some_iff] at hs
    obtain ⟨t, -, hs⟩ := hs
    split at hs
    · cases hs
      exact h.release o (.inl rfl) rfl rfl
    · cases hs
  | resume =>
    simp only [Sem.step, Option.bind_eq_some_iff] at hs
    obtain ⟨t, -, hs⟩ := hs
    exact h.resume hs
  | isrTrytake o =>
    simp only [Sem.step, Option.bind_eq_some_iff] at hs
    obtain ⟨t, -, hs⟩ := hs
    cases hs
    exact h.take_at_once o (.inr rfl) rfl rfl rfl
  | isrRelease o =>
    have hkernel : ∀ needSchedule : Bool,
        (if needSchedule then (rtSemRelease s.kernel (s.sem o) o).1.rtSchedule
          else (rtSemRelease s.kernel (s.sem o) o).1) = (rtSemRelease s.kernel (s.sem o) o).1 ∨
        (if needSchedule then (rtSemRelease s.kernel (s.sem o) o).1.rtSchedule
          else (rtSemRelease s.kernel (s.sem o) o).1) =
          (rtSemRelease s.kernel (s.sem o) o).1.rtSchedule := by
      intro needSchedule
      cases needSchedule with
      | false => exact .inl rfl
      | true => exact .inr rfl
    cases hs
    exact h.release o (hkernel _) rfl rfl
  | timerExpires t =>
    simp only [Sem.step] at hs
    split at hs
    · rename_i hexp
      cases hs
      have htimed := h.timed
      rw [hexp.1] at htimed
      exact h.keep (htimed.expires hexp.2) (fun _ _ hu => hu) rfl
    · cases hs
  | timeoutFunc =>
    simp only [Sem.step, Option.map_eq_some_iff] at hs
    obtain ⟨t, hfire, rfl⟩ := hs
    have htimed := h.timed
    rw [hfire] at htimed
    have hout := htimed.timesOut_threadTimeout
    exact h.keep (htimed.timesOut hout) hout.shrinks rfl
  | tickIncrease =>
    simp only [Sem.step, Option.map_eq_some_iff] at hs
    obtain ⟨t, hcur, rfl⟩ := hs
    have hq := Kernel.quiet_rtSchedTickIncrease h.timed.inv hcur
    exact h.keep (h.timed.quiet hq) hq.shrinks rfl

/-- A step within the condition keeps the invariant, and the next state shows one that is not. -/
lemma step_iff (h : Good s) {a : Action Tid Oid} (hs : step s a = some s') :
    Timed s'.kernel s'.firing ∧ (Sound s' ↔ Respectful s a) := by
  cases a with
  | base a =>
    have h' := h.base hs
    exact ⟨h'.timed, iff_of_true h'.sound trivial⟩
  | init o value flag =>
    simp only [step] at hs
    split at hs
    · rename_i hnil
      cases hs
      have hle : value % 0x10000 ≤ rtSemValueMax := by
        unfold rtSemValueMax
        omega
      have h' : Good { s with sem := Function.update s.sem o (rtSemInit value flag) } :=
        h.write h.timed (fun _ _ _ hu => hu) rfl ⟨hle, fun _ => hnil⟩
      exact ⟨h'.timed, iff_of_true h'.sound trivial⟩
    · cases hs
  | control o cmd =>
    obtain ⟨htimed, hshrinks, hiff⟩ := rtSemControl_spec h.timed (h.sound o) cmd
    cases hs
    refine ⟨htimed, ?_⟩
    have hresp : Respectful s (.control o cmd) ↔ SoundAt (rtSemControl s.kernel (s.sem o) o cmd).1
        (rtSemControl s.kernel (s.sem o) o cmd).2.1 o := by
      rw [hiff]
      cases cmd <;> exact Iff.rfl
    rw [hresp]
    constructor
    · intro hsound
      have ho := hsound o
      simp only [Function.update_self] at ho
      exact ho
    · intro ho
      exact (h.write (o := o) htimed (fun o' _ u hu => hshrinks _ u hu) rfl ho).sound
  | schedule =>
    cases hs
    have hq := Kernel.quiet_rtSchedule h.timed.inv
    have h' : Good { s with kernel := s.kernel.rtSchedule } :=
      h.keep (h.timed.quiet hq) hq.shrinks rfl
    exact ⟨h'.timed, iff_of_true h'.sound trivial⟩

end Good

/-! ### Runs -/

omit [DecidableEq Tid] [DecidableEq Oid] in
lemma good_init {sched : SchedState Tid} (hinv : Inv sched) (hset : ∀ t, (sched.look t).ttmrSet = false)
    (value : Oid → ℕ) (flag : Oid → IpcFlag) :
    Good (System.init sched fun o => rtSemInit (value o) (flag o)) where
  timed :=
    { inv := hinv
      at_thread := fun t =>
        { mem := fun _ hmem => absurd hmem List.not_mem_nil
          timed := fun _ hset' => absurd ((hset t).symm.trans hset') Bool.false_ne_true
          active := nofun
          fires := nofun
          fresh := fun _ => hset t } }
  sound := by
    intro o
    refine ⟨?_, fun _ => rfl⟩
    unfold System.init rtSemInit rtSemValueMax
    simp only
    omega

/-- **The value and the limit.**  In a run that begins with initialised semaphores, every state has each
value within its limit, and no thread waiting where the value is not zero, if and only if every
`rt_sem_control` meets the condition. -/
theorem sound_iff_respectful {sched : SchedState Tid} (hinv : Inv sched)
    (hset : ∀ t, (sched.look t).ttmrSet = false) (value : Oid → ℕ) (flag : Oid → IpcFlag)
    (as : List (Action Tid Oid)) (s : System Tid Oid)
    (hrun : exec step (System.init sched fun o => rtSemInit (value o) (flag o)) as = some s) :
    (∀ bs, bs <+: as → ∀ s', exec step (System.init sched fun o => rtSemInit (value o) (flag o)) bs =
      some s' → Sound s') ↔
    Along step Respectful (System.init sched fun o => rtSemInit (value o) (flag o)) as := by
  refine states_iff_along (I := Good) ?_ ?_ (fun _ h => h.sound) as _ s (good_init hinv hset value flag)
    hrun
  · intro s a s' h hC hs
    obtain ⟨htimed, hiff⟩ := h.step_iff hs
    exact ⟨htimed, hiff.mpr hC⟩
  · intro s a s' h hC hs hsound
    exact hC ((h.step_iff hs).2.mp hsound)

section Two

instance Respectful.decidable (s : System (Fin 2) Unit) : ∀ a, Decidable (Respectful s a)
  | .control _ (.reset _) => inferInstanceAs (Decidable (_ ∧ (_ → ∀ t ∈ _, _ → _ = _)))
  | .control _ (.setVlimit _) => inferInstanceAs (Decidable (_ → _ ≤ _))
  | .base _ | .init _ _ _ | .schedule => isTrue trivial

/-- A thread waits with a timeout, and another one sets the value to 3 and the limit to 5. -/
def resetThree : List (Action (Fin 2) Unit) :=
  [.base (.take () 100 .uninterruptible), .control () (.reset 3), .schedule, .control () (.setVlimit 5)]

theorem sound_iff_respectful_resetThree : ∃ sched s,
    exec step (System.init sched fun _ => rtSemInit 0 .prio) resetThree = some s ∧
      (s.sem ()).value = 3 ∧ Sound s := by
  obtain ⟨sched, hsched, hinv, hset⟩ := Timeout.booted_twoThreads
  have hrun : ∀ sched ∈ exec Sched.step (SchedState.init (fun _ => 10) twoPriorities) twoThreads,
      Along step Respectful (System.init sched fun _ => rtSemInit 0 .prio) resetThree ∧
      ∃ s ∈ exec step (System.init sched fun _ => rtSemInit 0 .prio) resetThree,
        (s.sem ()).value = 3 := by
    decide +kernel
  obtain ⟨hC, s, hs, hvalue⟩ := hrun sched hsched
  refine ⟨sched, s, hs, hvalue, ?_⟩
  exact (sound_iff_respectful hinv hset _ _ _ s hs).mpr hC _ List.prefix_rfl s hs

/-- A reset above the limit, a limit below the value, and a reset while the timeout of the thread that
waits is under way. -/
theorem control_unsound : ∃ sched : SchedState (Fin 2), Inv sched ∧
    (∀ t, (sched.look t).ttmrSet = false) ∧
    (∃ s, exec step (System.init sched fun _ => rtSemInit 0 .prio)
        [.control () (.setVlimit 1), .control () (.reset 2), .schedule] = some s ∧
      (s.sem ()).maxValue < (s.sem ()).value) ∧
    (∃ s, exec step (System.init sched fun _ => rtSemInit 2 .prio) [.control () (.setVlimit 1)] =
        some s ∧ (s.sem ()).maxValue < (s.sem ()).value) ∧
    ∃ s, exec step (System.init sched fun _ => rtSemInit 0 .prio)
        [.base (.take () 100 .uninterruptible), .base (.timerExpires 0), .control () (.reset 1)] =
        some s ∧ 0 < (s.sem ()).value ∧ s.kernel.suspendThread (.sem ()) = [0] := by
  obtain ⟨sched, hsched, hinv, hset⟩ := Timeout.booted_twoThreads
  have hrun : ∀ sched ∈ exec Sched.step (SchedState.init (fun _ => 10) twoPriorities) twoThreads,
      (∃ s ∈ exec step (System.init sched fun _ => rtSemInit 0 .prio)
          [.control () (.setVlimit 1), .control () (.reset 2), .schedule],
        (s.sem ()).maxValue < (s.sem ()).value) ∧
      (∃ s ∈ exec step (System.init sched fun _ => rtSemInit 2 .prio) [.control () (.setVlimit 1)],
        (s.sem ()).maxValue < (s.sem ()).value) ∧
      ∃ s ∈ exec step (System.init sched fun _ => rtSemInit 0 .prio)
          [.base (.take () 100 .uninterruptible), .base (.timerExpires 0), .control () (.reset 1)],
        0 < (s.sem ()).value ∧ s.kernel.suspendThread (.sem ()) = [0] := by
    decide +kernel
  obtain ⟨⟨s₁, hs₁, h₁⟩, ⟨s₂, hs₂, h₂⟩, s₃, hs₃, h₃⟩ := hrun sched hsched
  exact ⟨sched, hinv, hset, ⟨s₁, hs₁, h₁⟩, ⟨s₂, hs₂, h₂⟩, s₃, hs₃, h₃⟩

end Two

end N32L43x.Sem.Control
