import N32L43x.Defunct.Reclaim
import Mathlib.Logic.Function.Iterate

/-!
Runs: what has ended is reclaimed once and never runs again, exactly as long as nobody ends the idle thread or
a thread that has ended, and one turn of the idle thread that nobody interrupts reclaims all of it.
-/

namespace N32L43x.Defunct

open N32L43x.Lib.Dll N32L43x.Lib.Run N32L43x.Sched

variable {Tid : Type} [DecidableEq Tid] {system : Tid → Bool} {idle : Tid} {s s' : State Tid} {l : List Tid}

/-! ### Steps -/

lemma Good.step {a : Action Tid} (h : Good system idle s) (hC : Proper idle s a)
    (hs : Defunct.step system idle s a = some s') : Good system idle s' := by
  cases a with
  | sched a =>
    simp only [Defunct.step] at hs
    split at hs
    case isFalse => cases hs
    case isTrue hother =>
      obtain ⟨sched, hsched, rfl⟩ := Option.map_eq_some_iff.mp hs
      exact h.sched hother hsched
  | init t tick priority => exact h.init hs
  | setCleanup t cleanup => exact h.setCleanup hs
  | detach t => exact h.detach hs
  | goOn =>
    obtain ⟨c, hc, hs⟩ := Option.bind_eq_some_iff.mp hs
    have hproper := hC c hc
    unfold detachGoesOn at hs
    rcases hend : s.ending c with _ | t | ⟨t, threadStatus⟩ | _ <;> rw [hend] at hs hproper
    · cases hs
    · obtain rfl := Option.some.inj hs
      exact h.close hc hend hproper
    · obtain rfl := Option.some.inj hs
      exact h.enqueue hc hend hproper
    · obtain rfl := Option.some.inj hs
      exact h.leave hc hend
  | idle =>
    simp only [Defunct.step] at hs
    split at hs
    case isFalse => cases hs
    case isTrue hcur =>
      split at hs
      · obtain rfl := Option.some.inj hs
        exact h.execute hcur
      · cases hs

/-- The idle thread is closed, or a thread that was closed already is put into the list. -/
lemma Good.step_bad {a : Action Tid} (h : Good system idle s) (hC : ¬ Proper idle s a)
    (hs : Defunct.step system idle s a = some s') : ¬ Sound system idle s' := by
  cases a with
  | sched a => exact absurd trivial hC
  | init t tick priority => exact absurd trivial hC
  | setCleanup t cleanup => exact absurd trivial hC
  | detach t => exact absurd trivial hC
  | idle => exact absurd trivial hC
  | goOn =>
    obtain ⟨c, hc, hs⟩ := Option.bind_eq_some_iff.mp hs
    intro hsound
    refine hC fun c' hc' => ?_
    obtain rfl := Option.some.inj (hc.symm.trans hc')
    unfold detachGoesOn at hs
    rcases hend : s.ending c with _ | t | ⟨t, threadStatus⟩ | _ <;> rw [hend] at hs
    · trivial
    · obtain rfl := Option.some.inj hs
      rintro rfl
      refine hsound.idle (closed_iff_life.mpr ?_)
      show ((rtThreadClose s.sched t).look t).life = .closed
      rw [look_rtThreadClose, Function.update_self]
    · obtain rfl := Option.some.inj hs
      rintro rfl
      obtain ⟨l, hl⟩ := h.listed
      obtain ⟨l', hl'⟩ := hsound.listed
      have hended := hl.ended t
      have hended' : (s.count t).ended + 1 =
          (s.count t).cleanedUp + (l'.count t + s.exec.unclean.toList.count t) := by
        have he := hl'.ended t
        unfold rtThreadDefunctEnqueue State.counts at he
        dsimp only at he
        rwa [Function.update_self] at he
      -- it was not in the list, and is there once: then it is dead and nobody has it
      have hcount := List.nodup_iff_count_le_one.mp hl'.nodup t
      have hmem : t ∈ l' := List.count_pos_iff.mp (by omega)
      have hnot : t ∉ l := fun ht => by
        have hpos := List.count_pos_iff.mpr ht
        omega
      obtain ⟨hclosed, hobject⟩ := hl'.mem t hmem
      rcases hl.all t hclosed hobject with ht | hbusy | ⟨c', threadStatus, hend', hopen⟩
      · exact hnot ht
      · exact hl'.apart t hbusy hmem
      · have hcur := (h.locked c' (by rw [hend']; simp)).1
        obtain rfl := Option.some.inj (hc.symm.trans hcur)
        exact hopen (EndPc.enqueue.inj (hend'.symm.trans hend)).2
    · trivial

lemma good_init (system : Tid → Bool) (idle : Tid) (tick : Tid → ℕ) (priority : Tid → Fin 32) :
    Good system idle (State.init tick priority) where
  idle := fun hc => by cases hc
  listed := by
    refine ⟨[], ?_, List.nodup_nil, ?_, ?_, ?_, fun _ => rfl⟩
    · exact List.isChain_pair.mpr ⟨rfl, rfl⟩
    · intro _ ht
      cases ht
    · intro _ hb
      cases hb
    · intro _ hc
      cases hc
  busy := fun _ hb => by cases hb
  gone := fun _ ho => by cases ho
  static := fun _ _ => ⟨rfl, rfl⟩
  dynamic := fun _ _ => ⟨rfl, rfl⟩
  inv := inv_init tick priority
  kind := trivial
  locked := fun _ hend => absurd rfl hend
  fresh := fun _ _ _ hend => by cases hend

instance Proper.decidable (idle : Tid) (s : State Tid) : ∀ a, Decidable (Proper idle s a)
  | .goOn =>
    match h : s.sched.currentThread with
    | none => isTrue fun _ hc => by cases h.symm.trans hc
    | some c =>
      have : Decidable (match s.ending c with
          | .close t => t ≠ idle
          | .enqueue _ threadStatus => threadStatus ≠ .close
          | _ => True) :=
        match s.ending c with
        | .close t => inferInstanceAs (Decidable (t ≠ idle))
        | .enqueue _ threadStatus => inferInstanceAs (Decidable (threadStatus ≠ .close))
        | .idle | .leave => isTrue trivial
      decidable_of_iff _ ⟨fun hp c' hc' => Option.some.inj (h.symm.trans hc') ▸ hp, fun hp => hp c h⟩
  | .sched _ | .init .. | .setCleanup .. | .detach _ | .idle => isTrue trivial

/-- The thread `t` runs, and the idle thread is ready. -/
def threeThreads (t idle : Tid) : List (Action Tid) :=
  [.sched (.startup t), .sched (.resume t .eok), .sched (.startup idle), .sched (.resume idle .eok),
    .sched .schedulerStart]

def threePriorities (t : Fin 3) : Fin 32 := ⟨10 * t.val + 5, by omega⟩

/-- Only the idle thread is static. -/
def idleStatic (t : Fin 3) : Bool := t.val = 2

/-- The thread `t` deletes the thread `u` and returns. -/
def twoEnd (t u idle : Tid) : List (Action Tid) :=
  threeThreads t idle ++ [.setCleanup u true, .detach u, .goOn, .goOn, .goOn, .detach t, .goOn, .goOn, .goOn,
    .sched .schedule]

/-- A thread that is deleted twice loses its stack twice. -/
example : ∃ s ∈ exec (step idleStatic 2) (State.init (fun _ => 10) threePriorities)
    (threeThreads 0 2 ++ [.detach 1, .goOn, .goOn, .goOn, .detach 1, .goOn, .goOn, .goOn,
      .sched (.suspend 0 .interruptible), .sched .schedule] ++ List.replicate 10 .idle),
    (s.count 1).stackFreed = 2 := by
  decide +kernel

/-! ### A turn of the idle thread -/

/-- The idle thread runs, and is in `rt_defunct_execute`. -/
structure Turn (idle : Tid) (s : State Tid) : Prop where
  runs : s.sched.currentThread = some idle
  executes : s.ending idle = .idle

variable (system) in
lemma execute_rest (s : State Tid) : (rtDefunctExecute system s).sched = s.sched ∧
    (rtDefunctExecute system s).ending = s.ending := by
  unfold rtDefunctExecute
  split
  · unfold rtThreadDefunctDequeue
    cases s.nodes.next none <;> exact ⟨rfl, rfl⟩
  all_goals exact ⟨rfl, rfl⟩

lemma Turn.execute (h : Turn idle s) : Turn idle (rtDefunctExecute system s) := by
  obtain ⟨hsched, hending⟩ := execute_rest system s
  exact ⟨by rw [hsched]; exact h.runs, by rw [hending]; exact h.executes⟩

lemma Turn.step (h : Turn idle s) : step system idle s .idle = some (rtDefunctExecute system s) := by
  simp only [Defunct.step]
  rw [if_pos h.runs, h.executes]

/-- Nobody interrupts. -/
lemma Turn.iterate (h : Turn idle s) (hgood : Good system idle s) (n : ℕ) :
    exec (Defunct.step system idle) s (List.replicate n .idle) = some ((rtDefunctExecute system)^[n] s) ∧
      Turn idle ((rtDefunctExecute system)^[n] s) ∧ Good system idle ((rtDefunctExecute system)^[n] s) := by
  induction n generalizing s with
  | zero => exact ⟨rfl, h, hgood⟩
  | succ n ih =>
    rw [List.replicate_succ, exec_cons_some h.step, Function.iterate_succ_apply]
    exact ih h.execute (hgood.execute h.runs)

/-- What the idle thread still does with the thread it has. -/
def ExecPc.rank : ExecPc Tid → ℕ
  | .dequeue => 0
  | .detach _ => 4
  | .cleanup .. => 3
  | .freeStack _ => 2
  | .delete _ => 1

variable (system) in
lemma rank_execute (h : s.exec ≠ .dequeue) : (rtDefunctExecute system s).exec.rank < s.exec.rank ∧
    (rtDefunctExecute system s).nodes = s.nodes := by
  unfold rtDefunctExecute
  rcases hexec : s.exec with _ | t | ⟨t, cleanup, objectIsSystemobject⟩ | t | t
  · exact absurd hexec h
  · exact ⟨by simp [ExecPc.rank], rfl⟩
  · refine ⟨?_, rfl⟩
    cases objectIsSystemobject <;> simp [ExecPc.rank]
  · exact ⟨by simp [ExecPc.rank], rfl⟩
  · exact ⟨by simp [ExecPc.rank], rfl⟩

variable (system) in
/-- The idle thread gets done with the thread it has. -/
lemma finish (s : State Tid) : ∃ n, ((rtDefunctExecute system)^[n] s).exec = .dequeue ∧
    ((rtDefunctExecute system)^[n] s).nodes = s.nodes := by
  induction hrank : s.exec.rank using Nat.strong_induction_on generalizing s with
  | _ rank ih =>
    by_cases hexec : s.exec = .dequeue
    · exact ⟨0, hexec, rfl⟩
    · obtain ⟨hlt, hnodes⟩ := rank_execute system hexec
      obtain ⟨n, hdone, hsame⟩ := ih _ (hrank ▸ hlt) (rtDefunctExecute system s) rfl
      refine ⟨n + 1, ?_⟩
      rw [Function.iterate_succ_apply]
      exact ⟨hdone, hsame.trans hnodes⟩

/-- The list has the threads that its links say. -/
lemma Listed.eq_of_ring {l' : List Tid} (h : Listed s l')
    (hring : Ring s.nodes.next s.nodes.prev (none :: l.map some)) (hnd : l.Nodup) : l' = l := by
  have hmap := Ring.unique h.ring hring (nodup_nodes h.nodup) (nodup_nodes hnd)
  exact (List.map_injective_iff.mpr (Option.some_injective Tid)) hmap

/-- One turn empties the list. -/
lemma Turn.empties (h : Turn idle s) (hgood : Good system idle s) (hl : Listed s l) (hexec : s.exec = .dequeue) :
    ∃ n, Listed ((rtDefunctExecute system)^[n] s) [] ∧ ((rtDefunctExecute system)^[n] s).exec = .dequeue := by
  induction l generalizing s with
  | nil => exact ⟨0, hl, hexec⟩
  | cons t l ih =>
    -- a thread out of the list, and then all that is done with it
    obtain ⟨ht, hnd⟩ := List.nodup_cons.mp hl.nodup
    have hnodes : (rtDefunctExecute system s).nodes = s.nodes.remove (some t) := by
      unfold rtDefunctExecute rtThreadDefunctDequeue
      rw [hexec]
      dsimp only
      rw [next_head hl.ring]
      rfl
    obtain ⟨n, hdone, hsame⟩ := finish system (rtDefunctExecute system s)
    obtain ⟨-, hturn, hgood'⟩ := h.execute.iterate (hgood.execute h.runs) n
    obtain ⟨l', hl'⟩ := hgood'.listed
    have hring : Ring ((rtDefunctExecute system)^[n] (rtDefunctExecute system s)).nodes.next
        ((rtDefunctExecute system)^[n] (rtDefunctExecute system s)).nodes.prev (none :: l.map some) := by
      rw [hsame, hnodes]
      exact ring_remove hl.ring hl.nodup
    obtain rfl := hl'.eq_of_ring hring hnd
    obtain ⟨m, hempty, hdone'⟩ := ih hturn hgood' hl' hdone
    refine ⟨m + (n + 1), ?_⟩
    rw [Function.iterate_add_apply, Function.iterate_succ_apply]
    exact ⟨hempty, hdone'⟩

/-- All that has ended is taken to pieces, and given back unless it is static. -/
structure Reclaimed (system : Tid → Bool) (s : State Tid) : Prop where
  cleanedUp : ∀ t, (s.count t).cleanedUp = (s.count t).ended
  deleted : ∀ t, system t = false →
    (s.count t).stackFreed = (s.count t).ended ∧ (s.count t).deleted = (s.count t).ended
  none : ∀ t, s.sched.Closed t → s.object t = false

lemma Turn.reclaimed (h : Turn idle s) (hgood : Good system idle s) (hl : Listed s [])
    (hexec : s.exec = .dequeue) : Reclaimed system s := by
  have hclean : ∀ t, (s.count t).cleanedUp = (s.count t).ended := by
    intro t
    have hended := hl.ended t
    rw [hexec] at hended
    exact hended.symm
  refine ⟨hclean, fun t ht => ?_, fun t hc => ?_⟩
  · obtain ⟨hstack, hobject⟩ := hgood.dynamic t ht
    rw [hexec] at hstack hobject
    have hfreed : (s.count t).cleanedUp = (s.count t).stackFreed := hstack
    have hdeleted : (s.count t).stackFreed = (s.count t).deleted := hobject
    have hcleaned := hclean t
    exact ⟨hfreed.symm.trans hcleaned, hdeleted.symm.trans (hfreed.symm.trans hcleaned)⟩
  · by_contra ho
    rcases hl.all t hc (Bool.eq_true_of_not_eq_false ho) with ht | hb | ⟨c, threadStatus, hend, -⟩
    · cases ht
    · rw [hexec] at hb
      cases hb
    · have hcur := (hgood.locked c (by rw [hend]; simp)).1
      obtain rfl := Option.some.inj (h.runs.symm.trans hcur)
      cases h.executes.symm.trans hend

/-- **One call does all the cleanups.**  After a run in which nobody ends the idle thread or a thread that has
ended, a turn of the idle thread that nobody interrupts takes all to pieces that has ended. -/
theorem one_turn_reclaims (system : Tid → Bool) (idle : Tid) (tick : Tid → ℕ) (priority : Tid → Fin 32)
    (as : List (Action Tid)) (hC : Along (Defunct.step system idle) (Proper idle) (State.init tick priority) as)
    (hrun : exec (Defunct.step system idle) (State.init tick priority) as = some s) (h : Turn idle s) :
    ∃ n s', exec (Defunct.step system idle) s (List.replicate n .idle) = some s' ∧ Reclaimed system s' := by
  have hgood : Good system idle s := exec_inv_of_along (fun _ _ _ h hC hs => h.step hC hs) as _ s
    (good_init system idle tick priority) hC hrun
  obtain ⟨n, hdone, -⟩ := finish system s
  obtain ⟨hexec, hturn, hgood'⟩ := h.iterate hgood n
  obtain ⟨l, hl⟩ := hgood'.listed
  obtain ⟨m, hempty, hdone'⟩ := hturn.empties hgood' hl hdone
  obtain ⟨hexec', hturn', hgood''⟩ := hturn.iterate hgood' m
  refine ⟨n + m, _, ?_, hturn'.reclaimed hgood'' hempty hdone'⟩
  rw [List.replicate_add, exec_append_some hexec]
  exact hexec'

theorem one_turn_reclaims_twoEnd :
    ∃ s, exec (Defunct.step idleStatic 2) (State.init (fun _ => 10) threePriorities) (twoEnd 0 1 2) = some s ∧
      (s.count 0).ended = 1 ∧ (s.count 0).deleted = 0 ∧
      ∃ n s', exec (Defunct.step idleStatic 2) s (List.replicate n .idle) = some s' ∧ Reclaimed idleStatic s' := by
  have hrun : Along (Defunct.step idleStatic 2) (Proper 2) (State.init (fun _ => 10) threePriorities) (twoEnd 0 1 2) ∧
      ∃ s ∈ exec (Defunct.step idleStatic 2) (State.init (fun _ => 10) threePriorities) (twoEnd 0 1 2),
        ((s.count 0).ended = 1 ∧ (s.count 0).deleted = 0) ∧
          s.sched.currentThread = some 2 ∧ s.ending 2 = .idle := by
    decide +kernel
  obtain ⟨hC, s, hs, hcounts, hruns, hexecutes⟩ := hrun
  exact ⟨s, hs, hcounts.1, hcounts.2, one_turn_reclaims idleStatic 2 _ _ _ hC hs ⟨hruns, hexecutes⟩⟩

end N32L43x.Defunct
