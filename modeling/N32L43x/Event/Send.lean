import N32L43x.Event.Defs
import N32L43x.Ipc.Timeout
import N32L43x.Lib.Bits

/-!
The conditions of the receives, and what the loop of `rt_event_send` does to the threads it comes by.
-/

namespace N32L43x.Event

open N32L43x.Sched N32L43x.Ipc

variable {Tid Oid : Type} [DecidableEq Tid] [DecidableEq Oid]

/-! ### The conditions -/

section Bits

variable {option : BitVec 8} {set event mask : EventSet}

/-- A condition that is satisfied stays so when more has been sent. -/
lemma Matches.of_cleared (h : Matches option set (event &&& ~~~mask)) : Matches option set event := by
  have hbit : ∀ i, (event &&& ~~~mask &&& set).getLsbD i = true → (event &&& set).getLsbD i = true := by
    intro i hi
    simp only [BitVec.getLsbD_and, Bool.and_eq_true] at hi ⊢
    exact ⟨hi.1.1, hi.2⟩
  unfold Matches at h ⊢
  split
  · rename_i hand
    rw [if_pos hand] at h
    apply BitVec.eq_of_getLsbD_eq
    intro i _
    cases hset : set.getLsbD i with
    | true =>
      apply hbit i
      rw [h]
      exact hset
    | false => rw [BitVec.getLsbD_and, hset, Bool.and_false]
  · rename_i hand
    rw [if_neg hand] at h
    split at h
    · rename_i hor
      rw [if_pos hor]
      intro hzero
      apply h
      apply BitVec.eq_of_getLsbD_eq
      intro i _
      rw [BitVec.getLsbD_zero]
      apply Bool.eq_false_iff.mpr
      intro hi
      have hi' := hbit i hi
      rw [hzero, BitVec.getLsbD_zero] at hi'
      cases hi'
    · exact h.elim

/-- Where nothing has been sent, nobody is satisfied. -/
lemma not_matches_zero (hset : set ≠ 0#32) : ¬ Matches option set 0#32 := by
  intro h
  unfold Matches at h
  rw [BitVec.zero_and] at h
  split at h
  · exact hset h.symm
  split at h
  · exact h rfl
  · exact h

/-- What a thread whose condition is satisfied receives: `rt_event_send` only cuts its set for one of
the two conditions. -/
lemma received_eq (h : Matches option set event) :
    (if option &&& rtEventFlagAnd ≠ 0#8 then set else set &&& event) = event &&& set := by
  split
  · rename_i hand
    unfold Matches at h
    rw [if_pos hand] at h
    exact h.symm
  · exact BitVec.and_comm ..

end Bits

/-! ### The loop of a send -/

section Scan

variable {firing : Option Tid} {sc sc' : Scan Tid Oid} {event : EventSet} {list : List Tid} {t u : Tid}
  {l : SuspList Oid}

/-- The condition of a thread is satisfied. -/
def Scan.Hit (sc : Scan Tid Oid) (event : EventSet) (t : Tid) : Prop :=
  Matches (sc.waiter t).eventInfo (sc.waiter t).eventSet event

/-- What the loop does when it comes by the threads of `list`. -/
structure Scanned (event : EventSet) (firing : Option Tid) (list : List Tid) (sc sc' : Scan Tid Oid) :
    Prop where
  timed : Timed sc'.kernel firing
  others : ∀ u, ¬ (u ∈ list ∧ sc.Hit event u) → sc'.kernel.look u = sc.kernel.look u ∧
    sc'.kernel.error u = sc.kernel.error u ∧ sc'.waiter u = sc.waiter u
  woken : ∀ u ∈ list, sc.Hit event u → ¬ sc'.kernel.Suspended u ∧ sc'.kernel.error u = .eok ∧
    (sc'.waiter u).eventSet = event &&& (sc.waiter u).eventSet
  mem : ∀ l u, u ∈ sc'.kernel.suspendThread l ↔
    u ∈ sc.kernel.suspendThread l ∧ ¬ (u ∈ list ∧ sc.Hit event u)
  nodup : ∀ l, (sc.kernel.suspendThread l).Nodup → (sc'.kernel.suspendThread l).Nodup
  clear : ∀ i, sc'.needClearSet.getLsbD i = true ↔ sc.needClearSet.getLsbD i = true ∨
    ∃ u ∈ list, sc.Hit event u ∧ Clears (sc.waiter u).eventInfo ∧
      (event &&& (sc.waiter u).eventSet).getLsbD i = true

omit [DecidableEq Tid] [DecidableEq Oid] in
/-- The loop has come by nobody whose condition is satisfied. -/
lemma Scanned.of_not_hit (h : Timed sc.kernel firing) (hhit : ∀ u ∈ list, ¬ sc.Hit event u) :
    Scanned event firing list sc sc where
  timed := h
  others := fun _ _ => ⟨rfl, rfl, rfl⟩
  woken := fun u hu hhit' => absurd hhit' (hhit u hu)
  mem := fun _ u => ⟨fun hu => ⟨hu, fun h' => hhit u h'.1 h'.2⟩, fun hu => hu.1⟩
  nodup := fun _ h => h
  clear := fun _ => ⟨.inl, fun hi => hi.elim id fun ⟨u, hu, hhit', _⟩ => absurd hhit' (hhit u hu)⟩

omit [DecidableEq Tid] [DecidableEq Oid] in
/-- Two parts of the list, one after the other. -/
lemma Scanned.append {sc₁ sc₂ : Scan Tid Oid} {list₁ list₂ : List Tid}
    (h₁ : Scanned event firing list₁ sc sc₁) (h₂ : Scanned event firing list₂ sc₁ sc₂)
    (hdisj : ∀ u ∈ list₂, u ∉ list₁) : Scanned event firing (list₁ ++ list₂) sc sc₂ := by
  have hwaiter : ∀ u ∈ list₂, sc₁.waiter u = sc.waiter u := fun u hu =>
    (h₁.others u fun h => hdisj u hu h.1).2.2
  have hhit : ∀ u ∈ list₂, (sc₁.Hit event u ↔ sc.Hit event u) := by
    intro u hu
    unfold Scan.Hit
    rw [hwaiter u hu]
  have hnot : ∀ u, ¬ (u ∈ list₁ ++ list₂ ∧ sc.Hit event u) ↔
      ¬ (u ∈ list₁ ∧ sc.Hit event u) ∧ ¬ (u ∈ list₂ ∧ sc₁.Hit event u) := by
    intro u
    rw [List.mem_append, or_and_right, not_or]
    refine and_congr_right fun _ => not_congr (and_congr_right fun hu => (hhit u hu).symm)
  refine ⟨h₂.timed, fun u hu => ?_, fun u hu hsat => ?_, fun l u => ?_,
    fun l hl => h₂.nodup l (h₁.nodup l hl), fun i => ?_⟩
  · obtain ⟨hu₁, hu₂⟩ := (hnot u).mp hu
    obtain ⟨hlook, herr, hw⟩ := h₁.others u hu₁
    obtain ⟨hlook', herr', hw'⟩ := h₂.others u hu₂
    exact ⟨hlook'.trans hlook, herr'.trans herr, hw'.trans hw⟩
  · by_cases hu₂ : u ∈ list₂
    · rw [← hwaiter u hu₂]
      exact h₂.woken u hu₂ ((hhit u hu₂).mpr hsat)
    · have hu₁ := (List.mem_append.mp hu).resolve_right hu₂
      obtain ⟨hsus, herr, hw⟩ := h₁.woken u hu₁ hsat
      obtain ⟨hlook', herr', hw'⟩ := h₂.others u fun h => hu₂ h.1
      refine ⟨?_, herr'.trans herr, ?_⟩
      · unfold Kernel.Suspended
        rw [hlook']
        exact hsus
      · rw [hw']
        exact hw
  · rw [h₂.mem, h₁.mem, hnot u, and_assoc]
  · rw [h₂.clear, h₁.clear, or_assoc]
    refine or_congr Iff.rfl ⟨?_, ?_⟩
    · rintro (⟨u, hu, hsat, hclear, hi⟩ | ⟨u, hu, hsat, hclear, hi⟩)
      · exact ⟨u, List.mem_append_left _ hu, hsat, hclear, hi⟩
      · rw [hwaiter u hu] at hclear hi
        exact ⟨u, List.mem_append_right _ hu, (hhit u hu).mp hsat, hclear, hi⟩
    · rintro ⟨u, hu, hsat, hclear, hi⟩
      by_cases hu₂ : u ∈ list₂
      · refine .inr ⟨u, hu₂, (hhit u hu₂).mpr hsat, ?_⟩
        rw [hwaiter u hu₂]
        exact ⟨hclear, hi⟩
      · exact .inl ⟨u, (List.mem_append.mp hu).resolve_right hu₂, hsat, hclear, hi⟩

omit [DecidableEq Oid] in
/-- A thread whose timer can be stopped is woken. -/
lemma scanned_satisfy (h : Timed sc.kernel firing) (hmem : t ∈ sc.kernel.suspendThread l)
    (hfire : firing ≠ some t) (hhit : sc.Hit event t) :
    Scanned event firing [t] sc (sc.satisfy event t) := by
  have hsus := h.mem hmem
  obtain ⟨k', hready, hr⟩ := Kernel.rtSchedThreadReady_of_timerLive hsus (h.timerLive hsus hfire)
  have htimed := h.readies hr
  have hreceived : (if (sc.waiter t).eventInfo &&& rtEventFlagAnd ≠ 0#8 then sc.waiter t else
      { sc.waiter t with eventSet := (sc.waiter t).eventSet &&& event }) =
      ⟨event &&& (sc.waiter t).eventSet, (sc.waiter t).eventInfo⟩ := by
    rw [← received_eq hhit]
    split <;> rfl
  have hsatisfy : sc.satisfy event t =
      { kernel := { k' with error := Function.update k'.error t .eok }
        waiter := Function.update sc.waiter t
          ⟨event &&& (sc.waiter t).eventSet, (sc.waiter t).eventInfo⟩
        needClearSet := if Clears (sc.waiter t).eventInfo then
          sc.needClearSet ||| (event &&& (sc.waiter t).eventSet) else sc.needClearSet
        needSchedule := true } := by
    unfold Scan.satisfy
    simp only [hready, hreceived]
  rw [hsatisfy]
  refine ⟨htimed.keep htimed.inv rfl rfl rfl, fun u hu => ?_, fun u hu _ => ?_, fun l u => ?_,
    fun l hl => ?_, fun i => ?_⟩
  · have hut : u ≠ t := by
      rintro rfl
      exact hu ⟨List.mem_singleton_self _, hhit⟩
    refine ⟨?_, ?_, Function.update_of_ne hut ..⟩
    · exact (congrFun hr.look u).trans (Function.update_of_ne hut ..)
    · exact (Function.update_of_ne hut ..).trans (congrFun hr.error u)
  · obtain rfl := List.mem_singleton.mp hu
    refine ⟨?_, Function.update_self .., ?_⟩
    · have hlive : (k'.look u).life = .live := by
        rw [hr.look, Function.update_self]
      exact Timeout.not_suspended_of_live hlive
    · simp only [Function.update_self]
  · simp only
    rw [hr.suspendThread, List.mem_filter, decide_eq_true_eq, List.mem_singleton]
    refine and_congr_right fun _ => not_congr ?_
    exact ⟨fun h => ⟨h, h ▸ hhit⟩, fun h => h.1⟩
  · simp only
    rw [hr.suspendThread]
    exact hl.filter _
  · simp only [List.mem_singleton, exists_eq_left]
    split
    · rename_i hclear
      rw [BitVec.getLsbD_or, Bool.or_eq_true]
      exact or_congr Iff.rfl ⟨fun hi => ⟨hhit, hclear, hi⟩, fun hi => hi.2.2⟩
    · rename_i hclear
      exact ⟨.inl, fun hi => hi.elim id fun hi => absurd hi.2.1 hclear⟩

omit [DecidableEq Oid] in
/-- **The loop.** -/
lemma scanned_scan (event : EventSet) (list : List Tid) (sc : Scan Tid Oid) (h : Timed sc.kernel firing) (hnodup : list.Nodup)
    (hmem : ∀ t ∈ list, t ∈ sc.kernel.suspendThread l)
    (hinfo : ∀ t ∈ list, Asserted (sc.waiter t).eventInfo)
    (hfire : ∀ t ∈ list, sc.Hit event t → firing ≠ some t) :
    ∃ sc', scan event list sc = (sc', .eok) ∧ Scanned event firing list sc sc' := by
  induction list generalizing sc with
  | nil => exact ⟨sc, rfl, .of_not_hit h fun u hu => absurd hu List.not_mem_nil⟩
  | cons t list ih =>
    obtain ⟨hnot, hnodup⟩ := List.nodup_cons.mp hnodup
    have hdisj : ∀ u ∈ list, u ∉ [t] := by
      intro u hu hut
      obtain rfl := List.mem_singleton.mp hut
      exact hnot hu
    unfold scan
    rw [if_pos (hinfo t List.mem_cons_self)]
    split
    · rename_i hhit
      have h₁ := scanned_satisfy h (hmem t List.mem_cons_self) (hfire t List.mem_cons_self hhit) hhit
      have hwaiter : ∀ u ∈ list, (sc.satisfy event t).waiter u = sc.waiter u := fun u hu =>
        (h₁.others u fun h => hdisj u hu h.1).2.2
      have hmem' : ∀ u ∈ list, u ∈ (sc.satisfy event t).kernel.suspendThread l := fun u hu =>
        (h₁.mem l u).mpr ⟨hmem u (List.mem_cons_of_mem t hu), fun h => hdisj u hu h.1⟩
      have hinfo' : ∀ u ∈ list, Asserted ((sc.satisfy event t).waiter u).eventInfo := by
        intro u hu
        rw [hwaiter u hu]
        exact hinfo u (List.mem_cons_of_mem t hu)
      have hfire' : ∀ u ∈ list, (sc.satisfy event t).Hit event u → firing ≠ some u := by
        intro u hu hhit'
        unfold Scan.Hit at hhit'
        rw [hwaiter u hu] at hhit'
        exact hfire u (List.mem_cons_of_mem t hu) hhit'
      obtain ⟨sc', hscan, h₂⟩ := ih (sc.satisfy event t) h₁.timed hnodup hmem' hinfo' hfire'
      exact ⟨sc', hscan, h₁.append h₂ hdisj⟩
    · rename_i hhit
      have h₁ : Scanned event firing [t] sc sc := .of_not_hit h fun u hu hhit' => by
        obtain rfl := List.mem_singleton.mp hu
        exact hhit hhit'
      obtain ⟨sc', hscan, h₂⟩ := ih sc h hnodup (fun u hu => hmem u (List.mem_cons_of_mem t hu))
        (fun u hu => hinfo u (List.mem_cons_of_mem t hu))
        fun u hu => hfire u (List.mem_cons_of_mem t hu)
      exact ⟨sc', hscan, h₁.append h₂ hdisj⟩

end Scan

end N32L43x.Event
