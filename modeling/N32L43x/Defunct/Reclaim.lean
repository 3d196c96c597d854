import N32L43x.Defunct.Defs
import N32L43x.Lib.Dll
import N32L43x.Sched.Closed

/-!
What is to hold of the threads that have ended: each is in the list of the dead once, or is being taken to
pieces, or was; what is taken to pieces does not run, and its memory is given back once.
-/

namespace N32L43x.Defunct

open N32L43x.Lib.Dll N32L43x.Lib.Run N32L43x.Sched

variable {Tid : Type}

/-! ### The idle thread -/

/-- The thread that is taken to pieces.  A static one that was detached may be initialised again. -/
def ExecPc.busy : ExecPc Tid → Option Tid
  | .dequeue => none
  | .detach t => some t
  | .cleanup t _ objectIsSystemobject => if objectIsSystemobject then none else some t
  | .freeStack t => some t
  | .delete t => some t

/-- The thread whose `cleanup` is due. -/
def ExecPc.unclean : ExecPc Tid → Option Tid
  | .detach t => some t
  | .cleanup t _ _ => some t
  | _ => none

/-- The thread whose stack is due. -/
def ExecPc.stack : ExecPc Tid → Option Tid
  | .freeStack t => some t
  | _ => none

/-- The thread whose object is due. -/
def ExecPc.object : ExecPc Tid → Option Tid
  | .delete t => some t
  | _ => none

/-- The idle thread has got right which threads are static. -/
def ExecPc.Kind (system : Tid → Bool) : ExecPc Tid → Prop
  | .cleanup t _ objectIsSystemobject => objectIsSystemobject = system t
  | .freeStack t => system t = false
  | .delete t => system t = false
  | _ => True

/-! ### What is to hold -/

variable [DecidableEq Tid]

/-- The list is made of `l`. -/
structure Listed (s : State Tid) (l : List Tid) : Prop where
  ring : Ring s.nodes.next s.nodes.prev (none :: l.map some)
  nodup : l.Nodup
  mem : ∀ t ∈ l, s.sched.Closed t ∧ s.object t = true
  apart : ∀ t, s.exec.busy = some t → t ∉ l
  /-- nothing is lost -/
  all : ∀ t, s.sched.Closed t → s.object t = true → t ∈ l ∨ s.exec.busy = some t ∨
    ∃ c threadStatus, s.ending c = .enqueue t threadStatus ∧ threadStatus ≠ .close
  ended : ∀ t, (s.count t).ended = (s.count t).cleanedUp + (l.count t + s.exec.unclean.toList.count t)

structure Sound (system : Tid → Bool) (idle : Tid) (s : State Tid) : Prop where
  idle : ¬ s.sched.Closed idle
  listed : ∃ l, Listed s l
  /-- what is taken to pieces does not run -/
  busy : ∀ t, s.exec.busy = some t → s.sched.Closed t ∧ s.object t = true ∧ s.sched.currentThread ≠ some t
  /-- nor does what was -/
  gone : ∀ t, s.object t = false → s.sched.Closed t ∧ s.sched.currentThread ≠ some t
  static : ∀ t, system t = true → (s.count t).stackFreed = 0 ∧ (s.count t).deleted = 0
  dynamic : ∀ t, system t = false →
    (s.count t).cleanedUp = (s.count t).stackFreed + s.exec.stack.toList.count t ∧
      (s.count t).stackFreed = (s.count t).deleted + s.exec.object.toList.count t

/-- The idle thread is not ended, and no thread that has ended is ended again. -/
def Proper (idle : Tid) (s : State Tid) : Action Tid → Prop
  | .goOn => ∀ c, s.sched.currentThread = some c →
    match s.ending c with
    | .close t => t ≠ idle
    | .enqueue _ threadStatus => threadStatus ≠ .close
    | _ => True
  | _ => True

/-! ### The list -/

omit [DecidableEq Tid] in
lemma nodup_nodes {l : List Tid} (h : l.Nodup) : (none :: l.map some : List (Option Tid)).Nodup := by
  refine List.nodup_cons.mpr ⟨?_, h.map (Option.some_injective Tid)⟩
  simp

variable {d : Nodes Tid} {l : List Tid} {t : Tid}

/-- A thread is put in front. -/
lemma ring_insertAfter (h : Ring d.next d.prev (none :: l.map some)) (hnd : l.Nodup) (ht : t ∉ l) :
    Ring (d.insertAfter none (some t)).next (d.insertAfter none (some t)).prev
      (none :: (t :: l).map some) := by
  have hnd' : (t :: l).Nodup := List.nodup_cons.mpr ⟨ht, hnd⟩
  have hother : ∀ y ∈ (none :: l.map some : List (Option Tid)), y ≠ some t := by
    rintro y hy rfl
    simp [ht] at hy
  have hfirst : d.next none ≠ some t :=
    hother _ (h.next_prev (nodup_nodes hnd) (List.mem_cons_self ..)).1
  have hinsert : (d.insertAfter none (some t)).next none = some t ∧
      (d.insertAfter none (some t)).next (some t) = d.next none ∧
      (d.insertAfter none (some t)).prev (some t) = none := by
    unfold Nodes.insertAfter
    simp
  refine Ring.insert (show Ring d.next d.prev ([] ++ none :: l.map some) from h) (nodup_nodes hnd') hinsert.1
    hinsert.2.1 hinsert.2.2 ?_ ?_ ?_
  · unfold Nodes.insertAfter
    simp [hfirst]
  · intro y hy hne
    unfold Nodes.insertAfter
    simp [hne, hother y hy]
  · intro y hy hne
    unfold Nodes.insertAfter
    simp [hne, hother y hy]

/-- The first thread is taken out. -/
lemma ring_remove (h : Ring d.next d.prev (none :: (t :: l).map some)) (hnd : (t :: l).Nodup) :
    Ring (d.remove (some t)).next (d.remove (some t)).prev (none :: l.map some) := by
  have hnodes := nodup_nodes hnd
  have h' : Ring d.next d.prev ([] ++ none :: some t :: l.map some) := h
  have hprev : d.prev (some t) = none := h'.next_eq.2
  have hback := (h.next_prev hnodes (a := some t) (by simp)).2
  have hnext : d.next (some t) ≠ some t := by
    intro he
    rw [he, hprev] at hback
    cases hback
  have hother : ∀ y ∈ (none :: l.map some : List (Option Tid)), y ≠ some t := by
    rintro y hy rfl
    simp [(List.nodup_cons.mp hnd).1] at hy
  refine Ring.remove h' hnodes ?_ ?_ ?_ ?_
  · unfold Nodes.remove
    simp [hnext.symm, hprev]
  · unfold Nodes.remove
    simp [hnext, hprev]
  · intro y hy hne
    unfold Nodes.remove
    simp [hother y hy, hnext.symm, hprev, hne]
  · intro y hy hne
    unfold Nodes.remove
    simp [hother y hy, hne]

omit [DecidableEq Tid] in
/-- The head leads to the first thread. -/
lemma next_head (h : Ring d.next d.prev (none :: l.map some)) : d.next none = l.head? := by
  cases l with
  | nil => simpa using (h.next_prev (nodup_nodes List.nodup_nil) (List.mem_cons_self ..)).1
  | cons t l => exact (Ring.next_eq (show Ring d.next d.prev ([] ++ none :: some t :: l.map some) from h)).1

/-! ### The invariant -/

variable {system : Tid → Bool} {idle c : Tid} {s s' : State Tid}

/-- Besides, who ends a thread has locked the scheduler, and a thread that was open is not dead yet. -/
structure Good (system : Tid → Bool) (idle : Tid) (s : State Tid) : Prop extends Sound system idle s where
  inv : Inv s.sched
  kind : s.exec.Kind system
  locked : ∀ c, s.ending c ≠ .idle → s.sched.currentThread = some c ∧ 0 < s.sched.lockNest
  fresh : ∀ c t threadStatus, s.ending c = .enqueue t threadStatus → threadStatus ≠ .close →
    s.sched.Closed t ∧ s.object t = true ∧ s.exec.busy ≠ some t ∧
      (s.count t).ended = (s.count t).cleanedUp + s.exec.unclean.toList.count t

/-- The list has the threads that the counts say. -/
lemma Listed.not_mem (h : Listed s l)
    (hcount : (s.count t).ended = (s.count t).cleanedUp + s.exec.unclean.toList.count t) : t ∉ l := by
  intro ht
  have hpos := List.count_pos_iff.mpr ht
  have hended := h.ended t
  omega

/-- Only one thread at a time ends another. -/
lemma Good.alone (h : Good system idle s) (hc : s.sched.currentThread = some c) {c' : Tid} (hne : c' ≠ c) :
    s.ending c' = .idle := by
  by_contra hend
  exact hne (Option.some.inj ((h.locked c' hend).1.symm.trans hc))

lemma Good.sched (h : Good system idle s) {a : Sched.Action Tid} {sched : SchedState Tid}
    (hother : Other s a = true) (hs : Sched.step s.sched a = some sched) :
    Good system idle { s with sched := sched } := by
  have hclose : ∀ t, a ≠ .close t := by
    rintro t rfl
    cases hother
  have hsame := sameClosed_step h.inv hclose hs
  have hcur : ∀ t, s.sched.Closed t → s.sched.currentThread ≠ some t → sched.currentThread ≠ some t := by
    intro t hclosed hne hc
    rcases current_step h.inv hs hc with hc | hopen
    · exact hne hc
    · exact hopen hclosed
  obtain ⟨l, hl⟩ := h.listed
  refine ⟨⟨fun hc => h.idle ((hsame idle).mp hc), ⟨l, hl.ring, hl.nodup, ?_, hl.apart, ?_, hl.ended⟩, ?_, ?_,
    h.static, h.dynamic⟩, inv_step h.inv hs, h.kind, ?_, ?_⟩
  · intro t ht
    exact ⟨(hsame t).mpr (hl.mem t ht).1, (hl.mem t ht).2⟩
  · intro t hc
    exact hl.all t ((hsame t).mp hc)
  · intro t ht
    obtain ⟨hclosed, hobject, hne⟩ := h.busy t ht
    exact ⟨(hsame t).mpr hclosed, hobject, hcur t hclosed hne⟩
  · intro t ht
    obtain ⟨hclosed, hne⟩ := h.gone t ht
    exact ⟨(hsame t).mpr hclosed, hcur t hclosed hne⟩
  · intro c hend
    obtain ⟨hc, hlock⟩ := h.locked c hend
    refine locked_step hlock hc ?_ hs
    rintro rfl
    unfold Other at hother
    rw [hc] at hother
    dsimp only at hother hend
    split at hother
    · rename_i hidle
      exact hend hidle
    · cases hother
  · intro c t threadStatus hend hopen
    obtain ⟨hclosed, hrest⟩ := h.fresh c t threadStatus hend hopen
    exact ⟨(hsame t).mpr hclosed, hrest⟩

lemma Good.init (h : Good system idle s) {tick : ℕ} {priority : Fin 32}
    (hs : step system idle s (.init t tick priority) = some s') : Good system idle s' := by
  simp only [step] at hs
  split at hs
  · cases hs
  case isFalse hobject =>
    obtain rfl := Option.some.inj hs
    have hgone := h.gone t (Bool.eq_false_iff.mpr hobject)
    have hne : ∀ {u}, s.object u = true → u ≠ t := by
      rintro u hu rfl
      exact hobject hu
    have hclosed : ∀ u, u ≠ t → ((s.sched.modify t fun _ => rtSchedThreadInit tick priority).Closed u ↔
        s.sched.Closed u) := by
      intro u hu
      unfold SchedState.Closed
      rw [modify_thread_of_ne hu]
    have hopen : ¬ (s.sched.modify t fun _ => rtSchedThreadInit tick priority).Closed t := by
      unfold SchedState.Closed
      rw [modify_thread_same]
      simp [rtSchedThreadInit]
    obtain ⟨l, hl⟩ := h.listed
    refine ⟨⟨?_, ⟨l, hl.ring, hl.nodup, ?_, hl.apart, ?_, hl.ended⟩, ?_, ?_, h.static, h.dynamic⟩, ?_, h.kind,
      h.locked, ?_⟩
    · intro hc
      by_cases hi : idle = t
      · subst hi
        exact hopen hc
      · exact h.idle ((hclosed idle hi).mp hc)
    · intro u hu
      obtain ⟨hc, ho⟩ := hl.mem u hu
      exact ⟨(hclosed u (hne ho)).mpr hc, (Function.update_of_ne (hne ho) _ _).trans ho⟩
    · intro u hc ho
      have hu : u ≠ t := by
        rintro rfl
        exact hopen hc
      exact hl.all u ((hclosed u hu).mp hc) ((Function.update_of_ne hu _ _).symm.trans ho)
    · intro u hu
      obtain ⟨hc, ho, hcur⟩ := h.busy u hu
      exact ⟨(hclosed u (hne ho)).mpr hc, (Function.update_of_ne (hne ho) _ _).trans ho, hcur⟩
    · intro u ho
      have hu : u ≠ t := by
        rintro rfl
        cases (Function.update_self ..).symm.trans ho
      obtain ⟨hc, hcur⟩ := h.gone u ((Function.update_of_ne hu _ _).symm.trans ho)
      exact ⟨(hclosed u hu).mpr hc, hcur⟩
    · have hstat : (s.sched.thread t).stat ≠ .ready := fun hr => by cases hgone.1.symm.trans hr
      exact h.inv.modify (f := fun _ => rtSchedThreadInit tick priority) hstat (fun hr => by cases hr)
        (fun hi => absurd rfl hi) (fun hr => by cases hr) fun hc => absurd hc hgone.2
    · intro c u threadStatus hend hst
      obtain ⟨hc, ho, hrest⟩ := h.fresh c u threadStatus hend hst
      exact ⟨(hclosed u (hne ho)).mpr hc, (Function.update_of_ne (hne ho) _ _).trans ho, hrest⟩

lemma Good.setCleanup (h : Good system idle s) {cleanup : Bool}
    (hs : step system idle s (.setCleanup t cleanup) = some s') : Good system idle s' := by
  simp only [step] at hs
  split at hs
  · obtain rfl := Option.some.inj hs
    obtain ⟨l, hl⟩ := h.listed
    exact ⟨⟨h.idle, ⟨l, hl.ring, hl.nodup, hl.mem, hl.apart, hl.all, hl.ended⟩, h.busy, h.gone, h.static,
      h.dynamic⟩, h.inv, h.kind, h.locked, h.fresh⟩
  · cases hs

/-- The caller goes on to `pc`, which is not before the list. -/
lemma Listed.ending (h : Listed s l) (c : Tid) (pc : EndPc Tid)
    (hpc : ∀ t threadStatus, s.ending c = .enqueue t threadStatus → threadStatus ≠ .close → t ∈ l) :
    Listed { s with ending := Function.update s.ending c pc } l := by
  refine ⟨h.ring, h.nodup, h.mem, h.apart, fun t hc ho => ?_, h.ended⟩
  rcases h.all t hc ho with ht | hbusy | ⟨c', threadStatus, hend, hopen⟩
  · exact .inl ht
  · exact .inr (.inl hbusy)
  · by_cases hcc : c' = c
    · subst hcc
      exact .inl (hpc t threadStatus hend hopen)
    · exact .inr (.inr ⟨c', threadStatus, (Function.update_of_ne hcc _ _).trans hend, hopen⟩)

lemma Good.detach (h : Good system idle s) (hs : step system idle s (.detach t) = some s') :
    Good system idle s' := by
  simp only [step] at hs
  split at hs
  · cases hs
  case h_2 c hc =>
    split at hs
    case h_2 => cases hs
    case h_1 hidle =>
      obtain rfl := Option.some.inj hs
      obtain ⟨l, hl⟩ := h.listed
      have hnone : ∀ t threadStatus, s.ending c ≠ .enqueue t threadStatus := by
        intro t threadStatus he
        cases hidle.symm.trans he
      have hlist := hl.ending c (.close t) fun u st he _ => absurd he (hnone u st)
      refine ⟨⟨h.idle, ⟨l, hlist.ring, hlist.nodup, hlist.mem, hlist.apart, hlist.all, hlist.ended⟩, h.busy,
        h.gone, h.static, h.dynamic⟩, ⟨h.inv.toQueue.withCurrent _ _, h.inv.running, h.inv.current⟩, h.kind, ?_, ?_⟩
      · intro c' hend
        by_cases hcc : c' = c
        · subst hcc
          exact ⟨hc, Nat.succ_pos _⟩
        · have hend' : s.ending c' ≠ .idle := fun hi => hend ((Function.update_of_ne hcc _ _).trans hi)
          exact absurd (h.alone hc hcc) hend'
      · intro c' t' threadStatus hend
        by_cases hcc : c' = c
        · subst hcc
          cases (Function.update_self ..).symm.trans hend
        · exact h.fresh c' t' threadStatus ((Function.update_of_ne hcc _ _).symm.trans hend)

/-- The thread that is ended is closed. -/
lemma Good.close (h : Good system idle s) (hc : s.sched.currentThread = some c) (hend : s.ending c = .close t)
    (hidle : t ≠ idle) :
    Good system idle { s with
      sched := rtThreadClose s.sched t
      ending := Function.update s.ending c (.enqueue t (s.sched.thread t).stat) } := by
  have hclosed : ∀ u, (rtThreadClose s.sched t).Closed u ↔ u = t ∨ s.sched.Closed u := by
    intro u
    rw [closed_iff_life, closed_iff_life, look_rtThreadClose]
    by_cases hu : u = t
    · subst hu
      rw [Function.update_self]
      simp
    · rw [Function.update_of_ne hu]
      simp [hu]
  have hcpu : SameCpu s.sched (rtThreadClose s.sched t) := sameCpu_rtThreadClose
  obtain ⟨hcpu, hnest⟩ := hcpu
  have hnone : ∀ u threadStatus, s.ending c ≠ .enqueue u threadStatus := by
    intro u threadStatus he
    cases hend.symm.trans he
  obtain ⟨l, hl⟩ := h.listed
  refine ⟨⟨?_, ⟨l, hl.ring, hl.nodup, ?_, hl.apart, ?_, hl.ended⟩, ?_, ?_, h.static, h.dynamic⟩,
    h.inv.rtThreadClose, h.kind, ?_, ?_⟩
  · intro hc
    rcases (hclosed idle).mp hc with rfl | hc
    · exact hidle rfl
    · exact h.idle hc
  · intro u hu
    exact ⟨(hclosed u).mpr (.inr (hl.mem u hu).1), (hl.mem u hu).2⟩
  · intro u hcu ho
    by_cases hopen : s.sched.Closed u
    · rcases hl.all u hopen ho with hu | hbusy | ⟨c', threadStatus, he, hst⟩
      · exact .inl hu
      · exact .inr (.inl hbusy)
      · have hcc : c' ≠ c := by
          rintro rfl
          exact hnone u threadStatus he
        exact .inr (.inr ⟨c', threadStatus, (Function.update_of_ne hcc _ _).trans he, hst⟩)
    · obtain rfl := ((hclosed u).mp hcu).resolve_right hopen
      exact .inr (.inr ⟨c, _, Function.update_self .., hopen⟩)
  · intro u hu
    obtain ⟨hcu, ho, hne⟩ := h.busy u hu
    exact ⟨(hclosed u).mpr (.inr hcu), ho, fun hcur => hne (hcpu.symm.trans hcur)⟩
  · intro u hu
    obtain ⟨hcu, hne⟩ := h.gone u hu
    exact ⟨(hclosed u).mpr (.inr hcu), fun hcur => hne (hcpu.symm.trans hcur)⟩
  · intro c' he
    by_cases hcc : c' = c
    · subst hcc
      have hlock := (h.locked c' (by rw [hend]; simp)).2
      exact ⟨hcpu.trans hc, by rw [hnest]; exact hlock⟩
    · have he' : s.ending c' ≠ .idle := fun hi => he ((Function.update_of_ne hcc _ _).trans hi)
      exact absurd (h.alone hc hcc) he'
  · intro c' u threadStatus he hopen
    by_cases hcc : c' = c
    · subst hcc
      dsimp only at he
      rw [Function.update_self] at he
      obtain ⟨rfl, rfl⟩ := EndPc.enqueue.inj he
      have hobject : s.object t = true := by
        by_contra ho
        exact hopen (h.gone t (Bool.eq_false_iff.mpr ho)).1
      have hlist : t ∉ l := fun ht => hopen (hl.mem t ht).1
      refine ⟨(hclosed t).mpr (.inl rfl), hobject, fun hb => hopen (h.busy t hb).1, ?_⟩
      have hended := hl.ended t
      rw [List.count_eq_zero_of_not_mem hlist, Nat.zero_add] at hended
      exact hended
    · have he' : s.ending c' = .enqueue u threadStatus := (Function.update_of_ne hcc _ _).symm.trans he
      cases (h.alone hc hcc).symm.trans he'

/-- A thread that was open is put into the list. -/
lemma Good.enqueue (h : Good system idle s) (hc : s.sched.currentThread = some c) {threadStatus : ThreadStat}
    (hend : s.ending c = .enqueue t threadStatus) (hopen : threadStatus ≠ .close) :
    Good system idle { rtThreadDefunctEnqueue s t with ending := Function.update s.ending c .leave } := by
  obtain ⟨hclosed, hobject, hbusy, hcount⟩ := h.fresh c t threadStatus hend hopen
  obtain ⟨l, hl⟩ := h.listed
  have ht := hl.not_mem hcount
  have hcounts : ∀ u, u ≠ t → (rtThreadDefunctEnqueue s t).count u = s.count u := fun u hu =>
    Function.update_of_ne hu _ _
  have hself : (rtThreadDefunctEnqueue s t).count t = { s.count t with ended := (s.count t).ended + 1 } :=
    Function.update_self ..
  refine ⟨⟨h.idle, ⟨t :: l, ring_insertAfter hl.ring hl.nodup ht, List.nodup_cons.mpr ⟨ht, hl.nodup⟩, ?_, ?_,
    ?_, ?_⟩, h.busy, h.gone, ?_, ?_⟩, h.inv, h.kind, ?_, ?_⟩
  · intro u hu
    rcases List.mem_cons.mp hu with rfl | hu
    · exact ⟨hclosed, hobject⟩
    · exact hl.mem u hu
  · intro u hu hmem
    rcases List.mem_cons.mp hmem with rfl | hmem
    · exact hbusy hu
    · exact hl.apart u hu hmem
  · intro u hcu ho
    rcases hl.all u hcu ho with hu | hb | ⟨c', st, he, hst⟩
    · exact .inl (List.mem_cons_of_mem _ hu)
    · exact .inr (.inl hb)
    · by_cases hcc : c' = c
      · subst hcc
        obtain ⟨rfl, -⟩ := EndPc.enqueue.inj (hend.symm.trans he)
        exact .inl (List.mem_cons_self ..)
      · exact .inr (.inr ⟨c', st, (Function.update_of_ne hcc _ _).trans he, hst⟩)
  · intro u
    have hended := hl.ended u
    by_cases hu : u = t
    · subst hu
      show ((rtThreadDefunctEnqueue s u).count u).ended = ((rtThreadDefunctEnqueue s u).count u).cleanedUp + _
      rw [hself, List.count_cons_self]
      show (s.count u).ended + 1 = (s.count u).cleanedUp + (l.count u + 1 + s.exec.unclean.toList.count u)
      omega
    · show ((rtThreadDefunctEnqueue s t).count u).ended = ((rtThreadDefunctEnqueue s t).count u).cleanedUp + _
      rw [hcounts u hu, List.count_cons_of_ne (Ne.symm hu)]
      exact hended
  · intro u hu
    by_cases hut : u = t
    · subst hut
      show ((rtThreadDefunctEnqueue s u).count u).stackFreed = 0 ∧ _
      rw [hself]
      exact h.static u hu
    · show ((rtThreadDefunctEnqueue s t).count u).stackFreed = 0 ∧ _
      rw [hcounts u hut]
      exact h.static u hu
  · intro u hu
    by_cases hut : u = t
    · subst hut
      show ((rtThreadDefunctEnqueue s u).count u).cleanedUp = _ ∧ _
      rw [hself]
      exact h.dynamic u hu
    · show ((rtThreadDefunctEnqueue s t).count u).cleanedUp = _ ∧ _
      rw [hcounts u hut]
      exact h.dynamic u hu
  · intro c' he
    by_cases hcc : c' = c
    · subst hcc
      exact h.locked c' (by rw [hend]; simp)
    · have he' : s.ending c' ≠ .idle := fun hi => he ((Function.update_of_ne hcc _ _).trans hi)
      exact absurd (h.alone hc hcc) he'
  · intro c' u st he
    by_cases hcc : c' = c
    · subst hcc
      cases (Function.update_self ..).symm.trans he
    · have he' : s.ending c' = .enqueue u st := (Function.update_of_ne hcc _ _).symm.trans he
      cases (h.alone hc hcc).symm.trans he'

lemma Good.leave (h : Good system idle s) (hc : s.sched.currentThread = some c) (hend : s.ending c = .leave) :
    Good system idle { s with
      sched := { s.sched with lockNest := s.sched.lockNest - 1 }
      ending := Function.update s.ending c .idle } := by
  have hnone : ∀ u threadStatus, s.ending c ≠ .enqueue u threadStatus := by
    intro u threadStatus he
    cases hend.symm.trans he
  have hidle : ∀ c', (Function.update s.ending c .idle : Tid → EndPc Tid) c' = .idle := by
    intro c'
    by_cases hcc : c' = c
    · subst hcc
      exact Function.update_self ..
    · exact (Function.update_of_ne hcc _ _).trans (h.alone hc hcc)
  obtain ⟨l, hl⟩ := h.listed
  have hlist := hl.ending c .idle fun u st he _ => absurd he (hnone u st)
  refine ⟨⟨h.idle, ⟨l, hlist.ring, hlist.nodup, hlist.mem, hlist.apart, hlist.all, hlist.ended⟩, h.busy, h.gone,
    h.static, h.dynamic⟩, ⟨h.inv.toQueue.withCurrent _ _, h.inv.running, h.inv.current⟩, h.kind, ?_, ?_⟩
  · intro c' he
    exact absurd (hidle c') he
  · intro c' u st he
    cases (hidle c').symm.trans he

/-! ### The idle thread goes on -/

/-- A thread is taken out of the list. -/
lemma Good.dequeue (h : Good system idle s) (hcur : s.sched.currentThread = some idle)
    (hexec : s.exec = .dequeue) : Good system idle (rtDefunctExecute system s) := by
  obtain ⟨l, hl⟩ := h.listed
  have hhead := next_head hl.ring
  unfold rtDefunctExecute rtThreadDefunctDequeue
  rw [hexec]
  dsimp only
  cases l with
  | nil =>
    rw [hhead]
    exact h
  | cons t l =>
    rw [hhead]
    dsimp only [List.head?_cons]
    obtain ⟨ht, hnd⟩ := List.nodup_cons.mp hl.nodup
    have hmem := hl.mem t (List.mem_cons_self ..)
    have hne : ∀ u, s.exec.busy ≠ some u := by
      rw [hexec]
      exact fun _ he => by cases he
    have hended : ∀ u, (s.count u).ended = (s.count u).cleanedUp + (l.count u + [t].count u) := by
      intro u
      have hu := hl.ended u
      rw [hexec] at hu
      rw [hu, ← List.singleton_append, List.count_append, Nat.add_comm ([t].count u)]
      rfl
    refine ⟨⟨h.idle, ⟨l, ring_remove hl.ring hl.nodup, hnd, ?_, ?_, ?_, hended⟩, ?_, h.gone, h.static, ?_⟩,
      h.inv, trivial, h.locked, ?_⟩
    · intro u hu
      exact hl.mem u (List.mem_cons_of_mem _ hu)
    · intro u hu
      obtain rfl := Option.some.inj hu
      exact ht
    · intro u hc ho
      rcases hl.all u hc ho with hu | hb | hend
      · rcases List.mem_cons.mp hu with rfl | hu
        · exact .inr (.inl rfl)
        · exact .inl hu
      · exact absurd hb (hne u)
      · exact .inr (.inr hend)
    · intro u hu
      obtain rfl := Option.some.inj hu
      refine ⟨hmem.1, hmem.2, fun hc => h.idle ?_⟩
      obtain rfl := Option.some.inj (hcur.symm.trans hc)
      exact hmem.1
    · intro u hu
      have hd := h.dynamic u hu
      rw [hexec] at hd
      exact hd
    · intro c u st he hst
      obtain ⟨hc, ho, -, hcount⟩ := h.fresh c u st he hst
      have hmem' := hl.not_mem hcount
      have hut : u ≠ t := by
        rintro rfl
        exact hmem' (List.mem_cons_self ..)
      refine ⟨hc, ho, fun hb => hut (Option.some.inj hb).symm, ?_⟩
      have hnot : u ∉ [t] := by simpa using hut
      have hl' : u ∉ l := fun hu => hmem' (List.mem_cons_of_mem _ hu)
      have hu := hended u
      rw [List.count_eq_zero_of_not_mem hl', Nat.zero_add] at hu
      exact hu

/-- The idle thread goes on with the thread it has, which may lose its object. -/
lemma Good.exec (h : Good system idle s) {object : Tid → Bool} {exec : ExecPc Tid} {count : Tid → Counts}
    (hobject : ∀ u, object u = true → s.object u = true)
    (hgone : ∀ u, s.object u = true → object u = false → s.exec.busy = some u)
    (hbusy : ∀ u, exec.busy = some u → s.exec.busy = some u ∧ object u = true)
    (hleft : ∀ u, s.exec.busy = some u → exec.busy = some u ∨ object u = false)
    (hended : ∀ u, (count u).ended = (s.count u).ended ∧ (count u).cleanedUp + exec.unclean.toList.count u =
      (s.count u).cleanedUp + s.exec.unclean.toList.count u)
    (hstatic : ∀ u, system u = true → (count u).stackFreed = 0 ∧ (count u).deleted = 0)
    (hdynamic : ∀ u, system u = false →
      (count u).cleanedUp = (count u).stackFreed + exec.stack.toList.count u ∧
        (count u).stackFreed = (count u).deleted + exec.object.toList.count u)
    (hkind : exec.Kind system) :
    Good system idle { s with object := object, exec := exec, count := count } := by
  obtain ⟨l, hl⟩ := h.listed
  have hkept : ∀ u, s.object u = true → s.exec.busy ≠ some u → object u = true := by
    intro u hu hne
    by_contra ho
    exact hne (hgone u hu (Bool.eq_false_iff.mpr ho))
  refine ⟨⟨h.idle, ⟨l, hl.ring, hl.nodup, ?_, ?_, ?_, ?_⟩, ?_, ?_, hstatic, hdynamic⟩, h.inv, hkind, h.locked, ?_⟩
  · intro u hu
    obtain ⟨hc, ho⟩ := hl.mem u hu
    exact ⟨hc, hkept u ho fun hb => hl.apart u hb hu⟩
  · intro u hu
    exact hl.apart u (hbusy u hu).1
  · intro u hc ho
    rcases hl.all u hc (hobject u ho) with hu | hb | hend
    · exact .inl hu
    · rcases hleft u hb with hb' | ho'
      · exact .inr (.inl hb')
      · cases ho.symm.trans ho'
    · exact .inr (.inr hend)
  · intro u
    obtain ⟨he, hcount⟩ := hended u
    have hu := hl.ended u
    show (count u).ended = (count u).cleanedUp + (l.count u + exec.unclean.toList.count u)
    omega
  · intro u hu
    obtain ⟨hb, ho⟩ := hbusy u hu
    exact ⟨(h.busy u hb).1, ho, (h.busy u hb).2.2⟩
  · intro u hu
    by_cases ho : s.object u = true
    · obtain ⟨hc, -, hcur⟩ := h.busy u (hgone u ho hu)
      exact ⟨hc, hcur⟩
    · exact h.gone u (Bool.eq_false_iff.mpr ho)
  · intro c u st he hst
    obtain ⟨hc, ho, hne, hcount⟩ := h.fresh c u st he hst
    refine ⟨hc, hkept u ho hne, fun hb => hne (hbusy u hb).1, ?_⟩
    obtain ⟨he, hcount'⟩ := hended u
    show (count u).ended = (count u).cleanedUp + exec.unclean.toList.count u
    omega

/-- A static thread loses its object before its `cleanup` is called. -/
lemma Good.detachObject (h : Good system idle s) (hexec : s.exec = .detach t) :
    Good system idle (rtDefunctExecute system s) := by
  have hbusy : ∀ u, s.exec.busy = some u ↔ t = u := fun u => by rw [hexec]; exact Option.some_inj
  have hobject := (h.busy t ((hbusy t).mpr rfl)).2.1
  have hdynamic := h.dynamic
  unfold rtDefunctExecute
  rw [hexec] at hdynamic ⊢
  dsimp only
  rw [hobject, Bool.true_and]
  have hsame : ∀ u, (s.count u).ended = (s.count u).ended ∧
      (s.count u).cleanedUp + (some t).toList.count u =
        (s.count u).cleanedUp + s.exec.unclean.toList.count u := fun u => by
    rw [hexec]
    exact ⟨rfl, rfl⟩
  cases hsystem : system t
  · refine h.exec (fun u hu => hu) (fun u hu hu' => ?_) (fun u hu => ?_) (fun u hu => ?_) hsame h.static hdynamic
      hsystem.symm
    · cases hu.symm.trans hu'
    · obtain rfl := Option.some.inj hu
      exact ⟨(hbusy t).mpr rfl, hobject⟩
    · exact .inl (congrArg some ((hbusy u).mp hu))
  · refine h.exec (fun u hu => ?_) (fun u hu hu' => ?_) (fun u hu => ?_) (fun u hu => ?_) hsame h.static hdynamic
      hsystem.symm
    · by_cases hut : u = t
      · exact hut ▸ hobject
      · exact (Function.update_of_ne hut _ _).symm.trans hu
    · by_cases hut : u = t
      · exact (hbusy u).mpr hut.symm
      · cases hu.symm.trans ((Function.update_of_ne hut _ _).symm.trans hu')
    · cases hu
    · obtain rfl := (hbusy u).mp hu
      exact .inr (Function.update_self ..)

/-- Counts of other threads are left alone. -/
lemma forall_counts {P : Tid → Counts → Prop} {f : Counts → Counts} (h : ∀ u, u ≠ t → P u (s.count u))
    (ht : P t (f (s.count t))) (u : Tid) : P u ((s.counts t f).count u) := by
  unfold State.counts
  dsimp only
  by_cases hu : u = t
  · subst hu
    rw [Function.update_self]
    exact ht
  · rw [Function.update_of_ne hu]
    exact h u hu

omit [DecidableEq Tid] in
lemma toList_count [BEq Tid] [LawfulBEq Tid] {u : Tid} (hu : u ≠ t) : (some t).toList.count u = 0 :=
  List.count_eq_zero_of_not_mem (by simpa using hu)

lemma Good.callCleanup (h : Good system idle s) {cleanup objectIsSystemobject : Bool}
    (hexec : s.exec = .cleanup t cleanup objectIsSystemobject) :
    Good system idle (rtDefunctExecute system s) := by
  have hkind : objectIsSystemobject = system t := by
    have hk := h.kind
    rw [hexec] at hk
    exact hk
  have hdynamic := h.dynamic
  have hbusy : s.exec.busy = if objectIsSystemobject then none else some t := by rw [hexec]; rfl
  have hobject := h.busy
  have hended : ∀ u, (s.count u).cleanedUp + s.exec.unclean.toList.count u =
      (s.count u).cleanedUp + (some t).toList.count u := fun u => by rw [hexec]; rfl
  unfold rtDefunctExecute
  rw [hexec] at hdynamic ⊢
  dsimp only
  have hsame : ∀ (pc : ExecPc Tid), pc.unclean = none → ∀ u,
      ((s.counts t fun k => { k with
        cleanedUp := k.cleanedUp + 1, called := if cleanup then k.called + 1 else k.called }).count u).ended =
        (s.count u).ended ∧
      ((s.counts t fun k => { k with
        cleanedUp := k.cleanedUp + 1, called := if cleanup then k.called + 1 else k.called }).count u).cleanedUp +
        pc.unclean.toList.count u = (s.count u).cleanedUp + s.exec.unclean.toList.count u := by
    intro pc hpc
    refine forall_counts (P := fun u k => k.ended = (s.count u).ended ∧
      k.cleanedUp + pc.unclean.toList.count u = (s.count u).cleanedUp + s.exec.unclean.toList.count u) ?_ ?_
    · intro u hu
      rw [hended, hpc, toList_count hu]
      exact ⟨rfl, rfl⟩
    · rw [hended, hpc]
      simp
  cases objectIsSystemobject
  · refine h.exec (fun u hu => hu) (fun u hu hu' => ?_) (fun u hu => ?_) (fun u hu => ?_) (hsame _ rfl) ?_ ?_
      hkind.symm
    · cases hu.symm.trans hu'
    · obtain rfl := Option.some.inj hu
      exact ⟨hbusy, (hobject t hbusy).2.1⟩
    · exact .inl (hbusy.symm.trans hu)
    · refine forall_counts (P := fun u k => system u = true → k.stackFreed = 0 ∧ k.deleted = 0) ?_ ?_
      · exact fun u _ => h.static u
      · exact h.static t
    · refine forall_counts (P := fun u k => system u = false →
        k.cleanedUp = k.stackFreed + (some t).toList.count u ∧ k.stackFreed = k.deleted + 0) ?_ ?_
      · intro u hu hs
        rw [toList_count hu]
        exact hdynamic u hs
      · intro hs
        obtain ⟨hclean, hfree⟩ := hdynamic t hs
        refine ⟨?_, hfree⟩
        simp only [ExecPc.stack, Option.toList_none, List.count_nil] at hclean
        simp [hclean]
  · refine h.exec (fun u hu => hu) (fun u hu hu' => ?_) (fun u hu => ?_) (fun u hu => ?_) (hsame _ rfl) ?_ ?_
      trivial
    · cases hu.symm.trans hu'
    · cases hu
    · cases hbusy.symm.trans hu
    · refine forall_counts (P := fun u k => system u = true → k.stackFreed = 0 ∧ k.deleted = 0) ?_ ?_
      · exact fun u _ => h.static u
      · exact h.static t
    · refine forall_counts (P := fun u k => system u = false →
        k.cleanedUp = k.stackFreed + 0 ∧ k.stackFreed = k.deleted + 0) ?_ ?_
      · exact fun u _ => hdynamic u
      · intro hs
        cases hkind.trans hs

lemma Good.freeStack (h : Good system idle s) (hexec : s.exec = .freeStack t) :
    Good system idle (rtDefunctExecute system s) := by
  have hkind : system t = false := by
    have hk := h.kind
    rw [hexec] at hk
    exact hk
  have hdynamic := h.dynamic
  have hbusy : s.exec.busy = some t := by rw [hexec]; rfl
  have hended : ∀ u, s.exec.unclean.toList.count u = 0 := fun u => by rw [hexec]; rfl
  have hobject := (h.busy t hbusy).2.1
  unfold rtDefunctExecute
  rw [hexec] at hdynamic ⊢
  dsimp only
  refine h.exec (fun u hu => hu) (fun u hu hu' => ?_) (fun u hu => ?_) (fun u hu => ?_) ?_ ?_ ?_ hkind
  · cases hu.symm.trans hu'
  · obtain rfl := Option.some.inj hu
    exact ⟨hbusy, hobject⟩
  · exact .inl (hbusy.symm.trans hu)
  · refine forall_counts (P := fun u k => k.ended = (s.count u).ended ∧
      k.cleanedUp + 0 = (s.count u).cleanedUp + s.exec.unclean.toList.count u) ?_ ?_
    · intro u _
      rw [hended]
      exact ⟨rfl, rfl⟩
    · rw [hended]
      exact ⟨rfl, rfl⟩
  · refine forall_counts (P := fun u k => system u = true → k.stackFreed = 0 ∧ k.deleted = 0) ?_ ?_
    · exact fun u _ => h.static u
    · intro hs
      cases hkind.symm.trans hs
  · refine forall_counts (P := fun u k => system u = false →
      k.cleanedUp = k.stackFreed + 0 ∧ k.stackFreed = k.deleted + (some t).toList.count u) ?_ ?_
    · intro u hu hs
      obtain ⟨hclean, hfree⟩ := hdynamic u hs
      have hclean' : (s.count u).cleanedUp = (s.count u).stackFreed + (some t).toList.count u := hclean
      rw [toList_count hu] at hclean' ⊢
      exact ⟨hclean', hfree⟩
    · intro hs
      obtain ⟨hclean, hfree⟩ := hdynamic t hs
      simp only [ExecPc.stack, ExecPc.object, Option.toList_some, Option.toList_none, List.count_nil,
        List.count_singleton_self] at hclean hfree
      simp [hclean, hfree]

lemma Good.deleteObject (h : Good system idle s) (hexec : s.exec = .delete t) :
    Good system idle (rtDefunctExecute system s) := by
  have hkind : system t = false := by
    have hk := h.kind
    rw [hexec] at hk
    exact hk
  have hdynamic := h.dynamic
  have hbusy : ∀ u, s.exec.busy = some u ↔ t = u := fun u => by rw [hexec]; exact Option.some_inj
  have hended : ∀ u, s.exec.unclean.toList.count u = 0 := fun u => by rw [hexec]; rfl
  have hobject := (h.busy t ((hbusy t).mpr rfl)).2.1
  unfold rtDefunctExecute
  rw [hexec] at hdynamic ⊢
  dsimp only
  refine h.exec (fun u hu => ?_) (fun u hu hu' => ?_) (fun u hu => ?_) (fun u hu => ?_) ?_ ?_ ?_ trivial
  · by_cases hut : u = t
    · exact hut ▸ hobject
    · exact (Function.update_of_ne hut _ _).symm.trans hu
  · by_cases hut : u = t
    · exact (hbusy u).mpr hut.symm
    · cases hu.symm.trans ((Function.update_of_ne hut _ _).symm.trans hu')
  · cases hu
  · obtain rfl := (hbusy u).mp hu
    exact .inr (Function.update_self ..)
  · refine forall_counts (P := fun u k => k.ended = (s.count u).ended ∧
      k.cleanedUp + 0 = (s.count u).cleanedUp + s.exec.unclean.toList.count u) ?_ ?_
    · intro u _
      rw [hended]
      exact ⟨rfl, rfl⟩
    · rw [hended]
      exact ⟨rfl, rfl⟩
  · refine forall_counts (P := fun u k => system u = true → k.stackFreed = 0 ∧ k.deleted = 0) ?_ ?_
    · exact fun u _ => h.static u
    · intro hs
      cases hkind.symm.trans hs
  · refine forall_counts (P := fun u k => system u = false →
      k.cleanedUp = k.stackFreed + 0 ∧ k.stackFreed = k.deleted + 0) ?_ ?_
    · intro u hu hs
      obtain ⟨hclean, hfree⟩ := hdynamic u hs
      have hfree' : (s.count u).stackFreed = (s.count u).deleted + (some t).toList.count u := hfree
      rw [toList_count hu] at hfree'
      exact ⟨hclean, hfree'⟩
    · intro hs
      obtain ⟨hclean, hfree⟩ := hdynamic t hs
      simp only [ExecPc.object, Option.toList_some, List.count_singleton_self] at hfree
      exact ⟨hclean, hfree⟩

/-- The idle thread goes on. -/
lemma Good.execute (h : Good system idle s) (hcur : s.sched.currentThread = some idle) :
    Good system idle (rtDefunctExecute system s) := by
  rcases hexec : s.exec with _ | t | ⟨t, cleanup, objectIsSystemobject⟩ | t | t
  · exact h.dequeue hcur hexec
  · exact h.detachObject hexec
  · exact h.callCleanup hexec
  · exact h.freeStack hexec
  · exact h.deleteObject hexec

end N32L43x.Defunct
