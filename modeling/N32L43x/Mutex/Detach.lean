import N32L43x.Mutex.Steps

/-!
The end of a thread: it leaves the list it waits in, and what becomes of the mutexes it owns.
-/

namespace N32L43x.Mutex

open N32L43x.Sched N32L43x.Ipc N32L43x.Lib.Run

variable {Tid Oid : Type}

/-! ### Who can be an owner -/

/-- Nobody has ended, and who owns a mutex that it did not own before has not ended. -/
structure Heirs (s s' : State Tid Oid) : Prop where
  closed : ∀ t, (s'.kernel.look t).life = .closed ↔ (s.kernel.look t).life = .closed
  owner : ∀ m t, (s'.mutex m).owner = some t →
    (s.mutex m).owner = some t ∨ (s.kernel.look t).life ≠ .closed

namespace Heirs

variable {s s' s₁ s₂ s₃ : State Tid Oid} {t u : Tid} {m : Oid}

lemma trans (h₁ : Heirs s₁ s₂) (h₂ : Heirs s₂ s₃) : Heirs s₁ s₃ where
  closed t := (h₂.closed t).trans (h₁.closed t)
  owner m t hm := by
    rcases h₂.owner m t hm with hm₂ | hlife
    · exact h₁.owner m t hm₂
    · exact .inr fun hcl => hlife ((h₁.closed t).mpr hcl)

/-- The owners are the same. -/
lemma of_same (hlife : ∀ t, (s'.kernel.look t).life = (s.kernel.look t).life)
    (howner : ∀ m, (s'.mutex m).owner = (s.mutex m).owner) : Heirs s s' where
  closed t := by rw [hlife]
  owner m t hm := .inl ((howner m).symm.trans hm)

lemma of_idle (h : Idle s s') : Heirs s s' :=
  of_same (fun t => by rw [h.look]) (fun m => by rw [h.mutex])

lemma of_reprio (h : Reprio s s') : Heirs s s' :=
  of_same h.life h.owner

variable [DecidableEq Oid]

lemma setHold (m : Oid) (hold : ℕ) : Heirs s (s.setMutex m { s.mutex m with hold := hold }) := by
  refine of_same (fun _ => rfl) fun m' => ?_
  unfold State.setMutex
  by_cases hm : m' = m
  · rw [hm]
    simp only [Function.update_self]
  · simp only [Function.update_of_ne hm]

variable [DecidableEq Tid]

lemma handOver {pc : Tid → Pc Oid} (ht : Threads s pc) (h : State.HandOver s m s') : Heirs s s' := by
  cases h with
  | free hlist =>
    refine ⟨fun _ => Iff.rfl, fun m' t hm' => ?_⟩
    unfold State.setMutex at hm'
    by_cases hm : m' = m
    · subst hm
      simp only [Function.update_self] at hm'
      cases hm'
    · simp only [Function.update_of_ne hm] at hm'
      exact .inl hm'
  | next kernel next rest hlist hr =>
    have hmem : next ∈ s.waiters m := by
      rw [hlist]
      exact List.mem_cons_self ..
    have hsus : (s.kernel.look next).life = .suspended := (ht.ok next).suspended _ hmem
    refine ⟨fun u => ?_, fun m' u hm' => ?_⟩
    · change (kernel.look u).life = .closed ↔ _
      rw [hr.look]
      by_cases hu : u = next
      · subst hu
        rw [Function.update_self, hsus]
        exact iff_of_false nofun nofun
      · rw [Function.update_of_ne hu]
    · unfold State.handed State.mutexUpdatePriority State.setMutex at hm'
      by_cases hm : m' = m
      · subst hm
        simp only [Function.update_self] at hm'
        obtain rfl := Option.some.inj hm'
        right
        rw [hsus]
        nofun
      · simp only [Function.update_of_ne hm] at hm'
        exact .inl hm'

end Heirs

/-! ### Releasing the mutexes -/

variable [DecidableEq Tid] [DecidableEq Oid]

section Release

variable {s s' : State Tid Oid} {pc : Tid → Pc Oid} {self t : Tid} {m m' : Oid}

omit [DecidableEq Tid] [DecidableEq Oid] in
lemma Idle.owner (h : Idle s s') (m : Oid) : (s'.mutex m).owner = (s.mutex m).owner := by
  rw [h.mutex]

omit [DecidableEq Tid] in
lemma State.setMutex_owner_of_ne {mutex : RtMutex Tid} (h : m' ≠ m) :
    ((s.setMutex m mutex).mutex m').owner = (s.mutex m').owner := by
  unfold setMutex
  simp only [Function.update_of_ne h]

lemma Heirs.release (h : Core s pc) (hn : Core.Nobody pc) (hr : State.Release s self m s') :
    Heirs s s' := by
  cases hr with
  | refused _ _ hi => exact of_idle hi
  | less s₁ _ _ _ h₁ h₂ => exact ((of_idle h₁).trans (setHold m _)).trans (of_idle h₂)
  | last s₁ s₂ _ _ _ h₁ hover h₂ =>
    have hc := h.of_idle hn h₁
    have hgiven := State.reprio_givenUp s₁ self m
    have hdropped : Threads (s₁.dropped m) pc := hc.threads.withKernel rfl rfl
    have hdrop : Heirs s₁ (s₁.dropped m) :=
      (setHold m 0).trans (of_same (fun _ => rfl) fun _ => rfl)
    exact ((((of_idle h₁).trans hdrop).trans (of_reprio hgiven)).trans
      (handOver (hdropped.of_reprio hgiven) hover)).trans (of_idle h₂)

lemma State.HandOver.owner_of_ne (h : State.HandOver s m s') (hm : m' ≠ m) :
    (s'.mutex m').owner = (s.mutex m').owner := by
  cases h with
  | free => exact setMutex_owner_of_ne hm
  | next kernel next rest hlist hr =>
    unfold State.handed State.mutexUpdatePriority State.setMutex
    simp only [Function.update_of_ne hm]

/-- The mutex passes to a thread that waited for it. -/
lemma State.HandOver.owner_self (h : State.HandOver s m s') (ho : (s'.mutex m).owner = some t) :
    t ∈ s.waiters m := by
  cases h with
  | free =>
    unfold State.setMutex at ho
    simp only [Function.update_self] at ho
    cases ho
  | next kernel next rest hlist hr =>
    unfold State.handed State.mutexUpdatePriority State.setMutex at ho
    simp only [Function.update_self] at ho
    obtain rfl := Option.some.inj ho
    rw [hlist]
    exact List.mem_cons_self ..

lemma State.Release.owner_of_ne (h : State.Release s self m s') (hm : m' ≠ m) :
    (s'.mutex m').owner = (s.mutex m').owner := by
  cases h with
  | refused _ _ hi => exact hi.owner m'
  | less s₁ _ _ _ h₁ h₂ => exact (h₂.owner m').trans ((setMutex_owner_of_ne hm).trans (h₁.owner m'))
  | last s₁ s₂ _ _ _ h₁ hover h₂ =>
    calc (s'.mutex m').owner = (s₂.mutex m').owner := h₂.owner m'
      _ = ((s₁.givenUp self m).mutex m').owner := hover.owner_of_ne hm
      _ = ((s₁.dropped m).mutex m').owner := (State.reprio_givenUp s₁ self m).owner m'
      _ = (s₁.mutex m').owner := setMutex_owner_of_ne hm
      _ = (s.mutex m').owner := h₁.owner m'

/-- After its last release a mutex belongs to a thread that waited for it, or to nobody. -/
lemma State.Release.owner_self (h : State.Release s self m s') (howner : (s.mutex m).owner = some self)
    (hhold : (s.mutex m).hold = 1) (ho : (s'.mutex m).owner = some t) : t ∈ s.waiters m := by
  cases h with
  | refused _ hne _ => exact absurd howner hne
  | less _ _ _ hne _ _ => exact absurd hhold hne
  | last s₁ s₂ _ _ _ h₁ hover h₂ =>
    rw [h₂.owner] at ho
    have hmem := ((State.reprio_givenUp s₁ self m).mem (.mutex m) t).mp (hover.owner_self ho)
    have hmem' : t ∈ s₁.waiters m := hmem
    rwa [h₁.waiters] at hmem'

omit [DecidableEq Tid] [DecidableEq Oid] in
/-- A thread waits for one mutex at a time. -/
lemma Threads.waiters_unique (h : Threads s pc) (hm : t ∈ s.waiters m) (hm' : t ∈ s.waiters m') :
    m' = m := by
  have hp : s.pendingObject t = some m := (h.ok t).mutex m hm
  have hp' : s.pendingObject t = some m' := (h.ok t).mutex m' hm'
  rw [hp] at hp'
  exact (Option.some.inj hp').symm

lemma State.HandOver.waiters (ht : Threads s pc) (h : State.HandOver s m s')
    (hw : t ∈ s.waiters m') :
    t ∈ s'.waiters m' ∨ (m' = m ∧ (s'.mutex m).owner = some t) := by
  cases h with
  | free => exact .inl hw
  | next kernel next rest hlist hr =>
    by_cases hnext : t = next
    · subst hnext
      have hmem : t ∈ s.waiters m := by
        rw [hlist]
        exact List.mem_cons_self ..
      refine .inr ⟨ht.waiters_unique hmem hw, ?_⟩
      unfold State.handed State.mutexUpdatePriority State.setMutex
      simp only [Function.update_self]
    · left
      change t ∈ kernel.suspendThread (.mutex m')
      rw [hr.suspendThread]
      exact List.mem_filter.mpr ⟨hw, decide_eq_true hnext⟩

/-- Who waits goes on waiting or has become the owner. -/
lemma State.Release.waiters (hc : Core s pc) (hn : Core.Nobody pc) (h : State.Release s self m s')
    (hw : t ∈ s.waiters m') :
    t ∈ s'.waiters m' ∨ (m' = m ∧ (s'.mutex m).owner = some t) := by
  cases h with
  | refused _ _ hi =>
    rw [hi.waiters]
    exact .inl hw
  | less s₁ _ _ _ h₁ h₂ =>
    rw [h₂.waiters]
    change t ∈ s₁.waiters m' ∨ _
    rw [h₁.waiters]
    exact .inl hw
  | last s₁ s₂ _ _ _ h₁ hover h₂ =>
    have hgiven := State.reprio_givenUp s₁ self m
    have hdropped : Threads (s₁.dropped m) pc := (hc.of_idle hn h₁).threads.withKernel rfl rfl
    have hw₁ : t ∈ (s₁.givenUp self m).waiters m' := by
      refine (hgiven.mem (.mutex m') t).mpr ?_
      change t ∈ s₁.waiters m'
      rw [h₁.waiters]
      exact hw
    rw [h₂.waiters, h₂.owner]
    exact hover.waiters (hdropped.of_reprio hgiven) hw₁

end Release

/-- One turn of the loop of `_thread_detach_from_mutex`. -/
def State.releaseOne (self : Tid) (s : State Tid Oid) (m : Oid) : State Tid Oid :=
  let s := s.setMutex m { s.mutex m with hold := 1 }
  let (s, _, needSchedule) := s.rtMutexRelease self m
  if needSchedule then s.schedule else s

/-- What the loop of `_thread_detach_from_mutex` does, by the thread `caller` over mutexes of the thread
`t`: they are released if that is the thread itself. -/
structure Released (s s' : State Tid Oid) (caller t : Tid) (taken : List Oid) : Prop where
  heirs : Heirs s s'
  gone : ∀ m, (s'.mutex m).owner = some t → (s.mutex m).owner = some t ∧ (caller = t → m ∉ taken)
  other : ∀ m, m ∉ taken → (s'.mutex m).owner = (s.mutex m).owner
  kept : ∀ m u, u ∈ s.waiters m → u ∈ s'.waiters m ∨ (m ∈ taken ∧ (s'.mutex m).owner = some u)

omit [DecidableEq Tid] [DecidableEq Oid] in
lemma Released.cons {s s₁ s' : State Tid Oid} {self t : Tid} {m : Oid} {taken : List Oid}
    (h₁ : Released s s₁ self t [m])
    (h₂ : Released s₁ s' self t taken) (hm : m ∉ taken) : Released s s' self t (m :: taken) where
  heirs := h₁.heirs.trans h₂.heirs
  gone m' hm' := by
    obtain ⟨ho₁, hnot⟩ := h₂.gone m' hm'
    obtain ⟨ho, hne⟩ := h₁.gone m' ho₁
    refine ⟨ho, fun hst hmem => ?_⟩
    rcases List.mem_cons.mp hmem with heq | hmem'
    · exact hne hst (List.mem_singleton.mpr heq)
    · exact hnot hst hmem'
  other m' hm' := by
    rw [List.mem_cons, not_or] at hm'
    rw [h₂.other m' hm'.2, h₁.other m' (List.mem_singleton.not.mpr hm'.1)]
  kept m' u hu := by
    rcases h₁.kept m' u hu with hu₁ | ⟨hmem, ho₁⟩
    · rcases h₂.kept m' u hu₁ with hu₂ | ⟨hmem₂, ho₂⟩
      · exact .inl hu₂
      · exact .inr ⟨List.mem_cons_of_mem m hmem₂, ho₂⟩
    · -- the mutex that was handed over is not touched again
      obtain rfl := List.mem_singleton.mp hmem
      rw [h₂.other m' hm]
      exact .inr ⟨List.mem_cons_self .., ho₁⟩

namespace Core

variable {fuel : ℕ} {s s' : State Tid Oid} {pc : Tid → Pc Oid} {self t u : Tid} {m : Oid}

lemma release_of_rtMutexRelease (h : Core s pc) :
    State.Release s self m (s.rtMutexRelease self m).1 := by
  refine State.rtMutexRelease_cases h.threads.inv (fun u hu => ?_) fun hown => ?_
  · have hsus : s.kernel.Suspended u := (h.threads.ok u).suspended _ hu
    exact ⟨hsus, h.threads.timerLive hsus⟩
  · exact ⟨(h.owners.hold_pos m).mpr (by rw [hown]; nofun), h.owners.hold_le m⟩

/-- A turn of the loop is a release of the mutex by the calling thread. -/
lemma releaseOne_cases (self : Tid) (h : Core s pc) (hn : Nobody pc) (howner : (s.mutex m).owner = some t) :
    ∃ s₁, Core (s.setMutex m { s.mutex m with hold := 1 }) pc ∧
      State.Release (s.setMutex m { s.mutex m with hold := 1 }) self m s₁ ∧
      Idle s₁ (s.releaseOne self m) := by
  have hset := h.owners.setHold (m := m) 1 Nat.one_pos (by decide) (by rw [howner]; nofun)
  have hc := h.withOwners hset rfl rfl
  have hr : State.Release _ self m _ := hc.release_of_rtMutexRelease
  refine ⟨_, hc, hr, ?_⟩
  have hinv := (hc.release hn hr).threads.inv
  unfold State.releaseOne
  simp only
  split
  · exact Idle.schedule hinv
  · exact Idle.refl hinv

/-- One turn of the loop. -/
lemma releaseOne (self : Tid) (h : Core s pc) (hn : Nobody pc) (hclosed : (s.kernel.look t).life = .closed)
    (howner : (s.mutex m).owner = some t) :
    Core (s.releaseOne self m) pc ∧ Released s (s.releaseOne self m) self t [m] := by
  obtain ⟨s₁, hset, hrel, hi⟩ := h.releaseOne_cases self hn howner
  have hother : ∀ m', m' ≠ m → ((s.releaseOne self m).mutex m').owner = (s.mutex m').owner := by
    intro m' hm'
    rw [hi.owner, hrel.owner_of_ne hm', State.setMutex_owner_of_ne hm']
  -- the mutex itself does not come back to the thread, which waits for nothing
  have hself : self = t → ((s.releaseOne self m).mutex m).owner ≠ some t := by
    rintro rfl ho
    rw [hi.owner] at ho
    have hm : (s.setMutex m { s.mutex m with hold := 1 }).mutex m = { s.mutex m with hold := 1 } :=
      Function.update_self ..
    have hwait := hrel.owner_self (by rw [hm]; exact howner) (by rw [hm]) ho
    have hsus : (s.kernel.look self).life = .suspended := (h.threads.ok self).suspended _ hwait
    rw [hclosed] at hsus
    cases hsus
  refine ⟨(hset.release hn hrel).of_idle hn hi,
    ((Heirs.setHold m 1).trans (Heirs.release hset hn hrel)).trans (Heirs.of_idle hi),
    fun m' hm' => ?_, fun m' hm' => hother m' (List.mem_singleton.not.mp hm'), fun m' u hu => ?_⟩
  · by_cases hmm : m' = m
    · subst hmm
      exact ⟨howner, fun hst => absurd hm' (hself hst)⟩
    · rw [hother m' hmm] at hm'
      exact ⟨hm', fun _ => List.mem_singleton.not.mpr hmm⟩
  · rw [hi.waiters, hi.owner]
    rcases hrel.waiters hset hn hu with hw | ⟨rfl, ho⟩
    · exact .inl hw
    · exact .inr ⟨List.mem_cons_self .., ho⟩

/-- The whole loop. -/
lemma releaseTaken (self : Tid) (hn : Nobody pc) : ∀ (taken : List Oid) {s : State Tid Oid}, Core s pc →
    (s.kernel.look t).life = .closed → taken.Nodup → (∀ m ∈ taken, (s.mutex m).owner = some t) →
      Core (s.releaseTaken self taken) pc ∧ Released s (s.releaseTaken self taken) self t taken
  | [], s, h, _, _, _ =>
    ⟨h, Heirs.of_same (fun _ => rfl) fun _ => rfl, fun _ hm => ⟨hm, fun _ => List.not_mem_nil⟩,
      fun _ _ => rfl, fun _ _ => .inl⟩
  | m :: taken, s, h, hclosed, hnodup, htaken => by
    rw [List.nodup_cons] at hnodup
    obtain ⟨hc₁, hrel⟩ := h.releaseOne self hn hclosed (htaken m (List.mem_cons_self ..))
    obtain ⟨hc₂, hrest⟩ := releaseTaken self hn taken hc₁ ((hrel.heirs.closed t).mpr hclosed) hnodup.2
      fun m' hm' => by
        rw [hrel.other m' (List.mem_singleton.not.mpr fun heq => hnodup.1 (heq ▸ hm'))]
        exact htaken m' (List.mem_cons_of_mem m hm')
    exact ⟨hc₂, hrel.cons hrest hnodup.1⟩

/-! ### Ending a thread -/

omit [DecidableEq Oid] in
/-- The thread leaves the list it waits in, for ever. -/
lemma close (h : Core s pc) (hn : Nobody pc) : Core (s.rtThreadClose t) pc := by
  unfold State.rtThreadClose
  simp only
  split
  · exact h
  · rename_i hlife
    refine h.leave (t := t) h.threads.inv.rtThreadClose (fun u hu => ?_) ?_ (fun u hu => ?_) ?_ ?_
      (Threads.early_eq_none (hn t)) fun _ => sameCpu_rtThreadClose
    · refine (congrFun look_rtThreadClose u).trans ?_
      rw [Function.update_of_ne hu]
      rfl
    · refine (congrArg (fun x => x.life ≠ .suspended) (congrFun look_rtThreadClose t)).mpr ?_
      rw [Function.update_self]
      nofun
    · exact Function.update_of_ne hu ..
    · exact Function.update_self ..
    · split
      · -- a thread that was not started waits nowhere
        rename_i hinit
        funext l
        refine (List.filter_eq_self.mpr fun u hu => ?_).symm
        rw [decide_eq_true_eq]
        rintro rfl
        have hsus : (s.kernel.look u).life = .suspended := (h.threads.ok u).suspended l hu
        rw [hinit] at hsus
        cases hsus
      · rfl

omit [DecidableEq Oid] in
/-- A thread that has ended is in no list. -/
lemma listRemove_eq (h : Core s pc) (hclosed : (s.kernel.look t).life = .closed) :
    s.kernel.listRemove t = s.kernel := by
  have hready : (s.kernel.sched.thread t).stat ≠ .ready := by
    intro hr
    have hlive : (s.kernel.look t).life = .live := life_live_iff.mpr (.inl hr)
    rw [hclosed] at hlive
    cases hlive
  have hlist : (fun l => (s.kernel.suspendThread l).filter (· ≠ t)) = s.kernel.suspendThread := by
    funext l
    refine List.filter_eq_self.mpr fun u hu => ?_
    rw [decide_eq_true_eq]
    rintro rfl
    have hsus : (s.kernel.look u).life = .suspended := (h.threads.ok u).suspended l hu
    rw [hclosed] at hsus
    cases hsus
  unfold Kernel.listRemove
  rw [h.threads.inv.toQueue.listRemove_eq hready, hlist]

omit [DecidableEq Oid] in
/-- A thread that has ended waits for nothing any more. -/
lemma clear_of_closed (h : Core s pc) (hclosed : (s.kernel.look t).life = .closed) :
    Core { s with pendingObject := Function.update s.pendingObject t none } pc := by
  have hpend : ∀ m u, Function.update s.pendingObject t none u = some m →
      s.pendingObject u = some m := by
    intro m u hm
    by_cases hu : u = t
    · rw [hu, Function.update_self] at hm
      cases hm
    · rwa [Function.update_of_ne hu] at hm
  have hlife : (s.kernel.look t).life ≠ .suspended := by
    rw [hclosed]
    nofun
  refine ⟨h.threads.change t h.threads.inv (fun u hu => ?_) ?_ h.threads.locked,
    h.owners.keep (fun _ => ⟨rfl, rfl⟩) rfl (fun _ _ => id) hpend⟩
  · exact State.sit_congr rfl rfl rfl (fun _ => Iff.rfl) (Function.update_of_ne hu ..) rfl
  · refine Sit.ok_of_not_suspended hlife (fun l hl => hlife ((h.threads.ok t).suspended l hl)) ?_
      (fun m hm => (h.threads.ok t).target m (hpend m t hm)) ?_
    · change s.kernel.timerActive t = false
      rw [Bool.eq_false_iff]
      exact fun hact => hlife ((h.threads.ok t).active hact).1
    · change (pc t).early = none
      cases he : (pc t).early with
      | none => rfl
      | some m => exact absurd ((h.threads.ok t).early m he).1 hlife

/-- What `_thread_detach_from_mutex` does to the mutex that the thread waits for. -/
lemma dropThread {s₁ : State Tid Oid} (h : Core s pc) (hn : Nobody pc)
    (hclosed : (s.kernel.look t).life = .closed)
    (hs : (match s.pendingObject t with
      | none => some s
      | some m => (s.rtMutexDropThread fuel m t).map fun s =>
        { s with pendingObject := Function.update s.pendingObject t none }) = some s₁) :
    Core s₁ pc ∧ Heirs s s₁ ∧ s₁.takenObjectList = s.takenObjectList ∧
      ∀ m u, u ∈ s₁.waiters m ↔ u ∈ s.waiters m := by
  split at hs
  · cases hs
    exact ⟨h, Heirs.of_same (fun _ => rfl) fun _ => rfl, rfl, fun _ _ => Iff.rfl⟩
  · rename_i m hm
    unfold State.rtMutexDropThread at hs
    simp only [Option.map_map, Option.map_eq_some_iff] at hs
    obtain ⟨s₂, hleft, rfl⟩ := hs
    have hlock := Idle.lock h.threads.inv
    have hc := h.of_idle hn hlock
    have hclosed₁ : (s.lock.kernel.look t).life = .closed := hclosed
    rw [hc.listRemove_eq hclosed₁] at hleft
    have hr := State.reprio_waiterLeft hc.threads.placed hlock.inv hleft
    have hc₂ := hc.of_reprio hr
    have hunlock := Idle.unlock hc₂.threads.inv
    have hheirs : Heirs s s₂.unlock :=
      ((Heirs.of_idle hlock).trans (Heirs.of_reprio hr)).trans (Heirs.of_idle hunlock)
    refine ⟨(hc₂.of_idle hn hunlock).clear_of_closed ((hheirs.closed t).mpr hclosed),
      hheirs.trans (Heirs.of_same (fun _ => rfl) fun _ => rfl), hr.takenObjectList, fun m' u => ?_⟩
    change u ∈ s₂.unlock.waiters m' ↔ _
    rw [hunlock.waiters]
    exact hr.mem (.mutex m') u

/-- What the end of the thread `t` does, in the context of the thread `caller`. -/
structure Detached (s s' : State Tid Oid) (caller t : Tid) : Prop where
  closed : ∀ u, (s'.kernel.look u).life = .closed ↔ u = t ∨ (s.kernel.look u).life = .closed
  owner : ∀ m u, (s'.mutex m).owner = some u →
    (s.mutex m).owner = some u ∨ (s'.kernel.look u).life ≠ .closed
  gone : caller = t ∨ s.takenObjectList t = [] → ∀ m, (s'.mutex m).owner ≠ some t
  kept : ∀ m u, u ≠ t → u ∈ s.waiters m → u ∈ s'.waiters m ∨ (s'.mutex m).owner = some u

omit [DecidableEq Oid] in
lemma closed_rtThreadClose (u : Tid) : ((s.rtThreadClose t).kernel.look u).life = .closed ↔
    u = t ∨ (s.kernel.look u).life = .closed := by
  unfold State.rtThreadClose
  simp only
  split
  · rename_i hcl
    constructor
    · exact .inr
    · rintro (rfl | h)
      · exact hcl
      · exact h
  · refine (congrArg (fun x => x.life = .closed) (congrFun look_rtThreadClose u)).to_iff.trans ?_
    by_cases hu : u = t
    · rw [hu, Function.update_self]
      exact iff_of_true rfl (.inl rfl)
    · rw [Function.update_of_ne hu]
      exact (or_iff_right hu).symm

omit [DecidableEq Oid] in
lemma waiters_rtThreadClose (hu : u ≠ t) (hw : u ∈ s.waiters m) :
    u ∈ (s.rtThreadClose t).waiters m := by
  unfold State.rtThreadClose
  simp only
  split
  · exact hw
  · split
    · exact hw
    · exact List.mem_filter.mpr ⟨hw, decide_eq_true hu⟩

omit [DecidableEq Oid] in
lemma rtThreadClose_objects : (s.rtThreadClose t).mutex = s.mutex ∧
    (s.rtThreadClose t).takenObjectList = s.takenObjectList := by
  unfold State.rtThreadClose
  simp only
  split <;> exact ⟨rfl, rfl⟩

/-- **The end of a thread.** -/
theorem detach (h : Core s pc) (hn : Nobody pc) (hs : s.threadDetach fuel self t = some s') :
    Core s' pc ∧ Detached s s' self t := by
  unfold State.threadDetach State.threadDetachFromMutex at hs
  simp only [Option.map_map, Option.map_eq_some_iff] at hs
  obtain ⟨s₂, hdrop, rfl⟩ := hs
  have hlock := Idle.lock h.threads.inv
  have hclose : Core (s.lock.rtThreadClose t) pc := (h.of_idle hn hlock).close hn
  have hlock₁ := Idle.lock hclose.threads.inv
  have hclosed : ∀ u, ((s.lock.rtThreadClose t).lock.kernel.look u).life = .closed ↔
      u = t ∨ (s.kernel.look u).life = .closed :=
    fun u => closed_rtThreadClose (s := s.lock) u
  obtain ⟨hc₂, hheirs₂, htaken₂, hwait₂⟩ :=
    (hclose.of_idle hn hlock₁).dropThread hn ((hclosed t).mpr (.inl rfl)) hdrop
  have hall : ∀ m, m ∈ s₂.takenObjectList t → (s₂.mutex m).owner = some t := fun m hm =>
    (hc₂.owners.own m t).mpr hm
  obtain ⟨hc₃, hrel⟩ := releaseTaken self hn (s₂.takenObjectList t) hc₂
    ((hheirs₂.closed t).mpr ((hclosed t).mpr (.inl rfl))) (hc₂.owners.nodup t) hall
  have hunlock := Idle.unlock hc₃.threads.inv
  have hc₄ := hc₃.of_idle hn hunlock
  have hunlock₁ := Idle.unlock hc₄.threads.inv
  have hafter := hunlock.trans hunlock₁
  have hheirs : Heirs (s.lock.rtThreadClose t).lock _ :=
    (hheirs₂.trans hrel.heirs).trans (Heirs.of_idle hafter)
  have hsame := rtThreadClose_objects (s := s.lock) (t := t)
  refine ⟨hc₄.of_idle hn hunlock₁, fun u => (hheirs.closed u).trans (hclosed u), fun m u hm => ?_,
    fun hcond m hm => ?_, fun m u hu hw => ?_⟩
  · rcases hheirs.owner m u hm with ho | hlife
    · rw [show (s.lock.rtThreadClose t).lock.mutex = s.mutex from hsame.1] at ho
      exact .inl ho
    · exact .inr fun hcl => hlife ((hheirs.closed u).mp hcl)
  · have hm₃ : ((s₂.releaseTaken self (s₂.takenObjectList t)).mutex m).owner = some t :=
      (hafter.owner m).symm.trans hm
    obtain ⟨hm₂, hnot⟩ := hrel.gone m hm₃
    have hmem := (hc₂.owners.own m t).mp hm₂
    rcases hcond with hself | hnil
    · exact hnot hself hmem
    · rw [htaken₂, show (s.lock.rtThreadClose t).lock.takenObjectList = _ from hsame.2] at hmem
      rw [show s.lock.takenObjectList t = [] from hnil] at hmem
      cases hmem
  · have hw₂ : u ∈ s₂.waiters m :=
      (hwait₂ m u).mpr (waiters_rtThreadClose (s := s.lock) hu hw)
    rcases hrel.kept m u hw₂ with hw₃ | ⟨-, ho⟩
    · left
      rw [← hafter.waiters] at hw₃
      exact hw₃
    · exact .inr ((hafter.owner m).trans ho)

/-! ### Every step -/

omit [DecidableEq Tid] in
lemma setCeiling (h : Core s pc) (m : Oid) (p : ℕ) :
    Core (s.setMutex m { s.mutex m with ceilingPriority := p }) pc := by
  refine h.withOwners (h.owners.keep (fun m' => ?_) rfl (fun _ _ => id) fun _ _ => id) rfl rfl
  unfold State.setMutex
  by_cases hm : m' = m
  · subst hm
    simp only [Function.update_self, and_self]
  · simp only [Function.update_of_ne hm, and_self]

/-- **The threads and the owners stay in order.** -/
theorem step {s s' : System Tid Oid} {a : Action Tid Oid} (h : Core s.st s.pc)
    (hs : Mutex.step fuel s a = some s') : Core s'.st s'.pc := by
  cases step_outcome h hs with
  | take t m timeout suspendFlag st ret hc htake =>
    obtain ⟨hcur, hlive, hpc⟩ := caller_eq_some hc
    exact h.takeEnter hpc hcur hlive (nobody_of_caller h.threads hc) htake
  | release t m st x hc hr hx =>
    obtain ⟨-, -, hpc⟩ := caller_eq_some hc
    have hcore := h.release (nobody_of_caller h.threads hc) hr
    have hpend := hcore.pending_of_run hpc
    refine hcore.goto ?_ fun m' hm' => ?_
    · rcases hx with rfl | rfl <;> rfl
    · rw [hpend] at hm'
      cases hm'
  | setprioceiling t m priority st₁ st₂ st hc h₁ hrefresh h₂ =>
    have hn := nobody_of_caller h.threads hc
    have hceil := (h.of_idle hn h₁).setCeiling m priority
    have hr := State.reprio_refreshOwner hceil.threads.placed hceil.threads.inv hrefresh
    exact (hceil.of_reprio hr).of_idle hn h₂
  | detach self t st hc hdetach =>
    exact (h.detach (nobody_of_caller h.threads hc) hdetach).1
  | exit t st hc hdetach =>
    have hn := nobody_of_caller h.threads hc
    have hcore := (h.detach hn hdetach).1
    exact hcore.of_idle hn (Idle.schedule hcore.threads.inv)
  | boost t m timeout st hr hpc hboost =>
    have hcore := h.of_reprio (State.reprio_takeBoost h.threads.placed h.threads.inv hboost)
    refine ⟨hcore.threads.goto (fun m' hm' => ?_) (fun m' hm' => ?_) fun _ => ?_, hcore.owners⟩
    · rw [hpc]
      exact hm'
    · have htarget := (hcore.threads.ok t).target m' hm'
      rwa [show (st.sit s.pc t).pc = .queued m timeout from hpc] at htarget
    · rw [hpc]
      rfl
  | timer t m timeout hr hpc => exact h.timer hpc
  | moved t x st hr hpc hi => exact h.moved (running_eq_some hr).1 hpc hi
  | finish t m st ret hr hpc hf => exact h.finish (running_eq_some hr).1 hpc hf
  | clear t m hr hpc =>
    obtain ⟨hcur, hlive | hlocked⟩ := running_eq_some hr
    · exact h.clear hcur hlive
    · rw [hpc] at hlocked
      cases hlocked
  | quiet a st hi hcpu => exact h.quiet hi hcpu
  | expires t kernel hact hout => exact h.expires hact hout
  | changePriority self t priority hc => exact h.of_reprio (State.reprio_changePriority priority)
  | wait t l timeout suspendFlag kernel st hc hl hw hi =>
    obtain ⟨-, hlive, hpc⟩ := caller_eq_some hc
    have hn := nobody_of_caller h.threads hc
    exact (h.wait hl hpc hlive hn hw).of_idle hn hi
  | dequeue l threadError t rest kernel st hl hlist hready hi hcpu =>
    refine h.dequeue hl ?_ hready hi hcpu
    rw [hlist]
    exact List.mem_cons_self ..

end Core

end N32L43x.Mutex
