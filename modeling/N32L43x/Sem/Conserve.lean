import N32L43x.Lib.Count
import N32L43x.Sem.Waiters

/-!
The tokens of a semaphore: each is in its value, or with a thread that has taken it.  A release that
finds a waiter gives the token to it without passing through the value, so it gets lost on the way if
the waiter does not become ready.
-/

namespace N32L43x.Sem

open N32L43x.Sched N32L43x.Ipc N32L43x.Lib.Run N32L43x.Lib.Count

variable {Tid Oid : Type} [DecidableEq Oid]

/-! ### Where a token is -/

/-- The thread has the token of a take that returns `RT_EOK`: the take has decided so, or the thread
was resumed with that error number and will read it. -/
def boundOf (o : Oid) (life : Life) (err : IpcErr) : Pc Oid → Bool
  | .takeReturns o' ret => o' = o ∧ ret = .eok
  | .waiting o' => o' = o ∧ life ≠ .suspended ∧ err = .eok
  | .woken o' => o' = o ∧ err = .eok
  | _ => false

def System.bound (s : System Tid Oid) (o : Oid) (t : Tid) : Bool :=
  boundOf o (s.kernel.look t).life (s.kernel.error t) (s.pc t)

/-- The thread is in a release that has had its effect and returns `RT_EOK`. -/
def offersOf (o : Oid) : Pc Oid → Bool
  | .releasing o' => o' = o
  | .releaseReturns o' ret => o' = o ∧ ret = .eok
  | _ => false

def System.offers (s : System Tid Oid) (o : Oid) (t : Tid) : Bool := offersOf o (s.pc t)

variable [Fintype Tid]

/-- Every token is accounted for. -/
def Conserved (value₀ : Oid → ℕ) (s : System Tid Oid) : Prop :=
  ∀ o, value₀ o + s.releases o + count (s.offers o) =
    (s.sem o).value + s.takes o + count (s.bound o)

namespace Conserved

variable {value₀ : Oid → ℕ} {s s' : System Tid Oid}

/-- A step that no thread takes part in. -/
lemma of_agree (h : Conserved value₀ s) (hoffers : s'.offers = s.offers) (hbound : s'.bound = s.bound)
    (hbal : ∀ o, s'.releases o + (s.sem o).value + s.takes o =
      s.releases o + (s'.sem o).value + s'.takes o) : Conserved value₀ s' := by
  intro o
  have ho := h o
  have hb := hbal o
  rw [hoffers, hbound]
  omega

variable [DecidableEq Tid]

/-- A step of one thread that may hand a token to another one. -/
lemma change (h : Conserved value₀ s) (t u : Tid)
    (hoffers : ∀ o w, w ≠ t → s'.offers o w = s.offers o w)
    (hbound : ∀ o w, w ≠ u → s'.bound o w = s.bound o w)
    (hbal : ∀ o, s'.releases o + (s'.offers o t).toNat + (s.sem o).value + s.takes o +
        (s.bound o u).toNat =
      s.releases o + (s.offers o t).toNat + (s'.sem o).value + s'.takes o +
        (s'.bound o u).toNat) : Conserved value₀ s' := by
  intro o
  have ho := h o
  have hb := hbal o
  have h₁ := count_of_agree t (hoffers o)
  have h₂ := count_of_agree u (hbound o)
  omega

end Conserved

/-! ### The steps -/

variable {value₀ : Oid → ℕ} {s s' : System Tid Oid} {t : Tid}

/-- The waiters are in order and no token is lost. -/
structure Good (value₀ : Oid → ℕ) (s : System Tid Oid) : Prop where
  waiters : Waiters s.kernel s.pc s.firing
  conserved : Conserved value₀ s

/-- No release meets a first waiter whose timer has run out and whose `_thread_timeout` is still to be
called. -/
def Undisturbed (s : System Tid Oid) : Action Tid Oid → Prop
  | .release o => ∀ t ∈ (s.kernel.suspendThread (.sem o)).head?, s.firing ≠ some t
  | .isrRelease o => ∀ t ∈ (s.kernel.suspendThread (.sem o)).head?, s.firing ≠ some t
  | _ => True

instance [DecidableEq Tid] (s : System Tid Oid) : ∀ a, Decidable (Undisturbed s a)
  | .release o =>
    inferInstanceAs (Decidable (∀ t ∈ (s.kernel.suspendThread (.sem o)).head?, s.firing ≠ some t))
  | .isrRelease o =>
    inferInstanceAs (Decidable (∀ t ∈ (s.kernel.suspendThread (.sem o)).head?, s.firing ≠ some t))
  | .take .. | .resume | .isrTrytake _ | .timerExpires _ | .timeoutFunc | .tickIncrease =>
    inferInstanceAs (Decidable True)

omit [Fintype Tid] in
lemma bound_congr {w : Tid} (hpc : s'.pc w = s.pc w)
    (hlook : s'.kernel.look w = s.kernel.look w) (herr : s'.kernel.error w = s.kernel.error w)
    (o : Oid) : s'.bound o w = s.bound o w := by
  unfold System.bound
  rw [hpc, hlook, herr]

omit [Fintype Tid] in
lemma offers_congr {w : Tid} (hpc : s'.pc w = s.pc w) (o : Oid) :
    s'.offers o w = s.offers o w := by
  unfold System.offers
  rw [hpc]

/-- A step of a handler on a quiet kernel. -/
lemma Good.keep (h : Good value₀ s) (hq : s.kernel.Quiet s'.kernel) (hpc : s'.pc = s.pc)
    (hfire : s'.firing = s.firing)
    (hbal : ∀ o, s'.releases o + (s.sem o).value + s.takes o =
      s.releases o + (s'.sem o).value + s'.takes o) : Good value₀ s' := by
  refine ⟨?_, h.conserved.of_agree ?_ ?_ hbal⟩
  · rw [hpc, hfire]
    exact h.waiters.keep hq.inv hq.look hq.timerActive hq.suspendThread
  · funext o w
    exact offers_congr (congrFun hpc w) o
  · funext o w
    exact bound_congr (congrFun hpc w) (congrFun hq.look w) (congrFun hq.error w) o

variable [DecidableEq Tid]

/-- A step of the running thread on a quiet kernel. -/
lemma Good.move (h : Good value₀ s) (ht : ¬ s.kernel.Suspended t) (x : Pc Oid)
    (hq : s.kernel.Quiet s'.kernel) (hpc : s'.pc = Function.update s.pc t x)
    (hfire : s'.firing = s.firing)
    (hbal : ∀ o, s'.releases o + (offersOf o x).toNat + (s.sem o).value + s.takes o +
        (s.bound o t).toNat =
      s.releases o + (s.offers o t).toNat + (s'.sem o).value + s'.takes o +
        (boundOf o (s.kernel.look t).life (s.kernel.error t) x).toNat) : Good value₀ s' := by
  refine ⟨?_, h.conserved.change t t (fun o w hw => ?_) (fun o w hw => ?_) fun o => ?_⟩
  · rw [hpc, hfire]
    exact h.waiters.move hq.inv hq.look hq.timerActive hq.suspendThread ht x
  · refine offers_congr ?_ o
    rw [hpc, Function.update_of_ne hw]
  · refine bound_congr ?_ (congrFun hq.look w) (congrFun hq.error w) o
    rw [hpc, Function.update_of_ne hw]
  · have hoff : s'.offers o t = offersOf o x := by
      unfold System.offers
      rw [hpc, Function.update_self]
    have hbound : s'.bound o t = boundOf o (s.kernel.look t).life (s.kernel.error t) x := by
      unfold System.bound
      rw [hpc, Function.update_self, hq.look, hq.error]
    rw [hoff, hbound]
    exact hbal o

omit [Fintype Tid] [DecidableEq Tid] [DecidableEq Oid] in
lemma running_eq_some (h : s.running = some t) :
    s.firing = none ∧ s.kernel.sched.currentThread = some t ∧ (s.kernel.look t).life = .live := by
  unfold System.running at h
  split at h
  · rename_i u hfire hcur
    split at h
    · rename_i hlive
      obtain rfl := Option.some.inj h
      exact ⟨hfire, hcur, hlive⟩
    · cases h
  · cases h

omit [Fintype Tid] [DecidableEq Tid] [DecidableEq Oid] in
lemma not_suspended_of_live {k : Kernel Tid Oid} (h : (k.look t).life = .live) :
    ¬ k.Suspended t := by
  unfold Kernel.Suspended
  rw [h]
  nofun

lemma Good.resume (h : Good value₀ s) (ht : (s.kernel.look t).life = .live)
    (hs : resume s t = some s') : Good value₀ s' := by
  have hns := not_suspended_of_live ht
  have hquiet : s.kernel.Quiet s.kernel := ⟨h.waiters.inv, rfl, rfl, rfl, rfl, rfl, rfl⟩
  have hsched := Kernel.quiet_rtSchedule h.waiters.inv
  unfold Sem.resume at hs
  cases hpc : s.pc t with
  | run =>
    rw [hpc] at hs
    cases hs
  | waiting o =>
    rw [hpc] at hs
    cases hs
    refine h.move hns (.woken o) hsched rfl rfl fun o' => ?_
    simp [System.bound, System.offers, hpc, boundOf, offersOf, ht]
  | woken o =>
    rw [hpc] at hs
    cases hs
    refine h.move hns (.takeReturns o (s.kernel.error t)) hquiet rfl rfl fun o' => ?_
    simp [System.bound, System.offers, hpc, boundOf, offersOf]
  | takeReturns o ret =>
    rw [hpc] at hs
    cases hs
    refine h.move hns .run hquiet rfl rfl fun o' => ?_
    by_cases hret : ret = .eok
    · by_cases ho : o' = o
      · subst ho
        simp [System.bound, System.offers, hpc, boundOf, offersOf, counted, hret]
        omega
      · simp [System.bound, System.offers, hpc, boundOf, offersOf, counted, hret, ho, Ne.symm ho]
    · simp [System.bound, System.offers, hpc, boundOf, offersOf, counted, hret]
  | releasing o =>
    rw [hpc] at hs
    cases hs
    refine h.move hns (.releaseReturns o .eok) hsched rfl rfl fun o' => ?_
    simp [System.bound, System.offers, hpc, boundOf, offersOf]
  | releaseReturns o ret =>
    rw [hpc] at hs
    cases hs
    refine h.move hns .run hquiet rfl rfl fun o' => ?_
    by_cases hret : ret = .eok
    · by_cases ho : o' = o
      · subst ho
        simp [System.bound, System.offers, hpc, boundOf, offersOf, counted, hret]
      · simp [System.bound, System.offers, hpc, boundOf, offersOf, counted, hret, ho, Ne.symm ho]
    · simp [System.bound, System.offers, hpc, boundOf, offersOf, counted, hret]

omit [Fintype Tid] [DecidableEq Oid] in
/-- What the critical section of a release can do. -/
lemma release_cases (h : Waiters s.kernel s.pc s.firing) {o : Oid}
    (hC : ∀ t ∈ (s.kernel.suspendThread (.sem o)).head?, s.firing ≠ some t) (sem : Semaphore) :
    (∃ u k', rtSemRelease s.kernel sem o = (k', sem, .eok, true) ∧ s.pc u = .waiting o ∧
      s.kernel.Suspended u ∧ s.firing ≠ some u ∧ Handed s.kernel k' u) ∨
    (∃ k', rtSemRelease s.kernel sem o = (k', { sem with value := sem.value + 1 }, .eok, false) ∧
      s.kernel.Quiet k') ∨
    ∃ k', rtSemRelease s.kernel sem o = (k', sem, .efull, false) ∧ s.kernel.Quiet k' := by
  cases hlist : s.kernel.suspendThread (.sem o) with
  | nil =>
    obtain ⟨k', hq, heq⟩ := rtSemRelease_of_nil sem h.inv hlist
    rw [heq]
    by_cases hv : sem.value < sem.maxValue
    · rw [if_pos hv]
      exact .inr (.inl ⟨k', rfl, hq⟩)
    · rw [if_neg hv]
      exact .inr (.inr ⟨k', rfl, hq⟩)
  | cons u rest =>
    have hmem : u ∈ s.kernel.suspendThread (.sem o) := by
      rw [hlist]
      exact List.mem_cons_self ..
    obtain ⟨hpc, hsus⟩ := (h.mem_iff u o).mp hmem
    have hfire : s.firing ≠ some u := by
      refine hC u ?_
      rw [hlist]
      rfl
    obtain ⟨k', heq, hh⟩ :=
      rtSemRelease_of_waiter sem h.inv hlist hsus (h.timerLive hmem hfire)
    exact .inl ⟨u, k', heq, hpc, hsus, hfire, hh⟩

omit [Fintype Tid] [DecidableEq Oid] in
/-- A waiter that is given its token. -/
lemma Waiters.handed {k k' : Kernel Tid Oid} {pc : Tid → Pc Oid} {firing : Option Tid}
    (h : Waiters k pc firing) (hh : Handed k k' t) (hfire : firing ≠ some t) :
    Waiters k' pc firing := by
  refine h.wake (t := t) hh.inv (fun u hu => ?_) ?_ (fun u hu => ?_) ?_ hh.suspendThread
    (fun _ _ => Iff.rfl) hfire
  · rw [hh.look, Function.update_of_ne hu]
  · rw [hh.look, Function.update_self]
  · rw [hh.timerActive, Kernel.timersStopped_of_ne hu]
  · rw [hh.timerActive]
    unfold Kernel.timersStopped
    split
    · exact Function.update_self ..
    · rename_i hset
      rw [Bool.eq_false_iff]
      intro hact
      exact hset (h.active t hact).2.2

omit [Fintype Tid] in
/-- The waiter that is given its token is bound to return, and it was not before. -/
lemma bound_handed {u : Tid} {o : Oid} (hpcu : s.pc u = .waiting o) (hsus : s.kernel.Suspended u)
    (hh : Handed s.kernel s'.kernel u) (hpc : s'.pc u = s.pc u) (o' : Oid) :
    s.bound o' u = false ∧ s'.bound o' u = decide (o = o') := by
  have hlife : (s.kernel.look u).life = .suspended := hsus
  unfold System.bound
  rw [hpc, hpcu, hh.look, hh.error, Function.update_self, Function.update_self]
  simp [boundOf, hlife]

omit [Fintype Tid] in
lemma bound_handed_of_ne {u w : Tid} (hh : Handed s.kernel s'.kernel u) (hw : w ≠ u)
    (hpc : s'.pc w = s.pc w) (o : Oid) : s'.bound o w = s.bound o w := by
  refine bound_congr hpc ?_ ?_ o
  · rw [hh.look, Function.update_of_ne hw]
  · rw [hh.error, Function.update_of_ne hw]

lemma Good.release (h : Good value₀ s) {o : Oid} (ht : (s.kernel.look t).life = .live)
    (hrun : s.pc t = .run)
    (hC : ∀ t ∈ (s.kernel.suspendThread (.sem o)).head?, s.firing ≠ some t) :
    let r := rtSemRelease s.kernel (s.sem o) o
    Good value₀ { s with
      kernel := r.1, sem := Function.update s.sem o r.2.1
      pc := Function.update s.pc t
        (if r.2.2.2 = true then .releasing o else .releaseReturns o r.2.2.1) } := by
  have hns := not_suspended_of_live ht
  simp only
  obtain ⟨u, k', heq, hpcu, hsus, hfire, hh⟩ | ⟨k', heq, hq⟩ | ⟨k', heq, hq⟩ :=
    release_cases h.waiters hC (s.sem o)
  · rw [heq]
    have hut : u ≠ t := by
      rintro rfl
      exact hns hsus
    have hns' : ¬ k'.Suspended t := by
      unfold Kernel.Suspended
      rw [hh.look, Function.update_of_ne hut.symm]
      exact hns
    refine ⟨(h.waiters.handed hh hfire).move hh.inv rfl rfl rfl hns' _,
      h.conserved.change t u (fun o' w hw => offers_congr (Function.update_of_ne hw ..) o')
        (fun o' w hw => ?_) fun o' => ?_⟩
    · by_cases hwt : w = t
      · subst hwt
        unfold System.bound
        simp only [Function.update_self, if_true]
        rw [hrun]
        rfl
      · exact bound_handed_of_ne hh hw (Function.update_of_ne hwt ..) o'
    · let s' : System Tid Oid := { s with
        kernel := k', sem := Function.update s.sem o (s.sem o)
        pc := Function.update s.pc t (.releasing o) }
      have hh' : Handed s.kernel s'.kernel u := hh
      have hb := bound_handed hpcu hsus hh' (Function.update_of_ne hut ..) o'
      have hoff : s'.offers o' t = decide (o = o') := by
        unfold System.offers
        rw [show s'.pc t = .releasing o from Function.update_self ..]
        rfl
      have hoff₀ : s.offers o' t = false := by
        unfold System.offers
        rw [hrun]
        rfl
      have hsem : Function.update s.sem o (s.sem o) = s.sem := Function.update_eq_self o s.sem
      change s.releases o' + (s'.offers o' t).toNat + (s.sem o').value + s.takes o' +
          (s.bound o' u).toNat = s.releases o' + (s.offers o' t).toNat +
          (Function.update s.sem o (s.sem o) o').value + s.takes o' + (s'.bound o' u).toNat
      rw [hb.1, hb.2, hoff, hoff₀, hsem]
      omega
  · rw [heq]
    refine h.move hns (.releaseReturns o .eok) hq rfl rfl fun o' => ?_
    by_cases ho : o' = o
    · subst ho
      simp [System.bound, System.offers, hrun, boundOf, offersOf]
      omega
    · simp [System.bound, System.offers, hrun, boundOf, offersOf, ho, Ne.symm ho]
  · rw [heq]
    refine h.move hns (.releaseReturns o .efull) hq rfl rfl fun o' => ?_
    simp [System.bound, System.offers, hrun, boundOf, offersOf]

lemma Good.take (h : Good value₀ s) {o : Oid} (ht : (s.kernel.look t).life = .live)
    (hrun : s.pc t = .run) (timeout : ℤ) (suspendFlag : SuspendFlag) :
    let r := rtSemTake s.kernel (s.sem o) t o timeout suspendFlag
    Good value₀ { s with
      kernel := r.1, sem := Function.update s.sem o r.2.1
      pc := Function.update s.pc t (match r.2.2 with
        | none => .waiting o
        | some ret => .takeReturns o ret) } := by
  have hns := not_suspended_of_live ht
  simp only
  by_cases hvalue : 0 < (s.sem o).value
  · obtain ⟨k', hq, heq⟩ := rtSemTake_of_value (t := t) (o := o) h.waiters.inv hvalue timeout suspendFlag
    rw [heq]
    refine h.move hns (.takeReturns o .eok) hq rfl rfl fun o' => ?_
    by_cases ho : o' = o
    · subst ho
      simp [System.bound, System.offers, hrun, boundOf, offersOf]
      omega
    · simp [System.bound, System.offers, hrun, boundOf, offersOf, ho, Ne.symm ho]
  by_cases htimeout : timeout = 0
  · obtain ⟨k', hq, heq⟩ := rtSemTake_of_zero (t := t) (o := o) h.waiters.inv hvalue suspendFlag
    rw [htimeout, heq]
    refine h.move hns (.takeReturns o .etimeout) hq rfl rfl fun o' => ?_
    simp [System.bound, System.offers, hrun, boundOf, offersOf]
  · have hact : s.kernel.timerActive t = false := by
      rw [Bool.eq_false_iff]
      intro hact
      exact hns (h.waiters.active t hact).2.1
    obtain ⟨k', heq, hw⟩ :=
      rtSemTake_of_wait (o := o) h.waiters.inv hvalue htimeout ht hact suspendFlag
    rw [heq]
    -- the thread is suspended, so no token is its own
    refine ⟨h.waiters.suspend hns (decide (0 < timeout)) hw.inv hw.look hw.timerActive
      hw.suspendThread, h.conserved.change t t
        (fun o' w hw' => offers_congr (Function.update_of_ne hw' ..) o') (fun o' w hw' => ?_)
        fun o' => ?_⟩
    · refine bound_congr (Function.update_of_ne hw' ..) ?_ ?_ o'
      · simp only [hw.look, Function.update_of_ne hw']
      · simp only [hw.error, Function.update_of_ne hw']
    · simp [System.bound, System.offers, hrun, boundOf, offersOf, hw.look]

lemma Good.isrTrytake (h : Good value₀ s) (o : Oid) :
    let r := rtSemTake s.kernel (s.sem o) t o 0 .uninterruptible
    Good value₀ { s with
      kernel := r.1, sem := Function.update s.sem o r.2.1
      takes := match r.2.2 with
        | none => s.takes
        | some ret => counted s.takes o ret } := by
  simp only
  by_cases hvalue : 0 < (s.sem o).value
  · obtain ⟨k', hq, heq⟩ :=
      rtSemTake_of_value (t := t) (o := o) h.waiters.inv hvalue 0 .uninterruptible
    rw [heq]
    refine h.keep hq rfl rfl fun o' => ?_
    by_cases ho : o' = o
    · subst ho
      simp [counted]
      omega
    · simp [counted, ho]
  · obtain ⟨k', hq, heq⟩ :=
      rtSemTake_of_zero (t := t) (o := o) h.waiters.inv hvalue .uninterruptible
    rw [heq]
    refine h.keep hq rfl rfl fun o' => ?_
    simp [counted]

lemma Good.isrRelease (h : Good value₀ s) {o : Oid}
    (hC : ∀ t ∈ (s.kernel.suspendThread (.sem o)).head?, s.firing ≠ some t) :
    let r := rtSemRelease s.kernel (s.sem o) o
    Good value₀ { s with
      kernel := if r.2.2.2 = true then r.1.rtSchedule else r.1
      sem := Function.update s.sem o r.2.1, releases := counted s.releases o r.2.2.1 } := by
  simp only
  obtain ⟨u, k', heq, hpcu, hsus, hfire, hh⟩ | ⟨k', heq, hq⟩ | ⟨k', heq, hq⟩ :=
    release_cases h.waiters hC (s.sem o)
  · rw [heq]
    have hh' : Handed s.kernel k'.rtSchedule u :=
      hh.trans_quiet (Kernel.quiet_rtSchedule hh.inv)
    let s' : System Tid Oid := { s with
      kernel := k'.rtSchedule, sem := Function.update s.sem o (s.sem o)
      releases := counted s.releases o .eok }
    have hh'' : Handed s.kernel s'.kernel u := hh'
    refine ⟨h.waiters.handed hh' hfire,
      h.conserved.change u u (fun o' w hw => rfl)
        (fun o' w hw => bound_handed_of_ne hh'' hw rfl o') fun o' => ?_⟩
    have hb := bound_handed hpcu hsus hh'' rfl o'
    change s'.releases o' + (s.offers o' u).toNat + (s.sem o').value + s.takes o' +
        (s.bound o' u).toNat = s.releases o' + (s.offers o' u).toNat +
        (Function.update s.sem o (s.sem o) o').value + s.takes o' + (s'.bound o' u).toNat
    rw [hb.1, hb.2, show Function.update s.sem o (s.sem o) = s.sem from Function.update_eq_self o s.sem]
    by_cases ho : o' = o
    · subst ho
      simp [s', counted]
      omega
    · simp [s', counted, ho, Ne.symm ho]
  · rw [heq]
    refine h.keep hq rfl rfl fun o' => ?_
    by_cases ho : o' = o
    · subst ho
      simp [counted]
      omega
    · simp [counted, ho]
  · rw [heq]
    refine h.keep hq rfl rfl fun o' => ?_
    simp [counted]

lemma Good.timerExpires (h : Good value₀ s) (hfire : s.firing = none)
    (hact : s.kernel.timerActive t = true) :
    Good value₀ { s with
      kernel := { s.kernel with timerActive := Function.update s.kernel.timerActive t false }
      firing := some t } := by
  have hw := h.waiters
  rw [hfire] at hw
  exact ⟨hw.expires hact, h.conserved.of_agree rfl rfl fun _ => rfl⟩

lemma Good.timeoutFunc (h : Good value₀ s) (hfire : s.firing = some t) :
    Good value₀ { s with kernel := s.kernel.threadTimeout t, firing := none } := by
  obtain ⟨⟨o, hpc⟩, hsus, hact⟩ := h.waiters.fires t hfire
  have hlife : (s.kernel.look t).life = .suspended := hsus
  have hout := Kernel.timesOut_threadTimeout h.waiters.inv hsus
  refine ⟨h.waiters.wake (t := t) hout.inv (fun u hu => ?_) ?_ (fun u _ => ?_) ?_
    hout.suspendThread (fun u hu => ?_) nofun,
    h.conserved.change t t (fun _ _ _ => rfl) (fun o' w hw => bound_congr (by rfl) ?_ ?_ o') fun o' => ?_⟩
  · rw [hout.look, Function.update_of_ne hu]
  · rw [hout.look, Function.update_self]
  · rw [hout.timerActive]
  · rw [hout.timerActive]
    exact hact
  · rw [hfire, Option.some_inj]
    exact iff_of_false nofun (Ne.symm hu)
  · simp only [hout.look, Function.update_of_ne hw]
  · simp only [hout.error, Function.update_of_ne hw]
  · -- the thread was bound to nothing while it was suspended, and it is not now
    simp [System.bound, System.offers, hpc, boundOf, hlife, hout.error]

lemma Good.tickIncrease (h : Good value₀ s) (hcur : s.kernel.sched.currentThread = some t) :
    Good value₀
      { s with kernel := { s.kernel with sched := rtSchedTickIncrease s.kernel.sched t 1 } } := by
  exact h.keep (Kernel.quiet_rtSchedTickIncrease h.waiters.inv hcur) rfl rfl fun _ => rfl

lemma Good.step {a : Action Tid Oid} (h : Good value₀ s) (hC : Undisturbed s a)
    (hs : step s a = some s') : Good value₀ s' := by
  cases a with
  | take o timeout suspendFlag =>
    simp only [Sem.step, Option.bind_eq_some_iff] at hs
    obtain ⟨t, hrun, hs⟩ := hs
    split at hs
    · rename_i hpc
      cases hs
      exact h.take (running_eq_some hrun).2.2 hpc timeout suspendFlag
    · cases hs
  | release o =>
    simp only [Sem.step, Option.bind_eq_some_iff] at hs
    obtain ⟨t, hrun, hs⟩ := hs
    split at hs
    · rename_i hpc
      cases hs
      exact h.release (running_eq_some hrun).2.2 hpc hC
    · cases hs
  | resume =>
    simp only [Sem.step, Option.bind_eq_some_iff] at hs
    obtain ⟨t, hrun, hs⟩ := hs
    exact h.resume (running_eq_some hrun).2.2 hs
  | isrTrytake o =>
    simp only [Sem.step, Option.bind_eq_some_iff] at hs
    obtain ⟨t, -, hs⟩ := hs
    cases hs
    exact h.isrTrytake o
  | isrRelease o =>
    cases hs
    exact h.isrRelease hC
  | timerExpires t =>
    simp only [Sem.step] at hs
    split at hs
    · rename_i hexp
      cases hs
      exact h.timerExpires hexp.1 hexp.2
    · cases hs
  | timeoutFunc =>
    simp only [Sem.step, Option.map_eq_some_iff] at hs
    obtain ⟨t, hfire, rfl⟩ := hs
    exact h.timeoutFunc hfire
  | tickIncrease =>
    simp only [Sem.step, Option.map_eq_some_iff] at hs
    obtain ⟨t, hcur, rfl⟩ := hs
    exact h.tickIncrease hcur

/-! ### Runs -/

/-- The semaphores after `rt_sem_init`, with threads of any status and no timer running. -/
def System.init (sched : SchedState Tid) (sem : Oid → Semaphore) : System Tid Oid where
  kernel :=
    { sched := sched, error := fun _ => .eok, timerActive := fun _ => false
      suspendThread := fun _ => [], arrivals := 0, arrival := fun _ => 0 }
  sem := sem
  pc := fun _ => .run
  firing := none
  takes := fun _ => 0
  releases := fun _ => 0

omit [DecidableEq Tid] in
lemma good_init {sched : SchedState Tid} (h : Inv sched) (sem : Oid → Semaphore) :
    Good (fun o => (sem o).value) (System.init sched sem) where
  waiters :=
    { inv := h
      mem_iff := fun t o => by simp [System.init]
      timed := fun t o hpc => by cases hpc
      active := fun t ht => by cases ht
      fires := fun t ht => by cases ht }
  conserved := by
    intro o
    have hoff : count ((System.init sched sem).offers o) = 0 := count_eq_zero fun _ => rfl
    have hbound : count ((System.init sched sem).bound o) = 0 := count_eq_zero fun _ => rfl
    rw [hoff, hbound]
    rfl

/-- In every run in which no release meets a first waiter whose timeout is under way, in every state
in which no release is between its critical section and its return: the tokens there were and those
that were released are in the value, or a take has returned or is bound to return with each. -/
theorem tokens_conserved {sched : SchedState Tid} (hinv : Inv sched) (sem : Oid → Semaphore)
    (as : List (Action Tid Oid)) (hC : Along step Undisturbed (System.init sched sem) as)
    (hrun : exec step (System.init sched sem) as = some s) (o : Oid)
    (hquiet : ∀ t, s.offers o t = false) :
    (sem o).value + s.releases o = (s.sem o).value + s.takes o + count (s.bound o) := by
  have hgood : Good (fun o => (sem o).value) s :=
    exec_inv_of_along (fun _ _ _ h hC hs => h.step hC hs) as _ s (good_init hinv sem) hC hrun
  have hcons := hgood.conserved o
  rw [count_eq_zero hquiet] at hcons
  exact hcons

section Two

lemma inv_of_twoThreads {sched : SchedState (Fin 2)}
    (h : exec Sched.step (SchedState.init (fun _ => 10) twoPriorities) twoThreads = some sched) :
    Inv sched :=
  exec_inv (fun _ _ _ => inv_step) _ _ _ (inv_init _ _) h

/-- The first thread waits with a timeout, a handler releases, and the thread returns. -/
def handedOver : List (Action (Fin 2) Unit) :=
  [.take () 100 .uninterruptible, .isrRelease (), .resume, .resume, .resume]

/-- A thread waits with a timeout, its timer runs out, and a handler releases before the tick handler
calls `_thread_timeout`. -/
def lostToken (t : Fin 2) : List (Action (Fin 2) Unit) :=
  [.take () 100 .uninterruptible, .timerExpires t, .isrRelease (), .timeoutFunc, .resume, .resume,
    .resume]

theorem tokens_conserved_handedOver :
    ∃ sched s, exec Sched.step (SchedState.init (fun _ => 10) twoPriorities) twoThreads = some sched ∧
      exec step (System.init sched fun _ => ⟨0, 65535, .prio⟩) handedOver = some s ∧
      s.releases () = 1 ∧ s.takes () = 1 ∧
      0 + s.releases () = (s.sem ()).value + s.takes () + count (s.bound ()) := by
  have hrun : ∀ sched ∈ exec Sched.step (SchedState.init (fun _ => 10) twoPriorities) twoThreads,
      Along step Undisturbed (System.init sched fun _ => ⟨0, 65535, .prio⟩) handedOver ∧
      ∃ s ∈ exec step (System.init sched fun _ => ⟨0, 65535, .prio⟩) handedOver,
        s.releases () = 1 ∧ s.takes () = 1 ∧ ∀ t, s.offers () t = false := by
    decide +kernel
  obtain ⟨sched, hsched⟩ := Option.isSome_iff_exists.mp
    (show (exec Sched.step (SchedState.init (fun _ => 10) twoPriorities) twoThreads).isSome by
      decide +kernel)
  obtain ⟨hC, s, hs, hrel, htake, hquiet⟩ := hrun sched hsched
  exact ⟨sched, s, hsched, hs, hrel, htake,
    tokens_conserved (inv_of_twoThreads hsched) _ _ hC hs () hquiet⟩

/-- The token is lost: one release has returned `RT_EOK`, the value is 0, and the take has returned
`-RT_ETIMEOUT`. -/
theorem tokens_lost :
    ∃ sched s, Inv sched ∧
      exec step (System.init sched fun _ => ⟨0, 65535, .prio⟩) (lostToken 0) = some s ∧
      (∀ t : Fin 2, s.offers () t = false) ∧
      0 + s.releases () ≠ (s.sem ()).value + s.takes () + count (s.bound ()) := by
  have hrun : ∀ sched ∈ exec Sched.step (SchedState.init (fun _ => 10) twoPriorities) twoThreads,
      ∃ s ∈ exec step (System.init sched fun _ => ⟨0, 65535, .prio⟩) (lostToken 0),
        (∀ t : Fin 2, s.offers () t = false) ∧
        0 + s.releases () ≠ (s.sem ()).value + s.takes () + count (s.bound ()) := by
    decide +kernel
  obtain ⟨sched, hsched⟩ := Option.isSome_iff_exists.mp
    (show (exec Sched.step (SchedState.init (fun _ => 10) twoPriorities) twoThreads).isSome by
      decide +kernel)
  obtain ⟨s, hs, hres⟩ := hrun sched hsched
  exact ⟨sched, s, inv_of_twoThreads hsched, hs, hres⟩

end Two

end N32L43x.Sem
