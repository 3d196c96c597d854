import N32L43x.Mutex.Calls

/-!
What holds of the mutexes and the threads that wait for them in every state: a thread is in the list
of what it waits for, its timer is in step with that, and a mutex is in the list of its owner.
-/

namespace N32L43x.Mutex

open N32L43x.Sched N32L43x.Ipc

/-! ### The threads -/

/-- The mutex that a call of `rt_mutex_take` is about. -/
def Pc.target {Oid : Type} : Pc Oid → Option Oid
  | .queued m _ | .boosted m _ | .timed m | .waiting m | .woken m | .failed m => some m
  | .run | .releasing => none

/-- The mutex for whose list the thread was suspended with its timer not started yet. -/
def Pc.early {Oid : Type} : Pc Oid → Option Oid
  | .queued m _ | .boosted m _ => some m
  | _ => none

lemma Pc.locked_of_early {Oid : Type} {pc : Pc Oid} {m : Oid} (h : pc.early = some m) :
    pc.locked = true := by
  cases pc <;> first | rfl | cases h

/-- The situation of a thread. -/
structure Sit (Oid : Type) where
  life : Life
  ttmrSet : Bool
  active : Bool
  listed : SuspList Oid → Prop
  pending : Option Oid
  pc : Pc Oid

namespace Sit

variable {Oid : Type} {x : Sit Oid}

structure Ok (x : Sit Oid) : Prop where
  suspended : ∀ l, x.listed l → x.life = .suspended
  mutex : ∀ m, x.listed (.mutex m) → x.pending = some m
  other : ∀ l, notMutex l = true → x.listed l → x.pending = none
  pend : ∀ m, x.life = .suspended → x.pending = some m → x.listed (.mutex m)
  timer : x.life = .suspended → x.ttmrSet = true → x.active = true
  active : x.active = true → x.life = .suspended ∧ x.ttmrSet = true
  target : ∀ m, x.pending = some m → x.pc.target = some m
  early : ∀ m, x.pc.early = some m → x.life = .suspended ∧ x.pending = some m ∧ x.active = false

/-- A thread that is not suspended: in no list, and its timer off. -/
lemma ok_of_not_suspended (hlife : x.life ≠ .suspended) (hlist : ∀ l, ¬ x.listed l)
    (hact : x.active = false) (htarget : ∀ m, x.pending = some m → x.pc.target = some m)
    (hearly : x.pc.early = none) : x.Ok where
  suspended l hl := absurd hl (hlist l)
  mutex m hl := absurd hl (hlist _)
  other l _ hl := absurd hl (hlist l)
  pend _ hsus := absurd hsus hlife
  timer hsus := absurd hsus hlife
  active h := by
    rw [hact] at h
    cases h
  target := htarget
  early m h := by
    rw [hearly] at h
    cases h

/-- A thread that waits in one list. -/
lemma ok_of_listed {l : SuspList Oid} (hlife : x.life = .suspended) (hlist : ∀ l', x.listed l' ↔ l' = l)
    (htimer : x.active = x.ttmrSet) (hmutex : ∀ m, l = .mutex m → x.pending = some m)
    (hother : notMutex l = true → x.pending = none)
    (htarget : ∀ m, x.pending = some m → x.pc.target = some m)
    (hearly : ∀ m, x.pc.early = some m → x.pending = some m ∧ x.active = false) : x.Ok where
  suspended _ _ := hlife
  mutex m hl := hmutex m ((hlist _).mp hl).symm
  other l' hn hl := by
    obtain rfl := (hlist l').mp hl
    exact hother hn
  pend m _ hpend := by
    cases l with
    | mutex m' =>
      have hm := hmutex m' rfl
      rw [hpend] at hm
      cases hm
      exact (hlist _).mpr rfl
    | _ =>
      rw [hother rfl] at hpend
      cases hpend
  timer _ hset := htimer.trans hset
  active hact := ⟨hlife, htimer.symm.trans hact⟩
  target := htarget
  early m h := ⟨hlife, hearly m h⟩

end Sit

variable {Tid Oid : Type}

def State.sit (s : State Tid Oid) (pc : Tid → Pc Oid) (t : Tid) : Sit Oid where
  life := (s.kernel.look t).life
  ttmrSet := (s.kernel.look t).ttmrSet
  active := s.kernel.timerActive t
  listed := fun l => t ∈ s.kernel.suspendThread l
  pending := s.pendingObject t
  pc := pc t

lemma State.sit_congr {s s' : State Tid Oid} {pc pc' : Tid → Pc Oid} {t : Tid}
    (hlife : (s'.kernel.look t).life = (s.kernel.look t).life)
    (hset : (s'.kernel.look t).ttmrSet = (s.kernel.look t).ttmrSet)
    (hact : s'.kernel.timerActive t = s.kernel.timerActive t)
    (hlist : ∀ l, t ∈ s'.kernel.suspendThread l ↔ t ∈ s.kernel.suspendThread l)
    (hpend : s'.pendingObject t = s.pendingObject t) (hpc : pc' t = pc t) :
    s'.sit pc' t = s.sit pc t := by
  unfold State.sit
  rw [hlife, hset, hact, hpend, hpc]
  congr
  funext l
  exact propext (hlist l)

/-- Every thread is where it should be, and the one that holds a spin lock is the running one. -/
structure Threads (s : State Tid Oid) (pc : Tid → Pc Oid) : Prop where
  inv : Inv s.kernel.sched
  ok : ∀ t, (s.sit pc t).Ok
  locked : ∀ t, (pc t).locked = true →
    s.kernel.sched.currentThread = some t ∧ 0 < s.kernel.sched.lockNest

namespace Threads

variable {s s' : State Tid Oid} {pc pc' : Tid → Pc Oid} {t u : Tid} {m : Oid}

lemma placed (h : Threads s pc) : Placed s := by
  intro t m hsus hpend l
  constructor
  · intro hl
    cases l with
    | mutex m' =>
      have hm : s.pendingObject t = some m' := (h.ok t).mutex m' hl
      rw [hpend] at hm
      cases hm
      rfl
    | _ =>
      have hnone : s.pendingObject t = none := (h.ok t).other _ rfl hl
      rw [hpend] at hnone
      cases hnone
  · rintro rfl
    exact (h.ok t).pend m hsus hpend

lemma timerLive (h : Threads s pc) (hsus : s.kernel.Suspended t) : s.kernel.TimerLive t :=
  (h.ok t).timer hsus

/-- The running thread is in no spin lock, so nobody is. -/
lemma nobody (h : Threads s pc) (hcur : s.kernel.sched.currentThread = some t)
    (ht : (pc t).locked = false) (u : Tid) : (pc u).locked = false := by
  rw [Bool.eq_false_iff]
  intro hu
  have hcu := (h.locked u hu).1
  rw [hcur] at hcu
  obtain rfl := Option.some.inj hcu
  rw [ht] at hu
  cases hu

lemma early_eq_none (hpc : (pc u).locked = false) : (pc u).early = none := by
  cases he : (pc u).early with
  | none => rfl
  | some m =>
    rw [Pc.locked_of_early he] at hpc
    cases hpc

/-- The situation of one thread has changed. -/
lemma change (h : Threads s pc) (t : Tid) (hinv : Inv s'.kernel.sched)
    (hsit : ∀ u, u ≠ t → s'.sit pc' u = s.sit pc u) (hok : (s'.sit pc' t).Ok)
    (hlocked : ∀ u, (pc' u).locked = true →
      s'.kernel.sched.currentThread = some u ∧ 0 < s'.kernel.sched.lockNest) : Threads s' pc' := by
  refine ⟨hinv, fun u => ?_, hlocked⟩
  by_cases hu : u = t
  · rw [hu]
    exact hok
  · rw [hsit u hu]
    exact h.ok u

lemma keep (h : Threads s pc) (hinv : Inv s'.kernel.sched) (hsit : ∀ u, s'.sit pc' u = s.sit pc u)
    (hlocked : ∀ u, (pc' u).locked = true →
      s'.kernel.sched.currentThread = some u ∧ 0 < s'.kernel.sched.lockNest) : Threads s' pc' := by
  refine ⟨hinv, fun u => ?_, hlocked⟩
  rw [hsit u]
  exact h.ok u

/-- Who holds a spin lock still does if the running thread and the lock are the same. -/
lemma locked_of_sameCpu (h : Threads s pc) (hcpu : SameCpu s.kernel.sched s'.kernel.sched)
    (u : Tid) (hu : (pc u).locked = true) :
    s'.kernel.sched.currentThread = some u ∧ 0 < s'.kernel.sched.lockNest := by
  obtain ⟨hc, hn⟩ := h.locked u hu
  exact ⟨hcpu.1.trans hc, by rw [hcpu.2]; exact hn⟩

lemma sit_of_reprio (hr : Reprio s s') (hpc : pc' u = pc u) : s'.sit pc' u = s.sit pc u :=
  State.sit_congr (hr.life u) (hr.ttmrSet u) (congrFun hr.timerActive u) (fun l => hr.mem l u)
    (congrFun hr.pendingObject u) hpc

lemma sit_of_idle (hi : Idle s s') (hpc : pc' u = pc u) : s'.sit pc' u = s.sit pc u :=
  State.sit_congr (by rw [hi.look]) (by rw [hi.look]) (congrFun hi.timerActive u)
    (fun l => by rw [hi.suspendThread]) (congrFun hi.pendingObject u) hpc

lemma of_reprio (h : Threads s pc) (hr : Reprio s s') : Threads s' pc :=
  h.keep (hr.inv h.inv) (fun _ => sit_of_reprio hr rfl) (h.locked_of_sameCpu hr.cpu)

/-- The threads depend on the kernel and on what they wait for. -/
lemma withKernel (h : Threads s pc) (hkernel : s'.kernel = s.kernel)
    (hpend : s'.pendingObject = s.pendingObject) : Threads s' pc := by
  refine h.keep (by rw [hkernel]; exact h.inv) (fun u => ?_) (fun u hu => ?_)
  · refine State.sit_congr ?_ ?_ ?_ (fun l => ?_) (congrFun hpend u) rfl
    all_goals rw [hkernel]
  · rw [hkernel]
    exact h.locked u hu

/-- A thread other than the running one holds no spin lock. -/
lemma others_unlocked (h : Threads s pc) (hcur : s.kernel.sched.currentThread = some t) (hu : u ≠ t) :
    (pc u).locked = false := by
  rw [Bool.eq_false_iff]
  intro hl
  have hcu := (h.locked u hl).1
  rw [hcur] at hcu
  exact hu (Option.some.inj hcu).symm

variable [DecidableEq Tid]

/-- The running thread goes to another point of its call. -/
lemma ok_goto {x : Pc Oid} (h : (s.sit pc t).Ok) (hearly : ∀ m, x.early = some m →
      (pc t).early = some m) (htarget : ∀ m, s.pendingObject t = some m → x.target = some m) :
    (s.sit (Function.update pc t x) t).Ok where
  suspended := h.suspended
  mutex := h.mutex
  other := h.other
  pend := h.pend
  timer := h.timer
  active := h.active
  target m hm := by
    unfold State.sit
    simp only [Function.update_self]
    exact htarget m hm
  early m hm := by
    unfold State.sit at hm
    simp only [Function.update_self] at hm
    exact h.early m (hearly m hm)

lemma goto {x : Pc Oid} (h : Threads s pc)
    (hearly : ∀ m, x.early = some m → (pc t).early = some m)
    (htarget : ∀ m, s.pendingObject t = some m → x.target = some m)
    (hlocked : x.locked = true → (pc t).locked = true) :
    Threads s (Function.update pc t x) := by
  refine h.change t h.inv (fun u hu => ?_) (ok_goto (h.ok t) hearly htarget) fun u hu => ?_
  · exact State.sit_congr rfl rfl rfl (fun _ => Iff.rfl) rfl (Function.update_of_ne hu ..)
  · by_cases hut : u = t
    · subst hut
      rw [Function.update_self] at hu
      exact h.locked u (hlocked hu)
    · rw [Function.update_of_ne hut] at hu
      exact h.locked u hu

end Threads

/-! ### The owners -/

/-- A mutex is in the list of its owner and of nobody else. -/
structure Owners (s : State Tid Oid) : Prop where
  own : ∀ m t, (s.mutex m).owner = some t ↔ m ∈ s.takenObjectList t
  nodup : ∀ t, (s.takenObjectList t).Nodup
  hold_pos : ∀ m, 0 < (s.mutex m).hold ↔ (s.mutex m).owner ≠ none
  hold_le : ∀ m, (s.mutex m).hold ≤ holdMax
  free : ∀ m t, (s.mutex m).owner = none → t ∉ s.waiters m
  notOwn : ∀ m t, s.pendingObject t = some m → (s.mutex m).owner ≠ some t

namespace Owners

variable {s s' : State Tid Oid} {t : Tid} {m : Oid}

lemma keep (h : Owners s) (hmutex : ∀ m, (s'.mutex m).owner = (s.mutex m).owner ∧
      (s'.mutex m).hold = (s.mutex m).hold) (htaken : s'.takenObjectList = s.takenObjectList)
    (hmem : ∀ m t, t ∈ s'.waiters m → t ∈ s.waiters m)
    (hpend : ∀ m t, s'.pendingObject t = some m → s.pendingObject t = some m) : Owners s' where
  own m t := by
    rw [(hmutex m).1, htaken]
    exact h.own m t
  nodup t := by
    rw [htaken]
    exact h.nodup t
  hold_pos m := by
    rw [(hmutex m).1, (hmutex m).2]
    exact h.hold_pos m
  hold_le m := by
    rw [(hmutex m).2]
    exact h.hold_le m
  free m t hm hmem' := by
    rw [(hmutex m).1] at hm
    exact h.free m t hm (hmem m t hmem')
  notOwn m t hm := by
    rw [(hmutex m).1]
    exact h.notOwn m t (hpend m t hm)

lemma of_reprio (h : Owners s) (hr : Reprio s s') : Owners s' :=
  h.keep (fun m => ⟨hr.owner m, hr.hold m⟩) hr.takenObjectList (fun m t => (hr.mem _ t).mp)
    (fun m t hm => by rwa [hr.pendingObject] at hm)

lemma of_idle (h : Owners s) (hi : Idle s s') : Owners s' := by
  refine h.keep (fun m => ?_) hi.takenObjectList (fun m t hm => ?_) (fun m t hm => ?_)
  · rw [hi.mutex]
    exact ⟨rfl, rfl⟩
  · rwa [hi.waiters] at hm
  · rwa [hi.pendingObject] at hm

variable [DecidableEq Oid]

/-- The count of an owner goes up or down. -/
lemma setHold (h : Owners s) (hold : ℕ) (hpos : 0 < hold) (hle : hold ≤ holdMax)
    (howner : (s.mutex m).owner ≠ none) :
    Owners (s.setMutex m { s.mutex m with hold := hold }) := by
  have howner' : ∀ m', ((s.setMutex m { s.mutex m with hold := hold }).mutex m').owner =
      (s.mutex m').owner := by
    intro m'
    unfold State.setMutex
    by_cases hm : m' = m
    · subst hm
      simp only [Function.update_self]
    · simp only [Function.update_of_ne hm]
  refine ⟨fun m' t => ?_, h.nodup, fun m' => ?_, fun m' => ?_, fun m' t hm => ?_, fun m' t hm => ?_⟩
  · rw [howner']
    exact h.own m' t
  · rw [howner']
    by_cases hm : m' = m
    · subst hm
      unfold State.setMutex
      simp only [Function.update_self]
      exact iff_of_true hpos howner
    · unfold State.setMutex
      simp only [Function.update_of_ne hm]
      exact h.hold_pos m'
  · by_cases hm : m' = m
    · subst hm
      unfold State.setMutex
      simp only [Function.update_self]
      exact hle
    · unfold State.setMutex
      simp only [Function.update_of_ne hm]
      exact h.hold_le m'
  · rw [howner'] at hm
    exact h.free m' t hm
  · rw [howner']
    exact h.notOwn m' t hm

end Owners

/-- The same for all mutexes but one, which is in nobody's list. -/
structure OwnersBut (s : State Tid Oid) (m : Oid) : Prop where
  notTaken : ∀ t, m ∉ s.takenObjectList t
  nodup : ∀ t, (s.takenObjectList t).Nodup
  own : ∀ m' t, m' ≠ m → ((s.mutex m').owner = some t ↔ m' ∈ s.takenObjectList t)
  hold_pos : ∀ m', m' ≠ m → (0 < (s.mutex m').hold ↔ (s.mutex m').owner ≠ none)
  hold_le : ∀ m', m' ≠ m → (s.mutex m').hold ≤ holdMax
  free : ∀ m' t, m' ≠ m → (s.mutex m').owner = none → t ∉ s.waiters m'
  notOwn : ∀ m' t, m' ≠ m → s.pendingObject t = some m' → (s.mutex m').owner ≠ some t

namespace OwnersBut

variable {s s' : State Tid Oid} {t : Tid} {m : Oid}

lemma of_free (h : Owners s) (hm : (s.mutex m).owner = none) : OwnersBut s m where
  notTaken t ht := by
    rw [← h.own m t, hm] at ht
    cases ht
  nodup := h.nodup
  own m' t _ := h.own m' t
  hold_pos m' _ := h.hold_pos m'
  hold_le m' _ := h.hold_le m'
  free m' t _ := h.free m' t
  notOwn m' t _ := h.notOwn m' t

/-- The owner takes a mutex off its list. -/
lemma of_drop [DecidableEq Oid] (h : Owners s)
    (hmutex : ∀ m', m' ≠ m → s'.mutex m' = s.mutex m')
    (htaken : s'.takenObjectList = fun u => (s.takenObjectList u).filter (· ≠ m))
    (hmem : ∀ m' u, u ∈ s'.waiters m' ↔ u ∈ s.waiters m')
    (hpend : s'.pendingObject = s.pendingObject) : OwnersBut s' m where
  notTaken u := by
    rw [htaken]
    simp
  nodup u := by
    rw [htaken]
    exact (h.nodup u).filter _
  own m' u hm := by
    rw [hmutex m' hm, htaken, h.own m' u]
    simp [hm]
  hold_pos m' hm := by
    rw [hmutex m' hm]
    exact h.hold_pos m'
  hold_le m' hm := by
    rw [hmutex m' hm]
    exact h.hold_le m'
  free m' u hm hfree := by
    rw [hmutex m' hm] at hfree
    rw [hmem]
    exact h.free m' u hfree
  notOwn m' u hm hu := by
    rw [hpend] at hu
    rw [hmutex m' hm]
    exact h.notOwn m' u hu

lemma of_reprio (h : OwnersBut s m) (hr : Reprio s s') : OwnersBut s' m where
  notTaken u := by
    rw [hr.takenObjectList]
    exact h.notTaken u
  nodup u := by
    rw [hr.takenObjectList]
    exact h.nodup u
  own m' u hm := by
    rw [hr.owner, hr.takenObjectList]
    exact h.own m' u hm
  hold_pos m' hm := by
    rw [hr.owner, hr.hold]
    exact h.hold_pos m' hm
  hold_le m' hm := by
    rw [hr.hold]
    exact h.hold_le m' hm
  free m' u hm hfree := by
    rw [hr.owner] at hfree
    exact fun hu => h.free m' u hm hfree ((hr.mem _ u).mp hu)
  notOwn m' u hm hu := by
    rw [hr.pendingObject] at hu
    rw [hr.owner]
    exact h.notOwn m' u hm hu

variable [DecidableEq Oid]

/-- The mutex has no owner. -/
lemma clear (h : OwnersBut s m) {p : ℕ} (hhold : (s.mutex m).hold = 0) (hlist : s.waiters m = []) :
    Owners (s.setMutex m { s.mutex m with owner := none, priority := p }) := by
  have hsame : ∀ m', m' ≠ m →
      (s.setMutex m { s.mutex m with owner := none, priority := p }).mutex m' = s.mutex m' :=
    fun m' hm => Function.update_of_ne hm ..
  have hat : (s.setMutex m { s.mutex m with owner := none, priority := p }).mutex m =
      { s.mutex m with owner := none, priority := p } := Function.update_self ..
  refine ⟨fun m' u => ?_, h.nodup, fun m' => ?_, fun m' => ?_, fun m' u => ?_, fun m' u hu => ?_⟩ <;>
    by_cases hm : m' = m
  · subst hm
    rw [hat]
    exact iff_of_false nofun (h.notTaken u)
  · rw [hsame m' hm]
    exact h.own m' u hm
  · subst hm
    rw [hat, hhold]
    exact iff_of_false (lt_irrefl 0) fun hne => hne rfl
  · rw [hsame m' hm]
    exact h.hold_pos m' hm
  · subst hm
    rw [hat, hhold]
    exact Nat.zero_le _
  · rw [hsame m' hm]
    exact h.hold_le m' hm
  · subst hm
    intro _ hmem
    have hmem' : u ∈ s.waiters m' := hmem
    rw [hlist] at hmem'
    cases hmem'
  · rw [hsame m' hm]
    exact h.free m' u hm
  · subst hm
    rw [hat]
    nofun
  · rw [hsame m' hm]
    exact h.notOwn m' u hm hu

variable [DecidableEq Tid]

/-- A thread becomes the owner of the mutex. -/
lemma acquire (h : OwnersBut s m) (hpend : s'.pendingObject t ≠ some m)
    (hmutex : ∀ m', m' ≠ m → (s'.mutex m').owner = (s.mutex m').owner ∧
      (s'.mutex m').hold = (s.mutex m').hold)
    (howner : (s'.mutex m).owner = some t) (hhold : (s'.mutex m).hold = 1)
    (htaken : s'.takenObjectList = Function.update s.takenObjectList t (m :: s.takenObjectList t))
    (hmem : ∀ m' u, u ∈ s'.waiters m' → u ∈ s.waiters m')
    (hpend' : ∀ m' u, s'.pendingObject u = some m' → s.pendingObject u = some m') : Owners s' := by
  refine ⟨fun m' u => ?_, fun u => ?_, fun m' => ?_, fun m' => ?_, fun m' u hm' hmem' => ?_,
    fun m' u hu => ?_⟩
  · rw [htaken]
    by_cases hm : m' = m
    · subst hm
      rw [howner]
      by_cases hu : u = t
      · subst hu
        simp
      · rw [Function.update_of_ne hu]
        exact iff_of_false (fun heq => hu (Option.some.inj heq).symm) (h.notTaken u)
    · rw [(hmutex m' hm).1, h.own m' u hm]
      by_cases hu : u = t
      · subst hu
        simp [hm]
      · rw [Function.update_of_ne hu]
  · rw [htaken]
    by_cases hu : u = t
    · subst hu
      rw [Function.update_self]
      exact List.nodup_cons.mpr ⟨h.notTaken u, h.nodup u⟩
    · rw [Function.update_of_ne hu]
      exact h.nodup u
  · by_cases hm : m' = m
    · subst hm
      rw [howner, hhold]
      exact iff_of_true Nat.one_pos nofun
    · rw [(hmutex m' hm).1, (hmutex m' hm).2]
      exact h.hold_pos m' hm
  · by_cases hm : m' = m
    · subst hm
      rw [hhold]
      decide
    · rw [(hmutex m' hm).2]
      exact h.hold_le m' hm
  · by_cases hm : m' = m
    · subst hm
      rw [howner] at hm'
      cases hm'
    · rw [(hmutex m' hm).1] at hm'
      exact h.free m' u hm hm' (hmem m' u hmem')
  · by_cases hm : m' = m
    · subst hm
      rw [howner]
      rintro heq
      obtain rfl := Option.some.inj heq
      exact hpend hu
    · rw [(hmutex m' hm).1]
      exact h.notOwn m' u hm (hpend' m' u hu)

end OwnersBut

/-! ### Both together -/

/-- The threads and the owners. -/
structure Core (s : State Tid Oid) (pc : Tid → Pc Oid) : Prop where
  threads : Threads s pc
  owners : Owners s

namespace Core

variable {s s' : State Tid Oid} {pc pc' : Tid → Pc Oid} {t u : Tid} {m : Oid}

/-- No thread is inside a spin lock. -/
def Nobody (pc : Tid → Pc Oid) : Prop := ∀ u, (pc u).locked = false

lemma of_idle (h : Core s pc) (hn : Nobody pc) (hi : Idle s s') : Core s' pc :=
  ⟨h.threads.keep hi.inv (fun _ => Threads.sit_of_idle hi rfl)
    (fun u hu => by rw [hn u] at hu; cases hu), h.owners.of_idle hi⟩

lemma of_reprio (h : Core s pc) (hr : Reprio s s') : Core s' pc :=
  ⟨h.threads.of_reprio hr, h.owners.of_reprio hr⟩

/-- A write to the mutexes and the lists of their owners. -/
lemma withOwners (h : Core s pc) (ho : Owners s') (hkernel : s'.kernel = s.kernel)
    (hpend : s'.pendingObject = s.pendingObject) : Core s' pc :=
  ⟨h.threads.withKernel hkernel hpend, ho⟩

variable [DecidableEq Tid]

/-- The running thread goes to another point outside the spin locks. -/
lemma goto {x : Pc Oid} (h : Core s pc) (hx : x.locked = false)
    (htarget : ∀ m, s.pendingObject t = some m → x.target = some m) :
    Core s (Function.update pc t x) := by
  refine ⟨h.threads.goto (fun m hm => ?_) htarget (fun hl => ?_), h.owners⟩
  · rw [Pc.locked_of_early hm] at hx
    cases hx
  · rw [hx] at hl
    cases hl

variable [DecidableEq Oid]

/-- The mutex passes to the first waiter. -/
lemma next {kernel : Kernel Tid Oid} {rest : List Tid} (ht : Threads s pc) (ho : OwnersBut s m)
    (hn : Nobody pc) (hlist : s.waiters m = u :: rest) (hr : s.kernel.Readies kernel u) :
    Core (s.handed kernel m u) pc := by
  have hlook : ∀ w, w ≠ u → (s.handed kernel m u).kernel.look w = s.kernel.look w := by
    intro w hw
    change kernel.look w = _
    rw [hr.look, Function.update_of_ne hw]
  have hmem : ∀ w l, w ∈ (s.handed kernel m u).kernel.suspendThread l ↔
      w ≠ u ∧ w ∈ s.kernel.suspendThread l := by
    intro w l
    change w ∈ kernel.suspendThread l ↔ _
    rw [hr.suspendThread, List.mem_filter, and_comm]
    simp
  have hpend : (s.handed kernel m u).pendingObject u = none := Function.update_self ..
  refine ⟨ht.change u (hr.inv ht.inv) (fun w hw => ?_) ?_ fun w hw => ?_, ?_⟩
  · refine State.sit_congr (by rw [hlook w hw]) (by rw [hlook w hw]) ?_ (fun l => ?_) ?_ rfl
    · change kernel.timerActive w = _
      rw [hr.timerActive, Kernel.timersStopped_of_ne hw]
    · rw [hmem]
      exact and_iff_right hw
    · exact Function.update_of_ne hw ..
  · refine Sit.ok_of_not_suspended ?_ (fun l hl => ((hmem u l).mp hl).1 rfl) ?_ (fun m' hm' => ?_)
      (Threads.early_eq_none (hn u))
    · change (kernel.look u).life ≠ .suspended
      rw [hr.look, Function.update_self]
      nofun
    · change kernel.timerActive u = false
      rw [hr.timerActive, Bool.eq_false_iff]
      intro hact
      unfold Kernel.timersStopped at hact
      split at hact
      · rw [Function.update_self] at hact
        cases hact
      · rename_i hset
        exact hset ((ht.ok u).active hact).2
    · rw [show (State.sit (s.handed kernel m u) pc u).pending = none from hpend] at hm'
      cases hm'
  · rw [hn w] at hw
    cases hw
  · refine ho.acquire (t := u) ?_ (fun m' hm => ?_) ?_ ?_ rfl (fun m' w hw => ((hmem w _).mp hw).2)
      (fun m' w hw => ?_)
    · rw [hpend]
      nofun
    · unfold State.handed State.mutexUpdatePriority State.setMutex
      simp only [Function.update_of_ne hm, and_self]
    · unfold State.handed State.mutexUpdatePriority State.setMutex
      simp only [Function.update_self]
    · unfold State.handed State.mutexUpdatePriority State.setMutex
      simp only [Function.update_self]
    · by_cases hwu : w = u
      · subst hwu
        rw [hpend] at hw
        cases hw
      · rwa [show (s.handed kernel m u).pendingObject w = s.pendingObject w from
          Function.update_of_ne hwu ..] at hw

lemma release (h : Core s pc) (hn : Nobody pc) (hr : State.Release s t m s') : Core s' pc := by
  cases hr with
  | refused _ howner hi => exact h.of_idle hn hi
  | less s₁ _ howner hhold h₁ h₂ =>
    have hc := h.of_idle hn h₁
    have howner₁ : (s₁.mutex m).owner = some t := by
      rw [h₁.mutex]
      exact howner
    have hpos : 0 < (s₁.mutex m).hold := by
      rw [hc.owners.hold_pos, howner₁]
      nofun
    have hne : (s₁.mutex m).hold ≠ 1 := by
      rw [h₁.mutex]
      exact hhold
    have hle := hc.owners.hold_le m
    have hset := hc.owners.setHold (m := m) ((s₁.mutex m).hold - 1) (by omega) (by omega)
      (by rw [howner₁]; nofun)
    exact (hc.withOwners hset rfl rfl).of_idle hn h₂
  | last s₁ s₂ _ howner hhold h₁ hover h₂ =>
    have hc := h.of_idle hn h₁
    have hr := State.reprio_givenUp s₁ t m
    have hdropped : Threads (s₁.dropped m) pc := hc.threads.withKernel rfl rfl
    have ht : Threads (s₁.givenUp t m) pc :=
      hdropped.of_reprio hr
    have hdrop : OwnersBut (s₁.dropped m) m :=
      OwnersBut.of_drop hc.owners (fun m' hm => Function.update_of_ne hm ..) rfl
        (fun _ _ => Iff.rfl) rfl
    have hb : OwnersBut (s₁.givenUp t m) m := hdrop.of_reprio hr
    have hzero : ((s₁.givenUp t m).mutex m).hold = 0 := by
      rw [hr.hold]
      unfold State.dropped State.setMutex
      simp only [Function.update_self]
    have hcore : Core s₂ pc := by
      cases hover with
      | free hlist => exact ⟨ht.withKernel rfl rfl, hb.clear hzero hlist⟩
      | next kernel u rest hlist hready => exact next ht hb hn hlist hready
    exact hcore.of_idle hn h₂

end Core

end N32L43x.Mutex
