import N32L43x.Object.Heap

/-!
A constructor that fails leaves the lists of objects and the live blocks of the heap as they were.
-/

namespace N32L43x.Object

open N32L43x.Mem N32L43x.Lib.Run

/-- The constructors that may fail. -/
inductive Call
  | mqInit (mq msgPool msgSize poolSize : ℕ)
  | mqCreate (msgSize maxMsgs : ℕ)
  | mbCreate (size : ℕ)
  | mpCreate (blockCount blockSize : ℕ)
  | workqueueCreate (stackSize : ℕ)

/-- What a call leads to, if its loops end, and whether it has reported success. -/
def call (k : Kernel) : Call → Option (Kernel × Bool)
  | .mqInit mq msgPool msgSize poolSize =>
    let r := rtMqInit k mq msgPool msgSize poolSize
    some (r.1, r.2.isSome)
  | .mqCreate msgSize maxMsgs => (rtMqCreate k msgSize maxMsgs).map fun r => (r.1, r.2.isSome)
  | .mbCreate size => (rtMbCreate k size).map fun r => (r.1, r.2.isSome)
  | .mpCreate blockCount blockSize => (rtMpCreate k blockCount blockSize).map fun r => (r.1, r.2.isSome)
  | .workqueueCreate stackSize => (rtWorkqueueCreate k stackSize).map fun r => (r.1, r.2.isSome)

/-- The lists of objects and the live blocks are the same. -/
def Same (k k' : Kernel) : Prop :=
  k'.objectList = k.objectList ∧ ∀ p, Live k'.store.mem p ↔ Live k.store.mem p

/-- The call returns, and if it reports failure nothing has changed. -/
def Atomic (k : Kernel) (c : Call) : Prop :=
  ∃ k' ok, call k c = some (k', ok) ∧ (ok = false → Same k k')

/-- `rt_mq_init` has room for a message. -/
def HasRoom : Call → Prop
  | .mqInit _ _ msgSize poolSize => uint16 (poolSize / messageStride msgSize) ≠ 0
  | _ => True

variable {k k' : Kernel} {live : ℕ × ℕ → Prop} {type : ObjectClass} {size stackSize : ℕ}

lemma Heap.same (h : Heap k.store live) (h' : Heap k'.store live) (hlist : k'.objectList = k.objectList) :
    Same k k' := by
  refine ⟨hlist, fun p => ?_⟩
  rw [h'.live_iff, h.live_iff]

/-- A constructor that needs an object and memory for it, whatever it does with them. -/
lemma Heap.createWith_atomic {α : Type} (h : Heap k.store live) (type : ObjectClass) (size : ℕ)
    (f : Kernel × Option (ℕ × ℕ) → Kernel × Option α) (hfail : ∀ k', f (k', none) = (k', none))
    (hok : ∀ k' p, (f (k', some p)).2.isSome) :
    ∃ k' ok, ((Object.createWith k type size).map f).map (fun r => (r.1, r.2.isSome)) = some (k', ok) ∧
      (ok = false → Same k k') := by
  rcases h.createWith type size with
    ⟨k', hcall, hlist, h', -⟩ | ⟨k', object, start, d, hcall, -⟩
  · refine ⟨k', false, ?_, fun _ => h.same h' hlist⟩
    rw [hcall, Option.map_some, Option.map_some, hfail]
    rfl
  · refine ⟨(f (k', some (object, start))).1, true, ?_, fun hno => absurd hno (by decide)⟩
    rw [hcall, Option.map_some, Option.map_some, hok]

/-- A thread is created, or nothing is changed. -/
lemma Heap.rtThreadCreate (h : Heap k.store live) (stackSize : ℕ) :
    (∃ k', rtThreadCreate k stackSize = some (k', none) ∧ k'.objectList = k.objectList ∧
      Heap k'.store live) ∨
    ∃ k' thread, rtThreadCreate k stackSize = some (k', some thread) := by
  unfold Object.rtThreadCreate
  rcases h.createWith .thread stackSize with
    ⟨k', hcall, hlist, h', -⟩ | ⟨k', object, start, d, hcall, -⟩
  · left
    rw [hcall]
    exact ⟨k', rfl, hlist, h'⟩
  · right
    rw [hcall]
    exact ⟨_, object, rfl⟩

/-- The queue, its semaphore and its thread: all of them are there, or none is. -/
lemma Heap.workqueueCreate (h : Heap k.store live) (stackSize : ℕ) :
    ∃ k' r, rtWorkqueueCreate k stackSize = some (k', r) ∧ (r = none → Same k k') := by
  unfold rtWorkqueueCreate rtKernelMalloc
  rcases h.malloc k.layout.sizeofWorkqueue with ⟨hmem, -⟩ | ⟨-, s₁, queue, d, hmem, -, hfresh, h₁⟩
  · rw [hmem]
    exact ⟨_, none, rfl, fun _ => ⟨rfl, fun _ => Iff.rfl⟩⟩
  rw [hmem]
  simp only [Option.map_some, Option.bind_some]
  obtain ⟨sem, hsem⟩ : ∃ sem, sem = s₁.addrOf queue + k.layout.workqueueSem := ⟨_, rfl⟩
  rw [← hsem]
  have hsema : Heap (rtObjectInit { k with store := s₁ } .semaphore sem).store
      fun y => y = (queue, d) ∨ live y := h₁
  rcases hsema.rtThreadCreate stackSize with ⟨k₂, hthread, hlist, h₂⟩ | ⟨k₂, thread, hthread⟩
  · rw [hthread]
    refine ⟨_, none, rfl, fun _ => @Heap.same k (rtKernelFree _ queue) live h (h₂.free_fresh hfresh) ?_⟩
    show Function.update k₂.objectList .semaphore ((k₂.objectList .semaphore).erase sem) = k.objectList
    rw [hlist]
    show Function.update (Function.update k.objectList .semaphore (sem :: k.objectList .semaphore))
      .semaphore ((Function.update k.objectList .semaphore (sem :: k.objectList .semaphore)
        .semaphore).erase sem) = k.objectList
    rw [Function.update_self, List.erase_cons_head, Function.update_idem, Function.update_eq_self]
  · rw [hthread]
    exact ⟨_, some queue, rfl, by rintro ⟨⟩⟩

/-- `rt_mq_init` always enters its object. -/
lemma call_mqInit (k : Kernel) (mq msgPool msgSize poolSize : ℕ) :
    call k (.mqInit mq msgPool msgSize poolSize) = some (rtObjectInit k .messageQueue mq,
      decide (uint16 (poolSize / messageStride msgSize) ≠ 0)) := by
  unfold call rtMqInit
  by_cases hroom : uint16 (poolSize / messageStride msgSize) = 0
  · simp [hroom]
  · simp [hroom]

lemma not_same_rtObjectInit (k : Kernel) (type : ObjectClass) (object : ℕ) :
    ¬ Same k (rtObjectInit k type object) := by
  intro hsame
  have hlen := congrArg List.length (congrFun hsame.1 type)
  simp [rtObjectInit] at hlen

lemma atomic_mqInit_iff (k : Kernel) (mq msgPool msgSize poolSize : ℕ) :
    Atomic k (.mqInit mq msgPool msgSize poolSize) ↔ HasRoom (.mqInit mq msgPool msgSize poolSize) := by
  unfold Atomic
  rw [call_mqInit]
  show _ ↔ uint16 (poolSize / messageStride msgSize) ≠ 0
  constructor
  · rintro ⟨k', ok, heq, hsame⟩ hno
    obtain ⟨rfl, rfl⟩ := Prod.mk.inj (Option.some.inj heq)
    exact not_same_rtObjectInit k .messageQueue mq (hsame (decide_eq_false (not_not.mpr hno)))
  · intro hroom
    exact ⟨_, _, rfl, fun hno => absurd hroom (of_decide_eq_false hno)⟩

lemma Heap.atomic_iff (h : Heap k.store live) (c : Call) : Atomic k c ↔ HasRoom c := by
  cases c with
  | mqInit mq msgPool msgSize poolSize => exact atomic_mqInit_iff k mq msgPool msgSize poolSize
  | mqCreate msgSize maxMsgs =>
    exact iff_of_true (h.createWith_atomic _ _ _ (fun _ => rfl) fun _ _ => rfl) trivial
  | mbCreate size =>
    exact iff_of_true (h.createWith_atomic _ _ _ (fun _ => rfl) fun _ _ => rfl) trivial
  | mpCreate blockCount blockSize =>
    exact iff_of_true (h.createWith_atomic _ _ _ (fun _ => rfl) fun _ _ => rfl) trivial
  | workqueueCreate stackSize =>
    obtain ⟨k', r, hcall, hsame⟩ := h.workqueueCreate stackSize
    refine iff_of_true ⟨k', r.isSome, ?_, fun hno => hsame ?_⟩ trivial
    swap
    · exact Option.isNone_iff_eq_none.mp (Option.isSome_eq_false_iff.mp hno)
    show (rtWorkqueueCreate k stackSize).map _ = _
    rw [hcall]
    rfl

/-- **A constructor that fails changes nothing**, unless it is `rt_mq_init`.  The heap is that of any
program that has kept to its pointers and to sizes in range, and the objects may be any. -/
theorem constructors_atomic_iff {m : SmallMem} {sizeofSmallMem beginAddr size : ℕ}
    {garbage : ℕ → MemItem} (hinit : rtSmemInit sizeofSmallMem beginAddr size garbage = some m)
    (pool : ℕ) (byte : ℕ → BitVec 8) (as : List Client.Action) (c : Client)
    (hvalid : Along Client.step (fun c a => Client.Valid c a ∧ Client.InRange c a)
      ⟨⟨m, pool, byte⟩, fun _ => none⟩ as)
    (hrun : exec Client.step ⟨⟨m, pool, byte⟩, fun _ => none⟩ as = some c)
    (objectList : ObjectClass → List ℕ) (layout : Layout) (f : Call) :
    Atomic ⟨c.store, objectList, layout⟩ f ↔ HasRoom f := by
  obtain ⟨live, h⟩ := heap_of_run hinit pool byte hvalid hrun
  exact Heap.atomic_iff (k := ⟨c.store, objectList, layout⟩) h f

/-- A heap of one kilobyte has no room for the stack of the thread. -/
theorem constructors_atomic_iff_stack :
    ∃ m, rtSmemInit 56 0x20000000 1024 (fun _ => ⟨.null, 0, 0⟩) = some m ∧
      (Atomic ⟨⟨m, 0x20000000, fun _ => 0⟩, fun _ => [], ⟨fun _ => 64, 100, 40, 88⟩⟩
        (.workqueueCreate 2048) ↔ HasRoom (.workqueueCreate 2048)) := by
  obtain ⟨m, hm⟩ := Option.isSome_iff_exists.mp
    (show (rtSmemInit 56 0x20000000 1024 fun _ => ⟨.null, 0, 0⟩).isSome by decide +kernel)
  exact ⟨m, hm, constructors_atomic_iff hm 0x20000000 (fun _ => 0) [] ⟨⟨m, 0x20000000, fun _ => 0⟩, fun _ => none⟩
    trivial rfl (fun _ => []) ⟨fun _ => 64, 100, 40, 88⟩ (.workqueueCreate 2048)⟩

/-- A pool of 8 bytes has no room for a message of 8 bytes.  The queue stays in the list. -/
theorem mqInit_not_atomic :
    ∃ m, rtSmemInit 56 0x20000000 1024 (fun _ => ⟨.null, 0, 0⟩) = some m ∧
      ¬ Atomic ⟨⟨m, 0x20000000, fun _ => 0⟩, fun _ => [], ⟨fun _ => 64, 100, 40, 88⟩⟩
        (.mqInit 0x20001000 0x20002000 8 8) := by
  obtain ⟨m, hm⟩ := Option.isSome_iff_exists.mp
    (show (rtSmemInit 56 0x20000000 1024 fun _ => ⟨.null, 0, 0⟩).isSome by decide +kernel)
  refine ⟨m, hm, fun hatomic => ?_⟩
  have hroom := (atomic_mqInit_iff _ _ _ _ _).mp hatomic
  exact absurd hroom (by unfold HasRoom; decide)

end N32L43x.Object
