import N32L43x.Mem.Adequate
import N32L43x.Object.Defs

/-!
What the requests of a constructor do to the system heap: a block is added to those that are live, and a
block that is released is taken away again.
-/

namespace N32L43x.Object

open N32L43x.Mem N32L43x.Lib.Run

variable {k k' : Kernel} {s s' : Store} {bs : List Blk} {n p : ℕ} {type : ObjectClass}

/-- The heap is a list of blocks, with the live ones `live`, and ends below the end of the address
space. -/
structure Heap (s : Store) (live : ℕ × ℕ → Prop) : Prop where
  rep : ∃ bs, Rep s.mem bs ∧ ∀ y, y ∈ payloads 0 bs ↔ live y
  room : s.mem.heapPtr + s.mem.memSizeAligned + 32 < 4294967296

variable {live live' : ℕ × ℕ → Prop}

lemma Heap.live_iff (h : Heap s live) (p : ℕ) : Live s.mem p ↔ ∃ d, live (p, d) := by
  obtain ⟨bs, hrep, hlive⟩ := h.rep
  constructor
  · intro hp
    exact ⟨_, (hlive _).mp (hrep.toLinked.mem_payloads_iff.mpr ⟨hp, rfl⟩)⟩
  · rintro ⟨d, hd⟩
    exact (hrep.toLinked.mem_payloads_iff.mp ((hlive _).mpr hd)).1

lemma Heap.congr (h : Heap s live) (hiff : ∀ y, live y ↔ live' y) : Heap s live' := by
  obtain ⟨bs, hrep, hlive⟩ := h.rep
  exact ⟨⟨bs, hrep, fun y => (hlive y).trans (hiff y)⟩, h.room⟩

/-- The bytes of a live block. -/
lemma Heap.bounds (h : Heap s live) {d : ℕ} (hp : live (p, d)) :
    p < 4294967296 ∧ 0 < s.addrOf p ∧ s.addrOf p + d + 16 < 4294967296 ∧ payloadSize s.mem p = d := by
  obtain ⟨bs, hrep, hlive⟩ := h.rep
  have hin := (hlive _).mpr hp
  have hroom := h.room
  obtain ⟨k, b, l, rfl, hb, heq⟩ := exists_of_mem_payloads hin
  obtain ⟨rfl, rfl⟩ := Prod.mk.inj heq
  have hend := hrep.toLinked.end_ge
  have hsize := b.size_ge
  have haddr : s.addrOf (0 + total k + 16) = s.mem.heapPtr + (0 + total k + 16) :=
    add32_of_lt (by omega)
  rw [haddr]
  exact ⟨by omega, by omega, by omega, (hrep.toLinked.mem_payloads_iff.mp hin).2⟩

/-- A request to the heap is refused and changes nothing, or adds a live block. -/
lemma Heap.malloc (h : Heap s live) (n : ℕ) :
    s.rtMalloc n = some (s, none) ∧ Client.Refused s.mem n ∨
    ¬ Client.Refused s.mem n ∧ ∃ s' p d, s.rtMalloc n = some (s', some p) ∧ needed n ≤ d ∧
      (∀ y, live y → y.1 ≠ p) ∧ Heap s' fun y => y = (p, d) ∨ live y := by
  obtain ⟨bs, hrep, hlive⟩ := h.rep
  by_cases hn : n = 0
  · left
    unfold Store.rtMalloc Store.rtSmemAlloc rtSmemAlloc
    rw [if_pos hn, Option.map_some, Store.put_self]
    exact ⟨rfl, .inl hn⟩
  rcases hrep.store_alloc hn with ⟨heq, hnone⟩ | ⟨k, b, l, m', bs', d, rfl, heq, ht⟩
  · refine .inl ⟨heq, .inr fun o ho => ?_⟩
    obtain ⟨k, b, l, rfl, -, hfree, hfit⟩ := hrep.toLinked.fits_iff.mp ho
    have hlt := hnone b (by simp) hfree
    omega
  right
  constructor
  · rintro (h0 | hnone)
    · exact hn h0
    · exact hnone _ (ht.isLeast hrep.toLinked).1
  refine ⟨_, _, d, heq, ht.room, fun y hy => ht.fresh ((hlive y).mpr hy), ⟨bs', ht.rep, fun y => ?_⟩, ?_⟩
  · rw [ht.mem_payloads, hlive]
  · have hsame := ht.writes.sameHeap
    show m'.heapPtr + m'.memSizeAligned + 32 < _
    rw [hsame.heapPtr, hsame.memSizeAligned]
    exact h.room

/-- A live block is released. -/
lemma Heap.free (h : Heap s live) {d : ℕ} (hp : live (p, d)) :
    Heap (s.rtFree (some p)) fun y => live y ∧ y.1 ≠ p := by
  obtain ⟨bs, hrep, hlive⟩ := h.rep
  obtain ⟨bs', hrep', hmem, -, hsame⟩ := hrep.store_free ((hlive _).mpr hp)
  refine ⟨⟨bs', hrep', fun y => (hmem y).trans (and_congr_left' (hlive y))⟩, ?_⟩
  show (s.rtSmemFree (some p)).mem.heapPtr + (s.rtSmemFree (some p)).mem.memSizeAligned + 32 < _
  rw [hsame.heapPtr, hsame.memSizeAligned]
  exact h.room

/-- A block that was just given out is released again. -/
lemma Heap.free_fresh {d : ℕ} (h : Heap s fun y => y = (p, d) ∨ live y) (hfresh : ∀ y, live y → y.1 ≠ p) :
    Heap (s.rtFree (some p)) live := by
  refine (h.free (.inl rfl)).congr fun y => ?_
  constructor
  · rintro ⟨rfl | hy, hne⟩
    · exact absurd rfl hne
    · exact hy
  · intro hy
    exact ⟨.inr hy, hfresh y hy⟩

/-- The second request of a constructor is refused, if it comes to it. -/
def NoRoom (k : Kernel) (type : ObjectClass) (size : ℕ) : Prop :=
  ∀ k' object, rtObjectAllocate k type = some (k', some object) → Client.Refused k'.store.mem size

/-- A constructor has its object and `size` bytes for it, which are live. -/
structure Created (k : Kernel) (type : ObjectClass) (size : ℕ) (k' : Kernel) (start d : ℕ) : Prop where
  room : ¬ NoRoom k type size
  heap : ∃ live, Heap k'.store live ∧ live (start, d)
  enough : needed size ≤ d

/-- **An object and memory for it**: both are there, or neither is. -/
lemma Heap.createWith (h : Heap k.store live) (type : ObjectClass) (size : ℕ) :
    (∃ k', createWith k type size = some (k', none) ∧ k'.objectList = k.objectList ∧
      Heap k'.store live ∧ NoRoom k type size) ∨
    ∃ k' object start d, createWith k type size = some (k', some (object, start)) ∧
      Created k type size k' start d := by
  unfold Object.createWith
  rcases h.malloc (k.layout.objectSize type) with
    ⟨hobj, -⟩ | ⟨-, s₁, object, d₁, hobj, -, hfresh, h₁⟩
  · left
    have halloc : rtObjectAllocate k type = some (k, none) := by
      unfold rtObjectAllocate rtKernelMalloc
      rw [hobj]
      rfl
    rw [halloc]
    refine ⟨k, rfl, rfl, h, fun k' object hno => ?_⟩
    rw [halloc] at hno
    cases hno
  obtain ⟨k₁, hk₁⟩ : ∃ k₁, k₁ = rtObjectInit { k with store := s₁ } type (s₁.addrOf object) := ⟨_, rfl⟩
  have halloc : rtObjectAllocate k type = some (k₁, some object) := by
    unfold rtObjectAllocate rtKernelMalloc
    rw [hobj, hk₁]
    rfl
  have hstore : k₁.store = s₁ := by rw [hk₁]; rfl
  have hlist : k₁.objectList =
      Function.update k.objectList type (s₁.addrOf object :: k.objectList type) := by rw [hk₁]; rfl
  rw [halloc, Option.bind_some]
  simp only
  rcases h₁.malloc size with ⟨hmem, hno⟩ | ⟨hroom, s₂, start, d, hmem, henough, -, h₂⟩
  · -- the object is deleted again
    left
    have hcall : rtKernelMalloc k₁ size = some (k₁, none) := by
      unfold rtKernelMalloc
      rw [hstore, hmem, ← hstore]
      rfl
    rw [hcall]
    refine ⟨_, rfl, ?_, ?_, fun k' object' hobj' => ?_⟩
    · show Function.update k₁.objectList type ((k₁.objectList type).erase (k₁.store.addrOf object)) = _
      rw [hlist, hstore, Function.update_self, List.erase_cons_head, Function.update_idem,
        Function.update_eq_self]
    · show Heap (k₁.store.rtFree (some object)) live
      rw [hstore]
      exact h₁.free_fresh hfresh
    · rw [halloc] at hobj'
      obtain ⟨rfl, -⟩ := Prod.mk.inj (Option.some.inj hobj')
      rw [hstore]
      exact hno
  · right
    have hcall : rtKernelMalloc k₁ size = some ({ k₁ with store := s₂ }, some start) := by
      unfold rtKernelMalloc
      rw [hstore, hmem]
      rfl
    rw [hcall]
    refine ⟨{ k₁ with store := s₂ }, object, start, d, rfl, fun hno => hroom ?_, ⟨_, h₂, .inl rfl⟩, henough⟩
    exact hstore ▸ hno k₁ object halloc

/-- The heap of a program that has kept to its pointers and to sizes in range. -/
lemma heap_of_run {m : SmallMem} {sizeofSmallMem beginAddr size : ℕ} {garbage : ℕ → MemItem}
    (hinit : rtSmemInit sizeofSmallMem beginAddr size garbage = some m) (pool : ℕ)
    (byte : ℕ → BitVec 8) {as : List Client.Action} {c : Client}
    (hvalid : Along Client.step (fun c a => Client.Valid c a ∧ Client.InRange c a)
      ⟨⟨m, pool, byte⟩, fun _ => none⟩ as)
    (hrun : exec Client.step ⟨⟨m, pool, byte⟩, fun _ => none⟩ as = some c) :
    ∃ live, Heap c.store live := by
  have hinv : Client.Inv c := by
    refine exec_inv_of_along (I := Client.Inv) (fun c a c' hI ha hc => ?_) as _ c ?_ hvalid hrun
    · obtain ⟨c'', hc'', hinv⟩ := (hI.kept ha.1 ha.2).2
      rw [hc] at hc''
      obtain rfl := Option.some.inj hc''
      exact hinv
    · exact Client.inv_start hinit pool byte
  obtain ⟨bs, base, hinv⟩ := hinv
  exact ⟨_, ⟨bs, hinv.rep, fun _ => Iff.rfl⟩, hinv.room⟩

end N32L43x.Object
