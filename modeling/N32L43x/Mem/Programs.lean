import N32L43x.Mem.Resize

/-!
Runs of any program over the heap.  The heap stays a list of blocks whatever sizes are asked for, so
every search finds the lowest block there is, and resizing keeps what it should except where it is
shown not to.
-/

namespace N32L43x.Mem

open N32L43x.Lib.Run

variable {m : SmallMem} {s s' : Store} {p c n : ℕ}

namespace Store

/-- The heap is a list of blocks. -/
def Inv (s : Store) : Prop := ∃ bs, Rep s.mem bs

/-- **Every valid action returns and keeps the invariant.** -/
theorem Inv.step {a : Action} (h : Inv s) (hvalid : Valid s a) :
    ∃ s', s.step a = some s' ∧ Inv s' := by
  obtain ⟨bs, hrep⟩ := h
  have halloc : ∀ n, ∃ s' res, s.rtSmemAlloc n = some (s', res) ∧ Inv s' := by
    intro n
    by_cases hn : n = 0
    · refine ⟨s.put s.mem, none, ?_, ?_⟩
      · unfold Store.rtSmemAlloc Mem.rtSmemAlloc
        rw [if_pos hn]
        rfl
      · rw [put_self]
        exact ⟨bs, hrep⟩
    · rcases hrep.store_alloc hn with ⟨heq, -⟩ | ⟨k, b, l, m', bs', c, -, heq, ht⟩
      · exact ⟨s, none, heq, bs, hrep⟩
      · exact ⟨_, _, heq, bs', ht.rep⟩
  cases a with
  | alloc size =>
    obtain ⟨s', res, heq, hinv⟩ := halloc size.toNat
    refine ⟨s', ?_, hinv⟩
    simp [Store.step, heq]
  | realloc rmem newsize =>
    cases rmem with
    | none =>
      simp only [Store.step, rtSmemRealloc]
      split
      · exact ⟨s, rfl, bs, hrep⟩
      split
      · refine ⟨s.put s.mem, rfl, ?_⟩
        rw [put_self]
        exact ⟨bs, hrep⟩
      · obtain ⟨s', res, heq, hinv⟩ := halloc (rtAlign newsize.toNat)
        refine ⟨s', ?_, hinv⟩
        rw [heq]
        rfl
    | some p =>
      have hp := hrep.toLinked.mem_payloads_iff.mpr ⟨hvalid p rfl, rfl⟩
      rcases hrep.store_realloc hp newsize.toNat with
        ⟨heq, -⟩ | ⟨heq, -⟩ | ⟨s', q, d, heq, -, hres, -⟩
      · refine ⟨s, ?_, bs, hrep⟩
        simp [Store.step, heq]
      · obtain ⟨bs', hrep', -⟩ := hrep.store_free hp
        refine ⟨_, ?_, bs', hrep'⟩
        simp [Store.step, heq]
      · obtain ⟨bs', hrep', -⟩ := hres.rep
        refine ⟨s', ?_, bs', hrep'⟩
        simp [Store.step, heq]
  | free rmem =>
    refine ⟨_, rfl, ?_⟩
    cases rmem with
    | none =>
      have hsame : s.rtSmemFree none = s := put_self s
      rw [hsame]
      exact ⟨bs, hrep⟩
    | some p =>
      have hp := hrep.toLinked.mem_payloads_iff.mpr ⟨hvalid p rfl, rfl⟩
      obtain ⟨bs', hrep', -⟩ := hrep.store_free hp
      exact ⟨bs', hrep'⟩
  | write o v =>
    obtain ⟨p, hp, hlow, hhigh⟩ := hvalid
    have hmem := hrep.toLinked.mem_payloads_iff.mpr ⟨hp, rfl⟩
    exact ⟨_, rfl, bs, hrep.write hmem hlow (by omega) _⟩

/-! ### Whole runs -/

section Runs

variable {sizeofSmallMem beginAddr size : ℕ} {garbage : ℕ → MemItem}
  (hinit : rtSmemInit sizeofSmallMem beginAddr size garbage = some m)

include hinit

lemma inv_start (pool : ℕ) (byte : ℕ → BitVec 8) : Inv ⟨m, pool, byte⟩ := by
  obtain ⟨bs, hrep, -⟩ := inv_init hinit
  exact ⟨bs, hrep⟩

/-- Every run of a program goes to its end, and leaves a list of blocks. -/
lemma exec_inv_total (pool : ℕ) (byte : ℕ → BitVec 8) {as : List Action}
    (hvalid : Along Store.step Valid ⟨m, pool, byte⟩ as) :
    ∃ s, exec Store.step ⟨m, pool, byte⟩ as = some s ∧ Inv s :=
  exec_total_of_along (fun _ _ hI ha => hI.step ha) as _ (inv_start hinit pool byte) hvalid

end Runs

end Store

/-! ### First fit -/

/-- A size rounded up to `RT_ALIGN_SIZE` and `MIN_SIZE_ALIGNED`. -/
def roundedUp (n : ℕ) : ℕ :=
  if (n + 7) / 8 * 8 < minSizeAligned then minSizeAligned else (n + 7) / 8 * 8

lemma needed_eq_roundedUp (h : n < 4294967296 - 8 + 1) : needed n = roundedUp n := by
  have hround : rtAlign n = (n + 7) / 8 * 8 := by
    unfold rtAlign add32
    omega
  unfold needed roundedUp
  rw [hround]

/-- **Allocation is first fit and complete.**  Whatever a program did before, and over any memory: a
request within the size of the heap is refused if and only if no free block has a payload of that
size, rounded up, and otherwise the lowest such block is taken. -/
theorem alloc_firstFit {sizeofSmallMem beginAddr size : ℕ} {garbage : ℕ → MemItem}
    (hinit : rtSmemInit sizeofSmallMem beginAddr size garbage = some m) (pool : ℕ)
    (byte : ℕ → BitVec 8) (as : List Store.Action)
    (hvalid : Along Store.step Store.Valid ⟨m, pool, byte⟩ as) :
    ∃ s, exec Store.step ⟨m, pool, byte⟩ as = some s ∧
      ∀ n, 0 < n → n ≤ s.mem.memSizeAligned → ∃ s' res, s.rtSmemAlloc n = some (s', res) ∧
        (res = none ↔ ∀ o, ¬ Fits s.mem (roundedUp n) o) ∧
        ∀ p, res = some p → ∃ o, IsLeast {o | Fits s.mem (roundedUp n) o} o ∧
          p = o + sizeofStructMem ∧ Live s'.mem p ∧ roundedUp n ≤ payloadSize s'.mem p := by
  obtain ⟨s, hs, bs, hrep⟩ := Store.exec_inv_total hinit pool byte hvalid
  refine ⟨s, hs, fun n hpos hle => ?_⟩
  have hbound := hrep.bound
  rw [← needed_eq_roundedUp (show n < 4294967296 - 8 + 1 by omega)]
  rcases hrep.store_alloc (Nat.pos_iff_ne_zero.mp hpos) with
    ⟨heq, hnone⟩ | ⟨k, b, l, m', bs', c, rfl, heq, ht⟩
  · refine ⟨s, none, heq, ⟨fun _ => hrep.toLinked.noneFits_iff.mp hnone, fun _ => rfl⟩, ?_⟩
    rintro p ⟨⟩
  · have hleast := ht.isLeast hrep.toLinked
    refine ⟨_, _, heq, ⟨by rintro ⟨⟩, fun hnone => absurd hleast.1 (hnone _)⟩, ?_⟩
    intro p hp
    obtain rfl := Option.some.inj hp
    obtain ⟨hlive, hsize⟩ := ht.rep.toLinked.mem_payloads_iff.mp (ht.mem_payloads.mpr (.inl rfl))
    refine ⟨total k, hleast, rfl, hlive, ?_⟩
    have hroom := ht.room
    rw [← hsize] at hroom
    exact hroom

/-- The payload of the first block. -/
lemma live_first (hend : heapEnd m ≠ 0) (hused : memIsused m 0 = true) : Live m 16 :=
  ⟨0, ⟨.start, hend.symm⟩, hused, rfl⟩

/-- A heap of one kilobyte on which two blocks are allocated and the first one is released. -/
theorem alloc_firstFit_hole :
    ∃ m, rtSmemInit 56 0x20000000 1024 (fun _ => ⟨.null, 0, 0⟩) = some m ∧
      ∃ s, exec Store.step ⟨m, 0x20000000, fun _ => 0⟩
          [.alloc 100, .alloc 200, .free (some 16)] = some s ∧
        ∀ n, 0 < n → n ≤ s.mem.memSizeAligned → ∃ s' res, s.rtSmemAlloc n = some (s', res) ∧
          (res = none ↔ ∀ o, ¬ Fits s.mem (roundedUp n) o) ∧
          ∀ p, res = some p → ∃ o, IsLeast {o | Fits s.mem (roundedUp n) o} o ∧
            p = o + sizeofStructMem ∧ Live s'.mem p ∧ roundedUp n ≤ payloadSize s'.mem p := by
  have hused : ∀ m ∈ rtSmemInit 56 0x20000000 1024 (fun _ => ⟨.null, 0, 0⟩),
      ∀ t ∈ exec Store.step ⟨m, 0x20000000, fun _ => 0⟩ [.alloc 100, .alloc 200],
        heapEnd t.mem ≠ 0 ∧ memIsused t.mem 0 = true := by decide +kernel
  obtain ⟨m, hm⟩ := Option.isSome_iff_exists.mp
    (show (rtSmemInit 56 0x20000000 1024 fun _ => ⟨.null, 0, 0⟩).isSome by decide +kernel)
  refine ⟨m, hm, alloc_firstFit hm _ _ _ ⟨trivial, ?_⟩⟩
  split
  · trivial
  rename_i t ht
  refine ⟨trivial, ?_⟩
  split
  · trivial
  rename_i t' ht'
  refine ⟨?_, by split <;> trivial⟩
  rintro p ⟨⟩
  have hrun : exec Store.step ⟨m, 0x20000000, fun _ => 0⟩ [.alloc 100, .alloc 200] = some t' := by
    rw [exec_cons_some ht, exec_cons_some ht']
    rfl
  obtain ⟨hend, hfirst⟩ := hused m hm t' hrun
  exact live_first hend hfirst

/-! ### Resizing -/

/-- What `rt_smem_realloc` promises for the live payload `p` and the new size `n`: it returns a payload
with as many of the bytes as both have, or null with nothing changed; the other payloads stay as they
are; and shrinking does not fail. -/
structure ReallocOk (s : Store) (p n : ℕ) (s' : Store) (res : Option ℕ) : Prop where
  resized : ∀ q, res = some q → Live s'.mem q ∧ n ≤ payloadSize s'.mem q ∧
    ∀ i, i < n → i < payloadSize s.mem p → s'.byte (q + i) = s.byte (p + i)
  others : ∀ x, Live s.mem x → x ≠ p → res ≠ some x ∧ Live s'.mem x ∧
    payloadSize s'.mem x = payloadSize s.mem x ∧
    ∀ i, i < payloadSize s.mem x → s'.byte (x + i) = s.byte (x + i)
  null : res = none → s' = s
  shrinks : n ≤ payloadSize s.mem p → res ≠ none

/-- What the cases of the call say of the contract. -/
lemma Resized.reallocOk {bs : List Blk} {q d : ℕ} (h : Linked s.mem bs)
    (hres : Resized s bs p (payloadSize s.mem p) (rtAlign n) s' q d) (hn : n ≤ rtAlign n) :
    ReallocOk s p n s' (some q) where
  resized := by
    intro q' hq'
    obtain rfl := Option.some.inj hq'
    obtain ⟨bs', hrep', hmem⟩ := hres.rep
    obtain ⟨hlive, hsize⟩ := hrep'.toLinked.mem_payloads_iff.mp ((hmem _).mpr (.inl rfl))
    have hroom := hres.room
    exact ⟨hlive, by omega, fun i hi hic => hres.data i hic (by omega)⟩
  others := by
    intro x hx hne
    have hmemx := h.mem_payloads_iff.mpr ⟨hx, rfl⟩
    obtain ⟨bs', hrep', hmem⟩ := hres.rep
    obtain ⟨hlive, hsize⟩ := hrep'.toLinked.mem_payloads_iff.mp ((hmem _).mpr (.inr ⟨hmemx, hne⟩))
    refine ⟨?_, hlive, hsize, hres.others _ hmemx hne⟩
    intro heq
    exact hres.fresh _ hmemx hne (Option.some.inj heq).symm
  null := by rintro ⟨⟩
  shrinks _ := by rintro ⟨⟩

/-- A call that fails and changes nothing, on a size that is no smaller. -/
lemma reallocOk_refused (hgrow : ¬ n ≤ payloadSize s.mem p) : ReallocOk s p n s none where
  resized := by rintro q ⟨⟩
  others _ hx _ := ⟨by rintro ⟨⟩, hx, rfl, fun _ _ => rfl⟩
  null _ := rfl
  shrinks hle := absurd hle hgrow

/-- **When resizing keeps its contract.**  Whatever a program did before: the size must not be so
close to the end of the range that it is rounded up to `0`, and where the block is to become smaller
it must keep its size, be large enough to be split, or there must be another free block for it. -/
theorem reallocOk_iff {sizeofSmallMem beginAddr size : ℕ} {garbage : ℕ → MemItem}
    (hinit : rtSmemInit sizeofSmallMem beginAddr size garbage = some m) (pool : ℕ)
    (byte : ℕ → BitVec 8) (as : List Store.Action)
    (hvalid : Along Store.step Store.Valid ⟨m, pool, byte⟩ as) :
    ∃ s, exec Store.step ⟨m, pool, byte⟩ as = some s ∧
      ∀ (p : ℕ) (n : BitVec 32), Live s.mem p → 0 < n.toNat →
        ∃ s' res, s.rtSmemRealloc (some p) n.toNat = some (s', res) ∧
          (ReallocOk s p n.toNat s' res ↔
            n.toNat ≤ 4294967296 - 8 ∧ (n.toNat ≤ payloadSize s.mem p →
              rtAlign n.toNat = payloadSize s.mem p ∨
              rtAlign n.toNat + sizeofStructMem + minSize < payloadSize s.mem p ∨
              ∃ o, Fits s.mem (needed n.toNat) o)) := by
  obtain ⟨s, hs, bs, hrep⟩ := Store.exec_inv_total hinit pool byte hvalid
  refine ⟨s, hs, fun p n hp hpos => ?_⟩
  have hlt : n.toNat < 4294967296 := n.isLt
  have hhead : ∀ r, r + sizeofStructMem + minSize = r + 28 := fun r => rfl
  have hmem := hrep.toLinked.mem_payloads_iff.mpr ⟨hp, rfl⟩
  have hround : n.toNat ≤ 4294967296 - 8 → n.toNat ≤ rtAlign n.toNat := by
    intro hle
    unfold rtAlign add32
    omega
  have hwrap : ¬ n.toNat ≤ 4294967296 - 8 → rtAlign n.toNat = 0 := by
    intro hle
    unfold rtAlign add32
    omega
  rw [hhead]
  rcases hrep.store_realloc hmem n.toNat with
    ⟨heq, h0, hne, hsplit, hnone⟩ | ⟨heq, h0⟩ | ⟨s', q, d, heq, h0, hres, hroom⟩
  · refine ⟨s, none, heq, ?_⟩
    constructor
    · intro hok
      refine ⟨by_contra fun hle => h0 (hwrap hle), fun hle => ?_⟩
      exact absurd rfl (hok.shrinks hle)
    · rintro ⟨-, hcond⟩
      refine reallocOk_refused fun hle => ?_
      rcases hcond hle with hsame | hsmall | ⟨o, hfits⟩
      · exact hne hsame.symm
      · exact hsplit hsmall
      · exact hrep.toLinked.noneFits_iff.mp hnone o hfits
  · refine ⟨_, none, heq, ?_⟩
    constructor
    · -- the block has been released
      intro hok
      obtain ⟨bs', hrep', hmem', -⟩ := hrep.store_free hmem
      have hgone : (p, payloadSize s.mem p) ∉ payloads 0 bs' := fun h => ((hmem' _).mp h).2 rfl
      rw [hok.null rfl] at hrep'
      exact absurd (hrep'.toLinked.mem_payloads_iff.mpr ⟨hp, rfl⟩) hgone
    · rintro ⟨hle, -⟩
      have := hround hle
      omega
  · refine ⟨s', some q, heq, ?_⟩
    have hle : n.toNat ≤ 4294967296 - 8 := by_contra fun hle => h0 (hwrap hle)
    constructor
    · intro _
      refine ⟨hle, fun _ => ?_⟩
      rcases hroom with hsame | hsmall | hfit
      · exact .inl hsame.symm
      · exact .inr (.inl hsmall)
      · right
        right
        rw [hrep.toLinked.noneFits_iff] at hfit
        push Not at hfit
        exact hfit
    · intro _
      exact hres.reallocOk hrep.toLinked (hround hle)

/-- One block of `100` bytes in a heap of one kilobyte, and what its resizing promises. -/
theorem reallocOk_iff_block :
    ∃ m, rtSmemInit 56 0x20000000 1024 (fun _ => ⟨.null, 0, 0⟩) = some m ∧
      ∃ s, exec Store.step ⟨m, 0x20000000, fun _ => 0⟩ [.alloc 100] = some s ∧
        ∀ (p : ℕ) (n : BitVec 32), Live s.mem p → 0 < n.toNat →
          ∃ s' res, s.rtSmemRealloc (some p) n.toNat = some (s', res) ∧
            (ReallocOk s p n.toNat s' res ↔
              n.toNat ≤ 4294967296 - 8 ∧ (n.toNat ≤ payloadSize s.mem p →
                rtAlign n.toNat = payloadSize s.mem p ∨
                rtAlign n.toNat + sizeofStructMem + minSize < payloadSize s.mem p ∨
                ∃ o, Fits s.mem (needed n.toNat) o)) := by
  obtain ⟨m, hm⟩ := Option.isSome_iff_exists.mp
    (show (rtSmemInit 56 0x20000000 1024 fun _ => ⟨.null, 0, 0⟩).isSome by decide +kernel)
  exact ⟨m, hm, reallocOk_iff hm _ _ _ ⟨trivial, by split <;> trivial⟩⟩

/-- A block that fills the heap is to become a little smaller: there is no room to split it and no
other block, so null is returned. -/
theorem realloc_not_ok_small :
    ∃ m, rtSmemInit 56 0x20000000 128 (fun _ => ⟨.null, 0, 0⟩) = some m ∧
      ∃ s, exec Store.step ⟨m, 0x20000000, fun _ => 0⟩ [.alloc 40] = some s ∧
        Along Store.step Store.Valid ⟨m, 0x20000000, fun _ => 0⟩ [.alloc 40] ∧
        Live s.mem 16 ∧ payloadSize s.mem 16 = 40 ∧
        ∃ s' res, s.rtSmemRealloc (some 16) 32 = some (s', res) ∧ ¬ ReallocOk s 16 32 s' res := by
  have hrun : ∀ m ∈ rtSmemInit 56 0x20000000 128 (fun _ => ⟨.null, 0, 0⟩),
      ((exec Store.step ⟨m, 0x20000000, fun _ => 0⟩ [.alloc 40]).map fun s =>
        decide (heapEnd s.mem ≠ 0 ∧ memIsused s.mem 0 = true ∧ payloadSize s.mem 16 = 40 ∧
          (s.rtSmemRealloc (some 16) 32).map Prod.snd = some none)) = some true := by
    decide +kernel
  obtain ⟨m, hm⟩ := Option.isSome_iff_exists.mp
    (show (rtSmemInit 56 0x20000000 128 fun _ => ⟨.null, 0, 0⟩).isSome by decide +kernel)
  obtain ⟨s, hs, hdec⟩ := Option.map_eq_some_iff.mp (hrun m hm)
  obtain ⟨hend, hused, hsize, hnull⟩ := of_decide_eq_true hdec
  obtain ⟨⟨s', res⟩, heq, rfl⟩ := Option.map_eq_some_iff.mp hnull
  refine ⟨m, hm, s, hs, ⟨trivial, by split <;> trivial⟩, live_first hend hused, hsize, s', none,
    heq, fun hok => ?_⟩
  refine hok.shrinks ?_ rfl
  rw [hsize]
  decide

end N32L43x.Mem
