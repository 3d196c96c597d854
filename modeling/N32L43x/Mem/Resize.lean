import N32L43x.Mem.Chain

/-!
The calls of the heap on its memory: what becomes of the payloads and of the bytes in them.
-/

namespace N32L43x.Mem

variable {m m' : SmallMem} {k l bs bs' : List Blk} {b : Blk} {s s' : Store} {o p q c d n r need : ℕ}

/-! ### Allocating and releasing -/

/-- **Allocating**: the first block that is large enough is given out, or there is none. -/
lemma Rep.store_alloc (h : Rep s.mem bs) (hn : n ≠ 0) :
    (s.rtSmemAlloc n = some (s, none) ∧ NoneFits (needed n) bs) ∨
    ∃ k b l m' bs' c, bs = k ++ b :: l ∧
      s.rtSmemAlloc n = some (s.put m', some (total k + 16)) ∧
      Taken s.mem (needed n) k b l m' bs' c := by
  unfold Store.rtSmemAlloc
  rcases h.alloc_cases hn with ⟨heq, hnone⟩ | ⟨k, b, l, m', bs', c, hsplit, heq, ht⟩
  · left
    rw [heq, Option.map_some, Store.put_self]
    exact ⟨rfl, hnone⟩
  · right
    refine ⟨k, b, l, m', bs', c, hsplit, ?_, ht⟩
    rw [heq]
    rfl

lemma Taken.mem_payloads (ht : Taken m need k b l m' bs' c) {y : ℕ × ℕ} :
    y ∈ payloads 0 bs' ↔ y = (total k + 16, c) ∨ y ∈ payloads 0 (k ++ b :: l) := by
  rw [ht.given, payloads_free ht.free]
  simp only [List.mem_append, List.mem_cons]
  tauto

/-- The block that is taken was not given out before. -/
lemma Taken.fresh (ht : Taken m need k b l m' bs' c) {y : ℕ × ℕ}
    (hy : y ∈ payloads 0 (k ++ b :: l)) : y.1 ≠ total k + 16 := by
  have hsize := b.size_ge
  rw [payloads_free ht.free, List.mem_append] at hy
  rcases hy with hy | hy
  · have := (payloads_bounds hy).2
    omega
  · have := (payloads_bounds hy).1
    omega

/-- The payloads there were keep their bytes when a block is taken. -/
lemma Taken.byte_eq (ht : Taken s.mem need k b l m' bs' c) {y : ℕ × ℕ}
    (hy : y ∈ payloads 0 (k ++ b :: l)) (hlow : y.1 ≤ o) (hhigh : o < y.1 + y.2) :
    (s.put m').byte o = s.byte o :=
  Store.put_payload ht.writes (ht.mem_payloads.mpr (.inr hy)) hlow hhigh

/-- The payloads without the one at the cut. -/
lemma mem_payloads_erase (hb : b.used = true) {y : ℕ × ℕ} :
    y ∈ payloads 0 k ++ payloads (total k + b.size) l ↔
      y ∈ payloads 0 (k ++ b :: l) ∧ y.1 ≠ total k + 16 := by
  have hsize := b.size_ge
  rw [payloads_used hb]
  simp only [List.mem_append, List.mem_cons]
  constructor
  · rintro (hy | hy)
    · have := (payloads_bounds hy).2
      exact ⟨.inl hy, by omega⟩
    · have := (payloads_bounds hy).1
      exact ⟨.inr (.inr hy), by omega⟩
  · rintro ⟨hy | rfl | hy, hne⟩
    · exact .inl hy
    · exact absurd rfl hne
    · exact .inr hy

/-- **Releasing** takes one payload away, and the others keep their bytes. -/
lemma Rep.store_free (h : Rep s.mem bs) (hp : (p, c) ∈ payloads 0 bs) :
    ∃ bs', Rep (s.rtSmemFree (some p)).mem bs' ∧
      (∀ y, y ∈ payloads 0 bs' ↔ y ∈ payloads 0 bs ∧ y.1 ≠ p) ∧
      (∀ y ∈ payloads 0 bs, ∀ o, y.1 ≤ o → o < y.1 + y.2 →
        (s.rtSmemFree (some p)).byte o = s.byte o) ∧
      SameHeap s.mem (s.rtSmemFree (some p)).mem := by
  obtain ⟨k, b, l, rfl, hb, heq⟩ := exists_of_mem_payloads hp
  obtain ⟨rfl, rfl⟩ := Prod.mk.inj heq
  rw [Nat.zero_add]
  obtain ⟨bs', hrep, hpay⟩ := h.free hb
  refine ⟨bs', hrep, fun y => ?_, fun y hy o hlow hhigh => ?_, h.toLinked.free_writes.sameHeap⟩
  · rw [hpay]
    exact mem_payloads_erase hb
  · exact Store.put_payload h.toLinked.free_writes hy hlow hhigh

/-! ### Resizing -/

/-- The payload at `p` of `c` bytes has become one at `q` of `d` bytes, `r` at least: as many of its
bytes as both have are kept, and so are the other payloads. -/
structure Resized (s : Store) (bs : List Blk) (p c r : ℕ) (s' : Store) (q d : ℕ) : Prop where
  rep : ∃ bs', Rep s'.mem bs' ∧
    ∀ y, y ∈ payloads 0 bs' ↔ y = (q, d) ∨ y ∈ payloads 0 bs ∧ y.1 ≠ p
  room : r ≤ d
  fresh : ∀ y ∈ payloads 0 bs, y.1 ≠ p → y.1 ≠ q
  data : ∀ i, i < c → i < r → s'.byte (q + i) = s.byte (p + i)
  others : ∀ y ∈ payloads 0 bs, y.1 ≠ p → ∀ i, i < y.2 → s'.byte (y.1 + i) = s.byte (y.1 + i)
  same : SameHeap s.mem s'.mem

lemma Rep.resized_same (h : Rep s.mem bs) (hp : (p, c) ∈ payloads 0 bs) :
    Resized s bs p c c s p c where
  rep := by
    refine ⟨bs, h, fun y => ?_⟩
    constructor
    · intro hy
      by_cases hne : y.1 = p
      · left
        obtain ⟨-, hc⟩ := h.toLinked.mem_payloads_iff.mp hp
        obtain ⟨-, hy⟩ := h.toLinked.mem_payloads_iff.mp (show (y.1, y.2) ∈ payloads 0 bs from hy)
        refine Prod.ext hne ?_
        rw [← hy, hne, hc]
      · exact .inr ⟨hy, hne⟩
    · rintro (rfl | ⟨hy, -⟩)
      · exact hp
      · exact hy
  room := le_rfl
  fresh _ _ hne := hne
  data _ _ _ := rfl
  others _ _ _ _ _ := rfl
  same := SameHeap.refl _

/-- Shrinking in place. -/
lemma Rep.resized_shrink (h : Rep s.mem (k ++ b :: l)) (hb : b.used = true) (hal : r % 8 = 0)
    (hfit : r + 28 < b.size - 16) :
    Resized s (k ++ b :: l) (total k + 16) (b.size - 16) r
      (s.put (shrinkBlock s.mem (total k) (b.size - 16) r)) (total k + 16) r := by
  have hsb := b.aligned
  have hfit' : r + 32 ≤ b.size := by omega
  obtain ⟨bs', hrep, hpay⟩ := h.shrink hb hal (by omega)
  have hmem : ∀ y, y ∈ payloads 0 bs' ↔
      y = (total k + 16, r) ∨ y ∈ payloads 0 (k ++ b :: l) ∧ y.1 ≠ total k + 16 := by
    intro y
    rw [← mem_payloads_erase hb, hpay]
    simp only [List.mem_append, List.mem_cons]
    tauto
  -- the cut is made in the list with the rest of the block on its own
  have hcut : ∀ y ∈ payloads 0 bs',
      y ∈ payloads 0 (k ++ b.front r hal :: b.rest r hal hfit' :: l) := by
    intro y hy
    have hlen : (b.front r hal).size - 16 = r := by
      simp only [Blk.front]
      omega
    have hpos : total k + (b.front r hal).size + (b.rest r hal hfit').size = total k + b.size := by
      simp only [Blk.front, Blk.rest]
      omega
    rw [hpay, ← hpos] at hy
    rw [payloads_used (b := b.front r hal) hb, hlen]
    simpa [payloads, Blk.rest] using hy
  have hwrites := h.toLinked.shrink_writes hal hfit'
  refine ⟨⟨bs', hrep, hmem⟩, le_rfl, fun _ _ hne => hne, fun i _ hi => ?_,
    fun y hy hne i hi => ?_, hwrites.sameHeap⟩
  · exact Store.put_payload hwrites (hcut _ ((hmem _).mpr (.inl rfl))) (by omega) (by omega)
  · exact Store.put_payload hwrites (hcut _ ((hmem _).mpr (.inr ⟨hy, hne⟩))) (by omega) (by omega)

/-- Moving to a block that was taken for it. -/
lemma Rep.resized_move (hp : (p, c) ∈ payloads 0 (k ++ b :: l))
    (ht : Taken s.mem (needed r) k b l m' bs' d) (hr : r ≤ needed r) {count : ℕ}
    (hcount : count = if c < r then c else r) :
    Resized s (k ++ b :: l) p c r
      (((s.put m').rtMemcpy (total k + 16) p count).rtSmemFree (some p)) (total k + 16) d := by
  have hroom := ht.room
  have hnew : (total k + 16, d) ∈ payloads 0 bs' := ht.mem_payloads.mpr (.inl rfl)
  have hold : (p, c) ∈ payloads 0 bs' := ht.mem_payloads.mpr (.inr hp)
  have hne : p ≠ total k + 16 := ht.fresh hp
  have hle : count ≤ d ∧ count ≤ c ∧ ∀ i, i < c → i < r → i < count := by
    split at hcount
    · exact ⟨by omega, by omega, fun i hi _ => by omega⟩
    · exact ⟨by omega, by omega, fun i _ hi => by omega⟩
  have hrep' : Rep ((s.put m').rtMemcpy (total k + 16) p count).mem bs' :=
    Rep.write (show Rep (s.put m').mem bs' from ht.rep) hnew le_rfl (by omega) _
  obtain ⟨bs'', hrep'', hmem, hbyte, hsame⟩ := hrep'.store_free hold
  have hcopy : SameHeap m' ((s.put m').rtMemcpy (total k + 16) p count).mem := ⟨rfl, rfl⟩
  have hapart := payloads_apart hnew hold hne.symm
  dsimp only at hapart
  refine ⟨⟨bs'', hrep'', fun y => ?_⟩, by omega, fun _ hy _ => ht.fresh hy, fun i hi hir => ?_,
    fun y hy hyne i hi => ?_, ht.writes.sameHeap.trans (hcopy.trans hsame)⟩
  · rw [hmem, ht.mem_payloads]
    constructor
    · rintro ⟨rfl | hy, hyne⟩
      · exact .inl rfl
      · exact .inr ⟨hy, hyne⟩
    · rintro (rfl | ⟨hy, hyne⟩)
      · exact ⟨.inl rfl, hne.symm⟩
      · exact ⟨.inr hy, hyne⟩
  · have hlt := hle.2.2 i hi hir
    have hkeep := ht.byte_eq hp (o := p + i) (by omega) (by dsimp only; omega)
    rw [hbyte _ hnew _ (Nat.le_add_right _ _) (by dsimp only; omega), Store.rtMemcpy,
      Store.write_byte hlt, hkeep]
  · have hy' : y ∈ payloads 0 bs' := ht.mem_payloads.mpr (.inr hy)
    have hynew := payloads_apart hy' hnew (ht.fresh hy)
    have hkeep := ht.byte_eq hy (o := y.1 + i) (by omega) (by omega)
    dsimp only at hynew
    rw [hbyte y hy' _ (by omega) (by omega), Store.rtMemcpy, Store.write_byte_of_apart (by omega),
      hkeep]

lemma rtAlign_aligned (n : ℕ) : rtAlign n % 8 = 0 := by
  unfold rtAlign
  omega

lemma rtAlign_rtAlign (n : ℕ) : rtAlign (rtAlign n) = rtAlign n := by
  unfold rtAlign add32
  omega

lemma needed_rtAlign (n : ℕ) : needed (rtAlign n) = needed n := by
  unfold needed
  rw [rtAlign_rtAlign]

lemma rtAlign_le_needed (n : ℕ) : rtAlign n ≤ needed n := by
  unfold needed
  split <;> omega

/-- `rt_smem_realloc` on a block of the list. -/
lemma Rep.rtSmemRealloc_eq (h : Rep s.mem (k ++ b :: l)) (n : ℕ) :
    s.rtSmemRealloc (some (total k + 16)) n =
      if rtAlign n > s.mem.memSizeAligned then some (s, none)
      else if rtAlign n = 0 then some (s.rtSmemFree (some (total k + 16)), none)
      else if b.size - 16 = rtAlign n then some (s, some (total k + 16))
      else if rtAlign n + 28 < b.size - 16 then
        some (s.put (shrinkBlock s.mem (total k) (b.size - 16) (rtAlign n)), some (total k + 16))
      else
        (s.rtSmemAlloc (rtAlign n)).map (Store.expand (total k + 16)
          (if b.size - 16 < rtAlign n then b.size - 16 else rtAlign n)) := by
  have hend := h.toLinked.end_ge
  have hbound := h.bound
  have hsb := b.size_ge
  have hptr : total k + 16 - sizeofStructMem = total k := Nat.add_sub_cancel _ _
  have hcur : sub32 (sub32 (s.mem.item (total k)).next (total k)) sizeofStructMem =
      b.size - 16 := by
    rw [h.toLinked.next_eq, sub32_of_le (a := total k + b.size) (by omega) (by omega),
      Nat.add_sub_cancel_left]
    exact sub32_of_le b.header (by omega)
  unfold Store.rtSmemRealloc
  dsimp only
  rw [hptr, hcur]
  by_cases hbig : rtAlign n > s.mem.memSizeAligned
  · rw [if_pos hbig, if_pos hbig]
  · have hmin : add32 (add32 (rtAlign n) sizeofStructMem) minSize = rtAlign n + 28 := by
      have hfirst : add32 (rtAlign n) sizeofStructMem = rtAlign n + 16 :=
        add32_of_lt (b := 16) (by omega)
      rw [hfirst]
      exact add32_of_lt (b := 12) (by omega)
    rw [hmin]

/-- **What `rt_smem_realloc` does**, for a request of any size: no block is large enough and nothing
has changed; the size was rounded to `0` and the block is released; or the block has been resized. -/
lemma Rep.store_realloc (h : Rep s.mem bs) (hp : (p, c) ∈ payloads 0 bs) (n : ℕ) :
    (s.rtSmemRealloc (some p) n = some (s, none) ∧ rtAlign n ≠ 0 ∧ c ≠ rtAlign n ∧
      ¬ rtAlign n + 28 < c ∧ NoneFits (needed n) bs) ∨
    (s.rtSmemRealloc (some p) n = some (s.rtSmemFree (some p), none) ∧ rtAlign n = 0) ∨
    ∃ s' q d, s.rtSmemRealloc (some p) n = some (s', some q) ∧ rtAlign n ≠ 0 ∧
      Resized s bs p c (rtAlign n) s' q d ∧
      (c = rtAlign n ∨ rtAlign n + 28 < c ∨ ¬ NoneFits (needed n) bs) := by
  obtain ⟨k, b, l, rfl, hb, heq⟩ := exists_of_mem_payloads hp
  obtain ⟨rfl, rfl⟩ := Prod.mk.inj heq
  rw [Nat.zero_add] at hp ⊢
  rw [h.rtSmemRealloc_eq]
  have hend := h.toLinked.end_ge
  have hsb := b.size_ge
  by_cases hbig : rtAlign n > s.mem.memSizeAligned
  · left
    refine ⟨if_pos hbig, by omega, by omega, by omega, fun a ha _ => ?_⟩
    have hle := rtAlign_le_needed n
    obtain ⟨k', l', hsplit⟩ := List.append_of_mem ha
    have hrep := h.toLinked
    rw [hsplit] at hrep
    have := hrep.end_ge
    omega
  rw [if_neg hbig]
  by_cases h0 : rtAlign n = 0
  · exact .inr (.inl ⟨if_pos h0, h0⟩)
  rw [if_neg h0]
  by_cases hsame : b.size - 16 = rtAlign n
  · refine .inr (.inr ⟨s, _, b.size - 16, if_pos hsame, h0, ?_, .inl hsame⟩)
    rw [← hsame]
    exact h.resized_same hp
  rw [if_neg hsame]
  by_cases hshrink : rtAlign n + 28 < b.size - 16
  · exact .inr (.inr ⟨_, _, _, if_pos hshrink, h0,
      h.resized_shrink hb (rtAlign_aligned n) hshrink, .inr (.inl hshrink)⟩)
  rw [if_neg hshrink]
  rcases h.store_alloc h0 with ⟨heq, hnone⟩ | ⟨k', b', l', m', bs', d, hsplit, heq, ht⟩
  · left
    rw [needed_rtAlign] at hnone
    refine ⟨?_, h0, hsame, hshrink, hnone⟩
    rw [heq]
    rfl
  · right
    right
    rw [heq, hsplit]
    rw [hsplit] at hp
    refine ⟨_, _, d, rfl, h0, ?_, .inr (.inr fun hnone => ?_)⟩
    · refine Rep.resized_move hp ht ?_ rfl
      rw [needed_rtAlign]
      exact rtAlign_le_needed n
    · have hlarge := ht.fits
      rw [needed_rtAlign] at hlarge
      have := hnone b' (by simp) ht.free
      omega

end N32L43x.Mem
