import Mathlib.Algebra.BigOperators.Group.List.Basic
import Mathlib.Data.List.Chain
import Mathlib.Data.List.TakeWhile
import N32L43x.Mem.Defs

/-!
The heap as a list of blocks.  `Seg` says that the headers from one offset to another are the ones of
a list of blocks, one right behind the other, each pointing to the next and back to the one before
it; `Rep` says that the whole heap is, and ties the other fields of the heap to the list.
-/

namespace N32L43x.Mem

/-- A block of the heap, its header included. -/
@[ext]
structure Blk where
  used : Bool
  size : ℕ
  header : sizeofStructMem ≤ size
  aligned : size % 8 = 0

def total : List Blk → ℕ
  | [] => 0
  | b :: bs => b.size + total bs

@[simp] lemma total_nil : total [] = 0 := rfl

@[simp] lemma total_cons (b : Blk) (bs : List Blk) : total (b :: bs) = b.size + total bs :=
  rfl

@[simp] lemma total_append (k l : List Blk) : total (k ++ l) = total k + total l := by
  induction k with
  | nil => simp
  | cons b k ih => rw [List.cons_append, total_cons, total_cons, ih, Nat.add_assoc]

lemma Blk.size_ge (b : Blk) : 16 ≤ b.size := b.header

lemma length_le_total : ∀ bs : List Blk, bs.length ≤ total bs
  | [] => le_rfl
  | b :: bs => by
    have := length_le_total bs
    have := b.size_ge
    simp only [List.length_cons, total_cons]
    omega

lemma total_aligned : ∀ bs : List Blk, total bs % 8 = 0
  | [] => rfl
  | b :: bs => by
    have := total_aligned bs
    have := b.aligned
    rw [total_cons]
    omega

/-! ### Segments of the chain -/

/-- The header at `o` is the one of the block `b`, behind a block at `p`. -/
structure Headed (item : ℕ → MemItem) (p o : ℕ) (b : Blk) : Prop where
  used : decide ((item o).poolPtr = .used) = b.used
  next : (item o).next = o + b.size
  prev : (item o).prev = p

/-- The headers from `o` to `e` are the ones of the blocks; `p` is the offset of the block before
them, `q` the one of the last block before `e`. -/
def Seg (item : ℕ → MemItem) : ℕ → ℕ → List Blk → ℕ → ℕ → Prop
  | p, o, [], q, e => p = q ∧ o = e
  | p, o, b :: bs, q, e => Headed item p o b ∧ Seg item o (o + b.size) bs q e

variable {item item' : ℕ → MemItem} {p o q e : ℕ} {bs : List Blk} {b : Blk}

lemma Seg.end_eq : ∀ {bs : List Blk} {p o : ℕ}, Seg item p o bs q e → e = o + total bs
  | [], _, _, h => h.2.symm
  | b :: bs, p, o, h => by
    rw [h.2.end_eq, total_cons, Nat.add_assoc]

lemma seg_append : ∀ {k l : List Blk} {p o : ℕ}, Seg item p o (k ++ l) q e ↔
    ∃ r, Seg item p o k r (o + total k) ∧ Seg item r (o + total k) l q e
  | [], l, p, o => by
    constructor
    · intro h
      exact ⟨p, ⟨rfl, rfl⟩, h⟩
    · rintro ⟨r, ⟨rfl, -⟩, h⟩
      exact h
  | b :: k, l, p, o => by
    have hsum : o + total (b :: k) = o + b.size + total k := by
      rw [total_cons, Nat.add_assoc]
    rw [List.cons_append, hsum]
    constructor
    · rintro ⟨hb, h⟩
      obtain ⟨r, h₁, h₂⟩ := seg_append.mp h
      exact ⟨r, ⟨hb, h₁⟩, h₂⟩
    · rintro ⟨r, ⟨hb, h₁⟩, h₂⟩
      exact ⟨hb, seg_append.mpr ⟨r, h₁, h₂⟩⟩

lemma Headed.congr (h : Headed item p o b) (heq : item' o = item o) : Headed item' p o b :=
  ⟨by rw [heq]; exact h.used, by rw [heq]; exact h.next, by rw [heq]; exact h.prev⟩

/-- A segment depends on the headers in its range only. -/
lemma Seg.congr : ∀ {bs : List Blk} {p o : ℕ}, Seg item p o bs q e →
    (∀ x, o ≤ x → x < o + total bs → item' x = item x) → Seg item' p o bs q e
  | [], _, _, h, _ => h
  | b :: bs, p, o, h, hsame => by
    have hsize := b.size_ge
    rw [total_cons] at hsame
    refine ⟨h.1.congr (hsame o le_rfl (by omega)), h.2.congr fun x hlow hx => ?_⟩
    exact hsame x (by omega) (by omega)

/-- A segment behind another block: the first header is given a new `prev`. -/
lemma Seg.reprev (h : Seg item p o bs q e) {r : ℕ}
    (hhead : item' o = { item o with prev := r })
    (hsame : ∀ x, o < x → x < o + total bs → item' x = item x) :
    ∃ q', Seg item' r o bs q' e := by
  cases bs with
  | nil => exact ⟨r, rfl, h.2⟩
  | cons b bs =>
    have hsize := b.size_ge
    rw [total_cons] at hsame
    refine ⟨q, ⟨?_, ?_, ?_⟩, h.2.congr fun x hlow hx => hsame x (by omega) (by omega)⟩
    · rw [hhead]
      exact h.1.used
    · rw [hhead]
      exact h.1.next
    · rw [hhead]

/-! ### The list of a heap -/

/-- The offset of the first free block, or of the end. -/
def firstFree (bs : List Blk) : ℕ := total (bs.takeWhile Blk.used)

/-- The bytes in used blocks, headers included. -/
def usedTotal (bs : List Blk) : ℕ := total (bs.filter Blk.used)

/-- The blocks in use: the offset of the payload and its length. -/
def payloads : ℕ → List Blk → List (ℕ × ℕ)
  | _, [] => []
  | o, b :: bs =>
    if b.used then (o + 16, b.size - 16) :: payloads (o + b.size) bs else payloads (o + b.size) bs

/-- Of two neighbours one is in use. -/
def NoFreePair (bs : List Blk) : Prop := bs.IsChain fun a b => a.used = true ∨ b.used = true

/-- The headers of the heap are the ones of the list. -/
structure Linked (m : SmallMem) (bs : List Blk) : Prop where
  /-- the chain from the start leads to the end, every block points back to the one before it, and
  the first one to itself -/
  seg : ∃ q, Seg m.item 0 0 bs q (heapEnd m)
  endUsed : memIsused m (heapEnd m) = true
  aligned : m.heapPtr % 8 = 0
  bound : m.memSizeAligned + 32 < 4294967296

/-- And so are the hint to the lowest free block and the count of the bytes in use. -/
structure Chain (m : SmallMem) (bs : List Blk) : Prop extends Linked m bs where
  lfree : m.lfree = firstFree bs
  used : m.used = usedTotal bs

/-- The heap is the list of blocks `bs`, no two neighbours of which are free. -/
structure Rep (m : SmallMem) (bs : List Blk) : Prop extends Chain m bs where
  noFreePair : NoFreePair bs

/-- The pointers the program holds are the ones of the payloads, and every payload has the bytes that
were asked for. -/
structure LiveOk (ps : List (ℕ × ℕ)) (live : ℕ → Option ℕ) : Prop where
  live_of_mem : ∀ x ∈ ps, (live x.1).isSome
  mem_of_live : ∀ p n, live p = some n → ∃ c, n ≤ c ∧ (p, c) ∈ ps

lemma Linked.total_eq {m : SmallMem} (h : Linked m bs) : total bs = heapEnd m := by
  obtain ⟨q, hseg⟩ := h.seg
  have := hseg.end_eq
  omega

lemma firstFree_append {k l : List Blk} (hk : ∀ b ∈ k, b.used = true) :
    firstFree (k ++ l) = total k + firstFree l := by
  unfold firstFree
  rw [List.takeWhile_append_of_pos hk, total_append]

lemma firstFree_le (bs : List Blk) : firstFree bs ≤ total bs := by
  have hsplit : total (bs.takeWhile Blk.used) + total (bs.dropWhile Blk.used) = total bs := by
    rw [← total_append, List.takeWhile_append_dropWhile]
  unfold firstFree
  omega

/-- A free block decides what comes after it. -/
lemma firstFree_append_free : ∀ (k : List Blk) {b : Blk} (l : List Blk), b.used = false →
    firstFree (k ++ b :: l) = firstFree k
  | [], b, l, hb => by simp [firstFree, hb]
  | a :: k, b, l, hb => by
    have ih := firstFree_append_free k l hb
    unfold firstFree at ih ⊢
    rw [List.cons_append, List.takeWhile_cons, List.takeWhile_cons]
    split
    · rw [total_cons, total_cons, ih]
    · rfl

lemma firstFree_append_of_exists {k : List Blk} (h : ∃ b ∈ k, b.used = false) (l : List Blk) :
    firstFree (k ++ l) = firstFree k ∧ firstFree k < total k := by
  obtain ⟨b, hb, hfree⟩ := h
  obtain ⟨k₁, k₂, rfl⟩ := List.append_of_mem hb
  have hle := firstFree_le k₁
  have hsize := b.size_ge
  rw [List.append_assoc, List.cons_append, firstFree_append_free k₁ _ hfree,
    firstFree_append_free k₁ _ hfree, total_append, total_cons]
  exact ⟨rfl, by omega⟩

@[simp] lemma usedTotal_append (k l : List Blk) :
    usedTotal (k ++ l) = usedTotal k + usedTotal l := by
  simp [usedTotal]

lemma usedTotal_cons (b : Blk) (bs : List Blk) :
    usedTotal (b :: bs) = (if b.used then b.size else 0) + usedTotal bs := by
  unfold usedTotal
  rw [List.filter_cons]
  split <;> simp

lemma usedTotal_le (bs : List Blk) : usedTotal bs ≤ total bs := by
  induction bs with
  | nil => exact le_rfl
  | cons b bs ih =>
    rw [usedTotal_cons, total_cons]
    split <;> omega

lemma payloads_append : ∀ (o : ℕ) (k l : List Blk),
    payloads o (k ++ l) = payloads o k ++ payloads (o + total k) l
  | o, [], l => rfl
  | o, b :: k, l => by
    have hsum : o + total (b :: k) = o + b.size + total k := by
      rw [total_cons, Nat.add_assoc]
    rw [List.cons_append, hsum]
    simp only [payloads]
    rw [payloads_append (o + b.size) k l]
    split <;> rfl

lemma payloads_bounds : ∀ {bs : List Blk} {o : ℕ} {x : ℕ × ℕ}, x ∈ payloads o bs →
    o + 16 ≤ x.1 ∧ x.1 + x.2 ≤ o + total bs
  | b :: bs, o, x, hx => by
    have hsize := b.size_ge
    rw [total_cons]
    simp only [payloads] at hx
    split at hx
    · rcases List.mem_cons.mp hx with rfl | hx
      · dsimp only
        omega
      · have := payloads_bounds hx
        omega
    · have := payloads_bounds hx
      omega

/-- A payload names its block. -/
lemma exists_of_mem_payloads : ∀ {bs : List Blk} {o : ℕ} {x : ℕ × ℕ}, x ∈ payloads o bs →
    ∃ k b l, bs = k ++ b :: l ∧ b.used = true ∧ x = (o + total k + 16, b.size - 16)
  | b :: bs, o, x, hx => by
    simp only [payloads] at hx
    have hrest : x ∈ payloads (o + b.size) bs →
        ∃ k c l, b :: bs = k ++ c :: l ∧ c.used = true ∧
          x = (o + total k + 16, c.size - 16) := by
      intro hx
      obtain ⟨k, c, l, rfl, hc, rfl⟩ := exists_of_mem_payloads hx
      refine ⟨b :: k, c, l, rfl, hc, ?_⟩
      rw [total_cons, Nat.add_assoc o]
    split at hx
    · rename_i hb
      rcases List.mem_cons.mp hx with rfl | hx
      · exact ⟨[], b, bs, rfl, hb, rfl⟩
      · exact hrest hx
    · exact hrest hx

/-- Payloads lie apart, with a header between them. -/
lemma payloads_disjoint : ∀ {bs : List Blk} {o : ℕ}, (payloads o bs).Pairwise fun x y =>
    x.1 + x.2 + 16 ≤ y.1
  | [], _ => List.Pairwise.nil
  | b :: bs, o => by
    have hsize := b.size_ge
    simp only [payloads]
    split
    · refine List.pairwise_cons.mpr ⟨fun y hy => ?_, payloads_disjoint⟩
      have := (payloads_bounds hy).1
      dsimp only
      omega
    · exact payloads_disjoint

end N32L43x.Mem
