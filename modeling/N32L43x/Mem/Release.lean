import N32L43x.Mem.Blocks

/-!
What the writes to the headers do to the list of blocks: a block changes between used and free, two
free neighbours become one, a block is split.  From these, `rt_smem_free` and `plug_holes`.
-/

namespace N32L43x.Mem

variable {m : SmallMem} {k l bs : List Blk} {a b : Blk}

/-! ### One header of a linked heap -/

/-- The headers around one block of the list. -/
lemma Linked.split (h : Linked m (k ++ b :: l)) : ∃ p q, Seg m.item 0 0 k p (total k) ∧
    Headed m.item p (total k) b ∧
    Seg m.item (total k) (total k + b.size) l q (heapEnd m) := by
  obtain ⟨q, hseg⟩ := h.seg
  obtain ⟨p, hk, hb, hl⟩ := seg_append.mp hseg
  rw [Nat.zero_add] at hk hb hl
  exact ⟨p, q, hk, hb, hl⟩

lemma seg_join {item : ℕ → MemItem} {p q e : ℕ} (hk : Seg item 0 0 k p (total k))
    (hb : Headed item p (total k) b) (hl : Seg item (total k) (total k + b.size) l q e) :
    Seg item 0 0 (k ++ b :: l) q e :=
  seg_append.mpr ⟨p, by rwa [Nat.zero_add], by rw [Nat.zero_add]; exact ⟨hb, hl⟩⟩

lemma Linked.next_eq (h : Linked m (k ++ b :: l)) :
    (m.item (total k)).next = total k + b.size := by
  obtain ⟨p, q, -, hb, -⟩ := h.split
  exact hb.next

lemma Linked.isused_eq (h : Linked m (k ++ b :: l)) : memIsused m (total k) = b.used := by
  obtain ⟨p, q, -, hb, -⟩ := h.split
  exact hb.used

lemma Linked.end_ge (h : Linked m (k ++ b :: l)) :
    total k + b.size + total l = m.memSizeAligned + 16 := by
  have heq := h.total_eq
  rw [total_append, total_cons] at heq
  have hend : heapEnd m = m.memSizeAligned + 16 := rfl
  omega

/-- Only the headers, the size and the address of the heap matter. -/
lemma Linked.of_item (h : Linked m bs) (m' : SmallMem) (hitem : m'.item = m.item)
    (hsize : m'.memSizeAligned = m.memSizeAligned) (hptr : m'.heapPtr = m.heapPtr) :
    Linked m' bs := by
  have hend : heapEnd m' = heapEnd m := by
    unfold heapEnd
    rw [hsize]
  constructor
  · rw [hitem, hend]
    exact h.seg
  · unfold memIsused
    rw [hitem, hend]
    exact h.endUsed
  · rw [hptr]
    exact h.aligned
  · rw [hsize]
    exact h.bound

/-! ### Marking a block -/

/-- The block with another mark. -/
def Blk.mark (b : Blk) (used : Bool) : Blk := ⟨used, b.size, b.header, b.aligned⟩

lemma Linked.setPoolPtr (h : Linked m (k ++ b :: l)) (v : PoolPtr) :
    Linked (setPoolPtr m (total k) v) (k ++ b.mark (decide (v = .used)) :: l) := by
  obtain ⟨p, q, hk, hb, hl⟩ := h.split
  have hsize := b.size_ge
  have hend := h.end_ge
  have haway : ∀ x, x ≠ total k → (Mem.setPoolPtr m (total k) v).item x = m.item x := by
    intro x hx
    exact Function.update_of_ne hx _ _
  have hat : (Mem.setPoolPtr m (total k) v).item (total k) =
      { m.item (total k) with poolPtr := v } := Function.update_self ..
  constructor
  · refine ⟨q, seg_join (p := p) ?_ ⟨?_, ?_, ?_⟩ ?_⟩
    · exact hk.congr fun x _ hx => haway x (by omega)
    · rw [hat]
      rfl
    · rw [hat]
      exact hb.next
    · rw [hat]
      exact hb.prev
    · exact hl.congr fun x hx _ => haway x (by omega)
  · have hne : heapEnd m ≠ total k := by
      unfold heapEnd sizeofStructMem
      omega
    unfold memIsused
    have hitem := haway (heapEnd m) hne
    have hend' : heapEnd (Mem.setPoolPtr m (total k) v) = heapEnd m := rfl
    rw [hend', hitem]
    exact h.endUsed
  · exact h.aligned
  · exact h.bound

/-! ### Joining two free blocks -/

/-- Two free blocks as one. -/
def Blk.join (a b : Blk) : Blk where
  used := false
  size := a.size + b.size
  header := Nat.le_add_right_of_le a.header
  aligned := by
    have := a.aligned
    have := b.aligned
    omega

lemma absorb_item_of_ne {mem nmem x : ℕ} (h₁ : x ≠ mem) (h₂ : x ≠ nmem) (h₃ : mem ≠ nmem)
    (h₄ : x ≠ (m.item nmem).next) : (absorb m mem nmem).item x = m.item x := by
  unfold absorb setPrev setNext setPoolPtr setItem
  split <;> simp [Function.update_of_ne h₁, Function.update_of_ne h₂,
    Function.update_of_ne h₃.symm, Function.update_of_ne h₄]

lemma absorb_item_mem {mem nmem : ℕ} (h₁ : mem ≠ nmem) (h₂ : mem ≠ (m.item nmem).next) :
    (absorb m mem nmem).item mem = { m.item mem with next := (m.item nmem).next } := by
  unfold absorb setPrev setNext setPoolPtr setItem
  split <;> simp [Function.update_of_ne h₁, Function.update_of_ne h₁.symm,
    Function.update_of_ne h₂]

lemma absorb_item_next {mem nmem : ℕ} (h₁ : mem ≠ nmem) (h₂ : (m.item nmem).next ≠ mem)
    (h₃ : (m.item nmem).next ≠ nmem) :
    (absorb m mem nmem).item (m.item nmem).next =
      { m.item (m.item nmem).next with prev := mem } := by
  unfold absorb setPrev setNext setPoolPtr setItem
  split <;> simp [Function.update_of_ne h₁.symm, Function.update_of_ne h₂,
    Function.update_of_ne h₃]

lemma absorb_fields (m : SmallMem) (mem nmem : ℕ) :
    (absorb m mem nmem).memSizeAligned = m.memSizeAligned ∧
      (absorb m mem nmem).heapPtr = m.heapPtr ∧ (absorb m mem nmem).used = m.used ∧
      (absorb m mem nmem).lfree = if m.lfree = nmem then mem else m.lfree := by
  unfold absorb setPrev setNext setPoolPtr setItem
  split <;> simp

/-- **Joining.**  `absorb` on two neighbours makes one block of them. -/
lemma Linked.absorb (h : Linked m (k ++ a :: b :: l)) (ha : a.used = false) :
    Linked (absorb m (total k) (total k + a.size)) (k ++ a.join b :: l) := by
  obtain ⟨p, q, hk, hda, hdb, hl⟩ := h.split
  have hsa := a.size_ge
  have hsb := b.size_ge
  have hend := h.end_ge
  rw [total_cons] at hend
  obtain ⟨hmsa, hptr, -, -⟩ := absorb_fields m (total k) (total k + a.size)
  have hend' : heapEnd (Mem.absorb m (total k) (total k + a.size)) = heapEnd m := by
    unfold heapEnd
    rw [hmsa]
  have hnext := hdb.next
  have hat := @absorb_item_mem m (total k) (total k + a.size) (by omega)
    (by omega)
  have hafter := @absorb_item_next m (total k) (total k + a.size) (by omega)
    (by omega) (by omega)
  have haway : ∀ x, x ≠ total k → x ≠ total k + a.size → x ≠ total k + a.size + b.size →
      (Mem.absorb m (total k) (total k + a.size)).item x = m.item x := by
    intro x h₁ h₂ h₃
    exact absorb_item_of_ne h₁ h₂ (by omega) (by omega)
  rw [hnext] at hat hafter
  constructor
  · obtain ⟨q', hl'⟩ := hl.reprev (r := total k) hafter fun x hx _ =>
      haway x (by omega) (by omega) (by omega)
    refine ⟨q', seg_join (p := p) ?_ ⟨?_, ?_, ?_⟩ ?_⟩
    · exact hk.congr fun x _ hx => haway x (by omega) (by omega) (by omega)
    · rw [hat]
      exact hda.used.trans ha
    · rw [hat]
      exact Nat.add_assoc _ _ _
    · rw [hat]
      exact hda.prev
    · rw [hend']
      simpa [Blk.join, Nat.add_assoc] using hl'
  · unfold memIsused
    rw [hend']
    -- the end keeps its mark, whether or not it is the header that is given a new `prev`
    by_cases hlast : heapEnd m = total k + a.size + b.size
    · rw [hlast, hafter, ← hlast]
      exact h.endUsed
    · have hne : total k + a.size + b.size ≤ heapEnd m := by
        unfold heapEnd sizeofStructMem
        omega
      rw [haway (heapEnd m) (by omega) (by omega) hlast]
      exact h.endUsed
  · rw [hptr]
    exact h.aligned
  · rw [hmsa]
    exact h.bound

/-- Joining two free blocks changes neither the hint nor the count. -/
lemma Chain.absorb (h : Chain m (k ++ a :: b :: l)) (ha : a.used = false) (hb : b.used = false) :
    Chain (Mem.absorb m (total k) (total k + a.size)) (k ++ a.join b :: l) := by
  obtain ⟨-, -, hused, hlfree⟩ := absorb_fields m (total k) (total k + a.size)
  refine ⟨h.toLinked.absorb ha, ?_, ?_⟩
  · have hold := h.lfree
    rw [firstFree_append_free k _ ha] at hold
    have hle := firstFree_le k
    have hsa := a.size_ge
    rw [hlfree, if_neg (by omega), hold, firstFree_append_free k l (b := a.join b) rfl]
  · rw [hused, h.used]
    simp [usedTotal_cons, ha, hb, Blk.join]

lemma payloads_join (o : ℕ) (ha : a.used = false) (hb : b.used = false) :
    payloads o (a.join b :: l) = payloads o (a :: b :: l) := by
  simp [payloads, Blk.join, ha, hb, Nat.add_assoc]

/-! ### Plugging holes -/

/-- No free pair, seen from a free block: none on either side, and its neighbours are used. -/
lemma noFreePair_free (hb : b.used = false) : NoFreePair (k ++ b :: l) ↔
    NoFreePair k ∧ NoFreePair l ∧ (∀ a ∈ k.getLast?, a.used = true) ∧
      ∀ c ∈ l.head?, c.used = true := by
  unfold NoFreePair
  rw [List.isChain_append, List.isChain_cons]
  simp only [List.head?_cons, Option.mem_def, Option.some.injEq, forall_eq', hb,
    Bool.false_eq_true, or_false, false_or]
  tauto

/-- The forward half: the free block behind `b`, if there is one, becomes part of it. -/
lemma Chain.plugForward (h : Chain m (k ++ b :: l)) (hb : b.used = false) (hl : NoFreePair l) :
    ∃ m' b' l', Chain m' (k ++ b' :: l') ∧ b'.used = false ∧ NoFreePair l' ∧
      (∀ c ∈ l'.head?, c.used = true) ∧
      payloads 0 (k ++ b' :: l') = payloads 0 (k ++ b :: l) ∧
      m' = if total k ≠ (m.item (total k)).next ∧ memIsused m (m.item (total k)).next = false ∧
        (m.item (total k)).next ≠ heapEnd m then Mem.absorb m (total k) (m.item (total k)).next
        else m := by
  have hsize := b.size_ge
  have hend := h.end_ge
  rw [h.next_eq]
  cases l with
  | nil =>
    have hlast : total k + b.size = heapEnd m := by
      unfold heapEnd sizeofStructMem
      simpa using hend
    refine ⟨m, b, [], h, hb, List.isChain_nil, by simp, rfl, ?_⟩
    rw [if_neg (by tauto)]
  | cons n l =>
    have hsn := n.size_ge
    rw [total_cons] at hend
    have hne : total k + b.size ≠ heapEnd m := by
      unfold heapEnd sizeofStructMem
      omega
    have hlink : Linked m ((k ++ [b]) ++ n :: l) := by simpa using h.toLinked
    have hused := hlink.isused_eq
    rw [total_append, total_cons, total_nil, Nat.add_zero] at hused
    rw [hused]
    have hn : NoFreePair l ∧ ∀ c ∈ l.head?, n.used = true ∨ c.used = true := by
      unfold NoFreePair at hl ⊢
      rw [List.isChain_cons] at hl
      exact ⟨hl.2, hl.1⟩
    by_cases hfree : n.used = false
    · refine ⟨_, b.join n, l, h.absorb hb hfree, rfl, hn.1, ?_, ?_, ?_⟩
      · intro c hc
        exact (hn.2 c hc).resolve_left (by simp [hfree])
      · rw [payloads_append, payloads_append, payloads_join _ hb hfree]
      · rw [if_pos ⟨by omega, hfree, hne⟩]
    · refine ⟨m, b, n :: l, h, hb, hl, ?_, rfl, ?_⟩
      · simpa using hfree
      · rw [if_neg (by tauto)]

/-- **Plugging holes.**  Around a block that was made free the free neighbours are joined to it, and
the payloads stay where they are. -/
lemma Chain.plugHoles (h : Chain m (k ++ b :: l)) (hb : b.used = false) (hk : NoFreePair k)
    (hl : NoFreePair l) : ∃ bs, Rep (plugHoles m (total k)) bs ∧
      payloads 0 bs = payloads 0 (k ++ b :: l) := by
  obtain ⟨m', b', l', hchain, hb', hl', hhead, hpay, hm'⟩ := h.plugForward hb hl
  unfold Mem.plugHoles
  dsimp only
  rw [← hm']
  obtain ⟨p, q, hseg, hd, -⟩ := hchain.toLinked.split
  rw [hd.prev]
  rcases List.eq_nil_or_concat k with rfl | ⟨k, a, rfl⟩
  · -- the first block points to itself
    obtain ⟨rfl, -⟩ := hseg
    rw [if_neg (by simp)]
    refine ⟨b' :: l', ⟨hchain, ?_⟩, hpay⟩
    exact (noFreePair_free (k := []) hb').mpr ⟨hk, hl', by simp, hhead⟩
  · rw [List.concat_eq_append] at hk hpay hchain hseg ⊢
    obtain ⟨r, -, -, hpr, -⟩ := seg_append.mp hseg
    rw [Nat.zero_add] at hpr
    subst hpr
    have hsa := a.size_ge
    have hassoc : k ++ [a] ++ b' :: l' = k ++ a :: b' :: l' := by simp
    rw [hassoc] at hchain hpay
    rw [hchain.toLinked.isused_eq]
    have hka : NoFreePair k ∧ ∀ c ∈ k.getLast?, c.used = true ∨ a.used = true := by
      unfold NoFreePair at hk ⊢
      rw [List.isChain_append] at hk
      exact ⟨hk.1, fun c hc => hk.2.2 c hc a rfl⟩
    have htotal : total (k ++ [a]) = total k + a.size := by simp
    rw [htotal]
    by_cases hfree : a.used = false
    · rw [if_pos ⟨by omega, hfree⟩]
      refine ⟨_, ⟨hchain.absorb hfree hb', ?_⟩, ?_⟩
      · refine (noFreePair_free rfl).mpr ⟨hka.1, hl', ?_, hhead⟩
        intro c hc
        exact (hka.2 c hc).resolve_right (by simp [hfree])
      · rw [payloads_append, payloads_join _ hfree hb', ← payloads_append]
        exact hpay
    · rw [if_neg (by tauto)]
      refine ⟨_, ⟨hchain, ?_⟩, hpay⟩
      rw [← hassoc]
      refine (noFreePair_free hb').mpr ⟨hk, hl', ?_, hhead⟩
      simpa using hfree

/-! ### `rt_smem_free` -/

lemma add32_of_lt {a b : ℕ} (h : a + b < 4294967296) : add32 a b = a + b := Nat.mod_eq_of_lt h

lemma sub32_of_le {a b : ℕ} (h : b ≤ a) (ha : a < 4294967296) : sub32 a b = a - b := by
  unfold sub32
  omega

/-- The payloads around a used block. -/
lemma payloads_used (hb : b.used = true) : payloads 0 (k ++ b :: l) =
    payloads 0 k ++ (total k + 16, b.size - 16) :: payloads (total k + b.size) l := by
  rw [payloads_append, Nat.zero_add]
  simp [payloads, hb]

lemma payloads_free (hb : b.used = false) : payloads 0 (k ++ b :: l) =
    payloads 0 k ++ payloads (total k + b.size) l := by
  rw [payloads_append, Nat.zero_add]
  simp [payloads, hb]

lemma noFreePair_sides (h : NoFreePair (k ++ b :: l)) : NoFreePair k ∧ NoFreePair l := by
  unfold NoFreePair at h ⊢
  rw [List.isChain_append, List.isChain_cons] at h
  exact ⟨h.1, h.2.1.2⟩

/-- The hint after a block was made free behind `k`. -/
lemma lfree_min (hb : b.used = true) {c : Blk} (hc : c.used = false) (l' : List Blk) :
    (if total k < firstFree (k ++ b :: l) then total k else firstFree (k ++ b :: l)) =
      firstFree (k ++ c :: l') := by
  rw [firstFree_append_free k l' hc]
  by_cases hall : ∀ a ∈ k, a.used = true
  · have hk : firstFree k = total k := by
      unfold firstFree
      rw [List.takeWhile_eq_self_iff.mpr hall]
    have hsize := b.size_ge
    have hcons : firstFree (b :: l) = b.size + firstFree l := by
      simp [firstFree, hb]
    rw [firstFree_append hall, hcons, hk, if_pos (by omega)]
  · push Not at hall
    obtain ⟨a, ha, hfree⟩ := hall
    obtain ⟨heq, hlt⟩ := firstFree_append_of_exists ⟨a, ha, by simpa using hfree⟩ (b :: l)
    rw [heq, if_neg (by omega)]

/-- **Releasing a block** takes its payload out of the list and leaves the others where they are. -/
theorem Rep.free (h : Rep m (k ++ b :: l)) (hb : b.used = true) :
    ∃ bs, Rep (rtSmemFree m (some (total k + 16))) bs ∧
      payloads 0 bs = payloads 0 k ++ payloads (total k + b.size) l := by
  have hsize := b.size_ge
  have hend := h.toLinked.end_ge
  have hbound := h.bound
  obtain ⟨hk, hl⟩ := noFreePair_sides h.noFreePair
  have hlink := h.toLinked.setPoolPtr .freed
  have hnext := hlink.next_eq
  have hptr : total k + 16 - sizeofStructMem = total k := by
    unfold sizeofStructMem
    omega
  have hused : usedTotal (k ++ b :: l) = usedTotal k + b.size + usedTotal l := by
    simp [usedTotal_cons, hb, Nat.add_assoc]
  have hle := usedTotal_le (k ++ b :: l)
  rw [total_append, total_cons] at hle
  have hchain : Chain
      { setPoolPtr m (total k) .freed with
        lfree := if total k < m.lfree then total k else m.lfree
        used := sub32 m.used (sub32 (total k + b.size) (total k)) }
      (k ++ b.mark false :: l) := by
    refine ⟨hlink.of_item _ rfl rfl rfl, ?_, ?_⟩
    · show (if total k < m.lfree then total k else m.lfree) = _
      rw [h.lfree, lfree_min hb (c := b.mark false) rfl l]
    · show sub32 m.used (sub32 (total k + b.size) (total k)) = _
      have hdiff : sub32 (total k + b.size) (total k) = b.size := by
        rw [sub32_of_le (by omega) (by omega)]
        omega
      rw [hdiff, h.used, hused, sub32_of_le (by omega) (by omega)]
      have hfreed : usedTotal (k ++ b.mark false :: l) = usedTotal k + usedTotal l := by
        simp [usedTotal_cons, Blk.mark]
      omega
  obtain ⟨bs, hrep, hpay⟩ := hchain.plugHoles rfl hk hl
  refine ⟨bs, ?_, ?_⟩
  · have heq : rtSmemFree m (some (total k + 16)) = plugHoles
        { setPoolPtr m (total k) .freed with
          lfree := if total k < m.lfree then total k else m.lfree
          used := sub32 m.used (sub32 (total k + b.size) (total k)) } (total k) := by
      unfold rtSmemFree
      dsimp only
      rw [hptr]
      split
      · rename_i hlt
        have hlt' : total k < m.lfree := hlt
        simp only [hlt', if_true]
        rw [hnext]
        rfl
      · rename_i hlt
        have hlt' : ¬ total k < m.lfree := hlt
        simp only [hlt', if_false]
        rw [hnext]
        rfl
    rw [heq]
    exact hrep
  · rw [hpay, payloads_free rfl]
    rfl

end N32L43x.Mem
