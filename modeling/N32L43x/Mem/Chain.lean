import N32L43x.Mem.Store

/-!
The chain of headers, the payloads it gives out and their bytes, against the list of blocks.
-/

namespace N32L43x.Mem

open N32L43x.Lib.Run

variable {m m' : SmallMem} {k l bs : List Blk} {b : Blk} {s s' : Store} {o p q c n need x : ℕ}

/-! ### The chain and the list -/

lemma Linked.ne_end (h : Linked m (k ++ b :: l)) : total k ≠ heapEnd m := by
  have hend := h.end_ge
  have hsize := b.size_ge
  have hheap : heapEnd m = m.memSizeAligned + 16 := rfl
  omega

/-- The chain leads to the places where blocks start, and to the end. -/
lemma Linked.onChain_iff (h : Linked m bs) : OnChain m x ↔ IsHead bs x := by
  constructor
  · intro hx
    induction hx with
    | start => exact isHead_total [] bs
    | next hon hne ih =>
      obtain ⟨k, l, rfl, rfl⟩ := ih
      cases l with
      | nil =>
        have htotal := h.total_eq
        rw [List.append_nil] at htotal
        exact absurd htotal hne
      | cons b l =>
        rw [h.next_eq]
        exact isHead_next k l b
  · rintro ⟨k, l, rfl, rfl⟩
    induction k using List.reverseRecOn generalizing l with
    | nil => exact .start
    | append_singleton k b ih =>
      have hassoc : k ++ [b] ++ l = k ++ b :: l := by simp
      rw [hassoc] at h
      have hnext : total (k ++ [b]) = (m.item (total k)).next := by
        rw [h.next_eq, total_append, total_cons, total_nil, Nat.add_zero]
      rw [hnext]
      exact .next (ih (b :: l) h) h.ne_end

lemma Linked.blockAt_iff (h : Linked m bs) :
    BlockAt m x ↔ ∃ k b l, bs = k ++ b :: l ∧ x = total k := by
  unfold BlockAt
  rw [h.onChain_iff]
  constructor
  · rintro ⟨⟨k, l, rfl, rfl⟩, hne⟩
    cases l with
    | nil =>
      have htotal := h.total_eq
      rw [List.append_nil] at htotal
      exact absurd htotal hne
    | cons b l => exact ⟨k, b, l, rfl, rfl⟩
  · rintro ⟨k, b, l, rfl, rfl⟩
    exact ⟨isHead_total _ _, h.ne_end⟩

/-- The payloads of the list are the live ones of the chain. -/
lemma Linked.mem_payloads_iff (h : Linked m bs) :
    (p, c) ∈ payloads 0 bs ↔ Live m p ∧ payloadSize m p = c := by
  have hsub : ∀ o, o + sizeofStructMem - sizeofStructMem = o := fun o => Nat.add_sub_cancel _ _
  unfold Live payloadSize
  constructor
  · intro hp
    obtain ⟨k, b, l, rfl, hb, heq⟩ := exists_of_mem_payloads hp
    obtain ⟨rfl, rfl⟩ := Prod.mk.inj heq
    rw [Nat.zero_add]
    refine ⟨⟨total k, h.blockAt_iff.mpr ⟨k, b, l, rfl, rfl⟩, ?_, rfl⟩, ?_⟩
    · rw [h.isused_eq, hb]
    · have hdata := h.dataSize_eq
      rwa [← hsub (total k)] at hdata
  · rintro ⟨⟨o, hblock, hused, rfl⟩, rfl⟩
    obtain ⟨k, b, l, rfl, rfl⟩ := h.blockAt_iff.mp hblock
    rw [h.isused_eq] at hused
    rw [hsub, h.dataSize_eq, payloads_used hused]
    exact List.mem_append_right _ (List.mem_cons_self ..)

/-! ### Free blocks that fit -/

lemma Linked.fits_iff (h : Linked m bs) :
    Fits m need x ↔ ∃ k b l, bs = k ++ b :: l ∧ x = total k ∧ b.used = false ∧
      need + 16 ≤ b.size := by
  unfold Fits
  rw [h.blockAt_iff]
  constructor
  · rintro ⟨⟨k, b, l, rfl, rfl⟩, hfree, hdata⟩
    have hsize := b.size_ge
    rw [h.isused_eq] at hfree
    rw [h.dataSize_eq] at hdata
    exact ⟨k, b, l, rfl, rfl, hfree, by omega⟩
  · rintro ⟨k, b, l, rfl, rfl, hfree, hfit⟩
    refine ⟨⟨k, b, l, rfl, rfl⟩, ?_, h.dataSize_ge hfit⟩
    rw [h.isused_eq, hfree]

lemma Linked.noneFits_iff (h : Linked m bs) : NoneFits need bs ↔ ∀ o, ¬ Fits m need o := by
  constructor
  · intro hnone o hfits
    obtain ⟨k, b, l, rfl, -, hfree, hfit⟩ := h.fits_iff.mp hfits
    have := hnone b (by simp) hfree
    omega
  · intro hnone b hb hfree
    obtain ⟨k, l, rfl⟩ := List.append_of_mem hb
    by_contra hlarge
    exact hnone (total k) (h.fits_iff.mpr ⟨k, b, l, rfl, rfl, hfree, by omega⟩)

/-- Where two splits of a list stand to each other. -/
lemma total_le_of_split {k' l' : List Blk} {b' : Blk} (heq : k ++ b :: l = k' ++ b' :: l')
    (hnot : b' ∉ k) : total k ≤ total k' := by
  rcases List.append_eq_append_iff.mp heq with ⟨r, rfl, -⟩ | ⟨r, rfl, hr⟩
  · rw [total_append]
    omega
  · cases r with
    | nil => simp
    | cons c r =>
      obtain ⟨rfl, -⟩ : b' = c ∧ l' = r ++ b :: l := by simpa using hr
      exact absurd (by simp) hnot

/-- The block that is taken is the lowest one that fits. -/
lemma Taken.isLeast {bs' : List Blk} (h : Linked m (k ++ b :: l))
    (ht : Taken m need k b l m' bs' c) : IsLeast {o | Fits m need o} (total k) := by
  constructor
  · exact h.fits_iff.mpr ⟨k, b, l, rfl, rfl, ht.free, ht.fits⟩
  · intro o ho
    obtain ⟨k', b', l', heq, rfl, hfree, hfit⟩ := h.fits_iff.mp ho
    refine total_le_of_split heq fun hmem => ?_
    have := ht.first b' hmem hfree
    omega

/-! ### The bytes of the payloads -/

/-- Two payloads are one or lie apart. -/
lemma payloads_apart {y z : ℕ × ℕ} (hy : y ∈ payloads 0 bs) (hz : z ∈ payloads 0 bs)
    (hne : y.1 ≠ z.1) : y.1 + y.2 + 16 ≤ z.1 ∨ z.1 + z.2 + 16 ≤ y.1 := by
  have hsymm : Std.Symm fun y z : ℕ × ℕ =>
      y.1 ≠ z.1 → y.1 + y.2 + 16 ≤ z.1 ∨ z.1 + z.2 + 16 ≤ y.1 :=
    ⟨fun _ _ h hne => (h hne.symm).symm⟩
  have hpair : (payloads 0 bs).Pairwise fun y z =>
      y.1 ≠ z.1 → y.1 + y.2 + 16 ≤ z.1 ∨ z.1 + z.2 + 16 ≤ y.1 :=
    payloads_disjoint.imp fun h _ => .inl h
  exact hpair.forall_of_forall (fun y _ hne => absurd rfl hne) hy hz hne

lemma written_eq_false (h : m'.item x = m.item x) : written m m' x = false := by
  simp [written, h]

/-- A byte that no written header covers. -/
lemma Store.put_byte {P : ℕ → Prop} (hw : Writes P s.mem m)
    (hapart : ∀ x, P x → x + sizeofItem ≤ o ∨ o < x) : (s.put m).byte o = s.byte o := by
  have hnone : (List.range sizeofItem).find?
      (fun i => decide (i ≤ o) && written s.mem m (o - i)) = none := by
    rw [List.find?_eq_none]
    intro i hi
    have hlt : i < sizeofItem := List.mem_range.mp hi
    by_cases hle : i ≤ o
    · have hout : ¬ P (o - i) := by
        intro hP
        have := hapart _ hP
        omega
      simp [written_eq_false (hw.item _ hout)]
    · simp [hle]
  unfold Store.put
  dsimp only
  rw [hnone]

lemma Store.put_self (s : Store) : s.put s.mem = s := by
  have hbyte : (s.put s.mem).byte = s.byte := by
    funext o
    exact put_byte (Writes.refl (fun _ => False) s.mem) fun x hx => hx.elim
  calc s.put s.mem = ⟨s.mem, s.pool, (s.put s.mem).byte⟩ := rfl
    _ = s := by rw [hbyte]

/-- A payload keeps its bytes while headers are written where blocks start. -/
lemma Store.put_payload (hw : Writes (IsHead bs) s.mem m) (hp : (p, c) ∈ payloads 0 bs)
    (hlow : p ≤ o) (hhigh : o < p + c) : (s.put m).byte o = s.byte o := by
  refine put_byte hw fun x hx => ?_
  have hapart := hx.apart hp
  unfold sizeofItem
  dsimp only at hapart
  omega

lemma Store.write_byte_of_apart {v : ℕ → BitVec 8} (h : x < o ∨ o + n ≤ x) :
    (s.write o n v).byte x = s.byte x := by
  unfold Store.write
  dsimp only
  rw [if_neg (by omega)]

lemma Store.write_byte {v : ℕ → BitVec 8} {i : ℕ} (h : i < n) :
    (s.write o n v).byte (o + i) = v i := by
  unfold Store.write
  dsimp only
  rw [if_pos (by omega), Nat.add_sub_cancel_left]

lemma Store.write_item_of_apart {v : ℕ → BitVec 8} (h : x + sizeofItem ≤ o ∨ o + n ≤ x) :
    (s.write o n v).mem.item x = s.mem.item x := by
  unfold Store.write
  dsimp only
  rw [if_neg (by omega)]

/-- A segment depends on the headers where its blocks start only. -/
lemma Seg.congr_heads {item item' : ℕ → MemItem} {e : ℕ} : ∀ {bs : List Blk} {p o : ℕ},
    Seg item p o bs q e → (∀ x, IsHead bs x → item' (o + x) = item (o + x)) →
    Seg item' p o bs q e
  | [], _, _, h, _ => h
  | b :: bs, p, o, h, hsame => by
    have hhead := hsame 0 (isHead_cons.mpr (.inl rfl))
    refine ⟨h.1.congr hhead, h.2.congr_heads fun x hx => ?_⟩
    rw [Nat.add_assoc]
    exact hsame _ (isHead_cons.mpr (.inr ⟨x, hx, rfl⟩))

/-- And so does the heap. -/
lemma Rep.of_heads (h : Rep m bs) (hsame : ∀ x, IsHead bs x → m'.item x = m.item x)
    (hptr : m'.heapPtr = m.heapPtr) (hsize : m'.memSizeAligned = m.memSizeAligned)
    (hlfree : m'.lfree = m.lfree) (hused : m'.used = m.used) : Rep m' bs := by
  have hend : heapEnd m' = heapEnd m := by
    unfold heapEnd
    rw [hsize]
  have hlast : IsHead bs (heapEnd m) := ⟨bs, [], by simp, h.toLinked.total_eq.symm⟩
  obtain ⟨q, hseg⟩ := h.seg
  refine ⟨⟨⟨⟨q, ?_⟩, ?_, ?_, ?_⟩, ?_, ?_⟩, h.noFreePair⟩
  · rw [hend]
    refine hseg.congr_heads fun x hx => ?_
    rw [Nat.zero_add]
    exact hsame x hx
  · unfold memIsused
    rw [hend, hsame _ hlast]
    exact h.endUsed
  · rw [hptr]
    exact h.aligned
  · rw [hsize]
    exact h.bound
  · rw [hlfree]
    exact h.lfree
  · rw [hused]
    exact h.used

/-- A write to a payload leaves the list as it is. -/
lemma Rep.write (h : Rep s.mem bs) (hp : (p, c) ∈ payloads 0 bs) (hlow : p ≤ o)
    (hhigh : o + n ≤ p + c) (v : ℕ → BitVec 8) : Rep (s.write o n v).mem bs := by
  refine h.of_heads (fun x hx => ?_) rfl rfl rfl rfl
  refine Store.write_item_of_apart ?_
  have hapart := hx.apart hp
  unfold sizeofItem
  dsimp only at hapart
  omega

end N32L43x.Mem
