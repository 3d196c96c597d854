import N32L43x.Mem.Alloc

/-!
Programs that use the heap: after every sequence of calls on live blocks the heap is a list of
blocks, and the blocks the program holds lie apart from each other inside it.
-/

namespace N32L43x.Mem

open N32L43x.Lib.Run

variable {m : SmallMem} {k l bs : List Blk} {b : Blk} {s s' : Sys}

/-! ### The blocks a program holds -/

section Live

variable {ps ks ls : List (ℕ × ℕ)} {live : ℕ → Option ℕ} {p c n : ℕ}

lemma LiveOk.insert (h : LiveOk (ks ++ ls) live) (hn : n ≤ c) :
    LiveOk (ks ++ (p, c) :: ls) (Function.update live p (some n)) where
  live_of_mem x hx := by
    by_cases hp : x.1 = p
    · simp [hp]
    · rw [Function.update_of_ne hp]
      refine h.live_of_mem x ?_
      rcases List.mem_append.mp hx with hx | hx
      · exact List.mem_append_left _ hx
      · rcases List.mem_cons.mp hx with rfl | hx
        · exact absurd rfl hp
        · exact List.mem_append_right _ hx
  mem_of_live q r hq := by
    by_cases hp : q = p
    · subst hp
      obtain rfl : n = r := by simpa using hq
      exact ⟨c, hn, by simp⟩
    · rw [Function.update_of_ne hp] at hq
      obtain ⟨d, hd, hmem⟩ := h.mem_of_live q r hq
      refine ⟨d, hd, ?_⟩
      rcases List.mem_append.mp hmem with hmem | hmem
      · exact List.mem_append_left _ hmem
      · exact List.mem_append_right _ (List.mem_cons_of_mem _ hmem)

lemma LiveOk.erase (h : LiveOk (ks ++ (p, c) :: ls) live)
    (hdis : (ks ++ (p, c) :: ls).Pairwise fun x y => x.1 + x.2 + 16 ≤ y.1) :
    LiveOk (ks ++ ls) (Function.update live p none) := by
  have hne : ∀ x ∈ ks ++ ls, x.1 ≠ p := by
    rw [List.pairwise_append, List.pairwise_cons] at hdis
    intro x hx
    rcases List.mem_append.mp hx with hx | hx
    · have := hdis.2.2 x hx (p, c) (by simp)
      dsimp only at this
      omega
    · have := hdis.2.1.1 x hx
      dsimp only at this
      omega
  constructor
  · intro x hx
    rw [Function.update_of_ne (hne x hx)]
    refine h.live_of_mem x ?_
    rcases List.mem_append.mp hx with hx | hx
    · exact List.mem_append_left _ hx
    · exact List.mem_append_right _ (List.mem_cons_of_mem _ hx)
  · intro q r hq
    by_cases hp : q = p
    · subst hp
      simp at hq
    · rw [Function.update_of_ne hp] at hq
      obtain ⟨d, hd, hmem⟩ := h.mem_of_live q r hq
      refine ⟨d, hd, ?_⟩
      rcases List.mem_append.mp hmem with hmem | hmem
      · exact List.mem_append_left _ hmem
      · rcases List.mem_cons.mp hmem with heq | hmem
        · exact absurd (congrArg Prod.fst heq) hp
        · exact List.mem_append_right _ hmem

end Live

/-- The heap is a list of blocks and the program holds the ones in use. -/
def Inv (s : Sys) : Prop := ∃ bs, Rep s.mem bs ∧ LiveOk (payloads 0 bs) s.live

/-- A live pointer names a used block. -/
lemma exists_block {live : ℕ → Option ℕ} (h : LiveOk (payloads 0 bs) live) {p n : ℕ}
    (hp : live p = some n) :
    ∃ k b l, bs = k ++ b :: l ∧ b.used = true ∧ p = total k + 16 ∧ n + 16 ≤ b.size := by
  obtain ⟨c, hc, hmem⟩ := h.mem_of_live p n hp
  obtain ⟨k, b, l, rfl, hb, heq⟩ := exists_of_mem_payloads hmem
  obtain ⟨rfl, rfl⟩ := Prod.mk.inj heq
  have hsize := b.size_ge
  exact ⟨k, b, l, rfl, hb, by omega, by omega⟩

/-! ### The calls -/

lemma Inv.alloc (h : Inv s) {size : ℕ} (hsize : size < 4294967296 - 8) :
    ∃ s', step s (.alloc size) = some s' ∧ Inv s' := by
  obtain ⟨bs, hrep, hlive⟩ := h
  rcases hrep.alloc hsize with heq | ⟨m', bs', p, c, k, l, heq, hrep', hc, hold, hnew⟩
  · refine ⟨s, ?_, bs, hrep, hlive⟩
    simp only [step, heq, Option.map_some]
    rfl
  · refine ⟨⟨m', Function.update s.live p (some size)⟩, ?_, bs', hrep', ?_⟩
    · simp only [step, heq, Option.map_some]
      rfl
    · rw [hold] at hlive
      rw [hnew]
      exact hlive.insert hc

/-- Releasing a live pointer. -/
lemma free_live {live : ℕ → Option ℕ} (hrep : Rep m bs) (hlive : LiveOk (payloads 0 bs) live)
    {p : ℕ} (hp : (live p).isSome) :
    ∃ bs', Rep (rtSmemFree m (some p)) bs' ∧
      LiveOk (payloads 0 bs') (Function.update live p none) := by
  obtain ⟨n, hn⟩ := Option.isSome_iff_exists.mp hp
  obtain ⟨k, b, l, rfl, hb, rfl, -⟩ := exists_block hlive hn
  obtain ⟨bs', hrep', hpay⟩ := hrep.free hb
  refine ⟨bs', hrep', ?_⟩
  rw [payloads_used hb] at hlive
  rw [hpay]
  refine hlive.erase ?_
  rw [← payloads_used hb]
  exact payloads_disjoint

lemma Inv.free (h : Inv s) {rmem : Option ℕ} (hvalid : IsLive s rmem) :
    ∃ s', step s (.free rmem) = some s' ∧ Inv s' := by
  obtain ⟨bs, hrep, hlive⟩ := h
  refine ⟨_, rfl, ?_⟩
  cases rmem with
  | none => exact ⟨bs, hrep, hlive⟩
  | some p => exact free_live hrep hlive (hvalid p rfl)

/-- Shrinking a block in place: the rest of it becomes free, and is joined to a free block behind it. -/
lemma Rep.shrink (h : Rep m (k ++ b :: l)) (hb : b.used = true) {size : ℕ} (hal : size % 8 = 0)
    (hfit : size + 48 ≤ b.size) :
    ∃ bs', Rep (shrinkBlock m (total k) (b.size - 16) size) bs' ∧
      payloads 0 bs' = payloads 0 k ++ (total k + 16, size) :: payloads (total k + b.size) l := by
  have hend := h.toLinked.end_ge
  have hbound := h.bound
  obtain ⟨hk, hl⟩ := noFreePair_sides h.noFreePair
  have hfit' : size + 32 ≤ b.size := by omega
  have hptr2 : add32 (add32 (total k) sizeofStructMem) size =
      total (k ++ [b.front size hal]) := by
    have hfirst : add32 (total k) sizeofStructMem = total k + 16 := add32_of_lt (b := 16) (by omega)
    rw [hfirst, add32_of_lt (by omega), total_append, total_cons, total_nil]
    simp only [Blk.front]
    omega
  have hdiff : sub32 (b.size - 16) size = b.size - 16 - size := sub32_of_le (by omega) (by omega)
  set m₁ := splitBlock { m with used := sub32 m.used (b.size - 16 - size) } (total k) size with hm₁
  have hlink : Linked m₁ (k ++ b.front size hal :: b.rest size hal hfit' :: l) :=
    (h.toLinked.of_item { m with used := sub32 m.used (b.size - 16 - size) }
      rfl rfl rfl).splitBlock hal hfit'
  obtain ⟨-, -, hused, hhint, -⟩ := splitBlock_fields
    { m with used := sub32 m.used (b.size - 16 - size) } (total k) size
  have hassoc : k ++ b.front size hal :: b.rest size hal hfit' :: l =
      (k ++ [b.front size hal]) ++ b.rest size hal hfit' :: l := by simp
  have hcount : m₁.used = usedTotal (k ++ b.front size hal :: b.rest size hal hfit' :: l) := by
    have hold : m.used = usedTotal k + (b.size + usedTotal l) := by
      rw [h.used]
      simp [usedTotal_cons, hb]
    have hsum : usedTotal (k ++ b.front size hal :: b.rest size hal hfit' :: l) =
        usedTotal k + (size + 16 + usedTotal l) := by
      simp [usedTotal_cons, Blk.front, Blk.rest, hb]
    have hle := usedTotal_le k
    have hle' := usedTotal_le l
    have hwrite : m₁.used = sub32 m.used (b.size - 16 - size) := hused
    rw [hwrite, hold, hsum, sub32_of_le (by omega) (by omega)]
    omega
  have hfree : (if total (k ++ [b.front size hal]) < m₁.lfree then total (k ++ [b.front size hal])
      else m₁.lfree) = firstFree ((k ++ [b.front size hal]) ++ b.rest size hal hfit' :: l) := by
    have hold : m₁.lfree = firstFree (k ++ b :: l) := hhint.trans h.lfree
    rw [firstFree_append_free _ _ (b := b.rest size hal hfit') rfl, hold]
    by_cases hall : ∀ c ∈ k, c.used = true
    · have hcons : firstFree (b :: l) = b.size + firstFree l := by simp [firstFree, hb]
      have hall' : ∀ c ∈ k ++ [b.front size hal], c.used = true := by
        intro c hc
        rcases List.mem_append.mp hc with hc | hc
        · exact hall c hc
        · obtain rfl := List.mem_singleton.mp hc
          exact hb
      rw [firstFree_eq_total_iff.mpr hall', firstFree_append hall, hcons, if_pos]
      rw [total_append, total_cons, total_nil]
      simp only [Blk.front]
      omega
    · push Not at hall
      obtain ⟨a, ha, hafree⟩ := hall
      have hex : ∃ a ∈ k, a.used = false := ⟨a, ha, by simpa using hafree⟩
      obtain ⟨heq, hlt⟩ := firstFree_append_of_exists hex (b :: l)
      obtain ⟨heq', -⟩ := firstFree_append_of_exists hex [b.front size hal]
      rw [heq, heq', if_neg]
      rw [total_append]
      omega
  have hchain : Chain { m₁ with
      lfree := if total (k ++ [b.front size hal]) < m₁.lfree then
        total (k ++ [b.front size hal]) else m₁.lfree }
      ((k ++ [b.front size hal]) ++ b.rest size hal hfit' :: l) := by
    rw [← hassoc] at hfree ⊢
    exact ⟨hlink.of_item _ rfl rfl rfl, hfree, hcount⟩
  have hfront : NoFreePair (k ++ [b.front size hal]) :=
    noFreePair_mark (u := b.front size hal) h.noFreePair hb List.isChain_nil
  obtain ⟨bs', hrep, hpay⟩ := hchain.plugHoles rfl hfront hl
  refine ⟨bs', ?_, ?_⟩
  · unfold shrinkBlock
    rw [hdiff, hptr2]
    dsimp only
    rw [← hm₁]
    split
    · rename_i hlt
      rw [if_pos hlt] at hrep
      exact hrep
    · rename_i hlt
      rw [if_neg hlt] at hrep
      exact hrep
  · have hlen : (b.front size hal).size - 16 = size := by
      simp only [Blk.front]
      omega
    have hpos : total k + (b.front size hal).size + (b.rest size hal hfit').size =
        total k + b.size := by
      simp only [Blk.front, Blk.rest]
      omega
    rw [hpay, ← hassoc, payloads_used (b := b.front size hal) hb, hlen, ← hpos]
    simp [payloads, Blk.rest]

/-- **Reallocating a live block**: it stays where it is, it moves, or the call fails and nothing has
changed. -/
lemma Inv.realloc_some (h : Inv s) {p newsize : ℕ} (hsize : newsize < 4294967296 - 8)
    (hp : (s.live p).isSome) :
    ∃ s', step s (.realloc (some p) newsize) = some s' ∧ Inv s' := by
  obtain ⟨hal, hge, hzero⟩ := rtAlign_spec hsize
  have hinv := h
  obtain ⟨bs, hrep, hlive⟩ := h
  obtain ⟨n, hn⟩ := Option.isSome_iff_exists.mp hp
  obtain ⟨k, b, l, rfl, hb, rfl, -⟩ := exists_block hlive hn
  have hend := hrep.toLinked.end_ge
  have hbound := hrep.bound
  have hptr : total k + 16 - sizeofStructMem = total k := Nat.add_sub_cancel _ _
  have hcur : sub32 (sub32 (s.mem.item (total k)).next (total k)) sizeofStructMem =
      b.size - 16 := by
    have hsb := b.size_ge
    rw [hrep.toLinked.next_eq, sub32_of_le (a := total k + b.size) (by omega) (by omega),
      Nat.add_sub_cancel_left]
    exact sub32_of_le b.header (by omega)
  simp only [step, rtSmemRealloc, hptr, hcur]
  by_cases hbig : rtAlign newsize > s.mem.memSizeAligned
  · have hne : newsize ≠ 0 := by
      rintro rfl
      rw [hzero.mpr rfl] at hbig
      omega
    refine ⟨s, ?_, hinv⟩
    simp [hbig, liveAfterRealloc, hne]
  rw [if_neg hbig]
  by_cases h0 : newsize = 0
  · obtain ⟨bs', hrep', hlive'⟩ := free_live hrep hlive hp
    refine ⟨⟨rtSmemFree s.mem (some (total k + 16)), Function.update s.live (total k + 16) none⟩,
      ?_, bs', hrep', hlive'⟩
    rw [if_pos (hzero.mpr h0)]
    simp [liveAfterRealloc, h0, drop]
  rw [if_neg (mt hzero.mp h0)]
  have hkeep : ∀ q, liveAfterRealloc s.live (some (total k + 16)) newsize (some q) =
      Function.update (Function.update s.live (total k + 16) none) q (some newsize) := by
    intro q
    simp [liveAfterRealloc, h0, hold, drop]
  by_cases hsame : b.size - 16 = rtAlign newsize
  · refine ⟨⟨s.mem, Function.update s.live (total k + 16) (some newsize)⟩, ?_, _, hrep, ?_⟩
    · rw [if_pos hsame, Option.map_some, hkeep, Function.update_idem]
    · rw [payloads_used hb] at hlive ⊢
      have herased := hlive.erase (by rw [← payloads_used hb]; exact payloads_disjoint)
      have hback := herased.insert (p := total k + 16) (c := b.size - 16) (n := newsize) (by omega)
      rwa [Function.update_idem] at hback
  rw [if_neg hsame]
  have hmin : add32 (add32 (rtAlign newsize) sizeofStructMem) minSize = rtAlign newsize + 28 := by
    have hfirst : add32 (rtAlign newsize) sizeofStructMem = rtAlign newsize + 16 :=
      add32_of_lt (b := 16) (by omega)
    rw [hfirst]
    exact add32_of_lt (b := 12) (by omega)
  rw [hmin]
  by_cases hshrink : rtAlign newsize + 28 < b.size - 16
  · have hsb := b.aligned
    obtain ⟨bs', hrep', hpay⟩ := hrep.shrink hb hal (by omega)
    refine ⟨_, by rw [if_pos hshrink]; rfl, bs', hrep', ?_⟩
    dsimp only
    rw [hkeep, hpay]
    rw [payloads_used hb] at hlive
    exact (hlive.erase (by rw [← payloads_used hb]; exact payloads_disjoint)).insert hge
  rw [if_neg hshrink]
  have hsize' : rtAlign newsize < 4294967296 - 8 := by omega
  rcases hrep.alloc hsize' with heq | ⟨m', bs', q, c, ks, ls, heq, hrep', hc, hps, hnew⟩
  · refine ⟨s, ?_, hinv⟩
    rw [heq]
    simp [liveAfterRealloc, h0]
  · -- the new block is taken while the old one is still there, so they are different
    have hlive' : LiveOk (payloads 0 bs') (Function.update s.live q (some newsize)) := by
      rw [hnew]
      rw [hps] at hlive
      exact hlive.insert (by omega)
    have hne : total k + 16 ≠ q := by
      have hmem : (total k + 16, b.size - 16) ∈ ks ++ ls := by
        rw [← hps, payloads_used hb]
        simp
      have hdis : (payloads 0 bs').Pairwise fun x y => x.1 + x.2 + 16 ≤ y.1 := payloads_disjoint
      rw [hnew, List.pairwise_append, List.pairwise_cons] at hdis
      rcases List.mem_append.mp hmem with hmem | hmem
      · have := hdis.2.2 _ hmem (q, c) (by simp)
        dsimp only at this
        omega
      · have := hdis.2.1.1 _ hmem
        dsimp only at this
        omega
    have hp' : (Function.update s.live q (some newsize) (total k + 16)).isSome := by
      rw [Function.update_of_ne hne]
      exact hp
    obtain ⟨bs'', hrep'', hlive''⟩ := free_live hrep' hlive' hp'
    refine ⟨⟨rtSmemFree m' (some (total k + 16)),
      liveAfterRealloc s.live (some (total k + 16)) newsize (some q)⟩, ?_, bs'', hrep'', ?_⟩
    · rw [heq]
      rfl
    · rw [hkeep, Function.update_comm hne]
      exact hlive''

lemma Inv.realloc (h : Inv s) {rmem : Option ℕ} {newsize : ℕ} (hsize : newsize < 4294967296 - 8)
    (hvalid : IsLive s rmem) : ∃ s', step s (.realloc rmem newsize) = some s' ∧ Inv s' := by
  cases rmem with
  | some p => exact h.realloc_some hsize (hvalid p rfl)
  | none =>
    obtain ⟨hal, hge, hzero⟩ := rtAlign_spec hsize
    have hinv := h
    obtain ⟨bs, hrep, hlive⟩ := h
    simp only [step, rtSmemRealloc]
    by_cases hbig : rtAlign newsize > s.mem.memSizeAligned
    · have hne : newsize ≠ 0 := by
        rintro rfl
        rw [hzero.mpr rfl] at hbig
        omega
      refine ⟨s, ?_, hinv⟩
      simp [hbig, liveAfterRealloc, hne]
    rw [if_neg hbig]
    by_cases h0 : newsize = 0
    · refine ⟨s, ?_, hinv⟩
      rw [if_pos (hzero.mpr h0)]
      simp [liveAfterRealloc, h0, drop, rtSmemFree]
    rw [if_neg (mt hzero.mp h0)]
    have hbound := hrep.bound
    have hsize' : rtAlign newsize < 4294967296 - 8 := by omega
    rcases hrep.alloc hsize' with heq | ⟨m', bs', q, c, ks, ls, heq, hrep', hc, hps, hnew⟩
    · refine ⟨s, ?_, hinv⟩
      simp [heq, liveAfterRealloc, h0]
    · refine ⟨⟨m', Function.update s.live q (some newsize)⟩, ?_, bs', hrep', ?_⟩
      · simp [heq, liveAfterRealloc, h0, hold, drop]
      · rw [hps] at hlive
        rw [hnew]
        exact hlive.insert (by omega)

/-- A write to the data of a block touches no header of the chain. -/
lemma Linked.store (h : Linked m (k ++ b :: l)) {o : ℕ} (hlow : total k < o)
    (hhigh : o < total k + b.size) (it : MemItem) : Linked (setItem m o it) (k ++ b :: l) := by
  obtain ⟨p, q, hk, hb, hl⟩ := h.split
  have hend := h.end_ge
  have haway : ∀ x, x ≠ o → (setItem m o it).item x = m.item x :=
    fun x hx => Function.update_of_ne hx _ _
  constructor
  · refine ⟨q, seg_join (p := p) ?_ (hb.congr (haway _ (by omega))) ?_⟩
    · exact hk.congr fun x _ hx => haway x (by omega)
    · exact hl.congr fun x hx _ => haway x (by omega)
  · have hne : heapEnd m ≠ o := by
      unfold heapEnd sizeofStructMem
      omega
    have hsame : heapEnd (setItem m o it) = heapEnd m := rfl
    unfold memIsused
    rw [hsame, haway _ hne]
    exact h.endUsed
  · exact h.aligned
  · exact h.bound

/-- **Every valid action returns and keeps the invariant.** -/
theorem Inv.step {a : Action} (h : Inv s) (hvalid : Valid s a) :
    ∃ s', step s a = some s' ∧ Inv s' := by
  cases a with
  | alloc size => exact h.alloc hvalid
  | realloc rmem newsize => exact h.realloc hvalid.1 hvalid.2
  | free rmem => exact h.free hvalid
  | store o it =>
    obtain ⟨bs, hrep, hlive⟩ := h
    obtain ⟨p, n, hp, hlow, hhigh⟩ := hvalid
    obtain ⟨k, b, l, rfl, hb, rfl, hn⟩ := exists_block hlive hp
    refine ⟨_, rfl, k ++ b :: l, ⟨⟨?_, hrep.lfree, hrep.used⟩, hrep.noFreePair⟩, hlive⟩
    exact hrep.toLinked.store (by omega) (by omega) it

/-- The heap after `rt_smem_init` is one free block. -/
lemma inv_init {sizeofSmallMem beginAddr size : ℕ} {garbage : ℕ → MemItem}
    (h : rtSmemInit sizeofSmallMem beginAddr size garbage = some m) :
    Inv ⟨m, fun _ => none⟩ := by
  unfold rtSmemInit at h
  dsimp only at h
  split at h
  · rename_i hroom
    set startAddr := add32 (rtAlign beginAddr) sizeofSmallMem with hstart
    set endAlign := rtAlignDown (add32 beginAddr size) with hend
    have hend8 : endAlign % 8 = 0 ∧ endAlign < 4294967296 := by
      simp only [hend, rtAlignDown, add32]
      omega
    have hlt : startAddr < 4294967296 := by
      simp only [hstart, add32]
      omega
    have hsub : sub32 endAlign (2 * sizeofStructMem) = endAlign - 32 := by
      have hgt := hroom.1
      unfold sizeofStructMem at hgt ⊢
      exact sub32_of_le (by omega) hend8.2
    rw [hsub] at hroom
    have hgt : endAlign > 32 := hroom.1
    have hbegin : rtAlign startAddr % 8 = 0 ∧ rtAlign startAddr + 32 ≤ endAlign := by
      unfold rtAlign add32
      omega
    have hmsa : sub32 (sub32 endAlign (rtAlign startAddr)) (2 * sizeofStructMem) =
        endAlign - rtAlign startAddr - 32 := by
      rw [sub32_of_le (a := endAlign) (by omega) hend8.2]
      exact sub32_of_le (b := 32) (by omega) (by omega)
    rw [hmsa] at h
    set memSize := endAlign - rtAlign startAddr - 32 with hmem
    obtain rfl := Option.some.inj h
    have hne : (0 : ℕ) ≠ memSize + sizeofStructMem := by
      unfold sizeofStructMem
      omega
    let b : Blk := ⟨false, memSize + 16, Nat.le_add_left _ _, by omega⟩
    refine ⟨[b], ⟨⟨⟨⟨0, ⟨?_, ?_, ?_⟩, rfl, Nat.zero_add _⟩, ?_, hbegin.1, ?_⟩, ?_, ?_⟩, ?_⟩,
      ⟨?_, ?_⟩⟩
    · simp [setItem, heapEnd, Function.update_of_ne hne, b]
    · simp [setItem, heapEnd, b, sizeofStructMem]
    · simp [setItem, heapEnd, Function.update_of_ne hne]
    · simp [memIsused, setItem, heapEnd]
    · show memSize + 32 < _
      omega
    · simp [setItem, firstFree, b]
    · simp [setItem, usedTotal, b]
    · exact List.isChain_singleton b
    · simp [payloads, b]
    · simp
  · cases h

/-! ### Whole runs -/

/-- The data of a block: from the pointer to the next header. -/
def payloadEnd (m : SmallMem) (p : ℕ) : ℕ := (m.item (p - sizeofStructMem)).next

/-- The payloads of the live blocks are inside the heap, large enough, aligned and apart. -/
structure PayloadsOk (s : Sys) : Prop where
  inside : ∀ p n, s.live p = some n →
    sizeofStructMem ≤ p ∧ p + n ≤ payloadEnd s.mem p ∧ payloadEnd s.mem p ≤ heapEnd s.mem
  aligned : ∀ p n, s.live p = some n → (s.mem.heapPtr + p) % 8 = 0
  disjoint : ∀ p n q r, s.live p = some n → s.live q = some r → p ≠ q →
    payloadEnd s.mem p ≤ q ∨ payloadEnd s.mem q ≤ p

lemma payloadEnd_eq (h : Linked m (k ++ b :: l)) :
    payloadEnd m (total k + 16) = total k + b.size := by
  unfold payloadEnd
  have hptr : total k + 16 - sizeofStructMem = total k := Nat.add_sub_cancel _ _
  rw [hptr]
  exact h.next_eq

lemma payloadsOk (hrep : Rep s.mem bs) (hlive : LiveOk (payloads 0 bs) s.live) : PayloadsOk s where
  inside p n hp := by
    obtain ⟨k, b, l, rfl, hb, rfl, hn⟩ := exists_block hlive hp
    have hend := hrep.toLinked.end_ge
    rw [payloadEnd_eq hrep.toLinked]
    unfold heapEnd sizeofStructMem
    omega
  aligned p n hp := by
    obtain ⟨k, b, l, rfl, hb, rfl, hn⟩ := exists_block hlive hp
    have := hrep.aligned
    have := total_aligned k
    omega
  disjoint p n q r hp hq hne := by
    -- the block that starts later starts behind the other one
    have hlater : ∀ p n q r, s.live p = some n → s.live q = some r → p < q →
        payloadEnd s.mem p ≤ q := by
      intro p n q r hp hq hlt
      obtain ⟨c, -, hmemp⟩ := hlive.mem_of_live p n hp
      obtain ⟨d, -, hmemq⟩ := hlive.mem_of_live q r hq
      obtain ⟨k, b, l, rfl, hb, heq⟩ := exists_of_mem_payloads hmemp
      obtain ⟨rfl, rfl⟩ := Prod.mk.inj heq
      rw [Nat.zero_add] at hlt ⊢
      rw [payloadEnd_eq hrep.toLinked]
      rw [payloads_used hb] at hmemq
      rcases List.mem_append.mp hmemq with hmemq | hmemq
      · have := payloads_bounds hmemq
        dsimp only at this
        omega
      · rcases List.mem_cons.mp hmemq with heq | hmemq
        · have := congrArg Prod.fst heq
          dsimp only at this
          omega
        · have := (payloads_bounds hmemq).1
          dsimp only at this
          omega
    rcases Nat.lt_or_gt_of_ne hne with hlt | hlt
    · exact .inl (hlater p n q r hp hq hlt)
    · exact .inr (hlater q r p n hq hp hlt)

/-- **The heap is well formed after every sequence of calls.**  Over any memory, every sequence of
allocations, reallocations and releases of live blocks, with writes to live blocks in between, runs
to its end and leaves a heap whose chain of headers is a list of blocks from the start to the end,
every block behind the first pointing back to the one before it, with no two free neighbours, the
hint at the lowest free block or at the end, and the bytes of the used blocks counted; and the live
payloads are disjoint, aligned and inside the heap. -/
theorem heap_wellFormed {sizeofSmallMem beginAddr size : ℕ} {garbage : ℕ → MemItem}
    (hinit : rtSmemInit sizeofSmallMem beginAddr size garbage = some m) (as : List Action)
    (hvalid : Along step Valid ⟨m, fun _ => none⟩ as) :
    ∃ s bs, exec step ⟨m, fun _ => none⟩ as = some s ∧ Rep s.mem bs ∧ PayloadsOk s := by
  obtain ⟨s, hs, bs, hrep, hlive⟩ := exec_total_of_along (I := Inv)
    (fun _ _ hI ha => hI.step ha) as _ (inv_init hinit) hvalid
  exact ⟨s, bs, hs, hrep, payloadsOk hrep hlive⟩

/-- A heap of one kilobyte on which one block is allocated and released. -/
theorem heap_wellFormed_alloc_free :
    ∃ m, rtSmemInit 56 0x20000000 1024 (fun _ => ⟨.null, 0, 0⟩) = some m ∧
      ∃ s bs, exec step ⟨m, fun _ => none⟩ [.alloc 100, .free (some 16)] = some s ∧
        Rep s.mem bs ∧ PayloadsOk s := by
  have hlive : ∀ m ∈ rtSmemInit 56 0x20000000 1024 (fun _ => ⟨.null, 0, 0⟩),
      ∀ t ∈ step ⟨m, fun _ => none⟩ (.alloc 100), (t.live 16).isSome := by decide +kernel
  obtain ⟨m, hm⟩ := Option.isSome_iff_exists.mp
    (show (rtSmemInit 56 0x20000000 1024 fun _ => ⟨.null, 0, 0⟩).isSome by decide +kernel)
  refine ⟨m, hm, heap_wellFormed hm _ ⟨?_, ?_⟩⟩
  · show 100 < 4294967296 - 8
    decide
  split
  · trivial
  · rename_i t ht
    refine ⟨?_, trivial⟩
    rintro p ⟨⟩
    exact hlive m hm t ht

/-- The end of the heap is behind the block at its start, and does not point back to it. -/
theorem heapEnd_prev_init :
    ∃ m, rtSmemInit 56 0x20000000 1024 (fun _ => ⟨.null, 0, 0⟩) = some m ∧
      (m.item 0).next = heapEnd m ∧ (m.item (heapEnd m)).prev ≠ 0 := by
  have h : ∀ m ∈ rtSmemInit 56 0x20000000 1024 (fun _ => ⟨.null, 0, 0⟩),
      (m.item 0).next = heapEnd m ∧ (m.item (heapEnd m)).prev ≠ 0 := by decide +kernel
  obtain ⟨m, hm⟩ := Option.isSome_iff_exists.mp
    (show (rtSmemInit 56 0x20000000 1024 fun _ => ⟨.null, 0, 0⟩).isSome by decide +kernel)
  exact ⟨m, hm, h m hm⟩

end N32L43x.Mem
