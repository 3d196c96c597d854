import N32L43x.Memheap.Blocks

/-!
What the parts of the calls do to the blocks: a free block is taken, split off, merged or put back, and the
bytes in the free list change by what is taken or put back.
-/

namespace N32L43x.Memheap

open N32L43x.Lib.Dll

variable {m m' : ℕ → ℕ} {addr fh lo hi : ℕ} {hs bs fs pre post l r : List ℕ} {a b c n x y : ℕ}

/-- The pool from the header at `lo` to the one at `hi`, and the free list header outside it. -/
structure Pool (fh lo hi : ℕ) : Prop where
  outside : fh + memheapSize ≤ lo ∨ hi + memheapSize ≤ fh
  small : hi + memheapSize ≤ 4294967296
  lt : lo < hi

/-- The blocks `bs` tile the pool, and the free list holds the blocks `fs`, which are those that are marked
free.  No two of them are neighbours. -/
structure Shape (m : ℕ → ℕ) (addr fh lo hi : ℕ) (bs fs : List ℕ) : Prop where
  lists : Lists m addr (fh :: bs) bs (fh :: fs) (· ∈ fs)
  tiles : Tiles lo hi bs
  pool : Pool fh lo hi
  sub : ∀ f ∈ fs, f ∈ bs
  last_used : hi ∉ fs
  coalesced : ∀ f ∈ fs, get m f .next ∉ fs

/-- A call is at work on the block `c`, which is marked free: it may not be in the free list yet, and the
block behind it may be free. -/
structure Half (m : ℕ → ℕ) (addr fh lo hi : ℕ) (hs bs fs : List ℕ) (c : ℕ) : Prop where
  lists : Lists m addr hs bs (fh :: fs) (fun b => b = c ∨ b ∈ fs)
  tiles : Tiles lo hi bs
  pool : Pool fh lo hi
  sub : ∀ f ∈ fs, f ∈ bs
  last_used : hi ∉ fs
  block : c ∈ bs
  not_last : c ≠ hi
  coalesced : ∀ f ∈ fs, f ≠ c → get m f .next ∉ fs ∧ get m f .next ≠ c

/-- The blocks in use, but for the last one, which ends the pool. -/
def Busy (bs fs : List ℕ) (hi b : ℕ) : Prop := b ∈ bs ∧ b ∉ fs ∧ b ≠ hi

/-- The bytes in the free list once `c` is in it. -/
def halfBytes (m : ℕ → ℕ) (fs : List ℕ) (c : ℕ) : ℕ := memitemSize m c + freeBytes m (fs.erase c)

lemma Pool.lt_word (hp : Pool fh lo hi) (hn : n ≤ hi) : n < 4294967296 := by
  have hsmall := hp.small
  unfold memheapSize at hsmall
  omega

lemma Tiles.ne_header (ht : Tiles lo hi bs) (hp : Pool fh lo hi) (hb : b ∈ bs) : b ≠ fh := by
  have hlo := ht.head_le hb
  have hhi := ht.le_last hb
  have hout := hp.outside
  unfold memheapSize at hout
  omega

/-- The size of a block with a block behind it. -/
lemma Lists.memitemSize_eq {ws : List ℕ} {free : ℕ → Prop}
    (hl : Lists m addr hs (pre ++ a :: n :: post) ws free) (ht : Tiles lo hi (pre ++ a :: n :: post))
    (hp : Pool fh lo hi) :
    get m a .next = n ∧ memitemSize m a = n - a - memheapSize ∧ Before a n ∧ n ≤ hi := by
  have hnext := hl.blockRing.next_eq.1
  have hhi := ht.le_last (b := n) (by simp)
  exact ⟨hnext, Memheap.memitemSize_eq hnext ht.before (hp.lt_word hhi), ht.before, hhi⟩

lemma freeBytes_erase (ha : a ∈ fs) : freeBytes m fs = memitemSize m a + freeBytes m (fs.erase a) :=
  freeBytes_perm (List.perm_cons_erase ha)

section

variable (h : Shape m addr fh lo hi bs fs)
include h

lemma Shape.fs_nodup : fs.Nodup := (List.nodup_cons.mp h.lists.frees_nodup).2

lemma Shape.header_not_mem : fh ∉ fs := (List.nodup_cons.mp h.lists.frees_nodup).1

lemma Shape.next_mem (hb : b ∈ bs) : get m b .next ∈ bs :=
  (h.lists.blockRing.next_prev h.lists.blocks_nodup hb).1

lemma Shape.isUsed_iff (hb : b ∈ bs) : IsUsed m b ↔ b ∉ fs := h.lists.isUsed_iff hb

/-- A free block is not the last one, and the block behind it is in use. -/
lemma Shape.exists_next_of_free (hf : x ∈ fs) : ∃ pre n post, bs = pre ++ x :: n :: post ∧
    get m x .next = n ∧ n ∉ fs := by
  have hne : x ≠ hi := fun heq => h.last_used (heq ▸ hf)
  obtain ⟨pre, n, post, heq⟩ := h.tiles.exists_next (h.sub x hf) hne
  have hnext : get m x .next = n := by
    have hr := h.lists.blockRing
    rw [heq] at hr
    exact hr.next_eq.1
  exact ⟨pre, n, post, heq, hnext, hnext ▸ h.coalesced x hf⟩

/-- The free bytes and two headers fit into the pool. -/
lemma Shape.freeBytes_le : freeBytes m fs + 2 * memheapSize ≤ hi + memheapSize - lo ∧
    memheapSize * fs.length ≤ hi + memheapSize - lo := by
  have hbound := h.pool.small
  have hlt := h.pool.lt
  have hp : decide (hi ∈ fs) = false := decide_eq_false h.last_used
  have hperm : List.Perm fs (bs.filter fun b => decide (b ∈ fs)) := by
    refine (List.perm_ext_iff_of_nodup h.fs_nodup (h.tiles.nodup.filter _)).mpr ?_
    intro b
    rw [List.mem_filter, decide_eq_true_iff]
    exact ⟨fun hb => ⟨h.sub b hb, hb⟩, fun hb => hb.2⟩
  have hlen : fs.length ≤ bs.length := by
    rw [hperm.length_eq]
    exact List.length_filter_le _ bs
  obtain ⟨bs', rfl⟩ := List.head?_eq_some_iff.mp h.tiles.head
  unfold memheapSize at *
  obtain ⟨hle, -⟩ := freeBytes_filter_le (p := fun b => decide (b ∈ fs)) hp (by omega) bs' lo
    h.lists.blockRing.linked h.tiles.sorted h.tiles.last
  rw [← freeBytes_perm hperm] at hle
  unfold memheapSize at hle
  have hpos : 0 < bs'.length := by
    cases bs' with
    | nil =>
      have hl : lo = hi := Option.some.inj h.tiles.last
      omega
    | cons b bs' => simp
  rw [List.length_cons] at hlen
  constructor
  · omega
  · omega

/-- What is written outside the headers changes nothing. -/
lemma Shape.congr (hm : ∀ j ∈ fh :: bs, ∀ g, get m' j g = get m j g) :
    Shape m' addr fh lo hi bs fs where
  lists := h.lists.congr (fun b hb g _ _ => hm b (List.mem_cons_of_mem fh hb) g)
    (fun w hw g _ => hm w (h.lists.frees_sub w hw) g)
  tiles := h.tiles
  pool := h.pool
  sub := h.sub
  last_used := h.last_used
  coalesced := by
    intro f hf
    rw [hm f (List.mem_cons_of_mem fh (h.sub f hf)) .next]
    exact h.coalesced f hf

lemma Shape.marked (hb : b ∈ bs) :
    Lists (put m b .magic (memheapMagic ||| memheapFreed)) addr (fh :: bs) bs (fh :: fs)
        (fun d => d = b ∨ d ∈ fs) ∧
      ∀ j ∈ fh :: bs, get (put m b .magic (memheapMagic ||| memheapFreed)) j .next = get m j .next := by
  have hbs : b ∈ fh :: bs := List.mem_cons_of_mem fh hb
  constructor
  · refine h.lists.putMagic hbs ?_ ?_
    · intro d _ hd
      exact ⟨fun _ => rfl, fun hnot => absurd (.inl hd) hnot⟩
    · intro d _ hd
      exact or_iff_right hd
  · intro j hj
    rw [get_put_mem h.lists.apart hbs hj, if_neg (by simp)]

/-- A block that is marked free while the block before it is in use. -/
lemma Shape.markFree (hb : b ∈ bs) (hbf : b ∉ fs) (hne : b ≠ hi) (hprev : get m b .prev ∉ fs) :
    Half (put m b .magic (memheapMagic ||| memheapFreed)) addr fh lo hi (fh :: bs) bs fs b ∧
      halfBytes (put m b .magic (memheapMagic ||| memheapFreed)) fs b =
        freeBytes m fs + memitemSize m b := by
  obtain ⟨hmark, hnext⟩ := h.marked hb
  have hin : ∀ f ∈ fs, f ∈ fh :: bs := fun f hf => List.mem_cons_of_mem fh (h.sub f hf)
  constructor
  · refine ⟨hmark, h.tiles, h.pool, h.sub, h.last_used, hb, hne, ?_⟩
    intro f hf _
    rw [hnext f (hin f hf)]
    refine ⟨h.coalesced f hf, ?_⟩
    intro heq
    have hback := (h.lists.blockRing.next_prev h.lists.blocks_nodup (h.sub f hf)).2
    rw [heq] at hback
    exact hprev (hback ▸ hf)
  · unfold halfBytes
    rw [List.erase_of_not_mem hbf, memitemSize_congr (hnext b (List.mem_cons_of_mem fh hb)),
      freeBytes_congr fun f hf => hnext f (hin f hf), Nat.add_comm]

/-- A block that is marked free and becomes a part of the free block before it. -/
lemma Shape.mergeLeft (heq : bs = pre ++ a :: b :: n :: post) (ha : a ∈ fs) :
    Half (unlinkBlock (put m b .magic (memheapMagic ||| memheapFreed)) b) addr fh lo hi (fh :: bs)
        (pre ++ a :: n :: post) fs a ∧
      halfBytes (unlinkBlock (put m b .magic (memheapMagic ||| memheapFreed)) b) fs a =
        freeBytes m fs + memitemSize m b + memheapSize ∧
      get (unlinkBlock (put m b .magic (memheapMagic ||| memheapFreed)) b) b .prev = a ∧
      (∀ j ∈ bs, j ≠ a →
        get (unlinkBlock (put m b .magic (memheapMagic ||| memheapFreed)) b) j .next =
          get m j .next) ∧
      ∀ d, Busy (pre ++ a :: n :: post) fs hi d ∧ d ≠ a ↔ Busy bs fs hi d ∧ d ≠ b := by
  have hb : b ∈ bs := by simp [heq]
  obtain ⟨hmark, hsame⟩ := h.marked hb
  have hl := h.lists
  have ht := h.tiles
  rw [heq] at hl ht
  obtain ⟨hab, hsa, hltab, -⟩ := hl.memitemSize_eq ht h.pool
  have hl' := hl
  have ht' := ht
  rw [List.append_cons] at hl' ht'
  obtain ⟨hbn, hsb, hltbn, hnhi⟩ := hl'.memitemSize_eq ht' h.pool
  have hbf : b ∉ fs := hab ▸ h.coalesced a ha
  have hnd := ht.nodup
  have hin : ∀ f ∈ fs, f ∈ fh :: bs := fun f hf => List.mem_cons_of_mem fh (h.sub f hf)
  obtain ⟨hun, hc⟩ := (show Lists _ _ _ (pre ++ a :: b :: n :: post) _ _ from heq ▸ hmark).unlinked
  have hnext : ∀ j ∈ fh :: bs, get (unlinkBlock (put m b .magic (memheapMagic ||| memheapFreed)) b) j
      .next = if j = a then n else get m j .next := by
    intro j hj
    rw [hc.nextField (by decide) (heq ▸ hj), hsame b (by simp [heq]), hbn, hsame j hj]
  have hfb : ∀ f ∈ fs, f ≠ b := fun f hf heq' => hbf (heq' ▸ hf)
  refine ⟨?_, ?_, ?_, fun j hj hja => ?_, ?_⟩
  · refine ⟨hun.rebase h.lists.apart ?_ h.lists.frees_sub ?_, ht.remove, h.pool, ?_, h.last_used, ?_, ?_, ?_⟩
    · intro d hd
      rw [heq]
      exact List.mem_cons_of_mem fh ((mem_behind hnd d).mp hd).1
    · intro d hd
      have hdb := ((mem_behind hnd d).mp hd).2
      constructor
      · rintro (rfl | hdf)
        · exact .inr ha
        · exact .inr hdf
      · intro hdf
        exact .inr (hdf.resolve_left hdb)
    · intro f hf
      exact (mem_behind hnd f).mpr ⟨heq ▸ h.sub f hf, hfb f hf⟩
    · simp
    · intro heq'
      exact h.last_used (heq' ▸ ha)
    · intro f hf hfa
      rw [hnext f (hin f hf), if_neg hfa]
      exact ⟨h.coalesced f hf, fun heq' => h.coalesced f hf (heq' ▸ ha)⟩
  · have hsize := Memheap.memitemSize_eq ((hnext a (hin a ha)).trans (if_pos rfl)) (hltab.trans hltbn)
      (h.pool.lt_word hnhi)
    have hrest : freeBytes (unlinkBlock (put m b .magic (memheapMagic ||| memheapFreed)) b)
        (fs.erase a) = freeBytes m (fs.erase a) := by
      apply freeBytes_congr
      intro f hf
      obtain ⟨hfa, hf⟩ := (List.Nodup.mem_erase_iff h.fs_nodup).mp hf
      rw [hnext f (hin f hf), if_neg hfa]
    unfold halfBytes
    rw [hsize, hrest, freeBytes_erase ha, hsa, hsb]
    unfold Before at hltab hltbn
    omega
  · have hbs := List.mem_cons_of_mem fh hb
    have hne : b ≠ n := by
      unfold Before memheapSize at hltbn
      omega
    have hprev : get (put m b .magic (memheapMagic ||| memheapFreed)) b .prev = a := by
      rw [get_put_mem h.lists.apart hbs hbs, if_neg (by simp)]
      exact hl.blockRing.next_eq.2
    rw [hc.prevField (by decide) (heq ▸ hbs), hsame b hbs, hbn, if_neg hne, hprev]
  · rw [hnext j (List.mem_cons_of_mem fh hj), if_neg hja]
  · intro d
    unfold Busy
    rw [mem_behind hnd d, ← heq]
    constructor
    · rintro ⟨⟨⟨hd, hdb⟩, hdf, hdhi⟩, -⟩
      exact ⟨⟨hd, hdf, hdhi⟩, hdb⟩
    · rintro ⟨⟨hd, hdf, hdhi⟩, hdb⟩
      exact ⟨⟨⟨hd, hdb⟩, hdf, hdhi⟩, fun heq' => hdf (heq' ▸ ha)⟩

/-- A free block becomes a part of the block in use before it. -/
lemma Shape.absorb (hbs : bs = pre ++ a :: x :: n :: post) (hfs : fs = l ++ x :: r) :
    Shape (removeNextPtr m x) addr fh lo hi (pre ++ a :: n :: post) (l ++ r) ∧
      freeBytes (removeNextPtr m x) (l ++ r) + memitemSize m x = freeBytes m fs ∧
      ∀ b, Busy (pre ++ a :: n :: post) (l ++ r) hi b ↔ Busy bs fs hi b := by
  subst hbs hfs
  have hnd := h.tiles.nodup
  have hx : x ∈ l ++ x :: r := by simp
  obtain ⟨hlists, hnext⟩ := h.lists.removedNext
  have hmem := mem_without h.fs_nodup
  have hax : get m a .next = x := h.lists.blockRing.next_eq.1
  have haf : a ∉ l ++ x :: r := by
    intro ha
    exact h.coalesced a ha (hax ▸ hx)
  have hkeep : ∀ f ∈ l ++ r, get (removeNextPtr m x) f .next = get m f .next := by
    intro f hf
    have hf' := ((hmem f).mp hf).1
    rw [hnext f (List.mem_cons_of_mem fh (h.sub f hf')), if_neg]
    rintro rfl
    exact haf hf'
  refine ⟨⟨hlists.rebase ?_ ?_ ?_ ?_, h.tiles.remove, h.pool, ?_, ?_, ?_⟩, ?_, ?_⟩
  · exact h.tiles.remove.apart h.pool.outside
  · intro b hb
    exact List.mem_cons_of_mem fh hb
  · intro w hw
    rcases List.mem_cons.mp hw with rfl | hw
    · exact List.mem_cons_self ..
    · obtain ⟨hw, hwx⟩ := (hmem w).mp hw
      exact List.mem_cons_of_mem fh ((mem_behind hnd w).mpr ⟨h.sub w hw, hwx⟩)
  · intro b hb
    rw [hmem b]
    exact and_iff_left ((mem_behind hnd b).mp hb).2
  · intro f hf
    obtain ⟨hf, hfx⟩ := (hmem f).mp hf
    exact (mem_behind hnd f).mpr ⟨h.sub f hf, hfx⟩
  · intro hhi
    exact h.last_used ((hmem hi).mp hhi).1
  · intro f hf
    rw [hkeep f hf]
    intro hn
    exact h.coalesced f ((hmem f).mp hf).1 ((hmem _).mp hn).1
  · rw [freeBytes_congr hkeep, freeBytes_middle, Nat.add_comm]
  · intro b
    unfold Busy
    rw [mem_behind hnd b, hmem b]
    constructor
    · rintro ⟨⟨hb, hbx⟩, hbf, hbhi⟩
      exact ⟨hb, fun hf => hbf ⟨hf, hbx⟩, hbhi⟩
    · rintro ⟨hb, hbf, hbhi⟩
      exact ⟨⟨hb, fun heq => hbf (heq ▸ hx)⟩, fun hf => hbf hf.1, hbhi⟩

/-- The end of a block in use is cut off. -/
lemma Shape.splitUsed (hbs : bs = pre ++ a :: n :: post) (ha : a ∉ fs) (hay : Before a y)
    (hyn : Before y n) :
    Half (splitBlock addr m a y) addr fh lo hi (fh :: (pre ++ a :: y :: n :: post))
        (pre ++ a :: y :: n :: post) fs y ∧
      y ∉ fs ∧ get (splitBlock addr m a y) y .next = n ∧
      freeBytes (splitBlock addr m a y) fs = freeBytes m fs ∧
      memitemSize (splitBlock addr m a y) y = n - y - memheapSize ∧
      ∀ b, Busy (pre ++ a :: y :: n :: post) fs hi b ∧ b ≠ y ↔ Busy bs fs hi b := by
  subst hbs
  have htiles := h.tiles.insert hay hyn
  have hnd := htiles.nodup
  have hapart := htiles.apart h.pool.outside
  have hmem := mem_behind hnd
  have hyb : y ∉ pre ++ a :: n :: post := fun hy => ((hmem y).mp hy).2 rfl
  have hyf : y ∉ fs := fun hy => hyb (h.sub y hy)
  have hy : y ∈ fh :: (pre ++ a :: y :: n :: post) := List.mem_cons_of_mem fh (by simp)
  have hin : ∀ b ∈ pre ++ a :: n :: post, b ∈ fh :: (pre ++ a :: y :: n :: post) :=
    fun b hb => List.mem_cons_of_mem fh ((hmem b).mp hb).1
  have hbase : Lists m addr (fh :: (pre ++ a :: y :: n :: post)) (pre ++ a :: n :: post) (fh :: fs)
      (· ∈ fs) := by
    refine h.lists.rebase hapart hin ?_ fun b _ => Iff.rfl
    intro w hw
    rcases List.mem_cons.mp hw with rfl | hw
    · exact List.mem_cons_self ..
    · exact hin w (h.sub w hw)
  obtain ⟨hlists, hnext⟩ := hbase.split hy hyb
  have han : get m a .next = n := h.lists.blockRing.next_eq.1
  have hya : y ≠ a := by
    rintro rfl
    exact hyb (by simp)
  have hynext : get (splitBlock addr m a y) y .next = n := by
    rw [hnext y hy, if_neg hya, if_pos rfl, han]
  have hkeep : ∀ f ∈ fs, get (splitBlock addr m a y) f .next = get m f .next := by
    intro f hf
    have hfa : f ≠ a := fun heq => ha (heq ▸ hf)
    have hfy : f ≠ y := fun heq => hyf (heq ▸ hf)
    rw [hnext f (hin f (h.sub f hf)), if_neg hfa, if_neg hfy]
  have hnhi := h.tiles.le_last (b := n) (by simp)
  refine ⟨⟨hlists, htiles, h.pool, ?_, h.last_used, by simp, ?_, ?_⟩, hyf, hynext, freeBytes_congr hkeep,
    Memheap.memitemSize_eq hynext hyn (h.pool.lt_word hnhi), ?_⟩
  · intro f hf
    exact ((hmem f).mp (h.sub f hf)).1
  · unfold Before memheapSize at hyn
    omega
  · intro f hf _
    rw [hkeep f hf]
    refine ⟨h.coalesced f hf, ?_⟩
    intro heq
    rw [← heq] at hyb
    exact hyb (h.next_mem (h.sub f hf))
  · intro b
    unfold Busy
    rw [hmem b]
    tauto

/-- A free block is taken as a whole. -/
lemma Shape.take (hfs : fs = l ++ x :: r) :
    Shape (put (detachFree m x) x .magic (memheapMagic ||| memheapUsed)) addr fh lo hi bs (l ++ r) ∧
      freeBytes (put (detachFree m x) x .magic (memheapMagic ||| memheapUsed)) (l ++ r) +
        memitemSize m x = freeBytes m fs ∧
      get (put (detachFree m x) x .magic (memheapMagic ||| memheapUsed)) x .next = get m x .next ∧
      ∀ b, Busy bs (l ++ r) hi b ↔ b = x ∨ Busy bs fs hi b := by
  subst hfs
  have hmem := mem_without h.fs_nodup
  have hx : x ∈ l ++ x :: r := by simp
  have hxb := h.sub x hx
  have hin : ∀ b ∈ bs, b ∈ fh :: bs := fun b hb => List.mem_cons_of_mem fh hb
  obtain ⟨hdet, hkeep⟩ := h.lists.detached
  have hnext : ∀ j ∈ fh :: bs,
      get (put (detachFree m x) x .magic (memheapMagic ||| memheapUsed)) j .next = get m j .next := by
    intro j hj
    rw [get_put_mem h.lists.apart (hin x hxb) hj, if_neg (by simp)]
    exact hkeep j hj .next (by decide) (by decide)
  have hkeep' : ∀ f ∈ l ++ r,
      get (put (detachFree m x) x .magic (memheapMagic ||| memheapUsed)) f .next = get m f .next :=
    fun f hf => hnext f (hin f (h.sub f ((hmem f).mp hf).1))
  refine ⟨⟨hdet.putMagic (hin x hxb) ?_ ?_, h.tiles, h.pool, ?_, ?_, ?_⟩, ?_, hnext x (hin x hxb), ?_⟩
  · intro b _ hbx
    exact ⟨fun hb => absurd hbx ((hmem b).mp hb).2, fun _ => rfl⟩
  · intro b _ hbx
    rw [hmem b]
    exact and_iff_left hbx
  · intro f hf
    exact h.sub f ((hmem f).mp hf).1
  · intro hhi
    exact h.last_used ((hmem hi).mp hhi).1
  · intro f hf
    rw [hkeep' f hf]
    intro hn
    exact h.coalesced f ((hmem f).mp hf).1 ((hmem _).mp hn).1
  · rw [freeBytes_congr hkeep', freeBytes_middle, Nat.add_comm]
  · intro b
    have hxhi : x ≠ hi := fun heq => h.last_used (heq ▸ hx)
    unfold Busy
    rw [hmem b]
    by_cases hbx : b = x
    · rw [hbx]
      simp [hxb, hxhi]
    · simp [hbx]

/-- The beginning of a free block is taken. -/
lemma Shape.takeSplit (hbs : bs = pre ++ x :: n :: post) (hfs : fs = l ++ x :: r) (hxy : Before x y)
    (hyn : Before y n) :
    ∃ m', m' = put (insertFree (detachFree (splitBlock addr m x y) x) fh y) x .magic
        (memheapMagic ||| memheapUsed) ∧
      Shape m' addr fh lo hi (pre ++ x :: y :: n :: post) (y :: (l ++ r)) ∧
      freeBytes m' (y :: (l ++ r)) + (y - x) = freeBytes m fs ∧ get m' x .next = y ∧
      ∀ b, Busy (pre ++ x :: y :: n :: post) (y :: (l ++ r)) hi b ↔ b = x ∨ Busy bs fs hi b := by
  subst hbs hfs
  obtain ⟨m', hm'⟩ : ∃ m', m' = put (insertFree (detachFree (splitBlock addr m x y) x) fh y) x .magic
    (memheapMagic ||| memheapUsed) := ⟨_, rfl⟩
  refine ⟨m', hm', ?_⟩
  have htiles := h.tiles.insert hxy hyn
  have hapart := htiles.apart h.pool.outside
  have hmem := mem_behind htiles.nodup
  have hmem' := mem_without h.fs_nodup
  have hyb : y ∉ pre ++ x :: n :: post := fun hy => ((hmem y).mp hy).2 rfl
  have hyf : y ∉ l ++ x :: r := fun hy => hyb (h.sub y hy)
  have hyfh : y ≠ fh := htiles.ne_header h.pool (by simp)
  have hx : x ∈ fh :: (pre ++ x :: y :: n :: post) := List.mem_cons_of_mem fh (by simp)
  have hy : y ∈ fh :: (pre ++ x :: y :: n :: post) := List.mem_cons_of_mem fh (by simp)
  have hin : ∀ b ∈ pre ++ x :: n :: post, b ∈ fh :: (pre ++ x :: y :: n :: post) :=
    fun b hb => List.mem_cons_of_mem fh ((hmem b).mp hb).1
  have hbase : Lists m addr (fh :: (pre ++ x :: y :: n :: post)) (pre ++ x :: n :: post)
      (fh :: (l ++ x :: r)) (· ∈ l ++ x :: r) := by
    refine h.lists.rebase hapart hin ?_ fun b _ => Iff.rfl
    intro w hw
    rcases List.mem_cons.mp hw with rfl | hw
    · exact List.mem_cons_self ..
    · exact hin w (h.sub w hw)
  obtain ⟨hsplit, hnext₁⟩ := hbase.split hy hyb
  obtain ⟨hdet, hkeep₂⟩ := hsplit.detached
  obtain ⟨hins, hkeep₃⟩ := hdet.inserted hy (by
    intro hmemy
    rcases List.mem_cons.mp hmemy with heq | hmemy
    · exact hyfh heq
    · exact hyf ((hmem' y).mp hmemy).1)
  have hnext : ∀ j ∈ fh :: (pre ++ x :: y :: n :: post), get m' j .next =
      if j = x then y else if j = y then get m x .next else get m j .next := by
    intro j hj
    rw [hm', get_put_mem hapart hx hj, if_neg (by simp), hkeep₃ j hj .next (by decide) (by decide),
      hkeep₂ j hj .next (by decide) (by decide), hnext₁ j hj]
  obtain ⟨hxn, hsx, hltxn, hnhi⟩ := h.lists.memitemSize_eq h.tiles h.pool
  have hnf : n ∉ l ++ x :: r := hxn ▸ h.coalesced x (by simp)
  have hyx : y ≠ x := by
    rintro rfl
    exact hyb (by simp)
  have hynext : get m' y .next = n := by
    rw [hnext y hy, if_neg hyx, if_pos rfl, hxn]
  have hkeep : ∀ f ∈ l ++ r, get m' f .next = get m f .next := by
    intro f hf
    obtain ⟨hf, hfx⟩ := (hmem' f).mp hf
    have hfy : f ≠ y := fun heq => hyf (heq ▸ hf)
    rw [hnext f (hin f (h.sub f hf)), if_neg hfx, if_neg hfy]
  have hxhi : x ≠ hi := fun heq => h.last_used (heq ▸ (by simp))
  refine ⟨⟨?_, htiles, h.pool, ?_, ?_, ?_⟩, ?_, (hnext x hx).trans (if_pos rfl), ?_⟩
  · rw [hm']
    refine hins.putMagic hx ?_ ?_
    · intro b _ hbx
      rw [hbx]
      refine ⟨fun hxf => ?_, fun _ => rfl⟩
      rcases List.mem_cons.mp hxf with heq | hxf
      · exact absurd heq.symm hyx
      · exact absurd rfl ((hmem' x).mp hxf).2
    · intro b _ hbx
      rw [List.mem_cons, hmem' b]
      exact or_congr_right (and_iff_left hbx)
  · intro f hf
    rcases List.mem_cons.mp hf with rfl | hf
    · simp
    · exact ((hmem f).mp (h.sub f ((hmem' f).mp hf).1)).1
  · intro hhi
    rcases List.mem_cons.mp hhi with heq | hhi
    · unfold Before memheapSize at hyn
      omega
    · exact h.last_used ((hmem' hi).mp hhi).1
  · intro f hf hn
    rcases List.mem_cons.mp hf with rfl | hf
    · rw [hynext] at hn
      rcases List.mem_cons.mp hn with heq | hn
      · rw [← heq] at hyb
        exact hyb (by simp)
      · exact hnf ((hmem' n).mp hn).1
    · rw [hkeep f hf] at hn
      have hf' := ((hmem' f).mp hf).1
      rcases List.mem_cons.mp hn with heq | hn
      · rw [← heq] at hyb
        exact hyb (h.next_mem (h.sub f hf'))
      · exact h.coalesced f hf' ((hmem' _).mp hn).1
  · simp only [freeBytes]
    rw [Memheap.memitemSize_eq hynext hyn (h.pool.lt_word hnhi), freeBytes_congr hkeep,
      freeBytes_middle, hsx]
    unfold Before at hxy hyn hltxn
    omega
  · intro b
    unfold Busy
    rw [List.mem_cons, hmem' b, hmem b]
    by_cases hbx : b = x
    · rw [hbx]
      simp [hxhi, hyx.symm]
    · by_cases hby : b = y
      · rw [hby]
        simp [hyx]
      · simp [hbx, hby]

end

section

variable (h : Half m addr fh lo hi hs bs fs c)
include h

lemma Half.fs_nodup : fs.Nodup := (List.nodup_cons.mp h.lists.frees_nodup).2

/-- The block behind, which is free, becomes a part of the block. -/
lemma Half.mergeRight (hbs : bs = pre ++ c :: x :: n :: post) (hfs : fs = l ++ x :: r) :
    ∃ m', m' = removeFree (mergeNext m c x) x ∧
      Half m' addr fh lo hi hs (pre ++ c :: n :: post) (l ++ r) c ∧
      get m' c .next = n ∧ n ∉ l ++ r ∧ (c ∈ l ++ r ↔ c ∈ fs) ∧
      halfBytes m' (l ++ r) c = halfBytes m fs c + memheapSize ∧
      (∀ j ∈ hs, j ≠ c → get m' j .next = get m j .next) ∧
      ∀ b, Busy (pre ++ c :: n :: post) (l ++ r) hi b ∧ b ≠ c ↔ Busy bs fs hi b ∧ b ≠ c := by
  subst hbs hfs
  obtain ⟨m', hm'⟩ : ∃ m', m' = removeFree (mergeNext m c x) x := ⟨_, rfl⟩
  refine ⟨m', hm', ?_⟩
  have hnd := h.tiles.nodup
  have hmem := mem_behind hnd
  have hmem' := mem_without h.fs_nodup
  have hx : x ∈ l ++ x :: r := by simp
  have hcx : c ≠ x := ((hmem c).mp (by simp)).2
  obtain ⟨hcn, hsc, hltcx, -⟩ := h.lists.memitemSize_eq h.tiles h.pool
  have hl' := h.lists
  have ht' := h.tiles
  rw [List.append_cons] at hl' ht'
  obtain ⟨hxn, hsx, hltxn, hnhi⟩ := hl'.memitemSize_eq ht' h.pool
  obtain ⟨hnf, hnc⟩ := h.coalesced x hx hcx.symm
  rw [hxn] at hnf hnc
  obtain ⟨hmrg, hc⟩ := h.lists.merged
  obtain ⟨hrem, hkeep⟩ := hmrg.removed
  rw [← hm'] at hrem hkeep
  have hnext : ∀ j ∈ hs, get m' j .next = if j = c then n else get m j .next := by
    intro j hj
    rw [hkeep j hj .next (by decide) (by decide), hc.nextField (by decide) hj, hxn]
  have hin : ∀ f ∈ l ++ r, f ∈ hs := fun f hf => h.lists.frees_sub f (by
    exact List.mem_cons_of_mem fh ((hmem' f).mp hf).1)
  have hcs : c ∈ hs := h.lists.blocks_sub c h.block
  have hnextc : get m' c .next = n := (hnext c hcs).trans (if_pos rfl)
  have hsame : ∀ f ∈ l ++ r, f ≠ c → get m' f .next = get m f .next := by
    intro f hf hfc
    rw [hnext f (hin f hf), if_neg hfc]
  refine ⟨⟨hrem.rebase h.lists.apart hrem.blocks_sub hrem.frees_sub ?_, h.tiles.remove, h.pool, ?_, ?_,
    by simp, h.not_last, ?_⟩, hnextc, ?_, ?_, ?_, fun j hj hjc => ?_, ?_⟩
  · intro b hb
    rw [hmem' b]
    exact or_congr_right (and_iff_left ((hmem b).mp hb).2)
  · intro f hf
    obtain ⟨hf, hfx⟩ := (hmem' f).mp hf
    exact (hmem f).mpr ⟨h.sub f hf, hfx⟩
  · intro hhi
    exact h.last_used ((hmem' hi).mp hhi).1
  · intro f hf hfc
    rw [hsame f hf hfc]
    obtain ⟨hno, hne⟩ := h.coalesced f ((hmem' f).mp hf).1 hfc
    exact ⟨fun hn => hno ((hmem' _).mp hn).1, hne⟩
  · intro hn
    exact hnf ((hmem' n).mp hn).1
  · rw [hmem' c]
    exact and_iff_left hcx
  · have hrest : freeBytes m ((l ++ x :: r).erase c) =
        memitemSize m x + freeBytes m ((l ++ r).erase c) := by
      have hperm : List.Perm ((l ++ x :: r).erase c) ((x :: (l ++ r)).erase c) :=
        List.perm_middle.erase c
      rw [freeBytes_perm hperm, List.erase_cons_tail (by simpa using hcx.symm)]
      rfl
    have hnd' : (l ++ r).Nodup := (List.nodup_cons.mp (List.perm_middle.nodup_iff.mp h.fs_nodup)).2
    have hrest' : freeBytes m' ((l ++ r).erase c) = freeBytes m ((l ++ r).erase c) := by
      apply freeBytes_congr
      intro f hf
      obtain ⟨hfc, hf⟩ := (List.Nodup.mem_erase_iff hnd').mp hf
      exact hsame f hf hfc
    unfold halfBytes
    rw [hrest, hrest', Memheap.memitemSize_eq hnextc (hltcx.trans hltxn) (h.pool.lt_word hnhi), hsc, hsx]
    unfold Before at hltcx hltxn
    omega
  · rw [hnext j hj, if_neg hjc]
  · intro b
    unfold Busy
    rw [hmem b, hmem' b]
    constructor
    · rintro ⟨⟨⟨hb, hbx⟩, hbf, hbhi⟩, hbc⟩
      exact ⟨⟨hb, fun hf => hbf ⟨hf, hbx⟩, hbhi⟩, hbc⟩
    · rintro ⟨⟨hb, hbf, hbhi⟩, hbc⟩
      exact ⟨⟨⟨hb, fun heq => hbf (heq ▸ hx)⟩, fun hf => hbf hf.1, hbhi⟩, hbc⟩

/-- The block is put into the free list. -/
lemma Half.insert (hcf : c ∉ fs) (hn : get m c .next ∉ fs)
    (hl : Lists m' addr hs bs (fh :: c :: fs) (fun b => b = c ∨ b ∈ fs)) (hk : KeepsBlocks hs m m') :
    Shape m' addr fh lo hi bs (c :: fs) ∧ freeBytes m' (c :: fs) = halfBytes m fs c ∧
      ∀ b, Busy bs (c :: fs) hi b ↔ Busy bs fs hi b ∧ b ≠ c := by
  have hnext : ∀ b ∈ bs, get m' b .next = get m b .next :=
    fun b hb => hk b (h.lists.blocks_sub b hb) .next (by decide) (by decide)
  have hnc : get m c .next ≠ c := by
    obtain ⟨pre, n, post, rfl⟩ := h.tiles.exists_next h.block h.not_last
    obtain ⟨hcn, -, hlt, -⟩ := h.lists.memitemSize_eq h.tiles h.pool
    rw [hcn]
    unfold Before memheapSize at hlt
    omega
  refine ⟨⟨hl.rebase (h.tiles.apart h.pool.outside) ?_ ?_ ?_, h.tiles, h.pool, ?_, ?_, ?_⟩, ?_, ?_⟩
  · intro b hb
    exact List.mem_cons_of_mem fh hb
  · intro w hw
    rcases List.mem_cons.mp hw with rfl | hw
    · exact List.mem_cons_self ..
    · rcases List.mem_cons.mp hw with rfl | hw
      · exact List.mem_cons_of_mem fh h.block
      · exact List.mem_cons_of_mem fh (h.sub w hw)
  · intro b _
    exact List.mem_cons
  · intro f hf
    rcases List.mem_cons.mp hf with rfl | hf
    · exact h.block
    · exact h.sub f hf
  · intro hhi
    rcases List.mem_cons.mp hhi with heq | hhi
    · exact h.not_last heq.symm
    · exact h.last_used hhi
  · intro f hf hmem
    rcases List.mem_cons.mp hf with rfl | hf
    · rw [hnext f h.block] at hmem
      rcases List.mem_cons.mp hmem with heq | hmem
      · exact hnc heq
      · exact hn hmem
    · have hfc : f ≠ c := fun heq => hcf (heq ▸ hf)
      obtain ⟨hno, hne⟩ := h.coalesced f hf hfc
      rw [hnext f (h.sub f hf)] at hmem
      rcases List.mem_cons.mp hmem with heq | hmem
      · exact hne heq
      · exact hno hmem
  · unfold halfBytes
    simp only [freeBytes]
    rw [List.erase_of_not_mem hcf, memitemSize_congr (hnext c h.block),
      freeBytes_congr fun f hf => hnext f (h.sub f hf)]
  · intro b
    unfold Busy
    rw [List.mem_cons]
    tauto

/-- The block is in the free list already. -/
lemma Half.done (hcf : c ∈ fs) (hn : get m c .next ∉ fs) :
    Shape m addr fh lo hi bs fs ∧ freeBytes m fs = halfBytes m fs c := by
  refine ⟨⟨h.lists.rebase (h.tiles.apart h.pool.outside) ?_ ?_ ?_, h.tiles, h.pool, h.sub, h.last_used,
    ?_⟩, freeBytes_erase hcf⟩
  · intro b hb
    exact List.mem_cons_of_mem fh hb
  · intro w hw
    rcases List.mem_cons.mp hw with rfl | hw
    · exact List.mem_cons_self ..
    · exact List.mem_cons_of_mem fh (h.sub w hw)
  · intro b _
    constructor
    · exact .inr
    · rintro (rfl | hb)
      · exact hcf
      · exact hb
  · intro f hf
    by_cases hfc : f = c
    · rw [hfc]
      exact hn
    · exact (h.coalesced f hf hfc).1

end

end N32L43x.Memheap
