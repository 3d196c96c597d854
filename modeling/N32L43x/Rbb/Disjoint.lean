import N32L43x.Lib.Run
import N32L43x.Rbb.Lists

/-!
The blocks of a ring block buffer: where in the buffer they lie.
-/

namespace N32L43x.Rbb

open N32L43x.Lib.Links N32L43x.Lib.Run

variable {rbb rbb' : RtRbb} {bs fs l r : List ℕ} {n : ℕ}

/-! ### Where the blocks lie -/

/-- The blocks follow each other in the buffer. -/
def InOrder (blkSet : ℕ → RtRbbBlk) (bs : List ℕ) : Prop :=
  bs.Pairwise fun i j => (blkSet i).finish ≤ (blkSet j).buf

instance (blkSet : ℕ → RtRbbBlk) (bs : List ℕ) : Decidable (InOrder blkSet bs) :=
  inferInstanceAs (Decidable (bs.Pairwise fun i j => (blkSet i).finish ≤ (blkSet j).buf))

/-- The blocks lie in the buffer, in order up to the end of the buffer and from its start again. -/
structure Layout (blkSet : ℕ → RtRbbBlk) (bufSize : ℕ) (bs : List ℕ) : Prop where
  split : ∃ l r, bs = l ++ r ∧ InOrder blkSet l ∧ InOrder blkSet r ∧
    ∀ i ∈ r, ∀ j ∈ l, (blkSet i).finish ≤ (blkSet j).buf
  inside : ∀ i ∈ bs, (blkSet i).finish ≤ bufSize

section Layout

variable {blkSet blkSet' : ℕ → RtRbbBlk} {bufSize head tail : ℕ}

lemma InOrder.congr (h : InOrder blkSet bs) (hsame : ∀ i ∈ bs, area (blkSet' i) = area (blkSet i)) :
    InOrder blkSet' bs := by
  refine h.imp_of_mem fun {i j} hi hj hij => ?_
  have hareai := hsame i hi
  have hareaj := hsame j hj
  simp only [area, Prod.mk.injEq] at hareai hareaj
  unfold RtRbbBlk.finish at *
  rw [hareai.2.1, hareai.2.2, hareaj.2.2]
  exact hij

lemma finish_congr {b b' : RtRbbBlk} (h : area b' = area b) : b'.finish = b.finish ∧ b'.buf = b.buf := by
  simp only [area, Prod.mk.injEq] at h
  unfold RtRbbBlk.finish
  rw [h.2.1, h.2.2]
  exact ⟨rfl, rfl⟩

lemma Layout.congr (h : Layout blkSet bufSize bs) (hsame : ∀ i ∈ bs, area (blkSet' i) = area (blkSet i)) :
    Layout blkSet' bufSize bs := by
  obtain ⟨l, r, rfl, hl, hr, hlr⟩ := h.split
  refine ⟨⟨l, r, rfl, hl.congr fun i hi => hsame i (List.mem_append_left _ hi),
    hr.congr fun i hi => hsame i (List.mem_append_right _ hi), fun i hi j hj => ?_⟩, fun i hi => ?_⟩
  · rw [(finish_congr (hsame i (List.mem_append_right _ hi))).1,
      (finish_congr (hsame j (List.mem_append_left _ hj))).2]
    exact hlr i hi j hj
  · rw [(finish_congr (hsame i hi)).1]
    exact h.inside i hi

/-- A block is taken out. -/
lemma Layout.remove (h : Layout blkSet bufSize bs) {bs' : List ℕ} (hsub : bs'.Sublist bs) :
    Layout blkSet bufSize bs' := by
  obtain ⟨l, r, rfl, hl, hr, hlr⟩ := h.split
  obtain ⟨l', r', rfl, hl', hr'⟩ := List.sublist_append_iff.mp hsub
  refine ⟨⟨l', r', rfl, hl.sublist hl', hr.sublist hr', fun i hi j hj => ?_⟩, fun i hi => ?_⟩
  · exact hlr i (hr'.subset hi) j (hl'.subset hj)
  · exact h.inside i (hsub.subset hi)

lemma buf_le_finish (b : RtRbbBlk) : b.buf ≤ b.finish := Nat.le_add_right _ _

/-- The first block starts first. -/
lemma InOrder.head_le (h : InOrder blkSet bs) (hhead : bs.head? = some head) {i : ℕ} (hi : i ∈ bs) :
    (blkSet head).buf ≤ (blkSet i).buf := by
  cases bs with
  | nil => cases hi
  | cons m bs =>
    cases hhead
    rcases List.mem_cons.mp hi with rfl | hi
    · exact le_rfl
    · exact (buf_le_finish _).trans ((List.pairwise_cons.mp h).1 i hi)

/-- The last block ends last. -/
lemma InOrder.le_tail (h : InOrder blkSet bs) (htail : bs.getLast? = some tail) {i : ℕ} (hi : i ∈ bs) :
    (blkSet i).finish ≤ (blkSet tail).finish := by
  rcases List.eq_nil_or_concat bs with rfl | ⟨l, t, rfl⟩
  · cases hi
  · rw [List.concat_eq_append] at *
    rw [List.getLast?_append] at htail
    obtain rfl : t = tail := Option.some.inj htail
    rcases List.mem_append.mp hi with hi | hi
    · have hlt := (List.pairwise_append.mp h).2.2 i hi t List.mem_cons_self
      exact hlt.trans (buf_le_finish _)
    · rw [List.mem_singleton.mp hi]

lemma InOrder.snoc (h : InOrder blkSet bs) {new : ℕ}
    (hnew : ∀ i ∈ bs, (blkSet i).finish ≤ (blkSet new).buf) : InOrder blkSet (bs ++ [new]) := by
  refine List.pairwise_append.mpr ⟨h, List.pairwise_singleton _ _, fun i hi j hj => ?_⟩
  rw [List.mem_singleton.mp hj]
  exact hnew i hi

/-- A block behind the last one of blocks that are in order. -/
lemma Layout.snoc_of_inOrder (h : Layout blkSet bufSize bs) (horder : InOrder blkSet bs)
    (htail : bs.getLast? = some tail) {new : ℕ} (hbuf : (blkSet new).buf = (blkSet tail).finish)
    (hfit : (blkSet new).finish ≤ bufSize) : Layout blkSet bufSize (bs ++ [new]) := by
  refine ⟨⟨bs ++ [new], [], (List.append_nil _).symm, horder.snoc fun i hi => ?_, List.Pairwise.nil,
    fun i hi => absurd hi List.not_mem_nil⟩, fun i hi => ?_⟩
  · rw [hbuf]
    exact horder.le_tail htail hi
  · rcases List.mem_append.mp hi with hi | hi
    · exact h.inside i hi
    · rw [List.mem_singleton.mp hi]
      exact hfit

/-- A block at the start of the buffer. -/
lemma Layout.snoc_of_start (h : Layout blkSet bufSize bs) (horder : InOrder blkSet bs)
    (hhead : bs.head? = some head) {new : ℕ} (hfit : (blkSet new).finish ≤ (blkSet head).buf)
    (hin : (blkSet new).finish ≤ bufSize) : Layout blkSet bufSize (bs ++ [new]) := by
  refine ⟨⟨bs, [new], rfl, horder, List.pairwise_singleton _ _, fun i hi j hj => ?_⟩, fun i hi => ?_⟩
  · rw [List.mem_singleton.mp hi]
    exact hfit.trans (horder.head_le hhead hj)
  · rcases List.mem_append.mp hi with hi | hi
    · exact h.inside i hi
    · rw [List.mem_singleton.mp hi]
      exact hin

/-- A block behind the last one, before the first one. -/
lemma Layout.snoc_of_wrapped (h : Layout blkSet bufSize bs) (horder : ¬ InOrder blkSet bs)
    (hhead : bs.head? = some head) (htail : bs.getLast? = some tail) {new : ℕ}
    (hbuf : (blkSet new).buf = (blkSet tail).finish) (hfit : (blkSet new).finish ≤ (blkSet head).buf) :
    Layout blkSet bufSize (bs ++ [new]) := by
  obtain ⟨l, r, rfl, hl, hr, hlr⟩ := h.split
  cases l with
  | nil => exact absurd hr horder
  | cons m l =>
    cases hhead
    rcases List.eq_nil_or_concat r with rfl | ⟨r, t, rfl⟩
    · rw [List.append_nil] at horder
      exact absurd hl horder
    · rw [List.concat_eq_append] at *
      rw [List.getLast?_append, List.getLast?_append] at htail
      obtain rfl : t = tail := Option.some.inj htail
      have hlast : (r ++ [t]).getLast? = some t := by
        rw [List.getLast?_append]
        rfl
      refine ⟨⟨head :: l, r ++ [t] ++ [new], by rw [List.append_assoc], hl, hr.snoc fun i hi => ?_,
        fun i hi j hj => ?_⟩, fun i hi => ?_⟩
      · rw [hbuf]
        exact hr.le_tail hlast hi
      · rcases List.mem_append.mp hi with hi | hi
        · exact hlr i hi j hj
        · rw [List.mem_singleton.mp hi]
          exact hfit.trans (hl.head_le rfl hj)
      · rcases List.mem_append.mp hi with hi | hi
        · exact h.inside i hi
        · rw [List.mem_singleton.mp hi]
          exact hfit.trans ((buf_le_finish _).trans (h.inside head (List.mem_append_left _ List.mem_cons_self)))

/-- If the blocks are not in order, the last one ends before the first one. -/
lemma Layout.tail_le_head (h : Layout blkSet bufSize bs) (horder : ¬ InOrder blkSet bs)
    (hhead : bs.head? = some head) (htail : bs.getLast? = some tail) :
    (blkSet tail).finish ≤ (blkSet head).buf := by
  obtain ⟨l, r, rfl, hl, hr, hlr⟩ := h.split
  cases l with
  | nil => exact absurd hr horder
  | cons m l =>
    cases hhead
    rcases List.eq_nil_or_concat r with rfl | ⟨r, t, rfl⟩
    · rw [List.append_nil] at horder
      exact absurd hl horder
    · rw [List.concat_eq_append] at *
      rw [List.getLast?_append, List.getLast?_append] at htail
      obtain rfl : t = tail := Option.some.inj htail
      exact hlr t (List.mem_append_right _ List.mem_cons_self) head List.mem_cons_self

end Layout

/-! ### The invariant -/

/-- What holds of a buffer between the calls. -/
structure Inv (s : System) (fs : List ℕ) : Prop where
  lists : Lists s.rbb s.live fs
  used : ∀ i ∈ s.live, (s.rbb.blkSet i).status ≠ .unused
  unused : ∀ i ∈ fs, (s.rbb.blkSet i).status = .unused
  layout : Layout s.rbb.blkSet s.rbb.bufSize s.live
  size : s.rbb.bufSize < 0x100000000


variable {s s' : System}

lemma Inv.base (h : Inv s fs) : Base s fs := ⟨h.lists, h.used, h.unused⟩

lemma Base.inv (h : Base s fs) (hlayout : Layout s.rbb.blkSet s.rbb.bufSize s.live)
    (hsize : s.rbb.bufSize < 0x100000000) : Inv s fs :=
  ⟨h.lists, h.used, h.unused, hlayout, hsize⟩

lemma addrSub_eq {a b : ℕ} (ha : a < 0x100000000) (hb : b ≤ a) : addrSub a b = a - b := by
  unfold addrSub
  omega

/-- A block that is placed where the layout allows it. -/
lemma Inv.place (h : Inv s (n :: fs)) {buf blkSize : ℕ} (hblk : blkSize < 0x1000000)
    (hlayout : ∀ blkSet : ℕ → RtRbbBlk, Layout blkSet s.rbb.bufSize s.live →
      (∀ i ∈ s.live, area (blkSet i) = area (s.rbb.blkSet i)) → (blkSet n).buf = buf →
      (blkSet n).finish = buf + blkSize → Layout blkSet s.rbb.bufSize (s.live ++ [n])) :
    Inv ⟨place { s.rbb with freeList := nxt s.rbb n } n buf blkSize, s.live ++ [n]⟩ fs := by
  obtain ⟨hlive, -⟩ := h.lists.notMem_of_free
  obtain ⟨rbb', hplace⟩ : ∃ rbb', Rbb.place { s.rbb with freeList := nxt s.rbb n } n buf blkSize = rbb' :=
    ⟨_, rfl⟩
  obtain ⟨-, hnew, hother, hsize⟩ := place_spec h.lists buf blkSize hplace
  rw [hplace]
  rw [Nat.mod_eq_of_lt hblk] at hnew
  simp only [area, Prod.mk.injEq] at hnew
  obtain ⟨-, hblkSize, hbuf⟩ := hnew
  have hold : ∀ i ∈ s.live, area (rbb'.blkSet i) = area (s.rbb.blkSet i) :=
    fun i hi => hother i fun heq => hlive (heq ▸ hi)
  refine (h.base.place buf blkSize hplace).inv ?_ ?_
  · show Layout rbb'.blkSet rbb'.bufSize _
    rw [hsize]
    refine hlayout rbb'.blkSet (h.layout.congr hold) hold hbuf ?_
    unfold RtRbbBlk.finish
    rw [hbuf, hblkSize]
  · show rbb'.bufSize < _
    rw [hsize]
    exact h.size

/-- The code takes blocks that are not in order for blocks that are. -/
def Misled (s : System) : Prop :=
  ¬ InOrder s.rbb.blkSet s.live ∧ ∃ head ∈ s.rbb.blkList, ∃ tail ∈ s.rbb.tail,
    (s.rbb.blkSet head).buf ≤ (s.rbb.blkSet tail).buf

/-- The condition on a call. -/
def Within (s : System) (a : Action) : Prop :=
  Asserted s a ∧ match a with
    | .alloc blkSize => blkSize ≠ 0 → ¬ Misled s
    | _ => True

/-- **`rt_rbb_blk_alloc`.** -/
lemma Inv.alloc (h : Inv s fs) {blkSize : ℕ} (hblk : blkSize < 0x1000000)
    (hmisled : blkSize ≠ 0 → ¬ Misled s) :
    ∃ s' fs', step s (.alloc blkSize) = some s' ∧ Inv s' fs' := by
  have hsize := h.size
  have hstep : ∀ {rbb' : RtRbb} {res : Option ℕ}, rtRbbBlkAlloc s.rbb blkSize = some (rbb', res) →
      step s (.alloc blkSize) = some ⟨rbb', s.live ++ res.toList⟩ := by
    intro rbb' res heq
    show (rtRbbBlkAlloc s.rbb blkSize).map _ = _
    rw [heq]
    rfl
  cases fs with
  | nil =>
    have hfind := h.lists.findEmptyBlkInSet_nil
    have halloc : rtRbbBlkAlloc s.rbb blkSize = some (s.rbb, none) := by
      unfold rtRbbBlkAlloc
      rw [hfind]
    refine ⟨_, [], hstep halloc, ?_⟩
    rw [Option.toList_none, List.append_nil]
    exact h
  | cons n fs =>
    have hfind := h.lists.findEmptyBlkInSet_cons
    -- there is no room, and the block is given back
    have hback : Inv ⟨insertFree { s.rbb with freeList := nxt s.rbb n } n, s.live ++ []⟩ (n :: fs) := by
      obtain ⟨harea, -⟩ := insertFree_spec { s.rbb with freeList := nxt s.rbb n } n
      rw [List.append_nil]
      exact h.base.giveBack.inv (h.layout.congr fun i _ => harea i) hsize
    cases hlive : s.live with
    | nil =>
      have hblkList : s.rbb.blkList = none := by
        have hlinks := h.lists.blk
        rw [hlive] at hlinks
        exact hlinks
      by_cases hfit : blkSize ≤ s.rbb.bufSize
      · have halloc : rtRbbBlkAlloc s.rbb blkSize =
            some (Rbb.place { s.rbb with freeList := nxt s.rbb n } n 0 blkSize, some n) :=
          (rtRbbBlkAlloc_of_empty hfind hblkList).trans (if_pos hfit)
        refine ⟨_, fs, hstep halloc, h.place hblk fun blkSet hlayout _ hbuf hfinish => ?_⟩
        rw [hlive]
        refine ⟨⟨[n], [], rfl, List.pairwise_singleton _ _, List.Pairwise.nil,
          fun i hi => absurd hi List.not_mem_nil⟩, fun i hi => ?_⟩
        rw [List.mem_singleton.mp hi, hfinish, Nat.zero_add]
        exact hfit
      · have halloc : rtRbbBlkAlloc s.rbb blkSize =
            some (insertFree { s.rbb with freeList := nxt s.rbb n } n, none) :=
          (rtRbbBlkAlloc_of_empty hfind hblkList).trans (if_neg hfit)
        exact ⟨_, _, hstep halloc, hback⟩
    | cons head bs =>
      have hhead : s.live.head? = some head := by
        rw [hlive]
        rfl
      have hblkList : s.rbb.blkList = some head := h.lists.blk.head.trans hhead
      obtain ⟨tail, htail⟩ : ∃ tail, s.live.getLast? = some tail := by
        cases hlast : s.live.getLast? with
        | none =>
          rw [List.getLast?_eq_none_iff.mp hlast] at hlive
          cases hlive
        | some tail => exact ⟨tail, rfl⟩
      have htailEq : s.rbb.tail = some tail := h.lists.tail.trans htail
      have htailIn : (s.rbb.blkSet tail).finish ≤ s.rbb.bufSize :=
        h.layout.inside tail (List.mem_of_getLast? htail)
      have hheadIn : (s.rbb.blkSet head).buf ≤ s.rbb.bufSize :=
        (buf_le_finish _).trans (h.layout.inside head (List.mem_of_head? hhead))
      have hempty1 : addrSub s.rbb.bufSize (s.rbb.blkSet tail).finish =
          s.rbb.bufSize - (s.rbb.blkSet tail).finish := addrSub_eq hsize htailIn
      have hempty2 : addrSub (s.rbb.blkSet head).buf 0 = (s.rbb.blkSet head).buf - 0 :=
        addrSub_eq (hheadIn.trans_lt hsize) (Nat.zero_le _)
      by_cases hle : (s.rbb.blkSet head).buf ≤ (s.rbb.blkSet tail).buf
      · have hinOrder : blkSize ≠ 0 → InOrder s.rbb.blkSet s.live := by
          intro hne
          by_contra horder
          exact hmisled hne ⟨horder, head, hblkList, tail, htailEq, hle⟩
        by_cases hfit1 : s.rbb.bufSize - (s.rbb.blkSet tail).finish ≥ blkSize
        · have halloc : rtRbbBlkAlloc s.rbb blkSize = some (Rbb.place
              { s.rbb with freeList := nxt s.rbb n } n (s.rbb.blkSet tail).finish blkSize, some n) := by
            refine (rtRbbBlkAlloc_of_head hfind hblkList htailEq).trans ((if_pos hle).trans ?_)
            rw [← hempty1] at hfit1
            exact if_pos hfit1
          refine ⟨_, fs, hstep halloc, h.place hblk fun blkSet hlayout hsame hbuf hfinish => ?_⟩
          have htailSame := finish_congr (hsame tail (List.mem_of_getLast? htail))
          have hheadSame := finish_congr (hsame head (List.mem_of_head? hhead))
          by_cases horder : InOrder s.rbb.blkSet s.live
          · refine hlayout.snoc_of_inOrder (horder.congr hsame) htail (hbuf.trans htailSame.1.symm) ?_
            rw [hfinish]
            omega
          · -- the layout is mistaken, but nothing is placed
            have hzero : blkSize = 0 := by
              by_contra hne
              exact horder (hinOrder hne)
            have horder' : ¬ InOrder blkSet s.live := fun hin =>
              horder (hin.congr fun i hi => (hsame i hi).symm)
            refine hlayout.snoc_of_wrapped horder' hhead htail (hbuf.trans htailSame.1.symm) ?_
            rw [hfinish, hzero, hheadSame.2, Nat.add_zero]
            exact h.layout.tail_le_head horder hhead htail
        · by_cases hfit2 : (s.rbb.blkSet head).buf - 0 ≥ blkSize
          · have halloc : rtRbbBlkAlloc s.rbb blkSize = some (Rbb.place
                { s.rbb with freeList := nxt s.rbb n } n 0 blkSize, some n) := by
              refine (rtRbbBlkAlloc_of_head hfind hblkList htailEq).trans ((if_pos hle).trans ?_)
              rw [← hempty1] at hfit1
              rw [← hempty2] at hfit2
              exact (if_neg hfit1).trans (if_pos hfit2)
            refine ⟨_, fs, hstep halloc, h.place hblk fun blkSet hlayout hsame hbuf hfinish => ?_⟩
            have hheadSame := finish_congr (hsame head (List.mem_of_head? hhead))
            have horder := hinOrder (by omega)
            refine hlayout.snoc_of_start (horder.congr hsame) hhead ?_ ?_
            · rw [hfinish, hheadSame.2]
              omega
            · rw [hfinish]
              omega
          · have halloc : rtRbbBlkAlloc s.rbb blkSize =
                some (insertFree { s.rbb with freeList := nxt s.rbb n } n, none) := by
              refine (rtRbbBlkAlloc_of_head hfind hblkList htailEq).trans ((if_pos hle).trans ?_)
              rw [← hempty1] at hfit1
              rw [← hempty2] at hfit2
              exact (if_neg hfit1).trans (if_neg hfit2)
            exact ⟨_, _, hstep halloc, hback⟩
      · have horder : ¬ InOrder s.rbb.blkSet s.live := by
          intro hin
          exact hle (hin.head_le hhead (List.mem_of_getLast? htail))
        have hbetween := h.layout.tail_le_head horder hhead htail
        have hempty : addrSub (s.rbb.blkSet head).buf (s.rbb.blkSet tail).finish =
            (s.rbb.blkSet head).buf - (s.rbb.blkSet tail).finish :=
          addrSub_eq (hheadIn.trans_lt hsize) hbetween
        by_cases hfit : (s.rbb.blkSet head).buf - (s.rbb.blkSet tail).finish ≥ blkSize
        · have halloc : rtRbbBlkAlloc s.rbb blkSize = some (Rbb.place
              { s.rbb with freeList := nxt s.rbb n } n (s.rbb.blkSet tail).finish blkSize, some n) := by
            refine (rtRbbBlkAlloc_of_head hfind hblkList htailEq).trans ((if_neg hle).trans ?_)
            rw [← hempty] at hfit
            exact if_pos hfit
          refine ⟨_, fs, hstep halloc, h.place hblk fun blkSet hlayout hsame hbuf hfinish => ?_⟩
          have htailSame := finish_congr (hsame tail (List.mem_of_getLast? htail))
          have hheadSame := finish_congr (hsame head (List.mem_of_head? hhead))
          have horder' : ¬ InOrder blkSet s.live := fun hin =>
            horder (hin.congr fun i hi => (hsame i hi).symm)
          refine hlayout.snoc_of_wrapped horder' hhead htail (hbuf.trans htailSame.1.symm) ?_
          rw [hfinish, hheadSame.2]
          omega
        · have halloc : rtRbbBlkAlloc s.rbb blkSize =
              some (insertFree { s.rbb with freeList := nxt s.rbb n } n, none) := by
            refine (rtRbbBlkAlloc_of_head hfind hblkList htailEq).trans ((if_neg hle).trans ?_)
            rw [← hempty] at hfit
            exact if_neg hfit
          exact ⟨_, _, hstep halloc, hback⟩

/-- The status of a block in use changes. -/
lemma Inv.setStatus (h : Inv s fs) (hn : n ∈ s.live) {status : RtRbbStatus} (hused : status ≠ .unused) :
    Inv ⟨setStatus s.rbb n status, s.live⟩ fs := by
  obtain ⟨hsame, -⟩ := setStatus_spec s.rbb n status
  refine (h.base.setStatus hn hused).inv ?_ h.size
  obtain ⟨l, r, heq, hl, hr, hlr⟩ := h.layout.split
  refine ⟨⟨l, r, heq, hl.imp fun {i j} hij => ?_, hr.imp fun {i j} hij => ?_, fun i hi j hj => ?_⟩,
    fun i hi => ?_⟩
  · rw [(hsame i).2.1, (hsame j).2.2]
    exact hij
  · rw [(hsame i).2.1, (hsame j).2.2]
    exact hij
  · rw [(hsame i).2.1, (hsame j).2.2]
    exact hlr i hi j hj
  · rw [(hsame i).2.1]
    exact h.layout.inside i hi

/-- **`rt_rbb_blk_get`.** -/
lemma Inv.get (h : Inv s fs) : ∃ s', step s .get = some s' ∧ Inv s' fs := by
  rcases h.base.get with hs | ⟨block, hmem, hs⟩
  · exact ⟨s, hs, h⟩
  · exact ⟨_, hs, h.setStatus hmem (by decide)⟩

/-- **`rt_rbb_blk_free`.** -/
lemma Inv.free (h : Inv s fs) (hn : n ∈ s.live) : ∃ s', step s (.free n) = some s' ∧ Inv s' (n :: fs) := by
  obtain ⟨rbb', hs, hbase, hsize, harea⟩ := h.base.free hn
  refine ⟨_, hs, hbase.inv ?_ (hsize.trans_lt h.size)⟩
  show Layout rbb'.blkSet rbb'.bufSize (s.live.erase n)
  rw [hsize]
  exact (h.layout.remove List.erase_sublist).congr harea

/-- **Every call** comes to an end and keeps the invariant. -/
lemma inv_step (h : Inv s fs) {a : Action} (hwithin : Within s a) :
    ∃ s' fs', step s a = some s' ∧ Inv s' fs' := by
  obtain ⟨hasserted, hcond⟩ := hwithin
  cases a with
  | alloc blkSize => exact h.alloc hasserted hcond
  | put block =>
    have hused : (s.rbb.blkSet block).status ≠ .unused := by
      rw [hasserted.2]
      decide
    exact ⟨_, fs, rfl, h.setStatus (h.base.mem_live hasserted.1 hused) (by decide)⟩
  | get =>
    obtain ⟨s', hs, hinv⟩ := h.get
    exact ⟨s', fs, hs, hinv⟩
  | free block =>
    obtain ⟨s', hs, hinv⟩ := h.free (h.base.mem_live hasserted.1 hasserted.2)
    exact ⟨s', _, hs, hinv⟩

/-! ### Every sequence of calls -/

lemma inv_init (bufSize blkMaxNum : ℕ) (blockSet : ℕ → RtRbbBlk) :
    ∃ fs, Inv (System.init bufSize blkMaxNum blockSet) fs := by
  obtain ⟨fs, hbase⟩ := base_init bufSize blkMaxNum blockSet
  obtain ⟨-, -, -, -, hsize, -⟩ :=
    foldl_initBlk ⟨bufSize % 0x100000000, blockSet, blkMaxNum, none, none, none⟩ rfl blkMaxNum
  refine ⟨fs, hbase.inv ⟨⟨[], [], rfl, List.Pairwise.nil, List.Pairwise.nil, fun i hi => ?_⟩,
    fun i hi => ?_⟩ ?_⟩
  · cases hi
  · cases hi
  · show (rtRbbInit _ _ _).bufSize < _
    unfold rtRbbInit
    rw [hsize]
    exact Nat.mod_lt _ (by decide)

/-- The address `addr` is one of the bytes of a block. -/
def Covers (b : RtRbbBlk) (addr : ℕ) : Prop := b.buf ≤ addr ∧ addr < b.buf + b.size

/-- What the buffer is meant to keep. -/
structure Sound (s : System) : Prop where
  inside : ∀ i ∈ s.live, ∀ addr, Covers (s.rbb.blkSet i) addr → addr < s.rbb.bufSize
  disjoint : s.live.Pairwise fun i j =>
    ∀ addr, Covers (s.rbb.blkSet i) addr → ¬ Covers (s.rbb.blkSet j) addr
  blkList : Links (nxt s.rbb) s.rbb.blkList s.live
  tail : s.rbb.tail = s.live.getLast?
  together : ∃ fs, Links (nxt s.rbb) s.rbb.freeList fs ∧ (s.live ++ fs).Perm (List.range s.rbb.blkMaxNum)

lemma not_covers {b b' : RtRbbBlk} (h : b.finish ≤ b'.buf) (addr : ℕ) (hb : Covers b addr) :
    ¬ Covers b' addr := by
  unfold Covers RtRbbBlk.finish at *
  omega

lemma Inv.sound (h : Inv s fs) : Sound s := by
  refine ⟨fun i hi addr haddr => haddr.2.trans_le (h.layout.inside i hi), ?_, h.lists.blk, h.lists.tail,
    fs, h.lists.free, h.lists.perm⟩
  obtain ⟨l, r, heq, hl, hr, hlr⟩ := h.layout.split
  rw [heq]
  refine List.pairwise_append.mpr ⟨hl.imp fun hij => not_covers hij, hr.imp fun hij => not_covers hij,
    fun i hi j hj addr hiaddr hjaddr => ?_⟩
  exact not_covers (hlr j hj i hi) addr hjaddr hiaddr

/-- **Blocks do not overlap** as long as the code is not misled about their order: every sequence of calls
comes to an end, the live blocks are in the buffer and disjoint, they are on `blk_list` in the order of
their allocation, `tail` is the last one, and each descriptor is on one of the two lists. -/
theorem blocks_disjoint (bufSize blkMaxNum : ℕ) (blockSet : ℕ → RtRbbBlk) (as : List Action)
    (hwithin : Along step Within (System.init bufSize blkMaxNum blockSet) as) :
    ∃ s, exec step (System.init bufSize blkMaxNum blockSet) as = some s ∧ Sound s := by
  have hstep : ∀ (s : System) (a : Action), (∃ fs, Inv s fs) → Within s a →
      ∃ s', step s a = some s' ∧ ∃ fs, Inv s' fs := by
    intro s a h hwithin
    obtain ⟨fs, h⟩ := h
    obtain ⟨s', fs', hs, h'⟩ := inv_step h hwithin
    exact ⟨s', hs, fs', h'⟩
  obtain ⟨s, hs, fs, h⟩ := exec_total_of_along hstep as _ (inv_init bufSize blkMaxNum blockSet) hwithin
  exact ⟨s, hs, h.sound⟩

instance (s : System) : Decidable (Misled s) :=
  inferInstanceAs (Decidable (¬ InOrder s.rbb.blkSet s.live ∧ ∃ head ∈ s.rbb.blkList,
    ∃ tail ∈ s.rbb.tail, (s.rbb.blkSet head).buf ≤ (s.rbb.blkSet tail).buf))

instance (s : System) (a : Action) : Decidable (Within s a) :=
  match a with
  | .alloc blkSize =>
    inferInstanceAs (Decidable (Asserted s (.alloc blkSize) ∧ (blkSize ≠ 0 → ¬ Misled s)))
  | .put block => inferInstanceAs (Decidable (Asserted s (.put block) ∧ True))
  | .get => inferInstanceAs (Decidable (Asserted s .get ∧ True))
  | .free block => inferInstanceAs (Decidable (Asserted s (.free block) ∧ True))

/-- Two blocks fill a buffer of ten bytes, and the first one is freed and its bytes are allocated again. -/
def wrapAround : List Action := [.alloc 5, .alloc 5, .put 3, .get, .free 3, .alloc 5]

theorem blocks_disjoint_wrapAround :
    ∃ s, exec step (System.init 10 4 fun _ => ⟨.get, 0, 0, none⟩) wrapAround = some s ∧ Sound s :=
  blocks_disjoint 10 4 (fun _ => ⟨.get, 0, 0, none⟩) wrapAround (by decide +kernel)

/-- A block without bytes is allocated behind it, at the place where the first block starts; the next block
is given the bytes of the first one. -/
theorem blocks_overlap :
    ∃ s ∈ exec step (System.init 10 4 fun _ => ⟨.get, 0, 0, none⟩) (wrapAround ++ [.alloc 0, .alloc 3]),
      ¬ Sound s := by
  have hrun : ∃ s ∈ exec step (System.init 10 4 fun _ => ⟨.get, 0, 0, none⟩)
      (wrapAround ++ [.alloc 0, .alloc 3]), s.live = [2, 3, 1, 0] ∧
        ((s.rbb.blkSet 2).buf = 5 ∧ (s.rbb.blkSet 2).size = 5) ∧
        (s.rbb.blkSet 0).buf = 5 ∧ (s.rbb.blkSet 0).size = 3 := by decide +kernel
  obtain ⟨s, hs, hlive, ⟨hbuf, hsize⟩, hbuf', hsize'⟩ := hrun
  refine ⟨s, hs, fun hsound => ?_⟩
  have hdisjoint := hsound.disjoint
  rw [hlive] at hdisjoint
  have hnot := (List.pairwise_cons.mp hdisjoint).1 0 (by decide) 5
  unfold Covers at hnot
  omega

end N32L43x.Rbb
