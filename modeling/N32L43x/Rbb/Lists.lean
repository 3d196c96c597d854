import Mathlib.Data.List.Nodup
import Mathlib.Data.List.Perm.Basic
import Mathlib.Data.List.Range
import N32L43x.Lib.Links
import N32L43x.Rbb.Defs

/-!
The two lists of a ring block buffer, and what the calls do to them wherever the blocks lie.
-/

namespace N32L43x.Rbb

open N32L43x.Lib.Links

variable {rbb rbb' : RtRbb} {bs fs l r : List ℕ} {n : ℕ}

/-! ### Links -/

def nxt (rbb : RtRbb) (blk : ℕ) : Option ℕ := (rbb.blkSet blk).next

/-- What a block has besides its link. -/
def area (b : RtRbbBlk) : RtRbbStatus × ℕ × ℕ := (b.status, b.size, b.buf)

lemma nxt_setNext_self (rbb : RtRbb) (blk : ℕ) (next : Option ℕ) :
    nxt (setNext rbb (some blk) next) blk = next := by
  unfold nxt setNext setBlk
  simp only [Function.update_self]

lemma nxt_setNext_of_ne (rbb : RtRbb) {node : Option ℕ} {blk : ℕ} (hne : node ≠ some blk)
    (next : Option ℕ) : nxt (setNext rbb node next) blk = nxt rbb blk := by
  unfold nxt setNext
  cases node with
  | none => rfl
  | some m =>
    have hblk : blk ≠ m := by
      rintro rfl
      exact hne rfl
    unfold setBlk
    simp only [Function.update_of_ne hblk]

lemma area_setNext (rbb : RtRbb) (node next : Option ℕ) (blk : ℕ) :
    area ((setNext rbb node next).blkSet blk) = area (rbb.blkSet blk) := by
  unfold setNext
  cases node with
  | none => rfl
  | some m =>
    unfold setBlk
    by_cases hblk : blk = m
    · subst hblk
      simp only [Function.update_self]
      rfl
    · simp only [Function.update_of_ne hblk]

/-- What a change of a link leaves as it is. -/
structure SameLists (rbb rbb' : RtRbb) : Prop where
  bufSize : rbb'.bufSize = rbb.bufSize
  blkMaxNum : rbb'.blkMaxNum = rbb.blkMaxNum
  freeList : rbb'.freeList = rbb.freeList
  tail : rbb'.tail = rbb.tail

lemma sameLists_setNext (rbb : RtRbb) (node next : Option ℕ) : SameLists rbb (setNext rbb node next) := by
  unfold setNext
  cases node with
  | none => exact ⟨rfl, rfl, rfl, rfl⟩
  | some m => exact ⟨rfl, rfl, rfl, rfl⟩

/-- The blocks `bs` are on `blk_list`, the blocks `fs` on `free_list`. -/
structure Lists (rbb : RtRbb) (bs fs : List ℕ) : Prop where
  blk : Links (nxt rbb) rbb.blkList bs
  free : Links (nxt rbb) rbb.freeList fs
  tail : rbb.tail = bs.getLast?
  perm : (bs ++ fs).Perm (List.range rbb.blkMaxNum)

lemma Lists.nodup (h : Lists rbb bs fs) : (bs ++ fs).Nodup := h.perm.nodup_iff.mpr List.nodup_range

/-- Other fields than the links do not matter. -/
lemma Lists.congr (h : Lists rbb bs fs) (hnxt : ∀ i, nxt rbb' i = nxt rbb i)
    (hblk : rbb'.blkList = rbb.blkList) (hsame : SameLists rbb rbb') : Lists rbb' bs fs := by
  refine ⟨?_, ?_, ?_, ?_⟩
  · rw [hblk]
    exact h.blk.congr fun i _ => hnxt i
  · rw [hsame.freeList]
    exact h.free.congr fun i _ => hnxt i
  · rw [hsame.tail]
    exact h.tail
  · rw [hsame.blkMaxNum]
    exact h.perm

/-! ### Taking a free block and giving it back -/

lemma Lists.findEmptyBlkInSet_nil (h : Lists rbb bs []) : findEmptyBlkInSet rbb = none := by
  unfold findEmptyBlkInSet
  have hnone : rbb.freeList = none := h.free
  rw [hnone]

lemma Lists.findEmptyBlkInSet_cons (h : Lists rbb bs (n :: fs)) :
    findEmptyBlkInSet rbb = some ({ rbb with freeList := nxt rbb n }, n) := by
  unfold findEmptyBlkInSet
  rw [h.free.1]
  rfl

lemma Lists.notMem_of_free (h : Lists rbb bs (n :: fs)) : n ∉ bs ∧ n ∉ fs := by
  have hnd := List.nodup_append.mp h.nodup
  exact ⟨fun hb => hnd.2.2 n hb n List.mem_cons_self rfl, (List.nodup_cons.mp hnd.2.1).1⟩

lemma insertFree_spec (rbb : RtRbb) (n : ℕ) :
    (∀ i, area ((insertFree rbb n).blkSet i) = area (rbb.blkSet i)) ∧
      nxt (insertFree rbb n) n = rbb.freeList ∧ ∀ i, i ≠ n → nxt (insertFree rbb n) i = nxt rbb i := by
  refine ⟨fun i => ?_, ?_, fun i hi => ?_⟩
  · exact area_setNext rbb (some n) rbb.freeList i
  · exact nxt_setNext_self rbb n rbb.freeList
  · exact nxt_setNext_of_ne rbb (fun heq => hi (Option.some.inj heq).symm) rbb.freeList

/-- The block is given back. -/
lemma Lists.insertFree (h : Lists rbb bs (n :: fs)) :
    Lists (insertFree { rbb with freeList := nxt rbb n } n) bs (n :: fs) := by
  obtain ⟨hbs, hfs⟩ := h.notMem_of_free
  obtain ⟨-, hn, hother⟩ := insertFree_spec { rbb with freeList := nxt rbb n } n
  refine ⟨h.blk.congr fun i hi => ?_, ?_, h.tail, h.perm⟩
  · exact hother i fun heq => hbs (heq ▸ hi)
  · exact h.free.2.push hn fun i hi => hother i fun heq => hfs (heq ▸ hi)

/-! ### Appending -/

lemma listAppend_area (rbb : RtRbb) (n i : ℕ) :
    area ((listAppend rbb n).blkSet i) = area (rbb.blkSet i) := by
  unfold listAppend
  exact (area_setNext _ (some n) none i).trans (area_setNext rbb rbb.tail (some n) i)

/-- The block is appended to `blk_list`. -/
lemma Lists.listAppend (h : Lists rbb bs (n :: fs)) :
    Lists (listAppend { rbb with freeList := nxt rbb n } n) (bs ++ [n]) fs := by
  obtain ⟨hbs, hfs⟩ := h.notMem_of_free
  have hnd := List.nodup_append.mp h.nodup
  have hlast : rbb.tail ≠ some n := by
    intro heq
    exact hbs (List.mem_of_getLast? (h.tail.symm.trans heq))
  have hn : nxt (Rbb.listAppend { rbb with freeList := nxt rbb n } n) n = none :=
    nxt_setNext_self _ n none
  have hother : ∀ i, i ≠ n → rbb.tail ≠ some i →
      nxt (Rbb.listAppend { rbb with freeList := nxt rbb n } n) i = nxt rbb i := by
    intro i hi htail
    refine (nxt_setNext_of_ne _ (fun heq => hi (Option.some.inj heq).symm) none).trans ?_
    exact nxt_setNext_of_ne _ htail (some n)
  have hsame := sameLists_setNext
    (setNext { rbb with freeList := nxt rbb n } rbb.tail (some n)) (some n) none
  have hsame' := sameLists_setNext { rbb with freeList := nxt rbb n } rbb.tail (some n)
  refine ⟨?_, ?_, ?_, ?_⟩
  · rcases List.eq_nil_or_concat bs with rfl | ⟨l, t, rfl⟩
    · have htail : rbb.tail = none := h.tail
      refine ⟨?_, hn⟩
      show (setNext (setNext _ rbb.tail (some n)) (some n) none).blkList = some n
      rw [htail]
      rfl
    · rw [List.concat_eq_append] at *
      have htail : rbb.tail = some t := by
        rw [h.tail, List.getLast?_append]
        rfl
      have hhead : (Rbb.listAppend { rbb with freeList := nxt rbb n } n).blkList = rbb.blkList := by
        show (setNext (setNext _ rbb.tail (some n)) (some n) none).blkList = _
        rw [htail]
        rfl
      have ht : nxt (Rbb.listAppend { rbb with freeList := nxt rbb n } n) t = some n := by
        refine (nxt_setNext_of_ne _ (fun heq => hlast (htail.trans heq.symm)) none).trans ?_
        rw [htail]
        exact nxt_setNext_self _ t (some n)
      rw [hhead, List.append_assoc]
      refine h.blk.snoc (fun i hi => ?_) ht hn
      refine hother i (fun heq => hbs (heq ▸ List.mem_append_left _ hi)) ?_
      rw [htail]
      intro heq
      have hdisjoint := (List.nodup_append.mp hnd.1).2.2
      exact hdisjoint i hi t List.mem_cons_self (Option.some.inj heq).symm
  · show Links _ (setNext (setNext _ rbb.tail (some n)) (some n) none).freeList fs
    rw [hsame.freeList, hsame'.freeList]
    refine h.free.2.congr fun i hi => ?_
    refine hother i (fun heq => hfs (heq ▸ hi)) fun heq => ?_
    have hmem := List.mem_of_getLast? (h.tail.symm.trans heq)
    exact hnd.2.2 i hmem i (List.mem_cons_of_mem n hi) rfl
  · rw [List.getLast?_append]
    rfl
  · show ((bs ++ [n]) ++ fs).Perm (List.range (setNext (setNext _ rbb.tail (some n)) (some n) none).blkMaxNum)
    rw [hsame.blkMaxNum, hsame'.blkMaxNum, List.append_assoc]
    exact h.perm

/-! ### Removing -/

/-- The loop stops at the node before `n`. -/
lemma whileNext_spec (hn : n ∉ l) : ∀ (fuel : ℕ) (node : Option ℕ), l.length < fuel →
    Links (nxt rbb) (nextOf rbb node) (l ++ n :: r) →
    whileNext rbb n fuel node = some (l.getLast?.or node) := by
  induction l with
  | nil =>
    intro fuel node hfuel hlinks
    obtain ⟨fuel, rfl⟩ := Nat.exists_eq_succ_of_ne_zero (Nat.ne_of_gt hfuel)
    unfold whileNext
    rw [hlinks.1]
    simp only [if_true]
    rfl
  | cons m l ih =>
    intro fuel node hfuel hlinks
    obtain ⟨fuel, rfl⟩ := Nat.exists_eq_succ_of_ne_zero (Nat.ne_of_gt (Nat.zero_lt_of_lt hfuel))
    have hm : m ≠ n := fun heq => hn (heq ▸ List.mem_cons_self)
    unfold whileNext
    rw [hlinks.1]
    simp only [if_neg hm]
    rw [ih (fun hmem => hn (List.mem_cons_of_mem m hmem)) fuel (some m) (Nat.lt_of_succ_lt_succ hfuel)
      hlinks.2, List.getLast?_cons]
    cases l.getLast? with
    | none => rfl
    | some t => rfl

/-- The node before `n` is linked to `n`. -/
lemma nextOf_getLast (h : Links (nxt rbb) rbb.blkList (l ++ n :: r)) :
    nextOf rbb l.getLast? = some n := by
  rcases List.eq_nil_or_concat l with rfl | ⟨l, t, rfl⟩
  · exact h.1
  · rw [List.concat_eq_append, List.append_assoc] at h
    rw [List.concat_eq_append, List.getLast?_append]
    exact h.suffix.1

/-- The block `n` is taken out of `blk_list`. -/
lemma Lists.listRemove (h : Lists rbb (l ++ n :: r) fs) :
    ∃ rbb', listRemove rbb n = some rbb' ∧ Links (nxt rbb') rbb'.blkList (l ++ r) ∧
      Links (nxt rbb') rbb'.freeList fs ∧ rbb'.tail = (l ++ r).getLast? ∧
      rbb'.bufSize = rbb.bufSize ∧ rbb'.blkMaxNum = rbb.blkMaxNum ∧
      ∀ i, area (rbb'.blkSet i) = area (rbb.blkSet i) := by
  have hnd := List.nodup_append.mp h.nodup
  have hmiddle := List.nodup_append.mp hnd.1
  have hl : n ∉ l := fun hmem => hmiddle.2.2 n hmem n List.mem_cons_self rfl
  have hr : n ∉ r := (List.nodup_cons.mp hmiddle.2.1).1
  have hfs : n ∉ fs := fun hmem =>
    hnd.2.2 n (List.mem_append_right l List.mem_cons_self) n hmem rfl
  have hlength : l.length < rbb.blkMaxNum + 1 := by
    have hperm := h.perm.length_eq
    rw [List.length_append, List.length_append, List.length_range] at hperm
    omega
  have hfind := whileNext_spec hl (rbb.blkMaxNum + 1) none hlength h.blk
  rw [Option.or_none] at hfind
  obtain ⟨rbb₁, hrbb₁⟩ : ∃ rbb₁, rbb₁ = setNext (setNext rbb l.getLast? (nxt rbb n)) (some n) none :=
    ⟨_, rfl⟩
  have hremove : Rbb.listRemove rbb n =
      some (if rbb₁.tail = some n then { rbb₁ with tail := l.getLast? } else rbb₁) := by
    unfold Rbb.listRemove
    rw [hfind]
    simp only [nextOf_getLast h.blk]
    rw [hrbb₁]
    rfl
  have hsame := sameLists_setNext (setNext rbb l.getLast? (nxt rbb n)) (some n) none
  have hsame' := sameLists_setNext rbb l.getLast? (nxt rbb n)
  rw [← hrbb₁] at hsame
  have harea : ∀ i, area (rbb₁.blkSet i) = area (rbb.blkSet i) := by
    intro i
    rw [hrbb₁]
    exact (area_setNext _ (some n) none i).trans (area_setNext rbb _ _ i)
  have hother : ∀ i, i ≠ n → l.getLast? ≠ some i → nxt rbb₁ i = nxt rbb i := by
    intro i hi hlast
    rw [hrbb₁]
    refine (nxt_setNext_of_ne _ (fun heq => hi (Option.some.inj heq).symm) none).trans ?_
    exact nxt_setNext_of_ne _ hlast _
  have hother_of_notMem : ∀ i, i ≠ n → i ∉ l → nxt rbb₁ i = nxt rbb i :=
    fun i hi hmem => hother i hi fun hlast => hmem (List.mem_of_getLast? hlast)
  have hblk : Links (nxt rbb₁) rbb₁.blkList (l ++ r) := by
    have hsuffix : ∀ i ∈ r, nxt rbb₁ i = nxt rbb i := by
      intro i hi
      refine hother_of_notMem i (fun heq => hr (heq ▸ hi)) fun hmem => ?_
      exact hmiddle.2.2 i hmem i (List.mem_cons_of_mem n hi) rfl
    rcases List.eq_nil_or_concat l with rfl | ⟨l, t, rfl⟩
    · have hhead : rbb₁.blkList = nxt rbb n := by
        rw [hrbb₁]
        rfl
      rw [hhead]
      exact h.blk.2.congr hsuffix
    · rw [List.concat_eq_append] at *
      have hlast : (l ++ [t]).getLast? = some t := by
        rw [List.getLast?_append]
        rfl
      have hhead : rbb₁.blkList = rbb.blkList := by
        rw [hrbb₁, hlast]
        rfl
      have ht : nxt rbb₁ t = nxt rbb n := by
        rw [hrbb₁, hlast]
        have htn : t ≠ n := by
          rintro rfl
          exact hl (List.mem_append_right l List.mem_cons_self)
        refine (nxt_setNext_of_ne _ (fun heq => htn (Option.some.inj heq).symm) none).trans ?_
        exact nxt_setNext_self rbb t _
      have hlinks := h.blk
      rw [List.append_assoc] at hlinks
      rw [hhead, List.append_assoc]
      refine hlinks.unlink (fun i hi => ?_) hsuffix ht
      refine hother i (fun heq => hl (heq ▸ List.mem_append_left _ hi)) fun heq => ?_
      have hdisjoint := (List.nodup_append.mp hmiddle.1).2.2
      exact hdisjoint i hi t List.mem_cons_self (Option.some.inj (heq.symm.trans hlast))
  have hfree : Links (nxt rbb₁) rbb₁.freeList fs := by
    rw [hsame.freeList, hsame'.freeList]
    refine h.free.congr fun i hi => hother_of_notMem i (fun heq => hfs (heq ▸ hi)) fun hmem => ?_
    exact hnd.2.2 i (List.mem_append_left _ hmem) i hi rfl
  have htail : rbb₁.tail = (n :: r).getLast? := by
    rw [hsame.tail, hsame'.tail, h.tail, List.getLast?_append]
    cases hlast : (n :: r).getLast? with
    | none => exact absurd (List.getLast?_eq_none_iff.mp hlast) (List.cons_ne_nil n r)
    | some t => rfl
  refine ⟨_, hremove, ?_⟩
  rcases List.eq_nil_or_concat r with rfl | ⟨r, t, rfl⟩
  · -- `n` is the last block
    have hn : rbb₁.tail = some n := htail
    rw [if_pos hn]
    refine ⟨hblk, hfree, ?_, hsame.bufSize.trans hsame'.bufSize, hsame.blkMaxNum.trans hsame'.blkMaxNum,
      harea⟩
    rw [List.append_nil]
  · rw [List.concat_eq_append] at *
    have ht : rbb₁.tail = some t := by
      rw [htail, List.getLast?_cons, List.getLast?_append]
      rfl
    have htn : rbb₁.tail ≠ some n := by
      rw [ht]
      rintro heq
      exact hr (Option.some.inj heq ▸ List.mem_append_right r List.mem_cons_self)
    rw [if_neg htn]
    refine ⟨hblk, hfree, ?_, hsame.bufSize.trans hsame'.bufSize, hsame.blkMaxNum.trans hsame'.blkMaxNum,
      harea⟩
    rw [ht, List.getLast?_append, List.getLast?_append]
    rfl

/-- The loop of `rt_rbb_blk_get` ends, and a block it finds is on the list. -/
lemma findPut_spec : ∀ (fuel : ℕ) (node : Option ℕ), l.length < fuel → Links (nxt rbb) node l →
    ∃ res, findPut rbb fuel node = some res ∧ ∀ i ∈ res, i ∈ l := by
  induction l with
  | nil =>
    intro fuel node hfuel hlinks
    obtain ⟨fuel, rfl⟩ := Nat.exists_eq_succ_of_ne_zero (Nat.ne_of_gt hfuel)
    obtain rfl : node = none := hlinks
    refine ⟨none, rfl, fun i hi => ?_⟩
    cases hi
  | cons m l ih =>
    intro fuel node hfuel hlinks
    obtain ⟨fuel, rfl⟩ := Nat.exists_eq_succ_of_ne_zero (Nat.ne_of_gt (Nat.zero_lt_of_lt hfuel))
    obtain ⟨rfl, hrest⟩ := hlinks
    unfold findPut
    by_cases hput : (rbb.blkSet m).status = .put
    · rw [if_pos hput]
      refine ⟨some m, rfl, fun i hi => ?_⟩
      cases hi
      exact List.mem_cons_self
    · rw [if_neg hput]
      obtain ⟨res, hres, hmem⟩ := ih fuel _ (Nat.lt_of_succ_lt_succ hfuel) hrest
      exact ⟨res, hres, fun i hi => List.mem_cons_of_mem m (hmem i hi)⟩

/-! ### Placing -/

/-- The end of a block. -/
def RtRbbBlk.finish (b : RtRbbBlk) : ℕ := b.buf + b.size

/-- A block is placed in the buffer. -/
lemma place_spec (h : Lists rbb bs (n :: fs)) (buf blkSize : ℕ) {rbb' : RtRbb}
    (hplace : place { rbb with freeList := nxt rbb n } n buf blkSize = rbb') :
    Lists rbb' (bs ++ [n]) fs ∧ area (rbb'.blkSet n) = (.inited, blkSize % 0x1000000, buf) ∧
      (∀ i, i ≠ n → area (rbb'.blkSet i) = area (rbb.blkSet i)) ∧ rbb'.bufSize = rbb.bufSize := by
  subst hplace
  obtain ⟨rbb₁, hrbb₁⟩ : ∃ rbb₁, rbb₁ = listAppend { rbb with freeList := nxt rbb n } n := ⟨_, rfl⟩
  have hlists := h.listAppend
  have harea := listAppend_area { rbb with freeList := nxt rbb n } n
  have hsize : rbb₁.bufSize = rbb.bufSize := by
    rw [hrbb₁]
    exact (sameLists_setNext _ (some n) none).bufSize.trans (sameLists_setNext _ rbb.tail (some n)).bufSize
  have hplace : place { rbb with freeList := nxt rbb n } n buf blkSize =
      setBlk rbb₁ n
        { rbb₁.blkSet n with status := .inited, buf := buf, size := blkSize % 0x1000000 } := by
    rw [hrbb₁]
    rfl
  rw [← hrbb₁] at hlists harea
  rw [hplace]
  refine ⟨hlists.congr (fun i => ?_) rfl ⟨rfl, rfl, rfl, rfl⟩, ?_, fun i hi => ?_, hsize⟩
  · unfold nxt setBlk
    by_cases hi : i = n
    · subst hi
      simp only [Function.update_self]
    · simp only [Function.update_of_ne hi]
  · unfold setBlk
    simp only [Function.update_self]
    rfl
  · unfold setBlk
    simp only [Function.update_of_ne hi]
    exact harea i

/-- `rt_rbb_blk_alloc` with a block of the free list, while `blk_list` is empty. -/
lemma rtRbbBlkAlloc_of_empty {rbb₁ : RtRbb} {blk blkSize : ℕ}
    (hfind : findEmptyBlkInSet rbb = some (rbb₁, blk)) (hempty : rbb₁.blkList = none) :
    rtRbbBlkAlloc rbb blkSize =
      if blkSize ≤ rbb₁.bufSize then some (place rbb₁ blk 0 blkSize, some blk)
      else some (insertFree rbb₁ blk, none) := by
  unfold rtRbbBlkAlloc
  rw [hfind]
  simp only [hempty]

/-- `rt_rbb_blk_alloc` with a block of the free list, between the blocks `head` and `tail`. -/
lemma rtRbbBlkAlloc_of_head {rbb₁ : RtRbb} {blk blkSize head tail : ℕ}
    (hfind : findEmptyBlkInSet rbb = some (rbb₁, blk)) (hhead : rbb₁.blkList = some head)
    (htail : rbb₁.tail = some tail) :
    rtRbbBlkAlloc rbb blkSize =
      if (rbb₁.blkSet head).buf ≤ (rbb₁.blkSet tail).buf then
        if addrSub rbb₁.bufSize (rbb₁.blkSet tail).finish ≥ blkSize then
          some (place rbb₁ blk (rbb₁.blkSet tail).finish blkSize, some blk)
        else if addrSub (rbb₁.blkSet head).buf 0 ≥ blkSize then some (place rbb₁ blk 0 blkSize, some blk)
        else some (insertFree rbb₁ blk, none)
      else
        if addrSub (rbb₁.blkSet head).buf (rbb₁.blkSet tail).finish ≥ blkSize then
          some (place rbb₁ blk (rbb₁.blkSet tail).finish blkSize, some blk)
        else some (insertFree rbb₁ blk, none) := by
  unfold rtRbbBlkAlloc
  rw [hfind]
  simp only [hhead, htail]
  rfl

/-! ### The blocks in use -/

/-- The blocks in use are on `blk_list`, the others are free. -/
structure Base (s : System) (fs : List ℕ) : Prop where
  lists : Lists s.rbb s.live fs
  used : ∀ i ∈ s.live, (s.rbb.blkSet i).status ≠ .unused
  unused : ∀ i ∈ fs, (s.rbb.blkSet i).status = .unused

variable {s s' : System}

/-- A block of the free list is placed in the buffer. -/
lemma Base.place (h : Base s (n :: fs)) (buf blkSize : ℕ) {rbb' : RtRbb}
    (hplace : place { s.rbb with freeList := nxt s.rbb n } n buf blkSize = rbb') :
    Base ⟨rbb', s.live ++ [n]⟩ fs := by
  obtain ⟨hlive, hfs⟩ := h.lists.notMem_of_free
  obtain ⟨hlists, hnew, hother, -⟩ := place_spec h.lists buf blkSize hplace
  refine ⟨hlists, fun i hi => ?_, fun i hi => ?_⟩
  · rcases List.mem_append.mp hi with hi | hi
    · have hsame : (rbb'.blkSet i).status = (s.rbb.blkSet i).status :=
        congrArg Prod.fst (hother i fun heq => hlive (heq ▸ hi))
      rw [hsame]
      exact h.used i hi
    · have hstatus : (rbb'.blkSet n).status = .inited := congrArg Prod.fst hnew
      rw [List.mem_singleton.mp hi, hstatus]
      decide
  · have hsame : (rbb'.blkSet i).status = (s.rbb.blkSet i).status :=
      congrArg Prod.fst (hother i fun heq => hfs (heq ▸ hi))
    rw [hsame]
    exact h.unused i (List.mem_cons_of_mem n hi)

/-- There is no room, and the block is given back. -/
lemma Base.giveBack (h : Base s (n :: fs)) :
    Base ⟨insertFree { s.rbb with freeList := nxt s.rbb n } n, s.live⟩ (n :: fs) := by
  obtain ⟨harea, -⟩ := insertFree_spec { s.rbb with freeList := nxt s.rbb n } n
  refine ⟨h.lists.insertFree, fun i hi => ?_, fun i hi => ?_⟩
  · have hsame := congrArg Prod.fst (harea i)
    exact fun hunused => h.used i hi (hsame.symm.trans hunused)
  · exact (congrArg Prod.fst (harea i)).trans (h.unused i hi)

/-- **`rt_rbb_blk_alloc`**, wherever it places the block. -/
lemma Base.alloc (h : Base s fs) (blkSize : ℕ) :
    ∃ s' fs', step s (.alloc blkSize) = some s' ∧ Base s' fs' := by
  have hstep : ∀ {rbb' : RtRbb} {res : Option ℕ}, rtRbbBlkAlloc s.rbb blkSize = some (rbb', res) →
      step s (.alloc blkSize) = some ⟨rbb', s.live ++ res.toList⟩ := by
    intro rbb' res heq
    show (rtRbbBlkAlloc s.rbb blkSize).map _ = _
    rw [heq]
    rfl
  cases fs with
  | nil =>
    have halloc : rtRbbBlkAlloc s.rbb blkSize = some (s.rbb, none) := by
      unfold rtRbbBlkAlloc
      rw [h.lists.findEmptyBlkInSet_nil]
    refine ⟨_, [], hstep halloc, ?_⟩
    rw [Option.toList_none, List.append_nil]
    exact h
  | cons n fs =>
    have hfind := h.lists.findEmptyBlkInSet_cons
    have hback := h.giveBack
    rw [← List.append_nil s.live] at hback
    obtain ⟨rbb', res, halloc, hbase⟩ : ∃ rbb' res, rtRbbBlkAlloc s.rbb blkSize = some (rbb', res) ∧
        ∃ fs', Base ⟨rbb', s.live ++ res.toList⟩ fs' := by
      rcases List.eq_nil_or_concat s.live with hlive | ⟨l, tail, hlive⟩
      · have hblkList : s.rbb.blkList = none := by
          have hlinks := h.lists.blk
          rw [hlive] at hlinks
          exact hlinks
        rw [rtRbbBlkAlloc_of_empty hfind hblkList]
        split
        · exact ⟨_, _, rfl, fs, h.place _ _ rfl⟩
        · exact ⟨_, none, rfl, _, hback⟩
      · rw [List.concat_eq_append] at hlive
        obtain ⟨head, hhead⟩ : ∃ head, s.rbb.blkList = some head := by
          rw [h.lists.blk.head, hlive]
          cases l with
          | nil => exact ⟨tail, rfl⟩
          | cons m l => exact ⟨m, rfl⟩
        have htail : s.rbb.tail = some tail := by
          rw [h.lists.tail, hlive, List.getLast?_append]
          rfl
        rw [rtRbbBlkAlloc_of_head hfind hhead htail]
        split
        · split
          · exact ⟨_, _, rfl, fs, h.place _ _ rfl⟩
          · split
            · exact ⟨_, _, rfl, fs, h.place _ _ rfl⟩
            · exact ⟨_, none, rfl, _, hback⟩
        · split
          · exact ⟨_, _, rfl, fs, h.place _ _ rfl⟩
          · exact ⟨_, none, rfl, _, hback⟩
    obtain ⟨fs', hbase⟩ := hbase
    exact ⟨_, fs', hstep halloc, hbase⟩

/-- A block that is in use is on `blk_list`. -/
lemma Base.mem_live (h : Base s fs) (hn : n < s.rbb.blkMaxNum)
    (hused : (s.rbb.blkSet n).status ≠ .unused) : n ∈ s.live := by
  have hmem : n ∈ s.live ++ fs := h.lists.perm.symm.subset (List.mem_range.mpr hn)
  rcases List.mem_append.mp hmem with hlive | hfs
  · exact hlive
  · exact absurd (h.unused n hfs) hused

lemma Base.length_live (h : Base s fs) : s.live.length < s.rbb.blkMaxNum + 1 := by
  have hperm := h.lists.perm.length_eq
  rw [List.length_append, List.length_range] at hperm
  omega

/-- A change of a status leaves everything else as it is. -/
lemma setStatus_spec (rbb : RtRbb) (n : ℕ) (status : RtRbbStatus) :
    (∀ i, nxt (setStatus rbb n status) i = nxt rbb i ∧
      ((setStatus rbb n status).blkSet i).finish = (rbb.blkSet i).finish ∧
      ((setStatus rbb n status).blkSet i).buf = (rbb.blkSet i).buf) ∧
    ((setStatus rbb n status).blkSet n).status = status ∧
    ∀ i, i ≠ n → (setStatus rbb n status).blkSet i = rbb.blkSet i := by
  have hother : ∀ i, i ≠ n → (setStatus rbb n status).blkSet i = rbb.blkSet i :=
    fun i hi => Function.update_of_ne hi _ _
  have hself : (setStatus rbb n status).blkSet n = { rbb.blkSet n with status := status } :=
    Function.update_self ..
  refine ⟨fun i => ?_, congrArg RtRbbBlk.status hself, hother⟩
  unfold nxt
  by_cases hi : i = n
  · subst hi
    rw [hself]
    exact ⟨rfl, rfl, rfl⟩
  · rw [hother i hi]
    exact ⟨rfl, rfl, rfl⟩

/-- The status of a block in use changes. -/
lemma Base.setStatus (h : Base s fs) (hn : n ∈ s.live) {status : RtRbbStatus} (hused : status ≠ .unused) :
    Base ⟨setStatus s.rbb n status, s.live⟩ fs := by
  obtain ⟨hsame, hself, hother⟩ := setStatus_spec s.rbb n status
  refine ⟨h.lists.congr (fun i => (hsame i).1) rfl ⟨rfl, rfl, rfl, rfl⟩, fun i hi => ?_, fun i hi => ?_⟩
  · by_cases hin : i = n
    · subst hin
      rw [hself]
      exact hused
    · rw [hother i hin]
      exact h.used i hi
  · have hin : i ≠ n := by
      rintro rfl
      exact (List.nodup_append.mp h.lists.nodup).2.2 i hn i hi rfl
    rw [hother i hin]
    exact h.unused i hi

/-- **`rt_rbb_blk_get`** changes nothing, or the status of a block in use. -/
lemma Base.get (h : Base s fs) : step s .get = some s ∨
    ∃ block ∈ s.live, step s .get = some ⟨Rbb.setStatus s.rbb block .get, s.live⟩ := by
  obtain ⟨res, hfind, hmem⟩ := findPut_spec (s.rbb.blkMaxNum + 1) s.rbb.blkList h.length_live h.lists.blk
  have hget : ∀ (rbb' : RtRbb) (res : Option ℕ), rtRbbBlkGet s.rbb = some (rbb', res) →
      step s .get = some { s with rbb := rbb' } := by
    intro rbb' res heq
    show (rtRbbBlkGet s.rbb).map _ = _
    rw [heq]
    rfl
  cases res with
  | none =>
    left
    refine hget _ none ?_
    unfold rtRbbBlkGet
    rw [hfind]
  | some block =>
    right
    refine ⟨block, hmem block rfl, hget _ (some block) ?_⟩
    unfold rtRbbBlkGet
    rw [hfind]

/-- **`rt_rbb_blk_free`** of a block in use. -/
lemma Base.free (h : Base s fs) (hn : n ∈ s.live) :
    ∃ rbb', step s (.free n) = some ⟨rbb', s.live.erase n⟩ ∧ Base ⟨rbb', s.live.erase n⟩ (n :: fs) ∧
      rbb'.bufSize = s.rbb.bufSize ∧ ∀ i ∈ s.live.erase n, area (rbb'.blkSet i) = area (s.rbb.blkSet i) := by
  obtain ⟨l, r, hlive⟩ := List.append_of_mem hn
  have hlists := h.lists
  rw [hlive] at hlists
  have hnd := hlists.nodup
  have hl : n ∉ l := fun hmem =>
    (List.nodup_append.mp (List.nodup_append.mp hnd).1).2.2 n hmem n List.mem_cons_self rfl
  have hr : n ∉ r := (List.nodup_cons.mp (List.nodup_append.mp (List.nodup_append.mp hnd).1).2.1).1
  have hfs : n ∉ fs := fun hmem =>
    (List.nodup_append.mp hnd).2.2 n (List.mem_append_right l List.mem_cons_self) n hmem rfl
  have herase : s.live.erase n = l ++ r := by
    rw [hlive, List.erase_append_right _ hl, List.erase_cons_head]
  obtain ⟨rbb', hremove, hblk, hfree, htail, hbufSize, hmaxNum, harea⟩ := hlists.listRemove
  obtain ⟨rbb₁, hrbb₁⟩ : ∃ rbb₁, rbb₁ = Rbb.insertFree (Rbb.setStatus rbb' n .unused) n := ⟨_, rfl⟩
  have hstep : step s (.free n) = some ⟨rbb₁, s.live.erase n⟩ := by
    show (rtRbbBlkFree s.rbb n).map _ = _
    unfold rtRbbBlkFree
    rw [hremove, hrbb₁]
    rfl
  obtain ⟨hareaFree, hnxtSelf, hnxtOther⟩ := insertFree_spec (Rbb.setStatus rbb' n .unused) n
  rw [← hrbb₁] at hareaFree hnxtSelf hnxtOther
  have hother : ∀ i, i ≠ n → area (rbb₁.blkSet i) = area (s.rbb.blkSet i) ∧ nxt rbb₁ i = nxt rbb' i := by
    intro i hi
    have hsame : (Rbb.setStatus rbb' n .unused).blkSet i = rbb'.blkSet i := Function.update_of_ne hi _ _
    constructor
    · rw [hareaFree i, hsame]
      exact harea i
    · rw [hnxtOther i hi]
      exact congrArg RtRbbBlk.next hsame
  have hne : ∀ i ∈ l ++ r, i ≠ n := by
    rintro i hi rfl
    exact (List.mem_append.mp hi).elim hl hr
  rw [herase] at hstep ⊢
  refine ⟨rbb₁, hstep, ⟨⟨?_, ?_, ?_, ?_⟩, fun i hi => ?_, fun i hi => ?_⟩, ?_,
    fun i hi => (hother i (hne i hi)).1⟩
  · show Links (nxt rbb₁) rbb₁.blkList (l ++ r)
    have hhead : rbb₁.blkList = rbb'.blkList := by
      rw [hrbb₁]
      rfl
    rw [hhead]
    exact hblk.congr fun i hi => (hother i (hne i hi)).2
  · show Links (nxt rbb₁) rbb₁.freeList (n :: fs)
    have hhead : rbb₁.freeList = some n := by
      rw [hrbb₁]
      rfl
    rw [hhead]
    exact hfree.push hnxtSelf fun i hi => (hother i fun heq => hfs (heq ▸ hi)).2
  · rw [hrbb₁]
    exact htail
  · have hmax : rbb₁.blkMaxNum = s.rbb.blkMaxNum := by
      rw [hrbb₁]
      exact hmaxNum
    show ((l ++ r) ++ n :: fs).Perm (List.range rbb₁.blkMaxNum)
    rw [hmax]
    refine List.Perm.trans ?_ hlists.perm
    rw [List.append_assoc, List.append_assoc]
    exact (List.perm_middle).append_left l
  · have hmem : i ∈ s.live := by
      rw [hlive]
      exact (List.sublist_cons_self n r).append_left l |>.subset hi
    have hsame := congrArg Prod.fst (hother i (hne i hi)).1
    exact fun hunused => h.used i hmem (hsame.symm.trans hunused)
  · rcases List.mem_cons.mp hi with rfl | hi
    · have hself : (Rbb.setStatus rbb' i .unused).blkSet i = { rbb'.blkSet i with status := .unused } :=
        Function.update_self ..
      have hstatus := congrArg Prod.fst (hareaFree i)
      exact hstatus.trans (congrArg RtRbbBlk.status hself)
    · have hsame := congrArg Prod.fst (hother i fun heq => hfs (heq ▸ hi)).1
      exact hsame.trans (h.unused i hi)
  · rw [hrbb₁]
    exact hbufSize

/-- **Every call** that keeps to the assertions comes to an end and keeps the lists. -/
lemma base_step (h : Base s fs) {a : Action} (hasserted : Asserted s a) :
    ∃ s' fs', step s a = some s' ∧ Base s' fs' := by
  cases a with
  | alloc blkSize => exact h.alloc blkSize
  | put block =>
    have hused : (s.rbb.blkSet block).status ≠ .unused := by
      rw [hasserted.2]
      decide
    exact ⟨_, fs, rfl, h.setStatus (h.mem_live hasserted.1 hused) (by decide)⟩
  | get =>
    rcases h.get with hs | ⟨block, hmem, hs⟩
    · exact ⟨s, fs, hs, h⟩
    · exact ⟨_, fs, hs, h.setStatus hmem (by decide)⟩
  | free block =>
    obtain ⟨rbb', hs, hbase, -⟩ := h.free (h.mem_live hasserted.1 hasserted.2)
    exact ⟨_, _, hs, hbase⟩

/-- The blocks that the loop of `rt_rbb_init` has put on the free list after `k` turns. -/
lemma foldl_initBlk (rbb : RtRbb) (hfree : rbb.freeList = none) : ∀ k : ℕ,
    let rbb' := (List.range k).foldl initBlk rbb
    Links (nxt rbb') rbb'.freeList (List.range k).reverse ∧
      (∀ i < k, (rbb'.blkSet i).status = .unused) ∧ rbb'.blkList = rbb.blkList ∧ rbb'.tail = rbb.tail ∧
      rbb'.bufSize = rbb.bufSize ∧ rbb'.blkMaxNum = rbb.blkMaxNum := by
  intro k
  induction k with
  | zero => exact ⟨hfree, fun i hi => absurd hi (Nat.not_lt_zero i), rfl, rfl, rfl, rfl⟩
  | succ k ih =>
    intro rbb'
    obtain ⟨rbb₁, hrbb₁⟩ : ∃ rbb₁, rbb₁ = (List.range k).foldl initBlk rbb := ⟨_, rfl⟩
    obtain ⟨hlinks, hunused, hblk, htail, hsize, hmax⟩ := ih
    rw [← hrbb₁] at hlinks hunused hblk htail hsize hmax
    have hrbb' : rbb' = initBlk rbb₁ k := by
      show (List.range (k + 1)).foldl initBlk rbb = _
      rw [List.range_succ, List.foldl_append, ← hrbb₁]
      rfl
    obtain ⟨b, hb⟩ : ∃ b : RtRbbBlk, b = { rbb₁.blkSet k with status := .unused, next := none } :=
      ⟨_, rfl⟩
    obtain ⟨harea, hself, hother⟩ := insertFree_spec (setBlk rbb₁ k b) k
    have hinit : rbb' = insertFree (setBlk rbb₁ k b) k := by
      rw [hrbb', hb]
      rfl
    rw [← hinit] at harea hself hother
    have hset : ∀ i, i ≠ k → (setBlk rbb₁ k b).blkSet i = rbb₁.blkSet i :=
      fun i hi => Function.update_of_ne hi _ _
    refine ⟨?_, fun i hi => ?_, ?_, ?_, ?_, ?_⟩
    · have hhead : rbb'.freeList = some k := by
        rw [hinit]
        rfl
      rw [hhead, List.range_succ, List.reverse_append]
      refine hlinks.push hself fun i hi => ?_
      have hi' : i ≠ k := Nat.ne_of_lt (List.mem_range.mp (List.mem_reverse.mp hi))
      rw [hother i hi']
      exact congrArg RtRbbBlk.next (hset i hi')
    · have hstatus := congrArg Prod.fst (harea i)
      rcases Nat.lt_succ_iff_lt_or_eq.mp hi with hlt | rfl
      · exact hstatus.trans ((congrArg RtRbbBlk.status (hset i (Nat.ne_of_lt hlt))).trans (hunused i hlt))
      · have hk : (setBlk rbb₁ i b).blkSet i = b := Function.update_self ..
        exact hstatus.trans ((congrArg RtRbbBlk.status hk).trans (congrArg RtRbbBlk.status hb))
    · rw [hinit]
      exact hblk
    · rw [hinit]
      exact htail
    · rw [hinit]
      exact hsize
    · rw [hinit]
      exact hmax

lemma base_init (bufSize blkMaxNum : ℕ) (blockSet : ℕ → RtRbbBlk) :
    ∃ fs, Base (System.init bufSize blkMaxNum blockSet) fs := by
  obtain ⟨hlinks, hunused, hblk, htail, -, hmax⟩ :=
    foldl_initBlk ⟨bufSize % 0x100000000, blockSet, blkMaxNum, none, none, none⟩ rfl blkMaxNum
  refine ⟨(List.range blkMaxNum).reverse, ⟨hblk, hlinks, htail, ?_⟩, fun i hi => ?_, fun i hi => ?_⟩
  · show ([] ++ (List.range blkMaxNum).reverse).Perm (List.range (rtRbbInit _ _ _).blkMaxNum)
    unfold rtRbbInit
    rw [hmax]
    exact List.reverse_perm _
  · cases hi
  · exact hunused i (List.mem_range.mp (List.mem_reverse.mp hi))

end N32L43x.Rbb
