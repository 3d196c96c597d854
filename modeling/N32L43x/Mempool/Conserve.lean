import Mathlib.Data.List.Nodup
import Mathlib.Data.List.Perm.Basic
import Mathlib.Data.List.Range
import N32L43x.Lib.Links
import N32L43x.Lib.Run
import N32L43x.Mempool.Defs

/-!
The blocks of a memory pool.  At every moment each block is free, and then on the list that starts at
`block_list`, or taken, and then its header is the address of the pool.
-/

namespace N32L43x.Mempool

open N32L43x.Ipc N32L43x.Lib.Links N32L43x.Lib.Run

/-! ### The free list -/

/-- The object at an address, none at `RT_NULL`. -/
def ptr (addr : ℕ) : Option ℕ := if addr = rtNull then none else some addr

/-- The link in the header of a block. -/
def header (memory : ℕ → ℕ) (block : ℕ) : Option ℕ := ptr (memory block)

lemma ptr_of_ne {addr : ℕ} (h : addr ≠ rtNull) : ptr addr = some addr := if_neg h

lemma eq_of_ptr {addr block : ℕ} (h : ptr addr = some block) : addr = block ∧ addr ≠ rtNull := by
  unfold ptr at h
  split at h
  · cases h
  · rename_i hne
    exact ⟨Option.some.inj h, hne⟩

/-- The free blocks `free` and the blocks in use `live` are the blocks of the pool. -/
structure Blocks (memory : ℕ → ℕ) (mp blockList count : ℕ) (live grid free : List ℕ) : Prop where
  links : Links (header memory) (ptr blockList) free
  count : count = free.length
  perm : (free ++ live).Perm grid
  owner : ∀ b ∈ live, memory b = mp
  nodup : grid.Nodup
  ne_null : ∀ b ∈ grid, b ≠ rtNull

section Blocks

variable {memory : ℕ → ℕ} {mp blockList count b : ℕ} {live grid free : List ℕ}

lemma Blocks.nodup_append (h : Blocks memory mp blockList count live grid free) :
    (free ++ live).Nodup :=
  h.perm.nodup_iff.mpr h.nodup

lemma Blocks.mem_grid (h : Blocks memory mp blockList count live grid free) (hb : b ∈ live) : b ∈ grid :=
  h.perm.subset (List.mem_append_right _ hb)

/-- A word that is no header does not matter. -/
lemma Blocks.store (h : Blocks memory mp blockList count live grid free) {addr : ℕ} (value : ℕ)
    (haddr : addr ∉ grid) :
    Blocks (Function.update memory addr value) mp blockList count live grid free := by
  have hsame : ∀ x ∈ free ++ live, Function.update memory addr value x = memory x := by
    intro x hx
    apply Function.update_of_ne
    rintro rfl
    exact haddr (h.perm.subset hx)
  refine ⟨h.links.congr fun x hx => ?_, h.count, h.perm, fun x hx => ?_, h.nodup, h.ne_null⟩
  · exact congrArg ptr (hsame x (List.mem_append_left _ hx))
  · exact (hsame x (List.mem_append_right _ hx)).trans (h.owner x hx)

/-- The first free block is taken. -/
lemma Blocks.take (h : Blocks memory mp blockList count live grid free) (hcount : count ≠ 0) :
    blockList ≠ rtNull ∧ ∃ free',
      Blocks (Function.update memory blockList mp) mp (memory blockList) (count - 1)
        (blockList :: live) grid free' := by
  obtain ⟨hlinks, hlength, hperm, howner, hnodup, hnull⟩ := h
  cases free with
  | nil => exact absurd hlength hcount
  | cons b free' =>
    obtain ⟨hhead, htail⟩ := hlinks
    obtain ⟨rfl, hne⟩ := eq_of_ptr hhead
    have hnd := hperm.nodup_iff.mpr hnodup
    have hout : blockList ∉ free' ++ live := (List.nodup_cons.mp hnd).1
    have hsame : ∀ x ∈ free' ++ live, Function.update memory blockList mp x = memory x := by
      intro x hx
      apply Function.update_of_ne
      rintro rfl
      exact hout hx
    refine ⟨hne, free', htail.congr fun x hx => ?_, ?_, ?_, fun x hx => ?_, hnodup, hnull⟩
    · exact congrArg ptr (hsame x (List.mem_append_left _ hx))
    · rw [hlength]
      rfl
    · exact List.perm_middle.trans hperm
    · rcases List.mem_cons.mp hx with rfl | hx
      · exact Function.update_self ..
      · exact (hsame x (List.mem_append_right _ hx)).trans (howner x hx)

/-- A block in use is put in front of the free list. -/
lemma Blocks.giveBack (h : Blocks memory mp blockList count live grid free) (hb : b ∈ live) :
    Blocks (Function.update memory b blockList) mp b (count + 1) (live.erase b) grid (b :: free) := by
  have hnd := h.nodup_append
  have hout : b ∉ free := fun hfree => (List.nodup_append.mp hnd).2.2 b hfree b hb rfl
  have hlive : live.Nodup := (List.nodup_append.mp hnd).2.1
  have hsame : ∀ x, x ≠ b → Function.update memory b blockList x = memory x :=
    fun x hx => Function.update_of_ne hx ..
  refine ⟨?_, ?_, ?_, fun x hx => ?_, h.nodup, h.ne_null⟩
  · rw [ptr_of_ne (h.ne_null b (h.mem_grid hb))]
    refine h.links.push ?_ fun x hx => ?_
    · unfold header
      rw [Function.update_self]
    · unfold header
      rw [hsame x]
      rintro rfl
      exact hout hx
  · rw [h.count]
    rfl
  · have hmiddle : (b :: free ++ live.erase b).Perm (free ++ b :: live.erase b) := List.perm_middle.symm
    exact (hmiddle.trans ((List.perm_cons_erase hb).symm.append_left free)).trans h.perm
  · obtain ⟨hne, hx⟩ := hlive.mem_erase_iff.mp hx
    rw [hsame x hne]
    exact h.owner x hx

end Blocks

/-! ### The first blocks -/

section Init

variable {start size blockSize total i j : ℕ}

lemma blockAddr_eq (hfit : start + total * (blockSize + sizeofPtr) ≤ 0x100000000) (hi : i < total) :
    blockAddr start blockSize i = start + i * (blockSize + sizeofPtr) := by
  have hle : (i + 1) * (blockSize + sizeofPtr) ≤ total * (blockSize + sizeofPtr) :=
    Nat.mul_le_mul_right _ hi
  rw [Nat.succ_mul] at hle
  unfold blockAddr
  unfold sizeofPtr at *
  exact Nat.mod_eq_of_lt (by omega)

/-- Two blocks do not overlap. -/
lemma blockAddr_gap (hfit : start + total * (blockSize + sizeofPtr) ≤ 0x100000000) (hij : i < j)
    (hj : j < total) :
    blockAddr start blockSize i + (blockSize + sizeofPtr) ≤ blockAddr start blockSize j := by
  rw [blockAddr_eq hfit hj, blockAddr_eq hfit (hij.trans hj), add_assoc, ← Nat.succ_mul]
  exact Nat.add_le_add_left (Nat.mul_le_mul_right _ hij) start

lemma blockAddr_ne (hfit : start + total * (blockSize + sizeofPtr) ≤ 0x100000000) (hij : i < j)
    (hj : j < total) : blockAddr start blockSize i ≠ blockAddr start blockSize j := by
  have hgap := blockAddr_gap hfit hij hj
  unfold sizeofPtr at hgap
  omega

/-- The addresses of the headers. -/
def grid (start blockSize total : ℕ) : List ℕ := (List.range total).map (blockAddr start blockSize)

lemma nodup_grid (hfit : start + total * (blockSize + sizeofPtr) ≤ 0x100000000) :
    (grid start blockSize total).Nodup := by
  apply List.Nodup.map_on _ List.nodup_range
  intro i hi j hj heq
  rcases Nat.lt_trichotomy i j with hij | hij | hij
  · exact absurd heq (blockAddr_ne hfit hij (List.mem_range.mp hj))
  · exact hij
  · exact absurd heq.symm (blockAddr_ne hfit hij (List.mem_range.mp hi))

/-- What the loop of `rt_mp_init` has linked after `n` turns. -/
lemma foldl_initBlock (hfit : start + total * (blockSize + sizeofPtr) ≤ 0x100000000) (memory : ℕ → ℕ) :
    ∀ n ≤ total, ∀ i < n, (List.range n).foldl (initBlock start blockSize) memory
      (blockAddr start blockSize i) = blockAddr start blockSize (i + 1) := by
  intro n
  induction n with
  | zero =>
    intro _ i hi
    omega
  | succ n ih =>
    intro hn i hi
    rw [List.range_succ, List.foldl_append, List.foldl_cons, List.foldl_nil]
    unfold initBlock
    rcases Nat.lt_succ_iff_lt_or_eq.mp hi with hlt | rfl
    · rw [Function.update_of_ne (blockAddr_ne hfit hlt hn)]
      exact ih (Nat.le_of_succ_le hn) i hlt
    · rw [Function.update_self]

/-- Headers that are linked one after the other. -/
lemma links_of_linked {memory : ℕ → ℕ} (addr : ℕ → ℕ) (hne : ∀ i < total, addr i ≠ rtNull)
    (hnext : ∀ i, i + 1 < total → memory (addr i) = addr (i + 1))
    (hlast : ∀ i, i + 1 = total → memory (addr i) = rtNull) :
    ∀ n i, i + (n + 1) = total →
      Links (header memory) (some (addr i)) ((List.range' i (n + 1)).map addr) := by
  intro n
  induction n with
  | zero =>
    intro i hi
    refine ⟨rfl, ?_⟩
    show ptr (memory (addr i)) = none
    rw [hlast i hi]
    rfl
  | succ n ih =>
    intro i hi
    refine ⟨rfl, ?_⟩
    show Links (header memory) (ptr (memory (addr i))) ((List.range' (i + 1) (n + 1)).map addr)
    rw [hnext i (by omega), ptr_of_ne (hne (i + 1) (by omega))]
    exact ih (i + 1) (by omega)

/-- The blocks of a new pool are in its memory. -/
lemma fits_rtMpInit {Ag : Type*} (mp : ℕ) (memory : ℕ → ℕ) (hfit : start + size ≤ 0x100000000)
    {p : RtMempool Ag} (hp : rtMpInit mp memory start size blockSize = p) :
    start + p.blockTotalCount * (p.blockSize + sizeofPtr) ≤ 0x100000000 := by
  subst hp
  have hdiv : (rtMpInit mp memory start size blockSize : RtMempool Ag).blockTotalCount *
      ((rtMpInit mp memory start size blockSize : RtMempool Ag).blockSize + sizeofPtr) ≤
        rtAlignDown size := Nat.div_mul_le_self ..
  have halign : rtAlignDown size ≤ size := Nat.div_mul_le_self ..
  omega

/-- **A new pool.** -/
lemma blocks_rtMpInit {Ag : Type*} (mp : ℕ) (memory : ℕ → ℕ) (hstart : start ≠ rtNull)
    (hfit : start + size ≤ 0x100000000) {p : RtMempool Ag}
    (hp : rtMpInit mp memory start size blockSize = p) (hone : p.blockTotalCount ≠ 0) :
    Blocks p.memory p.mp p.blockList p.blockFreeCount [] (grid start p.blockSize p.blockTotalCount)
      (grid start p.blockSize p.blockTotalCount) := by
  have hle := fits_rtMpInit mp memory hfit hp
  subst hp
  generalize hbs : (rtMpInit mp memory start size blockSize : RtMempool Ag).blockSize = bs
  generalize htotal : (rtMpInit mp memory start size blockSize : RtMempool Ag).blockTotalCount = total
  rw [hbs, htotal] at hle
  rw [htotal] at hone
  have hsmall : total ≤ 0x100000000 := by
    have hmul : total * 1 ≤ total * (bs + sizeofPtr) :=
      Nat.mul_le_mul_left total (Nat.le_add_left 1 (bs + 3))
    omega
  have hlast : (total + 0xffffffff) % 0x100000000 = total - 1 := by omega
  have hne : ∀ i < total, blockAddr start bs i ≠ rtNull := by
    intro i hi
    rw [blockAddr_eq hle hi]
    unfold rtNull at *
    omega
  have hmemory : (rtMpInit mp memory start size blockSize : RtMempool Ag).memory =
      Function.update ((List.range total).foldl (initBlock start bs) memory)
        (blockAddr start bs (total - 1)) rtNull := by
    rw [← hlast, ← htotal, ← hbs]
    simp only [rtMpInit]
  have hzero : ptr start = some (blockAddr start bs 0) := by
    rw [ptr_of_ne hstart, blockAddr_eq hle (Nat.pos_of_ne_zero hone), Nat.zero_mul, Nat.add_zero]
  obtain ⟨n, rfl⟩ := Nat.exists_eq_succ_of_ne_zero hone
  refine ⟨?_, ?_, ?_, fun x hx => absurd hx List.not_mem_nil, nodup_grid hle, fun x hx => ?_⟩
  · show Links (header _) (ptr start) _
    have hgrid : grid start bs n.succ = (List.range' 0 n.succ).map (blockAddr start bs) := by
      unfold grid
      rw [List.range_eq_range']
    rw [hzero, hmemory, hgrid]
    refine links_of_linked (blockAddr start bs) hne (fun i hi => ?_) (fun i hi => ?_) n 0 (by omega)
    · rw [Function.update_of_ne (blockAddr_ne hle (by omega) (by omega))]
      exact foldl_initBlock hle memory _ le_rfl i (by omega)
    · obtain rfl : i = n + 1 - 1 := by omega
      exact Function.update_self ..
  · show (rtMpInit mp memory start size blockSize : RtMempool Ag).blockTotalCount = _
    rw [htotal]
    unfold grid
    rw [List.length_map, List.length_range]
  · rw [List.append_nil]
  · obtain ⟨i, hi, rfl⟩ := List.mem_map.mp hx
    exact hne i (List.mem_range.mp hi)

end Init

/-! ### The calls of `rt_mp_free` -/

/-- The block that is passed to `rt_mp_free` and not yet linked back. -/
def passed : Pc → Option ℕ
  | .freeEntry block => (ptr block).map (· - sizeofPtr)
  | .freeRead blockPtr _ => some blockPtr
  | _ => none

/-- A block is passed to `rt_mp_free` once, and the pool read from its header is its pool. -/
structure Agents {Ag : Type*} (pc : Ag → Pc) (mp : ℕ) (live freeing : List ℕ) : Prop where
  mem : ∀ ag b, passed (pc ag) = some b → b ∈ freeing
  unique : ∀ ag ag' b, passed (pc ag) = some b → passed (pc ag') = some b → ag = ag'
  read : ∀ ag b mp', pc ag = .freeRead b mp' → mp' = mp
  noFault : ∀ ag, pc ag ≠ .fault
  subset : freeing ⊆ live
  nodup : freeing.Nodup

variable {Ag : Type*} [DecidableEq Ag] {pc : Ag → Pc} {mp b : ℕ} {live freeing : List ℕ} {ag : Ag}
  {pc' : Pc}

/-- An agent goes on with the block it had, or with none. -/
lemma Agents.setPc (h : Agents pc mp live freeing)
    (hpassed : passed pc' = none ∨ passed pc' = passed (pc ag))
    (hread : ∀ b mp', pc' = .freeRead b mp' → mp' = mp) (hfault : pc' ≠ .fault) :
    Agents (Function.update pc ag pc') mp live freeing := by
  have hsame : ∀ ag' b, passed (Function.update pc ag pc' ag') = some b → passed (pc ag') = some b := by
    intro ag' b hb
    by_cases hag : ag' = ag
    · subst hag
      rw [Function.update_self] at hb
      rcases hpassed with hnone | heq
      · cases hnone.symm.trans hb
      · exact heq.symm.trans hb
    · rwa [Function.update_of_ne hag] at hb
  refine ⟨?_, ?_, ?_, ?_, h.subset, h.nodup⟩
  · intro ag' b hb
    exact h.mem ag' b (hsame ag' b hb)
  · intro ag₁ ag₂ b h₁ h₂
    exact h.unique ag₁ ag₂ b (hsame ag₁ b h₁) (hsame ag₂ b h₂)
  · intro ag' b mp' hag
    by_cases hne : ag' = ag
    · subst hne
      rw [Function.update_self] at hag
      exact hread b mp' hag
    · rw [Function.update_of_ne hne] at hag
      exact h.read ag' b mp' hag
  · intro ag'
    by_cases hne : ag' = ag
    · subst hne
      rw [Function.update_self]
      exact hfault
    · rw [Function.update_of_ne hne]
      exact h.noFault ag'

/-- A block is passed to `rt_mp_free`. -/
lemma Agents.pass (h : Agents pc mp live freeing) (hlive : b ∈ live) (hnot : b ∉ freeing) :
    Agents (Function.update pc ag (.freeEntry (b + sizeofPtr))) mp live (b :: freeing) := by
  have hb : passed (.freeEntry (b + sizeofPtr)) = some b := rfl
  refine ⟨?_, ?_, ?_, ?_, List.cons_subset.mpr ⟨hlive, h.subset⟩, List.nodup_cons.mpr ⟨hnot, h.nodup⟩⟩
  · intro ag' b' hb'
    by_cases hag : ag' = ag
    · subst hag
      rw [Function.update_self, hb] at hb'
      cases hb'
      exact List.mem_cons_self
    · rw [Function.update_of_ne hag] at hb'
      exact List.mem_cons_of_mem b (h.mem ag' b' hb')
  · intro ag₁ ag₂ b' h₁ h₂
    by_cases hag₁ : ag₁ = ag <;> by_cases hag₂ : ag₂ = ag
    · rw [hag₁, hag₂]
    · -- the block that `ag` passes was passed by nobody
      subst hag₁
      rw [Function.update_self, hb] at h₁
      rw [Function.update_of_ne hag₂] at h₂
      cases h₁
      exact absurd (h.mem ag₂ b h₂) hnot
    · subst hag₂
      rw [Function.update_of_ne hag₁] at h₁
      rw [Function.update_self, hb] at h₂
      cases h₂
      exact absurd (h.mem ag₁ b h₁) hnot
    · rw [Function.update_of_ne hag₁] at h₁
      rw [Function.update_of_ne hag₂] at h₂
      exact h.unique ag₁ ag₂ b' h₁ h₂
  · intro ag' b' mp' hpc
    by_cases hag : ag' = ag
    · subst hag
      rw [Function.update_self] at hpc
      cases hpc
    · rw [Function.update_of_ne hag] at hpc
      exact h.read ag' b' mp' hpc
  · intro ag' hpc
    by_cases hag : ag' = ag
    · subst hag
      rw [Function.update_self] at hpc
      cases hpc
    · rw [Function.update_of_ne hag] at hpc
      exact h.noFault ag' hpc

/-- The block that an agent passed is linked back. -/
lemma Agents.giveBack (h : Agents pc mp live freeing) (hb : passed (pc ag) = some b)
    (hlive : live.Nodup) (value : ℕ) :
    Agents (Function.update pc ag (.done value)) mp (live.erase b) (freeing.erase b) := by
  have hother : ∀ ag' b', passed (Function.update pc ag (.done value) ag') = some b' →
      passed (pc ag') = some b' ∧ b' ≠ b := by
    intro ag' b' hb'
    by_cases hag : ag' = ag
    · subst hag
      rw [Function.update_self] at hb'
      cases hb'
    · rw [Function.update_of_ne hag] at hb'
      refine ⟨hb', ?_⟩
      rintro rfl
      exact hag (h.unique ag' ag b' hb' hb)
  refine ⟨?_, ?_, ?_, ?_, ?_, h.nodup.erase b⟩
  · intro ag' b' hb'
    obtain ⟨hold, hne⟩ := hother ag' b' hb'
    exact (List.mem_erase_of_ne hne).mpr (h.mem ag' b' hold)
  · intro ag₁ ag₂ b' h₁ h₂
    exact h.unique ag₁ ag₂ b' (hother ag₁ b' h₁).1 (hother ag₂ b' h₂).1
  · intro ag' b' mp' hpc
    by_cases hag : ag' = ag
    · subst hag
      rw [Function.update_self] at hpc
      cases hpc
    · rw [Function.update_of_ne hag] at hpc
      exact h.read ag' b' mp' hpc
  · intro ag' hpc
    by_cases hag : ag' = ag
    · subst hag
      rw [Function.update_self] at hpc
      cases hpc
    · rw [Function.update_of_ne hag] at hpc
      exact h.noFault ag' hpc
  · intro b' hb'
    obtain ⟨hne, hmem⟩ := h.nodup.mem_erase_iff.mp hb'
    exact hlive.mem_erase_iff.mpr ⟨hne, h.subset hmem⟩

/-! ### A step -/

/-- What holds of the pool at `mp` with the blocks `all`, of which `free` are free. -/
structure Inv (p : RtMempool Ag) (mp : ℕ) (all free : List ℕ) : Prop where
  pool : p.mp = mp
  blocks : Blocks p.memory p.mp p.blockList p.blockFreeCount p.live all free
  agents : Agents p.pc p.mp p.live p.freeing
  gap : ∀ b ∈ all, ∀ b' ∈ all, b < b' → b + (p.blockSize + sizeofPtr) ≤ b'

variable {p p' : RtMempool Ag} {all free : List ℕ} {env : Env}

lemma Inv.setPc (h : Inv p mp all free) (hpassed : passed pc' = none ∨ passed pc' = passed (p.pc ag))
    (hread : ∀ b mp', pc' = .freeRead b mp' → mp' = p.mp) (hfault : pc' ≠ .fault) :
    Inv (setPc p ag pc') mp all free :=
  ⟨h.pool, h.blocks, h.agents.setPc hpassed hread hfault, h.gap⟩

/-- An agent goes on with no block to give back. -/
lemma Inv.setPc_of_none (h : Inv p mp all free) (hpassed : passed pc' = none) (hfault : pc' ≠ .fault) :
    Inv (Mempool.setPc p ag pc') mp all free := by
  refine h.setPc (.inl hpassed) (fun b mp' hpc => ?_) hfault
  rw [hpc] at hpassed
  cases hpassed

lemma Inv.dequeue (h : Inv p mp all free) (ready : Bool) : Inv (dequeue p ready) mp all free := by
  unfold Mempool.dequeue
  split
  · exact h
  · split
    · exact ⟨h.pool, h.blocks, h.agents, h.gap⟩
    · exact h

/-- **The loop of `rt_mp_alloc`**: if a block is free, the head of the list is one. -/
lemma Inv.allocLoop (h : Inv p mp all free) (ag : Ag) (time : BitVec 32) (env : Env) :
    ∃ free', Inv (allocLoop p ag time env) mp all free' := by
  unfold Mempool.allocLoop
  by_cases hempty : p.blockFreeCount = 0
  · rw [if_pos hempty]
    refine ⟨free, ?_⟩
    split
    · exact h.setPc_of_none rfl Pc.noConfusion
    · have hsuspend : Inv (if env.suspended then
          { setError p ag .eok with suspendThread := (setError p ag .eok).suspendThread ++ [ag] }
          else setError p ag .eok) mp all free := by
        split
        · exact ⟨h.pool, h.blocks, h.agents, h.gap⟩
        · exact ⟨h.pool, h.blocks, h.agents, h.gap⟩
      exact hsuspend.setPc_of_none rfl Pc.noConfusion
  · rw [if_neg hempty]
    obtain ⟨hne, free', hblocks⟩ := h.blocks.take hempty
    simp only [if_neg hne]
    refine ⟨free', h.pool, hblocks, ?_, h.gap⟩
    have hagents : Agents p.pc p.mp (p.blockList :: p.live) p.freeing :=
      ⟨h.agents.mem, h.agents.unique, h.agents.read, h.agents.noFault,
        List.subset_cons_of_subset _ h.agents.subset, h.agents.nodup⟩
    exact hagents.setPc (.inl rfl) (fun b mp' hpc => Pc.noConfusion hpc) Pc.noConfusion

/-- **The section of `rt_mp_free`.** -/
lemma Inv.freeSection (h : Inv p mp all free) {mp' : ℕ} (hpc : p.pc ag = .freeRead b mp') (env : Env) :
    ∃ free', Inv (freeSection p ag b mp' env) mp all free' := by
  have hb : passed (p.pc ag) = some b := by
    rw [hpc]
    rfl
  have hlive := h.agents.subset (h.agents.mem ag b hb)
  have hblocks := h.blocks.giveBack hlive
  unfold Mempool.freeSection
  rw [if_pos (h.agents.read ag b mp' hpc)]
  refine ⟨b :: free, ?_⟩
  have hnodup := (List.nodup_append.mp h.blocks.nodup_append).2.1
  have hagents := h.agents.giveBack hb hnodup rtNull
  unfold Mempool.dequeue
  split
  · exact ⟨h.pool, hblocks, hagents, h.gap⟩
  · split
    · exact ⟨h.pool, hblocks, hagents, h.gap⟩
    · exact ⟨h.pool, hblocks, hagents, h.gap⟩

/-- **An agent goes on.** -/
lemma Inv.runAgent (h : Inv p mp all free) (hs : runAgent p ag env = some p') :
    ∃ free', Inv p' mp all free' := by
  unfold Mempool.runAgent at hs
  cases hpc : p.pc ag with
  | idle =>
    rw [hpc] at hs
    cases hs
  | allocEntry time =>
    rw [hpc] at hs
    cases hs
    exact h.allocLoop ag time env
  | allocWait time =>
    rw [hpc] at hs
    simp only at hs
    split at hs
    · cases hs
    · split at hs
      · cases hs
        exact ⟨free, h.setPc_of_none rfl Pc.noConfusion⟩
      · cases hs
        exact h.allocLoop ag _ env
  | freeEntry block =>
    rw [hpc] at hs
    simp only at hs
    split at hs
    · cases hs
      exact ⟨free, h.setPc_of_none rfl Pc.noConfusion⟩
    · rename_i hne
      cases hs
      have hpassed : passed (p.pc ag) = some (block - sizeofPtr) := by
        rw [hpc]
        show (ptr block).map (· - sizeofPtr) = _
        rw [ptr_of_ne hne, Option.map_some]
      have hlive := h.agents.subset (h.agents.mem ag _ hpassed)
      refine ⟨free, h.setPc (.inr hpassed.symm) (fun b mp' heq => ?_) Pc.noConfusion⟩
      cases heq
      exact h.blocks.owner _ hlive
  | freeRead blockPtr mp' =>
    rw [hpc] at hs
    cases hs
    exact h.freeSection hpc env
  | done block =>
    rw [hpc] at hs
    cases hs
    exact ⟨free, h.setPc_of_none rfl Pc.noConfusion⟩
  | fault => exact absurd hpc (h.agents.noFault ag)

omit [DecidableEq Ag] in
/-- A word inside a block in use is no header. -/
lemma Inv.notMem_of_store (h : Inv p mp all free) {addr : ℕ} (hb : b ∈ p.live)
    (hlow : b + sizeofPtr ≤ addr) (hhigh : addr + sizeofPtr ≤ b + sizeofPtr + p.blockSize) :
    addr ∉ all := by
  intro hmem
  have hgap := h.gap b (h.blocks.mem_grid hb) addr hmem
  unfold sizeofPtr at *
  omega

/-- **Every step** keeps the blocks. -/
lemma inv_step (h : Inv p mp all free) {a : Action Ag} (hs : step p a = some p') :
    ∃ free', Inv p' mp all free' := by
  cases a with
  | alloc ag time =>
    unfold step at hs
    simp only at hs
    split at hs
    · cases hs
      exact ⟨free, h.setPc_of_none rfl Pc.noConfusion⟩
    · cases hs
  | free ag blockPtr =>
    unfold step at hs
    simp only at hs
    split at hs
    · split at hs
      · rename_i hguard
        cases hs
        exact ⟨free, h.pool, h.blocks, h.agents.pass hguard.1 hguard.2, h.gap⟩
      · cases hs
    · cases hs
  | freeNull ag =>
    unfold step at hs
    simp only at hs
    split at hs
    · cases hs
      exact ⟨free, h.setPc_of_none rfl Pc.noConfusion⟩
    · cases hs
  | run ag env => exact h.runAgent hs
  | expire ag =>
    unfold step at hs
    simp only at hs
    split at hs
    · cases hs
      exact ⟨free, h.pool, h.blocks, h.agents, h.gap⟩
    · cases hs
  | threadResume ag =>
    cases hs
    exact ⟨free, h.pool, h.blocks, h.agents, h.gap⟩
  | store blockPtr addr value =>
    unfold step at hs
    simp only at hs
    split at hs
    · rename_i hguard
      cases hs
      have hout := h.notMem_of_store hguard.1 hguard.2.1 hguard.2.2
      exact ⟨free, h.pool, h.blocks.store value hout, h.agents, h.gap⟩
    · cases hs

/-! ### Every run -/

omit [DecidableEq Ag] in
/-- The invariant holds of a new pool. -/
lemma inv_rtMpInit {memory : ℕ → ℕ} {start size blockSize : ℕ} (hstart : start ≠ rtNull)
    (hfit : start + size ≤ 0x100000000)
    (hp : rtMpInit mp memory start size blockSize = p) (hone : p.blockTotalCount ≠ 0) :
    ∃ free, Inv p mp (grid start p.blockSize p.blockTotalCount) free := by
  have hblocks := blocks_rtMpInit mp memory hstart hfit hp hone
  have hle := fits_rtMpInit mp memory hfit hp
  subst hp
  refine ⟨_, rfl, hblocks, ?_, ?_⟩
  · refine ⟨?_, ?_, ?_, ?_, List.nil_subset _, List.nodup_nil⟩
    · intro ag b hb
      cases hb
    · intro ag ag' b hb
      cases hb
    · intro ag b mp' hpc
      cases hpc
    · intro ag hpc
      cases hpc
  · intro b hb b' hb' hlt
    obtain ⟨i, hi, rfl⟩ := List.mem_map.mp hb
    obtain ⟨j, hj, rfl⟩ := List.mem_map.mp hb'
    rcases Nat.lt_trichotomy i j with hij | rfl | hij
    · exact blockAddr_gap hle hij (List.mem_range.mp hj)
    · omega
    · have hgap := blockAddr_gap hle hij (List.mem_range.mp hi)
      omega

/-- **The blocks of a pool are conserved**: whatever agents allocate and free in whatever order, from
`block_list` the headers lead through `block_free_count` different blocks of the pool to `RT_NULL`; these
and the blocks in use are all the blocks, each of them once; the header of each block in use is the address
of the pool; and no agent follows `RT_NULL` or the address of something that is not the pool. -/
theorem mempool_conserves (mp : ℕ) (memory : ℕ → ℕ) (start size blockSize : ℕ) (hstart : start ≠ rtNull)
    (hfit : start + size ≤ 0x100000000)
    (hone : (rtMpInit mp memory start size blockSize : RtMempool Ag).blockTotalCount ≠ 0)
    (as : List (Action Ag)) (p : RtMempool Ag)
    (hrun : exec step (rtMpInit mp memory start size blockSize) as = some p) :
    let p₀ : RtMempool Ag := rtMpInit mp memory start size blockSize
    ∃ free, Links (header p.memory) (ptr p.blockList) free ∧
      free.length = p.blockFreeCount ∧
      (free ++ p.live).Nodup ∧
      (free ++ p.live).Perm (grid start p₀.blockSize p₀.blockTotalCount) ∧
      (∀ b ∈ p.live, p.memory b = mp) ∧
      ∀ ag, p.pc ag ≠ .fault := by
  intro p₀
  have hinv : ∃ free, Inv p mp (grid start p₀.blockSize p₀.blockTotalCount) free := by
    refine exec_inv (I := fun p => ∃ free, Inv p mp (grid start p₀.blockSize p₀.blockTotalCount) free)
      (fun p a p' h hs => ?_) as _ p (inv_rtMpInit hstart hfit rfl hone) hrun
    obtain ⟨free, h⟩ := h
    exact inv_step h hs
  obtain ⟨free, h⟩ := hinv
  refine ⟨free, h.blocks.links, h.blocks.count.symm, h.blocks.nodup_append, h.blocks.perm, ?_,
    h.agents.noFault⟩
  intro b hb
  exact (h.blocks.owner b hb).trans h.pool

/-- Of two agents one takes both blocks of a pool, the other waits for one and gets the first one that is
given back. -/
def handOver : List (Action Bool) :=
  let env : Env := ⟨0#32, true, true⟩
  [.alloc false 0#32, .run false env, .run false env, .alloc false 0#32, .run false env, .run false env,
    .alloc true 10#32, .run true env, .free false 0x20000014, .run false env, .run false env,
    .run true env]

theorem mempool_conserves_handOver :
    let p₀ : RtMempool Bool := rtMpInit 0x20001000 (fun _ => 0) 0x20000000 40 10
    ∃ p, exec step p₀ handOver = some p ∧ p.pc true = .done 0x20000018 ∧
      ∃ free, Links (header p.memory) (ptr p.blockList) free ∧
        free.length = p.blockFreeCount ∧
        (free ++ p.live).Nodup ∧
        (free ++ p.live).Perm (grid 0x20000000 p₀.blockSize p₀.blockTotalCount) ∧
        (∀ b ∈ p.live, p.memory b = 0x20001000) ∧
        ∀ ag, p.pc ag ≠ .fault := by
  intro p₀
  have hrun : ∃ p ∈ exec step p₀ handOver, p.pc true = .done 0x20000018 := by decide +kernel
  obtain ⟨p, hp, hpc⟩ := hrun
  exact ⟨p, hp, hpc, mempool_conserves 0x20001000 (fun _ => 0) 0x20000000 40 10 (by decide)
    (by decide) (by decide) handOver p hp⟩

end N32L43x.Mempool
