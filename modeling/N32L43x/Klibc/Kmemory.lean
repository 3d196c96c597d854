import N32L43x.Lib.Memory

/-!
`rt_memset`, `rt_memcpy` and `rt_memmove` of `rt-thread/src/klibc/kstring.c`.  A `long` has four bytes, the
least significant one first.  All three return their first argument, which is left out.
-/

namespace N32L43x.Klibc

open N32L43x.Lib N32L43x.Lib.Memory

abbrev Byte := BitVec 8

abbrev Ram := Addr → Byte

/-! ### The functions -/

/-- `*(unsigned long *)p`. -/
def loadWord (m : Ram) (p : Addr) : BitVec 32 := m (p + 3#32) ++ m (p + 2#32) ++ m (p + 1#32) ++ m p

/-- `*(unsigned long *)p = w`. -/
def storeWord (m : Ram) (p : Addr) (w : BitVec 32) : Ram :=
  let m := Function.update m p (w.extractLsb' 0 8)
  let m := Function.update m (p + 1#32) (w.extractLsb' 8 8)
  let m := Function.update m (p + 2#32) (w.extractLsb' 16 8)
  Function.update m (p + 3#32) (w.extractLsb' 24 8)

/-- `while (count--) *m++ = (char)d;`. -/
def setBytes (m : Ram) (p : Addr) (d : Byte) : ℕ → Ram
  | 0 => m
  | count + 1 => setBytes (Function.update m p d) (p + 1#32) d count

/-- The loop of `rt_memset` over words: the memory, `aligned_addr` and `count` after it. -/
def setWords (m : Ram) (p : Addr) (buffer : BitVec 32) (count : ℕ) : Ram × Addr × ℕ :=
  if count ≥ 4 then setWords (storeWord m p buffer) (p + 4#32) buffer (count - 4) else (m, p, count)
termination_by count
decreasing_by omega

/-- The loop of `rt_memset` over four words at a time. -/
def setBlocks (m : Ram) (p : Addr) (buffer : BitVec 32) (count : ℕ) : Ram × Addr × ℕ :=
  if count ≥ 4 * 4 then
    let m := storeWord m p buffer
    let p := p + 4#32
    let m := storeWord m p buffer
    let p := p + 4#32
    let m := storeWord m p buffer
    let p := p + 4#32
    let m := storeWord m p buffer
    let p := p + 4#32
    setBlocks m p buffer (count - 4 * 4)
  else (m, p, count)
termination_by count
decreasing_by omega

/-- `rt_memset`. -/
def rtMemset (m : Ram) (s : Addr) (c count : BitVec 32) : Ram :=
  let d : Byte := c.setWidth 8
  if ¬ count.toNat < 4 ∧ s &&& 3#32 = 0#32 then
    let buffer : BitVec 32 := d ++ d ++ d ++ d
    let (m, alignedAddr, count) := setBlocks m s buffer count.toNat
    let (m, alignedAddr, count) := setWords m alignedAddr buffer count
    -- pick up the remainder with a bytewise loop
    setBytes m alignedAddr d count
  else setBytes m s d count.toNat

/-- `while (len--) *dst_ptr++ = *src_ptr++;`. -/
def copyBytes (m : Ram) (dst src : Addr) : ℕ → Ram
  | 0 => m
  | len + 1 => copyBytes (Function.update m dst (m src)) (dst + 1#32) (src + 1#32) len

/-- The loop of `rt_memcpy` over words: the memory, the pointers and `len` after it. -/
def copyWords (m : Ram) (dst src : Addr) (len : ℕ) : Ram × Addr × Addr × ℕ :=
  if len ≥ 4 then copyWords (storeWord m dst (loadWord m src)) (dst + 4#32) (src + 4#32) (len - 4)
  else (m, dst, src, len)
termination_by len
decreasing_by omega

/-- The loop of `rt_memcpy` over four words at a time. -/
def copyBlocks (m : Ram) (dst src : Addr) (len : ℕ) : Ram × Addr × Addr × ℕ :=
  if len ≥ 4 * 4 then
    let m := storeWord m dst (loadWord m src)
    let dst := dst + 4#32
    let src := src + 4#32
    let m := storeWord m dst (loadWord m src)
    let dst := dst + 4#32
    let src := src + 4#32
    let m := storeWord m dst (loadWord m src)
    let dst := dst + 4#32
    let src := src + 4#32
    let m := storeWord m dst (loadWord m src)
    let dst := dst + 4#32
    let src := src + 4#32
    copyBlocks m dst src (len - 4 * 4)
  else (m, dst, src, len)
termination_by len
decreasing_by omega

/-- `rt_memcpy`. -/
def rtMemcpy (m : Ram) (dst src : Addr) (count : BitVec 32) : Ram :=
  if ¬ count.toNat < 4 * 4 ∧ (src &&& 3#32) ||| (dst &&& 3#32) = 0#32 then
    let (m, dst, src, len) := copyBlocks m dst src count.toNat
    let (m, dst, src, len) := copyWords m dst src len
    -- pick up any residual with a byte copier
    copyBytes m dst src len
  else copyBytes m dst src count.toNat

/-- `while (n--) *(--tmp) = *(--s);`. -/
def copyBytesDown (m : Ram) (tmp s : Addr) : ℕ → Ram
  | 0 => m
  | n + 1 =>
    copyBytesDown (Function.update m (tmp - 1#32) (m (s - 1#32))) (tmp - 1#32) (s - 1#32) n

/-- `rt_memmove`. -/
def rtMemmove (m : Ram) (dest src : Addr) (n : BitVec 32) : Ram :=
  if src < dest ∧ dest < src + n then copyBytesDown m (dest + n) (src + n) n.toNat
  else copyBytes m dest src n.toNat

/-! ### Words -/

variable {m m' : Ram} {p p' dst src dst' src' : Addr} {d : Byte} {n n' : ℕ}

lemma storeWord_bytes (m : Ram) (p : Addr) (b0 b1 b2 b3 : Byte) :
    storeWord m p (b3 ++ b2 ++ b1 ++ b0) =
      Function.update (Function.update (Function.update (Function.update m p b0) (p + 1#32) b1)
        (p + 2#32) b2) (p + 3#32) b3 := by
  have h0 : (b3 ++ b2 ++ b1 ++ b0).extractLsb' 0 8 = b0 := BitVec.extractLsb'_append_eq_right
  have h1 : (b3 ++ b2 ++ b1 ++ b0).extractLsb' 8 8 = b1 := by
    rw [BitVec.extractLsb'_append_eq_of_le (by omega), BitVec.extractLsb'_append_eq_right]
  have h2 : (b3 ++ b2 ++ b1 ++ b0).extractLsb' 16 8 = b2 := by
    rw [BitVec.extractLsb'_append_eq_of_le (by omega), BitVec.extractLsb'_append_eq_of_le (by omega),
      BitVec.extractLsb'_append_eq_right]
  have h3 : (b3 ++ b2 ++ b1 ++ b0).extractLsb' 24 8 = b3 := by
    rw [BitVec.extractLsb'_append_eq_of_le (by omega), BitVec.extractLsb'_append_eq_of_le (by omega),
      BitVec.extractLsb'_append_eq_of_le (by omega)]
    simp
  unfold storeWord
  rw [h0, h1, h2, h3]

lemma storeWord_fill : storeWord m p (d ++ d ++ d ++ d) = fill m p d 4 := by
  rw [storeWord_bytes, show (4 : ℕ) = 1 + 1 + 1 + 1 from rfl, fill_add (by omega), fill_add (by omega),
    fill_add (by omega)]
  simp only [fill_one]

/-- A word is read before it is written, whatever the two ranges have in common. -/
lemma storeWord_loadWord : storeWord m dst (loadWord m src) = copy m dst src 4 := by
  rw [loadWord, storeWord_bytes, copy_succ (by omega), copy_succ (by omega), copy_succ (by omega), copy_one]

/-! ### `rt_memset` -/

lemma setBytes_eq (hn : n ≤ 0x100000000) : setBytes m p d n = fill m p d n := by
  induction n generalizing m p with
  | zero => exact fill_zero.symm
  | succ n ih => rw [setBytes, ih (by omega), Nat.add_comm, fill_add (by omega), fill_one]

/-- A part of the range is filled: the memory, the pointer and the count say which one is left. -/
def Filled (m : Ram) (p : Addr) (d : Byte) (count : ℕ) (r : Ram × Addr × ℕ) : Prop :=
  ∃ k, k + r.2.2 = count ∧ r.1 = fill m p d k ∧ r.2.1 = p + BitVec.ofNat 32 k

namespace Filled

lemma refl : Filled m p d n (m, p, n) := ⟨0, by simp [fill_zero]⟩

lemma trans {r : Ram × Addr × ℕ} (hn : n < 0x100000000) (h : Filled m p d n (m', p', n'))
    (hr : Filled m' p' d n' r) : Filled m p d n r := by
  obtain ⟨k, hk, rfl, rfl⟩ := h
  obtain ⟨k', hk', hm, hp⟩ := hr
  dsimp only at hk
  refine ⟨k + k', by omega, ?_, ?_⟩
  · rw [hm, fill_add (by omega)]
  · rw [hp, add_ofNat_add]

lemma word (h : n ≥ 4) : Filled m p d n (storeWord m p (d ++ d ++ d ++ d), p + 4#32, n - 4) :=
  ⟨4, by dsimp only; omega, storeWord_fill, rfl⟩

lemma count_le (h : Filled m p d n (m', p', n')) : n' ≤ n := by
  obtain ⟨k, hk, -⟩ := h
  exact hk ▸ Nat.le_add_left _ _

lemma setBytes_rest (hn : n < 0x100000000) (h : Filled m p d n (m', p', n')) :
    setBytes m' p' d n' = fill m p d n := by
  obtain ⟨k, rfl, rfl, rfl⟩ := h
  dsimp only at hn ⊢
  rw [setBytes_eq (by omega), fill_add (by omega)]

end Filled

lemma filled_setWords (hn : n < 0x100000000) : Filled m p d n (setWords m p (d ++ d ++ d ++ d) n) := by
  fun_induction setWords m p (d ++ d ++ d ++ d) n with
  | case1 m p n h ih => exact (Filled.word h).trans hn (ih (by omega))
  | case2 m p n h => exact Filled.refl

lemma filled_setBlocks (hn : n < 0x100000000) :
    Filled m p d n (setBlocks m p (d ++ d ++ d ++ d) n) := by
  fun_induction setBlocks m p (d ++ d ++ d ++ d) n with
  | case1 m p n h m1 p1 m2 p2 m3 p3 m4 p4 ih =>
    have h1 : Filled m p d n (m1, p1, n - 4) := Filled.word (by omega)
    have h2 : Filled m p d n (m2, p2, n - 4 - 4) := h1.trans hn (Filled.word (by omega))
    have h3 : Filled m p d n (m3, p3, n - 4 - 4 - 4) := h2.trans hn (Filled.word (by omega))
    have h4 : Filled m p d n (m4, p4, n - 4 * 4) := by
      rw [show n - 4 * 4 = n - 4 - 4 - 4 - 4 by omega]
      exact h3.trans hn (Filled.word (by omega))
    exact h4.trans hn (ih (by omega))
  | case2 m p n h => exact Filled.refl

lemma rtMemset_eq (m : Ram) (s : Addr) (c count : BitVec 32) :
    rtMemset m s c count = fill m s (c.setWidth 8) count.toNat := by
  have hn := count.isLt
  unfold rtMemset
  generalize BitVec.setWidth 8 c = d
  split
  · have hblocks := filled_setBlocks (m := m) (p := s) (d := d) hn
    dsimp only
    rcases hr1 : setBlocks m s (d ++ d ++ d ++ d) count.toNat with ⟨m1, p1, n1⟩
    rw [hr1] at hblocks
    have hwords := filled_setWords (m := m1) (p := p1) (d := d) (hblocks.count_le.trans_lt hn)
    dsimp only
    rcases hr2 : setWords m1 p1 (d ++ d ++ d ++ d) n1 with ⟨m2, p2, n2⟩
    rw [hr2] at hwords
    exact (hblocks.trans hn hwords).setBytes_rest hn
  · exact setBytes_eq hn.le

/-! ### `rt_memcpy` -/

/-- No byte is written before it is read, when the copy starts at the first byte. -/
def Ahead (dst src : Addr) (n : ℕ) : Prop :=
  ∀ i j, i < j → j < n → dst + BitVec.ofNat 32 i ≠ src + BitVec.ofNat 32 j

namespace Ahead

lemma drop {k : ℕ} (h : Ahead dst src n) (hk : k + n' = n) :
    Ahead (dst + BitVec.ofNat 32 k) (src + BitVec.ofNat 32 k) n' := by
  intro i j hij hj
  rw [add_ofNat_add, add_ofNat_add]
  exact h (k + i) (k + j) (by omega) (by omega)

/-- A copy in two parts. -/
lemma copy_add {k : ℕ} (h : Ahead dst src n) (hn : n < 0x100000000) (hk : k + n' ≤ n) :
    copy m dst src (k + n') =
      copy (copy m dst src k) (dst + BitVec.ofNat 32 k) (src + BitVec.ofNat 32 k) n' :=
  Memory.copy_add (by omega) fun i j hi hij hj => h i j (by omega) (by omega)

end Ahead

lemma copyBytes_eq (h : Ahead dst src n) (hn : n < 0x100000000) :
    copyBytes m dst src n = copy m dst src n := by
  induction n generalizing m dst src with
  | zero => exact copy_zero.symm
  | succ n ih =>
    rw [copyBytes, ih (h.drop (Nat.add_comm 1 n)) (by omega), Nat.add_comm n 1,
      h.copy_add hn (Nat.add_comm 1 n).le, copy_one]

/-- A part of the range is copied: the memory, the pointers and `len` say which one is left. -/
def Copied (m : Ram) (dst src : Addr) (count : ℕ) (r : Ram × Addr × Addr × ℕ) : Prop :=
  ∃ k, k + r.2.2.2 = count ∧ r.1 = copy m dst src k ∧ r.2.1 = dst + BitVec.ofNat 32 k ∧
    r.2.2.1 = src + BitVec.ofNat 32 k

namespace Copied

lemma refl : Copied m dst src n (m, dst, src, n) := ⟨0, by simp [copy_zero]⟩

lemma word (h : n ≥ 4) :
    Copied m dst src n (storeWord m dst (loadWord m src), dst + 4#32, src + 4#32, n - 4) :=
  ⟨4, by dsimp only; omega, storeWord_loadWord, rfl, rfl⟩

lemma count_le (h : Copied m dst src n (m', dst', src', n')) : n' ≤ n := by
  obtain ⟨k, hk, -⟩ := h
  exact hk ▸ Nat.le_add_left _ _

lemma ahead (h : Copied m dst src n (m', dst', src', n')) (ha : Ahead dst src n) :
    Ahead dst' src' n' := by
  obtain ⟨k, hk, -, rfl, rfl⟩ := h
  exact ha.drop hk

lemma trans {r : Ram × Addr × Addr × ℕ} (ha : Ahead dst src n) (hn : n < 0x100000000)
    (h : Copied m dst src n (m', dst', src', n')) (hr : Copied m' dst' src' n' r) :
    Copied m dst src n r := by
  obtain ⟨k, hk, rfl, rfl, rfl⟩ := h
  obtain ⟨k', hk', hm, hd, hs⟩ := hr
  dsimp only at hk
  refine ⟨k + k', by omega, ?_, ?_, ?_⟩
  · rw [hm, ha.copy_add hn (by omega)]
  · rw [hd, add_ofNat_add]
  · rw [hs, add_ofNat_add]

lemma copyBytes_rest (ha : Ahead dst src n) (hn : n < 0x100000000)
    (h : Copied m dst src n (m', dst', src', n')) : copyBytes m' dst' src' n' = copy m dst src n := by
  have ha' := h.ahead ha
  obtain ⟨k, hk, rfl, rfl, rfl⟩ := h
  dsimp only at hk
  rw [copyBytes_eq ha' (by omega), ← hk, ha.copy_add hn hk.le]

end Copied

lemma copied_copyWords (ha : Ahead dst src n) (hn : n < 0x100000000) :
    Copied m dst src n (copyWords m dst src n) := by
  fun_induction copyWords m dst src n with
  | case1 m dst src n h ih =>
    have hword : Copied m dst src n _ := Copied.word h
    exact hword.trans ha hn (ih (hword.ahead ha) (by omega))
  | case2 m dst src n h => exact Copied.refl

lemma copied_copyBlocks (ha : Ahead dst src n) (hn : n < 0x100000000) :
    Copied m dst src n (copyBlocks m dst src n) := by
  fun_induction copyBlocks m dst src n with
  | case1 m dst src n h m1 d1 s1 m2 d2 s2 m3 d3 s3 m4 d4 s4 ih =>
    have h1 : Copied m dst src n (m1, d1, s1, n - 4) := Copied.word (by omega)
    have h2 : Copied m dst src n (m2, d2, s2, n - 4 - 4) := h1.trans ha hn (Copied.word (by omega))
    have h3 : Copied m dst src n (m3, d3, s3, n - 4 - 4 - 4) :=
      h2.trans ha hn (Copied.word (by omega))
    have h4 : Copied m dst src n (m4, d4, s4, n - 4 * 4) := by
      rw [show n - 4 * 4 = n - 4 - 4 - 4 - 4 by omega]
      exact h3.trans ha hn (Copied.word (by omega))
    exact h4.trans ha hn (ih (h4.ahead ha) (by omega))
  | case2 m dst src n h => exact Copied.refl

lemma rtMemcpy_eq {count : BitVec 32} (ha : Ahead dst src count.toNat) :
    rtMemcpy m dst src count = copy m dst src count.toNat := by
  have hn := count.isLt
  unfold rtMemcpy
  split
  · have hblocks := copied_copyBlocks (m := m) ha hn
    rcases hr1 : copyBlocks m dst src count.toNat with ⟨m1, d1, s1, n1⟩
    rw [hr1] at hblocks
    have hwords := copied_copyWords (m := m1) (hblocks.ahead ha) (hblocks.count_le.trans_lt hn)
    dsimp only
    rcases hr2 : copyWords m1 d1 s1 n1 with ⟨m2, d2, s2, n2⟩
    rw [hr2] at hwords
    exact (hblocks.trans ha hn hwords).copyBytes_rest ha hn
  · exact copyBytes_eq ha hn

/-! ### `rt_memmove` -/

/-- No byte is written before it is read, when the copy starts at the last byte. -/
def Behind (dst src : Addr) (n : ℕ) : Prop :=
  ∀ i j, i < j → j < n → src + BitVec.ofNat 32 i ≠ dst + BitVec.ofNat 32 j

lemma copyBytesDown_eq (h : Behind dst src n) (hn : n < 0x100000000) :
    copyBytesDown m (dst + BitVec.ofNat 32 n) (src + BitVec.ofNat 32 n) n = copy m dst src n := by
  induction n generalizing m with
  | zero => exact copy_zero.symm
  | succ n ih =>
    have hprev (p : Addr) : p + BitVec.ofNat 32 (n + 1) - 1#32 = p + BitVec.ofNat 32 n := by
      rw [BitVec.ofNat_add, ← BitVec.add_assoc, BitVec.add_sub_cancel]
    rw [copyBytesDown, hprev, hprev, ih (fun i j hij hj => h i j hij (by omega)) (by omega),
      copy_add_down (by omega) fun i j hi hij hj => h i j (by omega) (by omega), copy_one]

/-- The range and the address behind it are in the address space, as for every object of the program. -/
def Fits (p : Addr) (n : ℕ) : Prop := p.toNat + n < 0x100000000

namespace Fits

lemma toNat_add {i : ℕ} (h : Fits p n) (hi : i ≤ n) : (p + BitVec.ofNat 32 i).toNat = p.toNat + i := by
  unfold Fits at h
  rw [BitVec.toNat_add, toNat_ofNat_of_lt (by omega), Nat.mod_eq_of_lt (by omega)]

/-- The range that starts first is copied from its first byte on. -/
lemma ahead (hd : Fits dst n) (hs : Fits src n)
    (h : dst.toNat ≤ src.toNat ∨ src.toNat + n ≤ dst.toNat) : Ahead dst src n := by
  intro i j hij hj heq
  have heq := congrArg BitVec.toNat heq
  rw [hd.toNat_add (by omega), hs.toNat_add (by omega)] at heq
  omega

lemma behind (hd : Fits dst n) (hs : Fits src n) (h : src.toNat < dst.toNat) : Behind dst src n := by
  intro i j hij hj heq
  have heq := congrArg BitVec.toNat heq
  rw [hs.toNat_add (by omega), hd.toNat_add (by omega)] at heq
  omega

end Fits

lemma rtMemmove_eq {n : BitVec 32} (hd : Fits dst n.toNat) (hs : Fits src n.toNat) :
    rtMemmove m dst src n = copy m dst src n.toNat := by
  have hn := n.isLt
  have hend := hs.toNat_add le_rfl
  rw [BitVec.ofNat_toNat, BitVec.setWidth_eq] at hend
  unfold rtMemmove
  simp only [BitVec.lt_def, hend]
  split
  · rename_i h
    have hdown := copyBytesDown_eq (m := m) (hd.behind hs h.1) hn
    rwa [BitVec.ofNat_toNat, BitVec.setWidth_eq] at hdown
  · exact copyBytes_eq (hd.ahead hs (by omega)) hn

/-! ### All three -/

/-- The two ranges have no byte in common. -/
def Apart (dst src : Addr) (n : ℕ) : Prop :=
  ∀ i < n, ∀ j < n, dst + BitVec.ofNat 32 i ≠ src + BitVec.ofNat 32 j

lemma Apart.ahead (h : Apart dst src n) : Ahead dst src n :=
  fun i j hij hj => h i (hij.trans hj) j hj

/-- **Bytewise.**  Each function leaves the memory that its definition byte by byte gives: the range filled,
or copied as it was before, and every other byte as it was. -/
theorem memory_bytewise (m : Ram) :
    (∀ s c count, rtMemset m s c count = fill m s (c.setWidth 8) count.toNat) ∧
      (∀ dst src count, Apart dst src count.toNat →
        rtMemcpy m dst src count = copy m dst src count.toNat) ∧
      ∀ dest src n, Fits dest n.toNat → Fits src n.toNat →
        rtMemmove m dest src n = copy m dest src n.toNat :=
  ⟨rtMemset_eq m, fun _ _ _ h => rtMemcpy_eq h.ahead, fun _ _ _ => rtMemmove_eq⟩

/-- A memory whose bytes are their addresses: twenty bytes copied in words, and twenty moved by two. -/
theorem memory_bytewise_words :
    rtMemcpy (fun a => a.setWidth 8) 0x20000100#32 0x20000000#32 20#32 0x20000113#32 = 0x13#8 ∧
      rtMemmove (fun a => a.setWidth 8) 0x20000002#32 0x20000000#32 20#32 0x20000015#32 = 0x13#8 := by
  constructor
  · rw [(memory_bytewise _).2.1 _ _ _ fun i hi j hj heq => ?_]
    · decide
    · have heq := congrArg BitVec.toNat heq
      simp at heq hi hj
      omega
  · rw [(memory_bytewise _).2.2 _ _ _ (by unfold Fits; decide) (by unfold Fits; decide)]
    decide

end N32L43x.Klibc
