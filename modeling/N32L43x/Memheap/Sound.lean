import N32L43x.Memheap.Calls

/-!
Programs that use the memory heap: after every sequence of calls on live blocks the blocks tile the pool, the
free list holds the free ones, and the live payloads are disjoint.
-/

namespace N32L43x.Memheap

open N32L43x.Lib.Dll N32L43x.Lib.Run
open N32L43x.Mem (add32 sub32 rtAlign rtAlignDown)

variable {s s' : RtMemheap} {m m' : ℕ → ℕ} {addr fh lo hi size : ℕ} {bs fs live : List ℕ} {b p : ℕ}

/-- The payload of a block that was returned as `p` ends before the one at `q` begins. -/
def Below (m : ℕ → ℕ) (p q : ℕ) : Prop := p + memitemSize m (p - memheapSize) ≤ q

/-- The heap has the blocks `blocks` and the free blocks `frees`. -/
structure Sound (s : System) (blocks frees : List ℕ) : Prop where
  ring : Ring (fun b => get s.heap.memory b .next) (fun b => get s.heap.memory b .prev) blocks
  first : blocks.head? = some s.heap.startAddr ∧ s.heap.blockList = s.heap.startAddr
  /-- in the order of their addresses, without a gap -/
  tiles : blocks.IsChain fun a b => a + memheapSize + memitemSize s.heap.memory a = b
  tailer : ∃ t, blocks.getLast? = some t ∧ IsUsed s.heap.memory t ∧
    t + memheapSize = s.heap.startAddr + s.heap.poolSize
  freeRing : Ring (fun b => get s.heap.memory b .nextFree) (fun b => get s.heap.memory b .prevFree)
    (s.heap.freeList :: frees)
  frees_nodup : (s.heap.freeList :: frees).Nodup
  mem_frees : ∀ b, b ∈ frees ↔ b ∈ blocks ∧ ¬ IsUsed s.heap.memory b
  coalesced : blocks.IsChain fun a b => IsUsed s.heap.memory a ∨ IsUsed s.heap.memory b
  available : s.heap.availableSize = freeBytes s.heap.memory frees
  maxUsed : s.heap.maxUsedSize = s.heap.used.foldr max (2 * memheapSize)
  live_used : ∀ p ∈ s.live, ∃ b ∈ blocks, IsUsed s.heap.memory b ∧ p = b + memheapSize
  live_disjoint : s.live.Pairwise fun p q => Below s.heap.memory p q ∨ Below s.heap.memory q p

/-- The addresses of the payloads of the blocks `busy`, each once. -/
def Lives (live : List ℕ) (busy : ℕ → Prop) : Prop :=
  live.Nodup ∧ ∀ p, p ∈ live ↔ ∃ b, busy b ∧ p = b + memheapSize

/-- The live addresses are those of the payloads of the blocks in use. -/
def Inv (s : System) : Prop := ∃ hi bs fs, Rep s.heap hi bs fs ∧ Lives s.live (Busy bs fs hi)

/-- A block in use lies before every block with a higher address. -/
lemma Rep.below (h : Rep s hi bs fs) {a b : ℕ} (ha : Busy bs fs hi a) (hb : b ∈ bs) (hab : a < b) :
    Below s.memory (a + memheapSize) (b + memheapSize) := by
  obtain ⟨pre, n, post, hsplit⟩ := h.shape.tiles.exists_next ha.1 ha.2.2
  have htiles : Tiles s.startAddr hi (pre ++ a :: n :: post) := hsplit ▸ h.shape.tiles
  obtain ⟨-, hsize, han, -⟩ :=
    (show Lists _ _ _ (pre ++ a :: n :: post) _ _ from hsplit ▸ h.shape.lists).memitemSize_eq
      htiles h.shape.pool
  have hnb : n ≤ b := by
    rw [hsplit] at hb
    have hp := htiles.pairwise
    rw [List.pairwise_append] at hp
    rcases List.mem_append.mp hb with hb | hb
    · have hba := hp.2.2 b hb a (List.mem_cons_self ..)
      unfold Before at hba
      omega
    · rcases List.mem_cons.mp hb with hb | hb
      · omega
      · rcases List.mem_cons.mp hb with hb | hb
        · exact hb.ge
        · have hnb := List.rel_of_pairwise_cons (List.pairwise_cons.mp hp.2.1).2 hb
          unfold Before at hnb
          omega
  unfold Below
  rw [Nat.add_sub_cancel, hsize]
  unfold Before at han
  omega

/-- What the invariant says of a state. -/
lemma Inv.sound {s : System} (h : Inv s) : ∃ blocks frees, Sound s blocks frees := by
  obtain ⟨hi, bs, fs, hrep, hnd, hlive⟩ := h
  have hshape := hrep.shape
  have hlinked : Linked (fun b => get s.heap.memory b .next) (fun b => get s.heap.memory b .prev) bs :=
    hshape.lists.blockRing.linked
  have hused : ∀ b ∈ bs, (IsUsed s.heap.memory b ↔ b ∉ fs) := fun b hb => hshape.isUsed_iff hb
  refine ⟨bs, fs, ?_⟩
  constructor
  · exact hshape.lists.blockRing
  · exact ⟨hshape.tiles.head, hrep.blockList_eq⟩
  · rw [List.isChain_iff_forall_rel_of_append_cons_cons]
    intro a b pre post heq
    obtain ⟨-, hsize, hab, -⟩ :=
      (show Lists _ _ _ (pre ++ a :: b :: post) _ _ from heq ▸ hshape.lists).memitemSize_eq
        (heq ▸ hshape.tiles) hshape.pool
    unfold Before at hab
    omega
  · exact ⟨hi, hshape.tiles.last, (hused hi hshape.tiles.last_mem).mpr hshape.last_used, hrep.last_eq⟩
  · rw [hrep.freeList_eq]
    exact hshape.lists.freeRing
  · rw [hrep.freeList_eq]
    exact hshape.lists.frees_nodup
  · intro b
    constructor
    · intro hb
      exact ⟨hshape.sub b hb, fun hu => (hused b (hshape.sub b hb)).mp hu hb⟩
    · rintro ⟨hb, hu⟩
      by_contra hno
      exact hu ((hused b hb).mpr hno)
  · rw [List.isChain_iff_forall_rel_of_append_cons_cons]
    intro a b pre post heq
    have ha : a ∈ bs := by simp [heq]
    have hb : b ∈ bs := by simp [heq]
    have hl := hshape.lists.blockRing
    rw [heq] at hl
    by_cases haf : a ∈ fs
    · right
      rw [hused b hb, ← hl.next_eq.1]
      exact hshape.coalesced a haf
    · exact .inl ((hused a ha).mpr haf)
  · exact hrep.available
  · exact hrep.maxUsed
  · intro p hp
    obtain ⟨b, hb, rfl⟩ := (hlive p).mp hp
    exact ⟨b, hb.1, (hused b hb.1).mpr hb.2.1, rfl⟩
  · refine hnd.imp_of_mem ?_
    intro p q hp hq hne
    obtain ⟨a, ha, rfl⟩ := (hlive p).mp hp
    obtain ⟨b, hb, rfl⟩ := (hlive q).mp hq
    rcases Nat.lt_trichotomy a b with hab | rfl | hab
    · exact .inl (hrep.below ha hb.1 hab)
    · exact absurd rfl hne
    · exact .inr (hrep.below hb ha.1 hab)

/-! ### The live addresses -/

section Lives

variable {busy busy' : ℕ → Prop} {x : ℕ}

lemma Lives.mem_iff (h : Lives live busy) : b + memheapSize ∈ live ↔ busy b := by
  rw [h.2]
  constructor
  · rintro ⟨d, hd, heq⟩
    have hdb : b = d := Nat.add_right_cancel heq
    exact hdb ▸ hd
  · intro hb
    exact ⟨b, hb, rfl⟩

lemma Lives.null_not_mem (h : Lives live busy) : rtNull ∉ live := by
  rw [h.2]
  rintro ⟨b, -, heq⟩
  unfold rtNull memheapSize at heq
  omega

/-- A payload that is returned. -/
lemma Lives.hold (h : Lives live busy) (hx : ¬ busy x) (hb : ∀ d, busy' d ↔ d = x ∨ busy d) :
    Lives (hold live (x + memheapSize)) busy' := by
  have hnull : x + memheapSize ≠ rtNull := by
    unfold rtNull memheapSize
    omega
  unfold Memheap.hold
  rw [if_neg hnull]
  refine ⟨List.nodup_cons.mpr ⟨fun hmem => hx (h.mem_iff.mp hmem), h.1⟩, ?_⟩
  intro p
  rw [List.mem_cons, h.2]
  constructor
  · rintro (rfl | ⟨b, hb', rfl⟩)
    · exact ⟨x, (hb x).mpr (.inl rfl), rfl⟩
    · exact ⟨b, (hb b).mpr (.inr hb'), rfl⟩
  · rintro ⟨b, hb', rfl⟩
    rcases (hb b).mp hb' with rfl | hb'
    · exact .inl rfl
    · exact .inr ⟨b, hb', rfl⟩

/-- A payload that is given back. -/
lemma Lives.erase (h : Lives live busy) (hb : ∀ d, busy' d ↔ busy d ∧ d ≠ x) :
    Lives (live.erase (x + memheapSize)) busy' := by
  refine ⟨h.1.erase _, ?_⟩
  intro p
  rw [List.Nodup.mem_erase_iff h.1, h.2]
  constructor
  · rintro ⟨hne, b, hb', rfl⟩
    exact ⟨b, (hb b).mpr ⟨hb', fun heq => hne (heq ▸ rfl)⟩, rfl⟩
  · rintro ⟨b, hb', rfl⟩
    obtain ⟨hb', hne⟩ := (hb b).mp hb'
    exact ⟨fun heq => hne (Nat.add_right_cancel heq), b, hb', rfl⟩

end Lives

/-! ### Runs -/

lemma rtMemheapFree_null (s : RtMemheap) : rtMemheapFree s rtNull = some s := by
  unfold rtMemheapFree
  exact if_pos rfl

/-- A call of `rt_memheap_free` with a live address or `RT_NULL`. -/
lemma Inv.free {s : System} (h : Inv s) (hp : p ∈ s.live ∨ p = rtNull) :
    ∃ heap, rtMemheapFree s.heap p = some heap ∧ Inv ⟨heap, s.live.erase p⟩ := by
  obtain ⟨hi, bs, fs, hrep, hlive⟩ := h
  rcases hp with hp | rfl
  · obtain ⟨b, hb, rfl⟩ := (hlive.2 p).mp hp
    obtain ⟨heap, bs', fs', hcall, hrep', -, hbusy⟩ := hrep.free hb
    exact ⟨heap, hcall, hi, bs', fs', hrep', hlive.erase hbusy⟩
  · refine ⟨s.heap, rtMemheapFree_null s.heap, hi, bs, fs, hrep, ?_⟩
    show Lives (s.live.erase rtNull) _
    rw [List.erase_of_not_mem hlive.null_not_mem]
    exact hlive

/-- A call of `rt_memheap_alloc`. -/
lemma Inv.alloc {s : System} (h : Inv s) (size : ℕ) :
    ∃ heap p, rtMemheapAlloc s.heap size = some (heap, p) ∧ Inv ⟨heap, hold s.live p⟩ := by
  obtain ⟨hi, bs, fs, hrep, hlive⟩ := h
  rcases hrep.alloc_cases size with ⟨hcall, -⟩ | ⟨heap, x, bs', fs', hcall, hrep', -, -, hnot, hbusy⟩
  · exact ⟨_, _, hcall, hi, bs, fs, hrep.allocEnd, hlive⟩
  · exact ⟨_, _, hcall, hi, bs', fs', hrep', hlive.hold hnot hbusy⟩

/-- The code's test whether a block can grow to `newsize` bytes does not overflow, or fails. -/
def NoOverflow (s : RtMemheap) (ptr newsize : ℕ) : Prop :=
  IsWord (blockSize newsize + memheapMinialloc) ∨ ¬ Grows s (ptr - memheapSize) (blockSize newsize)

/-- A call of `rt_memheap_realloc` with a live address or `RT_NULL`. -/
lemma Inv.realloc {s : System} (h : Inv s) (hp : p ∈ s.live ∧ NoOverflow s.heap p size ∨ p = rtNull) :
    ∃ heap q, rtMemheapRealloc s.heap p size = some (heap, q) ∧
      Inv ⟨heap, liveAfterRealloc s.live p size q⟩ := by
  by_cases hzero : size = 0
  · obtain ⟨heap, hcall, hinv⟩ := h.free (hp.imp_left And.left)
    refine ⟨heap, rtNull, ?_, ?_⟩
    · unfold rtMemheapRealloc
      rw [if_pos hzero, hcall]
      rfl
    · unfold liveAfterRealloc
      rw [if_neg (fun hno => hno.1 hzero)]
      exact hinv
  rcases hp with ⟨hp, hover⟩ | rfl
  · obtain ⟨hi, bs, fs, hrep, hlive⟩ := h
    obtain ⟨b, hb, rfl⟩ := (hlive.2 p).mp hp
    unfold NoOverflow at hover
    rw [Nat.add_sub_cancel] at hover
    unfold liveAfterRealloc
    rcases hrep.realloc_cases hb hzero hover with
      ⟨hcall, -⟩ | ⟨heap, x, hcall, -, bs', fs', hrep', -, hx, hbusy⟩
    · refine ⟨_, _, hcall, ?_⟩
      rw [if_pos ⟨hzero, rfl⟩]
      exact ⟨hi, bs, fs, hrep.allocEnd, hlive⟩
    · have hnull : x + memheapSize ≠ rtNull := by
        unfold rtNull memheapSize
        omega
      refine ⟨_, _, hcall, ?_⟩
      rw [if_neg (fun hno => hnull hno.2)]
      have herase := hlive.erase (x := b) fun d => (Iff.rfl : Busy bs fs hi d ∧ d ≠ b ↔ _)
      refine ⟨hi, bs', fs', hrep', herase.hold ?_ hbusy⟩
      rintro ⟨hxb, hne⟩
      rcases hx with hx | hx
      · exact hne hx
      · exact hx hxb
  · obtain ⟨heap, q, hcall, hinv⟩ := h.alloc (blockSize size)
    refine ⟨heap, q, ?_, ?_⟩
    · unfold rtMemheapRealloc
      rw [if_neg hzero]
      simp only [if_pos]
      exact hcall
    · obtain ⟨hi, bs, fs, hrep, hlive⟩ := h
      unfold liveAfterRealloc
      rw [List.erase_of_not_mem hlive.null_not_mem]
      by_cases hq : q = rtNull
      · rw [if_pos ⟨hzero, hq⟩]
        unfold hold at hinv
        rwa [if_pos hq] at hinv
      · rw [if_neg (fun hno => hq hno.2)]
        exact hinv

/-- Calls on live blocks or with `RT_NULL` in which no growth overflows, and stores into live blocks. -/
def Contained (s : System) : Action → Prop
  | .alloc _ => True
  | .realloc ptr newsize => ptr ∈ s.live ∧ NoOverflow s.heap ptr newsize ∨ ptr = rtNull
  | .free ptr => ptr ∈ s.live ∨ ptr = rtNull
  | .store a _ =>
    ∃ ptr ∈ s.live, ptr ≤ a ∧ a + 4 ≤ ptr + memitemSize s.heap.memory (ptr - memheapSize)

/-- **A contained call comes to an end and keeps the invariant.** -/
lemma Inv.step_contained {s : System} (a : Action) (h : Inv s) (ha : Contained s a) :
    ∃ s', step s a = some s' ∧ Inv s' := by
  cases a with
  | alloc size =>
    obtain ⟨heap, p, hcall, hinv⟩ := h.alloc size
    refine ⟨_, ?_, hinv⟩
    simp only [Memheap.step, hcall, Option.map_some]
  | realloc ptr newsize =>
    obtain ⟨heap, q, hcall, hinv⟩ := h.realloc ha
    refine ⟨_, ?_, hinv⟩
    simp only [Memheap.step, hcall, Option.map_some]
  | free ptr =>
    obtain ⟨heap, hcall, hinv⟩ := h.free ha
    refine ⟨_, ?_, hinv⟩
    simp only [Memheap.step, hcall, Option.map_some]
  | store a value =>
    obtain ⟨hi, bs, fs, hrep, hlive⟩ := h
    obtain ⟨p, hp, hge, hle⟩ := ha
    obtain ⟨b, hb, rfl⟩ := (hlive.2 p).mp hp
    rw [Nat.add_sub_cancel] at hle
    refine ⟨_, rfl, hi, bs, fs, (hrep.store hb ?_).1, hlive⟩
    intro d hd
    by_cases hda : d = a
    · rw [hda]
      exact ⟨hge, hle⟩
    · exact absurd (Function.update_of_ne hda _ _) hd

/-- Below `2^31` no growth overflows. -/
lemma Allowed.contained {s : System} {a : Action} (ha : Allowed s a) : Contained s a := by
  cases a with
  | alloc size => trivial
  | realloc ptr newsize =>
    refine ha.1.imp_left fun hp => ⟨hp, .inl ?_⟩
    obtain ⟨-, -, hmax⟩ := blockSize_bounds (Nat.le_of_lt ha.2)
    unfold IsWord memheapMinialloc
    omega
  | free ptr => exact ha
  | store a value => exact ha

/-! ### Initialization -/

/-- What `rt_memheap_init` writes: one free block and the block that ends the pool. -/
lemma rtMemheapInit_get (m : ℕ → ℕ) (addr size : ℕ) (hap : ∀ a ∈ [fh, lo, hi], ∀ b ∈ [fh, lo, hi], Apart a b) (hfl : fh ≠ lo)
    (hfh : fh ≠ hi) (hlh : lo ≠ hi)
    (hhi : lo + sub32 (rtAlignDown size) (2 * memheapSize) + memheapSize = hi) :
    let m' := (rtMemheapInit addr fh m lo size).memory
    (get m' lo .magic = memheapMagic ||| memheapFreed ∧ get m' lo .poolPtr = addr ∧
      get m' lo .next = hi ∧ get m' lo .prev = hi ∧ get m' lo .nextFree = fh ∧
      get m' lo .prevFree = fh) ∧
    (get m' hi .magic = memheapMagic ||| memheapUsed ∧ get m' hi .poolPtr = addr ∧
      get m' hi .next = lo ∧ get m' hi .prev = lo) ∧
    get m' fh .nextFree = lo ∧ get m' fh .prevFree = lo := by
  have hf : fh ∈ [fh, lo, hi] := by simp
  have hl : lo ∈ [fh, lo, hi] := by simp
  have hh : hi ∈ [fh, lo, hi] := by simp
  refine ⟨⟨?_, ?_, ?_, ?_, ?_, ?_⟩, ⟨?_, ?_, ?_, ?_⟩, ?_, ?_⟩ <;>
    simp [rtMemheapInit, initItem, insertFree, hhi, get_put_mem hap, hf, hl, hh, hfl, hfh, hlh,
      hfl.symm]

/-- One free block, and the block that ends the pool. -/
lemma Shape.init (htiles : Tiles lo hi [lo, hi]) (hpool : Pool fh lo hi) (hlh : lo ≠ hi)
    (hlower : get m' lo .magic = memheapMagic ||| memheapFreed ∧ get m' lo .poolPtr = addr ∧
      get m' lo .next = hi ∧ get m' lo .prev = hi ∧ get m' lo .nextFree = fh ∧
      get m' lo .prevFree = fh)
    (hupper : get m' hi .magic = memheapMagic ||| memheapUsed ∧ get m' hi .poolPtr = addr ∧
      get m' hi .next = lo ∧ get m' hi .prev = lo)
    (hheader : get m' fh .nextFree = lo ∧ get m' fh .prevFree = lo) :
    Shape m' addr fh lo hi [lo, hi] [lo] := by
  obtain ⟨hlm, hlp, hln, hlv, hlnf, hlpf⟩ := hlower
  obtain ⟨hhm, hhp, hhn, hhv⟩ := hupper
  obtain ⟨hfnf, hfpf⟩ := hheader
  have hfl : lo ≠ fh := htiles.ne_header hpool (List.mem_cons_self ..)
  have hlists : Lists m' addr [fh, lo, hi] [lo, hi] [fh, lo] (· ∈ [lo]) := by
    constructor
    · exact htiles.apart hpool.outside
    · intro b hb
      exact List.mem_cons_of_mem fh hb
    · intro w hw
      rcases List.mem_cons.mp hw with rfl | hw
      · exact List.mem_cons_self ..
      · rw [List.mem_singleton.mp hw]
        simp
    · simp [hlh]
    · simp [hfl.symm]
    · show List.IsChain _ [lo, hi, lo]
      simp [hln, hhv, hhn, hlv]
    · show List.IsChain _ [fh, lo, fh]
      simp [hfnf, hlpf, hlnf, hfpf]
    · intro b _ hb
      rw [List.mem_singleton.mp hb]
      exact hlm
    · intro b hb hnot
      rcases List.mem_cons.mp hb with rfl | hb
      · exact absurd (List.mem_singleton_self b) hnot
      · rw [List.mem_singleton.mp hb]
        exact hhm
    · intro b hb
      rcases List.mem_cons.mp hb with rfl | hb
      · exact hlp
      · rw [List.mem_singleton.mp hb]
        exact hhp
  refine ⟨hlists, htiles, hpool, by simp, by simp [hlh.symm], ?_⟩
  intro f hf
  rw [List.mem_singleton.mp hf, hln]
  simp [hlh.symm]

lemma Rep.init (hsize : 2 * memheapSize + memheapMinialloc ≤ size) (hword : IsWord size)
    (hend : lo + size ≤ 4294967296) (hout : fh + memheapSize ≤ lo ∨ lo + size ≤ fh) :
    Rep (rtMemheapInit addr fh m lo size) (lo + rtAlignDown size - memheapSize)
      [lo, lo + rtAlignDown size - memheapSize] [lo] := by
  obtain ⟨n, hn⟩ : ∃ n, n = rtAlignDown size := ⟨_, rfl⟩
  have hle : n ≤ size ∧ 64 ≤ n := by
    rw [hn]
    unfold rtAlignDown
    unfold memheapSize memheapMinialloc at hsize
    omega
  obtain ⟨hle, hmin⟩ := hle
  clear hsize
  have hnw : IsWord n := Nat.lt_of_le_of_lt hle hword
  obtain ⟨hi, hhi⟩ : ∃ hi, hi = lo + n - memheapSize := ⟨_, rfl⟩
  have hlast : hi + memheapSize = lo + n := by
    unfold memheapSize at *
    omega
  have hav : sub32 n (2 * memheapSize) = n - 48 := sub32_of_le (by unfold memheapSize; omega) hnw
  have hused : sub32 n (sub32 n (2 * memheapSize)) = 48 := by
    rw [hav, sub32_of_le (by omega) hnw]
    omega
  have hup : lo + sub32 n (2 * memheapSize) + memheapSize = hi := by
    rw [hav]
    unfold memheapSize at *
    omega
  have htiles : Tiles lo hi [lo, hi] := by
    refine ⟨?_, rfl, rfl⟩
    rw [List.isChain_cons_cons]
    refine ⟨?_, List.isChain_singleton hi⟩
    unfold Before memheapSize at *
    omega
  have hpool : Pool fh lo hi := by
    refine ⟨?_, by omega, ?_⟩
    · rcases hout with hout | hout
      · exact .inl hout
      · right
        omega
    · unfold memheapSize at *
      omega
  have hap := htiles.apart hpool.outside
  have hfl := (htiles.ne_header hpool (List.mem_cons_self ..)).symm
  have hfh := (htiles.ne_header hpool htiles.last_mem).symm
  have hlh := hpool.lt.ne
  have hget := rtMemheapInit_get m addr size hap hfl hfh hlh (hn ▸ hup)
  rw [← hn, ← hhi]
  obtain ⟨m', hm'⟩ : ∃ m', m' = (rtMemheapInit addr fh m lo size).memory := ⟨_, rfl⟩
  simp only [← hm'] at hget
  obtain ⟨hlower, hupper, hheader⟩ := hget
  have hshape : Shape m' addr fh lo hi [lo, hi] [lo] := Shape.init htiles hpool hlh hlower hupper hheader
  have hfree : sub32 n (2 * memheapSize) = freeBytes m' [lo] := by
    have hbefore : Before lo hi := (List.isChain_cons_cons.mp htiles.sorted).1
    simp only [freeBytes, memitemSize_eq hlower.2.2.1 hbefore (hpool.lt_word le_rfl), hav]
    unfold memheapSize at *
    omega
  constructor
  · rw [← hm']
    exact hshape
  · show hi + memheapSize = lo + rtAlignDown size
    rw [← hn]
    exact hlast
  · show IsWord (rtAlignDown size)
    rw [← hn]
    exact hnw
  · rfl
  · rfl
  · show sub32 (rtAlignDown size) (2 * memheapSize) = freeBytes _ _
    rw [← hm', ← hn]
    exact hfree
  · show sub32 (rtAlignDown size) (sub32 (rtAlignDown size) (2 * memheapSize)) = _
    rw [← hn]
    exact hused
  · show rtAlignDown size - sub32 (rtAlignDown size) (2 * memheapSize) ≤
      sub32 (rtAlignDown size) (sub32 (rtAlignDown size) (2 * memheapSize))
    rw [← hn, hused, hav]
    omega

lemma Inv.init (hsize : 2 * memheapSize + memheapMinialloc ≤ size) (hword : IsWord size)
    (hend : lo + size ≤ 4294967296) (hout : fh + memheapSize ≤ lo ∨ lo + size ≤ fh) :
    Inv (System.init addr fh m lo size) := by
  refine ⟨_, _, _, Rep.init hsize hword hend hout, List.nodup_nil, ?_⟩
  intro p
  refine iff_of_false (by simp [System.init]) ?_
  rintro ⟨b, ⟨hb, hbf, hbhi⟩, -⟩
  rcases List.mem_cons.mp hb with rfl | hb
  · exact hbf (List.mem_singleton_self b)
  · exact hbhi (List.mem_singleton.mp hb)

/-- **Every call comes to an end and leaves a sound heap.**  The pool has room for two headers and the
smallest block, ends below `2^32` and does not overlap the header of the free list. -/
theorem memheap_sound (addr freeHeader : ℕ) (m : ℕ → ℕ) (startAddr size : ℕ)
    (hsize : 2 * memheapSize + memheapMinialloc ≤ size) (hword : IsWord size)
    (hend : startAddr + size ≤ 4294967296)
    (hout : freeHeader + memheapSize ≤ startAddr ∨ startAddr + size ≤ freeHeader) (as : List Action)
    (has : Along step Allowed (System.init addr freeHeader m startAddr size) as) :
    ∃ s, exec step (System.init addr freeHeader m startAddr size) as = some s ∧
      ∃ blocks frees, Sound s blocks frees := by
  have hstep : ∀ s a, Inv s → Allowed s a → ∃ s', step s a = some s' ∧ Inv s' :=
    fun s a h ha => h.step_contained a ha.contained
  obtain ⟨s, hrun, hinv⟩ := exec_total_of_along hstep as _ (Inv.init hsize hword hend hout) has
  exact ⟨s, hrun, hinv.sound⟩

/-- A block grows over the header behind it, shrinks again, and the block behind it is freed between two
free ones. -/
theorem memheap_sound_growAndMerge : ∃ s,
    exec step (System.init 4 0x800 (fun _ => 0) 0x1000 256)
      [.alloc 16, .realloc 0x1018 64, .alloc 16, .store 0x1018 7, .realloc 0x1018 1, .free 0x1070,
        .realloc 0 300, .free 0x1018] = some s ∧ ∃ blocks frees, Sound s blocks frees :=
  memheap_sound 4 0x800 (fun _ => 0) 0x1000 256 (by decide) (by decide) (by decide) (.inl (by decide)) _
    (by decide +kernel)

end N32L43x.Memheap
