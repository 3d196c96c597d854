import N32L43x.Memheap.Links

/-!
The block list and the free list between two edits: which blocks are linked in which list, and how they are
marked.
-/

namespace N32L43x.Memheap

open N32L43x.Lib.Dll

variable {m m' : ℕ → ℕ} {addr : ℕ} {hs hs' bs ws pre post l r : List ℕ} {a b h j n p x : ℕ}
  {f g nf pf : Field} {v : ℕ} {free free' : ℕ → Prop}

/-- Of the headers `hs`, the blocks `bs` form the block list and the items `ws` the free list, and the
blocks `free` are marked free. -/
structure Lists (m : ℕ → ℕ) (addr : ℕ) (hs bs ws : List ℕ) (free : ℕ → Prop) : Prop where
  apart : ∀ a ∈ hs, ∀ b ∈ hs, Apart a b
  blocks_sub : ∀ b ∈ bs, b ∈ hs
  frees_sub : ∀ w ∈ ws, w ∈ hs
  blocks_nodup : bs.Nodup
  frees_nodup : ws.Nodup
  blockRing : Ring (fun a => get m a .next) (fun a => get m a .prev) bs
  freeRing : Ring (fun a => get m a .nextFree) (fun a => get m a .prevFree) ws
  marked : ∀ b ∈ bs, free b → get m b .magic = memheapMagic ||| memheapFreed
  unmarked : ∀ b ∈ bs, ¬ free b → get m b .magic = memheapMagic ||| memheapUsed
  poolPtr : ∀ b ∈ bs, get m b .poolPtr = addr

lemma Cut.other (hc : Cut nf pf hs m m' p n) (hj : j ∈ hs) (hnf : g ≠ nf) (hpf : g ≠ pf) :
    get m' j g = get m j g := by
  rw [hc j hj g, if_neg (fun h => hnf h.2), if_neg (fun h => hpf h.2)]

lemma Join.other (hc : Join nf pf hs m m' a x b) (hj : j ∈ hs) (hnf : g ≠ nf) (hpf : g ≠ pf) :
    get m' j g = get m j g := by
  rw [hc j hj g, if_neg (fun h => hnf h.2), if_neg (fun h => hpf h.2), if_neg (fun h => hpf h.2),
    if_neg (fun h => hnf h.2)]

lemma Cut.mono (hc : Cut nf pf hs m m' p n) (hsub : ∀ j ∈ hs', j ∈ hs) : Cut nf pf hs' m m' p n :=
  fun j hj => hc j (hsub j hj)

lemma Cut.nextField (hc : Cut nf pf hs m m' p n) (hne : nf ≠ pf) (hj : j ∈ hs) :
    get m' j nf = if j = p then n else get m j nf := by
  rw [hc j hj nf, if_neg (fun h : j = n ∧ nf = pf => hne h.2)]
  simp

lemma Cut.prevField (hc : Cut nf pf hs m m' p n) (hne : nf ≠ pf) (hj : j ∈ hs) :
    get m' j pf = if j = n then p else get m j pf := by
  rw [hc j hj pf, if_neg (fun h : j = p ∧ pf = nf => hne h.2.symm)]
  simp

lemma Join.nextField (hc : Join nf pf hs m m' a x b) (hne : nf ≠ pf) (hj : j ∈ hs) :
    get m' j nf = if j = a then x else if j = x then b else get m j nf := by
  rw [hc j hj nf, if_neg (fun h : j = b ∧ nf = pf => hne h.2),
    if_neg (fun h : j = x ∧ nf = pf => hne h.2)]
  simp

lemma Join.prevField (hc : Join nf pf hs m m' a x b) (hne : nf ≠ pf) (hj : j ∈ hs) :
    get m' j pf = if j = b then x else if j = x then a else get m j pf := by
  rw [hc j hj pf, if_neg (fun h : j = a ∧ pf = nf => hne h.2.symm),
    if_neg (fun h : j = x ∧ pf = nf => hne h.2.symm)]
  simp

/-- A node is taken out of one of the two rings. -/
lemma Cut.ring {w : List ℕ} (hc : Cut nf pf hs m m' a (get m x nf)) (hne : nf ≠ pf)
    (hw : w = pre ++ a :: x :: post) (hsub : ∀ y ∈ w, y ∈ hs) (hnd : w.Nodup)
    (hr : Ring (fun y => get m y nf) (fun y => get m y pf) w) :
    Ring (fun y => get m' y nf) (fun y => get m' y pf) (pre ++ a :: post) := by
  have hnx : get m x nf ∈ w := (hr.next_prev hnd (by simp [hw])).1
  subst hw
  have hmem : ∀ y ∈ pre ++ a :: post, y ∈ hs := by
    intro y hy
    apply hsub y
    simp only [List.mem_append, List.mem_cons] at hy ⊢
    tauto
  have ha : a ∈ hs := hmem a (by simp)
  refine hr.remove hnd ?_ ?_ ?_ ?_
  · rw [hc.nextField hne ha, if_pos rfl]
  · rw [hc.prevField hne (hsub _ hnx), if_pos rfl]
  · intro y hy hya
    rw [hc.nextField hne (hmem y hy), if_neg hya]
  · intro y hy hyn
    rw [hc.prevField hne (hmem y hy), if_neg hyn]

/-- A node is put into one of the two rings. -/
lemma Join.ring (hc : Join nf pf hs m m' a x (get m a nf)) (hne : nf ≠ pf)
    (hsub : ∀ y ∈ pre ++ a :: post, y ∈ hs) (hx : x ∈ hs)
    (hnd : (pre ++ a :: x :: post).Nodup) (hnd' : (pre ++ a :: post).Nodup)
    (hr : Ring (fun y => get m y nf) (fun y => get m y pf) (pre ++ a :: post)) :
    Ring (fun y => get m' y nf) (fun y => get m' y pf) (pre ++ a :: x :: post) := by
  have hnx : get m a nf ∈ pre ++ a :: post := (hr.next_prev hnd' (by simp)).1
  have hxw : x ∉ pre ++ a :: post :=
    (List.nodup_cons.mp ((perm_behind pre post a x).nodup_iff.mp hnd)).1
  have hxa : x ≠ a := by
    rintro rfl
    exact hxw (by simp)
  have hne' : ∀ y ∈ pre ++ a :: post, y ≠ x := by
    intro y hy heq
    exact hxw (heq ▸ hy)
  have ha : a ∈ hs := hsub a (by simp)
  refine hr.insert hnd ?_ ?_ ?_ ?_ ?_ ?_
  · rw [hc.nextField hne ha, if_pos rfl]
  · rw [hc.nextField hne hx, if_neg hxa, if_pos rfl]
  · rw [hc.prevField hne hx, if_neg (hne' _ hnx).symm, if_pos rfl]
  · rw [hc.prevField hne (hsub _ hnx), if_pos rfl]
  · intro y hy hya
    rw [hc.nextField hne (hsub y hy), if_neg hya, if_neg (hne' y hy)]
  · intro y hy hyn
    rw [hc.prevField hne (hsub y hy), if_neg hyn, if_neg (hne' y hy)]

namespace Lists

/-- Only the headers of the two lists matter, and of them only the fields that belong to the list. -/
lemma congr (h : Lists m addr hs bs ws free)
    (hb : ∀ b ∈ bs, ∀ g, g ≠ .nextFree → g ≠ .prevFree → get m' b g = get m b g)
    (hw : ∀ w ∈ ws, ∀ g, g = .nextFree ∨ g = .prevFree → get m' w g = get m w g) :
    Lists m' addr hs bs ws free where
  apart := h.apart
  blocks_sub := h.blocks_sub
  frees_sub := h.frees_sub
  blocks_nodup := h.blocks_nodup
  frees_nodup := h.frees_nodup
  blockRing := h.blockRing.congr (fun b hb' => hb b hb' .next (by decide) (by decide))
    (fun b hb' => hb b hb' .prev (by decide) (by decide))
  freeRing := h.freeRing.congr (fun w hw' => hw w hw' .nextFree (.inl rfl))
    (fun w hw' => hw w hw' .prevFree (.inr rfl))
  marked := by
    intro b hb' hf
    rw [hb b hb' .magic (by decide) (by decide)]
    exact h.marked b hb' hf
  unmarked := by
    intro b hb' hf
    rw [hb b hb' .magic (by decide) (by decide)]
    exact h.unmarked b hb' hf
  poolPtr := by
    intro b hb'
    rw [hb b hb' .poolPtr (by decide) (by decide)]
    exact h.poolPtr b hb'

/-- The same lists among other headers, and with the marks described in another way. -/
lemma rebase (h : Lists m addr hs bs ws free) (hap : ∀ a ∈ hs', ∀ b ∈ hs', Apart a b)
    (hb : ∀ b ∈ bs, b ∈ hs') (hw : ∀ w ∈ ws, w ∈ hs') (hf : ∀ b ∈ bs, (free' b ↔ free b)) :
    Lists m addr hs' bs ws free' where
  apart := hap
  blocks_sub := hb
  frees_sub := hw
  blocks_nodup := h.blocks_nodup
  frees_nodup := h.frees_nodup
  blockRing := h.blockRing
  freeRing := h.freeRing
  marked := fun b hb' hf' => h.marked b hb' ((hf b hb').mp hf')
  unmarked := fun b hb' hf' => h.unmarked b hb' (fun hfree => hf' ((hf b hb').mpr hfree))
  poolPtr := h.poolPtr

lemma cutFree (h : Lists m addr hs bs (pre ++ a :: x :: post) free)
    (hc : Cut .nextFree .prevFree hs m m' a (get m x .nextFree)) :
    Lists m' addr hs bs (pre ++ a :: post) free where
  apart := h.apart
  blocks_sub := h.blocks_sub
  frees_sub := by
    intro w hw
    apply h.frees_sub w
    simp only [List.mem_append, List.mem_cons] at hw ⊢
    tauto
  blocks_nodup := h.blocks_nodup
  frees_nodup := h.frees_nodup.sublist
    (List.Sublist.append_left ((List.sublist_cons_self x post).cons_cons a) pre)
  blockRing := h.blockRing.congr
    (fun b hb => hc.other (h.blocks_sub b hb) (by decide) (by decide))
    (fun b hb => hc.other (h.blocks_sub b hb) (by decide) (by decide))
  freeRing := hc.ring (by decide) rfl h.frees_sub h.frees_nodup h.freeRing
  marked := by
    intro b hb hf
    rw [hc.other (h.blocks_sub b hb) (by decide) (by decide)]
    exact h.marked b hb hf
  unmarked := by
    intro b hb hf
    rw [hc.other (h.blocks_sub b hb) (by decide) (by decide)]
    exact h.unmarked b hb hf
  poolPtr := by
    intro b hb
    rw [hc.other (h.blocks_sub b hb) (by decide) (by decide)]
    exact h.poolPtr b hb

lemma cutBlock (h : Lists m addr hs (pre ++ a :: x :: post) ws free)
    (hc : Cut .next .prev hs m m' a (get m x .next)) :
    Lists m' addr hs (pre ++ a :: post) ws free := by
  have hsub : ∀ b ∈ pre ++ a :: post, b ∈ pre ++ a :: x :: post := by
    intro b hb
    simp only [List.mem_append, List.mem_cons] at hb ⊢
    tauto
  constructor
  · exact h.apart
  · intro b hb
    exact h.blocks_sub b (hsub b hb)
  · exact h.frees_sub
  · exact h.blocks_nodup.sublist
      (List.Sublist.append_left ((List.sublist_cons_self x post).cons_cons a) pre)
  · exact h.frees_nodup
  · exact hc.ring (by decide) rfl h.blocks_sub h.blocks_nodup h.blockRing
  · exact h.freeRing.congr (fun w hw => hc.other (h.frees_sub w hw) (by decide) (by decide))
      (fun w hw => hc.other (h.frees_sub w hw) (by decide) (by decide))
  · intro b hb hf
    rw [hc.other (h.blocks_sub b (hsub b hb)) (by decide) (by decide)]
    exact h.marked b (hsub b hb) hf
  · intro b hb hf
    rw [hc.other (h.blocks_sub b (hsub b hb)) (by decide) (by decide)]
    exact h.unmarked b (hsub b hb) hf
  · intro b hb
    rw [hc.other (h.blocks_sub b (hsub b hb)) (by decide) (by decide)]
    exact h.poolPtr b (hsub b hb)

lemma joinFree (h : Lists m addr hs bs (pre ++ a :: post) free) (hx : x ∈ hs)
    (hnd : (pre ++ a :: x :: post).Nodup)
    (hc : Join .nextFree .prevFree hs m m' a x (get m a .nextFree)) :
    Lists m' addr hs bs (pre ++ a :: x :: post) free where
  apart := h.apart
  blocks_sub := h.blocks_sub
  frees_sub := by
    intro w hw
    by_cases hwx : w = x
    · rw [hwx]
      exact hx
    · apply h.frees_sub w
      simp only [List.mem_append, List.mem_cons] at hw ⊢
      tauto
  blocks_nodup := h.blocks_nodup
  frees_nodup := hnd
  blockRing := h.blockRing.congr
    (fun b hb => hc.other (h.blocks_sub b hb) (by decide) (by decide))
    (fun b hb => hc.other (h.blocks_sub b hb) (by decide) (by decide))
  freeRing := hc.ring (by decide) h.frees_sub hx hnd h.frees_nodup h.freeRing
  marked := by
    intro b hb hf
    rw [hc.other (h.blocks_sub b hb) (by decide) (by decide)]
    exact h.marked b hb hf
  unmarked := by
    intro b hb hf
    rw [hc.other (h.blocks_sub b hb) (by decide) (by decide)]
    exact h.unmarked b hb hf
  poolPtr := by
    intro b hb
    rw [hc.other (h.blocks_sub b hb) (by decide) (by decide)]
    exact h.poolPtr b hb

lemma joinBlock (h : Lists m addr hs (pre ++ a :: post) ws free) (hx : x ∈ hs)
    (hnd : (pre ++ a :: x :: post).Nodup)
    (hmagic : get m x .magic = memheapMagic ||| memheapFreed) (hpool : get m x .poolPtr = addr)
    (hc : Join .next .prev hs m m' a x (get m a .next)) :
    Lists m' addr hs (pre ++ a :: x :: post) ws (fun b => b = x ∨ free b) := by
  have hsub : ∀ b ∈ pre ++ a :: x :: post, b ≠ x → b ∈ pre ++ a :: post := by
    intro b hb hbx
    simp only [List.mem_append, List.mem_cons] at hb ⊢
    tauto
  have hhs : ∀ b ∈ pre ++ a :: x :: post, b ∈ hs := by
    intro b hb
    by_cases hbx : b = x
    · rw [hbx]
      exact hx
    · exact h.blocks_sub b (hsub b hb hbx)
  constructor
  · exact h.apart
  · exact hhs
  · exact h.frees_sub
  · exact hnd
  · exact h.frees_nodup
  · exact hc.ring (by decide) h.blocks_sub hx hnd h.blocks_nodup h.blockRing
  · exact h.freeRing.congr (fun w hw => hc.other (h.frees_sub w hw) (by decide) (by decide))
      (fun w hw => hc.other (h.frees_sub w hw) (by decide) (by decide))
  · intro b hb hf
    rw [hc.other (hhs b hb) (by decide) (by decide)]
    by_cases hbx : b = x
    · rw [hbx]
      exact hmagic
    · exact h.marked b (hsub b hb hbx) (hf.resolve_left hbx)
  · intro b hb hf
    rw [hc.other (hhs b hb) (by decide) (by decide)]
    have hbx : b ≠ x := fun heq => hf (.inl heq)
    exact h.unmarked b (hsub b hb hbx) (fun hfree => hf (.inr hfree))
  · intro b hb
    rw [hc.other (hhs b hb) (by decide) (by decide)]
    by_cases hbx : b = x
    · rw [hbx]
      exact hpool
    · exact h.poolPtr b (hsub b hb hbx)

/-- A field of an item that is in none of the lists may be written. -/
lemma putOutside (h : Lists m addr hs bs ws free) (hx : x ∈ hs)
    (hb : x ∉ bs ∨ f = .nextFree ∨ f = .prevFree) (hw : x ∉ ws ∨ f ≠ .nextFree ∧ f ≠ .prevFree) :
    Lists (put m x f v) addr hs bs ws free := by
  refine h.congr ?_ ?_
  · intro b hmem g hgn hgp
    rw [get_put_mem h.apart hx (h.blocks_sub b hmem), if_neg]
    rintro ⟨rfl, rfl⟩
    rcases hb with hb | hb | hb
    · exact hb hmem
    · exact hgn hb
    · exact hgp hb
  · intro w hmem g hg
    rw [get_put_mem h.apart hx (h.frees_sub w hmem), if_neg]
    rintro ⟨rfl, rfl⟩
    rcases hw with hw | hw
    · exact hw hmem
    · rcases hg with hg | hg
      · exact hw.1 hg
      · exact hw.2 hg

/-- A block is marked. -/
lemma putMagic (h : Lists m addr hs bs ws free) (hx : x ∈ hs)
    (hv : ∀ b ∈ bs, b = x → (free' b → v = memheapMagic ||| memheapFreed) ∧
      (¬ free' b → v = memheapMagic ||| memheapUsed))
    (hf : ∀ b ∈ bs, b ≠ x → (free' b ↔ free b)) :
    Lists (put m x .magic v) addr hs bs ws free' := by
  have hput : ∀ j ∈ hs, ∀ g, get (put m x .magic v) j g = if j = x ∧ g = .magic then v else get m j g :=
    fun j hj g => get_put_mem h.apart hx hj
  have hother : ∀ j ∈ hs, ∀ g, g ≠ .magic → get (put m x .magic v) j g = get m j g := by
    intro j hj g hg
    rw [hput j hj g, if_neg (fun heq => hg heq.2)]
  constructor
  · exact h.apart
  · exact h.blocks_sub
  · exact h.frees_sub
  · exact h.blocks_nodup
  · exact h.frees_nodup
  · exact h.blockRing.congr (fun b hb => hother b (h.blocks_sub b hb) .next (by decide))
      (fun b hb => hother b (h.blocks_sub b hb) .prev (by decide))
  · exact h.freeRing.congr (fun w hw => hother w (h.frees_sub w hw) .nextFree (by decide))
      (fun w hw => hother w (h.frees_sub w hw) .prevFree (by decide))
  · intro b hb hfree
    rw [hput b (h.blocks_sub b hb)]
    by_cases hbx : b = x
    · rw [if_pos ⟨hbx, rfl⟩]
      exact (hv b hb hbx).1 hfree
    · rw [if_neg (fun heq => hbx heq.1)]
      exact h.marked b hb ((hf b hb hbx).mp hfree)
  · intro b hb hfree
    rw [hput b (h.blocks_sub b hb)]
    by_cases hbx : b = x
    · rw [if_pos ⟨hbx, rfl⟩]
      exact (hv b hb hbx).2 hfree
    · rw [if_neg (fun heq => hbx heq.1)]
      exact h.unmarked b hb (fun hold => hfree ((hf b hb hbx).mpr hold))
  · intro b hb
    rw [hother b (h.blocks_sub b hb) .poolPtr (by decide)]
    exact h.poolPtr b hb

/-- What is read of the mark of a block. -/
lemma isUsed_iff (h : Lists m addr hs bs ws free) (hb : b ∈ bs) : IsUsed m b ↔ ¬ free b := by
  unfold IsUsed
  constructor
  · intro hused hfree
    rw [h.marked b hb hfree] at hused
    exact absurd hused (by decide)
  · intro hfree
    rw [h.unmarked b hb hfree]
    decide

end Lists

/-- The headers `hs` keep all but their links in the free list. -/
def KeepsBlocks (hs : List ℕ) (m m' : ℕ → ℕ) : Prop :=
  ∀ j ∈ hs, ∀ g, g ≠ .nextFree → g ≠ .prevFree → get m' j g = get m j g

/-- The items before the end of a list that has a first one: the last of them, and the others. -/
lemma exists_before (a : ℕ) (l : List ℕ) : ∃ pre b, ∀ t, a :: (l ++ t) = pre ++ b :: t := by
  induction l using List.reverseRecOn with
  | nil => exact ⟨[], a, fun t => rfl⟩
  | append_singleton l b _ => exact ⟨a :: l, b, fun t => by simp⟩

namespace Lists

variable {fh : ℕ}

lemma removed (h : Lists m addr hs bs (fh :: (l ++ x :: r)) free) :
    Lists (removeFree m x) addr hs bs (fh :: (l ++ r)) free ∧ KeepsBlocks hs m (removeFree m x) := by
  obtain ⟨pre, a, heq⟩ := exists_before fh l
  rw [heq] at h
  rw [heq]
  have hprev : get m x .prevFree = a := h.freeRing.next_eq.2
  have hx : x ∈ pre ++ a :: x :: r := by simp
  have hn := (h.freeRing.next_prev h.frees_nodup hx).1
  have hc := cut_removeFree h.apart (by rw [hprev]; exact h.frees_sub a (by simp))
    (h.frees_sub _ hn) (h.frees_sub x hx)
  rw [hprev] at hc
  exact ⟨h.cutFree hc, fun j hj g hgn hgp => hc.other hj hgn hgp⟩

lemma detached (h : Lists m addr hs bs (fh :: (l ++ x :: r)) free) :
    Lists (detachFree m x) addr hs bs (fh :: (l ++ r)) free ∧ KeepsBlocks hs m (detachFree m x) := by
  obtain ⟨hrem, hkeep⟩ := h.removed
  have hx : x ∈ hs := h.frees_sub x (by simp)
  have hxw : x ∉ fh :: (l ++ r) := by
    have hnd : (x :: (fh :: l ++ r)).Nodup := List.perm_middle.nodup_iff.mp h.frees_nodup
    exact (List.nodup_cons.mp hnd).1
  have hone := hrem.putOutside (v := rtNull) hx (.inr (.inl rfl)) (.inl hxw)
  refine ⟨hone.putOutside (v := rtNull) hx (.inr (.inr rfl)) (.inl hxw), ?_⟩
  intro j hj g hgn hgp
  unfold detachFree
  rw [get_put_mem h.apart hx hj, if_neg (fun heq => hgp heq.2), get_put_mem h.apart hx hj,
    if_neg (fun heq => hgn heq.2)]
  exact hkeep j hj g hgn hgp

lemma joined (h : Lists m addr hs bs (fh :: ws) free) (hx : x ∈ hs) (hxw : x ∉ fh :: ws)
    (hc : Join .nextFree .prevFree hs m m' fh x (get m fh .nextFree)) :
    Lists m' addr hs bs (fh :: x :: ws) free ∧ KeepsBlocks hs m m' := by
  have hnd : ([] ++ fh :: x :: ws).Nodup :=
    (perm_behind [] ws fh x).nodup_iff.mpr (List.nodup_cons.mpr ⟨hxw, h.frees_nodup⟩)
  have h' : Lists m addr hs bs ([] ++ fh :: ws) free := h
  exact ⟨h'.joinFree hx hnd hc, fun j hj g hgn hgp => hc.other hj hgn hgp⟩

lemma inserted (h : Lists m addr hs bs (fh :: ws) free) (hx : x ∈ hs) (hxw : x ∉ fh :: ws) :
    Lists (insertFree m fh x) addr hs bs (fh :: x :: ws) free ∧
      KeepsBlocks hs m (insertFree m fh x) := by
  have hn := (h.freeRing.next_prev h.frees_nodup (List.mem_cons_self ..)).1
  refine h.joined hx hxw (join_insertFree h.apart (h.frees_sub fh (List.mem_cons_self ..)) hx ?_
    (h.frees_sub _ hn))
  intro heq
  exact hxw (heq ▸ List.mem_cons_self ..)

lemma insertedBefore (h : Lists m addr hs bs (fh :: ws) free) (hx : x ∈ hs) (hxw : x ∉ fh :: ws) :
    Lists (insertBefore m (get m fh .nextFree) x) addr hs bs (fh :: x :: ws) free ∧
      KeepsBlocks hs m (insertBefore m (get m fh .nextFree) x) := by
  obtain ⟨hn, hprev⟩ := h.freeRing.next_prev h.frees_nodup (List.mem_cons_self ..)
  have hfh : fh ∈ hs := h.frees_sub fh (List.mem_cons_self ..)
  have hc := join_insertBefore (x := x) h.apart (h.frees_sub _ hn) hx
    (fun heq => hxw (heq ▸ hn)) (by rw [hprev]; exact hfh)
  rw [hprev] at hc
  exact h.joined hx hxw hc

lemma unlinked (h : Lists m addr hs (pre ++ a :: x :: post) ws free) :
    Lists (unlinkBlock m x) addr hs (pre ++ a :: post) ws free ∧
      Cut .next .prev hs m (unlinkBlock m x) a (get m x .next) := by
  have hprev : get m x .prev = a := h.blockRing.next_eq.2
  have hx : x ∈ pre ++ a :: x :: post := by simp
  have hn := (h.blockRing.next_prev h.blocks_nodup hx).1
  have hc := cut_unlinkBlock h.apart (by rw [hprev]; exact h.blocks_sub a (by simp))
    (h.blocks_sub _ hn) (h.blocks_sub x hx)
  rw [hprev] at hc
  exact ⟨h.cutBlock hc, hc⟩

lemma merged (h : Lists m addr hs (pre ++ a :: x :: post) ws free) :
    Lists (mergeNext m a x) addr hs (pre ++ a :: post) ws free ∧
      Cut .next .prev hs m (mergeNext m a x) a (get m x .next) := by
  have hx : x ∈ pre ++ a :: x :: post := by simp
  have hn := (h.blockRing.next_prev h.blocks_nodup hx).1
  have hc := cut_mergeNext h.apart (h.blocks_sub a (by simp)) (h.blocks_sub x hx) (h.blocks_sub _ hn)
  exact ⟨h.cutBlock hc, hc⟩

lemma removedNext (h : Lists m addr hs (pre ++ a :: x :: post) (fh :: (l ++ x :: r)) free) :
    Lists (removeNextPtr m x) addr hs (pre ++ a :: post) (fh :: (l ++ r)) free ∧
      ∀ j ∈ hs, get (removeNextPtr m x) j .next =
        if j = a then get m x .next else get m j .next := by
  obtain ⟨hrem, hkeep⟩ := h.removed
  have hx : x ∈ pre ++ a :: x :: post := by simp
  have hxs := h.blocks_sub x hx
  have hn := (h.blockRing.next_prev h.blocks_nodup hx).1
  have hprev : get (removeFree m x) x .prev = a := by
    rw [hkeep x hxs .prev (by decide) (by decide)]
    exact h.blockRing.next_eq.2
  have hnext : get (removeFree m x) x .next = get m x .next :=
    hkeep x hxs .next (by decide) (by decide)
  have hc := cut_removeNextPtr h.apart (by rw [hprev]; exact h.blocks_sub a (by simp))
    (by rw [hnext]; exact h.blocks_sub _ hn) hxs
  rw [hprev] at hc
  refine ⟨hrem.cutBlock hc, ?_⟩
  intro j hj
  rw [hc.nextField (by decide) hj, hnext, hkeep j hj .next (by decide) (by decide)]

lemma split (h : Lists m addr hs (pre ++ a :: post) ws free) (hx : x ∈ hs)
    (hxb : x ∉ pre ++ a :: post) :
    Lists (splitBlock addr m a x) addr hs (pre ++ a :: x :: post) ws (fun b => b = x ∨ free b) ∧
      ∀ j ∈ hs, get (splitBlock addr m a x) j .next =
        if j = a then x else if j = x then get m a .next else get m j .next := by
  have ha : a ∈ hs := h.blocks_sub a (by simp)
  have hxa : x ≠ a := by
    rintro rfl
    exact hxb (by simp)
  have hnd : (pre ++ a :: x :: post).Nodup :=
    (perm_behind pre post a x).nodup_iff.mpr (List.nodup_cons.mpr ⟨hxb, h.blocks_nodup⟩)
  have hn := (h.blockRing.next_prev h.blocks_nodup (a := a) (by simp)).1
  have hmark := (h.putOutside (v := memheapMagic ||| memheapFreed) (f := .magic) hx (.inl hxb)
    (.inr (by decide))).putOutside (v := addr) (f := .poolPtr) hx (.inl hxb) (.inr (by decide))
  have hjoin : Join .next .prev hs
      (put (put m x .magic (memheapMagic ||| memheapFreed)) x .poolPtr addr)
      (splitBlock addr m a x) a x (get m a .next) :=
    join_splitBlock h.apart ha hx hxa (h.blocks_sub _ hn)
  have hsame : ∀ j ∈ hs, ∀ g, g ≠ .magic → g ≠ .poolPtr →
      get (put (put m x .magic (memheapMagic ||| memheapFreed)) x .poolPtr addr) j g = get m j g := by
    intro j hj g hgm hgp
    rw [get_put_mem h.apart hx hj, if_neg (fun heq => hgp heq.2), get_put_mem h.apart hx hj,
      if_neg (fun heq => hgm heq.2)]
  have hnext := hsame a ha .next (by decide) (by decide)
  rw [← hnext] at hjoin
  refine ⟨hmark.joinBlock hx hnd ?_ ?_ hjoin, ?_⟩
  · rw [get_put_mem h.apart hx hx, if_neg (by simp), get_put_mem h.apart hx hx, if_pos ⟨rfl, rfl⟩]
  · rw [get_put_mem h.apart hx hx, if_pos ⟨rfl, rfl⟩]
  · intro j hj
    rw [hjoin.nextField (by decide) hj, hnext, hsame j hj .next (by decide) (by decide)]

end Lists

end N32L43x.Memheap
