import Mathlib.Data.List.Chain
import Mathlib.Data.List.Nodup

/-!
Circular doubly linked lists given by a `next` and a `prev` link.  A node is put behind another one or
taken out by rewriting the links of its neighbours.
-/

namespace N32L43x.Lib.Dll

variable {N : Type*} {nxt prv nxt' prv' : N → N} {a b x : N} {l pre post : List N}

/-- Neighbours in the list are linked to each other. -/
def Linked (nxt prv : N → N) (l : List N) : Prop :=
  l.IsChain fun x y => nxt x = y ∧ prv y = x

/-- The nodes of the list are linked to each other, the last one to the first. -/
def Ring (nxt prv : N → N) (w : List N) : Prop :=
  Linked nxt prv (w ++ w.head?.toList)

/-- A chain reads the `next` link of all but its last node and the `prev` link of all but its first. -/
lemma Linked.congr (h : Linked nxt prv l) (hn : ∀ y ∈ l.dropLast, nxt' y = nxt y)
    (hp : ∀ y ∈ l.tail, prv' y = prv y) : Linked nxt' prv' l := by
  unfold Linked at *
  induction l with
  | nil => exact List.isChain_nil
  | cons x l ih =>
    cases l with
    | nil => exact List.isChain_singleton x
    | cons y l =>
      rw [List.isChain_cons_cons] at h ⊢
      have hx : nxt' x = nxt x := hn x (by simp)
      have hy : prv' y = prv y := hp y (by simp)
      refine ⟨⟨by rw [hx]; exact h.1.1, by rw [hy]; exact h.1.2⟩, ih h.2 ?_ ?_⟩
      · intro z hz
        exact hn z (by simp [hz])
      · intro z hz
        exact hp z (by simp [List.mem_of_mem_tail hz])

lemma perm_behind (pre post : List N) (a x : N) :
    List.Perm (pre ++ a :: x :: post) (x :: (pre ++ a :: post)) := by
  rw [List.append_cons, List.append_cons pre a post]
  exact List.perm_middle

/-- A node is in no other place of the list. -/
lemma mem_without (hnd : (pre ++ x :: post).Nodup) (y : N) :
    y ∈ pre ++ post ↔ y ∈ pre ++ x :: post ∧ y ≠ x := by
  have hx := (List.nodup_cons.mp (List.perm_middle.nodup_iff.mp hnd)).1
  rw [List.perm_middle.mem_iff, List.mem_cons]
  constructor
  · intro hy
    exact ⟨.inr hy, fun heq => hx (heq ▸ hy)⟩
  · intro hy
    exact hy.1.resolve_left hy.2

lemma mem_behind (hnd : (pre ++ a :: x :: post).Nodup) (y : N) :
    y ∈ pre ++ a :: post ↔ y ∈ pre ++ a :: x :: post ∧ y ≠ x := by
  rw [List.append_cons] at hnd ⊢
  rw [List.append_cons pre a (x :: post)]
  exact mem_without hnd y

/-- A ring is a chain up to `a`, the link from `a` to the node `b` behind it, and a chain from there;
with `x` put between `a` and `b` the two chains are the same.  None of the links between `a` and `b` is
read by the chains. -/
lemma exists_behind (hnd : (pre ++ a :: post).Nodup) : ∃ b r,
    (∀ nxt prv : N → N, Ring nxt prv (pre ++ a :: post) ↔
      Linked nxt prv (pre ++ [a]) ∧ (nxt a = b ∧ prv b = a) ∧ Linked nxt prv (b :: r)) ∧
    (∀ (nxt prv : N → N) (x : N), Ring nxt prv (pre ++ a :: x :: post) ↔
      Linked nxt prv (pre ++ [a]) ∧ (nxt a = x ∧ prv x = a) ∧ (nxt x = b ∧ prv b = x) ∧
        Linked nxt prv (b :: r)) ∧
    (∀ y ∈ pre, y ≠ a) ∧ (∀ y ∈ (pre ++ [a]).tail, y ≠ b ∧ y ∈ pre ++ a :: post) ∧
    (∀ y ∈ (b :: r).dropLast, y ≠ a ∧ y ∈ pre ++ a :: post) ∧
    (∀ y ∈ r, y ≠ b ∧ y ∈ pre ++ a :: post) ∧ b ∈ pre ++ a :: post := by
  obtain ⟨hd, tl, hhd⟩ : ∃ hd tl, pre ++ [a] = hd :: tl := by
    cases pre with
    | nil => exact ⟨a, [], rfl⟩
    | cons p pre => exact ⟨p, pre ++ [a], rfl⟩
  have hclose : ∀ l, (pre ++ a :: l).head? = some hd := by
    intro l
    have hl : pre ++ a :: l = (pre ++ [a]) ++ l := by simp
    rw [hl, hhd]
    rfl
  have hlist : pre ++ a :: post = hd :: (tl ++ post) := by
    have hl : pre ++ a :: post = (pre ++ [a]) ++ post := by simp
    rw [hl, hhd]
    rfl
  have hpre : ∀ y ∈ pre, y ≠ a := by
    intro y hy
    exact (List.nodup_append.mp hnd).2.2 y hy a (List.mem_cons_self ..)
  have hpost : ∀ y ∈ post, y ≠ a := by
    intro y hy heq
    exact (List.nodup_cons.mp (List.nodup_append.mp hnd).2.1).1 (heq ▸ hy)
  rw [hlist] at hnd
  obtain ⟨hhead, htail⟩ := List.nodup_cons.mp hnd
  obtain ⟨htl, hnpost, hdisj⟩ := List.nodup_append.mp htail
  have hring : ∀ (nxt prv : N → N) (l : List N), Ring nxt prv (pre ++ a :: l) ↔
      Linked nxt prv (pre ++ a :: (l ++ [hd])) := by
    intro nxt prv l
    unfold Ring
    rw [hclose l]
    simp
  cases post with
  | nil =>
    refine ⟨hd, [], ?_, ?_, hpre, ?_, ?_, ?_, ?_⟩
    · intro nxt prv
      rw [hring nxt prv []]
      exact List.isChain_append_cons_cons
    · intro nxt prv x
      rw [hring nxt prv [x]]
      unfold Linked
      rw [List.cons_append, List.isChain_append_cons_cons, List.nil_append, List.isChain_cons_cons]
    · intro y hy
      rw [hhd] at hy
      rw [hlist]
      refine ⟨?_, by simp [show y ∈ tl from hy]⟩
      intro heq
      exact hhead (by rw [← heq]; simpa using hy)
    · intro y hy
      cases hy
    · intro y hy
      cases hy
    · rw [hlist]
      exact List.mem_cons_self ..
  | cons b post =>
    have hbhd : b ≠ hd := by
      intro heq
      exact hhead (by simp [heq])
    refine ⟨b, post ++ [hd], ?_, ?_, hpre, ?_, ?_, ?_, ?_⟩
    · intro nxt prv
      rw [hring nxt prv (b :: post)]
      exact List.isChain_append_cons_cons
    · intro nxt prv x
      rw [hring nxt prv (x :: b :: post)]
      unfold Linked
      rw [List.cons_append, List.isChain_append_cons_cons, List.cons_append, List.isChain_cons_cons]
    · intro y hy
      rw [hhd] at hy
      rw [hlist]
      exact ⟨hdisj y hy b (List.mem_cons_self ..), by simp [show y ∈ tl from hy]⟩
    · intro y hy
      have hmem : y ∈ b :: post := by
        rwa [← List.cons_append, List.dropLast_concat] at hy
      exact ⟨hpost y hmem, by rw [hlist]; simp [hmem]⟩
    · intro y hy
      rw [hlist]
      rcases List.mem_append.mp hy with hy | hy
      · refine ⟨?_, by simp [hy]⟩
        intro heq
        exact (List.nodup_cons.mp hnpost).1 (heq ▸ hy)
      · rw [List.mem_singleton.mp hy]
        exact ⟨fun heq => hbhd heq.symm, List.mem_cons_self ..⟩
    · simp

/-- **The node `x` is put behind `a`.** -/
theorem Ring.insert (h : Ring nxt prv (pre ++ a :: post)) (hnd : (pre ++ a :: x :: post).Nodup)
    (ha : nxt' a = x) (hx : nxt' x = nxt a) (hxa : prv' x = a) (hb : prv' (nxt a) = x)
    (hn : ∀ y ∈ pre ++ a :: post, y ≠ a → nxt' y = nxt y)
    (hp : ∀ y ∈ pre ++ a :: post, y ≠ nxt a → prv' y = prv y) :
    Ring nxt' prv' (pre ++ a :: x :: post) := by
  have hnd' : (pre ++ a :: post).Nodup := by
    refine hnd.sublist (List.Sublist.append_left ?_ pre)
    exact (List.sublist_cons_self x post).cons_cons a
  obtain ⟨b, r, hiff, hiff', hpre, htail, hlast, hr, -⟩ := exists_behind hnd'
  obtain ⟨h₁, ⟨hab, -⟩, h₂⟩ := (hiff nxt prv).mp h
  rw [hab] at hx hb hp
  refine (hiff' nxt' prv' x).mpr ⟨h₁.congr ?_ ?_, ⟨ha, hxa⟩, ⟨hx, hb⟩, h₂.congr ?_ ?_⟩
  · intro y hy
    rw [List.dropLast_concat] at hy
    exact hn y (List.mem_append_left _ hy) (hpre y hy)
  · intro y hy
    exact hp y (htail y hy).2 (htail y hy).1
  · intro y hy
    exact hn y (hlast y hy).2 (hlast y hy).1
  · intro y hy
    exact hp y (hr y hy).2 (hr y hy).1

/-- **The node `x` behind `a` is taken out.** -/
theorem Ring.remove (h : Ring nxt prv (pre ++ a :: x :: post)) (hnd : (pre ++ a :: x :: post).Nodup)
    (ha : nxt' a = nxt x) (hb : prv' (nxt x) = a)
    (hn : ∀ y ∈ pre ++ a :: post, y ≠ a → nxt' y = nxt y)
    (hp : ∀ y ∈ pre ++ a :: post, y ≠ nxt x → prv' y = prv y) :
    Ring nxt' prv' (pre ++ a :: post) := by
  have hnd' : (pre ++ a :: post).Nodup := by
    refine hnd.sublist (List.Sublist.append_left ?_ pre)
    exact (List.sublist_cons_self x post).cons_cons a
  obtain ⟨b, r, hiff, hiff', hpre, htail, hlast, hr, -⟩ := exists_behind hnd'
  obtain ⟨h₁, -, ⟨hxb, -⟩, h₂⟩ := (hiff' nxt prv x).mp h
  rw [hxb] at ha hb hp
  refine (hiff nxt' prv').mpr ⟨h₁.congr ?_ ?_, ⟨ha, hb⟩, h₂.congr ?_ ?_⟩
  · intro y hy
    rw [List.dropLast_concat] at hy
    exact hn y (List.mem_append_left _ hy) (hpre y hy)
  · intro y hy
    exact hp y (htail y hy).2 (htail y hy).1
  · intro y hy
    exact hn y (hlast y hy).2 (hlast y hy).1
  · intro y hy
    exact hp y (hr y hy).2 (hr y hy).1

/-- Only the links of its own nodes matter. -/
lemma Ring.congr {w : List N} (h : Ring nxt prv w) (hn : ∀ y ∈ w, nxt' y = nxt y)
    (hp : ∀ y ∈ w, prv' y = prv y) : Ring nxt' prv' w := by
  have hmem : ∀ y ∈ w ++ w.head?.toList, y ∈ w := by
    intro y hy
    rcases List.mem_append.mp hy with hy | hy
    · exact hy
    · exact List.mem_of_mem_head? (by simpa using hy)
  refine Linked.congr h ?_ ?_
  · intro y hy
    exact hn y (hmem y ((List.dropLast_sublist _).mem hy))
  · intro y hy
    exact hp y (hmem y (List.mem_of_mem_tail hy))

/-- The node behind `a`. -/
lemma Ring.next_eq (h : Ring nxt prv (pre ++ a :: b :: post)) : nxt a = b ∧ prv b = a := by
  unfold Ring Linked at h
  rw [List.append_assoc, List.cons_append, List.cons_append, List.isChain_append_cons_cons] at h
  exact h.2.1

/-- The links of a node lead to nodes that lead back. -/
lemma Ring.next_prev {w : List N} (h : Ring nxt prv w) (hnd : w.Nodup) (ha : a ∈ w) :
    nxt a ∈ w ∧ prv (nxt a) = a := by
  obtain ⟨pre, post, rfl⟩ := List.append_of_mem ha
  obtain ⟨b, r, hiff, -, -, -, -, -, hb⟩ := exists_behind hnd
  obtain ⟨-, ⟨hab, hba⟩, -⟩ := (hiff nxt prv).mp h
  rw [hab]
  exact ⟨hb, hba⟩

/-- The last node is linked to the first one. -/
lemma Ring.last_next (h : Ring nxt prv (a :: pre ++ [b])) : nxt b = a ∧ prv a = b := by
  unfold Ring Linked at h
  rw [List.cons_append, List.head?_cons, Option.toList_some, List.cons_append, List.append_assoc,
    ← List.cons_append, List.singleton_append, List.isChain_append_cons_cons] at h
  exact h.2.1

lemma Ring.prev_next {w : List N} (h : Ring nxt prv w) (hnd : w.Nodup) (ha : a ∈ w) :
    prv a ∈ w ∧ nxt (prv a) = a := by
  obtain ⟨pre, post, rfl⟩ := List.append_of_mem ha
  induction pre using List.reverseRecOn with
  | append_singleton pre p _ =>
    rw [List.append_assoc, List.singleton_append] at h
    obtain ⟨hn, hp⟩ := h.next_eq
    rw [hp, hn]
    exact ⟨by simp, rfl⟩
  | nil =>
    rw [List.nil_append] at h ⊢
    induction post using List.reverseRecOn with
    | nil =>
      obtain ⟨hn, hp⟩ : nxt a = a ∧ prv a = a := (List.isChain_cons_cons.mp h).1
      rw [hp, hn]
      exact ⟨List.mem_cons_self .., rfl⟩
    | append_singleton post b _ =>
      rw [← List.cons_append] at h
      obtain ⟨hn, hp⟩ := h.last_next
      rw [hp, hn]
      exact ⟨by simp, rfl⟩

/-- Up to the last node a ring is a chain. -/
lemma Ring.linked {w : List N} (h : Ring nxt prv w) : Linked nxt prv w :=
  List.IsChain.left_of_append h

/-- A chain that ends in `a` and does not pass `a` before is told by its first node. -/
lemma Linked.unique (ha : a ∉ l) {l' : List N} (ha' : a ∉ l') (h : Linked nxt prv (x :: l ++ [a]))
    (h' : Linked nxt prv (x :: l' ++ [a])) : l = l' := by
  unfold Linked at h h'
  induction l generalizing x l' with
  | nil =>
    rw [List.cons_append, List.nil_append, List.isChain_cons_cons] at h
    cases l' with
    | nil => rfl
    | cons y l' =>
      rw [List.cons_append, List.cons_append, List.isChain_cons_cons] at h'
      exact absurd (List.mem_cons.mpr (.inl (h.1.1.symm.trans h'.1.1))) ha'
  | cons y l ih =>
    rw [List.cons_append, List.cons_append, List.isChain_cons_cons] at h
    cases l' with
    | nil =>
      rw [List.cons_append, List.nil_append, List.isChain_cons_cons] at h'
      exact absurd (List.mem_cons.mpr (.inl (h'.1.1.symm.trans h.1.1))) ha
    | cons z l' =>
      rw [List.cons_append, List.cons_append, List.isChain_cons_cons] at h'
      obtain rfl : y = z := h.1.1.symm.trans h'.1.1
      rw [ih (fun hm => ha (List.mem_cons_of_mem _ hm)) (fun hm => ha' (List.mem_cons_of_mem _ hm)) h.2 h'.2]

/-- The nodes of a ring are told by its links. -/
lemma Ring.unique {l' : List N} (h : Ring nxt prv (a :: l)) (h' : Ring nxt prv (a :: l')) (hnd : (a :: l).Nodup)
    (hnd' : (a :: l').Nodup) : l = l' :=
  Linked.unique (List.nodup_cons.mp hnd).1 (List.nodup_cons.mp hnd').1 h h'

end N32L43x.Lib.Dll
