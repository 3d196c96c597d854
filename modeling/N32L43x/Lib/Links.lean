import Mathlib.Data.List.Basic
import Mathlib.Logic.Function.Basic

/-!
Singly linked lists given by a `next` link: the nodes from a head to the null link, and what the
usual edits at the two ends do to them.
-/

namespace N32L43x.Lib.Links

variable {N : Type*} {next next' : N → Option N} {h : Option N} {n t : N} {l : List N}

/-- The nodes reached from `h` along `next`, up to the null link, are `l`. -/
def Links (next : N → Option N) : Option N → List N → Prop
  | h, [] => h = none
  | h, n :: l => h = some n ∧ Links next (next n) l

/-- Only the links of its own nodes matter. -/
lemma Links.congr : ∀ {l : List N} {h : Option N}, Links next h l → (∀ x ∈ l, next' x = next x) →
    Links next' h l
  | [], _, hl, _ => hl
  | n :: l, h, hl, hsame => by
    refine ⟨hl.1, ?_⟩
    rw [hsame n (List.mem_cons_self ..)]
    exact hl.2.congr fun x hx => hsame x (List.mem_cons_of_mem n hx)

lemma Links.head (hl : Links next h l) : h = l.head? := by
  cases l with
  | nil => exact hl
  | cons n l => exact hl.1

/-- A node in front. -/
lemma Links.push (hl : Links next h l) (hn : next' n = h) (hsame : ∀ x ∈ l, next' x = next x) :
    Links next' (some n) (n :: l) := by
  refine ⟨rfl, ?_⟩
  rw [hn]
  exact hl.congr hsame

/-- A node at the end of a list that has a last node `t`. -/
lemma Links.snoc : ∀ {l : List N} {h : Option N}, Links next h (l ++ [t]) →
    (∀ x ∈ l, next' x = next x) → next' t = some n → next' n = none →
    Links next' h (l ++ [t, n])
  | [], h, hl, _, ht, hn => ⟨hl.1, by rw [ht]; exact ⟨rfl, hn⟩⟩
  | x :: l, h, hl, hsame, ht, hn => by
    refine ⟨hl.1, ?_⟩
    rw [hsame x (List.mem_cons_self ..)]
    exact hl.2.snoc (fun y hy => hsame y (List.mem_cons_of_mem x hy)) ht hn

/-- A node `n` behind the node `t` is taken out. -/
lemma Links.unlink : ∀ {l r : List N} {h : Option N}, Links next h (l ++ t :: n :: r) →
    (∀ x ∈ l, next' x = next x) → (∀ x ∈ r, next' x = next x) → next' t = next n →
    Links next' h (l ++ t :: r)
  | [], r, h, hl, _, hr, ht => by
    refine ⟨hl.1, ?_⟩
    rw [ht]
    exact hl.2.2.congr hr
  | x :: l, r, h, hl, hsame, hr, ht => by
    refine ⟨hl.1, ?_⟩
    rw [hsame x (List.mem_cons_self ..)]
    exact hl.2.unlink (fun y hy => hsame y (List.mem_cons_of_mem x hy)) hr ht

/-- What follows the first nodes of a list. -/
lemma Links.suffix : ∀ {l r : List N} {h : Option N}, Links next h (l ++ t :: r) → Links next (next t) r
  | [], _, _, hl => hl.2
  | _ :: _, _, _, hl => hl.2.suffix

end N32L43x.Lib.Links
