import Mathlib.Data.BitVec
import Mathlib.Data.List.Basic
import Mathlib.Logic.Function.Basic
import N32L43x.Lib.Memory

/-!
Words of four bytes in a memory with addresses of 32 bits: blocks of words stored and loaded in one go,
and a stack that grows downwards.  A block is read back as it was stored, in parts or at once, and what
lies outside it is not touched.
-/

namespace N32L43x.Lib.Stack

open N32L43x.Lib.Memory

variable {β : Type*}

/-- The memory with words stored one after the other. -/
def store (m : Addr → β) : Addr → List β → Addr → β
  | _, [] => m
  | a, w :: ws => store (Function.update m a w) (a + 4) ws

/-- The words from an address on. -/
def load (m : Addr → β) : Addr → ℕ → List β
  | _, 0 => []
  | a, n + 1 => m a :: load m (a + 4) n

/-- The word is one of `n` from `a` on. -/
def Within (a : Addr) (n : ℕ) (x : Addr) : Prop := ∃ i < n, x = a + BitVec.ofNat 32 (4 * i)

/-- The words are pushed, the last one first; the new stack pointer is the address of the first. -/
def push (m : Addr → β) (sp : Addr) (ws : List β) : (Addr → β) × Addr :=
  (store m (sp - BitVec.ofNat 32 (4 * ws.length)) ws, sp - BitVec.ofNat 32 (4 * ws.length))

/-- `n` words are popped. -/
def pop (m : Addr → β) (sp : Addr) (n : ℕ) : List β × Addr :=
  (load m sp n, sp + BitVec.ofNat 32 (4 * n))

variable {m m' : Addr → β} {a x : Addr} {us vs ws : List β} {n k : ℕ}

/-! ### Addresses of words -/

lemma four_add (a : Addr) (i : ℕ) : a + 4 + BitVec.ofNat 32 (4 * i) = a + BitVec.ofNat 32 (4 * (i + 1)) := by
  have h4 : (4 : Addr) = BitVec.ofNat 32 4 := rfl
  rw [h4, add_ofNat_add]
  congr 2
  omega

lemma Within.head (a : Addr) (n : ℕ) : Within a (n + 1) a := ⟨0, by omega, by simp⟩

lemma Within.tail (h : Within (a + 4) n x) : Within a (n + 1) x := by
  obtain ⟨i, hi, rfl⟩ := h
  exact ⟨i + 1, by omega, four_add a i⟩

lemma Within.left (h : Within a n x) : Within a (n + k) x := by
  obtain ⟨i, hi, rfl⟩ := h
  exact ⟨i, by omega, rfl⟩

lemma Within.right (h : Within (a + BitVec.ofNat 32 (4 * n)) k x) : Within a (n + k) x := by
  obtain ⟨i, hi, rfl⟩ := h
  refine ⟨n + i, by omega, ?_⟩
  rw [add_ofNat_add]
  congr 2
  omega

lemma within_add_iff : Within a (n + k) x ↔ Within a n x ∨ Within (a + BitVec.ofNat 32 (4 * n)) k x := by
  refine ⟨fun ⟨i, hi, hx⟩ => ?_, fun h => h.elim Within.left Within.right⟩
  by_cases hlt : i < n
  · exact .inl ⟨i, hlt, hx⟩
  · refine .inr ⟨i - n, by omega, ?_⟩
    rw [hx, add_ofNat_add]
    congr 2
    omega

/-- The words of a block that does not reach the end of the memory lie between its ends. -/
lemma Within.bounds (h : Within a n x) (hend : a.toNat + 4 * n ≤ 0x100000000) :
    a.toNat ≤ x.toNat ∧ x.toNat + 4 ≤ a.toNat + 4 * n := by
  obtain ⟨i, hi, rfl⟩ := h
  rw [BitVec.toNat_add, toNat_ofNat_of_lt (by omega), Nat.mod_eq_of_lt (by omega)]
  omega

/-- A block and the one that follows it have no word in common. -/
lemma Within.not_next (hx : Within a n x) (hlen : 4 * (n + k) ≤ 0x100000000) :
    ¬ Within (a + BitVec.ofNat 32 (4 * n)) k x := by
  obtain ⟨i, hi, rfl⟩ := hx
  rintro ⟨j, hj, h⟩
  rw [add_ofNat_add] at h
  have hoff := congrArg (fun y => (y - a).toNat) h
  rw [toNat_add_sub (by omega), toNat_add_sub (by omega)] at hoff
  omega

/-- A word is not among those behind it. -/
lemma not_within_succ (hn : 4 * n + 4 ≤ 0x100000000) : ¬ Within (a + 4) n a :=
  (Within.head a 0).not_next (k := n) (by omega)

/-! ### Storing -/

@[simp] lemma store_nil : store m a [] = m := rfl

lemma store_append : store m a (us ++ vs) =
    store (store m a us) (a + BitVec.ofNat 32 (4 * us.length)) vs := by
  induction us generalizing m a with
  | nil => simp
  | cons u us ih =>
    rw [List.cons_append, store, store, ih, four_add]
    rfl

/-- What lies outside the block is not touched. -/
lemma store_of_not_within (h : ¬ Within a ws.length x) : store m a ws x = m x := by
  induction ws generalizing m a with
  | nil => rfl
  | cons w ws ih =>
    have hne : x ≠ a := by
      rintro rfl
      exact h (Within.head x ws.length)
    rw [store, ih fun hx => h hx.tail, Function.update_of_ne hne]

/-- A word outside the block may be written before or after it. -/
lemma store_update_comm {v : β} (h : ¬ Within a ws.length x) :
    store (Function.update m x v) a ws = Function.update (store m a ws) x v := by
  induction ws generalizing m a with
  | nil => rfl
  | cons w ws ih =>
    have hne : a ≠ x := by
      rintro rfl
      exact h (Within.head a ws.length)
    rw [store, store, Function.update_comm hne.symm, ih fun hx => h hx.tail]

/-- A block may be stored from its end. -/
lemma store_append' (hlen : 4 * (us.length + vs.length) ≤ 0x100000000) : store m a (us ++ vs) =
    store (store m (a + BitVec.ofNat 32 (4 * us.length)) vs) a us := by
  induction us generalizing m a with
  | nil => simp
  | cons u us ih =>
    rw [List.length_cons] at hlen
    have hout : ¬ Within (a + 4 + BitVec.ofNat 32 (4 * us.length)) vs.length a := fun hx =>
      not_within_succ (by omega) (Within.right hx)
    rw [List.cons_append, store, ih (by omega), List.length_cons, store, ← four_add, store_update_comm hout]

/-! ### Loading -/

@[simp] lemma length_load : (load m a n).length = n := by
  induction n generalizing a with
  | zero => rfl
  | succ n ih => rw [load, List.length_cons, ih]

lemma load_add : load m a (n + k) = load m a n ++ load m (a + BitVec.ofNat 32 (4 * n)) k := by
  induction n generalizing a with
  | zero => simp [load]
  | succ n ih => rw [Nat.succ_add, load, ih, load, List.cons_append, four_add]

/-- What is loaded depends on the words of the block only. -/
lemma load_congr (h : ∀ x, Within a n x → m x = m' x) : load m a n = load m' a n := by
  induction n generalizing a with
  | zero => rfl
  | succ n ih => rw [load, load, h a (Within.head a n), ih fun x hx => h x hx.tail]

/-- **A block is read back as it was stored.** -/
theorem load_store (hlen : 4 * ws.length ≤ 0x100000000) : load (store m a ws) a ws.length = ws := by
  induction ws generalizing m a with
  | nil => rfl
  | cons w ws ih =>
    rw [List.length_cons] at hlen
    rw [List.length_cons, load, store, ih (by omega),
      store_of_not_within (not_within_succ (by omega)), Function.update_self]

/-! ### The stack -/

/-- **What is popped is what was pushed**, and the stack pointer is where it was. -/
theorem pop_push (m : Addr → β) (sp : Addr) (hlen : 4 * ws.length ≤ 0x100000000) :
    pop (push m sp ws).1 (push m sp ws).2 ws.length = (ws, sp) := by
  unfold pop push
  rw [load_store hlen, BitVec.sub_add_cancel]

/-- Words pushed in two parts. -/
theorem push_push (m : Addr → β) (sp : Addr) (hlen : 4 * (vs.length + us.length) ≤ 0x100000000) :
    push (push m sp us).1 (push m sp us).2 vs = push m sp (vs ++ us) := by
  have hsp : sp - BitVec.ofNat 32 (4 * us.length) - BitVec.ofNat 32 (4 * vs.length) =
      sp - BitVec.ofNat 32 (4 * (vs ++ us).length) := by
    rw [List.length_append, Nat.mul_add, BitVec.ofNat_add, BitVec.add_comm, sub_add_eq_sub_sub]
  have hback : sp - BitVec.ofNat 32 (4 * us.length) = sp - BitVec.ofNat 32 (4 * (vs ++ us).length) +
      BitVec.ofNat 32 (4 * vs.length) := by
    rw [← hsp, BitVec.sub_add_cancel]
  unfold push
  dsimp only
  rw [hsp, store_append' hlen, ← hback]

end N32L43x.Lib.Stack
