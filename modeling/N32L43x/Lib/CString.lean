import Mathlib.Data.List.Basic
import Mathlib.Data.List.TakeDrop
import Mathlib.Data.List.TakeWhile

/-!
Arrays of bytes with C strings in them.  An access that leaves the array gives `none`.  A buffer of
a given size that holds a text and zeros behind it is `pad size text`.
-/

namespace N32L43x.Lib.CString

/-- `strlen` of the string at the beginning, `none` if it does not end within the array. -/
def strlen : List UInt8 → Option ℕ
  | [] => none
  | c :: a => if c = 0 then some 0 else (strlen a).map (· + 1)

/-- The string at the beginning, without its end. -/
def cString (a : List UInt8) : List UInt8 := a.takeWhile (· ≠ 0)

/-- `memcpy` of `n` bytes to a place in an array. -/
def memcpy (dst : List UInt8) (off : ℕ) (src : List UInt8) (n : ℕ) : Option (List UInt8) :=
  if off + n ≤ dst.length ∧ n ≤ src.length then
    some (dst.take off ++ src.take n ++ dst.drop (off + n))
  else none

/-- `memmove` within an array. -/
def memmove (a : List UInt8) (dst src n : ℕ) : Option (List UInt8) := memcpy a dst (a.drop src) n

/-- A write of one byte. -/
def store (a : List UInt8) (i : ℕ) (c : UInt8) : Option (List UInt8) :=
  if i < a.length then some (a.set i c) else none

/-- `memcmp`: whether the bytes are the same. -/
def memcmp (a b : List UInt8) (n : ℕ) : Option Bool :=
  if n ≤ a.length ∧ n ≤ b.length then some (a.take n == b.take n) else none

/-- `strncpy`: the rest is filled up with zeros. -/
def strncpy (dst : List UInt8) (off : ℕ) (src : List UInt8) (n : ℕ) : Option (List UInt8) :=
  memcpy dst off (src.take n ++ List.replicate (n - src.length) 0) n

def pad (size : ℕ) (text : List UInt8) : List UInt8 :=
  text ++ List.replicate (size - text.length) 0

variable {size n : ℕ} {text a b m src : List UInt8}

/-! ### Strings -/

lemma strlen_append (h : 0 ∉ text) (rest : List UInt8) :
    strlen (text ++ 0 :: rest) = some text.length := by
  induction text with
  | nil => rfl
  | cons c text ih =>
    have hc : c ≠ 0 := fun hc => h (hc ▸ List.mem_cons_self)
    rw [List.cons_append, strlen, if_neg hc, ih fun h0 => h (List.mem_cons_of_mem c h0)]
    rfl

lemma strlen_of_notMem (h : 0 ∉ a) : strlen a = none := by
  induction a with
  | nil => rfl
  | cons c a ih =>
    have hc : c ≠ 0 := fun hc => h (hc ▸ List.mem_cons_self)
    rw [strlen, if_neg hc, ih fun h0 => h (List.mem_cons_of_mem c h0)]
    rfl

lemma zero_notMem_cString (a : List UInt8) : 0 ∉ cString a := by
  intro h
  have h0 := List.mem_takeWhile_imp h
  exact absurd rfl (of_decide_eq_true h0)

lemma cString_append (h : 0 ∉ text) (rest : List UInt8) : cString (text ++ 0 :: rest) = text := by
  induction text with
  | nil => rfl
  | cons c text ih =>
    have hc : c ≠ 0 := fun hc => h (hc ▸ List.mem_cons_self)
    unfold cString at ih ⊢
    rw [List.cons_append, List.takeWhile_cons_of_pos (by simpa using hc),
      ih fun h0 => h (List.mem_cons_of_mem c h0)]

lemma exists_cString (h : 0 ∈ src) : ∃ rest, src = cString src ++ 0 :: rest := by
  induction src with
  | nil => simp at h
  | cons c src ih =>
    by_cases hc : c = 0
    · exact ⟨src, by simp [cString, hc]⟩
    · obtain ⟨rest, hrest⟩ := ih ((List.mem_cons.mp h).resolve_left (Ne.symm hc))
      refine ⟨rest, ?_⟩
      have hcons : cString (c :: src) = c :: cString src := by simp [cString, hc]
      rw [hcons, List.cons_append, ← hrest]

lemma strlen_of_mem (h : 0 ∈ a) : strlen a = some (cString a).length := by
  obtain ⟨rest, hrest⟩ := exists_cString h
  conv_lhs => rw [hrest, strlen_append (zero_notMem_cString a)]

/-! ### Copies -/

lemma memcpy_append (a b : List UInt8) (hm : m.length = n) (hsrc : n ≤ src.length) :
    memcpy (a ++ (m ++ b)) a.length src n = some (a ++ (src.take n ++ b)) := by
  unfold memcpy
  have hlen : a.length + n ≤ (a ++ (m ++ b)).length := by
    simp only [List.length_append]
    omega
  have hdrop : (a ++ (m ++ b)).drop (a.length + n) = b := by
    rw [← List.drop_drop, List.drop_left, ← hm, List.drop_left]
  rw [if_pos ⟨hlen, hsrc⟩, List.take_left, hdrop, List.append_assoc]

lemma store_append (c d : UInt8) : store (a ++ d :: b) a.length c = some (a ++ c :: b) := by
  unfold store
  have hlen : a.length < (a ++ d :: b).length := by
    simp only [List.length_append, List.length_cons]
    omega
  rw [if_pos hlen, List.set_append_right _ _ (le_refl _), Nat.sub_self]
  rfl

/-- The bytes from a place on move up by one, and a byte takes the place. -/
lemma memmove_up (a rest : List UInt8) (hb : b ≠ []) (c d : UInt8) :
    (memmove (a ++ (b ++ d :: rest)) (a.length + 1) a.length b.length).bind
      (store · a.length c) = some (a ++ c :: (b ++ rest)) := by
  obtain ⟨x, m, hbm⟩ : ∃ x m, b ++ [d] = x :: m := by
    cases b with
    | nil => exact absurd rfl hb
    | cons x b => exact ⟨x, b ++ [d], rfl⟩
  have hlen : m.length = b.length := by
    have h := congrArg List.length hbm
    simpa using h.symm
  have harr : a ++ (b ++ d :: rest) = (a ++ [x]) ++ (m ++ rest) := by
    calc a ++ (b ++ d :: rest) = a ++ ((b ++ [d]) ++ rest) := by simp
      _ = (a ++ [x]) ++ (m ++ rest) := by rw [hbm]; simp
  have hsrc : (a ++ (b ++ d :: rest)).drop a.length = b ++ d :: rest := List.drop_left
  have hle : b.length ≤ (b ++ d :: rest).length := by
    simp only [List.length_append]
    omega
  have hx : a.length + 1 = (a ++ [x]).length := by simp
  unfold memmove
  rw [hsrc, harr, hx, memcpy_append _ _ hlen hle, List.take_left, Option.bind_some, List.append_assoc]
  exact store_append c x

/-- The bytes behind a place move down by one, and the last is erased. -/
lemma memmove_down (a b rest : List UInt8) (c : UInt8) :
    (memmove (a ++ c :: (b ++ rest)) a.length (a.length + 1) b.length).bind
      (store · (a.length + b.length) 0) = some (a ++ (b ++ 0 :: rest)) := by
  obtain ⟨m, y, hbm⟩ : ∃ m y, c :: b = m ++ [y] := by
    refine ⟨(c :: b).dropLast, (c :: b).getLast (List.cons_ne_nil c b), ?_⟩
    exact (List.dropLast_append_getLast _).symm
  have hlen : m.length = b.length := by
    have h := congrArg List.length hbm
    simpa using h.symm
  have harr : a ++ c :: (b ++ rest) = a ++ (m ++ y :: rest) := by
    calc a ++ c :: (b ++ rest) = a ++ ((c :: b) ++ rest) := by simp
      _ = a ++ (m ++ y :: rest) := by rw [hbm]; simp
  have hsrc : (a ++ c :: (b ++ rest)).drop (a.length + 1) = b ++ rest := by
    rw [← List.drop_drop, List.drop_left]
    rfl
  have hle : b.length ≤ (b ++ rest).length := by
    simp only [List.length_append]
    omega
  unfold memmove
  rw [hsrc, harr, memcpy_append _ _ hlen hle, List.take_left, Option.bind_some, ← List.append_assoc,
    ← List.length_append, store_append, List.append_assoc]

/-! ### Texts in a buffer -/

lemma length_pad (h : text.length ≤ size) : (pad size text).length = size := by
  unfold pad
  rw [List.length_append, List.length_replicate]
  omega

/-- There is a zero behind a text that does not fill its buffer. -/
lemma pad_eq (h : text.length < size) :
    pad size text = text ++ 0 :: List.replicate (size - text.length - 1) 0 := by
  unfold pad
  obtain ⟨k, hk⟩ : ∃ k, size - text.length = k + 1 := ⟨size - text.length - 1, by omega⟩
  rw [hk, Nat.add_sub_cancel, List.replicate_succ]

lemma strlen_pad (h0 : 0 ∉ text) (h : text.length < size) :
    strlen (pad size text) = some text.length := by
  rw [pad_eq h, strlen_append h0]

lemma cString_pad (h0 : 0 ∉ text) (h : text.length < size) : cString (pad size text) = text := by
  rw [pad_eq h, cString_append h0]

/-- A text is what is in its buffer, also if it fills it. -/
lemma cString_pad_of_le (h0 : 0 ∉ text) (h : text.length ≤ size) : cString (pad size text) = text := by
  rcases h.lt_or_eq with hlt | rfl
  · exact cString_pad h0 hlt
  · unfold pad cString
    rw [Nat.sub_self, List.replicate_zero, List.append_nil, List.takeWhile_eq_self_iff]
    exact fun c hc => decide_eq_true fun hc0 => h0 (hc0 ▸ hc)

/-- A string that starts within the text ends where the text ends. -/
lemma strlen_drop_pad (h0 : 0 ∉ text) (h : text.length < size) {i : ℕ} (hi : i ≤ text.length) :
    strlen ((pad size text).drop i) = some (text.length - i) := by
  rw [pad_eq h, List.drop_append_of_le_length hi,
    strlen_append fun hmem => h0 (List.mem_of_mem_drop hmem), List.length_drop]

lemma cString_drop_pad (h0 : 0 ∉ text) (h : text.length < size) {i : ℕ} (hi : i ≤ text.length) :
    cString ((pad size text).drop i) = text.drop i := by
  rw [pad_eq h, List.drop_append_of_le_length hi,
    cString_append fun hmem => h0 (List.mem_of_mem_drop hmem)]

/-- A text is copied over the beginning of zeros. -/
lemma memcpy_zeros (hn : n ≤ size) (hsrc : n ≤ src.length) :
    memcpy (List.replicate size 0) 0 src n = some (pad size (src.take n)) := by
  have hz : List.replicate size (0 : UInt8) =
      [] ++ (List.replicate n 0 ++ List.replicate (size - n) 0) := by
    rw [List.nil_append, List.replicate_append_replicate, Nat.add_sub_cancel' hn]
  have hlen : (List.replicate n (0 : UInt8)).length = n := List.length_replicate
  have hcpy := memcpy_append [] (List.replicate (size - n) 0) hlen hsrc
  rw [hz]
  refine hcpy.trans ?_
  unfold pad
  rw [List.length_take_of_le hsrc]
  rfl

end N32L43x.Lib.CString
