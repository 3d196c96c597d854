import N32L43x.Klibc.Vsnprintf.Format

/-!
What a call leaves in a buffer of any size: the text cut to the size, and the number of its characters.
-/

namespace N32L43x.Klibc.Vsnprintf

open N32L43x.Lib.Memory

variable {b b' : Buffer} {t : List Byte} {c : Byte} {a buf buf' : Addr} {mem : Ram} {m n : BitVec 32}
  {text : Word → List Byte} {fmt : List Byte} {args : VaList}

/-! ### Text in a buffer -/

namespace Buffer

lemma foldl_last (t : List Byte) (b : Buffer) : (t.foldl put b).last = b.last := by
  induction t generalizing b with
  | nil => rfl
  | cons c t ih => exact ih _

lemma foldl_str (t : List Byte) (b : Buffer) :
    (t.foldl put b).str = b.str + BitVec.ofNat 32 t.length := by
  induction t generalizing b with
  | nil => simp
  | cons c t ih =>
    rw [List.foldl_cons, ih, List.length_cons, Nat.add_comm, ← add_ofNat_add]
    rfl

lemma put_mem (b : Buffer) (c : Byte) (a : Addr) :
    (b.put c).mem a = if a = b.str ∧ b.str < b.last then c else b.mem a := by
  unfold put
  dsimp only
  by_cases hlt : b.str < b.last
  · rw [if_pos hlt, Function.update_apply]
    simp only [hlt, and_true]
  · rw [if_neg hlt, if_neg fun h => hlt h.2]

lemma foldl_str_toNat (h : b.str.toNat + t.length < 0x100000000) :
    (t.foldl put b).str.toNat = b.str.toNat + t.length := by
  rw [foldl_str, BitVec.toNat_add, toNat_ofNat_of_lt (by omega), Nat.mod_eq_of_lt h]

lemma getElem?_snoc {k : ℕ} (h : k ≠ t.length) : (t ++ [c])[k]? = t[k]? := by
  rcases lt_or_gt_of_ne h with hlt | hgt
  · exact List.getElem?_append_left hlt
  · rw [List.getElem?_eq_none (by rw [List.length_append, List.length_singleton]; omega),
      List.getElem?_eq_none hgt.le]

/-- Every character of the text has its place, and is there if the place is before the end. -/
lemma foldl_mem (h : b.str.toNat + t.length ≤ 0x100000000) (a : Addr) :
    (t.foldl put b).mem a =
      if b.str ≤ a ∧ a < b.last then t[a.toNat - b.str.toNat]?.getD (b.mem a) else b.mem a := by
  induction t using List.reverseRecOn with
  | nil => simp
  | append_singleton t c ih =>
    rw [List.length_append, List.length_singleton] at h
    have hstr := foldl_str_toNat (b := b) (t := t) (by omega)
    rw [List.foldl_append, List.foldl_cons, List.foldl_nil, put_mem, foldl_last, ih (by omega)]
    by_cases ha : a = (t.foldl put b).str
    · subst ha
      have hle : b.str ≤ (t.foldl put b).str := by
        rw [BitVec.le_def, hstr]
        exact Nat.le_add_right _ _
      by_cases hlt : (t.foldl put b).str < b.last
      · rw [if_pos ⟨rfl, hlt⟩, if_pos ⟨hle, hlt⟩, hstr, Nat.add_sub_cancel_left, List.getElem?_concat_length]
        rfl
      · rw [if_neg fun h => hlt h.2, if_neg fun h => hlt h.2, if_neg fun h => hlt h.2]
    · rw [if_neg fun h => ha h.1]
      by_cases hle : b.str ≤ a
      · have hne : a.toNat - b.str.toNat ≠ t.length := fun heq =>
          ha (BitVec.eq_of_toNat_eq (by rw [BitVec.le_def] at hle; omega))
        rw [getElem?_snoc hne]
      · rw [if_neg fun h => hle h.1, if_neg fun h => hle h.1]

/-- What a place holds after the text depends on what it held before and on nothing else of the memory. -/
lemma foldl_congr (hstr : b.str = b'.str) (hlast : b.last = b'.last) (ha : b.mem a = b'.mem a) :
    (t.foldl put b).mem a = (t.foldl put b').mem a := by
  induction t generalizing b b' with
  | nil => exact ha
  | cons c t ih =>
    refine ih ?_ hlast ?_
    · exact congrArg (· + 1#32) hstr
    · rw [put_mem, put_mem, hstr, hlast, ha]

end Buffer

/-! ### A call -/

/-- The buffer behind the last character. -/
def filled (mem : Ram) (buf last : Addr) (t : List Byte) : Buffer := t.foldl Buffer.put ⟨mem, buf, last⟩

lemma filled_str (mem : Ram) (buf last : Addr) (t : List Byte) :
    (filled mem buf last t).str = buf + BitVec.ofNat 32 t.length := Buffer.foldl_str t _

lemma filled_last (mem : Ram) (buf last : Addr) (t : List Byte) : (filled mem buf last t).last = last :=
  Buffer.foldl_last t _

lemma rtVsnprintf_snd (mem : Ram) (buf : Addr) (m : BitVec 32) (text : Word → List Byte) (fmt : List Byte)
    (args : VaList) :
    (rtVsnprintf mem buf m text fmt args).2 = (BitVec.ofNat 32 (fullText text fmt args).length).toInt := by
  unfold rtVsnprintf
  dsimp only
  rw [formatLoop_eq, Buffer.foldl_str, BitVec.add_comm, BitVec.add_sub_cancel]

lemma rtVsnprintf_fst (hfit : buf.toNat + m.toNat < 0x100000000) :
    (rtVsnprintf mem buf m text fmt args).1 = putNul m (filled mem buf (buf + m) (fullText text fmt args)) := by
  have hlast : ¬ buf + m < buf := by
    rw [BitVec.lt_def, BitVec.toNat_add, Nat.mod_eq_of_lt hfit]
    omega
  unfold rtVsnprintf getEnd
  dsimp only
  rw [if_neg hlast, formatLoop_eq]
  rfl

/-- The text fits the address space behind the start of the buffer. -/
lemma toNat_add_ofNat {k : ℕ} (h : buf.toNat + k < 0x100000000) :
    (buf + BitVec.ofNat 32 k).toNat = buf.toNat + k := by
  rw [BitVec.toNat_add, toNat_ofNat_of_lt (by omega), Nat.mod_eq_of_lt h]

/-- The NUL stands behind the text, or in the last place. -/
lemma putNul_filled (hm : 0 < m.toNat) (hfit : buf.toNat + m.toNat < 0x100000000)
    (ht : buf.toNat + t.length < 0x100000000) :
    putNul m (filled mem buf (buf + m) t) =
      Function.update (filled mem buf (buf + m) t).mem
        (buf + BitVec.ofNat 32 (min (m.toNat - 1) t.length)) 0#8 := by
  have hlast : (buf + m).toNat = buf.toNat + m.toNat := by
    rw [BitVec.toNat_add, Nat.mod_eq_of_lt hfit]
  have hlt : buf + BitVec.ofNat 32 t.length < buf + m ↔ t.length < m.toNat := by
    rw [BitVec.lt_def, toNat_add_ofNat ht, hlast]
    omega
  unfold putNul
  rw [if_pos (show m > 0#32 from hm), filled_last, filled_str]
  by_cases hfits : t.length < m.toNat
  · rw [if_pos (hlt.2 hfits), Nat.min_eq_right (by omega)]
  · rw [if_neg (mt hlt.1 hfits), Nat.min_eq_left (by omega)]
    congr 1
    apply BitVec.eq_of_toNat_eq
    rw [toNat_add_ofNat (by omega), BitVec.toNat_sub, hlast]
    change (0x100000000 - 1 + (buf.toNat + m.toNat)) % 0x100000000 = _
    omega

/-- What a call with `size` above zero may leave: the first characters of the text and a NUL, within `size`. -/
structure Truncated (mem mem' : Ram) (buf : Addr) (size : ℕ) (t : List Byte) (r : ℕ) : Prop where
  chars : ∀ i < min (size - 1) r, t[i]? = some (mem' (buf + BitVec.ofNat 32 i))
  nul : mem' (buf + BitVec.ofNat 32 (min (size - 1) r)) = 0#8
  frame : ∀ a, (∀ i < size, a ≠ buf + BitVec.ofNat 32 i) → mem' a = mem a

lemma truncated (hm : 0 < m.toNat) (hfit : buf.toNat + m.toNat < 0x100000000)
    (ht : buf.toNat + (fullText text fmt args).length < 0x100000000) :
    Truncated mem (rtVsnprintf mem buf m text fmt args).1 buf m.toNat (fullText text fmt args)
      (fullText text fmt args).length := by
  rw [rtVsnprintf_fst hfit, putNul_filled hm hfit ht]
  generalize fullText text fmt args = t at ht ⊢
  have hlast : (buf + m).toNat = buf.toNat + m.toNat := by
    rw [BitVec.toNat_add, Nat.mod_eq_of_lt hfit]
  have hplace (a : Addr) : (filled mem buf (buf + m) t).mem a =
      if buf ≤ a ∧ a < buf + m then t[a.toNat - buf.toNat]?.getD (mem a) else mem a :=
    Buffer.foldl_mem (b := ⟨mem, buf, buf + m⟩) ht.le a
  constructor
  · intro i hi
    have hne : buf + BitVec.ofNat 32 i ≠ buf + BitVec.ofNat 32 (min (m.toNat - 1) t.length) := by
      intro heq
      have heq := congrArg BitVec.toNat heq
      rw [toNat_add_ofNat (by omega), toNat_add_ofNat (by omega)] at heq
      omega
    have hin : buf ≤ buf + BitVec.ofNat 32 i ∧ buf + BitVec.ofNat 32 i < buf + m := by
      rw [BitVec.le_def, BitVec.lt_def, hlast, toNat_add_ofNat (by omega)]
      omega
    rw [Function.update_of_ne hne, hplace, if_pos hin, toNat_add_ofNat (by omega), Nat.add_sub_cancel_left,
      List.getElem?_eq_getElem (by omega)]
    rfl
  · exact Function.update_self ..
  · intro a ha
    rw [Function.update_of_ne (ha _ (by omega)), hplace, if_neg]
    rintro ⟨hle, hlt⟩
    rw [BitVec.le_def] at hle
    rw [BitVec.lt_def, hlast] at hlt
    refine ha (a.toNat - buf.toNat) (by omega) (BitVec.eq_of_toNat_eq ?_)
    rw [toNat_add_ofNat (by omega)]
    omega

/-- A call with `size` zero writes nothing, wherever the buffer is. -/
lemma rtVsnprintf_zero (ht : buf.toNat + (fullText text fmt args).length ≤ 0x100000000) :
    (rtVsnprintf mem buf 0#32 text fmt args).1 = mem := by
  rw [rtVsnprintf_fst (by exact buf.isLt)]
  funext a
  refine (Buffer.foldl_mem (b := ⟨mem, buf, buf + 0#32⟩) ht a).trans (if_neg ?_)
  rintro ⟨hle, hlt⟩
  rw [BitVec.add_zero] at hlt
  exact BitVec.not_le.2 hlt hle

/-! ### A text that does not fit -/

/-- What the NUL leaves depends on the place alone, as with every character. -/
lemma putNul_congr (hstr : b.str = b'.str) (hlast : b.last = b'.last) (ha : b.mem a = b'.mem a) :
    putNul m b a = putNul m b' a := by
  unfold putNul
  rw [hstr, hlast]
  split_ifs
  · rw [Function.update_apply, Function.update_apply, ha]
  · rw [Function.update_apply, Function.update_apply, ha]
  · exact ha

/-- A text that reaches the top of the address space goes on at address zero, whatever is there. -/
lemma wraps (hbuf : buf ≠ 0#32) (hm : 0 < m.toNat) (hfit : buf.toNat + m.toNat < 0x100000000)
    (ht : 0x100000000 ≤ buf.toNat + (fullText text fmt args).length) (mem mem' : Ram) :
    (rtVsnprintf mem buf m text fmt args).1 0#32 = (rtVsnprintf mem' buf m text fmt args).1 0#32 := by
  rw [rtVsnprintf_fst hfit, rtVsnprintf_fst hfit]
  generalize fullText text fmt args = t at ht ⊢
  have hpos : 0#32 < buf + m := by
    rw [BitVec.lt_def, BitVec.toNat_add, Nat.mod_eq_of_lt hfit]
    exact hm.trans_le (Nat.le_add_left _ _)
  obtain ⟨t1, t2, rfl, hlen⟩ : ∃ t1 t2, t = t1 ++ t2 ∧ buf.toNat + t1.length = 0x100000000 := by
    refine ⟨t.take (0x100000000 - buf.toNat), t.drop _, (List.take_append_drop _ t).symm, ?_⟩
    have hlt := buf.isLt
    rw [List.length_take]
    omega
  have hzero (mem : Ram) : (filled mem buf (buf + m) t1).str = 0#32 := by
    rw [filled_str]
    apply BitVec.eq_of_toNat_eq
    have hlt := buf.isLt
    have hne : buf.toNat ≠ 0 := fun h => hbuf (BitVec.eq_of_toNat_eq h)
    rw [BitVec.toNat_add, toNat_ofNat_of_lt (by omega), hlen]
    rfl
  have happend (mem : Ram) (t2 : List Byte) : filled mem buf (buf + m) (t1 ++ t2) =
      t2.foldl Buffer.put (filled mem buf (buf + m) t1) := List.foldl_append ..
  cases t2 with
  | nil =>
    have hnul (mem : Ram) : putNul m (filled mem buf (buf + m) t1) 0#32 = 0#8 := by
      unfold putNul
      rw [if_pos (show m > 0#32 from hm), hzero, filled_last, if_pos hpos, Function.update_self]
    rw [List.append_nil, hnul, hnul]
  | cons c t2 =>
    have hput (mem : Ram) : ((filled mem buf (buf + m) t1).put c).mem 0#32 = c := by
      rw [Buffer.put_mem, hzero, filled_last, if_pos ⟨rfl, hpos⟩]
    refine putNul_congr ?_ ?_ ?_
    · rw [filled_str, filled_str]
    · rw [filled_last, filled_last]
    · rw [happend, happend, List.foldl_cons, List.foldl_cons]
      refine Buffer.foldl_congr ?_ ?_ ?_
      · exact congrArg (· + 1#32) ((hzero mem).trans (hzero mem').symm)
      · exact (filled_last ..).trans (filled_last ..).symm
      · rw [hput, hput]

/-- For one format and its arguments: the same result with both sizes, the text cut to the smaller one, and nothing
written with size zero. -/
def Truncates (text : Word → List Byte) (fmt : List Byte) (args : VaList) (buf buf' : Addr) (m n : Word) : Prop :=
  ∃ r : ℕ, ∀ mem,
    (rtVsnprintf mem buf m text fmt args).2 = r ∧ (rtVsnprintf mem buf' n text fmt args).2 = r ∧
      Truncated mem (rtVsnprintf mem buf m text fmt args).1 buf m.toNat (fullText text fmt args) r ∧
      rtVsnprintf mem buf 0#32 text fmt args = (mem, (r : ℤ)) ∧
      rtVsnprintf mem 0#32 0#32 text fmt args = (mem, (r : ℤ))

lemma Truncates.bound (hbuf : buf ≠ 0#32) (hm : 0 < m.toNat) (hfit : buf.toNat + m.toNat < 0x100000000)
    (h : Truncates text fmt args buf buf' m n) :
    buf.toNat + (fullText text fmt args).length < 0x100000000 := by
  obtain ⟨r, hr⟩ := h
  by_contra hlong
  have hkeep (mem : Ram) : (rtVsnprintf mem buf m text fmt args).1 0#32 = mem 0#32 := by
    obtain ⟨-, -, htrunc, -⟩ := hr mem
    refine htrunc.frame 0#32 fun i hi heq => ?_
    have heq := congrArg BitVec.toNat heq
    rw [toNat_add_ofNat (by omega)] at heq
    exact hbuf (BitVec.eq_of_toNat_eq (Nat.eq_zero_of_add_eq_zero_right heq.symm))
  have hsame := wraps hbuf hm hfit (not_lt.1 hlong) (fun _ => 0#8) fun _ => 1#8
  rw [hkeep, hkeep] at hsame
  cases hsame

lemma toInt_ofNat_iff {k r : ℕ} (hk : k < 0x100000000) :
    (BitVec.ofNat 32 k).toInt = (r : ℤ) ↔ k < 0x80000000 ∧ k = r := by
  rw [BitVec.toInt_eq_toNat_cond, toNat_ofNat_of_lt hk]
  split <;> omega

lemma Truncates.short (ht : (fullText text fmt args).length < 0x100000000)
    (h : Truncates text fmt args buf buf' m n) : (fullText text fmt args).length < 0x80000000 := by
  obtain ⟨r, hr⟩ := h
  have hret := (hr fun _ => 0#8).1
  rw [rtVsnprintf_snd, toInt_ofNat_iff ht] at hret
  exact hret.1

/-- **Truncation.**  With a buffer that is not at NULL and does not wrap around: all sizes give the same result
and the text is cut to the size, if and only if the full output has fewer than `2^31` characters and ends before the
top of the address space. -/
theorem truncates_iff (hbuf : buf ≠ 0#32) (hm : 0 < m.toNat) (hfit : buf.toNat + m.toNat < 0x100000000)
    (buf' : Addr) (n : Word) :
    Truncates text fmt args buf buf' m n ↔
      (fullText text fmt args).length < 0x80000000 ∧
        buf.toNat + (fullText text fmt args).length < 0x100000000 := by
  constructor
  · intro h
    have hend := h.bound hbuf hm hfit
    exact ⟨h.short (by omega), hend⟩
  · rintro ⟨hshort, hend⟩
    refine ⟨(fullText text fmt args).length, fun mem => ?_⟩
    have hret (mem : Ram) (buf : Addr) (m : Word) : (rtVsnprintf mem buf m text fmt args).2 =
        (fullText text fmt args).length := by
      rw [rtVsnprintf_snd, toInt_ofNat_iff (by omega)]
      exact ⟨hshort, rfl⟩
    refine ⟨hret .., hret .., truncated hm hfit hend, Prod.ext ?_ (hret ..), Prod.ext ?_ (hret ..)⟩
    · exact rtVsnprintf_zero hend.le
    · exact rtVsnprintf_zero (by rw [BitVec.toNat_ofNat]; omega)

/-- Five characters in a buffer of four. -/
theorem truncates_hello : Truncates (fun _ => []) ("hello".toList.map ch) ⟨fun _ => 0#32, 0⟩ 0x20000000#32
    0x20000100#32 4#32 16#32 := by
  refine (truncates_iff (by decide) (by decide) (by decide) _ _).2 ?_
  rw [fullText_literals _ (by decide)]
  decide

/-- `%2147483647c`. -/
def wideField : Conversion where
  flags := []
  width := .literal ⟨"2147483647".toList.map ch, by decide, by decide⟩ (by decide)
  precision := .none
  length := .none
  specifier := .c

lemma wideField_length (text : Word → List Byte) (rest : List Byte) (ap : VaList) :
    (fullText text (ch '%' :: (wideField.render ++ rest)) ap).length =
      0x7FFFFFFF + (fullText text rest ap.arg.2).length := by
  have hwidth : (wideField.directive rest ap).fieldWidth = 2147483647 := rfl
  have hleft : (wideField.directive rest ap).flags.left = false := rfl
  rw [fullText_percent, directive_render, conversion_char rfl, charText_field (by omega) (by omega), hwidth,
    hleft]
  simp only [Bool.false_eq_true, if_false, List.length_append, List.length_replicate, List.length_singleton]
  rfl

/-- Two fields of `2^31 - 1` characters: the second one goes on over the bottom of the memory. -/
theorem not_truncates_wide : ¬ Truncates (fun _ => []) ("%2147483647c%2147483647c".toList.map ch)
    ⟨fun _ => 0x78#32, 0⟩ 0x20000000#32 0x20000000#32 16#32 16#32 := by
  intro h
  have hlt := h.bound (by decide) (by decide) (by decide)
  have hfmt : "%2147483647c%2147483647c".toList.map ch =
      ch '%' :: (wideField.render ++ (ch '%' :: (wideField.render ++ []))) := by decide
  rw [hfmt, wideField_length, wideField_length, fullText_nil] at hlt
  revert hlt
  decide

end N32L43x.Klibc.Vsnprintf
