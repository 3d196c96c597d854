import N32L43x.Klibc.Vsnprintf.Defs

/-!
The text that a format gives.  What becomes of a character has no part in which characters there are: the output is
the text, put character by character.
-/

namespace N32L43x.Klibc.Vsnprintf

variable {σ : Type} (put : σ → Byte → σ) (out : σ)

/-! ### Loops -/

lemma putTimes_eq (c : Byte) (n : ℕ) : putTimes put c n out = (List.replicate n c).foldl put out := by
  induction n generalizing out with
  | zero => rfl
  | succ n ih => exact ih _

lemma putText_eq {n : ℕ} {s : List Byte} (h : n ≤ s.length) :
    putText put n s out = (s.take n).foldl put out := by
  induction n generalizing s out with
  | zero => rfl
  | succ n ih =>
    cases s with
    | nil => cases h
    | cons c s => exact ih _ (Nat.le_of_succ_le_succ h)

lemma putDigits_eq (precisionBak : ℤ) (tmp : List Byte) (i : ℕ) (hi : i ≤ tmp.length) :
    putDigits put precisionBak tmp i out =
      (if precisionBak ≠ 0 then (tmp.take i).reverse else []).foldl put out := by
  induction i generalizing out with
  | zero => simp [putDigits]
  | succ i ih =>
    rw [putDigits]
    split
    · rename_i h
      rw [ih _ (by omega), if_pos h, List.take_add_one, List.getD_eq_getElem?_getD,
        List.getElem?_eq_getElem (by omega)]
      simp only [Option.toList_some, Option.getD_some, List.reverse_append, List.reverse_singleton,
        List.singleton_append, List.foldl_cons]
    · rfl

lemma putPrefix_eq (base : Base) (type : Flags) :
    putPrefix put base type out = (putPrefix (· ++ [·]) base type []).foldl put out := by
  cases base
  all_goals rfl

/-- `size` after `while (size-- > 0)`. -/
def afterWhile (size : ℤ) : ℤ := if size > 0 then -1 else int (size - 1)

lemma putWhile_eq (c : Byte) (size : ℤ) :
    putWhile put c size out = ((List.replicate size.toNat c).foldl put out, afterWhile size) := by
  rw [putWhile, putTimes_eq]
  rfl

/-! ### Numbers -/

/-- The text of a number in parts: blanks, sign, prefix, padding, zeros, digits, blanks. -/
def numberText (num : Word) (base : Base) (qualifier : Byte) (s precision : ℤ) (type : Flags) : List Byte :=
  let type := type.justify
  let (sign, num) := getSign num qualifier type
  let tmp := fillTmp num base type
  let count := if (tmp.length : ℤ) > precision then (tmp.length : ℤ) else precision
  let size := int (takePrefix base type s - count)
  let before := if sign ≠ 0#8 ∧ size > 0 then size - 1 else size
  let size1 := if ¬ (type.zeropad ∨ type.left) then afterWhile before else size
  let size2 := if sign ≠ 0#8 then int (size1 - 1) else size1
  let size3 := if ¬ type.left then afterWhile size2 else size2
  (if ¬ (type.zeropad ∨ type.left) then List.replicate before.toNat (ch ' ') else []) ++
    (if sign ≠ 0#8 then [sign] else []) ++
    (if type.special then putPrefix (· ++ [·]) base type [] else []) ++
    (if ¬ type.left then List.replicate size2.toNat (if type.zeropad then ch '0' else ch ' ') else []) ++
    List.replicate (count - tmp.length).toNat (ch '0') ++
    (if precision ≠ 0 then tmp.reverse else []) ++
    List.replicate size3.toNat (ch ' ')

lemma printNumber_eq (num : Word) (base : Base) (qualifier : Byte) (s precision : ℤ) (type : Flags) :
    printNumber put out num base qualifier s precision type =
      (numberText num base qualifier s precision type).foldl put out := by
  unfold printNumber numberText
  simp only [putWhile_eq, putTimes_eq, putDigits_eq _ _ _ _ _ le_rfl, List.take_length, List.foldl_append]
  generalize type.justify = type
  rcases getSign num qualifier type with ⟨sign, num⟩
  dsimp only
  rw [putPrefix_eq]
  split_ifs
  all_goals rfl

/-! ### Characters and strings -/

/-- `field_width` after `while (--field_width > 0)`. -/
def afterPre (fieldWidth : ℤ) : ℤ := if int (fieldWidth - 1) > 0 then 0 else int (fieldWidth - 1)

/-- `field_width` after `while (len < field_width--)`. -/
def afterPost (len fieldWidth : ℤ) : ℤ := if len < fieldWidth then len - 1 else int (fieldWidth - 1)

lemma putPre_eq (fieldWidth : ℤ) :
    putPre put fieldWidth out =
      ((List.replicate (int (fieldWidth - 1)).toNat (ch ' ')).foldl put out, afterPre fieldWidth) := by
  rw [putPre, putTimes_eq]
  rfl

lemma putPost_eq (len fieldWidth : ℤ) :
    putPost put len fieldWidth out =
      ((List.replicate (fieldWidth - len).toNat (ch ' ')).foldl put out, afterPost len fieldWidth) := by
  rw [putPost, putTimes_eq]
  rfl

lemma int_of_bounds {x : ℤ} (h0 : -0x80000000 ≤ x) (h1 : x < 0x80000000) : int x = x := by
  unfold int
  rw [Int.bmod_eq_of_le] <;> omega

/-- The text of `%c`. -/
def charText (d : Directive) : List Byte :=
  let fieldWidth := if ¬ d.flags.left then afterPre d.fieldWidth else d.fieldWidth
  (if ¬ d.flags.left then List.replicate (int (d.fieldWidth - 1)).toNat (ch ' ') else []) ++
    [d.ap.arg.1.setWidth 8] ++ List.replicate (int (fieldWidth - 1)).toNat (ch ' ')

/-- The character and the blanks that the field has room for. -/
lemma charText_field {d : Directive} (h0 : -1 ≤ d.fieldWidth) (h1 : d.fieldWidth < 0x80000000) :
    charText d =
      if d.flags.left then d.ap.arg.1.setWidth 8 :: List.replicate (d.fieldWidth - 1).toNat (ch ' ')
      else List.replicate (d.fieldWidth - 1).toNat (ch ' ') ++ [d.ap.arg.1.setWidth 8] := by
  have hint : int (d.fieldWidth - 1) = d.fieldWidth - 1 := int_of_bounds (by omega) (by omega)
  unfold charText
  by_cases hleft : d.flags.left
  · simp [hleft, hint]
  · have hafter : (int (afterPre d.fieldWidth - 1)).toNat = 0 := by
      unfold afterPre
      rw [hint]
      split
      · rfl
      · rw [int_of_bounds (by omega) (by omega)]
        omega
    simp [hleft, hint, hafter]

lemma convertChar_eq (d : Directive) : convertChar put d out = ((charText d).foldl put out, d.ap.arg.2) := by
  unfold convertChar charText
  simp only [putPre_eq, List.foldl_append]
  split_ifs
  all_goals rfl

/-- The string of `%s` and the length that is put of it. -/
def stringArg (text : Word → List Byte) (d : Directive) : List Byte × ℤ :=
  let s := if d.ap.arg.1 = 0#32 then "(null)".toList.map ch else text d.ap.arg.1
  let len := lenLoop d.fieldWidth s 0
  (s, if d.precision > 0 ∧ len > d.precision then d.precision else len)

/-- The text of `%s`. -/
def stringText (text : Word → List Byte) (d : Directive) : List Byte :=
  let (s, len) := stringArg text d
  let fieldWidth := if ¬ d.flags.left then afterPost len d.fieldWidth else d.fieldWidth
  (if ¬ d.flags.left then List.replicate (d.fieldWidth - len).toNat (ch ' ') else []) ++
    s.take len.toNat ++ List.replicate (fieldWidth - len).toNat (ch ' ')

lemma lenLoop_bounds (fieldWidth : ℤ) (s : List Byte) (len : ℤ) :
    len ≤ lenLoop fieldWidth s len ∧ lenLoop fieldWidth s len ≤ len + s.length := by
  induction s generalizing len with
  | nil => simp [lenLoop]
  | cons c s ih =>
    rw [lenLoop]
    rw [List.length_cons]
    split
    · have hih := ih (len + 1)
      omega
    · omega

lemma stringArg_bounds (text : Word → List Byte) (d : Directive) :
    0 ≤ (stringArg text d).2 ∧ (stringArg text d).2 ≤ (stringArg text d).1.length := by
  unfold stringArg
  dsimp only
  generalize (if d.ap.arg.1 = 0#32 then "(null)".toList.map ch else text d.ap.arg.1) = s
  have h := lenLoop_bounds d.fieldWidth s 0
  split <;> omega

lemma convertString_eq (text : Word → List Byte) (d : Directive) :
    convertString put text d out = ((stringText text d).foldl put out, d.ap.arg.2) := by
  have h := stringArg_bounds text d
  unfold convertString stringText
  unfold stringArg at h ⊢
  dsimp only at h ⊢
  simp only [putPost_eq, List.foldl_append]
  rw [putText_eq _ _ (by omega)]
  split_ifs
  all_goals rfl

/-! ### Whole formats -/

/-- What a conversion gives, and the arguments it leaves. -/
def conversion (text : Word → List Byte) (d : Directive) : List Byte × VaList :=
  convert (fun t c => t ++ [c]) text d []

lemma foldl_snoc (t acc : List Byte) : t.foldl (fun t c => t ++ [c]) acc = acc ++ t := by
  induction t generalizing acc with
  | nil => simp
  | cons c t ih =>
    rw [List.foldl_cons, ih]
    simp

lemma convertPointer_eq (d : Directive) :
    convertPointer put d out = ((convertPointer (fun t c => t ++ [c]) d []).1.foldl put out,
      (convertPointer (fun t c => t ++ [c]) d []).2) := by
  unfold convertPointer
  simp only [printNumber_eq, foldl_snoc, List.nil_append]
  split_ifs
  all_goals rfl

lemma convertOther_eq (c : Byte) :
    convertOther put c out = (convertOther (fun t c => t ++ [c]) c []).foldl put out := by
  unfold convertOther
  split_ifs
  all_goals rfl

lemma convert_eq (text : Word → List Byte) (d : Directive) :
    convert put text d out = ((conversion text d).1.foldl put out, (conversion text d).2) := by
  unfold conversion convert
  rcases Case.of (head d.fmt) with _ | _ | _ | _ | ⟨base, large, sign⟩ | _ | _
  · simp only [convertChar_eq, foldl_snoc, List.nil_append]
  · simp only [convertString_eq, foldl_snoc, List.nil_append]
  · exact convertPointer_eq put out d
  · rfl
  · simp only [convertNumber, printNumber_eq, foldl_snoc, List.nil_append]
  · exact congrArg (·, _) (convertOther_eq put out _)
  · exact congrArg (·, _) (convertOther_eq put out _)

section

variable {text : Word → List Byte} {d : Directive}

lemma conversion_char (h : Case.of (head d.fmt) = .char) : conversion text d = (charText d, d.ap.arg.2) := by
  rw [conversion, convert, h]
  dsimp only
  rw [convertChar_eq, foldl_snoc, List.nil_append]

lemma conversion_string (h : Case.of (head d.fmt) = .string) :
    conversion text d = (stringText text d, d.ap.arg.2) := by
  rw [conversion, convert, h]
  dsimp only
  rw [convertString_eq, foldl_snoc, List.nil_append]

lemma conversion_percent (h : Case.of (head d.fmt) = .percent) : conversion text d = ([ch '%'], d.ap) := by
  rw [conversion, convert, h]
  rfl

lemma conversion_number {base : Base} {large sign : Bool}
    (h : Case.of (head d.fmt) = .number base large sign) :
    conversion text d =
      (numberText (getNumber d.qualifier (d.flags.sign || sign) d.ap.arg.1) base d.qualifier d.fieldWidth
        d.precision { d.flags with large := d.flags.large || large, sign := d.flags.sign || sign },
        d.ap.arg.2) := by
  rw [conversion, convert, h]
  dsimp only
  rw [convertNumber]
  dsimp only
  rw [printNumber_eq, foldl_snoc, List.nil_append]

end

/-- The full output: every character, in a list. -/
def fullText (text : Word → List Byte) (fmt : List Byte) (ap : VaList) : List Byte :=
  formatLoop (fun t c => t ++ [c]) text fmt ap []

lemma formatLoop_percent (text : Word → List Byte) (fmt : List Byte) (ap : VaList) :
    formatLoop put text (ch '%' :: fmt) ap out =
      formatLoop put text (directive fmt ap).fmt.tail (conversion text (directive fmt ap)).2
        ((conversion text (directive fmt ap)).1.foldl put out) := by
  rw [formatLoop, if_neg (not_not_intro rfl)]
  dsimp only
  rw [convert_eq]

lemma formatLoop_text (text : Word → List Byte) (fmt : List Byte) (ap : VaList) :
    ∃ t : List Byte, ∀ (σ : Type) (put : σ → Byte → σ) (out : σ),
      formatLoop put text fmt ap out = t.foldl put out := by
  induction hn : fmt.length using Nat.strong_induction_on generalizing fmt ap with
  | _ n ih =>
    subst hn
    cases fmt with
    | nil =>
      refine ⟨[], fun σ put out => ?_⟩
      rw [formatLoop]
      rfl
    | cons c fmt =>
      by_cases hc : c = ch '%'
      · have hlt : (directive fmt ap).fmt.tail.length < (c :: fmt).length :=
          Nat.lt_succ_of_le ((tail_length _).trans (directive_length fmt ap))
        obtain ⟨t, ht⟩ := ih _ hlt _ (conversion text (directive fmt ap)).2 rfl
        refine ⟨(conversion text (directive fmt ap)).1 ++ t, fun σ put out => ?_⟩
        rw [hc, formatLoop_percent, List.foldl_append, ← ht]
      · obtain ⟨t, ht⟩ := ih _ (Nat.lt_succ_self _) fmt ap rfl
        refine ⟨c :: t, fun σ put out => ?_⟩
        rw [formatLoop, if_pos hc, ht]
        rfl

/-- **One text for every way to put it.** -/
lemma formatLoop_eq (text : Word → List Byte) (fmt : List Byte) (ap : VaList) :
    formatLoop put text fmt ap out = (fullText text fmt ap).foldl put out := by
  obtain ⟨t, ht⟩ := formatLoop_text text fmt ap
  have hfull : fullText text fmt ap = t := by
    rw [fullText, ht, foldl_snoc, List.nil_append]
  rw [ht, hfull]

lemma fullText_nil (text : Word → List Byte) (ap : VaList) : fullText text [] ap = [] := by
  rw [fullText, formatLoop]

lemma fullText_literal (text : Word → List Byte) {c : Byte} (hc : c ≠ ch '%') (fmt : List Byte) (ap : VaList) :
    fullText text (c :: fmt) ap = c :: fullText text fmt ap := by
  rw [fullText, formatLoop, if_pos hc, formatLoop_eq, foldl_snoc]
  rfl

lemma fullText_literals (text : Word → List Byte) {fmt : List Byte} (h : ∀ c ∈ fmt, c ≠ ch '%') (ap : VaList) :
    fullText text fmt ap = fmt := by
  induction fmt with
  | nil => exact fullText_nil text ap
  | cons c fmt ih =>
    rw [fullText_literal text (h c List.mem_cons_self), ih fun c hc => h c (List.mem_cons_of_mem _ hc)]

lemma fullText_percent (text : Word → List Byte) (fmt : List Byte) (ap : VaList) :
    fullText text (ch '%' :: fmt) ap =
      (conversion text (directive fmt ap)).1 ++
        fullText text (directive fmt ap).fmt.tail (conversion text (directive fmt ap)).2 := by
  rw [fullText, formatLoop_percent, formatLoop_eq, foldl_snoc, foldl_snoc, List.nil_append]

end N32L43x.Klibc.Vsnprintf
