import N32L43x.Finsh.Defs
import Mathlib.Data.List.Forall2

/-!
The arguments of a command (`finsh/msh.c`): the line is cut in place at blanks and quotes, and `argv`
gets the places where the arguments start.  Accesses to the command are checked: `none` is one that is
not in the bytes up to the given length, or a loop that goes on for longer than the fuel lasts.
-/

namespace N32L43x.Finsh

open N32L43x.Lib.CString

/-- `FINSH_ARG_MAX`. -/
def finshArgMax : ℕ := 10

/-! ### The source -/

/-- A blank or a tab. -/
def isBlank (c : UInt8) : Bool := c = 0x20 ∨ c = 0x09

/-- A read of `cmd`. -/
def charAt (cmd : List UInt8) (length ptr : ℕ) : Option UInt8 :=
  if ptr ≤ length then cmd[ptr]? else none

/-- A write to `cmd`. -/
def putChar (cmd : List UInt8) (length ptr : ℕ) (c : UInt8) : Option (List UInt8) :=
  if ptr ≤ length then store cmd ptr c else none

/-- `ptr`, as a place in `cmd`, and `position`. -/
structure Cursor where
  ptr : ℕ
  position : ℕ

def Cursor.next (cur : Cursor) : Cursor := ⟨cur.ptr + 1, cur.position + 1⟩

/-- Strip blank and tab. -/
def stripBlanks (length : ℕ) : ℕ → List UInt8 → Cursor → Option (List UInt8 × Cursor)
  | 0, _, _ => none
  | fuel + 1, cmd, cur => do
    let c ← charAt cmd length cur.ptr
    if isBlank c ∧ cur.position < length then do
      let cmd ← putChar cmd length cur.ptr 0
      stripBlanks length fuel cmd cur.next
    else some (cmd, cur)

/-- Skip a string, up to a quote that no backslash stands before. -/
def skipString (cmd : List UInt8) (length : ℕ) : ℕ → Cursor → Option Cursor
  | 0, _ => none
  | fuel + 1, cur => do
    let c ← charAt cmd length cur.ptr
    if c ≠ 0x22 ∧ cur.position < length then
      if c = 0x5c then do
        let d ← charAt cmd length (cur.ptr + 1)
        skipString cmd length fuel (if d = 0x22 then cur.next.next else cur.next)
      else skipString cmd length fuel cur.next
    else some cur

/-- Skip an argument that is no string. -/
def skipWord (cmd : List UInt8) (length : ℕ) : ℕ → Cursor → Option Cursor
  | 0, _ => none
  | fuel + 1, cur => do
    let c ← charAt cmd length cur.ptr
    if isBlank c = false ∧ cur.position < length then skipWord cmd length fuel cur.next
    else some cur

/-- `argv[argc] = ptr; argc++`. -/
def pushArg (argv : List ℕ) (ptr : ℕ) : Option (List ℕ) :=
  if argv.length < finshArgMax then some (argv ++ [ptr]) else none

/-- The loop of `msh_split`. -/
def splitArgs (length : ℕ) : ℕ → List UInt8 → Cursor → List ℕ → Option (List UInt8 × List ℕ)
  | 0, _, _, _ => none
  | fuel + 1, cmd, cur, argv =>
    if cur.position < length then do
      let (cmd, cur) ← stripBlanks length (fuel + 1) cmd cur
      if finshArgMax ≤ argv.length then do
        -- the arguments are printed
        let _ ← argv.mapM fun arg => strlen ((cmd.take (length + 1)).drop arg)
        some (cmd, argv)
      else if length ≤ cur.position then some (cmd, argv)
      else do
        let c ← charAt cmd length cur.ptr
        if c = 0x22 then do
          let cur := cur.next
          let argv ← pushArg argv cur.ptr
          let cur ← skipString cmd length (fuel + 1) cur
          if length ≤ cur.position then some (cmd, argv)
          else do
            let cmd ← putChar cmd length cur.ptr 0
            splitArgs length fuel cmd cur.next argv
        else do
          let argv ← pushArg argv cur.ptr
          let cur ← skipWord cmd length (fuel + 1) cur
          if length ≤ cur.position then some (cmd, argv)
          else splitArgs length fuel cmd cur argv
    else some (cmd, argv)

/-- `msh_split`. -/
def mshSplit (fuel : ℕ) (cmd : List UInt8) (length : ℕ) : Option (List UInt8 × List ℕ) :=
  splitArgs length fuel cmd ⟨0, 0⟩ []

/-! ### The grammar -/

/-- The place of the first quote that is not behind a backslash, in a text behind a character. -/
def closingQuote (before : UInt8) (text : List UInt8) : Option ℕ :=
  ((before :: text).zip text).findIdx? fun p => p.2 = 0x22 ∧ p.1 ≠ 0x5c

/-- The first token of a line that does not start with a blank, and the line behind it. -/
def token : List UInt8 → List UInt8 × List UInt8
  | [] => ([], [])
  | c :: text =>
    if c = 0x22 then
      match closingQuote c text with
      | some i => (text.take i, text.drop (i + 1))
      | none => (text, [])
    else ((c :: text).takeWhile fun c => !isBlank c, (c :: text).dropWhile fun c => !isBlank c)

/-- The first tokens of a line. -/
def tokens : ℕ → List UInt8 → List (List UInt8)
  | 0, _ => []
  | n + 1, line =>
    let line := line.dropWhile isBlank
    if line = [] then [] else (token line).1 :: tokens n (token line).2

/-- A string that ends in the buffer starts there, and is this text. -/
def StringAt (buf : List UInt8) (ptr : ℕ) (text : List UInt8) : Prop :=
  0 ∉ text ∧ ∃ a b, buf = a ++ (text ++ 0 :: b) ∧ a.length = ptr

/-- `  say "a \" b"c "open`. -/
def sayLine : List UInt8 :=
  [0x20, 0x20, 0x73, 0x61, 0x79, 0x20, 0x22, 0x61, 0x20, 0x5c, 0x22, 0x20, 0x62, 0x22, 0x63, 0x20, 0x22,
    0x6f, 0x70]

example : tokens 10 sayLine = [[0x73, 0x61, 0x79], [0x61, 0x20, 0x5c, 0x22, 0x20, 0x62], [0x63],
    [0x6f, 0x70]] := by decide

example : ((mshSplit 20 (sayLine ++ [0]) 19).map Prod.snd) = some [2, 7, 14, 17] := by decide

variable {length fuel n ptr : ℕ} {c before : UInt8} {pre post line text tok buf : List UInt8}

/-! ### Accesses -/

lemma charAt_append (h : pre.length ≤ length) : charAt (pre ++ c :: post) length pre.length = some c := by
  unfold charAt
  rw [if_pos h, List.getElem?_append_right (le_refl _), Nat.sub_self]
  rfl

lemma putChar_append (h : pre.length ≤ length) (d : UInt8) :
    putChar (pre ++ d :: post) length pre.length c = some (pre ++ c :: post) := by
  unfold putChar
  rw [if_pos h]
  exact store_append c d

/-! ### The inner loops -/

/-- What is at the place after a text that is cut in front of a rest. -/
lemma append_cons_eq (pre line post : List UInt8) (c : UInt8) :
    pre ++ (c :: line ++ post) = (pre ++ [c]) ++ (line ++ post) := by simp

/-- Blanks become zeros. -/
lemma stripBlanks_eq (post : List UInt8) (hlen : length = pre.length + line.length) (hfuel : line.length < fuel) :
    let pre' := pre ++ List.replicate (line.takeWhile isBlank).length 0
    stripBlanks length fuel (pre ++ (line ++ 0 :: post)) ⟨pre.length, pre.length⟩ =
      some (pre' ++ (line.dropWhile isBlank ++ 0 :: post), ⟨pre'.length, pre'.length⟩) := by
  induction line generalizing pre fuel with
  | nil =>
    obtain ⟨fuel, rfl⟩ : ∃ k, fuel = k + 1 := ⟨fuel - 1, by simp at hfuel; omega⟩
    have hread : charAt (pre ++ 0 :: post) length pre.length = some 0 :=
      charAt_append (by omega)
    unfold stripBlanks
    simp [hread, isBlank]
  | cons c line ih =>
    obtain ⟨fuel, rfl⟩ : ∃ k, fuel = k + 1 := ⟨fuel - 1, by omega⟩
    rw [List.length_cons] at hlen hfuel
    have hread : charAt (pre ++ (c :: line ++ 0 :: post)) length pre.length = some c :=
      charAt_append (by omega)
    unfold stripBlanks
    simp only [hread, Option.bind_eq_bind, Option.bind_some]
    by_cases hblank : isBlank c = true
    · have hput : putChar (pre ++ (c :: line ++ 0 :: post)) length pre.length 0 =
          some (pre ++ [0] ++ (line ++ 0 :: post)) := by
        rw [← append_cons_eq]
        exact putChar_append (by omega) c
      have hnext : (pre ++ [(0 : UInt8)]).length = pre.length + 1 := List.length_append
      have hrest := @ih fuel (pre ++ [0]) (by omega) (by omega)
      rw [hnext] at hrest
      rw [if_pos ⟨hblank, by omega⟩, hput, Option.bind_some]
      refine hrest.trans ?_
      have hzeros : pre ++ List.replicate ((line.takeWhile isBlank).length + 1) 0 =
          pre ++ [0] ++ List.replicate (line.takeWhile isBlank).length 0 := by
        rw [List.replicate_succ, List.append_assoc]
        rfl
      rw [List.takeWhile_cons_of_pos hblank, List.dropWhile_cons_of_pos hblank, List.length_cons,
        hzeros]
    · rw [if_neg fun h => hblank h.1, List.takeWhile_cons_of_neg hblank,
        List.dropWhile_cons_of_neg hblank]
      simp

/-- An argument that is no string goes up to a blank. -/
lemma skipWord_eq (pre line post : List UInt8) (hlen : length = pre.length + line.length) (hfuel : line.length < fuel) :
    let pre' := pre ++ line.takeWhile fun c => !isBlank c
    skipWord (pre ++ (line ++ 0 :: post)) length fuel ⟨pre.length, pre.length⟩ =
      some ⟨pre'.length, pre'.length⟩ := by
  induction line generalizing pre fuel with
  | nil =>
    obtain ⟨fuel, rfl⟩ : ∃ k, fuel = k + 1 := ⟨fuel - 1, by simp at hfuel; omega⟩
    have hread : charAt (pre ++ 0 :: post) length pre.length = some 0 :=
      charAt_append (by omega)
    have hend : ¬ pre.length < length := by
      rw [hlen]
      exact Nat.lt_irrefl _
    unfold skipWord
    simp [hread, hend]
  | cons c line ih =>
    obtain ⟨fuel, rfl⟩ : ∃ k, fuel = k + 1 := ⟨fuel - 1, by omega⟩
    rw [List.length_cons] at hlen hfuel
    have hread : charAt (pre ++ (c :: line ++ 0 :: post)) length pre.length = some c :=
      charAt_append (by omega)
    unfold skipWord
    simp only [hread, Option.bind_eq_bind, Option.bind_some]
    by_cases hblank : isBlank c = true
    · rw [if_neg (by simp [hblank]), List.takeWhile_cons_of_neg (by simp [hblank])]
      simp
    · have hword : isBlank c = false := by simpa using hblank
      have hnext : (pre ++ [c]).length = pre.length + 1 := List.length_append
      have hrest := @ih fuel (pre ++ [c]) (by omega) (by omega)
      rw [hnext, ← append_cons_eq] at hrest
      rw [if_pos ⟨hword, by omega⟩, List.takeWhile_cons_of_pos (by simp [hword])]
      refine hrest.trans ?_
      simp

lemma closingQuote_cons (before c : UInt8) (text : List UInt8) : closingQuote before (c :: text) =
    if c = 0x22 ∧ before ≠ 0x5c then some 0 else (closingQuote c text).map (· + 1) := by
  unfold closingQuote
  rw [List.zip_cons_cons, List.findIdx?_cons]
  split <;> simp_all

/-- A string goes up to its closing quote: the quote that is looked at is never behind a backslash. -/
lemma skipString_eq (pre line post : List UInt8) (hlen : length = pre.length + line.length) (hfuel : line.length < fuel)
    (hbefore : before ≠ 0x5c ∨ line.head? ≠ some 0x22) :
    let n := pre.length + (closingQuote before line).getD line.length
    skipString (pre ++ (line ++ 0 :: post)) length fuel ⟨pre.length, pre.length⟩ = some ⟨n, n⟩ := by
  induction fuel generalizing before pre line with
  | zero => omega
  | succ fuel ih =>
    cases line with
    | nil =>
      have hread : charAt (pre ++ 0 :: post) length pre.length = some 0 := charAt_append (by omega)
      have hend : ¬ pre.length < length := by
        rw [hlen]
        exact Nat.lt_irrefl _
      unfold skipString
      simp [hread, hend, closingQuote]
    | cons c line =>
      rw [List.length_cons] at hlen hfuel
      have hread : charAt (pre ++ (c :: line ++ 0 :: post)) length pre.length = some c :=
        charAt_append (by omega)
      have hlt : pre.length < length := by omega
      have hnext : (pre ++ [c]).length = pre.length + 1 := List.length_append
      unfold skipString
      simp only [hread, Option.bind_eq_bind, Option.bind_some, closingQuote_cons]
      by_cases hquote : c = 0x22
      · have hopen : before ≠ 0x5c := by
          rcases hbefore with h | h
          · exact h
          · exact absurd (by rw [hquote]; rfl) h
        rw [if_neg fun h => h.1 hquote, if_pos ⟨hquote, hopen⟩]
        rfl
      have hone : c ≠ 0x5c ∨ line.head? ≠ some 0x22 →
          skipString (pre ++ (c :: line ++ 0 :: post)) length fuel ⟨pre.length + 1, pre.length + 1⟩ =
            some ⟨pre.length + ((closingQuote c line).map (· + 1)).getD (line.length + 1),
              pre.length + ((closingQuote c line).map (· + 1)).getD (line.length + 1)⟩ := by
        intro hc
        have hrest := @ih c (pre ++ [c]) line (by omega) (by omega) hc
        rw [hnext, ← append_cons_eq] at hrest
        refine hrest.trans ?_
        cases closingQuote c line <;> simp <;> omega
      have hno : (if c = 0x22 ∧ before ≠ 0x5c then some 0 else (closingQuote c line).map (· + 1)) =
          (closingQuote c line).map (· + 1) := if_neg fun h => hquote h.1
      rw [if_pos ⟨hquote, hlt⟩, hno, List.length_cons]
      by_cases hback : c = 0x5c
      · rw [if_pos hback]
        -- the byte behind the backslash
        cases line with
        | nil =>
          have hbehind : charAt (pre ++ ([c] ++ 0 :: post)) length (pre.length + 1) = some 0 := by
            rw [append_cons_eq, ← hnext]
            exact charAt_append (by rw [hnext]; omega)
          rw [hbehind, Option.bind_some, if_neg (by decide)]
          exact hone (.inr nofun)
        | cons d line =>
          rw [List.length_cons] at hlen hfuel hone
          have hbehind : charAt (pre ++ (c :: d :: line ++ 0 :: post)) length (pre.length + 1) =
              some d := by
            rw [append_cons_eq, ← hnext]
            exact charAt_append (by rw [hnext]; omega)
          rw [hbehind, Option.bind_some]
          by_cases hescaped : d = 0x22
          · rw [if_pos hescaped]
            have hafter : d ≠ 0x5c ∨ line.head? ≠ some 0x22 := .inl (by rw [hescaped]; decide)
            have hnext2 : (pre ++ [c] ++ [d]).length = pre.length + 2 := by simp
            have hrest := @ih d (pre ++ [c] ++ [d]) line (by omega) (by omega) hafter
            rw [hnext2, ← append_cons_eq, ← append_cons_eq] at hrest
            refine hrest.trans ?_
            rw [closingQuote_cons, if_neg fun h => h.2 hback, List.length_cons]
            cases closingQuote d line <;> simp <;> omega
          · rw [if_neg hescaped]
            exact hone (.inr fun h => hescaped (Option.some.inj h))
      · rw [if_neg hback]
        exact hone (.inl hback)

/-- The closing quote is a quote. -/
lemma closingQuote_some {i : ℕ} (h : closingQuote before text = some i) :
    i < text.length ∧ text = text.take i ++ 0x22 :: text.drop (i + 1) := by
  induction text generalizing before i with
  | nil => simp [closingQuote] at h
  | cons c text ih =>
    rw [closingQuote_cons] at h
    split at h
    · rename_i hquote
      obtain rfl := Option.some.inj h
      exact ⟨Nat.succ_pos _, by rw [hquote.1]; rfl⟩
    · obtain ⟨j, hj, rfl⟩ := Option.map_eq_some_iff.mp h
      obtain ⟨hlt, hsplit⟩ := ih hj
      refine ⟨Nat.succ_lt_succ hlt, ?_⟩
      rw [List.take_succ_cons, List.drop_succ_cons, List.cons_append, ← hsplit]

/-! ### The arguments that are cut -/

lemma StringAt.append (h : StringAt buf ptr text) (more : List UInt8) :
    StringAt (buf ++ more) ptr text := by
  obtain ⟨h0, a, b, rfl, ha⟩ := h
  exact ⟨h0, a, b ++ more, by simp, ha⟩

/-- A text with its end. -/
lemma stringAt_mk (h0 : 0 ∉ text) (a b : List UInt8) : StringAt (a ++ (text ++ 0 :: b)) a.length text :=
  ⟨h0, a, b, rfl, rfl⟩

lemma strings_append {argv : List ℕ} {toks : List (List UInt8)}
    (h : List.Forall₂ (StringAt buf) argv toks) (more : List UInt8) :
    List.Forall₂ (StringAt (buf ++ more)) argv toks :=
  h.imp fun _ _ hstr => hstr.append more

lemma strings_concat {argv : List ℕ} {toks : List (List UInt8)}
    (h : List.Forall₂ (StringAt buf) argv toks) (hstr : StringAt buf ptr tok) :
    List.Forall₂ (StringAt buf) (argv ++ [ptr]) (toks ++ [tok]) :=
  List.rel_append h (.cons hstr .nil)

/-- The arguments that are printed end within the command. -/
lemma strings_strlen {argv : List ℕ} {toks : List (List UInt8)}
    (h : List.Forall₂ (StringAt buf) argv toks) :
    ∃ lengths, (argv.mapM fun arg => strlen (buf.drop arg)) = some lengths := by
  induction h with
  | nil => exact ⟨[], rfl⟩
  | cons hstr _ ih =>
    obtain ⟨lengths, hlengths⟩ := ih
    obtain ⟨h0, a, b, rfl, rfl⟩ := hstr
    rw [List.mapM_cons, List.drop_left, strlen_append h0, hlengths]
    exact ⟨_, rfl⟩

/-- The arguments end where a zero follows, and end already where no blank follows. -/
structure Cut (pre line : List UInt8) (argv : List ℕ) (toks : List (List UInt8)) : Prop where
  strings : List.Forall₂ (StringAt (pre ++ [0])) argv toks
  before : ∀ c ∈ line.head?, isBlank c = false → List.Forall₂ (StringAt pre) argv toks

section Cut

variable {argv : List ℕ} {toks : List (List UInt8)}

/-- Arguments that have their ends. -/
lemma Cut.of_strings (h : List.Forall₂ (StringAt pre) argv toks) (line : List UInt8) :
    Cut pre line argv toks :=
  ⟨strings_append h [0], fun _ _ _ => h⟩

/-- The blanks behind an argument are its end. -/
lemma Cut.strip (h : Cut pre line argv toks) :
    Cut (pre ++ List.replicate (line.takeWhile isBlank).length 0) (line.dropWhile isBlank)
      argv toks := by
  cases line with
  | nil =>
    rw [List.takeWhile_nil, List.dropWhile_nil, List.length_nil, List.replicate_zero, List.append_nil]
    exact h
  | cons c line =>
    by_cases hblank : isBlank c = true
    · rw [List.takeWhile_cons_of_pos hblank, List.length_cons, List.replicate_succ]
      have hcons : pre ++ 0 :: List.replicate (line.takeWhile isBlank).length 0 =
          pre ++ [0] ++ List.replicate (line.takeWhile isBlank).length 0 := by
        simp
      rw [hcons]
      exact Cut.of_strings (strings_append h.strings _) _
    · rw [List.takeWhile_cons_of_neg hblank, List.dropWhile_cons_of_neg hblank, List.length_nil,
        List.replicate_zero, List.append_nil]
      exact h

/-- The arguments are cut from the line if no blank follows. -/
lemma Cut.finish (h : Cut pre line argv toks) (hhead : ∀ c ∈ line.head?, isBlank c = false) :
    List.Forall₂ (StringAt (pre ++ (line ++ [0]))) argv toks := by
  cases line with
  | nil => exact h.strings
  | cons c line => exact strings_append (h.before c rfl (hhead c rfl)) _

end Cut

lemma isBlank_head_dropWhile (line : List UInt8) :
    ∀ c ∈ (line.dropWhile isBlank).head?, isBlank c = false := by
  intro c hc
  have hnot := List.head?_dropWhile_not isBlank line
  rw [Option.mem_def.mp hc] at hnot
  exact hnot

lemma tokens_nil (n : ℕ) : tokens n [] = [] := by
  cases n <;> rfl

/-- What the loop leaves from a place on: the arguments are cut so far, and all tokens of the rest of the
line that there is room for follow. -/
def CutFrom (length fuel : ℕ) (pre line post : List UInt8) (argv : List ℕ)
    (toks : List (List UInt8)) : Prop :=
  ∃ buf argv', splitArgs length fuel (pre ++ (line ++ 0 :: post)) ⟨pre.length, pre.length⟩ argv =
      some (buf ++ post, argv') ∧ buf.length = length + 1 ∧
    List.Forall₂ (StringAt buf) argv' (toks ++ tokens (finshArgMax - argv.length) line)

/-- **The loop.**  By induction on the fuel: an argument takes at least one character of the line. -/
lemma splitArgs_spec {argv : List ℕ} {toks : List (List UInt8)}
    (hlen : length = pre.length + line.length) (hfuel : line.length < fuel) (h0 : 0 ∉ line)
    (hargs : argv.length ≤ finshArgMax) (hcut : Cut pre line argv toks) :
    CutFrom length fuel pre line post argv toks := by
  induction fuel generalizing pre line argv toks with
  | zero => omega
  | succ fuel ih =>
    unfold CutFrom splitArgs
    by_cases hend : line = []
    · -- the end of the line
      subst hend
      rw [if_neg (by simpa using hlen.le), tokens_nil, List.append_nil]
      exact ⟨pre ++ [0], argv, by simp, by simp [hlen], hcut.strings⟩
    have hpos : 0 < line.length := List.length_pos_iff.mpr hend
    have hstrip := stripBlanks_eq post hlen (by omega : line.length < fuel + 1)
    have hcut' := hcut.strip
    have hhead := isBlank_head_dropWhile line
    have hsplit : (line.takeWhile isBlank).length + (line.dropWhile isBlank).length = line.length := by
      rw [← List.length_append, List.takeWhile_append_dropWhile]
    have h0' : 0 ∉ line.dropWhile isBlank := fun h => h0 (List.dropWhile_suffix _ |>.mem h)
    have htokens : ∀ n, tokens (n + 1) line = if line.dropWhile isBlank = [] then [] else
        (token (line.dropWhile isBlank)).1 :: tokens n (token (line.dropWhile isBlank)).2 := fun _ => rfl
    simp only at hstrip
    rw [if_pos (by simp only; omega), hstrip]
    simp only [Option.bind_eq_bind, Option.bind_some]
    -- the line behind the blanks
    generalize line.dropWhile isBlank = rest at *
    generalize hpre : pre ++ List.replicate (line.takeWhile isBlank).length (0 : UInt8) = pre' at *
    have hlen' : length = pre'.length + rest.length := by
      rw [← hpre, List.length_append, List.length_replicate]
      omega
    have hbuf : pre' ++ (rest ++ 0 :: post) = pre' ++ (rest ++ [0]) ++ post := by simp
    have hlast : (pre' ++ (rest ++ [0])).length = length + 1 := by
      simp only [List.length_append, List.length_singleton]
      omega
    have hall := hcut'.finish hhead
    by_cases hfull : finshArgMax ≤ argv.length
    · -- too many arguments
      have hnone : finshArgMax - argv.length = 0 := Nat.sub_eq_zero_of_le hfull
      obtain ⟨lengths, hprint⟩ := strings_strlen hall
      have htake : (pre' ++ (rest ++ 0 :: post)).take (length + 1) = pre' ++ (rest ++ [0]) := by
        rw [hbuf, ← hlast, List.take_left]
      rw [if_pos hfull, htake, hprint, Option.bind_some, hnone]
      refine ⟨_, argv, by rw [hbuf], hlast, ?_⟩
      have hzero : tokens 0 line = [] := rfl
      rw [hzero, List.append_nil]
      exact hall
    obtain ⟨room, hroom⟩ : ∃ room, finshArgMax - argv.length = room + 1 :=
      ⟨finshArgMax - argv.length - 1, by omega⟩
    rw [if_neg hfull, hroom, htokens]
    cases rest with
    | nil =>
      -- only blanks
      rw [if_pos (by rw [hlen']; exact le_refl _), if_pos rfl, List.append_nil]
      exact ⟨_, argv, by rw [hbuf], hlast, hall⟩
    | cons c rest =>
      have hstr := hcut'.before c rfl (hhead c rfl)
      have hread : charAt (pre' ++ (c :: rest ++ 0 :: post)) length pre'.length = some c :=
        charAt_append (by omega)
      have hargs' : ∀ ptr, (argv ++ [ptr]).length = argv.length + 1 := fun _ => List.length_append
      have hroom' : finshArgMax - (argv.length + 1) = room := by omega
      have hpush : ∀ ptr, pushArg argv ptr = some (argv ++ [ptr]) := fun _ => if_pos (by omega)
      have hzero : 0 ∉ rest := fun h => h0' (List.mem_cons_of_mem _ h)
      rw [List.length_cons] at hlen' hsplit
      rw [if_neg (by omega), hread, if_neg (List.cons_ne_nil c rest), Option.bind_some]
      by_cases hquote : c = 0x22
      · -- a string
        have hnext : (pre' ++ [c]).length = pre'.length + 1 := List.length_append
        have hbefore : c ≠ 0x5c ∨ rest.head? ≠ some 0x22 := .inl (by rw [hquote]; decide)
        have hskip := skipString_eq (pre' ++ [c]) rest post (by omega : length = _)
          (by omega : rest.length < fuel + 1) hbefore
        have htoken : token (c :: rest) = match closingQuote c rest with
          | some i => (rest.take i, rest.drop (i + 1))
          | none => (rest, []) := if_pos hquote
        simp only [hnext] at hskip
        rw [← append_cons_eq] at hskip
        rw [if_pos hquote, hpush, Option.bind_some, htoken]
        simp only [Cursor.next]
        rw [hskip, Option.bind_some]
        cases hclose : closingQuote c rest with
        | none =>
          -- it goes to the end of the line
          have hstring : pre' ++ (c :: rest ++ [0]) = pre' ++ [c] ++ (rest ++ 0 :: []) := by simp
          rw [if_pos (by simp only [Option.getD_none]; omega)]
          refine ⟨_, _, by rw [hbuf], hlast, ?_⟩
          rw [tokens_nil]
          refine strings_concat (strings_append hstr _) ?_
          rw [hstring, ← hnext]
          exact stringAt_mk hzero _ _
        | some i =>
          obtain ⟨hlt, hsplit'⟩ := closingQuote_some hclose
          have htake : (rest.take i).length = i := List.length_take_of_le hlt.le
          have hcmd : pre' ++ (c :: rest ++ 0 :: post) =
              pre' ++ [c] ++ rest.take i ++ 0x22 :: (rest.drop (i + 1) ++ 0 :: post) := by
            conv_lhs => rw [hsplit']
            simp
          have hat : (pre' ++ [c] ++ rest.take i).length = pre'.length + 1 + i := by
            rw [List.length_append, hnext, htake]
          have hput : putChar (pre' ++ (c :: rest ++ 0 :: post)) length (pre'.length + 1 + i) 0 =
              some (pre' ++ [c] ++ rest.take i ++ [0] ++ (rest.drop (i + 1) ++ 0 :: post)) := by
            rw [hcmd, ← hat, List.append_assoc _ [0]]
            exact putChar_append (by omega) _
          have hstring : StringAt (pre' ++ [c] ++ rest.take i ++ [0]) (pre'.length + 1) (rest.take i) := by
            rw [← hnext, List.append_assoc (pre' ++ [c])]
            exact stringAt_mk (fun h => hzero (List.mem_of_mem_take h)) _ _
          have hold : List.Forall₂ (StringAt (pre' ++ [c] ++ rest.take i ++ [0])) argv toks := by
            rw [List.append_assoc, List.append_assoc]
            exact strings_append hstr _
          have hpre'' : (pre' ++ [c] ++ rest.take i ++ [0]).length = pre'.length + 1 + i + 1 := by
            rw [List.length_append, hat, List.length_singleton]
          have hrest := @ih (pre' ++ [c] ++ rest.take i ++ [0]) (rest.drop (i + 1)) _ _
            (by rw [hpre'', List.length_drop]; omega) (by rw [List.length_drop]; omega)
            (fun h => hzero (List.mem_of_mem_drop h)) (by rw [hargs']; omega)
            (Cut.of_strings (strings_concat hold hstring) _)
          rw [if_neg (by simp only [Option.getD_some]; omega)]
          simp only [Option.getD_some]
          rw [hput, Option.bind_some]
          unfold CutFrom at hrest
          rw [hpre'', hargs', hroom', List.append_assoc toks] at hrest
          exact hrest
      · -- a word
        have hskip := skipWord_eq pre' (c :: rest) post (by rw [List.length_cons]; omega : length = _)
          (by rw [List.length_cons]; omega : _ < fuel + 1)
        have htoken : token (c :: rest) = ((c :: rest).takeWhile fun c => !isBlank c,
            (c :: rest).dropWhile fun c => !isBlank c) := if_neg hquote
        have hword : (c :: rest).takeWhile (fun c => !isBlank c) ++
            (c :: rest).dropWhile (fun c => !isBlank c) = c :: rest := List.takeWhile_append_dropWhile
        have hfirst : 0 < ((c :: rest).takeWhile fun c => !isBlank c).length := by
          rw [List.takeWhile_cons_of_pos (by simp [hhead c rfl])]
          exact Nat.succ_pos _
        have hstop := List.head?_dropWhile_not (fun c => !isBlank c) (c :: rest)
        simp only at hskip
        rw [if_neg hquote, hpush, Option.bind_some, htoken]
        simp only
        rw [hskip, Option.bind_some]
        generalize (c :: rest).takeWhile (fun c => !isBlank c) = word at *
        generalize (c :: rest).dropWhile (fun c => !isBlank c) = behind at *
        have hcmd : pre' ++ (c :: rest ++ 0 :: post) = pre' ++ word ++ (behind ++ 0 :: post) := by
          rw [← hword]
          simp
        have hsum : word.length + behind.length = rest.length + 1 := by
          rw [← List.length_append, hword, List.length_cons]
        have hzero' : 0 ∉ word := by
          intro h
          rw [← hword] at h0'
          exact h0' (List.mem_append_left _ h)
        have hstrings : List.Forall₂ (StringAt (pre' ++ word ++ [0])) (argv ++ [pre'.length])
            (toks ++ [word]) := by
          rw [List.append_assoc]
          exact strings_concat (strings_append hstr _) (stringAt_mk hzero' pre' [])
        cases behind with
        | nil =>
          -- it goes to the end of the line
          rw [List.append_nil] at hword
          rw [List.length_nil] at hsum
          rw [if_pos (by simp only [List.length_append]; omega), tokens_nil, hbuf]
          refine ⟨_, _, rfl, hlast, ?_⟩
          rw [← hword, ← List.append_assoc]
          exact hstrings
        | cons d behind =>
          rw [List.length_cons] at hsum
          have hrest := @ih (pre' ++ word) (d :: behind) _ _
            (by rw [List.length_append, List.length_cons]; omega) (by rw [List.length_cons]; omega)
            (fun h => h0' (by rw [← hword]; exact List.mem_append_right _ h))
            (by rw [hargs']; omega)
            ⟨hstrings, fun d' hd' hnot => by
              obtain rfl := Option.some.inj hd'
              simp [hnot] at hstop⟩
          rw [if_neg (by simp only [List.length_append]; omega), hcmd]
          unfold CutFrom at hrest
          rw [hargs', hroom', List.append_assoc toks] at hrest
          exact hrest

/-- **The arguments are the first tokens of the line.**  Each is a string that ends within the command,
the loops end, and nothing but the command is looked at or changed. -/
theorem mshSplit_tokens (cmd : List UInt8) (length fuel : ℕ) (hend : cmd[length]? = some 0)
    (hnul : ∀ i < length, cmd[i]? ≠ some 0) (hfuel : length < fuel) :
    ∃ cmd' argv, mshSplit fuel cmd length = some (cmd', argv) ∧
      cmd'.length = cmd.length ∧ cmd'.drop (length + 1) = cmd.drop (length + 1) ∧
      List.Forall₂ (StringAt (cmd'.take (length + 1))) argv (tokens finshArgMax (cmd.take length)) := by
  obtain ⟨hlt, hzero⟩ := List.getElem?_eq_some_iff.mp hend
  have hline : (cmd.take length).length = length := List.length_take_of_le hlt.le
  have hcmd : cmd = [] ++ (cmd.take length ++ 0 :: cmd.drop (length + 1)) := by
    conv_lhs => rw [← List.take_append_drop length cmd, List.drop_eq_getElem_cons hlt, hzero]
    rfl
  have h0 : 0 ∉ cmd.take length := by
    intro h
    obtain ⟨i, hi, hget⟩ := List.getElem_of_mem h
    rw [hline] at hi
    refine hnul i hi ?_
    rw [← List.getElem?_take_of_lt hi, List.getElem?_eq_getElem (by omega), hget]
  have hloop : CutFrom length fuel [] (cmd.take length) (cmd.drop (length + 1)) [] [] :=
    splitArgs_spec (by rw [hline]; exact (Nat.zero_add _).symm) (by omega) h0 (Nat.zero_le _)
      (Cut.of_strings .nil _)
  obtain ⟨buf, argv, hsplit, hlen, hstrings⟩ := hloop
  rw [← hcmd] at hsplit
  refine ⟨buf ++ cmd.drop (length + 1), argv, hsplit, ?_, ?_, ?_⟩
  · rw [List.length_append, hlen, List.length_drop]
    omega
  · rw [← hlen, List.drop_left]
  · rw [← hlen, List.take_left]
    exact hstrings

theorem mshSplit_tokens_say : (sayLine ++ [0])[19]? = some 0 ∧
    ∃ cmd' argv, mshSplit 20 (sayLine ++ [0]) 19 = some (cmd', argv) ∧
      cmd'.length = 20 ∧ cmd'.drop 20 = [] ∧
      List.Forall₂ (StringAt (cmd'.take 20)) argv (tokens finshArgMax sayLine) :=
  have hend : (sayLine ++ [0])[19]? = some 0 := by decide
  ⟨hend, mshSplit_tokens (sayLine ++ [0]) 19 20 hend (by decide) (by decide)⟩

end N32L43x.Finsh
