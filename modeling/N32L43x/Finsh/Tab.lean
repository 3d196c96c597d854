import N32L43x.Finsh.Safety

/-!
The tab key against what it is for: the word that is typed is continued as far as the names of the commands,
or the options of the command, agree.
-/

namespace N32L43x.Finsh

open N32L43x.Lib.CString N32L43x.Lib.CommonPrefix

/-- The line from its second word on. -/
def secondWord (text : List UInt8) : List UInt8 :=
  (text.dropWhile fun c => c ≠ 0x20).dropWhile fun c => c = 0x20

/-- The commands whose names begin with the text. -/
def commands (msh : Msh) (text : List UInt8) : List (List UInt8) :=
  matching (msh.syscallTable.map FinshSyscall.name) text

/-- The options of the first word that begin with the rest of the line. -/
def options (msh : Msh) (text : List UInt8) : List (List UInt8) :=
  matching (mshGetCmdOpt msh text) (secondWord text)

/-- The line with its second word replaced. -/
def replaceSecond (text word : List UInt8) : List UInt8 :=
  text.take (text.length - (secondWord text).length) ++ word

/-- What completion is for. -/
def completed (msh : Msh) (text : List UInt8) : List UInt8 :=
  if text ≠ [] ∧ 0x20 ∉ text ∧ commands msh text ≠ [] then commonPrefix (commands msh text)
  else if secondWord text ≠ [] ∧ 0x20 ∉ secondWord text ∧ options msh text ≠ [] then
    replaceSecond text (commonPrefix (options msh text))
  else text

/-- The line is what it should be, it has its end, and no access has left it. -/
def Completes (msh : Msh) (text : List UInt8) : Prop :=
  ∃ line, shellAutoComplete msh (pad (finshCmdSize + 1) text) = some line ∧ 0 ∈ line ∧
    cString line = completed msh text

/-- The line is not empty, what it is completed to fits, and blanks behind a second word that an option
goes on with are all it goes on with. -/
structure Completable (msh : Msh) (text : List UInt8) : Prop where
  nonempty : text ≠ []
  command : (commonPrefix (commands msh text)).length ≤ finshCmdSize
  option : secondWord text ≠ [] → options msh text ≠ [] → 0x20 ∉ secondWord text →
    (replaceSecond text (commonPrefix (options msh text))).length ≤ finshCmdSize
  blanks : secondWord (secondWord text) = [] → options msh text ≠ [] → 0x20 ∈ secondWord text →
    commonPrefix (options msh text) = secondWord text

variable {msh : Msh} {names : List CStr} {str text word rest : List UInt8} {off i : ℕ}

/-! ### Words -/

lemma secondWord_suffix (text : List UInt8) : secondWord text <:+ text :=
  (List.dropWhile_suffix _).trans (List.dropWhile_suffix _)

lemma drop_secondWord (text : List UInt8) :
    text.drop (text.length - (secondWord text).length) = secondWord text :=
  (List.suffix_iff_eq_drop.mp (secondWord_suffix text)).symm

lemma length_replaceSecond (text word : List UInt8) : (replaceSecond text word).length =
    text.length - (secondWord text).length + word.length := by
  unfold replaceSecond
  rw [List.length_append, List.length_take_of_le (Nat.sub_le _ _)]

/-- The second word is replaced by itself. -/
lemma replaceSecond_eq_iff (text word : List UInt8) :
    replaceSecond text word = text ↔ word = secondWord text := by
  have hkept : text.take (text.length - (secondWord text).length) ++
      text.drop (text.length - (secondWord text).length) = text := List.take_append_drop _ _
  rw [drop_secondWord] at hkept
  unfold replaceSecond
  refine ⟨fun h => List.append_cancel_left (h.trans hkept.symm), fun h => ?_⟩
  rw [h, hkept]

/-- A line without blanks has no second word. -/
lemma secondWord_eq_nil (h : 0x20 ∉ text) : secondWord text = [] := by
  have hall : text.dropWhile (fun c => c ≠ 0x20) = [] := by
    rw [List.dropWhile_eq_nil_iff]
    exact fun c hc => decide_eq_true fun heq => h (heq ▸ hc)
  unfold secondWord
  rw [hall]
  rfl

/-- Characters of a word are not counted. -/
lemma mshGetArgc_word (hword : 0x20 ∉ word) (rest : List UInt8) (i : ℕ) (r : ℕ × ℕ) :
    mshGetArgc (word ++ rest) i r = mshGetArgc rest (i + word.length) r := by
  induction word generalizing i with
  | nil => rfl
  | cons c word ih =>
    have hc : c ≠ 0x20 := fun heq => hword (heq ▸ List.mem_cons_self)
    have hrest := ih (fun h => hword (List.mem_cons_of_mem c h)) (i + 1)
    have hsum : i + 1 + word.length = i + (c :: word).length := by
      rw [List.length_cons]
      omega
    rw [← hsum, ← hrest, List.cons_append]
    obtain ⟨argc, lastArgv⟩ := r
    cases word ++ rest with
    | nil => rfl
    | cons d str => rw [mshGetArgc, if_neg fun h => hc h.1]

/-- Blanks count the word behind them. -/
lemma mshGetArgc_blanks (hrest : rest.head? ≠ some 0x20) (k i argc lastArgv : ℕ) :
    mshGetArgc (List.replicate (k + 1) 0x20 ++ rest) i (argc, lastArgv) =
      if rest = [] then (argc, lastArgv) else mshGetArgc rest (i + (k + 1)) (argc + 1, i + (k + 1)) := by
  induction k generalizing i with
  | zero =>
    cases rest with
    | nil => rfl
    | cons d rest =>
      have hd : d ≠ 0x20 := fun heq => hrest (by rw [heq]; rfl)
      rw [if_neg (List.cons_ne_nil d rest)]
      show mshGetArgc (0x20 :: d :: rest) i (argc, lastArgv) = _
      rw [mshGetArgc, if_pos ⟨rfl, hd⟩]
  | succ k ih =>
    have hsum : i + (k + 1 + 1) = i + 1 + (k + 1) := by omega
    rw [hsum, ← ih, List.replicate_succ, List.replicate_succ]
    show mshGetArgc (0x20 :: 0x20 :: _) i (argc, lastArgv) = _
    rw [mshGetArgc, if_neg fun h => h.2 rfl]
    rfl

/-- The words are counted one after the other. -/
lemma mshGetArgc_secondWord (text : List UInt8) (i argc lastArgv : ℕ) :
    mshGetArgc text i (argc, lastArgv) =
      if secondWord text = [] then (argc, lastArgv)
      else mshGetArgc (secondWord text) (i + (text.length - (secondWord text).length))
        (argc + 1, i + (text.length - (secondWord text).length)) := by
  obtain ⟨behind, hbehind⟩ : ∃ behind, behind = text.dropWhile fun c => c ≠ 0x20 := ⟨_, rfl⟩
  obtain ⟨word, hword⟩ : ∃ word, word = text.takeWhile fun c => c ≠ 0x20 := ⟨_, rfl⟩
  have htext : word ++ behind = text := by
    rw [hword, hbehind, List.takeWhile_append_dropWhile]
  have hfree : 0x20 ∉ word := by
    intro h
    rw [hword] at h
    have hne := List.mem_takeWhile_imp h
    exact absurd hne (by decide)
  have hsecond : secondWord text = behind.dropWhile fun c => c = 0x20 := by
    rw [hbehind]
    rfl
  have hblanks : ∃ k, behind.takeWhile (fun c => c = 0x20) = List.replicate k 0x20 := by
    refine ⟨_, List.eq_replicate_iff.mpr ⟨rfl, fun c hc => ?_⟩⟩
    have heq := List.mem_takeWhile_imp hc
    exact of_decide_eq_true heq
  obtain ⟨k, hk⟩ := hblanks
  have hsplit : List.replicate k 0x20 ++ secondWord text = behind := by
    rw [hsecond, ← hk, List.takeWhile_append_dropWhile]
  have hhead : (secondWord text).head? ≠ some 0x20 := by
    have hnot := List.head?_dropWhile_not (fun c : UInt8 => c = 0x20) behind
    rw [← hsecond] at hnot
    intro h
    rw [h] at hnot
    exact absurd hnot (by decide)
  have hlen : text.length - (secondWord text).length = word.length + k := by
    have hall := congrArg List.length htext
    have hbehind' := congrArg List.length hsplit
    rw [List.length_append] at hall hbehind'
    rw [List.length_replicate] at hbehind'
    omega
  rw [hlen, ← Nat.add_assoc]
  conv_lhs => rw [← htext, mshGetArgc_word hfree, ← hsplit]
  cases k with
  | zero =>
    -- no blank, so the word was all
    have hnil : secondWord text = [] := by
      rw [hsecond]
      cases hcons : behind with
      | nil => rfl
      | cons c tail =>
        have hc : c = 0x20 := by
          have hnot := List.head?_dropWhile_not (fun c : UInt8 => c ≠ 0x20) text
          rw [← hbehind, hcons] at hnot
          simpa using hnot
        rw [hcons, hc, List.takeWhile_cons_of_pos (by decide)] at hk
        cases hk
    rw [if_pos hnil, hnil]
    rfl
  | succ k => rw [mshGetArgc_blanks hhead]

lemma le_mshGetArgc (str : List UInt8) (i : ℕ) (r : ℕ × ℕ) : r.1 ≤ (mshGetArgc str i r).1 := by
  induction str generalizing i r with
  | nil => exact le_refl _
  | cons c str ih =>
    cases str with
    | nil => exact le_refl _
    | cons d str =>
      obtain ⟨argc, lastArgv⟩ := r
      rw [mshGetArgc]
      refine le_trans ?_ (ih _ _)
      split
      · exact Nat.le_succ argc
      · exact le_refl argc

/-- **`msh_get_argc`** is 1 for a line of two words, and then it finds the second. -/
lemma mshGetArgc_eq_one (text : List UInt8) : (mshGetArgc text 0 (0, 0)).1 = 1 ↔
    secondWord text ≠ [] ∧ secondWord (secondWord text) = [] := by
  rw [mshGetArgc_secondWord]
  by_cases hfirst : secondWord text = []
  · simp [hfirst]
  · rw [if_neg hfirst, mshGetArgc_secondWord]
    by_cases hsecond : secondWord (secondWord text) = []
    · simp [hfirst, hsecond]
    · have hle := le_mshGetArgc (secondWord (secondWord text))
        (0 + (text.length - (secondWord text).length) +
          ((secondWord text).length - (secondWord (secondWord text)).length))
        (0 + 1 + 1, 0 + (text.length - (secondWord text).length) +
          ((secondWord text).length - (secondWord (secondWord text)).length))
      rw [if_neg hsecond]
      simp only at hle
      refine iff_of_false (by omega) fun h => hsecond h.2

lemma mshGetArgc_last (h1 : secondWord text ≠ []) (h2 : secondWord (secondWord text) = []) :
    (mshGetArgc text 0 (0, 0)).2 = text.length - (secondWord text).length := by
  rw [mshGetArgc_secondWord, if_neg h1, mshGetArgc_secondWord, if_pos h2]
  exact Nat.zero_add _

/-! ### The two completions -/

section Line

variable (h0 : 0 ∉ text) (hlen : text.length < finshCmdSize) (hne : text ≠ [])

include h0 hlen hne

/-- The first completion is that of the commands. -/
lemma mshAutoComplete_eq (msh : Msh) : mshAutoComplete msh (pad (finshCmdSize + 1) text) =
    complete (msh.syscallTable.map FinshSyscall.name) (pad (finshCmdSize + 1) text) 0 := by
  have hpos : text.length ≠ 0 := fun h => hne (List.length_eq_zero_iff.mp h)
  unfold mshAutoComplete
  simp only [strlen_pad h0 (hlen.trans (Nat.lt_succ_self _)), Option.bind_eq_bind, Option.bind_some]
  rw [if_neg hpos]

end Line

section Options

variable (h0 : 0 ∉ text) (hlen : text.length ≤ finshCmdSize) (hne : text ≠ [])

include h0 hlen hne

/-- The second is that of the options behind a first word, if there are two words. -/
lemma mshOptAutoComplete_eq (msh : Msh) : mshOptAutoComplete msh (pad (finshCmdSize + 1) text) =
    if secondWord text ≠ [] ∧ secondWord (secondWord text) = [] ∧ mshGetCmdOpt msh text ≠ [] then
      complete (mshGetCmdOpt msh text) (pad (finshCmdSize + 1) text)
        (text.length - (secondWord text).length)
    else some (pad (finshCmdSize + 1) text) := by
  have hlt : text.length < finshCmdSize + 1 := Nat.lt_succ_of_le hlen
  have hargc := mshGetArgc_eq_one text
  obtain ⟨opt, hread, hopt⟩ := mshOpt_read (fun h _ => hne h : text = [] → mshGetCmd msh text ≠ none)
    (mshGetArgc text 0 (0, 0)).1
  unfold mshOptAutoComplete
  simp only [strlen_pad h0 hlt, cString_pad h0 hlt, hread, Option.bind_eq_bind, Option.bind_some]
  by_cases h1 : (mshGetArgc text 0 (0, 0)).1 = 1
  · obtain ⟨hfirst, hsecond⟩ := hargc.mp h1
    rw [hopt h1, mshGetArgc_last hfirst hsecond]
    by_cases hnil : mshGetCmdOpt msh text = []
    · rw [if_neg fun h => h.2 hnil, if_neg fun h => h.2.2 hnil]
    · rw [if_pos ⟨h1, hnil⟩, if_pos ⟨hfirst, hsecond, hnil⟩]
  · rw [if_neg fun h => h1 h.1, if_neg fun h => h1 (hargc.mpr ⟨h.1, h.2.1⟩)]

end Options

/-! ### Exactly when a line is completed -/

/-- Options that begin with the rest of the line. -/
lemma options_eq (msh : Msh) (text : List UInt8) : options msh text =
    matching (mshGetCmdOpt msh text) (text.drop (text.length - (secondWord text).length)) := by
  rw [drop_secondWord]
  rfl

lemma commands_eq_nil (hnames : ∀ index ∈ msh.syscallTable, index.name.1 ≠ [] ∧ 0x20 ∉ index.name.1)
    (hblank : 0x20 ∈ text) : commands msh text = [] := by
  refine List.eq_nil_iff_forall_not_mem.mpr fun name hname => ?_
  obtain ⟨⟨h, hmem⟩, hpre⟩ := mem_matching.mp hname
  obtain ⟨index, hindex, heq⟩ := List.mem_map.mp hmem
  have hfree := (hnames index hindex).2
  rw [heq] at hfree
  exact hfree (hpre.subset hblank)

/-- What is left of a line behind the first completion. -/
lemma completes_iff {text' : List UInt8}
    (hfirst : mshAutoComplete msh (pad (finshCmdSize + 1) text) = some (pad (finshCmdSize + 1) text')) :
    Completes msh text ↔ ∃ line, mshOptAutoComplete msh (pad (finshCmdSize + 1) text') = some line ∧
      0 ∈ line ∧ cString line = completed msh text := by
  unfold Completes shellAutoComplete
  rw [hfirst]
  simp only [Option.bind_eq_bind, Option.bind_some]
  refine exists_congr fun line => and_congr_left fun ⟨hend, _⟩ => ?_
  constructor
  · intro h
    obtain ⟨line', hline', h⟩ := Option.bind_eq_some_iff.mp h
    obtain ⟨-, -, h⟩ := Option.bind_eq_some_iff.mp h
    rw [hline', h]
  · intro h
    rw [h, Option.bind_some, strlen_of_mem hend, Option.bind_some]

/-- A line that the first completion leaves as it is. -/
lemma completes_options (h0 : 0 ∉ text) (hlen : text.length < finshCmdSize) (hne : text ≠ [])
    (hfirst : mshAutoComplete msh (pad (finshCmdSize + 1) text) = some (pad (finshCmdSize + 1) text))
    (hcommands : commands msh text = []) :
    Completes msh text ↔
      (secondWord text ≠ [] → options msh text ≠ [] → 0x20 ∉ secondWord text →
        (replaceSecond text (commonPrefix (options msh text))).length ≤ finshCmdSize) ∧
      (secondWord (secondWord text) = [] → options msh text ≠ [] → 0x20 ∈ secondWord text →
        commonPrefix (options msh text) = secondWord text) := by
  have hlt : text.length < finshCmdSize + 1 := hlen.trans (Nat.lt_succ_self _)
  have hcompleted : completed msh text =
      if secondWord text ≠ [] ∧ 0x20 ∉ secondWord text ∧ options msh text ≠ [] then
        replaceSecond text (commonPrefix (options msh text))
      else text := if_neg fun h => h.2.2 hcommands
  have hsecond := mshOptAutoComplete_eq h0 hlen.le hne msh
  have hoff : secondWord text ≠ [] → text.length - (secondWord text).length < text.length := by
    intro h
    have hpos := List.length_pos_iff.mpr h
    have hpos' := List.length_pos_iff.mpr hne
    omega
  rw [completes_iff hfirst, hcompleted]
  by_cases hwords : secondWord text ≠ [] ∧ secondWord (secondWord text) = [] ∧ options msh text ≠ []
  · -- two words, the second is to be continued
    obtain ⟨hword, htwo, hopts⟩ := hwords
    have hopt : mshGetCmdOpt msh text ≠ [] := by
      intro hnil
      unfold options matching at hopts
      rw [hnil] at hopts
      exact hopts rfl
    have hne' : text.drop (text.length - (secondWord text).length) ≠ [] := by
      rw [drop_secondWord]
      exact hword
    have hfits := fits_iff (mshGetCmdOpt msh text) (text.length - (secondWord text).length) hne'
    rw [← options_eq, ← length_replaceSecond] at hfits
    rw [hsecond, if_pos ⟨hword, htwo, hopt⟩]
    by_cases hfit : Fits (mshGetCmdOpt msh text) (text.drop (text.length - (secondWord text).length))
        (text.length - (secondWord text).length)
    · obtain ⟨text', h0', hlen', hcomplete, htext'⟩ := complete_eq h0 hlen.le (hoff hword) hfit
      have hline : (∃ line, some (pad (finshCmdSize + 1) text') = some line ∧ 0 ∈ line ∧
          cString line = if secondWord text ≠ [] ∧ 0x20 ∉ secondWord text ∧ options msh text ≠ [] then
            replaceSecond text (commonPrefix (options msh text)) else text) ↔
          text' = if secondWord text ≠ [] ∧ 0x20 ∉ secondWord text ∧ options msh text ≠ [] then
            replaceSecond text (commonPrefix (options msh text)) else text := by
        have hpad := pad_eq (Nat.lt_succ_of_le hlen')
        have hstr := cString_pad h0' (Nat.lt_succ_of_le hlen')
        constructor
        · rintro ⟨line, hline, -, heq⟩
          obtain rfl := Option.some.inj hline
          rw [← heq, hstr]
        · intro heq
          exact ⟨_, rfl, by rw [hpad]; simp, by rw [hstr, heq]⟩
      rw [← options_eq, if_neg hopts] at htext'
      rw [hcomplete, hline, htext']
      by_cases hblank : 0x20 ∈ secondWord text
      · rw [if_neg fun h => h.2.1 hblank]
        refine (replaceSecond_eq_iff text (commonPrefix (options msh text))).trans ?_
        exact ⟨fun heq => ⟨fun _ _ h => absurd hblank h, fun _ _ _ => heq⟩,
          fun h => h.2 htwo hopts hblank⟩
      · rw [if_pos ⟨hword, hblank, hopts⟩]
        exact iff_of_true rfl ⟨fun _ _ _ => hfits.mp hfit hopts, fun _ _ h => absurd h hblank⟩
    · have hnone := complete_of_not_fits h0 hlen.le (hoff hword) hfit
      refine iff_of_false ?_ fun h => hfit (hfits.mpr fun _ => ?_)
      · rintro ⟨line, hline, hend, -⟩
        have hstr := hnone line hline
        rw [strlen_of_mem hend] at hstr
        cases hstr
      · by_cases hblank : 0x20 ∈ secondWord text
        · rw [(replaceSecond_eq_iff text _).mpr (h.2 htwo hopts hblank)]
          exact hlen.le
        · exact h.1 hword hopts hblank
  · -- no two words, or no option goes on with the second
    have hkept : (if secondWord text ≠ [] ∧ 0x20 ∉ secondWord text ∧ options msh text ≠ [] then
        replaceSecond text (commonPrefix (options msh text)) else text) = text :=
      if_neg fun h => hwords ⟨h.1, secondWord_eq_nil h.2.1, h.2.2⟩
    have hline : mshOptAutoComplete msh (pad (finshCmdSize + 1) text) =
        some (pad (finshCmdSize + 1) text) := by
      rw [hsecond]
      split
      · rename_i hcond
        have hnil : options msh text = [] := by
          by_contra hopts
          exact hwords ⟨hcond.1, hcond.2.1, hopts⟩
        have hne' : text.drop (text.length - (secondWord text).length) ≠ [] := by
          rw [drop_secondWord]
          exact hcond.1
        have hfit := (fits_iff (mshGetCmdOpt msh text) (text.length - (secondWord text).length) hne').mpr
          fun h => absurd hnil (by rw [options_eq]; exact h)
        obtain ⟨text', -, -, hcomplete, htext'⟩ := complete_eq h0 hlen.le (hoff hcond.1) hfit
        rw [← options_eq, if_pos hnil] at htext'
        rw [hcomplete, htext']
      · rfl
    rw [hkept, hline]
    refine iff_of_true ⟨_, rfl, ?_, cString_pad h0 hlt⟩ ⟨fun h1 h2 h3 => ?_, fun h1 h2 h3 => ?_⟩
    · rw [pad_eq hlt]
      simp
    · exact absurd ⟨h1, secondWord_eq_nil h3, h2⟩ hwords
    · exact absurd ⟨List.ne_nil_of_mem h3, h1, h2⟩ hwords

/-- The empty line: the byte before it is looked at. -/
lemma not_completes_nil (hnames : ∀ index ∈ msh.syscallTable, index.name.1 ≠ [] ∧ 0x20 ∉ index.name.1) :
    ¬ Completes msh [] := by
  have hcmd : mshGetCmd msh [] = none := by
    unfold mshGetCmd
    rw [List.find?_eq_none]
    exact fun index hindex h => (hnames index hindex).1 (of_decide_eq_true h)
  have hnone := mshOptAutoComplete_of_not_fits List.not_mem_nil (Nat.zero_le finshCmdSize)
    (fun h => h.1 rfl hcmd : ¬ OptFits msh [])
  have hfirst : mshAutoComplete msh (pad (finshCmdSize + 1) []) = some (pad (finshCmdSize + 1) []) := rfl
  rw [completes_iff hfirst]
  rintro ⟨line, hline, hend, -⟩
  have hstr := hnone line hline
  rw [strlen_of_mem hend] at hstr
  cases hstr

/-- A line that names go on with. -/
lemma completes_commands (hnames : ∀ index ∈ msh.syscallTable, index.name.1 ≠ [] ∧ 0x20 ∉ index.name.1)
    (h0 : 0 ∉ text) (hlen : text.length < finshCmdSize) (hne : text ≠ [])
    (hcommands : commands msh text ≠ []) :
    Completes msh text ↔ (commonPrefix (commands msh text)).length ≤ finshCmdSize := by
  have hblank : 0x20 ∉ text := fun h => hcommands (commands_eq_nil hnames h)
  have hpos : 0 < text.length := List.length_pos_iff.mpr hne
  have hfits := fits_iff (msh.syscallTable.map FinshSyscall.name) 0 hne
  have hcompleted : completed msh text = commonPrefix (commands msh text) :=
    if_pos ⟨hne, hblank, hcommands⟩
  rw [Nat.zero_add] at hfits
  by_cases hfit : Fits (msh.syscallTable.map FinshSyscall.name) text 0
  · obtain ⟨text', h0', hlen', hcomplete, htext'⟩ := complete_eq h0 hlen.le hpos hfit
    rw [List.drop_zero, List.take_zero, List.nil_append] at htext'
    replace htext' : text' = commonPrefix (commands msh text) := htext'.trans (if_neg hcommands)
    -- the name that is found has no blank, so the options have nothing to do with it
    obtain ⟨name, hname⟩ := List.exists_mem_of_ne_nil _ hcommands
    obtain ⟨⟨hzero, hmem⟩, -⟩ := mem_matching.mp hname
    obtain ⟨index, hindex, heq⟩ := List.mem_map.mp hmem
    have hfree := (hnames index hindex).2
    rw [heq] at hfree
    have hfree' : 0x20 ∉ text' := by
      rw [htext']
      exact fun h => hfree ((commonPrefix_of_mem hname).subset h)
    have hne' : text' ≠ [] := by
      have hpre : text <+: text' := by
        rw [htext']
        exact prefix_commonPrefix_matching hcommands
      have hle := hpre.length_le
      exact List.ne_nil_of_length_pos (by omega)
    have hfirst := (mshAutoComplete_eq h0 hlen hne msh).trans hcomplete
    have hlt' := Nat.lt_succ_of_le hlen'
    rw [completes_iff hfirst, mshOptAutoComplete_eq h0' hlen' hne',
      if_neg fun h => h.1 (secondWord_eq_nil hfree'), hcompleted]
    refine iff_of_true ⟨_, rfl, ?_, ?_⟩ (hfits.mp hfit hcommands)
    · rw [pad_eq hlt']
      simp
    · rw [cString_pad h0' hlt', htext']
  · have hnone := complete_of_not_fits h0 hlen.le hpos hfit
    refine iff_of_false ?_ fun h => hfit (hfits.mpr fun _ => h)
    rintro ⟨line, hline, -, -⟩
    unfold shellAutoComplete at hline
    simp only [Option.bind_eq_bind] at hline
    obtain ⟨line₁, hfirst, hline⟩ := Option.bind_eq_some_iff.mp hline
    obtain ⟨line₂, hsecond, -⟩ := Option.bind_eq_some_iff.mp hline
    rw [mshAutoComplete_eq h0 hlen hne] at hfirst
    unfold mshOptAutoComplete at hsecond
    simp only [Option.bind_eq_bind, hnone line₁ hfirst] at hsecond
    cases hsecond

/-- **Completion** is right exactly for the lines that are not empty, that fit when they are completed, and
in which no option goes on with the blanks behind the second word. -/
theorem shellAutoComplete_iff (msh : Msh)
    (hnames : ∀ index ∈ msh.syscallTable, index.name.1 ≠ [] ∧ 0x20 ∉ index.name.1)
    (text : List UInt8) (h0 : 0 ∉ text) (hlen : text.length < finshCmdSize) :
    Completes msh text ↔ Completable msh text := by
  by_cases hne : text = []
  · subst hne
    exact iff_of_false (not_completes_nil hnames) fun h => h.nonempty rfl
  have hpos : 0 < text.length := List.length_pos_iff.mpr hne
  by_cases hcommands : commands msh text = []
  · -- no command begins with the line
    have hshort : (commonPrefix (commands msh text)).length ≤ finshCmdSize := by
      rw [hcommands]
      exact Nat.zero_le _
    have hfit := (fits_iff (msh.syscallTable.map FinshSyscall.name) 0 hne).mpr
      fun h => absurd hcommands h
    obtain ⟨text', -, -, hcomplete, htext'⟩ := complete_eq h0 hlen.le hpos hfit
    replace htext' : text' = text := htext'.trans (if_pos hcommands)
    rw [htext'] at hcomplete
    rw [completes_options h0 hlen hne ((mshAutoComplete_eq h0 hlen hne msh).trans hcomplete)
      hcommands]
    exact ⟨fun h => ⟨hne, hshort, h.1, h.2⟩, fun h => ⟨h.option, h.blanks⟩⟩
  · rw [completes_commands hnames h0 hlen hne hcommands]
    have hblank : 0x20 ∉ text := fun h => hcommands (commands_eq_nil hnames h)
    have hnil := secondWord_eq_nil hblank
    refine ⟨fun h => ⟨hne, h, fun hword => absurd hnil hword, fun _ _ h => ?_⟩, fun h => h.command⟩
    rw [hnil] at h
    cases h

/-- One command, `pin`, with the options `read` and `reset`. -/
def pinMsh : Msh where
  syscallTable := [⟨toCStr [0x70, 0x69, 0x6e],
    [toCStr [0x72, 0x65, 0x61, 0x64], toCStr [0x72, 0x65, 0x73, 0x65, 0x74]]⟩]
  mshExec := fun _ _ echoMode => echoMode

/-- `pin r` becomes `pin re`. -/
theorem shellAutoComplete_iff_pin : completed pinMsh [0x70, 0x69, 0x6e, 0x20, 0x72] =
      [0x70, 0x69, 0x6e, 0x20, 0x72, 0x65] ∧
    Completes pinMsh [0x70, 0x69, 0x6e, 0x20, 0x72] := by
  refine ⟨by decide, (shellAutoComplete_iff pinMsh (by decide) _ (by decide) (by decide)).mpr ?_⟩
  exact ⟨by decide, by decide, by decide, by decide⟩

/-- The empty line is looked at before its first byte. -/
theorem empty_line_not_completed : ¬ ∀ (msh : Msh) (text : List UInt8),
    (∀ index ∈ msh.syscallTable, index.name.1 ≠ [] ∧ 0x20 ∉ index.name.1) → 0 ∉ text →
    text.length < finshCmdSize → Completes msh text := by
  intro h
  have hnames : ∀ index ∈ helpMsh.syscallTable, index.name.1 ≠ [] ∧ 0x20 ∉ index.name.1 := by decide
  exact not_completes_nil hnames (h helpMsh [] hnames List.not_mem_nil (by decide))

end N32L43x.Finsh
