import N32L43x.Finsh.Completion

/-!
Completion, and the line buffer over any sequence of bytes.  The names of the commands and options are
arbitrary; that `msh_auto_complete` stays in the line is assumed of them, `msh_opt_auto_complete` is
looked at.
-/

namespace N32L43x.Finsh

open N32L43x.Lib.CString N32L43x.Lib.Run

variable {msh : Msh} {sh : FinshShell} {e : Edit} {ch : UInt8}

/-- The options can be looked up if there is a byte before the end of the string to look at. -/
lemma mshOpt_read {str : List UInt8} (h : str = [] → mshGetCmd msh str ≠ none) (argc : ℕ) :
    ∃ opt, mshOpt msh str argc = some opt ∧ (argc = 1 → opt = mshGetCmdOpt msh str) := by
  unfold mshOpt
  by_cases hargc : argc = 0
  · rw [if_neg (not_not.mpr hargc)]
    by_cases hcmd : mshGetCmd msh str = none
    · have hne : str ≠ [] := fun hnil => h hnil hcmd
      rw [if_pos hcmd, List.getLast?_eq_getLast_of_ne_nil hne]
      exact ⟨_, rfl, fun h1 => absurd (hargc.symm.trans h1) Nat.zero_ne_one⟩
    · rw [if_neg hcmd]
      exact ⟨_, rfl, fun h1 => absurd (hargc.symm.trans h1) Nat.zero_ne_one⟩
  · rw [if_pos hargc]
    exact ⟨_, rfl, fun _ => rfl⟩

section Options

variable {text : List UInt8} (h0 : 0 ∉ text) (hfits : text.length ≤ finshCmdSize)

include h0 hfits

/-- **Options** are completed within the line. -/
lemma mshOptAutoComplete_of_fits (h : OptFits msh text) :
    ∃ more, 0 ∉ more ∧ text.length + more.length ≤ finshCmdSize ∧
      mshOptAutoComplete msh (pad (finshCmdSize + 1) text) =
        some (pad (finshCmdSize + 1) (text ++ more)) := by
  have hlt : text.length < finshCmdSize + 1 := Nat.lt_succ_of_le hfits
  obtain ⟨hempty, hopt⟩ := h
  have hargc := mshGetArgc_lt text 0 (0, 0) fun h => absurd rfl h
  obtain ⟨opt, hread, hopt1⟩ := mshOpt_read hempty (mshGetArgc text 0 (0, 0)).1
  unfold mshOptAutoComplete
  simp only [strlen_pad h0 hlt, cString_pad h0 hlt, hread, Option.bind_eq_bind, Option.bind_some]
  split
  · rename_i h1
    rw [hopt1 h1.1]
    have hoff := hargc (by omega)
    rw [Nat.zero_add] at hoff
    exact complete_of_fits h0 hfits _ hoff (hopt h1.1)
  · refine ⟨[], List.not_mem_nil, hfits, ?_⟩
    rw [List.append_nil]

lemma mshOptAutoComplete_of_not_fits (h : ¬ OptFits msh text) :
    ∀ line ∈ mshOptAutoComplete msh (pad (finshCmdSize + 1) text), strlen line = none := by
  have hlt : text.length < finshCmdSize + 1 := Nat.lt_succ_of_le hfits
  have hargc := mshGetArgc_lt text 0 (0, 0) fun h => absurd rfl h
  intro line hline
  unfold mshOptAutoComplete at hline
  simp only [strlen_pad h0 hlt, cString_pad h0 hlt, Option.bind_eq_bind, Option.bind_some] at hline
  obtain ⟨opt, hread, hline⟩ := Option.bind_eq_some_iff.mp hline
  unfold OptFits at h
  rcases not_and_or.mp h with h | h
  · -- the byte before an empty string
    obtain ⟨rfl, hcmd⟩ := Classical.not_imp.mp h
    unfold mshOpt at hread
    have hargc0 : (mshGetArgc [] 0 (0, 0)).1 = 0 := rfl
    rw [if_neg (not_not.mpr hargc0), if_pos (not_not.mp hcmd)] at hread
    cases hread
  · obtain ⟨h1, hlong⟩ := Classical.not_imp.mp h
    have hopt : opt = mshGetCmdOpt msh text := by
      unfold mshOpt at hread
      rw [h1, if_pos Nat.one_ne_zero] at hread
      exact (Option.some.inj hread).symm
    have hne : mshGetCmdOpt msh text ≠ [] := by
      intro hnil
      rw [hnil] at hlong
      exact hlong nofun
    rw [hopt, if_pos ⟨h1, hne⟩] at hline
    have hoff := hargc (by omega)
    rw [Nat.zero_add] at hoff
    exact complete_of_not_fits h0 hfits hoff hlong line hline

end Options

/-! ### The tab key -/

/-- Commands are completed within the line, as is assumed. -/
lemma mshAutoComplete_spec (hcompletes : CompletesWithin msh) {text : List UInt8} (h0 : 0 ∉ text)
    (hfits : text.length ≤ finshCmdSize) :
    ∃ text', 0 ∉ text' ∧ text'.length ≤ finshCmdSize ∧
      mshAutoComplete msh (pad (finshCmdSize + 1) text) =
        some (pad (finshCmdSize + 1) text') := by
  have hlt : text.length < finshCmdSize + 1 := Nat.lt_succ_of_le hfits
  unfold mshAutoComplete
  simp only [strlen_pad h0 hlt, Option.bind_eq_bind, Option.bind_some]
  split
  · exact ⟨text, h0, hfits, rfl⟩
  · rename_i hne
    obtain ⟨more, h0m, hlen, heq⟩ := complete_of_fits h0 hfits 0 (Nat.pos_of_ne_zero hne)
      (hcompletes _)
    refine ⟨text ++ more, fun hmem => ?_, by rw [List.length_append]; exact hlen, heq⟩
    exact (List.mem_append.mp hmem).elim h0 h0m

lemma FinshShell.Inv.tabKey (hcompletes : CompletesWithin msh) (h : sh.Inv e)
    (htab : TabOk msh sh.line) : ∃ e', Shown (tabKey msh sh) e' := by
  have hsize : finshCmdSize = 80 := rfl
  obtain ⟨text, h0, hfits, hcmd⟩ := mshAutoComplete_spec hcompletes e.nonzero e.fits
  rw [← h.line] at hcmd
  have hlt : text.length < finshCmdSize + 1 := Nat.lt_succ_of_le hfits
  have hopt := htab _ hcmd
  rw [cString_pad h0 hlt] at hopt
  obtain ⟨more, h0m, hlen, hopt⟩ := mshOptAutoComplete_of_fits h0 hfits hopt
  have hlen' : (text ++ more).length ≤ finshCmdSize := by
    rw [List.length_append]
    exact hlen
  have h0' : 0 ∉ text ++ more := fun hmem => (List.mem_append.mp hmem).elim h0 h0m
  have hstr := strlen_pad h0' (Nat.lt_succ_of_le hlen')
  have h16 : uint16 (text ++ more).length = (text ++ more).length := uint16_of_lt (by omega)
  unfold Finsh.tabKey shellAutoComplete
  simp only [hcmd, hopt, hstr, h16, Option.bind_eq_bind, Option.bind_some]
  exact ⟨Edit.ofText _ h0' hlen', _, rfl, ⟨rfl, rfl, rfl⟩, ⟨h.rows, h.texts, h.count, h.current⟩⟩

lemma FinshShell.Inv.tabKey_none (hcompletes : CompletesWithin msh) (h : sh.Inv e)
    (htab : ¬ TabOk msh sh.line) : Finsh.tabKey msh sh = none := by
  obtain ⟨text, h0, hfits, hcmd⟩ := mshAutoComplete_spec hcompletes e.nonzero e.fits
  rw [← h.line] at hcmd
  have hlt : text.length < finshCmdSize + 1 := Nat.lt_succ_of_le hfits
  have hopt : ¬ OptFits msh text := by
    intro hopt
    refine htab fun line hline => ?_
    obtain rfl := Option.some.inj (hcmd.symm.trans hline)
    rw [cString_pad h0 hlt]
    exact hopt
  have hend := mshOptAutoComplete_of_not_fits h0 hfits hopt
  unfold Finsh.tabKey shellAutoComplete
  simp only [hcmd, Option.bind_eq_bind, Option.bind_some]
  rcases hc : mshOptAutoComplete msh (pad (finshCmdSize + 1) text) with _ | line
  · rfl
  · rw [Option.bind_some, hend line hc]
    rfl

/-! ### Bytes -/

/-- A byte that is taken with care is done with. -/
lemma FinshShell.Inv.plainByte (hcompletes : CompletesWithin msh) (h : sh.Inv e)
    (hnormal : isNormal ch = true → sh.linePosition + 1 < finshCmdSize)
    (htab : ch = 0x09 → TabOk msh sh.line) : ∃ e', Shown (plainByte msh sh ch) e' := by
  unfold Finsh.plainByte
  split
  · exact ⟨e, sh, rfl, h⟩
  rename_i hnull
  split
  · rename_i heq
    exact h.tabKey hcompletes (htab heq)
  rename_i hnot
  split
  · by_cases hpos : e.cursor = 0
    · unfold Finsh.backspaceKey
      rw [if_pos (by rw [h.curpos]; exact hpos)]
      exact ⟨e, sh, rfl, h⟩
    · exact ⟨_, h.backspaceKey hpos⟩
  rename_i hback
  split
  · exact ⟨_, h.enterKey⟩
  rename_i hret
  have hfits := hnormal (decide_eq_true ⟨hnull, hnot, hback, hret⟩)
  rw [h.position] at hfits
  exact ⟨_, h.normalCharacter (fun hz => hnull (.inl hz)) hfits⟩

/-- A byte that is not is not, or leaves a line that is not right. -/
lemma FinshShell.Inv.plainByte_not (hcompletes : CompletesWithin msh) (h : sh.Inv e)
    (hnot : ¬ ((isNormal ch = true → sh.linePosition + 1 < finshCmdSize) ∧
      (ch = 0x09 → TabOk msh sh.line))) :
    ∀ sh' ∈ Finsh.plainByte msh sh ch, ¬ sh'.LineOk := by
  intro sh' hsh'
  rw [not_and_or, Classical.not_imp, Classical.not_imp] at hnot
  rcases hnot with ⟨hnormal, hfull⟩ | ⟨rfl, htab⟩
  · obtain ⟨hnull, htab, hback, hret⟩ := of_decide_eq_true hnormal
    unfold Finsh.plainByte at hsh'
    rw [if_neg hnull, if_neg htab, if_neg hback, if_neg hret] at hsh'
    rw [h.position] at hfull
    exact h.normalCharacter_full (fun hz => hnull (.inl hz)) (Nat.le_of_not_lt hfull) sh' hsh'
  · have hnone := h.tabKey_none hcompletes htab
    have hplain : Finsh.plainByte msh sh 0x09 = Finsh.tabKey msh sh := rfl
    rw [hplain, hnone] at hsh'
    cases hsh'

lemma FinshShell.Inv.withStat (h : sh.Inv e) (stat : InputStat) : { sh with stat := stat }.Inv e :=
  ⟨⟨h.line, h.position, h.curpos⟩, ⟨h.rows, h.texts, h.count, h.current⟩⟩

/-- The bytes that have a meaning in an escape sequence, and those that have not. -/
lemma finshThreadEntry_cases (msh : Msh) (sh : FinshShell) (ch : UInt8) :
    (isPlain sh.stat ch = true ∧
      finshThreadEntry msh sh ch = plainByte msh { sh with stat := .waitNormal } ch) ∨
    (isPlain sh.stat ch = false ∧ ∀ e, sh.Inv e → ∃ e', Shown (finshThreadEntry msh sh ch) e') := by
  obtain ⟨stat, echoMode, currentHistory, historyCount, cmdHistory, line, linePosition,
    lineCurpos⟩ := sh
  unfold finshThreadEntry
  by_cases hesc : ch = 0x1b
  · subst hesc
    refine .inr ⟨by cases stat <;> rfl, fun e h => ⟨e, _, rfl, h.withStat .waitSpecKey⟩⟩
  rw [if_neg hesc]
  cases stat with
  | waitNormal => exact .inl ⟨decide_eq_true hesc, rfl⟩
  | waitSpecKey =>
    simp only
    by_cases hfunc : ch = 0x5b
    · rw [if_pos hfunc]
      refine .inr ⟨decide_eq_false fun h => h.2 hfunc, fun e h => ⟨e, _, rfl, h.withStat .waitFuncKey⟩⟩
    · rw [if_neg hfunc]
      exact .inl ⟨decide_eq_true ⟨hesc, hfunc⟩, rfl⟩
  | waitFuncKey =>
    simp only
    by_cases hup : ch = 0x41
    · rw [if_pos hup]
      exact .inr ⟨decide_eq_false fun h => h.2.1 hup, fun e h => (h.withStat .waitNormal).upKey⟩
    rw [if_neg hup]
    by_cases hdown : ch = 0x42
    · rw [if_pos hdown]
      exact .inr ⟨decide_eq_false fun h => h.2.2.1 hdown, fun e h => (h.withStat .waitNormal).downKey⟩
    rw [if_neg hdown]
    by_cases hleft : ch = 0x44
    · rw [if_pos hleft]
      exact .inr ⟨decide_eq_false fun h => h.2.2.2.1 hleft,
        fun e h => ⟨_, _, rfl, (h.withStat .waitNormal).leftKey⟩⟩
    rw [if_neg hleft]
    by_cases hright : ch = 0x43
    · rw [if_pos hright]
      exact .inr ⟨decide_eq_false fun h => h.2.2.2.2 hright,
        fun e h => ⟨_, (h.withStat .waitNormal).rightKey⟩⟩
    rw [if_neg hright]
    exact .inl ⟨decide_eq_true ⟨hesc, hup, hdown, hleft, hright⟩, rfl⟩

/-- A byte that is taken with care keeps the invariant. -/
lemma FinshShell.Inv.finshThreadEntry (hcompletes : CompletesWithin msh) (h : sh.Inv e)
    (hcareful : Careful msh sh ch) : ∃ e', Shown (finshThreadEntry msh sh ch) e' := by
  rcases finshThreadEntry_cases msh sh ch with ⟨hplain, heq⟩ | ⟨-, hkey⟩
  · obtain ⟨hnormal, htab⟩ := hcareful hplain
    rw [heq]
    exact (h.withStat .waitNormal).plainByte hcompletes hnormal htab
  · exact hkey e h

/-- The first byte that is not ends it. -/
lemma FinshShell.Inv.finshThreadEntry_not (hcompletes : CompletesWithin msh) (h : sh.Inv e)
    (hcareful : ¬ Careful msh sh ch) : ∀ sh' ∈ Finsh.finshThreadEntry msh sh ch, ¬ sh'.LineOk := by
  obtain ⟨hplain, hnot⟩ := Classical.not_imp.mp hcareful
  rcases finshThreadEntry_cases msh sh ch with ⟨-, heq⟩ | ⟨hkey, -⟩
  · rw [heq]
    exact (h.withStat .waitNormal).plainByte_not hcompletes hnot
  · rw [hkey] at hplain
    cases hplain

/-- The shell starts with an empty line and an empty history. -/
lemma inv_init : FinshShell.init.Inv (Edit.ofText [] List.not_mem_nil (Nat.zero_le _)) := by
  refine ⟨⟨rfl, rfl, rfl⟩, ⟨List.length_replicate, fun cmd hcmd => ?_, Nat.zero_le _, le_refl _⟩⟩
  obtain rfl := List.eq_of_mem_replicate hcmd
  exact ⟨[], List.not_mem_nil, Nat.zero_le _, rfl⟩

/-- **The line buffer is safe exactly with care.**  For every sequence of bytes: the line is right after
each of them, and no access has left it, if and only if each was taken with care. -/
theorem line_safe_iff (msh : Msh) (hcompletes : CompletesWithin msh) (input : List UInt8) :
    (∀ bytes, bytes <+: input → ∃ sh,
      exec (finshThreadEntry msh) FinshShell.init bytes = some sh ∧ sh.LineOk) ↔
    Along (finshThreadEntry msh) (Careful msh) FinshShell.init input := by
  refine prefixes_iff_along (I := fun sh => ∃ e, sh.Inv e) ?_ ?_ ?_ input _ ⟨_, inv_init⟩
  · rintro sh ch ⟨e, h⟩ hcareful
    obtain ⟨e', sh', heq, h'⟩ := h.finshThreadEntry hcompletes hcareful
    exact ⟨sh', heq, e', h'⟩
  · rintro sh ch ⟨e, h⟩ hcareful
    exact h.finshThreadEntry_not hcompletes hcareful
  · rintro sh ⟨e, h⟩
    exact h.lineOk

/-! ### Names that fit -/

/-- The completion of a command stays in the line if all names do. -/
lemma completesWithin_of_length_le
    (h : ∀ index ∈ msh.syscallTable, index.name.1.length ≤ finshCmdSize) : CompletesWithin msh := by
  intro str
  have hfold : ∀ (names : List CStr) (r : Option CStr × ℕ), r.2 ≤ finshCmdSize →
      (∀ name ∈ names, name.1.length ≤ finshCmdSize) →
      (names.foldl (matchName str) r).2 ≤ finshCmdSize := by
    intro names
    induction names with
    | nil => exact fun _ hr _ => hr
    | cons name names ih =>
      intro r hr hnames
      refine ih _ ?_ fun name' hname' => hnames name' (List.mem_cons_of_mem _ hname')
      have hname := hnames name List.mem_cons_self
      obtain ⟨namePtr, minLength⟩ := r
      simp only at hr
      unfold matchName
      by_cases hm : minLength = 0
      · simp only [hm, if_true]
        split_ifs <;> simp only <;> omega
      · simp only [hm, if_false]
        split_ifs <;> simp only <;> omega
  rintro ⟨p, n⟩ hr
  have hlen := hfold (msh.syscallTable.map FinshSyscall.name) (none, 0) (Nat.zero_le _) (by
    intro name hname
    obtain ⟨index, hindex, rfl⟩ := List.mem_map.mp hname
    exact h index hindex)
  unfold completion at hr
  split at hr
  · cases hr
  · rename_i heq
    cases hr
    rw [heq] at hlen
    rw [Nat.zero_add]
    exact hlen

instance (msh : Msh) (str : List UInt8) : Decidable (OptFits msh str) :=
  inferInstanceAs (Decidable (_ ∧ _))

instance (msh : Msh) (line : List UInt8) : Decidable (TabOk msh line) :=
  inferInstanceAs (Decidable (∀ line' ∈ mshAutoComplete msh line, OptFits msh (cString line')))

instance (msh : Msh) (sh : FinshShell) (ch : UInt8) : Decidable (Careful msh sh ch) :=
  inferInstanceAs (Decidable (_ → _))

/-- A name up to its end. -/
def toCStr (a : List UInt8) : CStr := ⟨cString a, zero_notMem_cString a⟩

/-- One command, `help`, without options. -/
def helpMsh : Msh where
  syscallTable := [⟨toCStr [0x68, 0x65, 0x6c, 0x70], []⟩]
  mshExec := fun _ _ echoMode => echoMode

/-- The command is completed from its first letter, corrected and entered. -/
theorem line_safe_iff_help : CompletesWithin helpMsh ∧
    ∀ bytes, bytes <+: [0x68, 0x09, 0x1b, 0x5b, 0x44, 0x7f, 0x6c, 0x0d, 0x1b, 0x5b, 0x41] → ∃ sh,
      exec (finshThreadEntry helpMsh) FinshShell.init bytes = some sh ∧ sh.LineOk :=
  have hcompletes : CompletesWithin helpMsh := completesWithin_of_length_le (by decide)
  ⟨hcompletes, (line_safe_iff helpMsh hcompletes _).mpr (by decide +kernel)⟩

/-- 80 letters: the positions are reset and the line is kept.  A tab then finds 80 letters, the next
letter is put at the beginning of the line with the cursor behind its end, and the second backspace
moves 65456 bytes. -/
theorem line_overflows : CompletesWithin helpMsh ∧
    (∃ sh, exec (finshThreadEntry helpMsh) FinshShell.init (List.replicate 80 0x61) = some sh ∧
      ¬ sh.LineOk) ∧
    exec (finshThreadEntry helpMsh) FinshShell.init
      (List.replicate 80 0x61 ++ [0x09, 0x61, 0x7f, 0x7f]) = none := by
  refine ⟨completesWithin_of_length_le (by decide), ?_, by decide +kernel⟩
  have hline : ∃ sh ∈ exec (finshThreadEntry helpMsh) FinshShell.init (List.replicate 80 0x61),
      sh.line[sh.linePosition]? ≠ some 0 := by
    decide +kernel
  obtain ⟨sh, hsh, hnul⟩ := hline
  exact ⟨sh, hsh, fun hok => hnul hok.nul⟩

end N32L43x.Finsh
