import N32L43x.Finsh.Safety
import Mathlib.Data.List.DropRight
import Mathlib.Data.List.Destutter

/-!
The shell as a line editor: its keys, each a byte or an escape sequence, against an editor that keeps
a text, a cursor and every line that was entered.
-/

namespace N32L43x.Finsh

open N32L43x.Lib.CString N32L43x.Lib.Run

/-! ### The editor -/

/-- A character that is printed. -/
abbrev Printable := {ch : UInt8 // 0x20 ≤ ch ∧ ch ≤ 0x7e}

inductive Key
  | char (ch : Printable)
  | backspace
  | delete
  | left
  | right
  | up
  | down
  | carriageReturn
  | newline

/-- What a key sends. -/
def Key.bytes : Key → List UInt8
  | .char ch => [ch.1]
  | .backspace => [0x08]
  | .delete => [0x7f]
  | .left => [0x1b, 0x5b, 0x44]
  | .right => [0x1b, 0x5b, 0x43]
  | .up => [0x1b, 0x5b, 0x41]
  | .down => [0x1b, 0x5b, 0x42]
  | .carriageReturn => [0x0d]
  | .newline => [0x0a]

/-- The last lines that are not empty, each different from the one before. -/
def history (entered : List (List UInt8)) : List (List UInt8) :=
  ((entered.filter fun line => line ≠ []).destutter (· ≠ ·)).rtake finshHistoryLines

/-- A text with a cursor in it, the lines that were entered, and the place in their history. -/
structure Editor where
  text : List UInt8
  cursor : ℕ
  entered : List (List UInt8)
  place : ℕ
deriving DecidableEq

def Editor.init : Editor := ⟨[], 0, [], 0⟩

/-- The character comes before the cursor. -/
def Editor.insert (ed : Editor) (ch : UInt8) : Editor :=
  { ed with text := ed.text.take ed.cursor ++ ch :: ed.text.drop ed.cursor, cursor := ed.cursor + 1 }

/-- The character before the cursor goes. -/
def Editor.erase (ed : Editor) : Editor :=
  if ed.cursor = 0 then ed
  else { ed with text := ed.text.eraseIdx (ed.cursor - 1), cursor := ed.cursor - 1 }

/-- The text is that of a place in the history, if there is one, with the cursor at its end. -/
def Editor.recall (ed : Editor) (place : ℕ) : Editor :=
  match (history ed.entered)[place]? with
  | some text => { ed with text := text, cursor := text.length, place := place }
  | none => ed

/-- The entry before the place in the history. -/
def Editor.previous (ed : Editor) : Editor := if ed.place = 0 then ed else ed.recall (ed.place - 1)

/-- The entry behind the place in the history. -/
def Editor.next (ed : Editor) : Editor := ed.recall (ed.place + 1)

/-- The entry behind the place in the history, the last one if there is none. -/
def Editor.nextOrLast (ed : Editor) : Editor :=
  ed.recall (min (ed.place + 1) ((history ed.entered).length - 1))

/-- The text is entered, and the place is behind the history. -/
def Editor.enter (ed : Editor) : Editor where
  text := []
  cursor := 0
  entered := ed.entered ++ [ed.text]
  place := (history (ed.entered ++ [ed.text])).length

/-- One key, with what the down key does. -/
def Editor.press (down : Editor → Editor) (ed : Editor) : Key → Editor
  | .char ch => ed.insert ch.1
  | .backspace | .delete => ed.erase
  | .left => { ed with cursor := ed.cursor - 1 }
  | .right => { ed with cursor := min (ed.cursor + 1) ed.text.length }
  | .up => ed.previous
  | .down => down ed
  | .carriageReturn | .newline => ed.enter

/-- The length of the line never reaches `FINSH_CMD_SIZE`. -/
def Short (down : Editor → Editor) (keys : List Key) : Prop :=
  ∀ ed ∈ keys.scanl (Editor.press down) Editor.init, ed.text.length < finshCmdSize

instance (down : Editor → Editor) (keys : List Key) : Decidable (Short down keys) :=
  inferInstanceAs (Decidable (∀ ed ∈ _, _))

/-! ### The calls of `msh_exec` -/

/-- The line and the length a byte passes to `msh_exec`, if it does. -/
def mshExecArgs (sh : FinshShell) (ch : UInt8) : Option (List UInt8 × ℕ) :=
  if isPlain sh.stat ch ∧ (ch = 0x0d ∨ ch = 0x0a) then
    (shellPushHistory { sh with stat := .waitNormal }).map fun sh => (sh.line, sh.linePosition)
  else none

/-- The calls of `msh_exec` while the shell takes some bytes. -/
def mshExecCalls (msh : Msh) (sh : FinshShell) (bytes : List UInt8) : List (List UInt8 × ℕ) :=
  observe (finshThreadEntry msh) (fun sh ch _ => (mshExecArgs sh ch).toList) sh bytes

/-- A text in the line buffer, and its length. -/
def inLine (text : List UInt8) : List UInt8 × ℕ := (pad (finshCmdSize + 1) text, text.length)

variable {msh : Msh} {sh sh' : FinshShell} {e : Edit} {ed : Editor} {ch : UInt8}

/-- A byte of an escape sequence has nothing to do with the commands. -/
lemma finshThreadEntry_escape (msh msh' : Msh) (hplain : isPlain sh.stat ch = false) :
    finshThreadEntry msh' sh ch = finshThreadEntry msh sh ch := by
  obtain ⟨stat, echoMode, currentHistory, historyCount, cmdHistory, line, linePosition,
    lineCurpos⟩ := sh
  simp only at hplain
  unfold finshThreadEntry
  by_cases hesc : ch = 0x1b
  · rw [if_pos hesc, if_pos hesc]
  rw [if_neg hesc, if_neg hesc]
  cases stat with
  | waitNormal => exact absurd hesc (of_decide_eq_false hplain)
  | waitSpecKey =>
    have hfunc : ch = 0x5b := by
      by_contra hfunc
      exact of_decide_eq_false hplain ⟨hesc, hfunc⟩
    simp only
    rw [if_pos hfunc, if_pos hfunc]
  | waitFuncKey =>
    simp only
    by_cases hup : ch = 0x41
    · rw [if_pos hup, if_pos hup]
    by_cases hdown : ch = 0x42
    · rw [if_neg hup, if_pos hdown, if_neg hup, if_pos hdown]
    by_cases hleft : ch = 0x44
    · rw [if_neg hup, if_neg hdown, if_pos hleft, if_neg hup, if_neg hdown, if_pos hleft]
    by_cases hright : ch = 0x43
    · rw [if_neg hup, if_neg hdown, if_neg hleft, if_pos hright, if_neg hup, if_neg hdown,
        if_neg hleft, if_pos hright]
    · exact absurd ⟨hesc, hup, hdown, hleft, hright⟩ (of_decide_eq_false hplain)

/-- There are no other calls: a byte does the same with another `msh_exec` that agrees on them. -/
lemma finshThreadEntry_mshExec (f : List UInt8 → ℕ → Bool → Bool)
    (hf : ∀ r ∈ mshExecArgs sh ch, f r.1 r.2 = msh.mshExec r.1 r.2) :
    finshThreadEntry { msh with mshExec := f } sh ch = finshThreadEntry msh sh ch := by
  have henter : isPlain sh.stat ch = true → (ch = 0x0d ∨ ch = 0x0a) →
      enterKey { msh with mshExec := f } { sh with stat := .waitNormal } =
        enterKey msh { sh with stat := .waitNormal } := by
    intro hplain hret
    unfold enterKey
    rcases hpush : shellPushHistory { sh with stat := .waitNormal } with _ | t
    · rfl
    · have hargs : mshExecArgs sh ch = some (t.line, t.linePosition) := by
        unfold mshExecArgs
        rw [if_pos ⟨hplain, hret⟩, hpush]
        rfl
      have heq := hf _ hargs
      simp only [Option.bind_eq_bind, Option.bind_some]
      simp only at heq
      rw [heq]
  have hbyte : isPlain sh.stat ch = true →
      plainByte { msh with mshExec := f } { sh with stat := .waitNormal } ch =
        plainByte msh { sh with stat := .waitNormal } ch := by
    intro hplain
    unfold plainByte
    by_cases hret : ch = 0x0d ∨ ch = 0x0a
    · rw [henter hplain hret]
      rfl
    · rw [if_neg hret, if_neg hret]
      rfl
  rcases finshThreadEntry_cases msh sh ch with ⟨hplain, heq⟩ | ⟨hkey, -⟩
  · rcases finshThreadEntry_cases { msh with mshExec := f } sh ch with ⟨-, heq'⟩ | ⟨hkey, -⟩
    · rw [heq, heq', hbyte hplain]
    · rw [hplain] at hkey
      cases hkey
  · exact finshThreadEntry_escape _ _ hkey

/-! ### The history -/

section Recent

variable {α : Type*}

lemma getLast?_rtake (l : List α) (n : ℕ) : (l.rtake (n + 1)).getLast? = l.getLast? := by
  unfold List.rtake
  rw [List.getLast?_drop]
  split
  · have hnil : l = [] := List.length_eq_zero_iff.mp (by omega)
    rw [hnil]
    rfl
  · rfl

lemma rtake_concat_rtake (l : List α) (b : α) (n : ℕ) :
    (l.rtake (n + 1) ++ [b]).rtake (n + 1) = (l ++ [b]).rtake (n + 1) := by
  rw [List.rtake_concat_succ, List.rtake_concat_succ]
  congr 1
  unfold List.rtake
  rw [List.drop_drop, List.length_drop]
  congr 1
  omega

variable [DecidableEq α]

lemma destutter'_concat (l : List α) (a b : α) : (l ++ [b]).destutter' (· ≠ ·) a =
    if (l.destutter' (· ≠ ·) a).getLast? = some b then l.destutter' (· ≠ ·) a
    else l.destutter' (· ≠ ·) a ++ [b] := by
  induction l generalizing a with
  | nil => by_cases hab : a = b <;> simp [hab]
  | cons c l ih =>
    rw [List.cons_append]
    by_cases hac : a = c
    · simp [hac, ih]
    · have hne : l.destutter' (· ≠ ·) c ≠ [] := List.destutter'_ne_nil _ _
      have hlast : (a :: l.destutter' (· ≠ ·) c).getLast? = (l.destutter' (· ≠ ·) c).getLast? :=
        List.getLast?_cons_of_ne_nil hne
      rw [List.destutter'_cons_pos _ hac, List.destutter'_cons_pos _ hac, hlast, ih]
      split <;> rfl

/-- A line more: it is left out if it is the same as the last one. -/
lemma destutter_concat (l : List α) (b : α) : (l ++ [b]).destutter (· ≠ ·) =
    if (l.destutter (· ≠ ·)).getLast? = some b then l.destutter (· ≠ ·)
    else l.destutter (· ≠ ·) ++ [b] := by
  cases l with
  | nil => rfl
  | cons a l => exact destutter'_concat l a b

end Recent

/-- The history with one line more. -/
lemma history_concat (entered : List (List UInt8)) (text : List UInt8) :
    history (entered ++ [text]) =
      if text = [] ∨ (history entered).getLast? = some text then history entered
      else (history entered ++ [text]).rtake finshHistoryLines := by
  have hlast : ∀ l : List (List UInt8), (l.rtake finshHistoryLines).getLast? = l.getLast? :=
    fun l => getLast?_rtake l 4
  unfold history
  rw [List.filter_append, hlast]
  by_cases hnil : text = []
  · simp [hnil]
  · have hfilter : [text].filter (fun line => line ≠ []) = [text] := by simp [hnil]
    rw [hfilter, destutter_concat]
    by_cases hsame : ((entered.filter fun line => line ≠ []).destutter (· ≠ ·)).getLast? = some text
    · rw [if_pos hsame, if_pos (.inr hsame)]
    · rw [if_neg hsame, if_neg (not_or.mpr ⟨hnil, hsame⟩)]
      exact (rtake_concat_rtake _ _ 4).symm

lemma length_history_le (entered : List (List UInt8)) :
    (history entered).length ≤ finshHistoryLines := by
  unfold history List.rtake
  rw [List.length_drop]
  omega

/-! ### The shell and the editor -/

/-- The shell shows what the editor does, and its history is that of the lines that were entered. -/
structure Matches (sh : FinshShell) (ed : Editor) : Prop where
  edit : ∃ e : Edit, sh.Inv e ∧ e.text = ed.text ∧ e.cursor = ed.cursor
  stat : sh.stat = .waitNormal
  place : sh.currentHistory = ed.place
  count : sh.historyCount = (history ed.entered).length
  rows : sh.cmdHistory.take sh.historyCount = (history ed.entered).map (pad finshCmdSize)
  texts : ∀ text ∈ history ed.entered, 0 ∉ text ∧ text.length ≤ finshCmdSize

/-- The fields a key that edits the line leaves as they are. -/
structure Kept (sh sh' : FinshShell) : Prop where
  stat : sh'.stat = sh.stat
  current : sh'.currentHistory = sh.currentHistory
  count : sh'.historyCount = sh.historyCount
  rows : sh'.cmdHistory = sh.cmdHistory

lemma Matches.edited (h : Matches sh ed) (hkept : Kept sh sh') (hinv : sh'.Inv e) :
    Matches sh' { ed with text := e.text, cursor := e.cursor } where
  edit := ⟨e, hinv, rfl, rfl⟩
  stat := hkept.stat.trans h.stat
  place := hkept.current.trans h.place
  count := hkept.count.trans h.count
  rows := by
    rw [hkept.count, hkept.rows]
    exact h.rows
  texts := h.texts

lemma kept_leftKey (sh : FinshShell) : Kept sh (leftKey sh) := by
  unfold leftKey
  split <;> exact ⟨rfl, rfl, rfl, rfl⟩

lemma kept_rightKey (h : rightKey sh = some sh') : Kept sh sh' := by
  unfold rightKey at h
  split at h
  · obtain ⟨-, -, h⟩ := Option.bind_eq_some_iff.mp h
    obtain rfl := Option.some.inj h
    exact ⟨rfl, rfl, rfl, rfl⟩
  · obtain rfl := Option.some.inj h
    exact ⟨rfl, rfl, rfl, rfl⟩

lemma kept_backspaceKey (h : backspaceKey sh = some sh') : Kept sh sh' := by
  unfold backspaceKey at h
  split at h
  · obtain rfl := Option.some.inj h
    exact ⟨rfl, rfl, rfl, rfl⟩
  simp only [Option.bind_eq_bind] at h
  split at h
  · obtain ⟨_, _, h⟩ := Option.bind_eq_some_iff.mp h
    obtain ⟨_, _, h⟩ := Option.bind_eq_some_iff.mp h
    obtain ⟨_, _, h⟩ := Option.bind_eq_some_iff.mp h
    obtain rfl := Option.some.inj h
    exact ⟨rfl, rfl, rfl, rfl⟩
  · obtain ⟨_, _, h⟩ := Option.bind_eq_some_iff.mp h
    obtain rfl := Option.some.inj h
    exact ⟨rfl, rfl, rfl, rfl⟩

lemma kept_normalCharacter (h : normalCharacter sh ch = some sh') : Kept sh sh' := by
  have hdiscard : Kept sh (discardLarge sh) := by
    unfold discardLarge
    split <;> exact ⟨rfl, rfl, rfl, rfl⟩
  have hnext : ∀ t, Kept t (nextPosition t) := by
    intro t
    unfold nextPosition
    simp only
    split <;> exact ⟨rfl, rfl, rfl, rfl⟩
  unfold normalCharacter at h
  obtain ⟨line, -, rfl⟩ := Option.map_eq_some_iff.mp h
  have hk := hnext { discardLarge sh with line := line }
  exact ⟨hk.stat.trans hdiscard.stat, hk.current.trans hdiscard.current,
    hk.count.trans hdiscard.count, hk.rows.trans hdiscard.rows⟩

/-- A command of the history is in its row. -/
lemma Matches.row (h : Matches sh ed) {i : ℕ} {text : List UInt8}
    (htext : (history ed.entered)[i]? = some text) :
    sh.cmdHistory[i]? = some (pad finshCmdSize text) := by
  have hlt : i < sh.historyCount := by
    rw [h.count]
    exact (List.getElem?_eq_some_iff.mp htext).1
  rw [← List.getElem?_take_of_lt hlt, h.rows, List.getElem?_map, htext]
  rfl

/-- **The history keys.**  A command that is recalled is the text, with the cursor at its end. -/
lemma Matches.recall (h : Matches sh ed) {i : ℕ} (hi : i < sh.historyCount) :
    ∃ sh', recallHistory sh i = some sh' ∧ Matches sh' (ed.recall i) := by
  obtain ⟨e, hinv, -, -⟩ := h.edit
  have hlen : i < (history ed.entered).length := by
    rw [← h.count]
    exact hi
  have htext := List.getElem?_eq_getElem hlen
  obtain ⟨h0, hfits⟩ := h.texts _ (List.getElem_mem hlen)
  refine ⟨_, hinv.recallHistory_eq h0 hfits (h.row htext), ?_⟩
  unfold Editor.recall
  rw [htext]
  exact ⟨⟨Edit.ofText _ h0 hfits, ⟨⟨rfl, rfl, rfl⟩, ⟨hinv.rows, hinv.texts, hinv.count, hi.le⟩⟩,
    rfl, rfl⟩, h.stat, rfl, h.count, h.rows, h.texts⟩

lemma Matches.upKey (h : Matches sh ed) : ∃ sh', upKey sh = some sh' ∧ Matches sh' ed.previous := by
  obtain ⟨e, hinv, -, -⟩ := h.edit
  have hcurrent := hinv.current
  unfold Finsh.upKey Editor.previous
  rw [← h.place]
  by_cases hpos : 0 < sh.currentHistory
  · rw [if_pos hpos, if_neg hpos.ne']
    exact h.recall (by omega)
  · have hzero : sh.currentHistory = 0 := Nat.eq_zero_of_not_pos hpos
    rw [if_neg hpos, if_pos hzero]
    refine ⟨_, rfl, ?_⟩
    rw [← hzero]
    exact h

/-- Behind the last command the down key recalls it again. -/
lemma Matches.downKey (h : Matches sh ed) :
    ∃ sh', downKey sh = some sh' ∧ Matches sh' ed.nextOrLast := by
  unfold Finsh.downKey Editor.nextOrLast
  rw [← h.place, ← h.count]
  by_cases hlt : sh.currentHistory + 1 < sh.historyCount
  · rw [if_pos hlt, min_eq_left (by omega)]
    exact h.recall hlt
  · rw [if_neg hlt, min_eq_right (by omega)]
    by_cases hcount : sh.historyCount = 0
    · rw [if_neg (not_not.mpr hcount)]
      refine ⟨sh, rfl, ?_⟩
      have hnil : (history ed.entered)[sh.historyCount - 1]? = none := by
        rw [List.getElem?_eq_none_iff, ← h.count, hcount]
      unfold Editor.recall
      rw [hnil]
      exact h
    · rw [if_pos hcount]
      exact h.recall (by omega)

/-- The line is compared with the last command of the history. -/
lemma Matches.sameAs (h : Matches sh ed) (hinv : sh.Inv e) (htext : e.text = ed.text)
    (hcount : sh.historyCount ≠ 0) :
    sameAs sh (sh.historyCount - 1) = some (decide ((history ed.entered).getLast? = some ed.text)) := by
  have hlen : sh.historyCount - 1 < (history ed.entered).length := by
    have hcount' := h.count
    omega
  have hrow := List.getElem?_eq_getElem hlen
  obtain ⟨h0, hfits⟩ := h.texts _ (List.getElem_mem hlen)
  rw [hinv.sameAs_eq h0 hfits (h.row hrow), htext, List.getLast?_eq_getElem?, ← h.count, hrow]
  simp only [Option.some.injEq]

/-- A line that is not empty is the last command of the history behind it. -/
lemma Matches.pushLine (h : Matches sh ed) (hinv : sh.Inv e) (htext : e.text = ed.text)
    (hne : ed.text ≠ []) (hpush : pushLine sh = some sh') : sh'.stat = sh.stat ∧
      sh'.historyCount = (history (ed.entered ++ [ed.text])).length ∧
      sh'.cmdHistory.take sh'.historyCount =
        (history (ed.entered ++ [ed.text])).map (pad finshCmdSize) := by
  have hlines : finshHistoryLines = 5 := rfl
  have hcount := h.count
  have hle := length_history_le ed.entered
  have hlen := hinv.rows
  have hrows := h.rows
  rw [history_concat]
  unfold Finsh.pushLine at hpush
  rw [hinv.historyRow, htext] at hpush
  by_cases hsame : (history ed.entered).getLast? = some ed.text
  · -- the same as the last command
    have hpos : sh.historyCount ≠ 0 := by
      rw [hcount]
      intro hzero
      rw [List.length_eq_zero_iff.mp hzero] at hsame
      cases hsame
    have hcmp := h.sameAs hinv htext hpos
    rw [decide_eq_true hsame] at hcmp
    have hkept : some sh = some sh' := by
      split at hpush
      · have hfive : sh.historyCount = finshHistoryLines := by omega
        rw [hfive] at hcmp
        rw [hcmp] at hpush
        exact hpush
      · rw [hcmp] at hpush
        exact hpush
    obtain rfl := Option.some.inj hkept
    rw [if_pos (.inr hsame)]
    exact ⟨rfl, hcount, hrows⟩
  · rw [if_neg (not_or.mpr ⟨hne, hsame⟩)]
    split at hpush
    · -- the oldest command goes
      have hfive : sh.historyCount = finshHistoryLines := by omega
      have hcmp := h.sameAs hinv htext (by omega)
      rw [decide_eq_false hsame, hfive] at hcmp
      rw [hcmp] at hpush
      obtain rfl := Option.some.inj hpush
      have hall : sh.cmdHistory = (history ed.entered).map (pad finshCmdSize) := by
        rw [← hrows, List.take_of_length_le (by omega)]
      have htake : (history ed.entered ++ [ed.text]).rtake finshHistoryLines =
          (history ed.entered).tail ++ [ed.text] := by
        have hcons : history ed.entered ≠ [] := List.ne_nil_of_length_pos (by omega)
        unfold List.rtake
        rw [List.length_append, ← hcount, hfive, List.length_singleton, Nat.add_sub_cancel_left,
          List.drop_one, List.tail_append_of_ne_nil hcons]
      have hlen' : ((history ed.entered).tail ++ [ed.text]).length = finshHistoryLines := by
        rw [List.length_append, List.length_tail, List.length_singleton]
        omega
      rw [htake]
      refine ⟨rfl, hlen'.symm, ?_⟩
      simp only
      rw [hall, ← List.map_tail, ← List.map_singleton, ← List.map_append,
        List.take_of_length_le (by rw [List.length_map, hlen'])]
    · rename_i hroom
      have hcmp : (if sh.historyCount = 0 then some false else Finsh.sameAs sh (sh.historyCount - 1)) =
          some false := by
        split
        · rfl
        · rename_i hpos
          rw [h.sameAs hinv htext hpos, decide_eq_false hsame]
      rw [hcmp] at hpush
      obtain rfl := Option.some.inj hpush
      have htake : (history ed.entered ++ [ed.text]).rtake finshHistoryLines =
          history ed.entered ++ [ed.text] := by
        unfold List.rtake
        rw [Nat.sub_eq_zero_of_le, List.drop_zero]
        rw [List.length_append, List.length_singleton]
        omega
      rw [htake]
      refine ⟨rfl, ?_, ?_⟩
      · simp only
        rw [List.length_append, hcount, List.length_singleton]
      · simp only
        have hlt : sh.historyCount < sh.cmdHistory.length := by omega
        rw [List.map_append, ← hrows, List.take_add_one, List.take_set_of_le (le_refl _),
          List.getElem?_set_self hlt]
        rfl

/-- **The history** gets the text, unless it is empty or the same as the last one. -/
lemma Matches.shellPushHistory (h : Matches sh ed) (hinv : sh.Inv e) (htext : e.text = ed.text) :
    ∃ sh', shellPushHistory sh = some sh' ∧ sh'.Inv e ∧ sh'.stat = sh.stat ∧
      sh'.currentHistory = (history (ed.entered ++ [ed.text])).length ∧
      sh'.historyCount = (history (ed.entered ++ [ed.text])).length ∧
      sh'.cmdHistory.take sh'.historyCount =
        (history (ed.entered ++ [ed.text])).map (pad finshCmdSize) := by
  obtain ⟨sh', hpush, hinv'⟩ := hinv.shellPushHistory
  refine ⟨sh', hpush, hinv', ?_⟩
  unfold Finsh.shellPushHistory at hpush
  obtain ⟨t, hline, rfl⟩ := Option.map_eq_some_iff.mp hpush
  suffices hfields : t.stat = sh.stat ∧
      t.historyCount = (history (ed.entered ++ [ed.text])).length ∧
      t.cmdHistory.take t.historyCount =
        (history (ed.entered ++ [ed.text])).map (pad finshCmdSize) from
    ⟨hfields.1, hfields.2.1, hfields.2⟩
  by_cases hnil : ed.text = []
  · have hzero : sh.linePosition = 0 := by
      rw [hinv.position, htext, hnil]
      rfl
    rw [if_neg (not_not.mpr hzero)] at hline
    obtain rfl := Option.some.inj hline
    rw [history_concat, if_pos (.inl hnil)]
    exact ⟨rfl, h.count, h.rows⟩
  · have hpos : sh.linePosition ≠ 0 := by
      rw [hinv.position, htext]
      exact fun hzero => hnil (List.length_eq_zero_iff.mp hzero)
    rw [if_pos hpos] at hline
    exact h.pushLine hinv htext hnil hline

lemma history_texts (h : ∀ text ∈ history ed.entered, 0 ∉ text ∧ text.length ≤ finshCmdSize)
    (h0 : 0 ∉ ed.text) (hfits : ed.text.length ≤ finshCmdSize) :
    ∀ text ∈ history (ed.entered ++ [ed.text]), 0 ∉ text ∧ text.length ≤ finshCmdSize := by
  intro text hmem
  rw [history_concat] at hmem
  split at hmem
  · exact h text hmem
  · rcases List.mem_append.mp (List.mem_of_mem_drop hmem) with hmem | hmem
    · exact h text hmem
    · rw [List.mem_singleton.mp hmem]
      exact ⟨h0, hfits⟩

/-- **The enter key** passes the text to `msh_exec`. -/
lemma Matches.enterKey (h : Matches sh ed) (msh : Msh) :
    ∃ sh', enterKey msh sh = some sh' ∧ Matches sh' ed.enter ∧
      (Finsh.shellPushHistory sh).map (fun sh => (sh.line, sh.linePosition)) =
        some (inLine ed.text) := by
  obtain ⟨e, hinv, htext, -⟩ := h.edit
  obtain ⟨t, hpush, hinv', hstat, hcurrent, hcount, hrows⟩ := h.shellPushHistory hinv htext
  have hlt : t.linePosition < t.line.length := by
    rw [hinv'.position, hinv'.length_line]
    exact e.lt
  unfold Finsh.enterKey
  simp only [hpush, Option.bind_eq_bind, Option.bind_some, Option.map_some]
  rw [if_pos hlt]
  refine ⟨_, rfl, ⟨⟨Edit.ofText [] List.not_mem_nil (Nat.zero_le _), ?_, rfl, rfl⟩,
    hstat.trans h.stat, hcurrent, hcount, hrows, ?_⟩, ?_⟩
  · exact ⟨⟨rfl, rfl, rfl⟩, ⟨hinv'.rows, hinv'.texts, hinv'.count, hinv'.current⟩⟩
  · refine history_texts h.texts ?_ ?_
    · rw [← htext]
      exact e.nonzero
    · rw [← htext]
      exact e.fits
  · unfold inLine
    rw [hinv'.line, hinv'.position, htext]

/-! ### Keys -/

/-- A byte that is no part of an escape sequence. -/
lemma finshThreadEntry_waitNormal (hstat : sh.stat = .waitNormal) (hesc : ch ≠ 0x1b) :
    finshThreadEntry msh sh ch = plainByte msh sh ch := by
  unfold finshThreadEntry
  rw [if_neg hesc, hstat]

/-- An escape sequence. -/
lemma exec_escape (msh : Msh) (sh : FinshShell) (ch : UInt8) :
    exec (finshThreadEntry msh) sh [0x1b, 0x5b, ch] =
      finshThreadEntry msh { sh with stat := .waitFuncKey } ch := by
  have h1 : finshThreadEntry msh sh 0x1b = some { sh with stat := .waitSpecKey } := rfl
  have h2 : finshThreadEntry msh { sh with stat := .waitSpecKey } 0x5b =
      some { sh with stat := .waitFuncKey } := rfl
  rw [exec_cons_some h1, exec_cons_some h2]
  rcases hs : finshThreadEntry msh { sh with stat := .waitFuncKey } ch with _ | t
  · exact exec_cons_none hs _
  · exact exec_cons_some hs _

/-- What a key does: the shell still matches the editor, and the lines that were passed to `msh_exec` are
those that were entered. -/
def Pressed (msh : Msh) (sh : FinshShell) (ed ed' : Editor) (bytes : List UInt8) : Prop :=
  ∃ sh', exec (finshThreadEntry msh) sh bytes = some sh' ∧ Matches sh' ed' ∧
    ed'.entered.map inLine = ed.entered.map inLine ++ mshExecCalls msh sh bytes

/-- A byte that enters nothing. -/
lemma Pressed.byte {ed' : Editor} (hstat : sh.stat = .waitNormal) (hesc : ch ≠ 0x1b)
    (hret : ¬ (ch = 0x0d ∨ ch = 0x0a)) (hentered : ed'.entered = ed.entered)
    (h : ∃ sh', plainByte msh sh ch = some sh' ∧ Matches sh' ed') : Pressed msh sh ed ed' [ch] := by
  obtain ⟨sh', hplain, h'⟩ := h
  have hstep : finshThreadEntry msh sh ch = some sh' := by
    rw [finshThreadEntry_waitNormal hstat hesc, hplain]
  have hargs : mshExecArgs sh ch = none := by
    unfold mshExecArgs
    rw [if_neg fun hc => hret hc.2]
  refine ⟨sh', exec_cons_some hstep [], h', ?_⟩
  unfold mshExecCalls
  rw [observe_cons_some hstep, hargs, hentered]
  exact (List.append_nil _).symm

/-- An arrow key. -/
lemma Pressed.arrow {ed' : Editor} (hret : ¬ (ch = 0x0d ∨ ch = 0x0a))
    (hentered : ed'.entered = ed.entered)
    (h : ∃ sh', finshThreadEntry msh { sh with stat := .waitFuncKey } ch = some sh' ∧ Matches sh' ed') :
    Pressed msh sh ed ed' [0x1b, 0x5b, ch] := by
  obtain ⟨sh', hkey, h'⟩ := h
  have h1 : finshThreadEntry msh sh 0x1b = some { sh with stat := .waitSpecKey } := rfl
  have h2 : finshThreadEntry msh { sh with stat := .waitSpecKey } 0x5b =
      some { sh with stat := .waitFuncKey } := rfl
  have hargs : ∀ (t : FinshShell) (c : UInt8), ¬ (c = 0x0d ∨ c = 0x0a) → mshExecArgs t c = none := by
    intro t c hc
    unfold mshExecArgs
    rw [if_neg fun h => hc h.2]
  refine ⟨sh', ?_, h', ?_⟩
  · rw [exec_cons_some h1, exec_cons_some h2, exec_cons_some hkey]
    rfl
  · unfold mshExecCalls
    rw [observe_cons_some h1, observe_cons_some h2, observe_cons_some hkey, hargs _ _ (by decide),
      hargs _ _ (by decide), hargs _ _ hret, hentered]
    exact (List.append_nil _).symm

/-- A character. -/
lemma Matches.normalCharacter (h : Matches sh ed) (hch : ch ≠ 0)
    (hshort : (ed.insert ch).text.length < finshCmdSize) :
    ∃ sh', normalCharacter sh ch = some sh' ∧ Matches sh' (ed.insert ch) := by
  obtain ⟨e, hinv, htext, hcursor⟩ := h.edit
  have hlen : (ed.insert ch).text.length = e.text.length + 1 := by
    have hle := e.cursor_le
    unfold Editor.insert
    simp only [List.length_append, List.length_take, List.length_cons, List.length_drop]
    rw [← htext, ← hcursor]
    omega
  have hfits : e.text.length + 1 < finshCmdSize := by
    rw [← hlen]
    exact hshort
  obtain ⟨sh', hkey, hinv'⟩ := hinv.normalCharacter hch hfits
  refine ⟨sh', hkey, ?_⟩
  have hedited := h.edited (kept_normalCharacter hkey) hinv'
  unfold Edit.insert at hedited
  simp only [htext, hcursor] at hedited
  exact hedited

/-- The backspace key. -/
lemma Matches.backspaceKey (h : Matches sh ed) :
    ∃ sh', backspaceKey sh = some sh' ∧ Matches sh' ed.erase := by
  obtain ⟨e, hinv, htext, hcursor⟩ := h.edit
  unfold Editor.erase
  rw [← hcursor]
  by_cases hzero : e.cursor = 0
  · rw [if_pos hzero]
    refine ⟨sh, ?_, h⟩
    unfold Finsh.backspaceKey
    rw [if_pos (by rw [hinv.curpos]; exact hzero)]
  · rw [if_neg hzero]
    obtain ⟨sh', hkey, hinv'⟩ := hinv.backspaceKey hzero
    refine ⟨sh', hkey, ?_⟩
    have hedited := h.edited (kept_backspaceKey hkey) hinv'
    unfold Edit.erase at hedited
    simp only [htext] at hedited
    exact hedited

lemma Matches.leftKey (h : Matches sh ed) :
    Matches (leftKey sh) { ed with cursor := ed.cursor - 1 } := by
  obtain ⟨e, hinv, htext, hcursor⟩ := h.edit
  have hedited := h.edited (kept_leftKey sh) hinv.leftKey
  unfold Edit.left at hedited
  simp only [htext, hcursor] at hedited
  exact hedited

lemma Matches.rightKey (h : Matches sh ed) : ∃ sh', rightKey sh = some sh' ∧
    Matches sh' { ed with cursor := min (ed.cursor + 1) ed.text.length } := by
  obtain ⟨e, hinv, htext, hcursor⟩ := h.edit
  obtain ⟨sh', hkey, hinv'⟩ := hinv.rightKey
  refine ⟨sh', hkey, ?_⟩
  have hedited := h.edited (kept_rightKey hkey) hinv'
  unfold Edit.right at hedited
  simp only [htext, hcursor] at hedited
  exact hedited

/-- The enter key, as one of two bytes. -/
lemma Matches.pressEnter (h : Matches sh ed) (hret : ch = 0x0d ∨ ch = 0x0a) :
    Pressed msh sh ed ed.enter [ch] := by
  obtain ⟨sh', hkey, h', hcall⟩ := h.enterKey msh
  have hesc : ch ≠ 0x1b := by
    rcases hret with rfl | rfl <;> decide
  have hplain : plainByte msh sh ch = Finsh.enterKey msh sh := by
    rcases hret with rfl | rfl <;> rfl
  have hstep : finshThreadEntry msh sh ch = some sh' := by
    rw [finshThreadEntry_waitNormal h.stat hesc, hplain, hkey]
  have hsame : { sh with stat := .waitNormal } = sh := by
    rw [← h.stat]
  have hargs : mshExecArgs sh ch = some (inLine ed.text) := by
    unfold mshExecArgs
    rw [hsame, hcall, h.stat, if_pos ⟨decide_eq_true hesc, hret⟩]
  refine ⟨sh', exec_cons_some hstep [], h', ?_⟩
  unfold mshExecCalls
  rw [observe_cons_some hstep, hargs]
  exact List.map_append

/-- **One key** does to the shell what it does to the editor. -/
lemma Matches.press (h : Matches sh ed) (key : Key)
    (hshort : (ed.press Editor.nextOrLast key).text.length < finshCmdSize) :
    Pressed msh sh ed (ed.press Editor.nextOrLast key) key.bytes := by
  have hsame : { sh with stat := .waitNormal } = sh := by
    rw [← h.stat]
  have herase : ed.erase.entered = ed.entered := by
    unfold Editor.erase
    split <;> rfl
  have hrecall : ∀ place, (ed.recall place).entered = ed.entered := by
    intro place
    unfold Editor.recall
    split <;> rfl
  cases key with
  | char ch =>
    obtain ⟨ch, hprint⟩ := ch
    have hne : ∀ c : UInt8, ¬ (0x20 ≤ c ∧ c ≤ 0x7e) → ch ≠ c := fun c hc heq => hc (heq ▸ hprint)
    obtain ⟨sh', hkey, h'⟩ := h.normalCharacter (hne 0 (by decide)) hshort
    have hret : ¬ (ch = 0x0d ∨ ch = 0x0a) :=
      not_or.mpr ⟨hne _ (by decide), hne _ (by decide)⟩
    refine Pressed.byte h.stat (hne _ (by decide)) hret rfl ⟨sh', ?_, h'⟩
    unfold plainByte
    rw [if_neg (not_or.mpr ⟨hne _ (by decide), hne _ (by decide)⟩), if_neg (hne _ (by decide)),
      if_neg (not_or.mpr ⟨hne _ (by decide), hne _ (by decide)⟩), if_neg hret, hkey]
  | backspace => exact Pressed.byte h.stat (by decide) (by decide) herase h.backspaceKey
  | delete => exact Pressed.byte h.stat (by decide) (by decide) herase h.backspaceKey
  | left =>
    refine Pressed.arrow (by decide) rfl ⟨_, ?_, h.leftKey⟩
    have hkey : finshThreadEntry msh { sh with stat := .waitFuncKey } 0x44 =
        some (Finsh.leftKey { sh with stat := .waitNormal }) := rfl
    rw [hkey, hsame]
  | right =>
    refine Pressed.arrow (by decide) rfl ?_
    have hkey : finshThreadEntry msh { sh with stat := .waitFuncKey } 0x43 =
        Finsh.rightKey { sh with stat := .waitNormal } := rfl
    rw [hkey, hsame]
    exact h.rightKey
  | up =>
    have hentered : ed.previous.entered = ed.entered := by
      unfold Editor.previous
      split
      · rfl
      · exact hrecall _
    refine Pressed.arrow (by decide) hentered ?_
    have hkey : finshThreadEntry msh { sh with stat := .waitFuncKey } 0x41 =
        Finsh.upKey { sh with stat := .waitNormal } := rfl
    rw [hkey, hsame]
    exact h.upKey
  | down =>
    refine Pressed.arrow (by decide) (hrecall _) ?_
    have hkey : finshThreadEntry msh { sh with stat := .waitFuncKey } 0x42 =
        Finsh.downKey { sh with stat := .waitNormal } := rfl
    rw [hkey, hsame]
    exact h.downKey
  | carriageReturn => exact h.pressEnter (.inl rfl)
  | newline => exact h.pressEnter (.inr rfl)

/-- **The keys of a run.** -/
lemma Matches.foldl_press (keys : List Key) (h : Matches sh ed)
    (hshort : ∀ ed' ∈ keys.scanl (Editor.press Editor.nextOrLast) ed, ed'.text.length < finshCmdSize) :
    Pressed msh sh ed (keys.foldl (Editor.press Editor.nextOrLast) ed) (keys.flatMap Key.bytes) := by
  induction keys generalizing sh ed with
  | nil => exact ⟨sh, rfl, h, (List.append_nil _).symm⟩
  | cons key keys ih =>
    rw [List.scanl_cons] at hshort
    have hrest : ∀ ed' ∈ keys.scanl (Editor.press Editor.nextOrLast) (ed.press Editor.nextOrLast key),
        ed'.text.length < finshCmdSize := fun ed' hmem => hshort ed' (List.mem_cons_of_mem _ hmem)
    have hfirst : (ed.press Editor.nextOrLast key).text.length < finshCmdSize :=
      hrest _ (by cases keys <;> simp)
    obtain ⟨t, hkey, ht, hcalls⟩ := h.press key hfirst
    obtain ⟨sh', hkeys, h', hcalls'⟩ := ih ht hrest
    refine ⟨sh', ?_, h', ?_⟩
    · rw [List.flatMap_cons, exec_append_some hkey, hkeys]
    · rw [List.foldl_cons, hcalls', hcalls, List.flatMap_cons, List.append_assoc]
      unfold mshExecCalls
      rw [observe_append_some _ hkey]

lemma matches_init : Matches FinshShell.init Editor.init :=
  ⟨⟨_, inv_init, rfl, rfl⟩, rfl, rfl, rfl, rfl, nofun⟩

/-- **Line editing.**  For every sequence of keys in which the line stays shorter than `FINSH_CMD_SIZE`,
the texts that are passed to `msh_exec` are those an editor enters, and the history holds the last of
them.  Behind the last command of the history the down key recalls it again. -/
theorem shell_edits (msh : Msh) (keys : List Key) (hshort : Short Editor.nextOrLast keys) :
    let ed := keys.foldl (Editor.press Editor.nextOrLast) Editor.init
    let bytes := keys.flatMap Key.bytes
    ∃ sh, exec (finshThreadEntry msh) FinshShell.init bytes = some sh ∧
      mshExecCalls msh FinshShell.init bytes = ed.entered.map inLine ∧
      sh.cmdHistory.take sh.historyCount = (history ed.entered).map (pad finshCmdSize) := by
  have hrun : Pressed msh _ _ _ _ := matches_init.foldl_press keys hshort
  obtain ⟨sh, hexec, h, hcalls⟩ := hrun
  exact ⟨sh, hexec, hcalls.symm, h.rows⟩

/-- `ls` is entered twice, then a line is typed, corrected and given up for the last command. -/
def someKeys : List Key :=
  [.char ⟨0x6c, by decide⟩, .char ⟨0x73, by decide⟩, .carriageReturn, .up, .newline,
    .char ⟨0x70, by decide⟩, .char ⟨0x73, by decide⟩, .left, .backspace, .down, .right, .delete,
    .carriageReturn]

theorem shell_edits_someKeys : Short Editor.nextOrLast someKeys ∧
    ∃ sh, exec (finshThreadEntry helpMsh) FinshShell.init (someKeys.flatMap Key.bytes) = some sh ∧
      mshExecCalls helpMsh FinshShell.init (someKeys.flatMap Key.bytes) =
        (someKeys.foldl (Editor.press Editor.nextOrLast) Editor.init).entered.map inLine ∧
      sh.cmdHistory.take sh.historyCount =
        (history (someKeys.foldl (Editor.press Editor.nextOrLast) Editor.init).entered).map
          (pad finshCmdSize) :=
  have hshort : Short Editor.nextOrLast someKeys := by decide
  ⟨hshort, shell_edits helpMsh someKeys hshort⟩

/-- An editor whose down key does nothing behind the last command enters another text: the line that
is being typed is lost. -/
theorem shell_recalls_last : ¬ ∀ (msh : Msh) (keys : List Key), Short Editor.next keys →
    let ed := keys.foldl (Editor.press Editor.next) Editor.init
    let bytes := keys.flatMap Key.bytes
    ∃ sh, exec (finshThreadEntry msh) FinshShell.init bytes = some sh ∧
      mshExecCalls msh FinshShell.init bytes = ed.entered.map inLine ∧
      sh.cmdHistory.take sh.historyCount = (history ed.entered).map (pad finshCmdSize) := by
  intro h
  -- `a` is entered, then `b` is typed and the down key pressed
  obtain ⟨sh, -, hcalls, -⟩ := h helpMsh [.char ⟨0x61, by decide⟩, .carriageReturn,
    .char ⟨0x62, by decide⟩, .down, .carriageReturn] (by decide)
  revert hcalls
  decide +kernel

end N32L43x.Finsh
