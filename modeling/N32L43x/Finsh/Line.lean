import N32L43x.Finsh.Defs
import N32L43x.Lib.Run

/-!
The line buffer of the shell against what it shows: a text of at most `FINSH_CMD_SIZE` bytes and a
cursor in it.  Every key does to the buffer what it should do to the text, except for three cases: a
character for a line that is full but for one byte, a tab on an empty line, and an option that is
completed beyond the end of the line.
-/

namespace N32L43x.Finsh

open N32L43x.Lib.CString N32L43x.Lib.Run

/-! ### What is asked of the line -/

/-- Cursor and length are in the line, and the length is that of the string in it. -/
structure FinshShell.LineOk (sh : FinshShell) : Prop where
  curpos_le : sh.lineCurpos ≤ sh.linePosition
  position_le : sh.linePosition ≤ finshCmdSize
  nul : sh.line[sh.linePosition]? = some 0
  first : ∀ i < sh.linePosition, sh.line[i]? ≠ some 0

/-- The completion of a string ends within the line. -/
def Fits (names : List CStr) (str : List UInt8) (off : ℕ) : Prop :=
  ∀ r ∈ completion names str, off + r.2 ≤ finshCmdSize

instance (names : List CStr) (str : List UInt8) (off : ℕ) : Decidable (Fits names str off) :=
  match h : completion names str with
  | none => isTrue fun r hr => absurd (h ▸ hr) (Option.not_mem_none r)
  | some r => decidable_of_iff (off + r.2 ≤ finshCmdSize)
      ⟨fun hle r' hr' => by obtain rfl : r = r' := Option.some.inj (h ▸ hr'); exact hle,
        fun hfits => hfits r h⟩

/-- `msh_opt_auto_complete` on a line: there is a byte before the end of the string to look at, and the
option that is completed fits. -/
def OptFits (msh : Msh) (str : List UInt8) : Prop :=
  (str = [] → mshGetCmd msh str ≠ none) ∧
  ((mshGetArgc str 0 (0, 0)).1 = 1 → Fits (mshGetCmdOpt msh str)
    (str.drop (mshGetArgc str 0 (0, 0)).2) (mshGetArgc str 0 (0, 0)).2)

/-- A tab on a line completes the command, then the option. -/
def TabOk (msh : Msh) (line : List UInt8) : Prop :=
  ∀ line' ∈ mshAutoComplete msh line, OptFits msh (cString line')

/-- The byte is no part of an escape sequence. -/
def isPlain : InputStat → UInt8 → Bool
  | .waitNormal, ch => ch ≠ 0x1b
  | .waitSpecKey, ch => ch ≠ 0x1b ∧ ch ≠ 0x5b
  | .waitFuncKey, ch => ch ≠ 0x1b ∧ ch ≠ 0x41 ∧ ch ≠ 0x42 ∧ ch ≠ 0x44 ∧ ch ≠ 0x43

/-- The byte is none that has a meaning of its own. -/
def isNormal (ch : UInt8) : Bool :=
  ¬ (ch = 0x00 ∨ ch = 0xff) ∧ ch ≠ 0x09 ∧ ¬ (ch = 0x7f ∨ ch = 0x08) ∧ ¬ (ch = 0x0d ∨ ch = 0x0a)

/-- No character comes to a line that is full but for one byte, and a tab comes where it can complete. -/
def Careful (msh : Msh) (sh : FinshShell) (ch : UInt8) : Prop :=
  isPlain sh.stat ch = true →
    (isNormal ch = true → sh.linePosition + 1 < finshCmdSize) ∧
    (ch = 0x09 → TabOk msh sh.line)

/-- `msh_auto_complete` only writes within the line. -/
def CompletesWithin (msh : Msh) : Prop :=
  ∀ str, Fits (msh.syscallTable.map FinshSyscall.name) str 0

/-! ### The text and the cursor -/

/-- What a line shows. -/
structure Edit where
  text : List UInt8
  cursor : ℕ
  nonzero : 0 ∉ text
  fits : text.length ≤ finshCmdSize
  cursor_le : cursor ≤ text.length

/-- A text with the cursor behind it. -/
def Edit.ofText (text : List UInt8) (h0 : 0 ∉ text) (hfits : text.length ≤ finshCmdSize) : Edit :=
  ⟨text, text.length, h0, hfits, le_refl _⟩

def Edit.left (e : Edit) : Edit :=
  { e with cursor := e.cursor - 1, cursor_le := (Nat.sub_le _ _).trans e.cursor_le }

def Edit.right (e : Edit) : Edit :=
  { e with cursor := min (e.cursor + 1) e.text.length, cursor_le := Nat.min_le_right _ _ }

/-- The byte before the cursor goes. -/
def Edit.erase (e : Edit) : Edit where
  text := e.text.eraseIdx (e.cursor - 1)
  cursor := e.cursor - 1
  nonzero := fun h => e.nonzero (List.mem_of_mem_eraseIdx h)
  fits := (List.length_eraseIdx_le _ _).trans e.fits
  cursor_le := by
    have h := e.cursor_le
    rw [List.length_eraseIdx]
    split <;> omega

/-- A byte comes before the cursor. -/
def Edit.insert (e : Edit) (ch : UInt8) (hch : ch ≠ 0) (hfits : e.text.length + 1 ≤ finshCmdSize) :
    Edit where
  text := e.text.take e.cursor ++ ch :: e.text.drop e.cursor
  cursor := e.cursor + 1
  nonzero := by
    intro h
    rcases List.mem_append.mp h with h | h
    · exact e.nonzero (List.mem_of_mem_take h)
    · rcases List.mem_cons.mp h with h | h
      · exact hch h.symm
      · exact e.nonzero (List.mem_of_mem_drop h)
  fits := by
    have h := e.cursor_le
    simp only [List.length_append, List.length_take, List.length_cons, List.length_drop]
    omega
  cursor_le := by
    have h := e.cursor_le
    simp only [List.length_append, List.length_take, List.length_cons, List.length_drop]
    omega

/-- The line shows a text and a cursor. -/
structure FinshShell.Shows (sh : FinshShell) (e : Edit) : Prop where
  line : sh.line = pad (finshCmdSize + 1) e.text
  position : sh.linePosition = e.text.length
  curpos : sh.lineCurpos = e.cursor

/-- The history holds texts. -/
structure FinshShell.HistoryOk (sh : FinshShell) : Prop where
  rows : sh.cmdHistory.length = finshHistoryLines
  texts : ∀ cmd ∈ sh.cmdHistory, ∃ text, 0 ∉ text ∧ text.length ≤ finshCmdSize ∧
    cmd = pad finshCmdSize text
  count : sh.historyCount ≤ finshHistoryLines
  current : sh.currentHistory ≤ sh.historyCount

/-- The invariant of the shell. -/
structure FinshShell.Inv (sh : FinshShell) (e : Edit) : Prop extends sh.Shows e, sh.HistoryOk

/-- A key is done with, and the line shows this. -/
def Shown (o : Option FinshShell) (e : Edit) : Prop := ∃ sh, o = some sh ∧ sh.Inv e

variable {msh : Msh} {sh sh' : FinshShell} {e : Edit} {ch : UInt8}

lemma uint16_of_lt {n : ℕ} (h : n < 0x10000) : uint16 n = n := Nat.mod_eq_of_lt h

lemma uint16Pred_of_pos {n : ℕ} (h0 : n ≠ 0) (h : n < 0x10000) : uint16Pred n = n - 1 := by
  unfold uint16Pred uint16
  omega

lemma Edit.lt (e : Edit) : e.text.length < finshCmdSize + 1 := Nat.lt_succ_of_le e.fits

lemma FinshShell.Shows.lineOk (h : sh.Shows e) : sh.LineOk := by
  have hpad := pad_eq e.lt
  refine ⟨?_, ?_, ?_, ?_⟩
  · rw [h.curpos, h.position]
    exact e.cursor_le
  · rw [h.position]
    exact e.fits
  · rw [h.line, h.position, hpad, List.getElem?_append_right (le_refl _), Nat.sub_self]
    rfl
  · intro i hi hz
    rw [h.position] at hi
    rw [h.line, hpad, List.getElem?_append_left hi] at hz
    exact e.nonzero (List.mem_of_getElem? hz)

/-! ### The cursor keys -/

lemma FinshShell.Inv.leftKey (h : sh.Inv e) : (leftKey sh).Inv e.left := by
  have hsize : finshCmdSize = 80 := rfl
  have hle := e.cursor_le
  have hfits := e.fits
  unfold Finsh.leftKey
  split
  · rename_i hpos
    refine ⟨⟨h.line, h.position, ?_⟩, ⟨h.rows, h.texts, h.count, h.current⟩⟩
    simp only
    rw [h.curpos] at hpos ⊢
    exact uint16Pred_of_pos hpos (by omega)
  · rename_i hpos
    refine ⟨⟨h.line, h.position, ?_⟩, h.toHistoryOk⟩
    rw [h.curpos]
    unfold Edit.left
    simp only
    rw [h.curpos] at hpos
    omega

lemma FinshShell.Inv.rightKey (h : sh.Inv e) : Shown (rightKey sh) e.right := by
  have hsize : finshCmdSize = 80 := rfl
  have hle := e.cursor_le
  have hfits := e.fits
  unfold Finsh.rightKey
  split
  · rename_i hlt
    rw [h.curpos, h.position] at hlt
    have hlen : sh.lineCurpos < sh.line.length := by
      rw [h.line, length_pad (Nat.le_succ_of_le e.fits), h.curpos]
      omega
    rw [List.getElem?_eq_getElem hlen]
    refine ⟨_, rfl, ⟨h.line, h.position, ?_⟩, ⟨h.rows, h.texts, h.count, h.current⟩⟩
    simp only
    rw [h.curpos, uint16_of_lt (by omega)]
    unfold Edit.right
    simp only
    omega
  · rename_i hlt
    rw [h.curpos, h.position] at hlt
    refine ⟨sh, rfl, ⟨h.line, h.position, ?_⟩, h.toHistoryOk⟩
    rw [h.curpos]
    unfold Edit.right
    simp only
    omega

/-! ### Erasing and inserting -/

lemma Edit.length_insert (e : Edit) (hch : ch ≠ 0) (hfits : e.text.length + 1 ≤ finshCmdSize) :
    (e.insert ch hch hfits).text.length = e.text.length + 1 := by
  have hle := e.cursor_le
  unfold Edit.insert
  simp only [List.length_append, List.length_take, List.length_cons, List.length_drop]
  omega

/-- The text around the cursor. -/
lemma Edit.split (e : Edit) : e.text = e.text.take e.cursor ++ e.text.drop e.cursor ∧
    (e.text.take e.cursor).length = e.cursor :=
  ⟨(List.take_append_drop ..).symm, List.length_take_of_le e.cursor_le⟩

/-- **The backspace key** erases the byte before the cursor. -/
lemma FinshShell.Inv.backspaceKey (h : sh.Inv e) (hpos : e.cursor ≠ 0) :
    Shown (backspaceKey sh) e.erase := by
  have hsize : finshCmdSize = 80 := rfl
  have hle := e.cursor_le
  have hfits := e.fits
  have hcur : uint16Pred sh.lineCurpos = e.cursor - 1 := by
    rw [h.curpos]
    exact uint16Pred_of_pos hpos (by omega)
  have hlen : uint16Pred sh.linePosition = e.text.length - 1 := by
    rw [h.position]
    exact uint16Pred_of_pos (by omega) (by omega)
  -- the byte that goes, and the text before and behind it
  obtain ⟨a, c, b, hsplit, ha⟩ : ∃ a c b, e.text = a ++ c :: b ∧ a.length = e.cursor - 1 := by
    have hlt : e.cursor - 1 < e.text.length := by omega
    refine ⟨e.text.take (e.cursor - 1), e.text[e.cursor - 1], e.text.drop (e.cursor - 1 + 1), ?_, ?_⟩
    · rw [← List.drop_eq_getElem_cons hlt, List.take_append_drop]
    · exact List.length_take_of_le hlt.le
  have herase : e.erase.text = a ++ b := by
    unfold Edit.erase
    simp only
    rw [hsplit, ← ha, List.eraseIdx_append_of_length_le (le_refl _), Nat.sub_self]
    rfl
  have htext : e.text.length = a.length + b.length + 1 := by
    rw [hsplit, List.length_append, List.length_cons]
    omega
  have hline : sh.line = a ++ c :: (b ++ List.replicate (finshCmdSize + 1 - e.text.length) 0) := by
    rw [h.line]
    unfold pad
    rw [hsplit, List.append_assoc, List.cons_append]
  have hpad : pad (finshCmdSize + 1) e.erase.text =
      a ++ (b ++ 0 :: List.replicate (finshCmdSize + 1 - e.text.length) 0) := by
    unfold pad
    have hk : finshCmdSize + 1 - (a ++ b).length = finshCmdSize + 1 - e.text.length + 1 := by
      rw [List.length_append]
      omega
    rw [herase, hk, List.append_assoc, List.replicate_succ]
  unfold Finsh.backspaceKey
  rw [if_neg (by rw [h.curpos]; exact hpos)]
  simp only [hcur, hlen]
  split
  · -- bytes behind the cursor
    rename_i hlt
    have hb : b.length = e.text.length - 1 - (e.cursor - 1) := by omega
    have hmove := memmove_down a b (List.replicate (finshCmdSize + 1 - e.text.length) 0) c
    rw [← hline, ← hpad, ha, hb] at hmove
    have hsum : e.cursor - 1 + (e.text.length - 1 - (e.cursor - 1)) = e.text.length - 1 := by omega
    rw [hsum] at hmove
    obtain ⟨line, hmem, hstore⟩ := Option.bind_eq_some_iff.mp hmove
    have hcursor : e.cursor - 1 ≤ e.erase.text.length := e.erase.cursor_le
    have hprint := strlen_drop_pad e.erase.nonzero e.erase.lt hcursor
    simp only [hmem, Option.bind_eq_bind, Option.bind_some, hstore, hprint]
    refine ⟨_, rfl, ⟨rfl, ?_, rfl⟩, ⟨h.rows, h.texts, h.count, h.current⟩⟩
    simp only
    rw [herase, List.length_append]
    omega
  · -- the cursor is at the end
    rename_i hlt
    have hb : b = [] := List.length_eq_zero_iff.mp (by omega)
    have hstore : store sh.line (e.text.length - 1) 0 = some (pad (finshCmdSize + 1) e.erase.text) := by
      have ha' : e.text.length - 1 = a.length := by omega
      rw [hpad, hline, hb, ha']
      exact store_append 0 c
    simp only [hstore, Option.bind_eq_bind, Option.bind_some]
    refine ⟨_, rfl, ⟨rfl, ?_, rfl⟩, ⟨h.rows, h.texts, h.count, h.current⟩⟩
    simp only
    rw [herase, List.length_append]
    omega

/-- The line with a character more, if there is room for its end. -/
lemma FinshShell.Inv.lineWith (h : sh.Inv e) (hch : ch ≠ 0) (hfits : e.text.length + 1 ≤ finshCmdSize) :
    lineWith sh ch = some (pad (finshCmdSize + 1) (e.insert ch hch hfits).text) := by
  have hle := e.cursor_le
  obtain ⟨hsplit, ha⟩ := e.split
  have htext : (e.insert ch hch hfits).text = e.text.take e.cursor ++ ch :: e.text.drop e.cursor := rfl
  have hlen := e.length_insert hch hfits
  have hzeros : List.replicate (finshCmdSize + 1 - e.text.length) (0 : UInt8) =
      0 :: List.replicate (finshCmdSize + 1 - (e.text.length + 1)) 0 := by
    rw [← List.replicate_succ]
    congr 1
    omega
  have hline : sh.line = e.text.take e.cursor ++ (e.text.drop e.cursor ++
      0 :: List.replicate (finshCmdSize + 1 - (e.text.length + 1)) 0) := by
    rw [h.line]
    unfold pad
    rw [hzeros, ← List.append_assoc, List.take_append_drop]
  have hpad : pad (finshCmdSize + 1) (e.insert ch hch hfits).text =
      e.text.take e.cursor ++ ch :: (e.text.drop e.cursor ++
        List.replicate (finshCmdSize + 1 - (e.text.length + 1)) 0) := by
    unfold pad
    rw [hlen, htext, List.append_assoc, List.cons_append]
  have hbehind : (e.text.drop e.cursor).length = e.text.length - e.cursor := List.length_drop
  unfold Finsh.lineWith
  simp only [h.curpos, h.position]
  split
  · -- the bytes behind the cursor move up
    rename_i hlt
    have hne : e.text.drop e.cursor ≠ [] := List.ne_nil_of_length_pos (by omega)
    have hmove := memmove_up (e.text.take e.cursor)
      (List.replicate (finshCmdSize + 1 - (e.text.length + 1)) 0) hne ch 0
    rw [← hline, ← hpad, ha, hbehind] at hmove
    obtain ⟨line, hmem, hstore⟩ := Option.bind_eq_some_iff.mp hmove
    have hcursor : e.cursor ≤ (e.insert ch hch hfits).text.length := by omega
    have hprint := strlen_drop_pad (e.insert ch hch hfits).nonzero (e.insert ch hch hfits).lt hcursor
    simp only [hmem, Option.bind_eq_bind, Option.bind_some, hstore, hprint]
    split <;> rfl
  · rename_i hlt
    have hend : e.text.drop e.cursor = [] := List.drop_eq_nil_of_le (by omega)
    have hat : e.text.length = (e.text.take e.cursor).length := by omega
    rw [hpad, hline, hend, List.nil_append, hat]
    exact store_append ch 0

lemma discardLarge_of_lt (hlt : sh.linePosition < finshCmdSize) : discardLarge sh = sh := by
  unfold discardLarge
  rw [if_neg (Nat.not_le_of_lt hlt)]

/-- **A character** is inserted before the cursor if the line stays shorter than it may be. -/
lemma FinshShell.Inv.normalCharacter (h : sh.Inv e) (hch : ch ≠ 0)
    (hfits : e.text.length + 1 < finshCmdSize) :
    Shown (normalCharacter sh ch) (e.insert ch hch hfits.le) := by
  have hsize : finshCmdSize = 80 := rfl
  have hle := e.cursor_le
  have hkept : discardLarge sh = sh := discardLarge_of_lt (by rw [h.position]; omega)
  have hpos1 : uint16 (e.text.length + 1) = e.text.length + 1 := uint16_of_lt (by omega)
  have hcur1 : uint16 (e.cursor + 1) = e.cursor + 1 := uint16_of_lt (by omega)
  unfold Finsh.normalCharacter
  simp only [hkept, h.lineWith hch hfits.le, Option.map_some]
  refine ⟨_, rfl, ?_⟩
  unfold nextPosition
  simp only [h.position, h.curpos, hpos1, hcur1]
  rw [if_neg (Nat.not_le_of_lt hfits)]
  exact ⟨⟨rfl, (e.length_insert hch hfits.le).symm, rfl⟩, ⟨h.rows, h.texts, h.count, h.current⟩⟩

/-- **The last byte of the line.**  Both positions are reset and the line is kept, or the positions are
reset one by one. -/
lemma FinshShell.Inv.normalCharacter_full (h : sh.Inv e) (hch : ch ≠ 0)
    (hfull : finshCmdSize ≤ e.text.length + 1) : ∀ sh' ∈ Finsh.normalCharacter sh ch, ¬ sh'.LineOk := by
  intro sh' hsh' hok
  have hsize : finshCmdSize = 80 := rfl
  have hle := e.cursor_le
  have hfits := e.fits
  unfold Finsh.normalCharacter at hsh'
  obtain ⟨line, hline, rfl⟩ := Option.map_eq_some_iff.mp hsh'
  by_cases hlen : e.text.length + 1 = finshCmdSize
  · -- the line has become full: it shows no text, but the text is in it
    have hpos : sh.linePosition = 79 := by
      rw [h.position]
      omega
    have hkept : discardLarge sh = sh := discardLarge_of_lt (by omega)
    rw [hkept, h.lineWith hch hlen.le] at hline
    obtain rfl := Option.some.inj hline
    have hnul := hok.nul
    unfold nextPosition at hnul
    rw [hkept] at hnul
    simp only [hpos] at hnul
    rw [if_pos (by decide)] at hnul
    simp only at hnul
    have hnew := e.length_insert hch hlen.le
    rw [pad_eq (e.insert ch hch hlen.le).lt, List.getElem?_append_left (by omega)] at hnul
    exact (e.insert ch hch hlen.le).nonzero (List.mem_of_getElem? hnul)
  · -- it was full: the length starts again and the cursor does not
    have hpos : finshCmdSize ≤ sh.linePosition := by
      rw [h.position]
      omega
    have hdiscard : discardLarge sh = { sh with linePosition := 0 } := by
      unfold discardLarge
      rw [if_pos hpos]
    have hcur1 : uint16 (e.cursor + 1) = e.cursor + 1 := uint16_of_lt (by omega)
    have hone : uint16 (0 + 1) = 1 := rfl
    rw [hdiscard] at hline hok
    have hset : line = sh.line.set 0 ch := by
      unfold Finsh.lineWith at hline
      rw [if_neg (Nat.not_lt_zero _)] at hline
      unfold store at hline
      split at hline
      · exact (Option.some.inj hline).symm
      · cases hline
    have hcurpos := hok.curpos_le
    have hnul := hok.nul
    unfold nextPosition at hcurpos hnul
    simp only [hone, h.curpos, hcur1] at hcurpos hnul
    rw [if_neg (by decide)] at hcurpos hnul
    simp only [hset] at hcurpos hnul
    rw [List.getElem?_set_ne Nat.zero_ne_one, h.line, pad_eq e.lt,
      List.getElem?_append_left (by omega)] at hnul
    exact e.nonzero (List.mem_of_getElem? hnul)

/-! ### The history -/

lemma FinshShell.Inv.length_line (h : sh.Inv e) : sh.line.length = finshCmdSize + 1 := by
  rw [h.line]
  exact length_pad (Nat.le_succ_of_le e.fits)

/-- A command of the history. -/
lemma FinshShell.HistoryOk.getElem? (h : sh.HistoryOk) {i : ℕ} (hi : i < finshHistoryLines) :
    ∃ text, 0 ∉ text ∧ text.length ≤ finshCmdSize ∧
      sh.cmdHistory[i]? = some (pad finshCmdSize text) := by
  have hlen : i < sh.cmdHistory.length := by
    rw [h.rows]
    exact hi
  obtain ⟨text, h0, hfits, hcmd⟩ := h.texts _ (List.getElem_mem hlen)
  refine ⟨text, h0, hfits, ?_⟩
  rw [← hcmd]
  exact List.getElem?_eq_getElem hlen

/-- **The history** brings a text back. -/
lemma FinshShell.Inv.recallHistory_eq (h : sh.Inv e) {i : ℕ} {text : List UInt8} (h0 : 0 ∉ text)
    (hfits : text.length ≤ finshCmdSize) (hcmd : sh.cmdHistory[i]? = some (pad finshCmdSize text)) :
    recallHistory sh i = some { sh with
      currentHistory := i
      line := pad (finshCmdSize + 1) text
      linePosition := text.length
      lineCurpos := text.length } := by
  have hlen : (pad finshCmdSize text).length = finshCmdSize := length_pad hfits
  have hlast : sh.line.drop finshCmdSize = [0] := by
    rw [h.line]
    unfold pad
    rw [List.drop_append, List.drop_eq_nil_of_le e.fits, List.drop_replicate, List.nil_append]
    have hone : finshCmdSize + 1 - e.text.length - (finshCmdSize - e.text.length) = 1 := by
      have hle := e.fits
      omega
    rw [hone]
    rfl
  have hcpy : memcpy sh.line 0 (pad finshCmdSize text) finshCmdSize =
      some (pad (finshCmdSize + 1) text) := by
    unfold memcpy
    rw [if_pos]
    · rw [List.take_zero, List.nil_append, Nat.zero_add, hlast, List.take_of_length_le hlen.le]
      have hsum : finshCmdSize + 1 - text.length = finshCmdSize - text.length + 1 := by omega
      unfold pad
      rw [List.append_assoc, hsum, List.replicate_succ']
    · rw [h.length_line, hlen]
      omega
  have hstr : strlen (pad (finshCmdSize + 1) text) = some text.length :=
    strlen_pad h0 (Nat.lt_succ_of_le hfits)
  have hsize : finshCmdSize = 80 := rfl
  have h16 : uint16 text.length = text.length := uint16_of_lt (by omega)
  unfold Finsh.recallHistory
  simp only [hcmd, hcpy, hstr, h16, Option.bind_eq_bind, Option.bind_some]

lemma FinshShell.Inv.recallHistory (h : sh.Inv e) {i : ℕ} (hi : i < finshHistoryLines)
    (hcount : i ≤ sh.historyCount) : ∃ e', Shown (recallHistory sh i) e' := by
  obtain ⟨text, h0, hfits, hcmd⟩ := h.getElem? hi
  exact ⟨Edit.ofText text h0 hfits, _, h.recallHistory_eq h0 hfits hcmd, ⟨rfl, rfl, rfl⟩,
    ⟨h.rows, h.texts, h.count, hcount⟩⟩

lemma FinshShell.Inv.upKey (h : sh.Inv e) : ∃ e', Shown (upKey sh) e' := by
  have hcount := h.count
  have hcurrent := h.current
  unfold Finsh.upKey
  split
  · exact h.recallHistory (by omega) (by omega)
  · exact ⟨e, _, rfl, ⟨h.line, h.position, h.curpos⟩, ⟨h.rows, h.texts, h.count, Nat.zero_le _⟩⟩

lemma FinshShell.Inv.downKey (h : sh.Inv e) : ∃ e', Shown (downKey sh) e' := by
  have hcount := h.count
  unfold Finsh.downKey
  split
  · rename_i hlt
    exact h.recallHistory (by omega) (by omega)
  · split
    · rename_i hne
      exact h.recallHistory (by omega) (by omega)
    · exact ⟨e, sh, rfl, h⟩

/-- All bytes of the line are compared: those behind the text are zero on both sides. -/
lemma FinshShell.Inv.sameAs_eq (h : sh.Inv e) {i : ℕ} {text : List UInt8} (h0 : 0 ∉ text)
    (hfits : text.length ≤ finshCmdSize) (hcmd : sh.cmdHistory[i]? = some (pad finshCmdSize text)) :
    sameAs sh i = some (decide (text = e.text)) := by
  have hline : sh.line.take finshCmdSize = pad finshCmdSize e.text := by
    have hz : finshCmdSize + 1 - e.text.length = finshCmdSize - e.text.length + 1 := by
      have hle := e.fits
      omega
    rw [h.line]
    unfold pad
    rw [hz, List.replicate_succ', ← List.append_assoc]
    exact List.take_left' (length_pad e.fits)
  have hrow : (pad finshCmdSize text).take finshCmdSize = pad finshCmdSize text :=
    List.take_of_length_le (length_pad hfits).le
  unfold Finsh.sameAs
  rw [hcmd, Option.bind_some]
  unfold memcmp
  rw [if_pos ⟨(length_pad hfits).ge, by rw [h.length_line]; exact Nat.le_succ _⟩, hline, hrow]
  congr 1
  refine Bool.eq_iff_iff.mpr ?_
  rw [beq_iff_eq, decide_eq_true_iff]
  refine ⟨fun heq => ?_, fun heq => by rw [heq]⟩
  have hstr := congrArg cString heq
  rwa [cString_pad_of_le h0 hfits, cString_pad_of_le e.nonzero e.fits] at hstr

lemma FinshShell.Inv.sameAs (h : sh.Inv e) {i : ℕ} (hi : i < finshHistoryLines) :
    ∃ same, sameAs sh i = some same := by
  obtain ⟨text, h0, hfits, hcmd⟩ := h.getElem? hi
  exact ⟨_, h.sameAs_eq h0 hfits hcmd⟩

lemma FinshShell.Inv.historyRow (h : sh.Inv e) :
    historyRow sh = some (pad finshCmdSize e.text) := by
  unfold Finsh.historyRow
  rw [h.position, memcpy_zeros e.fits, h.line]
  · unfold pad
    rw [List.take_left]
  · rw [h.length_line]
    exact Nat.le_succ_of_le e.fits

/-- The line becomes the last command of a history. -/
lemma texts_push {rows : List (List UInt8)}
    (h : ∀ cmd ∈ rows, ∃ text, 0 ∉ text ∧ text.length ≤ finshCmdSize ∧ cmd = pad finshCmdSize text)
    (e : Edit) {rows' : List (List UInt8)}
    (hrows' : ∀ cmd ∈ rows', cmd ∈ rows ∨ cmd = pad finshCmdSize e.text) :
    ∀ cmd ∈ rows', ∃ text, 0 ∉ text ∧ text.length ≤ finshCmdSize ∧ cmd = pad finshCmdSize text := by
  intro cmd hcmd
  rcases hrows' cmd hcmd with hmem | rfl
  · exact h cmd hmem
  · exact ⟨e.text, e.nonzero, e.fits, rfl⟩

/-- **A line in the history** is the text and nothing else. -/
lemma FinshShell.Inv.pushLine (h : sh.Inv e) : Shown (pushLine sh) e := by
  have hcurrent := h.current
  unfold Finsh.pushLine
  rw [h.historyRow]
  split
  · -- the history is full, the oldest command goes
    rename_i hfull
    obtain ⟨same, hsame⟩ := h.sameAs (i := finshHistoryLines - 1) (by decide)
    rw [hsame, Option.bind_some]
    split
    · exact ⟨sh, rfl, h⟩
    · refine ⟨_, rfl, ⟨h.line, h.position, h.curpos⟩, ⟨?_, ?_, le_refl _, ?_⟩⟩
      · simp only
        rw [List.length_append, List.length_tail, h.rows]
        rfl
      · refine texts_push h.texts e fun cmd hcmd => ?_
        rcases List.mem_append.mp hcmd with hmem | hmem
        · exact .inl (List.mem_of_mem_tail hmem)
        · exact .inr (List.mem_singleton.mp hmem)
      · exact hcurrent.trans h.count
  · rename_i hroom
    obtain ⟨same, hsame⟩ : ∃ same, (if sh.historyCount = 0 then some false
        else Finsh.sameAs sh (sh.historyCount - 1)) = some same := by
      split
      · exact ⟨false, rfl⟩
      · exact h.sameAs (by omega)
    rw [hsame, Option.bind_some]
    split
    · exact ⟨sh, rfl, h⟩
    · refine ⟨_, rfl, ⟨h.line, h.position, h.curpos⟩, ⟨?_, ?_, ?_, ?_⟩⟩
      · simp only
        rw [List.length_set, h.rows]
      · exact texts_push h.texts e fun cmd hcmd => List.mem_or_eq_of_mem_set hcmd
      · exact Nat.lt_of_not_le hroom
      · exact Nat.le_succ_of_le hcurrent

lemma FinshShell.Inv.shellPushHistory (h : sh.Inv e) : Shown (shellPushHistory sh) e := by
  obtain ⟨sh', hpush, h'⟩ : Shown (if sh.linePosition ≠ 0 then Finsh.pushLine sh else some sh) e := by
    split
    · exact h.pushLine
    · exact ⟨sh, rfl, h⟩
  unfold Finsh.shellPushHistory
  rw [hpush]
  exact ⟨_, rfl, ⟨h'.line, h'.position, h'.curpos⟩, ⟨h'.rows, h'.texts, h'.count, le_refl _⟩⟩

/-- **The enter key** leaves an empty line. -/
lemma FinshShell.Inv.enterKey (h : sh.Inv e) :
    Shown (enterKey msh sh) (Edit.ofText [] List.not_mem_nil (Nat.zero_le _)) := by
  obtain ⟨sh', hpush, h'⟩ := h.shellPushHistory
  have hlt : sh'.linePosition < sh'.line.length := by
    rw [h'.position, h'.length_line]
    exact e.lt
  unfold Finsh.enterKey
  simp only [hpush, Option.bind_eq_bind, Option.bind_some]
  rw [if_pos hlt]
  exact ⟨_, rfl, ⟨rfl, rfl, rfl⟩, ⟨h'.rows, h'.texts, h'.count, h'.current⟩⟩

end N32L43x.Finsh
