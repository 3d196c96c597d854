import N32L43x.Lib.CString

/-!
The line editor of the shell (`finsh/shell.c`) and the completion of commands and options
(`finsh/msh.c`).  Accesses to the line and to the history are checked: `none` is one that leaves the
array.  What is printed is left out, except that a string is read up to its end for it.
-/

namespace N32L43x.Finsh

open N32L43x.Lib.CString

/-- `FINSH_CMD_SIZE`. -/
def finshCmdSize : ℕ := 80

/-- `FINSH_HISTORY_LINES`. -/
def finshHistoryLines : ℕ := 5

/-! ### Completion -/

/-- A string: the bytes before its end. -/
abbrev CStr := {s : List UInt8 // 0 ∉ s}

/-- `struct finsh_syscall`, with the names of its options, none if it has no table of them. -/
structure FinshSyscall where
  name : CStr
  opt : List CStr

/-- The commands that are registered. -/
structure Msh where
  syscallTable : List FinshSyscall
  /-- `msh_exec`: whether the echo is on after a command; the line is cleared behind it -/
  mshExec : List UInt8 → ℕ → Bool → Bool

/-- `str_common`. -/
def strCommon : List UInt8 → List UInt8 → ℕ
  | c :: str1, d :: str2 => if c = d then strCommon str1 str2 + 1 else 0
  | _, _ => 0

/-- `name_ptr` and `min_length` after one more name. -/
def matchName (str : List UInt8) : Option CStr × ℕ → CStr → Option CStr × ℕ
  | (namePtr, minLength), name =>
    if str.isPrefixOf name.1 then
      let (namePtr, minLength) :=
        if minLength = 0 then (name, name.1.length) else (namePtr.getD name, minLength)
      let length := strCommon namePtr.1 name.1
      (some namePtr, if length < minLength then length else minLength)
    else (namePtr, minLength)

/-- The name a string is completed from and how much of it all the names that match share. -/
def completion (names : List CStr) (str : List UInt8) : Option (CStr × ℕ) :=
  match names.foldl (matchName str) (none, 0) with
  | (none, _) => none
  | (some namePtr, minLength) => some (namePtr, minLength)

/-- The string that starts at a place of the line is completed; its end is not written. -/
def complete (names : List CStr) (line : List UInt8) (off : ℕ) : Option (List UInt8) := do
  let _ ← strlen (line.drop off)
  match completion names (cString (line.drop off)) with
  | none => some line
  | some (namePtr, minLength) => strncpy line off namePtr.1 minLength

/-- `msh_auto_complete`. -/
def mshAutoComplete (msh : Msh) (line : List UInt8) : Option (List UInt8) := do
  let length ← strlen line
  if length = 0 then some line
  else complete (msh.syscallTable.map FinshSyscall.name) line 0

/-- `msh_get_cmd`. -/
def mshGetCmd (msh : Msh) (cmd : List UInt8) : Option FinshSyscall :=
  msh.syscallTable.find? fun index => index.name.1 = cmd

/-- `msh_get_cmd_opt`. -/
def mshGetCmdOpt (msh : Msh) (optStr : List UInt8) : List CStr :=
  match mshGetCmd msh (optStr.takeWhile (· ≠ 0x20)) with
  | none => []
  | some index => index.opt

/-- `msh_get_argc`, with the place of the last argument. -/
def mshGetArgc : List UInt8 → ℕ → ℕ × ℕ → ℕ × ℕ
  | c :: d :: str, i, (argc, lastArgv) =>
    mshGetArgc (d :: str) (i + 1) (if c = 0x20 ∧ d ≠ 0x20 then (argc + 1, i + 1) else (argc, lastArgv))
  | _, _, r => r

/-- The options of the command on the line, when it is time to complete or to list them. -/
def mshOpt (msh : Msh) (str : List UInt8) (argc : ℕ) : Option (List CStr) :=
  if argc ≠ 0 then some (mshGetCmdOpt msh str)
  else if mshGetCmd msh str = none then
    -- the read of `prefix[strlen(prefix) - 1]`
    str.getLast?.map fun c => if c = 0x20 then mshGetCmdOpt msh str else []
  else some []

/-- `msh_opt_auto_complete`. -/
def mshOptAutoComplete (msh : Msh) (line : List UInt8) : Option (List UInt8) := do
  let _ ← strlen line
  let (argc, lastArgv) := mshGetArgc (cString line) 0 (0, 0)
  let opt ← mshOpt msh (cString line) argc
  if argc = 1 ∧ opt ≠ [] then complete opt line lastArgv else some line

/-- `shell_auto_complete`. -/
def shellAutoComplete (msh : Msh) (line : List UInt8) : Option (List UInt8) := do
  let line ← mshAutoComplete msh line
  let line ← mshOptAutoComplete msh line
  let _ ← strlen line
  some line

/-! ### The shell -/

inductive InputStat
  | waitNormal
  | waitSpecKey
  | waitFuncKey
deriving DecidableEq

/-- `struct finsh_shell`. -/
structure FinshShell where
  stat : InputStat
  echoMode : Bool
  currentHistory : ℕ
  historyCount : ℕ
  cmdHistory : List (List UInt8)
  line : List UInt8
  linePosition : ℕ
  lineCurpos : ℕ

/-- The shell when `finsh_thread_entry` waits for the first byte. -/
def FinshShell.init : FinshShell where
  stat := .waitNormal
  echoMode := true
  currentHistory := 0
  historyCount := 0
  cmdHistory := List.replicate finshHistoryLines (List.replicate finshCmdSize 0)
  line := List.replicate (finshCmdSize + 1) 0
  linePosition := 0
  lineCurpos := 0

/-- A value kept as `rt_uint16_t`. -/
def uint16 (n : ℕ) : ℕ := n % 0x10000

/-- The decrement of an `rt_uint16_t`. -/
def uint16Pred (n : ℕ) : ℕ := uint16 (n + 0xffff)

/-- The line becomes a command of the history. -/
def recallHistory (sh : FinshShell) (currentHistory : ℕ) : Option FinshShell := do
  let cmd ← sh.cmdHistory[currentHistory]?
  let line ← memcpy sh.line 0 cmd finshCmdSize
  let length ← strlen line
  some { sh with
    currentHistory := currentHistory
    line := line
    linePosition := uint16 length
    lineCurpos := uint16 length }

/-- The up key. -/
def upKey (sh : FinshShell) : Option FinshShell :=
  if 0 < sh.currentHistory then recallHistory sh (sh.currentHistory - 1)
  else some { sh with currentHistory := 0 }

/-- The down key. -/
def downKey (sh : FinshShell) : Option FinshShell :=
  -- without a history the difference of the source is -1
  if sh.currentHistory + 1 < sh.historyCount then recallHistory sh (sh.currentHistory + 1)
  else if sh.historyCount ≠ 0 then recallHistory sh (sh.historyCount - 1)
  else some sh

/-- The left key. -/
def leftKey (sh : FinshShell) : FinshShell :=
  if sh.lineCurpos ≠ 0 then { sh with lineCurpos := uint16Pred sh.lineCurpos } else sh

/-- The right key, which prints the byte under the cursor. -/
def rightKey (sh : FinshShell) : Option FinshShell :=
  if sh.lineCurpos < sh.linePosition then do
    let _ ← sh.line[sh.lineCurpos]?
    some { sh with lineCurpos := uint16 (sh.lineCurpos + 1) }
  else some sh

/-- The tab key. -/
def tabKey (msh : Msh) (sh : FinshShell) : Option FinshShell := do
  let line ← shellAutoComplete msh sh.line
  let length ← strlen line
  some { sh with line := line, linePosition := uint16 length, lineCurpos := uint16 length }

/-- The backspace key. -/
def backspaceKey (sh : FinshShell) : Option FinshShell :=
  if sh.lineCurpos = 0 then some sh
  else
    let linePosition := uint16Pred sh.linePosition
    let lineCurpos := uint16Pred sh.lineCurpos
    let sh := { sh with linePosition := linePosition, lineCurpos := lineCurpos }
    if lineCurpos < linePosition then do
      let line ← memmove sh.line lineCurpos (lineCurpos + 1) (linePosition - lineCurpos)
      let line ← store line linePosition 0
      let _ ← strlen (line.drop lineCurpos)
      some { sh with line := line }
    else do
      let line ← store sh.line linePosition 0
      some { sh with line := line }

/-- The line as it is put in the history. -/
def historyRow (sh : FinshShell) : Option (List UInt8) :=
  memcpy (List.replicate finshCmdSize 0) 0 sh.line sh.linePosition

/-- Whether the line is a command of the history. -/
def sameAs (sh : FinshShell) (index : ℕ) : Option Bool :=
  (sh.cmdHistory[index]?).bind fun cmd => memcmp cmd sh.line finshCmdSize

/-- `shell_push_history`, for a line that is not empty. -/
def pushLine (sh : FinshShell) : Option FinshShell :=
  if finshHistoryLines ≤ sh.historyCount then
    (sameAs sh (finshHistoryLines - 1)).bind fun same =>
      if same then some sh
      else
        (historyRow sh).map fun row =>
          { sh with cmdHistory := sh.cmdHistory.tail ++ [row], historyCount := finshHistoryLines }
  else
    (if sh.historyCount = 0 then some false else sameAs sh (sh.historyCount - 1)).bind fun same =>
      if same then some sh
      else
        (historyRow sh).map fun row =>
          { sh with
            cmdHistory := sh.cmdHistory.set sh.historyCount row
            historyCount := sh.historyCount + 1 }

/-- `shell_push_history`. -/
def shellPushHistory (sh : FinshShell) : Option FinshShell :=
  (if sh.linePosition ≠ 0 then pushLine sh else some sh).map fun sh =>
    { sh with currentHistory := sh.historyCount }

/-- The enter key.  `msh_exec` looks at the command and at the byte behind it. -/
def enterKey (msh : Msh) (sh : FinshShell) : Option FinshShell := do
  let sh ← shellPushHistory sh
  if sh.linePosition < sh.line.length then
    some { sh with
      echoMode := msh.mshExec sh.line sh.linePosition sh.echoMode
      line := List.replicate (finshCmdSize + 1) 0
      linePosition := 0
      lineCurpos := 0 }
  else none

/-- The line with a character at the cursor. -/
def lineWith (sh : FinshShell) (ch : UInt8) : Option (List UInt8) :=
  if sh.lineCurpos < sh.linePosition then do
    let line ← memmove sh.line (sh.lineCurpos + 1) sh.lineCurpos (sh.linePosition - sh.lineCurpos)
    let line ← store line sh.lineCurpos ch
    let _ ← if sh.echoMode then strlen (line.drop sh.lineCurpos) else some 0
    some line
  else store sh.line sh.linePosition ch

/-- A large line is discarded. -/
def discardLarge (sh : FinshShell) : FinshShell :=
  if finshCmdSize ≤ sh.linePosition then { sh with linePosition := 0 } else sh

/-- The end of the loop: both positions go on, or the command line is cleared. -/
def nextPosition (sh : FinshShell) : FinshShell :=
  let linePosition := uint16 (sh.linePosition + 1)
  let lineCurpos := uint16 (sh.lineCurpos + 1)
  if finshCmdSize ≤ linePosition then { sh with linePosition := 0, lineCurpos := 0 }
  else { sh with linePosition := linePosition, lineCurpos := lineCurpos }

/-- A character that is no key. -/
def normalCharacter (sh : FinshShell) (ch : UInt8) : Option FinshShell :=
  let sh := discardLarge sh
  (lineWith sh ch).map fun line => nextPosition { sh with line := line }

/-- What `finsh_thread_entry` does with a byte that is not part of an escape sequence. -/
def plainByte (msh : Msh) (sh : FinshShell) (ch : UInt8) : Option FinshShell :=
  if ch = 0x00 ∨ ch = 0xff then some sh
  else if ch = 0x09 then tabKey msh sh
  else if ch = 0x7f ∨ ch = 0x08 then backspaceKey sh
  else if ch = 0x0d ∨ ch = 0x0a then enterKey msh sh
  else normalCharacter sh ch

/-- `finsh_thread_entry`, from one byte to the next. -/
def finshThreadEntry (msh : Msh) (sh : FinshShell) (ch : UInt8) : Option FinshShell :=
  if ch = 0x1b then some { sh with stat := .waitSpecKey }
  else
    match sh.stat with
    | .waitSpecKey =>
      if ch = 0x5b then some { sh with stat := .waitFuncKey }
      else plainByte msh { sh with stat := .waitNormal } ch
    | .waitFuncKey =>
      let sh := { sh with stat := .waitNormal }
      if ch = 0x41 then upKey sh
      else if ch = 0x42 then downKey sh
      else if ch = 0x44 then some (leftKey sh)
      else if ch = 0x43 then rightKey sh
      else plainByte msh sh ch
    | .waitNormal => plainByte msh sh ch

end N32L43x.Finsh
