import ModalEditor.Editor.Dispatch

/-!
# Commands on line ranges

Commands that whoever runs the editor has read from a command line. They act on ranges of rows, are
one change each, and run in normal mode only.
-/

namespace ModalEditor

/-- A range of rows, both ends included. It holds a row at least. -/
structure LineRange where
  first : Nat
  last : Nat
  first_le_last : first ≤ last
  deriving DecidableEq, Repr

namespace LineRange

/-- The range between two rows, whichever comes first. -/
def between (a b : Nat) : LineRange :=
  ⟨min a b, max a b, by omega⟩

/-- The range as far as the text reaches. -/
def clamp (r : LineRange) (d : Document) : LineRange :=
  ⟨min r.first d.lastRow, min r.last d.lastRow, by have := r.first_le_last; omega⟩

/-- How many rows the range holds. -/
def rowCount (r : LineRange) : Nat :=
  r.last - r.first + 1

/-- The subtraction loses nothing. -/
theorem first_add_rowCount (r : LineRange) : r.first + r.rowCount = r.last + 1 := by
  have hle := r.first_le_last
  rw [rowCount]
  omega

end LineRange

/-- A command on a range of rows. -/
inductive ExCommand where
  | delete (range : LineRange) (register : Option Char)
  | yank (range : LineRange) (register : Option Char)
  /-- Puts `edit` of each line in its place. -/
  | substitute (range : LineRange) (edit : Text → Text)
  | join (range : LineRange)
  | gotoLine (row : Nat)
  | setMark (name : Char) (row : Nat)

namespace Document

/-- What is known while lines are substituted one after the other. -/
structure Substitution where
  document : Document
  /-- By how many rows the lines that follow have moved down. -/
  shift : Nat := 0
  /-- The last row of the latest line that was changed. -/
  lastChanged : Option Nat := none

/-- Substitutes one line. A line that stays as it is is not touched. -/
def substituteRow (edit : Text → Text) (s : Substitution) (row : Nat) : Substitution :=
  let row := row + s.shift
  let l := s.document.line row
  let edited := edit l
  if edited = l then s
  else
    let added := edited.count '\n'
    { document := (s.document.replaceRange ⟨row, 0⟩ ⟨row, byteSize l⟩ edited).1
      shift := s.shift + added
      lastChanged := some (row + added) }

/-- Puts `edit` of each line of a range in its place, and goes to the first text of the last row that
was changed. None if no line was changed. -/
def substitute (d : Document) (range : LineRange) (edit : Text → Text) : Option Document :=
  let done := (List.range' range.first range.rowCount).foldl
    (substituteRow edit) { document := d }
  done.lastChanged.map fun row =>
    done.document.setCursor (done.document.buffer.firstText ⟨row, 0⟩) .normal

/-- Goes to the first text of a row. The place that is left is recorded as that of a jump. -/
def gotoRow (d : Document) (row : Nat) : Document :=
  let place := d.buffer.firstText ⟨min row d.lastRow, 0⟩
  let d := if place = d.cursor then d else d.recordJump d.cursor
  d.setCursor place .normal

end Document

namespace EditorM

/-- What a command on a range does in normal mode. -/
def performEx (command : ExCommand) : EditorM Unit := do
  let d := (← get).document
  match command with
  | .delete range register =>
    let range := range.clamp d
    deleteRange (.lines range.first range.last) register false
  | .yank range register =>
    let range := range.clamp d
    let registers ←
      ofExcept ((← get).registers.yank register (d.capture (.lines range.first range.last)))
    modify fun e => { e with registers }
  | .substitute range edit => modifyDocument? (·.substitute (range.clamp d) edit)
  | .join range =>
    let range := range.clamp d
    modifyDocument? (·.joinLines range.first range.rowCount true)
  | .gotoLine row => modify (·.mapDocument (·.gotoRow row))
  | .setMark name row => setMarkAt name ⟨min row d.lastRow, 0⟩

/-- A command on a range, as one change. -/
def runEx (command : ExCommand) : EditorM Unit := do
  match (← get).mode with
  | .normal => asOneChange (performEx command)
  | mode => throw (.invalidTransition mode .enterCommandLine)

end EditorM

/-- Runs a command on a range. -/
def Editor.execute (e : Editor) (command : ExCommand) : Editor × Outcome :=
  (EditorM.runEx command).observe e

end ModalEditor
