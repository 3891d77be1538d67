import ModalEditor.Editor.Operator

/-!
# Moving, marks, jumps and undo

The commands that a document knows already, with the failures that they report.
-/

namespace ModalEditor

namespace Editor

/-- The editor with its cursor where a motion landed. A motion that is a jump records the place that
it leaves. A selection reaches to the cursor. -/
def landOn (e : Editor) (m : Motion) (landing : Landing) : Editor :=
  let start := e.document.cursor
  let d := if m.isJump ∧ landing.place ≠ start then e.document.recordJump start else e.document
  let d := d.setCursor landing.place .normal
  let d := if landing.sticky.isSome then { d with sticky := landing.sticky } else d
  { e with document := d, selection := e.selection.map (·.extend d.cursor) }

end Editor

namespace EditorM

/-- Moves the cursor. -/
def move (m : Motion) (count : Option Nat) : EditorM Unit := do
  noteFind m
  let e ← get
  let landing ← ofExcept (m.land e.document count e.lastFind false)
  set (e.landOn m landing)

/-- Sets a mark at a position. -/
def setMarkAt (name : Char) (p : Position) : EditorM Unit := do
  match (← get).document.setMark? name p with
  | some document => modify fun e => { e with document }
  | none => throw (.markNotSet name)

/-- Sets a mark at the cursor. -/
def setMark (name : Char) : EditorM Unit := do
  setMarkAt name (← get).document.cursor

/-- Does what can be done to the document. Fails for the given reason if that is nothing. -/
def attempt {α : Type} (act : Document → Document × Option α) (reason : EditorError) :
    EditorM Unit := do
  let (document, done) := act (← get).document
  modify fun e => { e with document }
  if done.isNone then throw reason

/-- Walks back in the jump list. -/
def jumpBack (n : Nat) : EditorM Unit :=
  attempt (·.jumpBack n) .jumpListExhausted

/-- Walks forward in the jump list. -/
def jumpForward (n : Nat) : EditorM Unit :=
  attempt (·.jumpForward n) .jumpListExhausted

/-- Takes back changes. -/
def undo (n : Nat) : EditorM Unit :=
  attempt (·.undo n) .oldestChange

/-- Restores changes that were taken back. -/
def redo (n : Nat) : EditorM Unit :=
  attempt (·.redo n) .newestChange

end EditorM

end ModalEditor
