import ModalEditor.CommandLine
import ModalEditor.Editor.Change
import ModalEditor.Mode.Transition
import ModalEditor.Register.Basic
import ModalEditor.Settings

/-!
# The editor

A document with everything that commands on it need: registers, mode, selection, command line, and
what they remember of one another.

## Commands

A command (`EditorM`) works on an editor and may fail. A failure does not take back what the command
did before it failed; commands that must not leave anything behind check before they act.
-/

namespace ModalEditor

/-- What a key that was typed in replace mode did to the line. -/
inductive Overwritten where
  /-- It took the place of this text. -/
  | replaced (t : Text)
  /-- It was added at the end of the line. -/
  | appended
  /-- It broke the line. -/
  | lineBreak
  deriving DecidableEq, Repr

/-- What led to typing, and so what will have been the change when typing ends. -/
inductive SessionOrigin where
  | insert (variant : InsertVariant)
  | replace
  /-- A change that wants the text that is typed. -/
  | change (c : Change)
  deriving DecidableEq, Repr

/-- Typing in insert mode or in replace mode. -/
structure Session where
  origin : SessionOrigin
  /-- How often the text is put in when typing ends. -/
  count : Nat
  /-- What was typed. -/
  typed : List Edit := []
  /-- What replace mode wrote over, the latest first. -/
  overwritten : List Overwritten := []
  deriving DecidableEq, Repr

/-- Typing that has just begun. The text is put in at least once. -/
def Session.start (origin : SessionOrigin) (count : Nat) : Session :=
  { origin, count := max count 1 }

/-- An editor. -/
structure Editor where
  document : Document
  registers : Registers := {}
  modes : Modes := {}
  /-- The selection, in visual mode. -/
  selection : Option Selection := none
  commandLine : CommandLine := {}
  settings : Settings := {}
  /-- The latest find, for a motion that repeats it. -/
  lastFind : Option Find := none
  /-- The typing that goes on, in insert mode and in replace mode. -/
  session : Option Session := none
  /-- The latest change, for a command that repeats it. -/
  lastChange : Option Change := none
  /-- A change is being repeated, and not to be recorded once more. -/
  replaying : Bool := false

/-- A command. What it did before it failed stays done. -/
abbrev EditorM := EStateM EditorError Editor

namespace Editor

/-- An editor for a buffer. -/
def ofBuffer (b : Buffer) (settings : Settings) : Editor where
  document := .withBounds b settings.undoBound settings.jumpBound
  modes := .withBound settings.modeBound
  settings := settings

/-- The mode. -/
def mode (e : Editor) : Mode :=
  e.modes.mode

/-- The editor with its document changed. -/
def mapDocument (f : Document → Document) (e : Editor) : Editor :=
  { e with document := f e.document }

/-- The editor with its cursor elsewhere. -/
def setCursor (p : Position) (context : CursorContext) (e : Editor) : Editor :=
  e.mapDocument (·.setCursor p context)

/-- The editor with a change to repeat, unless the change is a repetition itself. -/
def record (c : Change) (e : Editor) : Editor :=
  if e.replaying then e else { e with lastChange := some c }

end Editor

namespace EditorM

/-- The result of a computation that looks at nothing. -/
def ofExcept {α : Type} : Except EditorError α → EditorM α
  | .ok a => pure a
  | .error reason => throw reason

/-- Passes to another mode. Nothing happens if the event leads nowhere. -/
def transition (event : ModeEvent) : EditorM Unit := do
  let modes ← ofExcept ((← get).modes.apply event)
  modify fun e => { e with modes }

/-- A command as a single change of the document, which ends even if the command fails. -/
def asOneChange {α : Type} (act : EditorM α) : EditorM α := fun e =>
  let finish := Editor.mapDocument fun d => d.endChange.1
  match act (e.mapDocument .beginChange) with
  | .ok a e => .ok a (finish e)
  | .error reason e => .error reason (finish e)

/-- A command of which no change is recorded. -/
def unrecorded {α : Type} (act : EditorM α) : EditorM α := fun e =>
  match act { e with replaying := true } with
  | .ok a e => .ok a { e with replaying := false }
  | .error reason e => .error reason { e with replaying := false }

end EditorM

end ModalEditor
