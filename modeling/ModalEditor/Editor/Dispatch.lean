import ModalEditor.Editor.CommandLine
import ModalEditor.Editor.Move
import ModalEditor.Editor.Repeat

/-!
# Doing what an action says

Every action is carried out by a command. The outcome tells what it changed; a command that failed is
reported there, and does not end anything.
-/

namespace ModalEditor

/-- What came of an action. -/
structure Outcome where
  /-- Something that can be seen is different: the text, the cursor, the mode, the selection, the
  command line, or the command that is being typed. -/
  dirty : Bool := false
  /-- The text was changed. -/
  changed : Bool := false
  /-- Why the command failed, if it did. -/
  notice : Option EditorError := none
  /-- The command line that was submitted. -/
  submitted : Option Text := none
  deriving DecidableEq, Repr

/-- What can be seen of an editor from outside. -/
structure Appearance where
  revision : Nat
  cursor : Position
  mode : Mode
  selection : Option Selection
  commandLine : CommandLine
  deriving DecidableEq, Repr

/-- What can be seen of the editor. The revision stands for the text. -/
def Editor.appearance (e : Editor) : Appearance where
  revision := e.document.revision
  cursor := e.document.cursor
  mode := e.mode
  selection := e.selection
  commandLine := e.commandLine

namespace EditorM

/-- The editor after a command, and what came of it. -/
def observe (act : EditorM Unit) (e : Editor) : Editor × Outcome :=
  let (after, notice) : Editor × Option EditorError :=
    match act e with
    | .ok _ after => (after, none)
    | .error reason after => (after, some reason)
  (after,
    { dirty := e.appearance != after.appearance
      changed := e.document.revision != after.document.revision
      notice })

/-- The command of an action. -/
def perform (a : Action) : EditorM Unit :=
  match a with
  | .motion m count => move m count
  | .operate op target count register => operate op target count register
  | .put placement count register => put placement count register
  | .join count spaced => join count spaced
  | .beginReplaceSingle => beginReplaceSingle
  | .replaceChar c count => replaceChar c count
  | .enterInsert variant count => enterInsert variant count
  | .enterReplace count => enterReplace count
  | .enterVisual kind => toggleVisual kind
  | .undo count => undo count
  | .redo count => redo count
  | .repeatLast count => repeatLast count
  | .setMark name => setMark name
  | .jumpBack count => jumpBack count
  | .jumpForward count => jumpForward count
  | .commandStart count => startCommandLine count
  | .commandChar c => typeCommand c
  | .commandBackspace => eraseCommand
  | .commandSubmit => submitCommand
  | .visualSwap => swapSelection
  | .visualObject o count => selectObject o count
  | .visualOperate op extent register => operateSelection op extent register
  | .visualJoin spaced => joinSelection spaced
  | .visualReplace c => fillSelection c
  | .visualPut count register => putOverSelection count register
  | .edit edit => type edit
  | .escape => escape
  | .rejected reason => throw reason

end EditorM

namespace Editor

/-- Does what an action says. A command line that was submitted is part of the outcome. -/
def dispatch (e : Editor) (a : Action) : Editor × Outcome :=
  let (after, outcome) := (EditorM.perform a).observe e
  let submitted :=
    if a = .commandSubmit ∧ outcome.notice = none then some e.commandLine.content else none
  (after, { outcome with submitted })

end Editor

end ModalEditor
