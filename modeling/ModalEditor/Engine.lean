import ModalEditor.Command.Reader
import ModalEditor.Editor.Ex

/-!
# The engine

An editor behind a keyboard: keys are read one at a time, and each is done with before the next.
-/

namespace ModalEditor

/-- An editor, and the reader of its keys. -/
structure Engine where
  editor : Editor
  reader : KeyReader := {}

namespace Engine

/-- An engine for a buffer. -/
def ofBuffer (b : Buffer) (settings : Settings) : Engine where
  editor := .ofBuffer b settings
  reader := .withBound settings.countBound

/-- Takes a key. -/
def handleKey (engine : Engine) (k : Key) : Engine × Outcome :=
  let (reader, action) := engine.reader.read engine.editor.mode k
  let (editor, outcome) := match action with
    | some a => engine.editor.dispatch a
    | none => (engine.editor, {})
  ({ editor, reader },
    { outcome with dirty := outcome.dirty || engine.reader.typed != reader.typed })

/-- Takes keys one after the other. Gives the outcome of each. -/
def handleKeys (engine : Engine) : List Key → Engine × List Outcome
  | [] => (engine, [])
  | k :: ks =>
    let (engine, outcome) := engine.handleKey k
    let (engine, outcomes) := engine.handleKeys ks
    (engine, outcome :: outcomes)

/-- Runs a command on a range. The command that was being typed is dropped first. -/
def execute (engine : Engine) (command : ExCommand) : Engine × Outcome :=
  let (editor, outcome) := engine.editor.execute command
  ({ editor, reader := engine.reader.reset }, outcome)

/-- The range that is selected, in visual mode. -/
def selection (engine : Engine) : Option TextRange :=
  match engine.editor.mode with
  | .visual _ => engine.editor.selection.map (·.resolve engine.editor.document.buffer)
  | _ => none

end Engine

end ModalEditor
