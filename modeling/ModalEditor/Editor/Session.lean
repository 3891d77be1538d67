import ModalEditor.Editor.Typing

/-!
# Beginning and ending a session

Typing begins with a command that enters insert mode or replace mode, and ends with the escape key.
All that happens between is one change of the document: an undo takes back the text that was typed
together with what the command deleted.
-/

namespace ModalEditor

/-- Puts the cursor where typing begins. -/
def Document.startInsert (d : Document) : InsertVariant → Document
  | .insert | .change => d
  | .append =>
    d.setCursor ⟨d.cursor.row, nextBoundary (d.line d.cursor.row) d.cursor.col⟩ .insert
  | .insertAtFirstText => d.setCursor (d.buffer.firstText d.cursor) .insert
  | .appendAtLineEnd => d.setCursor ⟨d.cursor.row, d.buffer.lineSize d.cursor.row⟩ .insert
  | .openBelow => d.openLine true
  | .openAbove => d.openLine false

/-- Puts the cursor where it rests after typing: on the cluster before it. -/
def Document.finishInsert (d : Document) : Document :=
  let col := if 0 < d.cursor.col then prevBoundary (d.line d.cursor.row) d.cursor.col else 0
  (d.setCursor ⟨d.cursor.row, col⟩ .normal).endChange.1

/-- The text that typed keys leave behind, without regard to what was there before. -/
def Edit.typedText (typed : List Edit) : Text :=
  typed.foldl
    (fun t edit => match edit with
      | .insertChar c => t ++ [c]
      | .newline => t ++ ['\n']
      | .tab => t ++ ['\t']
      | .backspace => t.dropLast
      | .deleteUnder | .move _ => t)
    []

namespace Session

/-- The change that a session amounts to. -/
def toChange (s : Session) : Change :=
  match s.origin with
  | .insert variant => .insert variant s.count s.typed
  | .replace => .replace s.count s.typed
  | .change c => c.withTyped s.typed

/-- Does every repetition of the text begin on a line of its own? -/
def opensLines (s : Session) : Bool :=
  s.origin == .insert .openBelow || s.origin == .insert .openAbove

/-- Puts the text in once more. -/
def again (s : Session) (e : Editor) : Editor :=
  s.typed.foldl .applyEdit (if s.opensLines then e.mapDocument (·.openLine true) else e)

end Session

namespace EditorM

/-- Begins typing in insert mode. -/
def startInsert (variant : InsertVariant) (count : Nat) (origin : SessionOrigin) :
    EditorM Unit := do
  transition (.enterInsert variant)
  modify fun e =>
    { e.mapDocument fun d => d.beginChange.startInsert variant with
      session := some (.start origin count) }

/-- Enters insert mode. -/
def enterInsert (variant : InsertVariant) (count : Nat) : EditorM Unit :=
  startInsert variant count (.insert variant)

/-- Enters replace mode. -/
def enterReplace (count : Nat) : EditorM Unit := do
  transition .enterReplace
  modify fun e =>
    { e.mapDocument .beginChange with session := some (.start .replace count) }

/-- Ends typing: puts the text in as often as the count says, remembers it in the register `.`,
steps back one cluster, and records the change. -/
def finishSession : EditorM Unit := do
  let session := (← get).session
  modify fun e => match session with
    | some s => { Nat.repeat s.again (s.count - 1) e with session := none }
    | none => e
  let typed := (session.map (·.typed)).getD []
  modify fun e => { e with registers := e.registers.setLastInsert (Edit.typedText typed) }
  let document := (← get).document.finishInsert
  transition .escape
  modify fun e =>
    match session with
    | some s => { e with document }.record s.toChange
    | none => { e with document }

/-- The escape key, which leads back to normal mode from every other mode. -/
def escape : EditorM Unit := do
  match (← get).mode with
  | .normal => return
  | .insert _ | .replace => finishSession
  | .visual _ => do
    transition .escape
    modify fun e => { e.mapDocument (·.clampCursor .normal) with selection := none }
  | .commandLine => do
    transition .escape
    modify fun e => { e with commandLine := .closed }
  | .replaceSingle => transition .escape

end EditorM

end ModalEditor
