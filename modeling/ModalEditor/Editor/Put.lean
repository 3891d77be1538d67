import ModalEditor.Editor.Operator

/-!
# Putting, joining and replacing

The commands that change the text in one stroke.
-/

namespace ModalEditor

namespace EditorM

/-- What a register holds. Nothing is to be done if it is empty; that is a failure only for a
register that was named, other than the unnamed one. -/
def contentToPut (register : Option Char) : EditorM (Option RegisterContent) := do
  let content ← ofExcept ((← get).registers.get register)
  if content.isEmpty then
    match register with
    | some name => if name = '\x22' then return none else throw (.emptyRegister name)
    | none => return none
  else return some content

/-- Does what may be possible with the document, and fails if it is not. -/
def modifyDocument? (act : Document → Option Document) : EditorM Unit := do
  match act (← get).document with
  | some document => modify fun e => { e with document }
  | none => throw .motionFailed

/-- Puts what a register holds beside the cursor. -/
def put (placement : Placement) (count : Nat) (register : Option Char) : EditorM Unit := do
  match ← contentToPut register with
  | none => return
  | some content => do
    modifyDocument? (·.put content placement count)
    record (.put placement count register)

/-- Joins lines from that of the cursor on. -/
def join (count : Nat) (spaced : Bool) : EditorM Unit := do
  modifyDocument? fun d => d.joinLines d.cursor.row count spaced
  record (.join count spaced)

end EditorM

/-- Puts a character in the place of clusters from the cursor on. A line break takes the place of
all of them together. -/
def Document.replaceUnder (d : Document) (c : Char) (count : Nat) : Option Document :=
  let p := d.cursor
  if c = '\n' then
    (offsetBehind (d.line p.row) (max count 1) p.col).map fun past =>
      (d.replaceRange p ⟨p.row, past⟩ ['\n']).1.setCursor ⟨p.row + 1, 0⟩ .normal
  else d.replaceChars p count c

namespace EditorM

/-- Waits for the character to replace with. -/
def beginReplaceSingle : EditorM Unit :=
  transition .enterReplaceSingle

/-- Replaces clusters with a character. -/
def replaceChar (c : Char) (count : Nat) : EditorM Unit := do
  if (← get).mode = .replaceSingle then transition .replaceCommitted
  modifyDocument? (·.replaceUnder c count)
  record (.replaceChar c count)

end EditorM

end ModalEditor
