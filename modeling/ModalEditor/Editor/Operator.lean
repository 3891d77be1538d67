import ModalEditor.Command.Span
import ModalEditor.Editor.Session
import ModalEditor.TextObject.Resolve

/-!
# Operators

Yanking, deleting and changing a range. What the range holds is written to a register before the
document is touched, so a register that cannot be written leaves the document alone.
-/

namespace ModalEditor

/-- Is there nothing in the range? Lines and rectangles count as something. -/
def TextRange.isEmpty : TextRange → Bool
  | .chars first past => !(first < past)
  | .lines .. | .block .. => false

namespace Document

/-- What a register keeps of a range. -/
def capture (d : Document) : TextRange → RegisterContent
  | .chars first past => .ofChars (d.buffer.slice first past)
  | .lines first last => .ofLines (d.buffer.rows first (min last d.lastRow))
  | .block top bottom left right => .ofBlock (d.blockText top bottom left right) (right - left)

/-- The first corner of a rectangle. -/
def blockOrigin (d : Document) (top left : Nat) : Position :=
  ⟨top, offsetOfColumn (d.line top) left⟩

/-- Where a range that was yanked begins. Of whole lines it is the first, in the column of the
cursor. -/
def yankOrigin (d : Document) : TextRange → Position
  | .chars first _ => first
  | .lines first _ => ⟨first, d.cursor.col⟩
  | .block top _ left _ => d.blockOrigin top left

/-- Takes a range out, and goes to where it was. With `change`, text is to take its place: of whole
lines an empty one stays, and the cursor may rest at the end of the line. -/
def cutRange (d : Document) (change : Bool) (range : TextRange) : Document :=
  let context : CursorContext := if change then .insert else .normal
  match range with
  | .chars first past => (d.deleteRange first past).1.setCursor first context
  | .lines first last =>
    if change then
      let d := d.setLine first []
      let d := if first < last then (d.deleteLines (first + 1) last).1 else d
      d.setCursor ⟨first, 0⟩ context
    else
      let d := (d.deleteLines first last).1
      d.setCursor (d.buffer.firstText ⟨min first d.lastRow, 0⟩) context
  | .block top bottom left right =>
    let d := (d.deleteBlock top bottom left right).1
    d.setCursor (d.blockOrigin top left) context

/-- Takes a range out as one change. -/
def cut (d : Document) (change : Bool) (range : TextRange) : Document :=
  (d.beginChange.cutRange change range).endChange.1

end Document

namespace EditorM

/-- Remembers the find that a motion is, if it is one. -/
def noteFind (m : Motion) : EditorM Unit :=
  match m with
  | .find f => modify fun e => { e with lastFind := some f }
  | _ => pure ()

/-- Remembers a change to repeat. -/
def record (c : Change) : EditorM Unit :=
  modify (·.record c)

/-- The range on which an operator acts. -/
def resolveTarget (op : Operator) (target : OperatorTarget) (count : Option Nat) :
    EditorM TextRange := do
  match target with
  | .motion m => do
    noteFind m
    let e ← get
    ofExcept (Span.resolve e.document op m count e.lastFind)
  | .lines =>
    let d := (← get).document
    return .lines d.cursor.row (min (d.cursor.row + max (count.getD 1) 1 - 1) d.lastRow)
  | .object o =>
    let d := (← get).document
    ofExcept (o.resolve d.buffer d.cursor (count.getD 1))

/-- Yanks a range, and goes to its beginning. -/
def yankRange (range : TextRange) (register : Option Char) : EditorM Unit := do
  if range.isEmpty then return
  let e ← get
  let registers ← ofExcept (e.registers.yank register (e.document.capture range))
  set ({ e with registers }.setCursor (e.document.yankOrigin range) .normal)

/-- Deletes a range into a register. With `change`, text is to take its place. -/
def deleteRange (range : TextRange) (register : Option Char) (change : Bool) : EditorM Unit := do
  if range.isEmpty then return
  let e ← get
  let registers ← ofExcept (e.registers.delete register (e.document.capture range))
  set { e with registers, document := e.document.cut change range }

/-- Deletes a range and begins typing what takes its place. The change is `record`, once the text is
known. -/
def changeRange (range : TextRange) (register : Option Char) (record : Change) : EditorM Unit :=
  asOneChange do
    deleteRange range register true
    startInsert .change 1 (.change record)

/-- Applies an operator to a range. A deletion and a change can be repeated as `record`. -/
def operateOn (op : Operator) (range : TextRange) (register : Option Char) (change : Change) :
    EditorM Unit := do
  match op with
  | .yank => yankRange range register
  | .delete => do
    deleteRange range register false
    record change
  | .change => changeRange range register change

/-- Applies an operator to its target. -/
def operate (op : Operator) (target : OperatorTarget) (count : Option Nat)
    (register : Option Char) : EditorM Unit := do
  let range ← resolveTarget op target count
  operateOn op range register (.operate op target count register [])

end EditorM

end ModalEditor
