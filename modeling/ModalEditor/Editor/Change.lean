import ModalEditor.Command.Action
import ModalEditor.Selection

/-!
# Changes that can be repeated

What is remembered of a command that changed the text, so that `.` can do it again at another place:
the command with its count and register, and what was typed in the insert mode that it led to. Of an
edit on a selection the size of the selection is remembered, not its place.
-/

namespace ModalEditor

/-- The size of a selected range. -/
inductive VisualShape where
  /-- Characters that end `rows` rows below the first one. On a single row `size` is the number of
  clusters; otherwise it is the byte offset at which the range ends on its last row. -/
  | chars (rows size : Nat)
  | lines (rows : Nat)
  | block (rows width : Nat)
  deriving DecidableEq, Repr

namespace VisualShape

/-- The size of a range. -/
def ofRange (d : Document) : TextRange → VisualShape
  | .chars first past =>
    if first.row = past.row then
      .chars 0 (clusters (sliceBytes (d.line first.row) first.col past.col)).length
    else .chars (past.row - first.row) past.col
  | .lines first last => .lines (last - first + 1)
  | .block top bottom left right => .block (bottom - top + 1) (right - left)

/-- The range of this size that begins at the cursor, as far as the text reaches. -/
def place (d : Document) : VisualShape → TextRange
  | .chars 0 size =>
    .chars d.cursor ⟨d.cursor.row, Nat.repeat (nextBoundary (d.line d.cursor.row)) size d.cursor.col⟩
  | .chars rows size =>
    let row := min (d.cursor.row + rows) d.lastRow
    .chars d.cursor ⟨row, min size (d.buffer.lineSize row)⟩
  | .lines rows => .lines d.cursor.row (min (d.cursor.row + max rows 1 - 1) d.lastRow)
  | .block rows width =>
    let left := columnOf (d.line d.cursor.row) d.cursor.col
    .block d.cursor.row (min (d.cursor.row + max rows 1 - 1) d.lastRow) left (left + width)

end VisualShape

/-- An edit on a selection. -/
inductive VisualEdit where
  | delete
  | change
  | join (spaced : Bool)
  | replace (c : Char)
  | put (count : Nat)
  deriving DecidableEq, Repr

/-- A change that can be repeated. -/
inductive Change where
  /-- An operator; `typed` is what was typed after it. -/
  | operate (op : Operator) (target : OperatorTarget) (count : Option Nat) (register : Option Char)
    (typed : List Edit)
  /-- An edit on a selection; `typed` is what was typed after it. -/
  | visual (edit : VisualEdit) (shape : VisualShape) (register : Option Char) (typed : List Edit)
  | insert (variant : InsertVariant) (count : Nat) (typed : List Edit)
  | replace (count : Nat) (typed : List Edit)
  | put (placement : Placement) (count : Nat) (register : Option Char)
  | join (count : Nat) (spaced : Bool)
  | replaceChar (c : Char) (count : Nat)
  deriving DecidableEq, Repr

namespace Change

/-- The change with the text that was typed after it. -/
def withTyped (typed : List Edit) : Change → Change
  | .operate op target count register _ => .operate op target count register typed
  | .visual edit shape register _ => .visual edit shape register typed
  | .insert variant count _ => .insert variant count typed
  | .replace count _ => .replace count typed
  | c => c

/-- The change with another count. An edit on a selection keeps the size of the selection. -/
def withCount (n : Nat) : Change → Change
  | .operate op target _ register typed => .operate op target (some n) register typed
  | .insert variant _ typed => .insert variant n typed
  | .replace _ typed => .replace n typed
  | .put placement _ register => .put placement n register
  | .join _ spaced => .join n spaced
  | .replaceChar c _ => .replaceChar c n
  | c@(.visual ..) => c

end Change

end ModalEditor
