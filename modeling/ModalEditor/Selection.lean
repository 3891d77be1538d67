import ModalEditor.Buffer.Basic
import ModalEditor.Mode.Basic

/-!
# Selections and ranges

A visual selection is an anchor that stays and a cursor that moves. Its kind decides which part of
the buffer the two stand for. A range is such a part in the form that operators take.
-/

namespace ModalEditor

/-- A part of a buffer for an operator to act on. -/
inductive TextRange where
  /-- The characters from `first` up to but without `past`. -/
  | chars (first past : Position)
  /-- The rows from `first` to `last`. -/
  | lines (first last : Nat)
  /-- On the rows from `top` to `bottom`, the display columns from `left` up to but without
  `right`. -/
  | block (top bottom left right : Nat)
  deriving DecidableEq, Repr

/-- The first and the last row of a range. -/
def TextRange.rows : TextRange → Nat × Nat
  | .chars first past => (first.row, past.row)
  | .lines first last => (first, last)
  | .block top bottom _ _ => (top, bottom)

/-! ## Rectangles on a line -/

/-- Where the clusters that reach beyond display column `left` begin. A line that ends before that,
or reaches `right` first, has them at its end. -/
def blockStart : List Cluster → (left right : Nat) → Nat
  | [], _, _ => 0
  | g :: gs, left, right =>
    if left < clusterWidth g then 0
    else if right = 0 then byteSize (g :: gs).flatten
    else byteSize g + blockStart gs (left - clusterWidth g) (right - clusterWidth g)

/-- Where the clusters begin that start at display column `right` or beyond. -/
def blockEnd : List Cluster → (right : Nat) → Nat
  | [], _ => 0
  | g :: gs, right => if right = 0 then 0 else byteSize g + blockEnd gs (right - clusterWidth g)

/-- The byte offsets between which lie the clusters of the line that overlap the display columns from
`left` up to but without `right`. -/
def blockBytes (l : Text) (left right : Nat) : Nat × Nat :=
  let first := blockStart (clusters l) left right
  (first, max first (blockEnd (clusters l) right))

/-- The display columns of the cluster at a position; one column behind the end of the line. -/
def Buffer.columnsAt (b : Buffer) (p : Position) : Nat × Nat :=
  let l := b.line p.row
  let left := columnOf l p.col
  (left, left + ((clusterAt l p.col).map clusterWidth).getD 1)

/-! ## Selections -/

/-- A visual selection. -/
structure Selection where
  kind : VisualKind
  /-- The end that stays. -/
  anchor : Position
  /-- The end that moves. -/
  cursor : Position
  deriving DecidableEq, Repr

namespace Selection

/-- A selection that begins at the cursor. -/
def start (kind : VisualKind) (p : Position) : Selection :=
  ⟨kind, p, p⟩

/-- The selection with its cursor elsewhere. -/
def extend (s : Selection) (p : Position) : Selection :=
  { s with cursor := p }

/-- The selection with its ends exchanged. -/
def swap (s : Selection) : Selection :=
  { s with anchor := s.cursor, cursor := s.anchor }

/-- The end that comes first in the text, and the other. -/
def bounds (s : Selection) : Position × Position :=
  if s.cursor < s.anchor then (s.cursor, s.anchor) else (s.anchor, s.cursor)

/-- The range of the selection. A run of characters takes in the cluster under its far end, or the
line break when that end rests on one. A rectangle takes in the columns of both ends. -/
def resolve (s : Selection) (b : Buffer) : TextRange :=
  let (first, last) := s.bounds
  match s.kind with
  | .line => .lines first.row last.row
  | .char =>
    let first := b.clamp first
    let last := b.clamp last
    if b.lineSize last.row ≤ last.col ∧ last.row < b.lastRow then .chars first ⟨last.row + 1, 0⟩
    else .chars first ⟨last.row, nextBoundary (b.line last.row) last.col⟩
  | .block =>
    let a := b.columnsAt s.anchor
    let c := b.columnsAt s.cursor
    .block first.row last.row (min a.1 c.1) (max a.2 c.2)

end Selection

end ModalEditor
