import ModalEditor.Document.Basic
import ModalEditor.Register.Content
import ModalEditor.Selection

/-!
# Compound mutations

Joining lines, replacing clusters, putting back what a register holds, and working on rectangles.
Those that touch several lines make one change.
-/

namespace ModalEditor

open Unicode

/-- On which side of the cursor text is put back. -/
inductive Placement where
  | before | after
  deriving DecidableEq, Repr

/-- `n` spaces. -/
def spaces (n : Nat) : Text :=
  List.replicate n ' '

/-- The text `n` times over. -/
def repeatText (n : Nat) (t : Text) : Text :=
  (List.replicate n t).flatten

namespace Document

/-! ## Joining -/

/-- Needs the join of the two parts a space between them? Not where one of them is empty, where the
first ends in a blank, or where the second begins with a closing parenthesis. -/
def needsSpace (joined part : Text) : Bool :=
  !joined.isEmpty && !part.isEmpty &&
    joined.getLast? != some ' ' && joined.getLast? != some '\t' && part.head? != some ')'

/-- A line joined to what was joined before. With `spaced` its leading blanks are dropped, and a
space parts it from the text before. -/
def joinPart (spaced : Bool) (joined next : Text) : Text :=
  if spaced then
    let part := next.dropWhile isBlank
    joined ++ (if needsSpace joined part then [' '] else []) ++ part
  else joined ++ next

/-- Joins lines to a text. Gives the result, and the offset at which the last line was joined;
`column` is the answer if there is none. -/
def joinAll (spaced : Bool) : Text → Nat → List Text → Text × Nat
  | joined, column, [] => (joined, column)
  | joined, _, next :: later =>
    joinAll spaced (joinPart spaced joined next) (byteSize joined) later

/-- Joins `n` lines from `row` on, and at least two. Puts the cursor on the last place of joining.
There is nothing to join below the last line. -/
def joinLines (d : Document) (row n : Nat) (spaced : Bool) : Option Document :=
  if d.lastRow ≤ row then none
  else
    let last := min (row + max n 2 - 1) d.lastRow
    let (joined, column) := joinAll spaced (d.line row) 0 (d.buffer.rows (row + 1) last)
    let b := (d.buffer.removeLines (row + 1) last).1.setLine row joined
    some ({ d.recordChange with buffer := b }.setCursor ⟨row, column⟩ .normal)

/-! ## Replacing clusters -/

/-- The offset behind `n` clusters from `col` on, if the line has as many. -/
def offsetBehind (l : Text) : Nat → Nat → Option Nat
  | 0, col => some col
  | n + 1, col => if byteSize l ≤ col then none else offsetBehind l n (nextBoundary l col)

/-- Puts a character in the place of each of `n` clusters from a position on, if the line has as
many. The cursor comes to rest on the last of them. -/
def replaceChars (d : Document) (p : Position) (n : Nat) (c : Char) : Option Document :=
  let n := max n 1
  (offsetBehind (d.line p.row) n p.col).map fun past =>
    let d := (d.replaceRange p ⟨p.row, past⟩ (List.replicate n c)).1
    d.setCursor ⟨p.row, p.col + n * c.utf8Size - c.utf8Size⟩ .normal

/-! ## Putting back -/

/-- Puts a run of characters, `n` times. The cursor comes to rest on the last of them, or on the
first if there are line breaks among them. -/
def putChars (d : Document) (t : Text) (placement : Placement) (n : Nat) : Document :=
  let l := d.line d.cursor.row
  let col :=
    if placement = .after ∧ l ≠ [] then nextBoundary l d.cursor.col
    else min d.cursor.col (byteSize l)
  let payload := repeatText n t
  let (d, past) := d.insertAt ⟨d.cursor.row, col⟩ payload
  if payload.contains '\n' then d.setCursor ⟨d.cursor.row, col⟩ .normal
  else d.setCursor ⟨past.row, prevBoundary (d.line past.row) past.col⟩ .normal

/-- Puts whole lines, `n` times. The cursor goes to the first text of the first of them. -/
def putLines (d : Document) (ls : List Text) (placement : Placement) (n : Nat) : Document :=
  let row := if placement = .after then d.cursor.row + 1 else d.cursor.row
  let d := d.insertLines row (List.replicate n ls).flatten
  d.setCursor (d.buffer.firstText ⟨row, 0⟩) .normal

/-- A row of a rectangle, `n` times, each filled up to `width` columns; the last one only if text
follows. -/
def blockRow (piece : Text) (width n : Nat) (atEnd : Bool) : Text :=
  let filled := piece ++ spaces (width - lineWidth piece)
  if atEnd then repeatText (n - 1) filled ++ (if n = 0 then [] else piece)
  else repeatText n filled

/-- Puts the rows of a rectangle at display column `column`, the first of them on `row`. Lines are
filled up to the column, and empty lines are added at the end as needed. -/
def putRows (column width n : Nat) : Document → Nat → List Text → Document
  | d, _, [] => d
  | d, row, piece :: later =>
    let d := if d.lastRow < row then d.insertLines d.buffer.lineCount [[]] else d
    let l := d.line row
    let l := l ++ spaces (column - lineWidth l)
    let col := offsetOfColumn l column
    let insertion := blockRow piece width n (byteSize l ≤ col)
    putRows column width n (d.setLine row (takeBytes l col ++ insertion ++ dropBytes l col)) (row + 1)
      later

/-- Puts a rectangle, `n` times side by side. The cursor goes to its first corner. -/
def putBlock (d : Document) (rows : List Text) (width : Nat) (placement : Placement) (n : Nat) :
    Document :=
  let p := d.cursor
  let l := d.line p.row
  let behind := if placement = .after then ((clusterAt l p.col).map clusterWidth).getD 0 else 0
  let column := columnOf l p.col + behind
  let first := offsetOfColumn (l ++ spaces (column - lineWidth l)) column
  (putRows column width n d p.row rows).setCursor ⟨p.row, first⟩ .normal

/-- Puts what a register holds beside the cursor, `n` times and at least once, as one change.
Nothing can be put from an empty register. -/
def put (d : Document) (content : RegisterContent) (placement : Placement) (n : Nat) :
    Option Document :=
  if content.isEmpty then none
  else
    let n := max n 1
    let d := d.beginChange
    let d := match content.kind with
      | .chars => d.putChars content.text placement n
      | .lines => d.putLines content.rows placement n
      | .block width => d.putBlock content.rows width placement n
    some d.endChange.1

/-! ## Rectangles -/

/-- The rows of a rectangle that exist, from the first on. -/
def blockRows (d : Document) (top bottom : Nat) : List Nat :=
  List.range' top (min bottom d.lastRow + 1 - top)

/-- The text of a row in a rectangle. -/
def blockRowText (d : Document) (row left right : Nat) : Text :=
  let (first, past) := blockBytes (d.line row) left right
  sliceBytes (d.line row) first past

/-- The text of a rectangle, row by row. -/
def blockText (d : Document) (top bottom left right : Nat) : List Text :=
  (d.blockRows top bottom).map fun row => d.blockRowText row left right

/-- Takes one row of a rectangle out. -/
def deleteBlockRow (left right : Nat) (d : Document) (row : Nat) : Document :=
  let (first, past) := blockBytes (d.line row) left right
  if first < past then (d.deleteRange ⟨row, first⟩ ⟨row, past⟩).1 else d

/-- Takes a rectangle out as one change. Gives its text, row by row. -/
def deleteBlock (d : Document) (top bottom left right : Nat) : Document × List Text :=
  let removed := d.blockText top bottom left right
  (((d.blockRows top bottom).foldl (deleteBlockRow left right) d.beginChange).endChange.1, removed)

/-- Puts a character in the place of each cluster of a row in a rectangle. -/
def replaceBlockRow (left right : Nat) (c : Char) (d : Document) (row : Nat) : Document :=
  let (first, past) := blockBytes (d.line row) left right
  match (clusters (d.blockRowText row left right)).length with
  | 0 => d
  | n + 1 => (d.replaceRange ⟨row, first⟩ ⟨row, past⟩ (List.replicate (n + 1) c)).1

/-- Puts a character in the place of each cluster in a rectangle, as one change. -/
def replaceBlock (d : Document) (top bottom left right : Nat) (c : Char) : Document :=
  ((d.blockRows top bottom).foldl (replaceBlockRow left right c) d.beginChange).endChange.1

end Document

end ModalEditor
