import ModalEditor.Buffer.Basic

/-!
# Motions along a line and between lines

Horizontal motions stay in their line. Vertical motions aim for a display column, which the cursor
keeps while it passes through shorter lines. Where a motion takes `pastEnd`, the cursor may come to
rest behind the last cluster, as it does while text is typed.
-/

namespace ModalEditor

/-- The display column that vertical motions aim for. -/
inductive WantedColumn where
  /-- A display column counted from zero. -/
  | column (n : Nat)
  /-- The end of every line, however long it is. -/
  | lineEnd
  deriving DecidableEq, Repr

namespace Buffer

/-- Where a cursor on the line comes to rest at most. -/
def restLimit (l : Text) (pastEnd : Bool) : Nat :=
  if pastEnd then byteSize l else lastBoundary l

/-- The nearest place on which a cursor may rest: inside the buffer and on a cluster, or in column
zero of an empty line. -/
def rest (b : Buffer) (p : Position) : Position :=
  let p := b.clamp p
  ⟨p.row, min p.col (lastBoundary (b.line p.row))⟩

/-- `n` clusters to the left of `col`. -/
def leftOf (l : Text) : Nat → Nat → Nat
  | 0, col => col
  | n + 1, col => if col = 0 then 0 else leftOf l n (prevBoundary l col)

/-- `n` clusters to the right of `col`, and no further than `limit`. -/
def rightOf (l : Text) (limit : Nat) : Nat → Nat → Nat
  | 0, col => col
  | n + 1, col =>
    if limit ≤ col then col else rightOf l limit n (min (nextBoundary l col) limit)

/-- `n` clusters to the left, without leaving the line. -/
def left (b : Buffer) (p : Position) (n : Nat) : Position :=
  match b.line? p.row with
  | some l => ⟨p.row, leftOf l n p.col⟩
  | none => p

/-- `n` clusters to the right, without leaving the line. -/
def right (b : Buffer) (p : Position) (n : Nat) (pastEnd : Bool) : Position :=
  match b.line? p.row with
  | some l => ⟨p.row, rightOf l (restLimit l pastEnd) n p.col⟩
  | none => p

/-- The first cluster of the line that is not blank, or the last one. -/
def firstText (b : Buffer) (p : Position) : Position :=
  let l := b.line p.row
  ⟨p.row, min (firstNonBlank l) (lastBoundary l)⟩

/-- The end of the line. -/
def lineEnd (b : Buffer) (p : Position) (pastEnd : Bool) : Position :=
  ⟨p.row, restLimit (b.line p.row) pastEnd⟩

/-- The offset at which a row comes closest to the wanted column. -/
def offsetOfWanted (b : Buffer) (row : Nat) (wanted : WantedColumn) (pastEnd : Bool) : Nat :=
  let l := b.line row
  match wanted with
  | .lineEnd => restLimit l pastEnd
  | .column n => min (offsetOfColumn l n) (restLimit l pastEnd)

/-- `n` lines up. There is no way up from the first line. -/
def up (b : Buffer) (p : Position) (n : Nat) (wanted : WantedColumn) (pastEnd : Bool) :
    Option Position :=
  if p.row = 0 then none
  else some ⟨p.row - n, b.offsetOfWanted (p.row - n) wanted pastEnd⟩

/-- `n` lines down. There is no way down from the last line. -/
def down (b : Buffer) (p : Position) (n : Nat) (wanted : WantedColumn) (pastEnd : Bool) :
    Option Position :=
  if b.lastRow ≤ p.row then none
  else
    let row := min (p.row + n) b.lastRow
    some ⟨row, b.offsetOfWanted row wanted pastEnd⟩

/-- The first text of a row, or of the last row if there is no such row. -/
def startOfRow (b : Buffer) (row : Nat) : Position :=
  b.firstText ⟨min row b.lastRow, 0⟩

end Buffer

end ModalEditor
