import ModalEditor.Buffer.Basic

/-!
# Paragraph motions

Paragraphs are runs of lines that are not blank. The motions go to the blank line beyond the
paragraph that the cursor is in, or beyond the next one when the cursor starts on a blank line.
-/

namespace ModalEditor

namespace Buffer

/-- The end of a walk over rows. -/
inductive GapSearch where
  /-- A blank row beyond some text. -/
  | gap (row : Nat)
  /-- The rows ran out, on some text or beyond it. -/
  | edgeAfterText
  /-- The rows ran out, and all of them were blank. -/
  | edge
  deriving DecidableEq, Repr

/-- Looks at the `rowsLeft` rows behind `row`; `seenText` says whether text was passed already. -/
def gapAhead (b : Buffer) : (rowsLeft row : Nat) → (seenText : Bool) → GapSearch
  | 0, _, seenText => if seenText then .edgeAfterText else .edge
  | k + 1, row, seenText =>
    if b.isBlankLine (row + 1) then
      if seenText then .gap (row + 1) else gapAhead b k (row + 1) false
    else gapAhead b k (row + 1) true

/-- Looks at the rows above `row`. -/
def gapBehind (b : Buffer) : (row : Nat) → (seenText : Bool) → GapSearch
  | 0, seenText => if seenText then .edgeAfterText else .edge
  | row + 1, seenText =>
    if b.isBlankLine row then
      if seenText then .gap row else gapBehind b row false
    else gapBehind b row true

/-- The row that `n` searches lead to, where `edge` is the row at which the rows run out. A search
that passes text and finds no blank row must be the last one. -/
def gapRow (search : Nat → GapSearch) (edge : Nat) : Nat → Nat → Option Nat
  | 0, row => some row
  | n + 1, row =>
    match search row with
    | .gap row => gapRow search edge n row
    | .edgeAfterText => if n = 0 then some edge else none
    | .edge => some edge

/-- Forward to the blank row after the `n`-th paragraph; the end of the document if it is the last
paragraph. With fewer paragraphs the position is not changed. -/
def paragraphForward (b : Buffer) (p : Position) (n : Nat) : Position :=
  let search row := b.gapAhead (b.lastRow - row) row (!b.isBlankLine row)
  match gapRow search (max p.row b.lastRow) n p.row with
  | none => p
  | some row =>
    if row = b.lastRow ∧ b.isBlankLine row = false then ⟨row, b.lineSize row⟩ else ⟨row, 0⟩

/-- Backward to the blank row before the `n`-th paragraph; the start of the document if it is the
first paragraph. With fewer paragraphs the position is not changed. -/
def paragraphBackward (b : Buffer) (p : Position) (n : Nat) : Position :=
  let search row := b.gapBehind row (!b.isBlankLine row)
  match gapRow search 0 n p.row with
  | none => p
  | some row => ⟨row, 0⟩

end Buffer

end ModalEditor
