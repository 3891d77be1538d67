import ModalEditor.Selection

/-!
# Delimited objects

What stands between quotes in the cursor line, and what stands between brackets, which may be lines
apart. Quotes are paired from the left of the line; brackets are paired as they nest.
-/

namespace ModalEditor

open Unicode

/-! ## Quotes -/

/-- The offsets of the marks in a text that are not escaped. `escaped` says that the next character
is. -/
def quoteOffsets (mark : Char) : (escaped : Bool) → (at_ : Nat) → Text → List Nat
  | _, _, [] => []
  | escaped, at_, c :: cs =>
    let later := quoteOffsets mark (c == '\x5c' && !escaped) (at_ + c.utf8Size) cs
    if c = mark ∧ escaped = false then at_ :: later else later

/-- Two of the offsets, by their indices. -/
def twoOf (offsets : List Nat) (i j : Nat) : Option (Nat × Nat) := do
  return (← offsets[i]?, ← offsets[j]?)

/-- The two of the offsets of marks that belong together for a cursor at `col`. On a mark, its index
tells whether it opens a pair or closes one. Elsewhere the number of marks in front tells whether the
cursor is inside a pair; if it is not, the pair is the next one. -/
def quotePair (col : Nat) (offsets : List Nat) : Option (Nat × Nat) :=
  match offsets.findIdx? (· == col) with
  | some k => if k % 2 = 0 then twoOf offsets k (k + 1) else twoOf offsets (k - 1) k
  | none =>
    let before := offsets.countP (· < col)
    if before % 2 = 1 then twoOf offsets (before - 1) before else twoOf offsets before (before + 1)

/-- Is the character a space or a tab? -/
def isSpaceOrTab (c : Char) : Bool :=
  c == ' ' || c == '\t'

/-- The number of spaces and tabs at the beginning of a text. -/
def leadingSpaces (t : Text) : Nat :=
  (t.takeWhile isSpaceOrTab).length

/-- The offsets of a quoted object. The inner one is what stands between the marks. The other takes
in the marks and the spaces behind them, or else those in front. -/
def quoteSpan (l : Text) (col : Nat) (mark : Char) (inner : Bool) : Option (Nat × Nat) :=
  (quotePair col (quoteOffsets mark false 0 l)).map fun (opening, closing) =>
    if inner then (opening + 1, closing)
    else
      let behind := leadingSpaces (dropBytes l (closing + 1))
      if 0 < behind then (opening, closing + 1 + behind)
      else (opening - leadingSpaces (takeBytes l opening).reverse, closing + 1)

/-! ## Brackets -/

/-- The characters of a line with their positions. -/
def placedLine (row : Nat) : (col : Nat) → Text → List (Position × Char)
  | _, [] => []
  | col, c :: cs => (⟨row, col⟩, c) :: placedLine row (col + c.utf8Size) cs

/-- The characters of lines, the first of which has index `row`, with their positions. -/
def placedLines : (row : Nat) → List Text → List (Position × Char)
  | _, [] => []
  | row, l :: ls => placedLine row 0 l ++ placedLines (row + 1) ls

/-- Looks for the opening bracket of the `level`-th pair around, where `depth` pairs that were closed
on the way are still to be opened. -/
def findOpening (opening closing : Char) :
    (level depth : Nat) → List (Position × Char) → Option Position
  | _, _, [] => none
  | level, depth, (p, c) :: later =>
    if c = closing then findOpening opening closing level (depth + 1) later
    else if c = opening then
      if depth = 0 then
        if level ≤ 1 then some p else findOpening opening closing (level - 1) 0 later
      else findOpening opening closing level (depth - 1) later
    else findOpening opening closing level depth later

/-- Looks for the closing bracket, where `depth` pairs that were opened on the way are still to be
closed. -/
def findClosing (opening closing : Char) : (depth : Nat) → List (Position × Char) → Option Position
  | _, [] => none
  | depth, (p, c) :: later =>
    if c = opening then findClosing opening closing (depth + 1) later
    else if c = closing then
      if depth = 0 then some p else findClosing opening closing (depth - 1) later
    else findClosing opening closing depth later

/-- The positions of the `n`-th pair of brackets around the cursor. A bracket under the cursor is one
of the pair. -/
def bracketPair (b : Buffer) (cursor : Position) (opening closing : Char) (n : Nat) :
    Option (Position × Position) := do
  let placed := placedLines 0 b.lines
  let before := (placed.takeWhile (·.1 < cursor)).reverse
  let here := (placed.dropWhile (·.1 < cursor)).take 1
    |>.filter fun c => c.1 = cursor ∧ c.2 ≠ closing
  let first ← findOpening opening closing n 0 (here ++ before)
  let last ← findClosing opening closing 0 (placed.dropWhile fun c => ¬ first < c.1)
  return (first, last)

/-- The range of a bracketed object. The inner one is what stands between the brackets; it is whole
lines when the brackets stand at the end of a line and behind the indent of another. -/
def bracketRange (b : Buffer) (cursor : Position) (opening closing : Char) (n : Nat)
    (inner : Bool) : Option TextRange :=
  (bracketPair b cursor opening closing n).map fun (first, last) =>
    if !inner then .chars first ⟨last.row, last.col + 1⟩
    else if first.col + 1 = b.lineSize first.row ∧
        (takeBytes (b.line last.row) last.col).all isBlank ∧ first.row + 1 < last.row then
      .lines (first.row + 1) (last.row - 1)
    else .chars ⟨first.row, first.col + 1⟩ last

end ModalEditor
