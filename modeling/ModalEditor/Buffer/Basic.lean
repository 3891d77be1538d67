import ModalEditor.Buffer.Position
import ModalEditor.Text.Boundary

/-!
# Buffers

The text of a document as its lines. A buffer always has a line, and no line holds a line break, so
the lines determine the text and the text determines the lines (`text_ofText`, `ofText_text`).
-/

namespace ModalEditor

open Unicode

/-- The lines of a document. -/
structure Buffer where
  /-- The lines, from the first to the last. -/
  lines : List Text
  lines_ne_nil : lines ≠ []
  isLine : ∀ l ∈ lines, IsLine l

namespace Buffer

theorem ext {a b : Buffer} (h : a.lines = b.lines) : a = b := by
  cases a; cases b; cases h; rfl

instance : DecidableEq Buffer := fun a b =>
  if h : a.lines = b.lines then isTrue (ext h) else isFalse fun e => h (e ▸ rfl)

/-- The buffer of a text: every line break parts two lines. -/
def ofText (t : Text) : Buffer where
  lines := splitLines t
  lines_ne_nil := splitLines_ne_nil t
  isLine := fun _ => isLine_of_mem_splitLines

/-- The buffer of the given lines. Without lines it is one empty line, and a line that holds a line
break becomes several. -/
def ofLines (ls : List Text) : Buffer :=
  ofText (joinLines ls)

instance : Inhabited Buffer := ⟨ofText []⟩

/-- The whole text, with a line break between each two lines. -/
def text (b : Buffer) : Text :=
  joinLines b.lines

@[simp] theorem text_ofText (t : Text) : (ofText t).text = t :=
  joinLines_splitLines t

@[simp] theorem ofText_text (b : Buffer) : ofText b.text = b :=
  ext (splitLines_joinLines b.lines_ne_nil b.isLine)

/-- The number of lines. -/
def lineCount (b : Buffer) : Nat :=
  b.lines.length

theorem lineCount_pos (b : Buffer) : 0 < b.lineCount :=
  List.length_pos_iff.2 b.lines_ne_nil

/-- The index of the last line. -/
def lastRow (b : Buffer) : Nat :=
  b.lineCount - 1

/-- The line with the given index. -/
def line? (b : Buffer) (row : Nat) : Option Text :=
  b.lines[row]?

/-- The line with the given index, empty past the end. -/
def line (b : Buffer) (row : Nat) : Text :=
  (b.line? row).getD []

/-- The length of a line in bytes, zero past the end. -/
def lineSize (b : Buffer) (row : Nat) : Nat :=
  byteSize (b.line row)

/-- Is there such a line, and is it blank throughout? Blank lines part paragraphs. -/
def isBlankLine (b : Buffer) (row : Nat) : Bool :=
  match b.line? row with
  | some l => l.all isBlank
  | none => false

/-- A line of the buffer holds no line break, and neither does the empty one past the end. -/
theorem isLine_line (b : Buffer) (row : Nat) : IsLine (b.line row) := by
  unfold line line?
  cases h : b.lines[row]? with
  | none => simp [IsLine]
  | some l => exact b.isLine l (List.mem_of_getElem? h)

/-! ## Positions -/

/-- The nearest place inside the buffer: the row is at most the last one, and the column is on a
cluster boundary of its line. -/
def clamp (b : Buffer) (p : Position) : Position :=
  let row := min p.row b.lastRow
  ⟨row, floorBoundary (b.line row) p.col⟩

/-- The place after the last character. -/
def endPosition (b : Buffer) : Position :=
  ⟨b.lastRow, b.lineSize b.lastRow⟩

/-- The number of characters of the lines, each with its line break. -/
def charsOf : List Text → Nat
  | [] => 0
  | l :: ls => l.length + 1 + charsOf ls

/-- How many characters of the text stand before the (clamped) position. -/
def charIndex (b : Buffer) (p : Position) : Nat :=
  let p := b.clamp p
  charsOf (b.lines.take p.row) + (takeBytes (b.line p.row) p.col).length

/-- The position in the lines that has `n` characters before it. -/
def positionIn : List Text → Nat → Position
  | [], _ => ⟨0, 0⟩
  | [l], n => ⟨0, byteSize (l.take n)⟩
  | l :: m :: ls, n =>
    if n ≤ l.length then ⟨0, byteSize (l.take n)⟩
    else
      let p := positionIn (m :: ls) (n - (l.length + 1))
      ⟨p.row + 1, p.col⟩

/-- The position that has `n` characters before it; the end if the text is shorter. -/
def positionOf (b : Buffer) (n : Nat) : Position :=
  positionIn b.lines n

end Buffer

end ModalEditor
