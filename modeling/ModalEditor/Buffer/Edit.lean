import ModalEditor.Buffer.Basic

/-!
# Edits of a buffer

Reading, inserting and removing text between positions, and the same for whole lines. An edit cuts
the lines that it touches and divides the result anew, so the lines around it are left as they are.
-/

namespace ModalEditor

namespace Buffer

/-- Lines that hold no line break, with a list of lines put in the place of some of them. -/
def splice (before : List Text) (middle : Text) (behind : List Text)
    (hbefore : ∀ l ∈ before, IsLine l) (hbehind : ∀ l ∈ behind, IsLine l) : Buffer where
  lines := before ++ splitLines middle ++ behind
  lines_ne_nil := by simp
  isLine := by
    intro l hl
    rcases List.mem_append.1 hl with hl | hl
    · rcases List.mem_append.1 hl with hl | hl
      · exact hbefore l hl
      · exact isLine_of_mem_splitLines hl
    · exact hbehind l hl

/-- The rows from `first` up to but without `past`, replaced by the lines of a text. -/
def replaceRows (b : Buffer) (first past : Nat) (middle : Text) : Buffer :=
  splice (b.lines.take first) middle (b.lines.drop past)
    (fun l hl => b.isLine l (List.mem_of_mem_take hl))
    (fun l hl => b.isLine l (List.mem_of_mem_drop hl))

/-- The part of the line before a clamped position. -/
def lineBefore (b : Buffer) (p : Position) : Text :=
  takeBytes (b.line p.row) p.col

/-- The part of the line behind a clamped position. -/
def lineBehind (b : Buffer) (p : Position) : Text :=
  dropBytes (b.line p.row) p.col

/-! ## Text between positions -/

/-- The text from one position up to another; nothing if they are not in order. -/
def slice (b : Buffer) (p q : Position) : Text :=
  let p := b.clamp p
  let q := b.clamp q
  if p < q then
    if p.row = q.row then sliceBytes (b.line p.row) p.col q.col
    else
      joinLines (b.lineBehind p :: (b.lines.take q.row).drop (p.row + 1) ++ [b.lineBefore q])
  else []

/-- Where the end of a text lies that begins at `p`. -/
def endOf (p : Position) (s : Text) : Position :=
  match splitLines s with
  | [] | [_] => ⟨p.row, p.col + byteSize s⟩
  | _ :: later => ⟨p.row + later.length, byteSize (later.getLast?.getD [])⟩

/-- The text put in at a position, and the position behind it. -/
def insert (b : Buffer) (p : Position) (s : Text) : Buffer × Position :=
  let p := b.clamp p
  (b.replaceRows p.row (p.row + 1) (b.lineBefore p ++ s ++ b.lineBehind p), endOf p s)

/-- The buffer without the text from one position up to another, and that text. -/
def remove (b : Buffer) (p q : Position) : Buffer × Text :=
  let p' := b.clamp p
  let q' := b.clamp q
  if p' < q' then
    (b.replaceRows p'.row (q'.row + 1) (b.lineBefore p' ++ b.lineBehind q'), b.slice p q)
  else (b, [])

/-! ## Whole lines -/

/-- The lines put in so that the first of them lands on `row`, or behind the last line. -/
def insertLines (b : Buffer) (row : Nat) (ls : List Text) : Buffer :=
  if ls.isEmpty then b else b.replaceRows row row (joinLines ls)

/-- The rows from `first` to `last`, both included. -/
def rows (b : Buffer) (first last : Nat) : List Text :=
  (b.lines.take (last + 1)).drop first

/-- The buffer without the rows from `first` to `last`, and those rows. One empty line is left of a
buffer that loses all. -/
def removeLines (b : Buffer) (first last : Nat) : Buffer × List Text :=
  let last := min last b.lastRow
  if last < first then (b, [])
  else (ofLines (b.lines.take first ++ b.lines.drop (last + 1)), b.rows first last)

/-- The text put in the place of a line. -/
def setLine (b : Buffer) (row : Nat) (s : Text) : Buffer :=
  if row < b.lineCount then b.replaceRows row (row + 1) s else b

/-! ## Summary -/

/-- A short account of the buffer: its number of lines and of bytes. -/
def summary (b : Buffer) : String :=
  s!"Buffer \x7b lines: {b.lineCount}, bytes: {byteSize b.text} \x7d"

end Buffer

end ModalEditor
