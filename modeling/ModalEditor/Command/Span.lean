import ModalEditor.Command.Action
import ModalEditor.Selection

/-!
# The range of an operator

A motion under an operator bounds a range that begins or ends at the cursor. The class of the motion
says what belongs to it. Three rules depart from the class, because that is what the operators are
used for:

* forward over words never runs past the end of the line of the last word that it crossed;
* a range that would end at the very beginning of a line ends at the end of the line before it, and
  takes whole lines if nothing but blanks precede it in its first line;
* a change forward over words leaves the blanks behind the last word alone.
-/

namespace ModalEditor

namespace Span

/-- Where a motion forward over words stops that crosses into a later row: at the end of the row on
which its last step began, or behind the line break of an empty row. -/
def wordStop (d : Document) (m : Motion) (count : Option Nat) (lastFind : Option Find) :
    Except EditorError Position :=
  let n := max (count.getD 1) 1
  let stopOn (row : Nat) : Position :=
    if d.buffer.lineSize row = 0 then ⟨row + 1, 0⟩ else ⟨row, d.buffer.lineSize row⟩
  if 1 < n then
    match m.land d (some (n - 1)) lastFind true with
    | .ok landing => .ok (stopOn landing.place.row)
    | .error e => .error e
  else .ok (stopOn d.cursor.row)

/-- The range from `first` up to but without `past`, unless that is the beginning of a later line. -/
def exclusive (b : Buffer) (first past : Position) : TextRange :=
  if first.row < past.row ∧ past.col = 0 then
    if first.col ≤ firstNonBlank (b.line first.row) then .lines first.row (past.row - 1)
    else .chars first ⟨past.row - 1, b.lineSize (past.row - 1)⟩
  else .chars first past

/-- The class of the cluster at an offset, if there is one. -/
def classAt (l : Text) (col : Nat) (big : Bool) : Option WordClass :=
  (clusterAt l col).map (classify big)

/-- The range of a change over `n` words that starts on a word: up to the end of the last of them.
A cursor on the last cluster of a word counts that word. -/
def changeWords (b : Buffer) (p : Position) (n : Nat) (big : Bool) : Option TextRange :=
  let l := b.line p.row
  match classAt l p.col big with
  | none | some .blank => none
  | some cls =>
    let steps := if classAt l (nextBoundary l p.col) big = some cls then n else n - 1
    let q := if steps = 0 then p else b.wordEndForward p steps big
    some (.chars p ⟨q.row, nextBoundary (b.line q.row) q.col⟩)

/-- The range between the cursor and the place where a motion landed. -/
def between (d : Document) (m : Motion) (count : Option Nat) (lastFind : Option Find)
    (place : Position) : Except EditorError TextRange :=
  let first := min d.cursor place
  let last := max d.cursor place
  match m.motionClass lastFind with
  | .linewise => .ok (.lines first.row last.row)
  | .inclusive => .ok (.chars first ⟨last.row, nextBoundary (d.line last.row) last.col⟩)
  | .exclusive =>
    if m.isWordForward ∧ d.cursor.row < last.row then
      (wordStop d m count lastFind).map (exclusive d.buffer first)
    else .ok (exclusive d.buffer first last)

/-- The range on which an operator acts when a motion follows it. -/
def resolve (d : Document) (op : Operator) (m : Motion) (count : Option Nat)
    (lastFind : Option Find) : Except EditorError TextRange :=
  let changed := match op, m with
    | .change, .wordForward big => changeWords d.buffer d.cursor (max (count.getD 1) 1) big
    | _, _ => none
  match changed with
  | some range => .ok range
  | none =>
    match m.land d count lastFind true with
    | .ok landing => between d m count lastFind landing.place
    | .error e => .error e

end Span

end ModalEditor
