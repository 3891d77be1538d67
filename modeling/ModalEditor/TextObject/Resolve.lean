import ModalEditor.Error
import ModalEditor.TextObject.Basic
import ModalEditor.TextObject.Delimited
import ModalEditor.TextObject.Unit

/-!
# The range of a text object

Words, sentences and quotes are looked for in the cursor line, paragraphs and brackets in the whole
buffer.
-/

namespace ModalEditor

/-- A part of one row. -/
def rowRange (row : Nat) (offsets : Nat × Nat) : TextRange :=
  .chars ⟨row, offsets.1⟩ ⟨row, offsets.2⟩

/-- The range of `n` objects at the cursor, and at least one. -/
def TextObject.range? (o : TextObject) (b : Buffer) (cursor : Position) (n : Nat) :
    Option TextRange :=
  let n := max n 1
  match o.kind with
  | .word big => do
    let l ← b.line? cursor.row
    return rowRange cursor.row (← TextUnit.span (TextUnit.words big l) cursor.col n o.inner)
  | .sentence => do
    let l ← b.line? cursor.row
    return rowRange cursor.row (← TextUnit.span (TextUnit.sentences l) cursor.col n o.inner)
  | .paragraph => do
    let (first, past) ← TextUnit.span (TextUnit.paragraphs b) cursor.row n o.inner
    return .lines first (past - 1)
  | .quote mark => do
    let l ← b.line? cursor.row
    return rowRange cursor.row (← quoteSpan l cursor.col mark o.inner)
  | .bracket opening closing => bracketRange b cursor opening closing n o.inner

/-- The range of `n` objects at the cursor; the motion fails if there is no such object. -/
def TextObject.resolve (o : TextObject) (b : Buffer) (cursor : Position) (n : Nat) :
    Except EditorError TextRange :=
  match o.range? b cursor n with
  | some range => .ok range
  | none => .error .motionFailed

end ModalEditor
