import ModalEditor.Text.Basic

/-!
# What a register holds

A piece of text together with how it was taken: a run of characters, whole lines, or a rectangle.
The kind decides how the text is put back.
-/

namespace ModalEditor

/-- How the text of a register was taken. -/
inductive RegisterKind where
  /-- A run of characters. -/
  | chars
  /-- Whole lines, each ended by a line break. -/
  | lines
  /-- The rows of a rectangle, parted by line breaks, and its width in display columns. -/
  | block (width : Nat)
  deriving DecidableEq, Repr

/-- What a register holds. -/
structure RegisterContent where
  text : Text := []
  kind : RegisterKind := .chars
  deriving DecidableEq, Repr, Inhabited

namespace RegisterContent

/-- A run of characters. -/
def ofChars (t : Text) : RegisterContent :=
  ⟨t, .chars⟩

/-- Whole lines. -/
def ofLines (ls : List Text) : RegisterContent :=
  ⟨ls.flatMap (· ++ ['\n']), .lines⟩

/-- The rows of a rectangle. -/
def ofBlock (rows : List Text) (width : Nat) : RegisterContent :=
  ⟨joinLines rows, .block width⟩

/-- Nothing. -/
def empty : RegisterContent := {}

/-- Is there no text? -/
def isEmpty (c : RegisterContent) : Bool :=
  c.text.isEmpty

/-- The text without the line break at its end, if it has one. -/
def dropFinalBreak (t : Text) : Text :=
  if t.getLast? = some '\n' then t.dropLast else t

/-- The text without any line breaks at its end. -/
def dropFinalBreaks (t : Text) : Text :=
  (t.reverse.dropWhile (· == '\n')).reverse

/-- The lines of the content. Whole lines give up the line break behind the last of them. -/
def rows (c : RegisterContent) : List Text :=
  match c.kind with
  | .lines => splitLines (dropFinalBreak c.text)
  | _ => splitLines c.text

/-- Is this a run of characters inside one line? Such a deletion goes to the register `-`. -/
def isSmall (c : RegisterContent) : Bool :=
  c.kind == .chars && !c.text.contains '\n'

/-- The content with another one behind it. A run of characters becomes whole lines when lines
follow it; lines and rectangles keep their kind, and what follows them begins on a line of its own.
-/
def append (c d : RegisterContent) : RegisterContent :=
  match c.kind, d.kind with
  | .chars, .chars => { c with text := c.text ++ d.text }
  | .lines, .lines => { c with text := c.text ++ d.text }
  | .chars, .lines => ⟨c.text ++ '\n' :: d.text, .lines⟩
  | .chars, .block _ => { c with text := c.text ++ '\n' :: d.text }
  | .lines, _ => { c with text := c.text ++ d.text ++ ['\n'] }
  | .block a, .block b => ⟨c.text ++ '\n' :: dropFinalBreaks d.text, .block (max a b)⟩
  | .block a, _ => ⟨c.text ++ '\n' :: dropFinalBreaks d.text, .block a⟩

end RegisterContent

end ModalEditor
