import ModalEditor.Text.Basic

/-!
# Text files

The lines of a file, and whether its last line is ended. A line ends at a line feed, or at a carriage
return and a line feed; only line feeds are written. A carriage return elsewhere is a character like
others.
-/

namespace ModalEditor

/-- The content of a text file. -/
structure TextFile where
  /-- The lines, at least one. -/
  lines : List Text
  /-- There is a line break at the end of the last line. -/
  endsInBreak : Bool
  deriving DecidableEq, Repr

namespace TextFile

/-- A line without the carriage return at its end. -/
def dropReturn (l : Text) : Text :=
  if l.getLast? = some '\r' then l.dropLast else l

/-- The lines that a text is divided into by line breaks, where `rows` are the parts between line
feeds. The last part is no line of its own if it is empty, and no line feed follows it. -/
def linesOfRows : List Text → List Text
  | [] => []
  | [l] => if l.isEmpty then [] else [l]
  | l :: rows => dropReturn l :: linesOfRows rows

/-- The content that a text describes. An empty file has one empty line. -/
def parse (t : Text) : TextFile where
  lines :=
    match linesOfRows (splitLines t) with
    | [] => [[]]
    | ls => ls
  endsInBreak := t.getLast? == some '\n'

/-- The text of the file. -/
def render (f : TextFile) : Text :=
  joinLines f.lines ++ (if f.endsInBreak then ['\n'] else [])

end TextFile

end ModalEditor
