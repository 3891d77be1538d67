import ModalEditor.Text.Basic

/-!
# The command line

The text being typed after `:`. The colon is part of the text, and its presence says that a command
line is open.
-/

namespace ModalEditor

/-- The command line, with its colon; empty while none is open. -/
structure CommandLine where
  text : Text := []
  deriving DecidableEq, Repr, Inhabited

namespace CommandLine

/-- Is a command line open? -/
def isActive (c : CommandLine) : Bool :=
  c.text.head? == some ':'

/-- The text without the colon. -/
def content (c : CommandLine) : Text :=
  match c.text with
  | ':' :: rest => rest
  | t => t

/-- A command line that begins with the given text. -/
def start (prefilled : Text) : CommandLine :=
  ⟨':' :: prefilled⟩

/-- The command line with one more character; it is opened first if need be. -/
def push (c : CommandLine) (ch : Char) : CommandLine :=
  ⟨(if c.text.isEmpty then [':'] else c.text) ++ [ch]⟩

/-- The command line without its last character. Nothing is left to take from a bare colon: that
closes the command line. -/
def backspace? (c : CommandLine) : Option CommandLine :=
  if 1 < byteSize c.text then some ⟨c.text.dropLast⟩ else none

/-- No command line. -/
def closed : CommandLine := {}

end CommandLine

end ModalEditor
