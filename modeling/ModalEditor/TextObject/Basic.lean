/-!
# Text objects

A text object is a piece of text around the cursor that a reader would name: a word, a sentence, a
paragraph, what stands between quotes or brackets. The inner object is that piece alone; the other
takes in what parts it from its neighbours.
-/

namespace ModalEditor

/-- What kind of piece a text object is. -/
inductive ObjectKind where
  /-- A word; with `big`, a run of clusters that are not blank. -/
  | word (big : Bool)
  | sentence
  | paragraph
  /-- What stands between two of the mark. -/
  | quote (mark : Char)
  /-- What stands between a pair of brackets. -/
  | bracket (opening closing : Char)
  deriving DecidableEq, Repr

/-- A text object. -/
structure TextObject where
  kind : ObjectKind
  /-- The piece alone. -/
  inner : Bool
  deriving DecidableEq, Repr

/-- The kind that a key names. -/
def ObjectKind.ofKey? (c : Char) : Option ObjectKind :=
  if c = 'w' then some (.word false)
  else if c = 'W' then some (.word true)
  else if c = 's' then some .sentence
  else if c = 'p' then some .paragraph
  else if c = '\x22' ∨ c = '\x27' ∨ c = '\x60' then some (.quote c)
  else if c = '(' ∨ c = ')' ∨ c = 'b' then some (.bracket '(' ')')
  else if c = '[' ∨ c = ']' then some (.bracket '[' ']')
  else if c = '{' ∨ c = '}' ∨ c = 'B' then some (.bracket '{' '}')
  else if c = '<' ∨ c = '>' then some (.bracket '<' '>')
  else none

end ModalEditor
