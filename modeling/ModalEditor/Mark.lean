import ModalEditor.Buffer.Position
import ModalEditor.Named

/-!
# Marks

Marks are positions under the names `a` to `z`. The mark `'`, which a backtick names as well, is the
place before the latest jump. Marks do not move when text around them changes: whoever uses one
clamps it into the document.
-/

namespace ModalEditor

/-- The marks that are set. -/
structure Marks where
  positions : Named Position := {}
  deriving DecidableEq, Repr, Inhabited

namespace Marks

/-- The name of the place before the latest jump. -/
def previousContext : Char := '\x27'

/-- The name under which a mark is kept, if there is such a mark. -/
def slot? (name : Char) : Option Char :=
  if 'a' ≤ name ∧ name ≤ 'z' then some name
  else if name = previousContext ∨ name = '\x60' then some previousContext
  else none

/-- Is the character the name of a mark? -/
def isValid (name : Char) : Bool :=
  (slot? name).isSome

/-- Sets a mark; nothing if there is no such mark. -/
def set? (m : Marks) (name : Char) (p : Position) : Option Marks :=
  (slot? name).map fun slot => ⟨m.positions.put slot p⟩

/-- The position of a mark. -/
def get? (m : Marks) (name : Char) : Option Position :=
  (slot? name).bind m.positions.get?

/-- Sets the place before the latest jump. -/
def setPreviousContext (m : Marks) (p : Position) : Marks :=
  ⟨m.positions.put previousContext p⟩

end Marks

end ModalEditor
