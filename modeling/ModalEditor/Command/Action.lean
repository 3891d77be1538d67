import ModalEditor.Command.Motion
import ModalEditor.Document.Compound
import ModalEditor.TextObject.Basic

/-!
# Actions

What the editor can be told to do. Keys are read into actions, and actions change the editor.
-/

namespace ModalEditor

/-- An operator: what to do with a range. -/
inductive Operator where
  | delete | yank | change
  deriving DecidableEq, Repr

namespace Operator

/-- The operator that a key names. -/
def ofKey? (c : Char) : Option Operator :=
  if c = 'd' then some .delete
  else if c = 'y' then some .yank
  else if c = 'c' then some .change
  else none

/-- The key that names the operator. -/
def key : Operator → Char
  | .delete => 'd'
  | .yank => 'y'
  | .change => 'c'

end Operator

/-- What an operator acts on. -/
inductive OperatorTarget where
  | motion (m : Motion)
  /-- As many whole lines as the count says. -/
  | lines
  | object (o : TextObject)
  deriving DecidableEq, Repr

/-- How far an operator reaches beyond a selection. -/
inductive VisualExtent where
  | selection
  /-- Every row of the selection, whole. -/
  | lines
  /-- Every row whole, or for a rectangle up to the ends of its rows. -/
  | toLineEnd
  deriving DecidableEq, Repr

/-- An edit while text is typed. -/
inductive Edit where
  | insertChar (c : Char)
  | newline
  | tab
  | backspace
  | deleteUnder
  | move (direction : Direction)
  deriving DecidableEq, Repr

/-- What the editor is told to do. -/
inductive Action where
  | motion (m : Motion) (count : Option Nat)
  | operate (op : Operator) (target : OperatorTarget) (count : Option Nat) (register : Option Char)
  | put (placement : Placement) (count : Nat) (register : Option Char)
  | join (count : Nat) (spaced : Bool)
  /-- The next key is the character to replace with. -/
  | beginReplaceSingle
  | replaceChar (c : Char) (count : Nat)
  | enterInsert (variant : InsertVariant) (count : Nat)
  | enterReplace (count : Nat)
  | enterVisual (kind : VisualKind)
  | undo (count : Nat)
  | redo (count : Nat)
  | repeatLast (count : Option Nat)
  | setMark (name : Char)
  | jumpBack (count : Nat)
  | jumpForward (count : Nat)
  | commandStart (count : Option Nat)
  | commandChar (c : Char)
  | commandBackspace
  | commandSubmit
  | visualSwap
  | visualObject (o : TextObject) (count : Nat)
  | visualOperate (op : Operator) (extent : VisualExtent) (register : Option Char)
  | visualJoin (spaced : Bool)
  | visualReplace (c : Char)
  | visualPut (count : Nat) (register : Option Char)
  | edit (e : Edit)
  | escape
  /-- A command that was being typed came to nothing. -/
  | rejected (reason : EditorError)
  deriving DecidableEq, Repr

end ModalEditor
