import ModalEditor.Error
import ModalEditor.Named
import ModalEditor.Register.Content

/-!
# Registers

Text that was yanked or deleted is kept in registers. The unnamed register `"` always holds the
latest of it. A yank goes to `0`; a deletion inside a line goes to `-`, and a larger one to `1`,
pushing the older ones on as far as `9`. The letters are for the user: an upper-case letter appends
to the register of its lower-case letter. What is written to `_` is lost, and `.` holds the text
typed last.
-/

namespace ModalEditor

/-- What the name of a register stands for. -/
inductive RegisterName where
  /-- The latest text, `"`. -/
  | unnamed
  /-- The latest yank, `0`. -/
  | yank
  /-- A place among the latest large deletions, from zero: `1` to `9`. -/
  | deletion (index : Nat)
  /-- The latest deletion inside a line, `-`. -/
  | smallDeletion
  /-- A lower-case letter, and whether it was given in upper case. -/
  | letter (name : Char) (append : Bool)
  /-- The register that keeps nothing, `_`. -/
  | blackHole
  /-- The text typed last, `.`, which cannot be written. -/
  | lastInsert
  deriving DecidableEq, Repr

namespace RegisterName

/-- What a character stands for as the name of a register. -/
def ofChar? (c : Char) : Option RegisterName :=
  if c = '\x22' then some .unnamed
  else if c = '0' then some .yank
  else if '1' ≤ c ∧ c ≤ '9' then some (.deletion (c.toNat - '1'.toNat))
  else if c = '-' then some .smallDeletion
  else if 'a' ≤ c ∧ c ≤ 'z' then some (.letter c false)
  else if 'A' ≤ c ∧ c ≤ 'Z' then some (.letter c.toLower true)
  else if c = '_' then some .blackHole
  else if c = '.' then some .lastInsert
  else none

/-- What a character stands for, or the failure that names it. -/
def ofChar (c : Char) : Except EditorError RegisterName :=
  match ofChar? c with
  | some name => .ok name
  | none => .error (.invalidRegister c)

/-- Is the character the name of a register? -/
def isValid (c : Char) : Bool :=
  (ofChar? c).isSome

end RegisterName

/-- All registers. -/
structure Registers where
  unnamed : Option RegisterContent := none
  yanked : Option RegisterContent := none
  /-- The latest large deletions, the newest first. -/
  deletions : List RegisterContent := []
  smallDeletion : Option RegisterContent := none
  letters : Named RegisterContent := {}
  lastInsert : Text := []
  deriving DecidableEq, Repr, Inhabited

namespace Registers

/-- How many large deletions are kept. -/
def deletionCount : Nat := 9

/-- The list with `content` at place `index`, filled up with empty contents as far as needed. -/
def setDeletion (ring : List RegisterContent) (index : Nat) (content : RegisterContent) :
    List RegisterContent :=
  (ring ++ List.replicate (index + 1 - ring.length) RegisterContent.empty).set index content

/-- What a letter holds after a write. Appending to a letter that holds nothing replaces it. -/
def mergeLetter (r : Registers) (name : Char) (append : Bool) (content : RegisterContent) :
    RegisterContent :=
  match r.letters.get? name with
  | some existing => if append && !existing.isEmpty then existing.append content else content
  | none => content

/-- Writes to a named place. Gives what that place holds afterwards, which the unnamed register
takes over. -/
def store (r : Registers) (name : RegisterName) (content : RegisterContent) :
    Registers × RegisterContent :=
  match name with
  | .unnamed | .blackHole | .lastInsert => (r, content)
  | .yank => ({ r with yanked := some content }, content)
  | .smallDeletion => ({ r with smallDeletion := some content }, content)
  | .deletion index => ({ r with deletions := setDeletion r.deletions index content }, content)
  | .letter name append =>
    let merged := r.mergeLetter name append content
    ({ r with letters := r.letters.put name merged }, merged)

/-- Writes to a named place and to the unnamed register. -/
def storeUnnamed (r : Registers) (name : RegisterName) (content : RegisterContent) : Registers :=
  let stored := r.store name content
  { stored.1 with unnamed := some stored.2 }

/-- Puts a large deletion in front of the others. -/
def pushDeletion (r : Registers) (content : RegisterContent) : Registers :=
  { r with
    deletions := content :: r.deletions.take (deletionCount - 1)
    unnamed := some content }

/-- Records a yank. Without a name, and under the name `"`, it goes to `0`. -/
def yank (r : Registers) (target : Option Char) (content : RegisterContent) :
    Except EditorError Registers := do
  match ← target.mapM RegisterName.ofChar with
  | some .blackHole => .ok r
  | some .lastInsert => .error (.invalidRegister '.')
  | none | some .unnamed => .ok (r.storeUnnamed .yank content)
  | some name => .ok (r.storeUnnamed name content)

/-- Records a deletion. Without a name, and under the name `"`, its size decides where it goes. -/
def delete (r : Registers) (target : Option Char) (content : RegisterContent) :
    Except EditorError Registers := do
  match ← target.mapM RegisterName.ofChar with
  | some .blackHole => .ok r
  | some .lastInsert => .error (.invalidRegister '.')
  | none | some .unnamed =>
    if content.isSmall then .ok (r.storeUnnamed .smallDeletion content)
    else .ok (r.pushDeletion content)
  | some name => .ok (r.storeUnnamed name content)

/-- Reads a register, the unnamed one without a name. A register that was never written is empty. -/
def get (r : Registers) (name : Option Char) : Except EditorError RegisterContent := do
  match ← name.mapM RegisterName.ofChar with
  | none | some .unnamed => .ok (r.unnamed.getD .empty)
  | some .yank => .ok (r.yanked.getD .empty)
  | some (.deletion index) => .ok (r.deletions[index]?.getD .empty)
  | some .smallDeletion => .ok (r.smallDeletion.getD .empty)
  | some (.letter name _) => .ok ((r.letters.get? name).getD .empty)
  | some .blackHole => .ok .empty
  | some .lastInsert => .ok (.ofChars r.lastInsert)

/-- Records the text typed last. -/
def setLastInsert (r : Registers) (t : Text) : Registers :=
  { r with lastInsert := t }

end Registers

end ModalEditor
