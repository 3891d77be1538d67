import ModalEditor.Text.Basic

/-!
# Keys

One key press: what was pressed, and the modifiers that were held. A key has a display form, which
is what a key script writes for it.
-/

namespace ModalEditor

/-- What was pressed. -/
inductive KeyCode where
  | char (c : Char)
  | enter | escape | backspace | tab | delete | up | down | left | right
  deriving DecidableEq, Repr

/-- One key press. -/
structure Key where
  code : KeyCode
  ctrl : Bool := false
  alt : Bool := false
  /-- Shift is part of the character already; it is kept for the named keys. -/
  shift : Bool := false
  deriving DecidableEq, Repr

namespace Key

/-- The key of a character without modifiers. -/
def ofChar (c : Char) : Key :=
  { code := .char c }

/-- A named key without modifiers. -/
def ofCode (code : KeyCode) : Key :=
  { code }

/-- The character that the key stands for, if it is one and neither control nor alt is held. -/
def printable (k : Key) : Option Char :=
  match k.code with
  | .char c => if k.ctrl || k.alt then none else some c
  | _ => none

/-- The name of a key in angle brackets. -/
def codeName : KeyCode → Text
  | .char '<' => "lt".toList
  | .char ' ' => "Space".toList
  | .char c => [c]
  | .enter => "CR".toList
  | .escape => "Esc".toList
  | .backspace => "BS".toList
  | .tab => "Tab".toList
  | .delete => "Del".toList
  | .up => "Up".toList
  | .down => "Down".toList
  | .left => "Left".toList
  | .right => "Right".toList

/-- Is the key displayed as a bare character? -/
def isBare (k : Key) : Bool :=
  match k.code with
  | .char c => c != '<' && c != ' ' && !k.ctrl && !k.alt
  | _ => false

/-- The display form of the key: the bare character, or the name of the key in angle brackets behind
those of control and alt. -/
def display (k : Key) : Text :=
  if k.isBare then codeName k.code
  else
    '<' :: (if k.ctrl then ['C', '-'] else []) ++ (if k.alt then ['A', '-'] else []) ++
      codeName k.code ++ ['>']

end Key

end ModalEditor
