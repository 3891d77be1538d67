import ModalEditor.Key.Basic

/-!
# Key scripts

A key script is a text that names keys one after the other. A character stands for itself; a group
in angle brackets names a control key, or a key with modifiers. A `<` is always the beginning of a
group, so that a mistyped group is found out; `<lt>` stands for the character.
-/

namespace ModalEditor

/-- Why a key script cannot be read. -/
inductive KeyScriptError where
  /-- The group that begins at this byte has no end. -/
  | unterminated (byte : Nat)
  /-- The group names no key. -/
  | unknownName (group : Text)
  deriving DecidableEq, Repr

/-- The wording of the error. -/
def KeyScriptError.message : KeyScriptError → String
  | .unterminated byte => "unterminated key group at byte " ++ toString byte
  | .unknownName group => "unknown key name <" ++ String.ofList group ++ ">"

namespace KeyScript

/-- The keys with names. Case does not matter. -/
def namedCode? (name : Text) : Option KeyCode :=
  match String.ofList (name.map Char.toLower) with
  | "esc" => some .escape
  | "cr" | "enter" | "return" => some .enter
  | "bs" | "backspace" => some .backspace
  | "tab" => some .tab
  | "del" | "delete" => some .delete
  | "up" => some .up
  | "down" => some .down
  | "left" => some .left
  | "right" => some .right
  | "lt" => some (.char '<')
  | "space" => some (.char ' ')
  | "bar" => some (.char '|')
  | _ => none

/-- The key that a name stands for, once its modifiers are known. A bare character needs a modifier
to stand in a group. -/
def withName (k : Key) (name : Text) : Option Key :=
  match namedCode? name with
  | some code => some { k with code }
  | none =>
    match name with
    | [c] => if k.ctrl || k.alt || k.shift then some { k with code := .char c } else none
    | _ => none

/-- Reads the modifiers in front of a name, and the name. A modifier is a letter and a hyphen, with
something behind them. -/
def ofModified (k : Key) : Text → Option Key
  | m :: '-' :: c :: rest =>
    let m := m.toLower
    if m = 'c' then ofModified { k with ctrl := true } (c :: rest)
    else if m = 'a' ∨ m = 'm' then ofModified { k with alt := true } (c :: rest)
    else if m = 's' then ofModified { k with shift := true } (c :: rest)
    else none
  | name => withName k name

/-- The key that a group names. -/
def ofGroup (group : Text) : Except KeyScriptError Key :=
  match ofModified (.ofCode .escape) group with
  | some k => .ok k
  | none => .error (.unknownName group)

/-- Reads keys from the byte `n` of a script on. Inside a group, `open?` holds the byte at which it
began and its characters so far, the latest first. -/
def parseFrom : Option (Nat × Text) → Nat → Text → Except KeyScriptError (List Key)
  | none, _, [] => .ok []
  | some (start, _), _, [] => .error (.unterminated start)
  | none, n, c :: cs =>
    if c = '<' then parseFrom (some (n, [])) (n + c.utf8Size) cs
    else (parseFrom none (n + c.utf8Size) cs).map (.ofChar c :: ·)
  | some (start, group), n, c :: cs =>
    if c = '>' then
      match ofGroup group.reverse with
      | .ok k => (parseFrom none (n + c.utf8Size) cs).map (k :: ·)
      | .error e => .error e
    else parseFrom (some (start, c :: group)) (n + c.utf8Size) cs

/-- The keys that a script names. -/
def parse (script : Text) : Except KeyScriptError (List Key) :=
  parseFrom none 0 script

/-- The script that names the keys. -/
def display (keys : List Key) : Text :=
  keys.flatMap Key.display

end KeyScript

end ModalEditor
