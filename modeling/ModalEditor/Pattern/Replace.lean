import ModalEditor.Pattern.Parser

/-!
# Replacing matches

What takes the place of a match is written with references to its groups: `$1` and `${1}`, `$name` and
`${name}`. A reference to a group that took no part in the match stands for nothing, and `$$` stands
for a dollar sign.
-/

namespace ModalEditor

/-- A part of what takes the place of a match. -/
inductive TemplatePart where
  | char (c : Char)
  | group (index : Nat)
  | name (t : Text)
  deriving DecidableEq, Repr

namespace Template

/-- Can the character be part of a reference without braces? -/
def isNameChar (c : Char) : Bool :=
  c.isAlphanum || c == '_'

/-- The number that a reference is, if it is one of at most 64 bits. -/
def number? (t : Text) : Option Nat :=
  let digits := if t.head? = some '+' then t.drop 1 else t
  if digits.isEmpty || !digits.all Char.isDigit then none
  else
    let n := digits.foldl (fun n c => 10 * n + (c.toNat - '0'.toNat)) 0
    if n < UInt64.size then some n else none

/-- A reference by number or by name. -/
def reference (t : Text) : TemplatePart :=
  match number? t with
  | some n => .group n
  | none => .name t

/-- Reads at most `n` parts. A dollar sign that begins no reference stands for itself. -/
def parts : Nat → Text → List TemplatePart
  | n + 1, '$' :: '$' :: rest => .char '$' :: parts n rest
  | n + 1, '$' :: '\x7b' :: rest =>
    match rest.dropWhile (· != '\x7d') with
    | _ :: later => reference (rest.takeWhile (· != '\x7d')) :: parts n later
    | [] => .char '$' :: parts n ('\x7b' :: rest)
  | n + 1, '$' :: rest =>
    match rest.takeWhile isNameChar with
    | [] => .char '$' :: parts n rest
    | t => reference t :: parts n (rest.dropWhile isNameChar)
  | n + 1, c :: rest => .char c :: parts n rest
  | 0, _ | _, [] => []

/-- The parts of a text. -/
def parse (t : Text) : List TemplatePart :=
  parts t.length t

end Template

namespace Pattern

/-- What a group matched. The whole match has the number zero. -/
def groupText (f : Regex.Found) (index : Nat) : Text :=
  if index = 0 then f.text else (f.past.groups.lookup index).getD []

/-- What takes the place of a match. -/
def expand (p : Pattern) (f : Regex.Found) (template : List TemplatePart) : Text :=
  template.flatMap fun
    | .char c => [c]
    | .group index => groupText f index
    | .name t => ((p.names.lookup t).map (groupText f)).getD []

/-- Puts the template in the place of the first match. -/
def replaceFirst (p : Pattern) (template : List TemplatePart) (t : Text) : Text :=
  match p.regex.find none t with
  | none => t
  | some f => f.skipped ++ p.expand f template ++ f.past.rest

/-- Puts the template in the place of matches, in at most `n` steps. An empty match right behind the
match before it does not count: the search goes on one character later. -/
def replaceFrom (p : Pattern) (template : List TemplatePart) :
    Nat → (before : Option Char) → (behindMatch : Bool) → Text → Text
  | 0, _, _, t => t
  | n + 1, before, behindMatch, t =>
    match p.regex.find before t with
    | none => t
    | some f =>
      if behindMatch ∧ f.skipped = [] ∧ f.text = [] then
        match t with
        | [] => []
        | c :: rest => c :: replaceFrom p template n (some c) false rest
      else f.skipped ++ p.expand f template ++ replaceFrom p template n f.past.before true f.past.rest

/-- Puts the template in the place of every match. -/
def replaceAll (p : Pattern) (template : List TemplatePart) (t : Text) : Text :=
  replaceFrom p template (2 * t.length + 2) none false t

/-- Puts the template in the place of the first match, or of every match. -/
def replace (p : Pattern) (replacement : Text) (all : Bool) : Text → Text :=
  if all then p.replaceAll (Template.parse replacement)
  else p.replaceFirst (Template.parse replacement)

end Pattern

end ModalEditor
