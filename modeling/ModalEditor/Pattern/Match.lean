import ModalEditor.Pattern.CharSet
import ModalEditor.Text.Basic

/-!
# Matching regular expressions

An expression is matched by trying its choices in their order, and going back to the next choice when
what follows does not match. The first way that succeeds is the match; it need not be the longest.

## Repetition

A repetition ends when it went round without taking a character, so that matching comes to an end:
every further round leaves less text. The rounds are counted down from the length of the text.
-/

namespace ModalEditor

/-- A place between two characters that an expression can ask for. -/
inductive Anchor where
  | textStart | textEnd
  /-- The beginning of the text, or behind a line break. -/
  | lineStart
  /-- The end of the text, or before a line break. -/
  | lineEnd
  /-- Between a word character and another one, or an end of the text. -/
  | wordBoundary
  | noWordBoundary
  /-- Before a word character, and not behind one. -/
  | wordStart
  /-- Behind a word character, and not before one. -/
  | wordEnd
  /-- Not behind a word character. -/
  | noWordBefore
  /-- Not before a word character. -/
  | noWordBehind
  deriving DecidableEq, Repr

/-- A regular expression. -/
inductive Regex where
  | empty
  | char (s : CharSet)
  | anchor (a : Anchor)
  | seq (r s : Regex)
  /-- The first of the two is preferred. -/
  | alt (r s : Regex)
  /-- What `r` matches is remembered under the number. -/
  | group (index : Nat) (r : Regex)
  /-- `r` at least `least` times, and at most `most` times if there is such a bound. As often as
  possible if `greedy`, and otherwise as seldom as possible. -/
  | repeated (r : Regex) (least : Nat) (most : Option Nat) (greedy : Bool)
  deriving DecidableEq, Repr

/-- A place in a text that is being matched. -/
structure Spot where
  /-- The character before it, unless it is the beginning of the text. -/
  before : Option Char
  /-- The text behind it. -/
  rest : Text
  /-- What the groups matched, the latest first. -/
  groups : List (Nat × Text) := []
  deriving DecidableEq, Repr

namespace Spot

/-- Is the place behind a word character? -/
def wordBefore (s : Spot) : Bool :=
  s.before.any Unicode.isWordChar

/-- Is the place before a word character? -/
def wordBehind (s : Spot) : Bool :=
  s.rest.head?.any Unicode.isWordChar

/-- Is this the place that is asked for? -/
def satisfies (s : Spot) : Anchor → Bool
  | .textStart => s.before.isNone
  | .textEnd => s.rest.isEmpty
  | .lineStart => s.before.all (· == '\n')
  | .lineEnd => s.rest.head?.all (· == '\n')
  | .wordBoundary => s.wordBefore != s.wordBehind
  | .noWordBoundary => s.wordBefore == s.wordBehind
  | .wordStart => !s.wordBefore && s.wordBehind
  | .wordEnd => s.wordBefore && !s.wordBehind
  | .noWordBefore => !s.wordBefore
  | .noWordBehind => !s.wordBehind

/-- The text between the place and a later one. -/
def textTo (s t : Spot) : Text :=
  s.rest.take (s.rest.length - t.rest.length)

/-- Remembers what a group matched that began at `first`. -/
def remember (s : Spot) (index : Nat) (first : Spot) : Spot :=
  { s with groups := (index, first.textTo s) :: s.groups }

/-- Is there as much text behind the one place as behind the other? -/
def sameAs (s t : Spot) : Bool :=
  s.rest.length == t.rest.length

end Spot

namespace Regex

/-- What is still to be matched from a place on. -/
abbrev Continuation := Spot → Option Spot

/-- A way to match something before what is still to be matched. -/
abbrev Matcher := Spot → Continuation → Option Spot

/-- Goes round again, or goes on; which of them is tried first depends on `greedy`. -/
def choose (greedy : Bool) (again onward : Unit → Option Spot) : Option Spot :=
  if greedy then again () <|> onward () else onward () <|> again ()

/-- Matches `n` times. -/
def exactly (m : Matcher) : Nat → Matcher
  | 0, s, k => k s
  | n + 1, s, k => m s fun t => exactly m n t k

/-- Matches at most `n` times. -/
def atMost (m : Matcher) (greedy : Bool) : Nat → Matcher
  | 0, s, k => k s
  | n + 1, s, k => choose greedy (fun _ => m s fun t => atMost m greedy n t k) fun _ => k s

/-- Matches once and more often, up to `n` times. A round that took no character is the last one. -/
def onceOrMore (m : Matcher) (greedy : Bool) : Nat → Matcher
  | 0, _, _ => none
  | n + 1, s, k =>
    m s fun t =>
      if t.sameAs s then k t
      else choose greedy (fun _ => onceOrMore m greedy n t k) fun _ => k t

/-- Matches any number of times from `least` on. There cannot be more rounds than characters that take
one each, and one more that takes none. -/
def atLeast (m : Matcher) (greedy : Bool) (least : Nat) : Matcher := fun s k =>
  match least with
  | 0 => choose greedy (fun _ => onceOrMore m greedy (s.rest.length + 1) s k) fun _ => k s
  | n + 1 => exactly m n s fun t => onceOrMore m greedy (t.rest.length + 1) t k

/-- Matches the expression at a place before what is still to be matched. -/
def run : Regex → Matcher
  | .empty => fun s k => k s
  | .char set => fun s k =>
    match s.rest with
    | c :: rest => if set.mem c then k { s with before := some c, rest } else none
    | [] => none
  | .anchor a => fun s k => if s.satisfies a then k s else none
  | .seq r₁ r₂ => fun s k => r₁.run s fun t => r₂.run t k
  | .alt r₁ r₂ => fun s k => r₁.run s k <|> r₂.run s k
  | .group index r => fun s k => r.run s fun t => k (t.remember index s)
  | .repeated r least none greedy => atLeast r.run greedy least
  | .repeated r least (some most) greedy => fun s k =>
    exactly r.run least s fun t => atMost r.run greedy (most - least) t k

/-- The place where a match ends that begins here, if there is one. -/
def matchAt (r : Regex) (s : Spot) : Option Spot :=
  r.run s some

/-- A match: the text before it, and the places where it begins and ends. -/
structure Found where
  skipped : Text
  first : Spot
  past : Spot
  deriving DecidableEq, Repr

/-- The text that was matched. -/
def Found.text (f : Found) : Text :=
  f.first.textTo f.past

/-- The first match at a place or behind it. -/
def find (r : Regex) (before : Option Char) (t : Text) : Option Found :=
  match r.matchAt { before, rest := t } with
  | some past => some { skipped := [], first := { before, rest := t }, past }
  | none =>
    match t with
    | [] => none
    | c :: rest =>
      (find r (some c) rest).map fun f => { f with skipped := c :: f.skipped }

end Regex

end ModalEditor
