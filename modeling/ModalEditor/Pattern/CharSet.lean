import ModalEditor.Unicode.Blank
import ModalEditor.Unicode.CaseFold
import ModalEditor.Unicode.WordChar

/-!
# Sets of characters

The sets that a pattern can name: ranges, the properties that have a letter of their own, what can be
built from sets, and sets that disregard case.
-/

namespace ModalEditor

/-- A property of characters that patterns have a letter for. -/
inductive CharProperty where
  | digit | blank | word
  deriving DecidableEq, Repr

/-- Has the character the property? -/
def CharProperty.holds : CharProperty → Char → Bool
  | .digit => Unicode.isDecimal
  | .blank => Unicode.isBlank
  | .word => Unicode.isWordChar

/-- A set of characters. -/
inductive CharSet where
  | empty
  /-- The characters from `first` to `last`. -/
  | range (first last : Char)
  | property (p : CharProperty)
  | compl (s : CharSet)
  | union (s t : CharSet)
  | inter (s t : CharSet)
  | diff (s t : CharSet)
  /-- What is in one of the two sets but not in both. -/
  | symmDiff (s t : CharSet)
  /-- What is the same up to case as a member of the set. -/
  | upToCase (s : CharSet)
  deriving DecidableEq, Repr

namespace CharSet

/-- Is the character in the set? -/
def mem : CharSet → Char → Bool
  | .empty, _ => false
  | .range first last, c => first ≤ c && c ≤ last
  | .property p, c => p.holds c
  | .compl s, c => !s.mem c
  | .union s t, c => s.mem c || t.mem c
  | .inter s t, c => s.mem c && t.mem c
  | .diff s t, c => s.mem c && !t.mem c
  | .symmDiff s t, c => s.mem c != t.mem c
  | .upToCase s, c => (Unicode.caseVariants c).any s.mem

/-- The set of one character. -/
def singleton (c : Char) : CharSet :=
  .range c c

/-- The union of ranges. -/
def ofRanges (ranges : List (Char × Char)) : CharSet :=
  ranges.foldr (fun r s => .union (.range r.1 r.2) s) .empty

/-- The set of ASCII characters with a name. -/
def ofAsciiName? (name : String) : Option CharSet :=
  match name with
  | "alnum" => some (ofRanges [('0', '9'), ('A', 'Z'), ('a', 'z')])
  | "alpha" => some (ofRanges [('A', 'Z'), ('a', 'z')])
  | "ascii" => some (.range '\x00' '\x7f')
  | "blank" => some (ofRanges [('\t', '\t'), (' ', ' ')])
  | "cntrl" => some (ofRanges [('\x00', '\x1f'), ('\x7f', '\x7f')])
  | "digit" => some (.range '0' '9')
  | "graph" => some (.range '!' '~')
  | "lower" => some (.range 'a' 'z')
  | "print" => some (.range ' ' '~')
  | "punct" => some (ofRanges [('!', '/'), (':', '@'), ('[', '\x60'), ('\x7b', '~')])
  | "space" => some (ofRanges [('\t', '\r'), (' ', ' ')])
  | "upper" => some (.range 'A' 'Z')
  | "word" => some (ofRanges [('0', '9'), ('A', 'Z'), ('_', '_'), ('a', 'z')])
  | "xdigit" => some (ofRanges [('0', '9'), ('A', 'F'), ('a', 'f')])
  | _ => none

end CharSet

end ModalEditor
