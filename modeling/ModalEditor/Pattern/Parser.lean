import ModalEditor.Pattern.Match
import ModalEditor.Unicode.Alphanumeric

/-!
# Reading patterns

The notation of regular expressions: literal characters, `.`, classes in brackets with their
operators, the letters `\w`, `\d` and `\s`, the anchors `^`, `$`, `\A`, `\z`, `\b`, `\B`, `\<` and
`\>`, groups with and without names, alternatives, repetitions with and without `?`, and the flags
`i`, `m`, `s`, `U` and `u`. A text that is not a pattern is rejected; so are look-around, references
to groups, properties by name, and the flag `x`.

Every function that calls itself takes a number that bounds how often it does so. Each call reads at
least one character, so the length of the pattern is enough.
-/

namespace ModalEditor

/-- What a flag can change about the meaning of a pattern. -/
structure PatternFlags where
  ignoreCase : Bool := false
  /-- `^` and `$` match at line breaks as well. -/
  multiLine : Bool := false
  /-- `.` matches a line break as well. -/
  dotAll : Bool := false
  /-- Repetitions are not greedy, and those with `?` are. -/
  swapGreed : Bool := false
  deriving DecidableEq, Repr

/-- How far a pattern was read. -/
structure PatternState where
  /-- What is still to be read. -/
  rest : Text
  flags : PatternFlags := {}
  /-- How many groups there are so far. -/
  groups : Nat := 0
  /-- The names of groups. -/
  names : List (Text × Nat) := []
  deriving DecidableEq, Repr

/-- Something that is read from a pattern. -/
abbrev PatternReader := StateT PatternState Option

/-- What a single character or an escape stands for. -/
inductive PatternAtom where
  | char (c : Char)
  | set (s : CharSet)
  | anchor (a : Anchor)
  deriving DecidableEq, Repr

namespace PatternReader

/-! ## Characters and numbers -/

/-- Reads a character. -/
def next : PatternReader Char := do
  match (← get).rest with
  | c :: rest => do
    modify fun s => { s with rest }
    return c
  | [] => failure

/-- Reads the given text if it is what follows. -/
def accept (t : String) : PatternReader Bool := do
  let s ← get
  if t.toList.isPrefixOf s.rest then
    set { s with rest := s.rest.drop t.length }
    return true
  else return false

/-- Reads the given character, which has to follow. -/
def expect (c : Char) : PatternReader Unit := do
  guard ((← next) = c)

/-- Reads the longest run of characters with a property. -/
def takeWhile (p : Char → Bool) : PatternReader Text := do
  let s ← get
  set { s with rest := s.rest.dropWhile p }
  return s.rest.takeWhile p

/-- The value of hexadecimal digits, if there are any and all are. -/
def hexValue? (t : Text) : Option Nat :=
  if t.isEmpty then none
  else
    t.foldlM
      (fun n c =>
        if c.isDigit then some (16 * n + (c.toNat - '0'.toNat))
        else if 'a' ≤ c ∧ c ≤ 'f' then some (16 * n + (c.toNat - 'a'.toNat + 10))
        else if 'A' ≤ c ∧ c ≤ 'F' then some (16 * n + (c.toNat - 'A'.toNat + 10))
        else none)
      0

/-- Reads a decimal number of at most 32 bits, with blanks around it. -/
def number : PatternReader Nat := do
  let _ ← takeWhile Unicode.isBlank
  let digits ← takeWhile Char.isDigit
  let _ ← takeWhile Unicode.isBlank
  guard !digits.isEmpty
  let n := digits.foldl (fun n c => 10 * n + (c.toNat - '0'.toNat)) 0
  guard (n < UInt32.size)
  return n

/-- Reads the code of a character: `width` hexadecimal digits, or any number of them in braces. -/
def hexChar (width : Nat) : PatternReader Char := do
  let digits ←
    if ← accept "\x7b" then do
      let digits ← takeWhile (· != '\x7d')
      expect '\x7d'
      pure digits
    else (List.range width).mapM fun _ => next
  let n ← hexValue? digits
  guard n.isValidChar
  return Char.ofNat n

/-- Reads what follows `\b`: the name of one edge of a word in braces, if there is one. Braces with
anything else in them are bounds of a repetition. -/
def wordAnchor : PatternReader Anchor := do
  if ← accept "\x7bstart\x7d" then return .wordStart
  else if ← accept "\x7bend\x7d" then return .wordEnd
  else if ← accept "\x7bstart-half\x7d" then return .noWordBefore
  else if ← accept "\x7bend-half\x7d" then return .noWordBehind
  else return .wordBoundary

/-- Reads what follows a backslash. -/
def escape : PatternReader PatternAtom := do
  match ← next with
  | 'd' => return .set (.property .digit)
  | 'D' => return .set (.compl (.property .digit))
  | 's' => return .set (.property .blank)
  | 'S' => return .set (.compl (.property .blank))
  | 'w' => return .set (.property .word)
  | 'W' => return .set (.compl (.property .word))
  | 'x' => .char <$> hexChar 2
  | 'u' => .char <$> hexChar 4
  | 'U' => .char <$> hexChar 8
  | 'a' => return .char '\x07'
  | 'f' => return .char '\x0c'
  | 't' => return .char '\t'
  | 'n' => return .char '\n'
  | 'r' => return .char '\r'
  | 'v' => return .char '\x0b'
  | 'A' => return .anchor .textStart
  | 'z' => return .anchor .textEnd
  | 'b' => .anchor <$> wordAnchor
  | 'B' => return .anchor .noWordBoundary
  | '<' => return .anchor .wordStart
  | '>' => return .anchor .wordEnd
  | c => do
    guard (c.toNat < 0x80 ∧ !c.isAlphanum)
    return .char c

/-- The set as the flags have it. -/
def foldSet (s : CharSet) : PatternReader CharSet := do
  return if (← get).flags.ignoreCase then .upToCase s else s

/-! ## Classes in brackets -/

/-- An operator between sets. -/
abbrev SetOperator := CharSet → CharSet → CharSet

/-- A class of which a part has been read. -/
structure OpenClass where
  negated : Bool
  /-- The left side of an operator, and the operator. -/
  left : Option (CharSet × SetOperator) := none
  /-- The members since the bracket or since the operator. -/
  members : CharSet := .empty

namespace OpenClass

/-- The class with more members. -/
def add (k : OpenClass) (s : CharSet) : OpenClass :=
  { k with members := .union k.members s }

/-- The set that has been read so far. Both sides of an operator are taken up to case on their own. -/
def combined (k : OpenClass) : PatternReader CharSet := do
  match k.left with
  | none => return k.members
  | some (left, op) => return op (← foldSet left) (← foldSet k.members)

end OpenClass

/-- Reads the beginning of a class, behind its bracket. Hyphens there are members, and so is a closing
bracket if nothing comes before it. -/
def openClass : PatternReader OpenClass := do
  let negated ← accept "^"
  let hyphens ← takeWhile (· = '-')
  let k : OpenClass := { negated, members := if hyphens.isEmpty then .empty else .singleton '-' }
  if hyphens.isEmpty then
    if ← accept "]" then return k.add (.singleton ']')
  return k

/-- Reads a member of a class. -/
def classAtom : PatternReader PatternAtom := do
  match ← next with
  | '\\' => escape
  | c => return .char c

/-- Reads a member of a class, or a range between two of them. -/
def classRange : PatternReader CharSet := do
  let first ← classAtom
  let isRange := match (← get).rest with
    | '-' :: ']' :: _ | '-' :: '-' :: _ => false
    | '-' :: _ => true
    | _ => false
  match first, isRange with
  | .char a, true => do
    expect '-'
    match ← classAtom with
    | .char b => do
      guard (a ≤ b)
      return .range a b
    | _ => failure
  | .char a, false => return .singleton a
  | .set s, false => return s
  | _, _ => failure

/-- Reads the rest of the name of an ASCII class, behind `[:`. Nothing is read if it is none. -/
def asciiClass? : PatternReader (Option CharSet) := do
  let before ← get
  let negated ← accept "^"
  let name ← takeWhile (· != ':')
  match ← accept ":]", CharSet.ofAsciiName? (String.ofList name) with
  | true, some s => return some (if negated then .compl s else s)
  | _, _ => do
    set before
    return none

/-- Reads `[:` and the name of an ASCII class. Nothing is read if they do not follow. -/
def bracketedName? : PatternReader (Option CharSet) := do
  let before ← get
  if ← accept "[:" then
    match ← asciiClass? with
    | some s => return some s
    | none => do
      set before
      return none
  else return none

/-- The operators of which two signs follow each other. -/
def setOperator? : PatternReader (Option SetOperator) := do
  if ← accept "&&" then return some .inter
  else if ← accept "--" then return some .diff
  else if ← accept "~~" then return some .symmDiff
  else return none

/-- Reads the rest of a class, up to and with its closing bracket. -/
def classRest : Nat → OpenClass → PatternReader CharSet
  | 0, _ => failure
  | n + 1, k => do
    if ← accept "]" then
      let s ← foldSet (← k.combined)
      return if k.negated then .compl s else s
    match ← bracketedName? with
    | some s => classRest n (k.add s)
    | none =>
      if ← accept "[" then
        let s ← classRest n (← openClass)
        classRest n (k.add s)
      else
        match ← setOperator? with
        | some op => do
          let left ← k.combined
          classRest n { negated := k.negated, left := some (left, op) }
        | none => do
          let s ← classRange
          classRest n (k.add s)

/-- Reads a class, behind its bracket. -/
def bracketClass : PatternReader CharSet := do
  let k ← openClass
  classRest ((← get).rest.length + 1) k

/-! ## Repetitions -/

/-- Reads the bounds of a repetition, behind the opening brace. -/
def bounds : PatternReader (Nat × Option Nat) := do
  let least ← number
  match ← next with
  | '\x7d' => return (least, some least)
  | ',' =>
    if ← accept "\x7d" then return (least, none)
    let most ← number
    expect '\x7d'
    guard (least ≤ most)
    return (least, some most)
  | _ => failure

/-- Reads the bounds of a repetition, if one follows. -/
def bounds? : PatternReader (Option (Nat × Option Nat)) := do
  if ← accept "*" then return some (0, none)
  else if ← accept "+" then return some (1, none)
  else if ← accept "?" then return some (0, some 1)
  else if ← accept "\x7b" then some <$> bounds
  else return none

/-! ## Groups -/

/-- The beginning of a group. -/
inductive GroupStart where
  /-- Flags for the rest of the surrounding group. -/
  | flags (f : PatternFlags)
  /-- A group that is not remembered, with its flags. -/
  | plain (f : PatternFlags)
  /-- A group that is remembered under a number. -/
  | numbered (index : Nat)
  deriving DecidableEq, Repr

/-- Counts one more group, and gives its number. -/
def newGroup : PatternReader GroupStart := do
  let index := (← get).groups + 1
  modify fun s => { s with groups := index }
  return .numbered index

/-- Can the character be part of the name of a group? -/
def isNameChar (c : Char) : Bool :=
  c == '_' || c == '.' || c == '[' || c == ']' || Unicode.isAlphanumeric c

/-- Reads the name of a group, behind its opening angle. Two groups cannot have one name. -/
def groupName : PatternReader GroupStart := do
  let name ← takeWhile isNameChar
  expect '>'
  guard (name.head?.any fun c => c == '_' || Unicode.isAlphabetic c)
  let s ← get
  guard (s.names.all (·.1 != name))
  set { s with names := s.names ++ [(name, s.groups + 1)] }
  newGroup

/-- The flags with one of them set or cleared. -/
def setFlag? (f : PatternFlags) (c : Char) (value : Bool) : Option PatternFlags :=
  match c with
  | 'i' => some { f with ignoreCase := value }
  | 'm' => some { f with multiLine := value }
  | 's' => some { f with dotAll := value }
  | 'U' => some { f with swapGreed := value }
  | 'u' => if value then some f else none
  | _ => none

/-- The flags as changed by letters; those behind a hyphen are cleared. -/
def applyFlags (f : PatternFlags) (letters : Text) : Option PatternFlags := do
  guard (decide letters.Nodup && letters.getLast? != some '-')
  let enabled := letters.takeWhile (· != '-')
  let cleared := (letters.dropWhile (· != '-')).drop 1
  let f ← enabled.foldlM (setFlag? · · true) f
  cleared.foldlM (setFlag? · · false) f

/-- Reads the beginning of a group, behind its parenthesis. -/
def groupStart : PatternReader GroupStart := do
  if ← accept "?P<" then groupName
  else if ← accept "?<" then groupName
  else if ← accept "?" then
    let letters ← takeWhile fun c => c != ':' && c != ')'
    let f ← applyFlags (← get).flags letters
    match ← next with
    | ':' => return .plain f
    | _ => do
      guard !letters.isEmpty
      return .flags f
  else newGroup

/-! ## Expressions -/

/-- An expression of which a part has been read. -/
structure OpenRegex where
  /-- The alternatives that are complete, the latest first. -/
  alternatives : List Regex := []
  /-- The parts of the alternative that is being read, the latest first. Flags leave an empty place,
  which cannot be repeated. -/
  parts : List (Option Regex) := []
  deriving DecidableEq, Repr

namespace OpenRegex

/-- The alternative that is being read. -/
def current (o : OpenRegex) : Regex :=
  match o.parts.filterMap id with
  | [] => .empty
  | r :: earlier => earlier.foldl (fun later r => .seq r later) r

/-- The expression that has been read. -/
def regex (o : OpenRegex) : Regex :=
  o.alternatives.foldl (fun later r => .alt r later) o.current

/-- The expression with one more part. -/
def push (o : OpenRegex) (r : Regex) : OpenRegex :=
  { o with parts := some r :: o.parts }

end OpenRegex

/-- Reads a part that is a single character, a class or an anchor. -/
def simplePart : PatternReader Regex := do
  let flags := (← get).flags
  match ← next with
  | '.' => return .char (if flags.dotAll then .compl .empty else .compl (.singleton '\n'))
  | '^' => return .anchor (if flags.multiLine then .lineStart else .textStart)
  | '$' => return .anchor (if flags.multiLine then .lineEnd else .textEnd)
  | '[' => .char <$> bracketClass
  | '\\' =>
    match ← escape with
    | .char c => .char <$> foldSet (.singleton c)
    | .set s => return .char s
    | .anchor a => return .anchor a
  | c => .char <$> foldSet (.singleton c)

/-- Reads an expression, up to the end of the pattern or to a closing parenthesis. -/
def expression : Nat → OpenRegex → PatternReader Regex
  | 0, _ => failure
  | n + 1, o => do
    match (← get).rest with
    | [] | ')' :: _ => return o.regex
    | _ =>
      if ← accept "|" then
        expression n { alternatives := o.current :: o.alternatives }
      else if ← accept "(" then
        let outer := (← get).flags
        match ← groupStart with
        | .flags flags => do
          modify fun s => { s with flags }
          expression n { o with parts := none :: o.parts }
        | .plain flags => do
          modify fun s => { s with flags }
          let r ← expression n {}
          expect ')'
          modify fun s => { s with flags := outer }
          expression n (o.push r)
        | .numbered index => do
          let r ← expression n {}
          expect ')'
          modify fun s => { s with flags := outer }
          expression n (o.push (.group index r))
      else
        match ← bounds? with
        | some (least, most) =>
          let lazily ← accept "?"
          let greedy := lazily == (← get).flags.swapGreed
          match o.parts with
          | some r :: earlier =>
            expression n { o with parts := some (.repeated r least most greedy) :: earlier }
          | _ => failure
        | none => do
          let r ← simplePart
          expression n (o.push r)

end PatternReader

/-- A pattern: its expression, and the numbers of the groups that have names. -/
structure Pattern where
  regex : Regex
  names : List (Text × Nat)
  deriving DecidableEq, Repr

/-- Reads a pattern. None if the text is not a pattern. -/
def Pattern.parse? (t : Text) : Option Pattern :=
  match (PatternReader.expression (t.length + 1) {}).run { rest := t } with
  | some (regex, s) => if s.rest.isEmpty then some { regex, names := s.names } else none
  | none => none

end ModalEditor
