import ModalEditor.Config.Scalar

/-!
# Reading configuration documents

The notation of TOML: a key and its value on a line, headers of tables in brackets, comments, strings
in four kinds of quotes, arrays and tables as values. A document that breaks a rule is rejected as a
whole.

Every function that calls itself takes a number that bounds how often it does so. Each call reads at
least one character, so the length of the document is enough.
-/

namespace ModalEditor

/-- Something that is read from a document. -/
abbrev ConfigReader := StateT Text Option

namespace ConfigReader

/-! ## Characters -/

/-- Is the character allowed in comments and strings? Of the control characters only the tab is. -/
def isAllowed (c : Char) : Bool :=
  c == '\t' || (' ' ≤ c && c != '\x7f')

/-- Reads a character. -/
def next : ConfigReader Char := do
  match ← get with
  | c :: rest => do
    set rest
    return c
  | [] => failure

/-- Reads the given text if it is what follows. -/
def accept (t : String) : ConfigReader Bool := do
  let rest ← get
  if t.toList.isPrefixOf rest then
    set (rest.drop t.length)
    return true
  else return false

/-- Reads the given text, which has to follow. -/
def expect (t : String) : ConfigReader Unit := do
  guard (← accept t)

/-- Reads the longest run of characters with a property. -/
def takeWhile (p : Char → Bool) : ConfigReader Text := do
  let rest ← get
  set (rest.dropWhile p)
  return rest.takeWhile p

/-- Reads blanks. -/
def blanks : ConfigReader Unit :=
  discard (takeWhile fun c => c == ' ' || c == '\t')

/-- What is behind blanks, line breaks and comments. -/
def dropTrivia : (inComment : Bool) → Text → Text
  | false, ' ' :: t | false, '\t' :: t | _, '\n' :: t | _, '\r' :: '\n' :: t => dropTrivia false t
  | false, '#' :: t => dropTrivia true t
  | true, c :: t => if isAllowed c then dropTrivia true t else c :: t
  | _, t => t

/-- Reads blanks, line breaks and comments. -/
def trivia : ConfigReader Unit :=
  modify (dropTrivia false)

/-- Reads what may follow on a line: a comment. The line ends there, if not the document. -/
def lineEnd : ConfigReader Unit := do
  blanks
  if ← accept "#" then discard (takeWhile isAllowed)
  unless (← get).isEmpty || (← accept "\n") do expect "\r\n"

/-! ## Strings -/

/-- Reads a character given by `width` hexadecimal digits. -/
def hexChar (width : Nat) : ConfigReader Char := do
  let ds ← (List.range width).mapM fun _ => next
  guard (ds.all (Scalar.isDigitOf 16))
  let n := Scalar.value 16 ds
  guard n.isValidChar
  return Char.ofNat n

/-- Reads what follows a backslash. -/
def escape : ConfigReader Char := do
  match ← next with
  | 'b' => return '\x08'
  | 't' => return '\t'
  | 'n' => return '\n'
  | 'f' => return '\x0c'
  | 'r' => return '\r'
  | 'e' => return '\x1b'
  | '\x22' => return '\x22'
  | '\\' => return '\\'
  | 'x' => hexChar 2
  | 'u' => hexChar 4
  | 'U' => hexChar 8
  | _ => failure

/-- Reads the rest of a string in double quotes. -/
def quotedRest : Nat → ConfigReader Text
  | 0 => failure
  | n + 1 => do
    match ← next with
    | '\x22' => return []
    | '\\' => do
      let c ← escape
      return c :: (← quotedRest n)
    | c => do
      guard (isAllowed c)
      return c :: (← quotedRest n)

/-- Reads the rest of a string in single quotes. -/
def literalRest : ConfigReader Text := do
  let t ← takeWhile fun c => isAllowed c && c != '\x27'
  expect "\x27"
  return t

/-- Reads the rest of a string that may have several lines, up to and with three quotes. Up to two
more of them belong to the string. With `escapes`, a backslash means what it means in double quotes,
and takes a line break and the blanks around it away. -/
def linesRest (quote : String) (escapes : Bool) : Nat → ConfigReader Unit
  | 0 => failure
  | n + 1 => do
    if ← accept (quote ++ quote ++ quote) then
      if ← accept quote then discard (accept quote)
    else if ← accept "\r\n" then linesRest quote escapes n
    else
      match ← next with
      | '\\' =>
        if escapes then
          let rest ← get
          match rest.dropWhile fun c => c == ' ' || c == '\t' with
          | '\n' :: later | '\r' :: '\n' :: later => set later
          | _ => discard escape
        linesRest quote escapes n
      | c => do
        guard (isAllowed c || c == '\n')
        linesRest quote escapes n

/-- Reads a string, of whatever kind. -/
def anyString : ConfigReader Unit := do
  let n := (← get).length
  if ← accept "\x22\x22\x22" then linesRest "\x22" true n
  else if ← accept "\x27\x27\x27" then linesRest "\x27" false n
  else if ← accept "\x22" then discard (quotedRest n)
  else do
    expect "\x27"
    discard literalRest

/-! ## Keys -/

/-- Can the character be part of a key without quotes? -/
def isKeyChar (c : Char) : Bool :=
  c.isAlphanum || c == '_' || c == '-'

/-- Reads a key without dots. -/
def simpleKey : ConfigReader Text := do
  if ← accept "\x22" then quotedRest (← get).length
  else if ← accept "\x27" then literalRest
  else do
    let key ← takeWhile isKeyChar
    guard !key.isEmpty
    return key

/-- Reads a key that may be dotted, with the blanks behind it. Gives its parts. -/
def dottedKey : Nat → ConfigReader (List Text)
  | 0 => failure
  | n + 1 => do
    blanks
    let key ← simpleKey
    blanks
    if ← accept "." then return key :: (← dottedKey n)
    else return [key]

/-- Reads a key that may be dotted: all its parts but the last, and the last. -/
def keyPath : ConfigReader (List Text × Text) := do
  let keys ← dottedKey ((← get).length + 1)
  match keys.getLast? with
  | some key => return (keys.dropLast, key)
  | none => failure

/-! ## Values -/

/-- Reads a value that is a run of characters. A blank may be part of it between a day and a time. -/
def scalar : ConfigReader ConfigValue := do
  let isPart (c : Char) : Bool := c.isAlphanum || c == '_' || c == '-' || c == '+' || c == '.' ||
    c == ':'
  let t ← takeWhile isPart
  let t ← match Scalar.day? t, ← get with
    | some [], ' ' :: c :: _ =>
      if c.isDigit then do
        let _ ← next
        pure (t ++ [' '] ++ (← takeWhile isPart))
      else pure t
    | _, _ => pure t
  Scalar.read? t

/-- Reads items with commas between them, up to and with the closing sign. A comma may follow the last
one. -/
def items {α : Type} (closing : String) (item : ConfigReader α) : Nat → ConfigReader (List α)
  | 0 => failure
  | n + 1 => do
    trivia
    if ← accept closing then return []
    let a ← item
    trivia
    if ← accept "," then return a :: (← items closing item n)
    expect closing
    return [a]

/-- Reads a value. -/
def value : Nat → ConfigReader ConfigValue
  | 0 => failure
  | n + 1 => do
    match (← get).head? with
    | some '\x22' | some '\x27' => do
      anyString
      return .string
    | some '[' => do
      expect "["
      let vs ← items "]" (value n) (← get).length
      return .array vs
    | some '\x7b' => do
      expect "\x7b"
      let entry := do
        let (path, key) ← keyPath
        expect "="
        blanks
        return (path, key, ← value n)
      let entries ← items "\x7d" entry (← get).length
      let t ← entries.foldlM (fun t (path, key, v) => ConfigTable.insert key v path t) []
      return .table .inline t
    | _ => scalar

/-! ## Documents -/

/-- Reads the lines of a document. They belong to the table with the header `header`. -/
def lines : Nat → (header : List Text) → ConfigTable → ConfigReader ConfigTable
  | 0, _, _ => failure
  | n + 1, header, t => do
    trivia
    if (← get).isEmpty then return t
    else if ← accept "[[" then
      let (path, key) ← keyPath
      expect "]]"
      lineEnd
      lines n (path ++ [key]) (← t.openTables path key)
    else if ← accept "[" then
      let (path, key) ← keyPath
      expect "]"
      lineEnd
      lines n (path ++ [key]) (← t.openTable path key)
    else do
      let (path, key) ← keyPath
      expect "="
      blanks
      let v ← value (← get).length
      lineEnd
      lines n header (← t.within (ConfigTable.insert key v path) header)

end ConfigReader

/-- The table that a document describes. None if it is not a document. A byte order mark at its
beginning does not count. -/
def ConfigTable.parse? (t : Text) : Option ConfigTable :=
  let t := if t.head? = some '\uFEFF' then t.drop 1 else t
  ((ConfigReader.lines (t.length + 1) [] []).run t).map (·.1)

end ModalEditor
