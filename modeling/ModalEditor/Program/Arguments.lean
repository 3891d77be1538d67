import ModalEditor.Program.Run

/-!
# Reading the arguments of the program

The options `--keys`, `--keys-file`, `--config` and `--write`, the short forms `-k` and `-w`, and the
file to edit. No option can be given twice. After `--` everything is the name of a file. Requests for
help and the wording of what is wrong with the arguments are left out: such arguments have no reading.
-/

namespace ModalEditor

namespace Arguments

/-- The arguments with the file to edit, unless there is one already. -/
def setPath? (a : Arguments) (t : Text) : Option Arguments :=
  if a.path.isSome then none else some { a with path := some t }

/-- The arguments with the value of an option, unless it was given already. -/
def setOption? (a : Arguments) (name : Text) (t : Text) : Option Arguments :=
  if name = "--keys".toList ∨ name = "-k".toList then
    if a.keys.isSome then none else some { a with keys := some t }
  else if name = "--keys-file".toList then
    if a.keysFile.isSome then none else some { a with keysFile := some t }
  else if name = "--config".toList then
    if a.config.isSome then none else some { a with config := some t }
  else none

/-- The arguments with `--write`, unless it was given already. -/
def setWrite? (a : Arguments) : Option Arguments :=
  if a.write then none else some { a with write := true }

/-- The arguments with short options that are written together. The rest of a word behind `-k` is its
value; if there is none, the name of an option that wants one is left over. -/
def readShort? (a : Arguments) : Text → Option (Arguments × Option Text)
  | [] => some (a, none)
  | 'w' :: rest =>
    match a.setWrite? with
    | some a => readShort? a rest
    | none => none
  | ['k'] => some (a, some "-k".toList)
  | 'k' :: '=' :: t | 'k' :: t => (a.setOption? "-k".toList t).map fun a => (a, none)
  | _ => none

/-- The arguments with one more word, and the option whose value is to follow. -/
def readWord? (a : Arguments) (word : Text) : Option (Arguments × Option Text) :=
  match word with
  | '-' :: '-' :: _ =>
    match word.dropWhile (· != '=') with
    | _ :: t => (a.setOption? (word.takeWhile (· != '=')) t).map fun a => (a, none)
    | [] =>
      if word = "--write".toList then a.setWrite?.map fun a => (a, none) else some (a, some word)
  | '-' :: c :: rest => a.readShort? (c :: rest)
  | _ => (a.setPath? word).map fun a => (a, none)

/-- Can the word be the value of an option that stands before it? -/
def isValue : Text → Bool
  | '-' :: _ :: _ => false
  | _ => true

/-- Reads the words of a command line, where `awaited` is the option whose value is to follow. None if
they are not arguments of the program. -/
def readWords? (a : Arguments) (awaited : Option Text) : List Text → Option Arguments
  | [] => if awaited.isNone then some a else none
  | word :: words =>
    match awaited with
    | some name =>
      if isValue word then (a.setOption? name word).bind (readWords? · none words) else none
    | none =>
      if word = "--".toList then words.foldlM setPath? a
      else
        match a.readWord? word with
        | some (a, awaited) => readWords? a awaited words
        | none => none

/-- Reads the words of a command line. None if they are not arguments of the program. -/
def parse? (words : List Text) : Option Arguments :=
  readWords? {} none words

end Arguments

end ModalEditor
