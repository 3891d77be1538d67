import ModalEditor.Config.Resolve
import ModalEditor.Engine
import ModalEditor.Key.Script
import ModalEditor.Program.TextFile
import ModalEditor.Unicode.Utf8

/-!
# Running a key script on a file

The command line program: it reads a file, types the keys of a script, and prints the text or writes
it back. Nothing here touches a disk. What the program would read is given to it, and what it would
print or write is its result. No log is kept: what a program notes of its work in a file of its own is no
part of the result, and that file is taken to be none of those that are read or written here.
-/

namespace ModalEditor

/-- What is found under the name of a file. -/
inductive FileState where
  | absent
  /-- It cannot be read, for the reason given. -/
  | unreadable (reason : Text)
  | readable (t : Text)
  deriving DecidableEq, Repr

namespace FileState

/-- A file with the given bytes. -/
def ofBytes (bs : List Nat) : FileState :=
  match Utf8.decode? bs with
  | some t => .readable t
  | none => .unreadable "stream did not contain valid UTF-8".toList

/-- The text of the file, or the reason why there is none. -/
def text : FileState → Except Text Text
  | .readable t => .ok t
  | .unreadable reason => .error reason
  | .absent => .error "No such file or directory (os error 2)".toList

/-- Does the file exist? -/
def isPresent : FileState → Bool
  | .absent => false
  | _ => true

end FileState

/-- The arguments of the program. -/
structure Arguments where
  /-- The file to edit. -/
  path : Option Text := none
  /-- The key script. -/
  keys : Option Text := none
  /-- The file that holds the key script. -/
  keysFile : Option Text := none
  /-- The file that holds the settings. -/
  config : Option Text := none
  /-- The text is written back. -/
  write : Bool := false
  deriving DecidableEq, Repr

/-- Can the arguments be given together? There is one key script, and what is written back needs a
file. -/
def Arguments.isConsistent (a : Arguments) : Bool :=
  !(a.keys.isSome && a.keysFile.isSome) && (!a.write || a.path.isSome)

/-- What can be read: the files, and the directory with the settings of the user. -/
structure Disk where
  file : Text → FileState
  configDirectory : Option Text := none

/-- The result of the program. -/
structure RunResult where
  /-- The exit code. -/
  exit : Nat
  output : Text := []
  errors : Text := []
  /-- What the file to edit is to contain, if it is written. -/
  written : Option Text := none
  deriving DecidableEq, Repr

namespace Program

/-- The name of the file with the settings. -/
def configName : Text :=
  "oxmodal.toml".toList

/-- Where the settings are: in the directory where the program runs, or in that of the user. -/
def configPath (disk : Disk) : Text :=
  if (disk.file configName).isPresent then configName
  else
    match disk.configDirectory with
    | some directory => directory ++ "/oxmodal/".toList ++ configName
    | none => configName

/-- The settings. Those that cannot be read are the defaults. -/
def loadSettings (a : Arguments) (disk : Disk) : Settings :=
  match disk.file (a.config.getD (configPath disk)) with
  | .readable t => (Settings.parse? t).getD {}
  | _ => {}

/-- A failure of the program: what it was doing, and the cause. -/
structure Failure where
  context : Text
  cause : Text
  deriving DecidableEq, Repr

/-- The wording of the failure. -/
def Failure.message (f : Failure) : Text :=
  "Error: ".toList ++ f.context ++ "\n\nCaused by:\n    ".toList ++ f.cause ++ ['\n']

/-- The text of a file, or the failure of reading it. -/
def readFile (disk : Disk) (context : String) (path : Text) : Except Failure Text :=
  (disk.file path).text.mapError fun cause => ⟨context.toList ++ path, cause⟩

/-- The file to edit. A file that does not exist is empty. -/
def loadFile (a : Arguments) (disk : Disk) : Except Failure TextFile :=
  match a.path with
  | none => .ok (.parse [])
  | some path =>
    if (disk.file path).isPresent then (readFile disk "reading " path).map .parse
    else .ok (.parse [])

/-- The text without the line breaks at its end. -/
def dropFinalBreaks (t : Text) : Text :=
  (t.reverse.dropWhile fun c => c == '\r' || c == '\n').reverse

/-- The keys to type. -/
def loadKeys (a : Arguments) (disk : Disk) : Except Failure (List Key) := do
  let script ← match a.keys, a.keysFile with
    | some script, _ => pure script
    | none, some path => dropFinalBreaks <$> readFile disk "reading key script " path
    | none, none => pure []
  (KeyScript.parse script).mapError fun e => ⟨"parsing key script".toList, e.message.toList⟩

/-- Types the keys. Gives the lines of the text, and the command lines that were submitted. -/
def typeKeys (settings : Settings) (lines : List Text) (keys : List Key) : List Text × List Text :=
  let (engine, outcomes) := (Engine.ofBuffer (.ofLines lines) settings).handleKeys keys
  (engine.editor.document.buffer.lines, outcomes.filterMap (·.submitted))

/-- What the program does when nothing fails. -/
def edit (a : Arguments) (settings : Settings) (file : TextFile) (keys : List Key) : RunResult :=
  let (lines, submitted) := typeKeys settings file.lines keys
  let errors := submitted.flatMap fun line => ':' :: line ++ ['\n']
  let t := { file with lines }.render
  if a.write then { exit := 0, errors, written := some t }
  else { exit := 0, errors, output := t ++ (if file.endsInBreak then [] else ['\n']) }

/-- Runs the program. Arguments that cannot be given together end it at once. -/
def run (a : Arguments) (disk : Disk) : RunResult :=
  if a.isConsistent then
    let attempt : Except Failure RunResult := do
      let file ← loadFile a disk
      let keys ← loadKeys a disk
      return edit a (loadSettings a disk).clamp file keys
    match attempt with
    | .ok result => result
    | .error f => { exit := 1, errors := f.message }
  else { exit := 2 }

end Program

end ModalEditor
