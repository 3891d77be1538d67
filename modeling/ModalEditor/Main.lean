import ModalEditor.Program.Arguments

/-!
# The command line program

Reads the files that the arguments name, runs the program on what they hold, and prints or writes the
result.
-/

namespace ModalEditor

/-- The wording of a failure of the system. -/
def describe (failure : IO.Error) : Text :=
  let numbered (code : UInt32) (details : String) : String :=
    details ++ " (os error " ++ toString code ++ ")"
  let t := match failure with
    | .permissionDenied _ code details | .inappropriateType _ code details
    | .noFileOrDirectory _ code details => numbered code details
    | _ => toString failure
  t.toList

/-- What is found under the name of a file. -/
def readState (name : Text) : IO FileState := do
  try
    let bytes ← IO.FS.readBinFile (String.ofList name)
    return .ofBytes (bytes.toList.map (·.toNat))
  catch
    | .noFileOrDirectory .. => return .absent
    | failure => return .unreadable (describe failure)

/-- The directory with the settings of the user, if the environment tells. -/
def configDirectory : IO (Option Text) := do
  match ← IO.getEnv "XDG_CONFIG_HOME" with
  | some directory =>
    if directory.startsWith "/" then return some directory.toList
  | none => pure ()
  return (← IO.getEnv "HOME").map fun home => home.toList ++ "/.config".toList

/-- What the program can read. -/
def readDisk (a : Arguments) : IO Disk := do
  let directory ← configDirectory
  let settings := directory.map fun d => d ++ "/oxmodal/".toList ++ Program.configName
  let names := [a.path, a.keysFile, a.config, some Program.configName, settings].filterMap id
  let states ← names.mapM fun name => return (name, ← readState name)
  return { file := fun name => (states.lookup name).getD .absent, configDirectory := directory }

/-- Prints a result, and writes the file that was edited if the result says so. Gives the exit code.
-/
def finish (a : Arguments) (result : RunResult) : IO UInt32 := do
  (← IO.getStderr).putStr (String.ofList result.errors)
  (← IO.getStdout).putStr (String.ofList result.output)
  match result.written, a.path with
  | some t, some path =>
    try
      IO.FS.writeFile (String.ofList path) (String.ofList t)
      return result.exit.toUInt32
    catch failure =>
      let f : Program.Failure := ⟨"writing ".toList ++ path, describe failure⟩
      (← IO.getStderr).putStr (String.ofList f.message)
      return 1
  | _, _ => return result.exit.toUInt32

end ModalEditor

open ModalEditor in
/-- The program. -/
def main (words : List String) : IO UInt32 := do
  match Arguments.parse? (words.map (·.toList)) with
  | none => return 2
  | some a => finish a (Program.run a (← readDisk a))
