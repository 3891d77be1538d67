import ModalEditor.Editor.Basic

/-!
# Typing a command line

The editor only collects the line. A line that was submitted is handed on to whoever runs the editor.
-/

namespace ModalEditor

/-- The range of `n` lines from the cursor on, as a command line writes it; nothing without a count.
-/
def CommandLine.rangeText : Option Nat → Text
  | none => []
  | some 1 => ['.']
  | some n => ".,.+".toList ++ (toString (n - 1)).toList

namespace EditorM

/-- Opens a command line. A count is written as a range of lines. -/
def startCommandLine (count : Option Nat) : EditorM Unit := do
  transition .enterCommandLine
  modify fun e => { e with commandLine := .start (CommandLine.rangeText count) }

/-- Adds a character to the command line. -/
def typeCommand (c : Char) : EditorM Unit :=
  modify fun e => { e with commandLine := e.commandLine.push c }

/-- Takes the last character from the command line. If there is none, the mode is left. -/
def eraseCommand : EditorM Unit := do
  match (← get).commandLine.backspace? with
  | some commandLine => modify fun e => { e with commandLine }
  | none => do
    modify fun e => { e with commandLine := .closed }
    transition .escape

/-- Submits the command line, which closes it. -/
def submitCommand : EditorM Unit := do
  transition .submit
  modify fun e => { e with commandLine := .closed }

end EditorM

end ModalEditor
