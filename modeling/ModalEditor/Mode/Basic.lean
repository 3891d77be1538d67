/-!
# Modes

The mode decides what a key means. Events lead from one mode to another. Both have names that appear
in messages.
-/

namespace ModalEditor

/-- How a session of typing was opened. -/
inductive InsertVariant where
  /-- Before the cursor. -/
  | insert
  /-- Behind the cursor. -/
  | append
  /-- Before the first text of the line. -/
  | insertAtFirstText
  /-- At the end of the line. -/
  | appendAtLineEnd
  /-- On a new line below. -/
  | openBelow
  /-- On a new line above. -/
  | openAbove
  /-- In the place of text that was taken out. -/
  | change
  deriving DecidableEq, Repr

/-- The shape of a visual selection. -/
inductive VisualKind where
  | char | line | block
  deriving DecidableEq, Repr

/-- What the editor is doing, and so what a key means. -/
inductive Mode where
  | normal
  | insert (variant : InsertVariant)
  | visual (kind : VisualKind)
  | replace
  | replaceSingle
  | commandLine
  deriving DecidableEq, Repr

/-- What leads from one mode to another. -/
inductive ModeEvent where
  | enterInsert (variant : InsertVariant)
  | enterVisual (kind : VisualKind)
  | enterReplace
  | enterReplaceSingle
  | enterCommandLine
  | escape
  | operatorApplied
  | replaceCommitted
  | submit
  deriving DecidableEq, Repr

/-- The name of an insert variant. -/
def InsertVariant.name : InsertVariant → String
  | .insert => "Insert"
  | .append => "Append"
  | .insertAtFirstText => "InsertAtFirstNonBlank"
  | .appendAtLineEnd => "AppendAtLineEnd"
  | .openBelow => "OpenBelow"
  | .openAbove => "OpenAbove"
  | .change => "Change"

/-- The name of a visual kind. -/
def VisualKind.name : VisualKind → String
  | .char => "Char"
  | .line => "Line"
  | .block => "Block"

namespace Mode

/-- Is text being typed in? -/
def isInsert : Mode → Bool
  | .insert _ => true
  | _ => false

/-- Is there a visual selection? -/
def isVisual : Mode → Bool
  | .visual _ => true
  | _ => false

/-- The name of the mode in messages. -/
def name : Mode → String
  | .normal => "Normal"
  | .insert v => "Insert(" ++ v.name ++ ")"
  | .visual k => "Visual(" ++ k.name ++ ")"
  | .replace => "Replace"
  | .replaceSingle => "ReplaceSingle"
  | .commandLine => "CommandLine"

/-- The label of the mode for a status line. -/
def label : Mode → String
  | .normal => "NORMAL"
  | .insert _ => "INSERT"
  | .visual .char => "VISUAL"
  | .visual .line => "VISUAL LINE"
  | .visual .block => "VISUAL BLOCK"
  | .replace => "REPLACE"
  | .replaceSingle => "REPLACE (single)"
  | .commandLine => "COMMAND"

end Mode

/-- The name of the event in messages. -/
def ModeEvent.name : ModeEvent → String
  | .enterInsert v => "EnterInsert(" ++ v.name ++ ")"
  | .enterVisual k => "EnterVisual(" ++ k.name ++ ")"
  | .enterReplace => "EnterReplace"
  | .enterReplaceSingle => "EnterReplaceSingle"
  | .enterCommandLine => "EnterCommandLine"
  | .escape => "Escape"
  | .operatorApplied => "OperatorApplied"
  | .replaceCommitted => "ReplaceCommitted"
  | .submit => "Submit"

end ModalEditor
