import ModalEditor.Mode.Basic
import ModalEditor.Unicode.Escape

/-!
# Why a command fails

None of these ends a session. A command that fails reports one of them, and editing goes on.
-/

namespace ModalEditor

/-- The reason why a command failed. -/
inductive EditorError where
  /-- The event leads nowhere from the mode. -/
  | invalidTransition (mode : Mode) (event : ModeEvent)
  /-- There is no older state to go back to. -/
  | oldestChange
  /-- There is no newer state to go on to. -/
  | newestChange
  /-- A pending operator, or the key that leads a longer command, was followed by a key that it
  cannot go with. -/
  | unresolvedOperator (operator : Char) (key : String)
  /-- The register holds nothing. -/
  | emptyRegister (name : Char)
  /-- The mark was never set. -/
  | markNotSet (name : Char)
  /-- There is no such register, or it cannot be written. -/
  | invalidRegister (name : Char)
  /-- Nothing was changed yet that could be repeated. -/
  | noPreviousChange
  /-- The jump list does not reach that far. -/
  | jumpListExhausted
  /-- The motion leads nowhere. -/
  | motionFailed
  deriving DecidableEq, Repr

/-- The wording of the failure. -/
def EditorError.message : EditorError → String
  | .invalidTransition mode event =>
    "invalid mode transition from " ++ mode.name ++ " on " ++ event.name
  | .oldestChange => "already at oldest change"
  | .newestChange => "already at newest change"
  | .unresolvedOperator operator key =>
    "operator " ++ operator.toString ++ " cannot be resolved by " ++ key
  | .emptyRegister name => "register " ++ name.toString ++ " is empty"
  | .markNotSet name => "mark " ++ name.toString ++ " is not set"
  | .invalidRegister name => "invalid register name " ++ Unicode.quoteChar name
  | .noPreviousChange => "no previous change to repeat"
  | .jumpListExhausted => "jump list exhausted"
  | .motionFailed => "motion failed"

end ModalEditor
