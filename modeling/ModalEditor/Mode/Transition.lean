import ModalEditor.Error

/-!
# The mode machine

Which event leads from which mode to which. An editor keeps, beside its mode, the modes that it
passed through, as far back as a bound allows. A rejected event changes nothing
(`apply_eq_error_iff`).
-/

namespace ModalEditor

/-- Where an event leads from a mode. Choosing the visual kind that is already active leaves visual
mode. -/
def Mode.next : Mode → ModeEvent → Except EditorError Mode
  | .normal, .enterInsert v => .ok (.insert v)
  | .normal, .enterVisual k => .ok (.visual k)
  | .normal, .enterReplace => .ok .replace
  | .normal, .enterReplaceSingle => .ok .replaceSingle
  | .normal, .enterCommandLine => .ok .commandLine
  | .insert _, .escape | .replace, .escape => .ok .normal
  | .visual _, .escape | .visual _, .operatorApplied => .ok .normal
  | .visual current, .enterVisual k => .ok (if current = k then .normal else .visual k)
  | .replaceSingle, .replaceCommitted | .replaceSingle, .escape => .ok .normal
  | .commandLine, .submit | .commandLine, .escape => .ok .normal
  | mode, event => .error (.invalidTransition mode event)

/-- The mode, and the modes before it. -/
structure Modes where
  /-- The mode now. -/
  mode : Mode := .normal
  /-- The modes that were left, oldest first. -/
  history : List Mode := []
  /-- How many modes the history holds at most. -/
  bound : Nat := 32
  deriving DecidableEq, Repr

namespace Modes

/-- A fresh machine whose history holds `bound` modes, and at least one. -/
def withBound (bound : Nat) : Modes :=
  { bound := max bound 1 }

/-- The history with one more mode, without its oldest mode if it is full. -/
def remember (m : Modes) : List Mode :=
  (if m.history.length = m.bound then m.history.drop 1 else m.history) ++ [m.mode]

/-- The machine after an event. -/
def apply (m : Modes) (event : ModeEvent) : Except EditorError Modes :=
  match m.mode.next event with
  | .ok mode => .ok { m with mode, history := m.remember }
  | .error e => .error e

/-- An event is rejected exactly when it leads nowhere, and the reason names mode and event. -/
theorem apply_eq_error_iff {m : Modes} {event : ModeEvent} {e : EditorError} :
    m.apply event = .error e ↔ m.mode.next event = .error e := by
  simp only [apply]
  split <;> simp_all

end Modes

end ModalEditor
