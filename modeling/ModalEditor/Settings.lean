/-!
# Settings

What a user can choose about the editor.
-/

namespace ModalEditor

/-- The settings of an editor. -/
structure Settings where
  /-- How many changes can be taken back. -/
  undoBound : Nat := 200
  /-- How many places the jump list keeps. -/
  jumpBound : Nat := 100
  /-- How many of the modes that were left are kept. -/
  modeBound : Nat := 32
  /-- Counts grow no further than this. -/
  countBound : Nat := 999999
  /-- The tab key types spaces. -/
  expandTab : Bool := false
  /-- The distance between tab stops, in display columns. -/
  tabWidth : Nat := 4
  deriving DecidableEq, Repr

end ModalEditor
