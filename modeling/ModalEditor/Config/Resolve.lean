import ModalEditor.Config.Reader
import ModalEditor.Settings

/-!
# Settings from a configuration document

The sections `undo`, `jumps`, `modes`, `input` and `insert` of a document hold the settings. What is
missing has its default, and what is not known is ignored. A section can also be written as an array
of its fields in their order.
-/

namespace ModalEditor

namespace Settings

/-- The integers that a bound can be: those of 64 bits without a sign. -/
def bound? : ConfigValue → Option Nat
  | .integer n => if 0 ≤ n ∧ n < UInt64.size then some n.toNat else none
  | _ => none

/-- A truth value. -/
def flag? : ConfigValue → Option Bool
  | .bool b => some b
  | _ => none

/-- A field of a section, by its name or by its place. None if it has the wrong type. -/
def field {α : Type} (read? : ConfigValue → Option α) (default : α) (name : String) (place : Nat) :
    ConfigValue → Option α
  | .table _ entries => read (entries.lookup name.toList)
  | .array vs => read vs[place]?
  | .tables ts => read (ts[place]?.map (.table .header))
  | .date => some default
  | _ => none
where
  /-- The value that is there, or the default. -/
  read : Option ConfigValue → Option α
    | some v => read? v
    | none => some default

/-- A section of a document; it is empty if it is missing. -/
def part (t : ConfigTable) (name : String) : ConfigValue :=
  (t.lookup name.toList).getD (.table .header [])

/-- The settings that a table describes, as they are written. None if one has the wrong type. -/
def ofTable? (t : ConfigTable) : Option Settings := do
  let defaults : Settings := {}
  let bound (default : Nat) (name : String) (place : Nat) (heading : String) : Option Nat :=
    field bound? default name place (part t heading)
  return {
    undoBound := ← bound defaults.undoBound "max_snapshots" 0 "undo"
    jumpBound := ← bound defaults.jumpBound "max_entries" 0 "jumps"
    modeBound := ← bound defaults.modeBound "history_len" 0 "modes"
    countBound := ← bound defaults.countBound "max_count" 0 "input"
    expandTab := ← field flag? defaults.expandTab "expand_tab" 0 (part t "insert")
    tabWidth := ← bound defaults.tabWidth "tab_width" 1 "insert" }

/-- The settings that a document describes, as they are written. None if it is not a document, or a
setting has the wrong type. -/
def parse? (t : Text) : Option Settings := do
  ofTable? (← ConfigTable.parse? t)

/-- The settings with every bound at least one. -/
def clamp (s : Settings) : Settings where
  undoBound := max s.undoBound 1
  jumpBound := max s.jumpBound 1
  modeBound := max s.modeBound 1
  countBound := max s.countBound 1
  expandTab := s.expandTab
  tabWidth := max s.tabWidth 1

end Settings

end ModalEditor
