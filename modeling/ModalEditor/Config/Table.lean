import ModalEditor.Text.Basic

/-!
# Configuration values and tables

The values that a TOML document holds, and how its tables come about. A table can be written as the
value of a key, under a header, or part by part with dotted keys. Its origin says which, and with that
what may still be added to it:

* a table that was written as a value is complete;
* a table that has a header may get further tables below it, but no second header;
* a table that only lies on the way to another one may still get its own header;
* a table that came from dotted keys may get more dotted keys, but no header.
-/

namespace ModalEditor

/-- How a table came about. -/
inductive TableOrigin where
  /-- As the value of a key. -/
  | inline
  /-- Under its own header. -/
  | header
  /-- On the way to a table with a header. -/
  | passage
  /-- On the way to a dotted key. -/
  | dotted
  deriving DecidableEq, Repr

/-- A value. Of strings, floating-point numbers and dates it is only told what they are. -/
inductive ConfigValue where
  | string
  | integer (n : Int)
  | float
  | bool (b : Bool)
  | date
  | array (vs : List ConfigValue)
  | table (origin : TableOrigin) (entries : List (Text × ConfigValue))
  /-- Tables with one header, written with two brackets. -/
  | tables (ts : List (List (Text × ConfigValue)))

/-- The entries of a table. -/
abbrev ConfigTable := List (Text × ConfigValue)

namespace ConfigTable

/-- Puts what `f` makes of the value of a key in its place; of a key that is not there `f` makes a
first value. -/
def update (key : Text) (f : Option ConfigValue → Option ConfigValue) :
    ConfigTable → Option ConfigTable
  | [] => (f none).map fun v => [(key, v)]
  | (k, v) :: rest =>
    if k = key then (f (some v)).map fun v => (k, v) :: rest
    else (update key f rest).map fun rest => (k, v) :: rest

/-- Changes the table under a header. Tables on the way come about if they are not there; of the
tables with one header it is the last one. -/
def within (f : ConfigTable → Option ConfigTable) : List Text → ConfigTable → Option ConfigTable
  | [], t => f t
  | key :: path, t => t.update key fun
    | none => (within f path []).map (.table .passage)
    | some (.table .inline _) => none
    | some (.table origin entries) => (within f path entries).map (.table origin)
    | some (.tables ts) =>
      (within f path (ts.getLast?.getD [])).map fun last => .tables (ts.dropLast ++ [last])
    | some _ => none

/-- Adds the value of a key that may be dotted. No key gets two values. -/
def insert (key : Text) (v : ConfigValue) : List Text → ConfigTable → Option ConfigTable
  | [], t => t.update key fun
    | none => some v
    | some _ => none
  | first :: path, t => t.update first fun
    | none => (insert key v path []).map (.table .dotted)
    | some (.table .dotted entries) => (insert key v path entries).map (.table .dotted)
    | some (.table .passage entries) =>
      if path.isEmpty then none else (insert key v path entries).map (.table .passage)
    | some _ => none

/-- Begins a table with a header. -/
def openTable (path : List Text) (key : Text) : ConfigTable → Option ConfigTable :=
  within (fun t => t.update key fun
    | none => some (.table .header [])
    | some (.table .passage entries) => some (.table .header entries)
    | some _ => none) path

/-- Begins one more of the tables with one header. -/
def openTables (path : List Text) (key : Text) : ConfigTable → Option ConfigTable :=
  within (fun t => t.update key fun
    | none => some (.tables [[]])
    | some (.tables ts) => some (.tables (ts ++ [[]]))
    | some _ => none) path

end ConfigTable

end ModalEditor
