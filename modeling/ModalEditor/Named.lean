/-!
# Values under one-letter names

Registers and marks are kept under names of one character. A table holds each name once; storing a
value under a name that is taken replaces the value and leaves the order as it was.
-/

namespace ModalEditor

/-- Values under one-letter names. -/
structure Named (α : Type) where
  entries : List (Char × α) := []
  deriving DecidableEq, Repr

namespace Named

variable {α : Type}

/-- Stores a value in the list of entries. -/
def putIn (name : Char) (value : α) : List (Char × α) → List (Char × α)
  | [] => [(name, value)]
  | (n, v) :: later => if n = name then (n, value) :: later else (n, v) :: putIn name value later

/-- Looks a name up in the list of entries. -/
def getIn (name : Char) : List (Char × α) → Option α
  | [] => none
  | (n, v) :: later => if n = name then some v else getIn name later

/-- The table with the value stored under the name. -/
def put (t : Named α) (name : Char) (value : α) : Named α :=
  ⟨putIn name value t.entries⟩

/-- The value under the name. -/
def get? (t : Named α) (name : Char) : Option α :=
  getIn name t.entries

/-- Reading a name back gives what was stored last. -/
@[simp] theorem get?_put_self (t : Named α) (name : Char) (value : α) :
    (t.put name value).get? name = some value := by
  obtain ⟨es⟩ := t
  simp only [put, get?]
  induction es with
  | nil => simp [putIn, getIn]
  | cons p ps ih =>
    obtain ⟨n, v⟩ := p
    simp only [putIn]
    split
    · simp [getIn, *]
    · simp [getIn, *]

/-- Storing under one name leaves the others alone. -/
theorem get?_put_of_ne (t : Named α) {name other : Char} (value : α) (h : other ≠ name) :
    (t.put name value).get? other = t.get? other := by
  obtain ⟨es⟩ := t
  simp only [put, get?]
  induction es with
  | nil => simp [putIn, getIn, Ne.symm h]
  | cons p ps ih =>
    obtain ⟨n, v⟩ := p
    simp only [putIn]
    split
    · rename_i hn
      subst hn
      simp [getIn, Ne.symm h]
    · simp only [getIn, ih]

end Named

end ModalEditor
