/-!
# Positions

A place in a document: a line by its index and a column by its byte offset in the line. Positions
are ordered by row and then by column, as the text runs.
-/

namespace ModalEditor

/-- A place in a document. -/
structure Position where
  /-- The index of the line. -/
  row : Nat := 0
  /-- The byte offset in the line. -/
  col : Nat := 0
  deriving DecidableEq, Repr, Inhabited

namespace Position

/-- The beginning of every document. -/
def origin : Position := ⟨0, 0⟩

/-- Does the first position come before the second? -/
protected def lt (p q : Position) : Prop :=
  p.row < q.row ∨ (p.row = q.row ∧ p.col < q.col)

instance : LT Position := ⟨Position.lt⟩

instance (p q : Position) : Decidable (p < q) :=
  inferInstanceAs (Decidable (p.row < q.row ∨ (p.row = q.row ∧ p.col < q.col)))

/-- Places are ordered by row, then by column. -/
theorem lt_def {p q : Position} :
    p < q ↔ p.row < q.row ∨ (p.row = q.row ∧ p.col < q.col) := Iff.rfl

/-- An earlier place is not on a later row. -/
theorem row_le_of_lt {p q : Position} (h : p < q) : p.row ≤ q.row := by
  rcases lt_def.1 h with hrow | ⟨hrow, -⟩
  · exact Nat.le_of_lt hrow
  · exact Nat.le_of_eq hrow

/-- A place that is not later is not on a later row. -/
theorem row_le_of_not_lt {p q : Position} (h : ¬ q < p) : p.row ≤ q.row :=
  Nat.not_lt.1 fun hrow => h (lt_def.2 (.inl hrow))

/-- No place is before itself. -/
protected theorem lt_irrefl (p : Position) : ¬ p < p := by
  rw [lt_def]
  omega

/-- The order of places is transitive. -/
protected theorem lt_trans {p q r : Position} (hpq : p < q) (hqr : q < r) : p < r := by
  rw [lt_def] at *
  omega

/-- The order of places is asymmetric. -/
protected theorem lt_asymm {p q : Position} (h : p < q) : ¬ q < p := by
  rw [lt_def] at *
  omega

/-- Places of which neither is earlier are the same. -/
theorem eq_of_not_lt {p q : Position} (h : ¬ p < q) (h' : ¬ q < p) : p = q := by
  rw [lt_def] at h h'
  cases p
  cases q
  simp only [mk.injEq] at *
  omega

/-- A place not later than an earlier one is earlier. -/
theorem lt_of_not_lt_of_lt {p q r : Position} (hpq : ¬ q < p) (hqr : q < r) : p < r := by
  rw [lt_def] at *
  omega

instance : Trans (α := Position) (· < ·) (· < ·) (· < ·) := ⟨Position.lt_trans⟩

/-- The earlier of two positions. -/
protected def min (p q : Position) : Position := if q < p then q else p

/-- The later of two positions. -/
protected def max (p q : Position) : Position := if q < p then p else q

instance : Min Position := ⟨Position.min⟩

instance : Max Position := ⟨Position.max⟩

end Position

end ModalEditor
