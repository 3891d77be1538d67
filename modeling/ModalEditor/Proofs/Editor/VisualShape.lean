import ModalEditor.Proofs.Document.Row
import ModalEditor.Proofs.Engine.Reachable

/-!
# Where a remembered selection is placed

Of an edit on a selection the size is remembered, and `.` makes the edit again on a range of that size
that begins at the cursor. Lines, rectangles and the characters of a single row are counted, so they
fit wherever the cursor rests. Of characters that end on a later row the byte offset is remembered at
which they end there, and that is an offset of another line.

The range never reaches outside the buffer (`VisualShape.place_within`). It is in order, and its end is
between clusters, if and only if the remembered offset is such a place on its new row
(`VisualShape.place_wellPlaced_iff`).
-/

namespace ModalEditor

namespace TextRange

/-- The rows and the ends of the range are those of the buffer, and its rows are in order. -/
def Within (b : Buffer) (range : TextRange) : Prop :=
  range.rows.1 ≤ range.rows.2 ∧ range.rows.2 ≤ b.lastRow ∧
    match range with
    | .chars first past => first.col ≤ b.lineSize first.row ∧ past.col ≤ b.lineSize past.row
    | .lines _ _ => True
    | .block _ _ left right => left ≤ right

/-- The range lies inside the buffer and is in order. Characters begin and end between clusters. -/
def WellPlaced (b : Buffer) : TextRange → Prop
  | .chars first past => b.clamp first = first ∧ b.clamp past = past ∧ ¬ past < first
  | .lines first last => first ≤ last ∧ last ≤ b.lastRow
  | .block top bottom left right => top ≤ bottom ∧ bottom ≤ b.lastRow ∧ left ≤ right

instance (b : Buffer) : (range : TextRange) → Decidable (range.WellPlaced b)
  | .chars first past =>
    inferInstanceAs (Decidable (b.clamp first = first ∧ b.clamp past = past ∧ ¬ past < first))
  | .lines first last => inferInstanceAs (Decidable (first ≤ last ∧ last ≤ b.lastRow))
  | .block top bottom left right =>
    inferInstanceAs (Decidable (top ≤ bottom ∧ bottom ≤ b.lastRow ∧ left ≤ right))

end TextRange

/-- Characters from the cursor on may end at the byte offset `size` of the row that is `rows` rows
below, or of the last one: that is not in front of the cursor, and it is between clusters or behind the
end of the row. -/
def Document.MayEnd (d : Document) (rows size : Nat) : Prop :=
  let row := min (d.cursor.row + rows) d.lastRow
  (d.cursor.row = d.lastRow → d.cursor.col ≤ size) ∧
    (size < d.buffer.lineSize row → Parts (clusters (d.line row)) size)

namespace VisualShape

variable {d : Document}

/-- Clusters to the right of a place between clusters there is another such place. -/
theorem repeat_nextBoundary {l : Text} {col : Nat} (hcol : Parts (clusters l) col) (size : Nat) :
    Parts (clusters l) (Nat.repeat (nextBoundary l) size col) ∧
      col ≤ Nat.repeat (nextBoundary l) size col := by
  induction size with
  | zero => exact ⟨hcol, Nat.le_refl col⟩
  | succ size ih =>
    obtain ⟨hparts, hle⟩ := ih
    exact ⟨parts_nextBoundary l _, hle.trans (le_nextBoundary hparts.isCharBoundary.1)⟩

/-- Rows are counted from the cursor on, as far as there are any. -/
theorem rows_placed (h : d.Rests) (rows : Nat) :
    d.cursor.row ≤ min (d.cursor.row + max rows 1 - 1) d.lastRow ∧
      min (d.cursor.row + max rows 1 - 1) d.lastRow ≤ d.lastRow := by
  have hcursor : d.cursor.row ≤ d.lastRow := Buffer.lt_lineCount.1 h.placed.row
  omega

/-- Characters of a single row are placed on that row, between clusters. -/
theorem place_chars_zero (h : d.Rests) (size : Nat) :
    ((VisualShape.chars 0 size).place d).WellPlaced d.buffer := by
  have hparts : Parts (clusters (d.line d.cursor.row)) d.cursor.col :=
    (Buffer.parts_of_clamp h.clamp_cursor).2
  obtain ⟨hend, hle⟩ := repeat_nextBoundary hparts size
  refine ⟨h.clamp_cursor, Buffer.clamp_of_parts h.placed.row hend, fun hlt => ?_⟩
  rcases Position.lt_def.1 hlt with hrow | ⟨-, hcol⟩
  · exact Nat.lt_irrefl _ hrow
  · exact Nat.not_lt.2 hle hcol

/-- Characters that end on a later row are well placed if they may end there. -/
theorem place_chars_succ_iff (h : d.Rests) (rows size : Nat) :
    ((VisualShape.chars (rows + 1) size).place d).WellPlaced d.buffer ↔
      d.MayEnd (rows + 1) size := by
  let row := min (d.cursor.row + (rows + 1)) d.lastRow
  have hrow : row < d.buffer.lineCount := Buffer.lt_lineCount.2 (Nat.min_le_right _ _)
  have hcursor : d.cursor.row ≤ d.lastRow := Buffer.lt_lineCount.1 h.placed.row
  have hcol := h.placed.col
  -- the offset is between clusters, or the row ends in front of it
  have hend : d.buffer.clamp ⟨row, min size (d.buffer.lineSize row)⟩ =
        ⟨row, min size (d.buffer.lineSize row)⟩ ↔
      (size < d.buffer.lineSize row → Parts (clusters (d.line row)) size) := by
    rcases Nat.lt_or_ge size (d.buffer.lineSize row) with hlt | hge
    · rw [Nat.min_eq_left (Nat.le_of_lt hlt)]
      constructor
      · intro hplace _
        exact (Buffer.parts_of_clamp hplace).2
      · intro hparts
        exact Buffer.clamp_of_parts hrow (hparts hlt)
    · rw [Nat.min_eq_right hge]
      exact iff_of_true (Buffer.clamp_of_parts hrow (parts_byteSize _))
        fun hlt => absurd hlt (Nat.not_lt.2 hge)
  -- the end is in front of the cursor only where it is on the same row
  have horder : ¬ (⟨row, min size (d.buffer.lineSize row)⟩ : Position) < d.cursor ↔
      (d.cursor.row = d.lastRow → d.cursor.col ≤ size) := by
    rw [Position.lt_def]
    rcases Nat.lt_or_eq_of_le hcursor with hbelow | hlast
    · have hbehind : d.cursor.row < row := Nat.lt_min.2 ⟨by omega, hbelow⟩
      dsimp only
      omega
    · have hsame : row = d.cursor.row := by
        show min _ _ = _
        omega
      rw [hsame]
      dsimp only
      omega
  show _ ∧ _ ∧ _ ↔ _ ∧ _
  rw [← hend, ← horder]
  constructor
  · rintro ⟨-, hplace, hbehind⟩
    exact ⟨hbehind, hplace⟩
  · rintro ⟨hbehind, hplace⟩
    exact ⟨h.clamp_cursor, hplace, hbehind⟩

/-- The range of a shape has its rows and its ends inside the buffer. -/
theorem place_within (h : d.Rests) (shape : VisualShape) :
    (shape.place d).Within d.buffer := by
  have hcursor : d.cursor.row ≤ d.lastRow := Buffer.lt_lineCount.1 h.placed.row
  cases shape with
  | chars rows size =>
    cases rows with
    | zero =>
      obtain ⟨-, hend, -⟩ := place_chars_zero h size
      exact ⟨Nat.le_refl _, hcursor, h.placed.col, hend ▸ (d.buffer.inside_clamp _).col⟩
    | succ rows =>
      exact ⟨Nat.le_min.2 ⟨Nat.le_add_right _ _, hcursor⟩, Nat.min_le_right _ _, h.placed.col,
        Nat.min_le_right _ _⟩
  | lines rows =>
    obtain ⟨hle, hlast⟩ := rows_placed h rows
    exact ⟨hle, hlast, trivial⟩
  | block rows width =>
    obtain ⟨hle, hlast⟩ := rows_placed h rows
    exact ⟨hle, hlast, Nat.le_add_right _ _⟩

/-- The range of a shape is well placed unless the shape is of characters of several rows that may not
end where they ended. -/
theorem place_wellPlaced_iff (h : d.Rests) (shape : VisualShape) :
    (shape.place d).WellPlaced d.buffer ↔
      ∀ rows size, shape = .chars (rows + 1) size → d.MayEnd (rows + 1) size := by
  cases shape with
  | chars rows size =>
    cases rows with
    | zero => exact iff_of_true (place_chars_zero h size) nofun
    | succ rows =>
      rw [place_chars_succ_iff h]
      constructor
      · rintro hends _ _ ⟨⟩
        exact hends
      · intro hall
        exact hall rows size rfl
  | lines rows =>
    refine iff_of_true ?_ nofun
    obtain ⟨hle, hlast⟩ := rows_placed h rows
    exact ⟨hle, hlast⟩
  | block rows width =>
    refine iff_of_true ?_ nofun
    obtain ⟨hle, hlast⟩ := rows_placed h rows
    exact ⟨hle, hlast, Nat.le_add_right _ _⟩

/-- **Where a remembered selection is placed.** With the cursor at rest, the range of a shape does not
reach outside the buffer. It is in order and its ends are between clusters, if and only if characters
of several rows may end at the offset at which they ended. -/
theorem place_spec (h : d.Rests) (shape : VisualShape) :
    (shape.place d).Within d.buffer ∧
      ((shape.place d).WellPlaced d.buffer ↔
        ∀ rows size, shape = .chars (rows + 1) size → d.MayEnd (rows + 1) size) :=
  ⟨place_within h shape, place_wellPlaced_iff h shape⟩

/-- A selection that ends at offset two of its second row, at a cursor above a row of three letters. -/
theorem place_spec_rows :
    let there : Document := { buffer := .ofText ['a', 'b', '\n', 'c', 'd'] }
    let d : Document := { buffer := .ofText ['e', 'f', '\n', 'x', 'y', 'z'], cursor := ⟨0, 1⟩ }
    let shape := ofRange there ((Selection.mk .char ⟨0, 0⟩ ⟨1, 1⟩).resolve there.buffer)
    shape = .chars 1 2 ∧ shape.place d = .chars ⟨0, 1⟩ ⟨1, 2⟩ ∧
      (shape.place d).WellPlaced d.buffer := by
  intro there d shape
  have hshape : shape = .chars 1 2 := by decide +kernel
  have hrests : d.Rests := by
    show d.clamp d.cursor .normal = d.cursor
    decide +kernel
  have hends : d.MayEnd 1 2 := by
    refine ⟨by decide +kernel, fun _ => ?_⟩
    exact ⟨[['x'], ['y']], [['z']], by decide +kernel, rfl⟩
  refine ⟨hshape, by decide +kernel, (place_spec hrests shape).2.2 fun rows size heq => ?_⟩
  rw [hshape] at heq
  cases heq
  exact hends

/-- The same selection, filled with a letter, and the fill repeated above a row with an accent: the
range ends between the letter and its accent, and the letter is written over without it. -/
theorem place_spec_ne :
    let b := Buffer.ofText
      ['a', 'b', '\n', 'c', 'd', '\n', 'e', 'f', '\n', 'y', 'e', '\u0301', 'z']
    let engine := ((Engine.ofBuffer b {}).run ([.ofChar 'v', .ofChar 'j', .ofChar 'l', .ofChar 'r',
      .ofChar 'X', .ofChar 'j', .ofChar 'j'].map .key)).1
    let d := engine.editor.document
    let again := (engine.feed (.key (.ofChar '.'))).1.editor.document
    engine.editor.lastChange = some (.visual (.replace 'X') (.chars 1 2) none []) ∧ d.Rests ∧
      (VisualShape.chars 1 2).place d = .chars ⟨2, 0⟩ ⟨3, 2⟩ ∧
      ¬ ((VisualShape.chars 1 2).place d).WellPlaced d.buffer ∧
      again.line 3 = ['X', 'X', 'e', '\u0301', 'z'] := by
  intro b engine d again
  have hchange : engine.editor.lastChange = some (.visual (.replace 'X') (.chars 1 2) none []) := by
    decide +kernel
  have hrests : d.clamp d.cursor .normal = d.cursor := by decide +kernel
  have hplace : (VisualShape.chars 1 2).place d = .chars ⟨2, 0⟩ ⟨3, 2⟩ := by decide +kernel
  have hbadly : ¬ ((VisualShape.chars 1 2).place d).WellPlaced d.buffer := by decide +kernel
  have hagain : again.line 3 = ['X', 'X', 'e', '\u0301', 'z'] := by decide +kernel
  exact ⟨hchange, hrests, hplace, hbadly, hagain⟩

end VisualShape

end ModalEditor
