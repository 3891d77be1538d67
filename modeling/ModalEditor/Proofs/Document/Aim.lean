import ModalEditor.Proofs.Document.Travel
import ModalEditor.Proofs.Motion.Column

/-!
# The sticky column leads to the cursor

A vertical step keeps the display column that it aims for as the sticky one, also on a row that is
too short for it. As long as no text is typed, the sticky column leads back to the cursor on the
cursor's own row (`Document.Aims`): a step that leaves a sticky column lands where this column leads,
and whatever else moves the cursor forgets the column.
-/

namespace ModalEditor.Document

/-- The sticky column, if there is one, leads to the cursor. -/
def Aims (d : Document) : Prop :=
  ∀ wanted, d.sticky = some wanted →
    d.buffer.offsetOfWanted d.cursor.row wanted false = d.cursor.col

/-! ## Nothing to aim for -/

/-- Where there is no sticky column there is nothing to keep to. -/
theorem aims_of_none {d : Document} (h : d.sticky = none) : d.Aims := by
  intro wanted hsticky
  rw [h] at hsticky
  cases hsticky

/-- A cursor that is placed forgets the column. -/
theorem aims_setCursor (d : Document) (p : Position) (c : CursorContext) : (d.setCursor p c).Aims :=
  aims_of_none rfl

/-- The end of a change moves neither cursor nor column. -/
theorem Aims.endChange {d : Document} (h : d.Aims) : d.endChange.1.Aims := by
  obtain ⟨group, hd⟩ := d.endChange_eq
  rw [hd]
  exact h

/-- The beginning of a change moves neither cursor nor column. -/
theorem Aims.beginChange {d : Document} (h : d.Aims) : d.beginChange.Aims := by
  unfold Document.beginChange
  split
  · exact h
  · exact h

/-! ## The wanted column -/

/-- The column that a vertical step aims for leads to the cursor, whether it is sticky or not. -/
theorem Aims.wantedColumn {d : Document} (h : d.Aims) (hrests : d.Rests) :
    d.buffer.offsetOfWanted d.cursor.row d.wantedColumn false = d.cursor.col := by
  unfold Document.wantedColumn
  cases hsticky : d.sticky with
  | none => exact Buffer.offsetOfWanted_columnOf hrests
  | some wanted => exact h wanted hsticky

/-- A cursor that is put where a column leads may keep to this column. -/
theorem aims_of_place (d : Document) {row : Nat} (hrow : row ≤ d.lastRow) (wanted : WantedColumn) :
    ({ d.setCursor ⟨row, d.buffer.offsetOfWanted row wanted false⟩ .normal with
      sticky := some wanted } : Document).Aims := by
  intro wanted' hsticky
  obtain rfl := Option.some.inj hsticky
  have hplace := Buffer.rest_offsetOfWanted (Buffer.lt_lineCount.2 hrow) wanted
  show d.buffer.offsetOfWanted (d.buffer.rest _).row wanted false = (d.buffer.rest _).col
  rw [hplace]

/-! ## Operations -/

/-- A cut ends by placing the cursor. -/
theorem aims_cut (d : Document) (change : Bool) (range : TextRange) :
    (d.cut change range).Aims := by
  apply Aims.endChange
  cases range with
  | chars first past => exact aims_setCursor _ _ _
  | lines first last =>
    simp only [cutRange]
    split
    · exact aims_setCursor _ _ _
    · exact aims_setCursor _ _ _
  | block top bottom left right => exact aims_setCursor _ _ _

/-- A fill ends by placing the cursor. -/
theorem aims_fill (d : Document) (range : TextRange) (c : Char) : (d.fill range c).Aims :=
  (aims_setCursor _ _ _).endChange

/-- The end of a session places the cursor. -/
theorem aims_finishInsert (d : Document) : d.finishInsert.Aims :=
  (aims_setCursor _ _ _).endChange

/-- Whatever is put, the cursor is placed in it. -/
theorem aims_put {d d' : Document} {content : RegisterContent} {placement : Placement} {k : Nat}
    (h : d.put content placement k = some d') : d'.Aims := by
  unfold put at h
  split at h
  · cases h
  · cases h
    apply Aims.endChange
    cases content.kind with
    | chars =>
      simp only [putChars]
      split
      · exact aims_setCursor _ _ _
      · exact aims_setCursor _ _ _
    | lines => exact aims_setCursor _ _ _
    | block width => exact aims_setCursor _ _ _

/-- What is put goes to a place that the cursor was put on before. -/
theorem aims_putOrKeep (d : Document) (p : Position) (c : CursorContext)
    (content : RegisterContent) (placement : Placement) (k : Nat) :
    ((d.setCursor p c).putOrKeep content placement k).Aims := by
  unfold putOrKeep
  cases hput : (d.setCursor p c).put content placement k with
  | none => exact aims_setCursor d p c
  | some d' => exact aims_put hput

/-- What is put over a range is put, if there is anything to put, and otherwise the cut placed the
cursor. -/
theorem aims_putOver (d : Document) (content : RegisterContent) (k : Nat) (range : TextRange) :
    (d.putOver content k range).Aims := by
  apply Aims.endChange
  cases range with
  | chars first past =>
    simp only [putRange]
    split
    · exact aims_putOrKeep _ _ _ _ _ _
    · exact aims_putOrKeep _ _ _ _ _ _
  | lines first last =>
    simp only [putRange]
    split
    · exact aims_putOrKeep _ _ _ _ _ _
    · exact aims_putOrKeep _ _ _ _ _ _
  | block top bottom left right => exact aims_putOrKeep _ _ _ _ _ _

/-- Joining ends by placing the cursor. -/
theorem aims_joinLines {d d' : Document} {row k : Nat} {spaced : Bool}
    (h : d.joinLines row k spaced = some d') : d'.Aims := by
  rw [joinLines_eq] at h
  split at h
  · cases h
  · cases h
    exact aims_setCursor _ _ _

/-- A replacement ends by placing the cursor. -/
theorem aims_replaceUnder {d d' : Document} {c : Char} {k : Nat}
    (h : d.replaceUnder c k = some d') : d'.Aims := by
  simp only [replaceUnder, replaceChars] at h
  split at h
  · obtain ⟨past, -, rfl⟩ := Option.map_eq_some_iff.1 h
    exact aims_setCursor _ _ _
  · obtain ⟨past, -, rfl⟩ := Option.map_eq_some_iff.1 h
    exact aims_setCursor _ _ _

/-- A substitution that changes anything ends by placing the cursor. -/
theorem aims_substitute {d d' : Document} {range : LineRange} {edit : Text → Text}
    (h : d.substitute range edit = some d') : d'.Aims := by
  obtain ⟨row, -, rfl⟩ := Option.map_eq_some_iff.1 h
  exact aims_setCursor _ _ _

/-- Going to a row places the cursor. -/
theorem aims_gotoRow (d : Document) (row : Nat) : (d.gotoRow row).Aims :=
  aims_setCursor _ _ _

/-- A walk through the jump list places the cursor, or leaves cursor and column. -/
theorem Aims.landJump {d : Document} (h : d.Aims) (walked : JumpList × Option Position) :
    (d.landJump walked).1.Aims := by
  unfold Document.landJump
  simp only
  split
  · exact h
  · exact aims_setCursor _ _ _

/-- A walk through the history places the cursor, or leaves cursor and column. -/
theorem Aims.travel {d : Document} (h : d.Aims)
    (step : History → Snapshot → Option (History × Snapshot)) (n : Nat) :
    (d.travel step n).1.Aims := by
  rcases travel_cases step d n with ⟨heq, -⟩ | ⟨d', done, -, heq, -⟩
  · rw [heq]
    exact h
  · rw [heq]
    exact aims_setCursor _ _ _

end ModalEditor.Document
