import ModalEditor.Proofs.Command.Span
import ModalEditor.Proofs.Editor.VisualShape
import ModalEditor.Proofs.Text.Slice

/-!
# A remembered selection at its own place

Of a range the size says as much as the range itself, once it is known where the range begins: placed
there, in the same text, the size gives the range back (`VisualShape.place_ofRange_of_wellPlaced`). On a
single row the size is the number of clusters of a piece of the row, and as many steps lead from its
beginning to its end (`repeat_nextBoundary_slice`). On several rows it is the offset of the end, which
the last row still has.

The range of a selection in the text is well placed (`Selection.wellPlaced_resolve`). So an edit of a
selection that was undone, and is repeated with the cursor where the selection began, is made on the
same range again (`VisualShape.place_ofRange`).
-/

namespace ModalEditor

/-- The range begins at the place. Of rows only the row of the place matters. -/
def TextRange.BeginsAt (p : Position) : TextRange → Prop
  | .chars first _ => first = p
  | .lines first _ => first = p.row
  | .block .. => False

/-! ## Selections in the text -/

namespace Selection

/-- The ends of a selection are in order. -/
theorem bounds_order (s : Selection) : ¬ s.bounds.2 < s.bounds.1 := by
  unfold bounds
  split
  · rename_i hlt
    exact Position.lt_asymm hlt
  · rename_i hnot
    exact hnot

variable {s : Selection} {b : Buffer}

/-- The far end stays behind the near one when it is brought to a cluster boundary. -/
theorem clamp_bounds_order (hfirst : b.clamp s.bounds.1 = s.bounds.1)
    (hlast : s.bounds.2.row ≤ b.lastRow) : ¬ b.clamp s.bounds.2 < s.bounds.1 := by
  have horder := s.bounds_order
  obtain ⟨-, hparts⟩ := Buffer.parts_of_clamp hfirst
  rw [Buffer.clamp, Nat.min_eq_left hlast]
  rw [Position.lt_def] at horder ⊢
  rintro (hrow | ⟨hrow, hcol⟩)
  · exact horder (.inl hrow)
  · dsimp only at hrow hcol
    have hle : s.bounds.1.col ≤ s.bounds.2.col := by omega
    rw [← hrow] at hparts
    exact Nat.not_lt.2 (le_floorIn hparts hle) hcol

theorem beginsAt_resolve (hkind : s.kind ≠ .block) (hfirst : b.clamp s.bounds.1 = s.bounds.1) :
    (s.resolve b).BeginsAt s.bounds.1 := by
  unfold resolve
  cases hs : s.kind with
  | block => exact absurd hs hkind
  | line => rfl
  | char =>
    simp only
    split
    · exact hfirst
    · exact hfirst

/-- The range of characters of a selection in the text, or of its rows, is well placed. -/
theorem wellPlaced_resolve (hkind : s.kind ≠ .block) (hfirst : b.clamp s.bounds.1 = s.bounds.1)
    (hlast : s.bounds.2.row ≤ b.lastRow) : (s.resolve b).WellPlaced b := by
  have hbehind := clamp_bounds_order hfirst hlast
  have hrow : (b.clamp s.bounds.2).row < b.lineCount := (b.inside_clamp s.bounds.2).row
  have hrows : s.bounds.1.row ≤ (b.clamp s.bounds.2).row := Position.row_le_of_not_lt hbehind
  unfold resolve
  cases hs : s.kind with
  | block => exact absurd hs hkind
  | line => exact ⟨s.bounds_row, hlast⟩
  | char =>
    simp only [hfirst]
    split
    · -- the line break under the far end is taken in
      rename_i hbreak
      refine ⟨hfirst, Buffer.clamp_beginning hbreak.2, ?_⟩
      rw [Position.lt_def]
      dsimp only
      omega
    · have hnext : (b.clamp s.bounds.2).col ≤
          nextBoundary (b.line (b.clamp s.bounds.2).row) (b.clamp s.bounds.2).col :=
        le_nextBoundary (b.inside_clamp s.bounds.2).col
      refine ⟨hfirst, Buffer.clamp_of_parts hrow (parts_nextBoundary _ _), ?_⟩
      rw [Position.lt_def] at hbehind ⊢
      dsimp only
      omega

end Selection

/-! ## From a range to its size and back -/

namespace VisualShape

variable {d : Document}

theorem ofRange_congr {d' : Document} (hbuffer : d'.buffer = d.buffer) (range : TextRange) :
    ofRange d' range = ofRange d range := by
  have hline : d'.line = d.line := congrArg Buffer.line hbuffer
  cases range with
  | chars first past => simp only [ofRange, hline]
  | lines first last => rfl
  | block top bottom left right => rfl

/-- The size of characters leads from their beginning to their end. -/
theorem place_ofRange_chars {past : Position} (hcursor : d.buffer.clamp d.cursor = d.cursor)
    (hpast : d.buffer.clamp past = past) (horder : ¬ past < d.cursor) :
    (ofRange d (.chars d.cursor past)).place d = .chars d.cursor past := by
  obtain ⟨-, hfirstParts⟩ := Buffer.parts_of_clamp hcursor
  obtain ⟨hrow, hpastParts⟩ := Buffer.parts_of_clamp hpast
  rw [Position.lt_def] at horder
  by_cases hsame : d.cursor.row = past.row
  · have hle : d.cursor.col ≤ past.col := by omega
    rw [← hsame] at hpastParts
    have hend : Nat.repeat (nextBoundary (d.line d.cursor.row))
        (clusters (sliceBytes (d.line d.cursor.row) d.cursor.col past.col)).length d.cursor.col =
          past.col :=
      repeat_nextBoundary_slice hfirstParts hpastParts hle
    rw [ofRange, if_pos hsame, place, hend, hsame]
  · obtain ⟨rows, hrows⟩ := Nat.exists_eq_add_one.2 (show 0 < past.row - d.cursor.row by omega)
    have hlast : min (d.cursor.row + (rows + 1)) d.lastRow = past.row := by
      have hpastRow : past.row ≤ d.lastRow := Buffer.lt_lineCount.1 hrow
      omega
    have hcol : min past.col (d.buffer.lineSize past.row) = past.col :=
      Nat.min_eq_left hpastParts.isCharBoundary.1
    rw [ofRange, if_neg hsame, hrows, place]
    simp only [hlast, hcol]
    exact nofun

/-- The size of a well-placed range gives the range back where the range begins. -/
theorem place_ofRange_of_wellPlaced {range : TextRange} (hrange : range.WellPlaced d.buffer)
    (hbegins : range.BeginsAt d.cursor) : (ofRange d range).place d = range := by
  cases range with
  | chars first past =>
    obtain ⟨hfirst, hpast, horder⟩ := hrange
    obtain rfl : first = d.cursor := hbegins
    exact place_ofRange_chars hfirst hpast horder
  | lines first last =>
    obtain ⟨hle, hlast⟩ := hrange
    obtain rfl : first = d.cursor.row := hbegins
    have hrows : min (d.cursor.row + max (last - d.cursor.row + 1) 1 - 1) d.lastRow = last := by
      rw [show d.lastRow = d.buffer.lastRow from rfl]
      omega
    rw [ofRange, place, hrows]
  | block top bottom left right => exact hbegins.elim

end VisualShape

/-! ## Making an edit again -/

/-- Makes an edit again on a range, as the change that it is, and types what was typed after it. -/
def VisualEdit.again (range : TextRange) (change : Change) (register : Option Char)
    (typed : List Edit) : VisualEdit → EditorM Unit
  | .delete => EditorM.deleteRange range register false
  | .change => do
    EditorM.changeRange range register change
    EditorM.finishWith typed
  | .join spaced => EditorM.joinRange spaced range
  | .replace c => EditorM.fillRange c range
  | .put count => EditorM.putOverRange count register range

theorem EditorM.replay_visual (edit : VisualEdit) (shape : VisualShape) (register : Option Char)
    (typed : List Edit) (e : Editor) :
    replay (.visual edit shape register typed) e =
      edit.again (shape.place e.document) (.visual edit shape register typed) register typed e := by
  cases edit <;> rfl

namespace VisualShape

/-- **A remembered selection at its own place.** The size of the characters or rows of a selection gives
them back where the selection began, in the same text. So with this text and with the cursor there, as
an undo of an edit of the selection leaves them, the repetition makes the edit on the range of the
selection. -/
theorem place_ofRange {d : Document} {s : Selection} (hkind : s.kind ≠ .block)
    (hfirst : d.clamp s.bounds.1 .normal = s.bounds.1) (hlast : s.bounds.2.row ≤ d.lastRow) :
    let range := s.resolve d.buffer
    let shape := ofRange d range
    (∀ d' : Document, d'.buffer = d.buffer → d'.cursor = s.bounds.1 → shape.place d' = range) ∧
      ∀ (e : Editor) (edit : VisualEdit) (register : Option Char) (typed : List Edit),
        e.document.buffer = d.buffer → e.document.cursor = s.bounds.1 →
        let change := Change.visual edit shape register typed
        EditorM.replay change e = edit.again range change register typed e := by
  intro range shape
  have hclamp : d.buffer.clamp s.bounds.1 = s.bounds.1 := by
    have hrests : (d.setCursor s.bounds.1 .normal).Rests := d.rests_setCursor s.bounds.1
    have hcursor := hrests.clamp_cursor
    rwa [Document.setCursor, hfirst] at hcursor
  have hplaced : range.WellPlaced d.buffer := Selection.wellPlaced_resolve hkind hclamp hlast
  have hplace (d' : Document) (hbuffer : d'.buffer = d.buffer) (hcursor : d'.cursor = s.bounds.1) :
      shape.place d' = range := by
    rw [← hbuffer] at hplaced
    have hbegins : range.BeginsAt d'.cursor := hcursor ▸ Selection.beginsAt_resolve hkind hclamp
    rw [show shape = ofRange d' range from (ofRange_congr hbuffer range).symm]
    exact place_ofRange_of_wellPlaced hplaced hbegins
  refine ⟨hplace, fun e edit register typed hbuffer hcursor => ?_⟩
  intro change
  rw [EditorM.replay_visual, hplace e.document hbuffer hcursor]

/-- A selection from an empty row back to an accented letter: it ends with the break of the empty row,
at the beginning of the row below. -/
theorem place_ofRange_break :
    let d : Document := { buffer := .ofText ['a', 'e', '\u0301', '\n', '\n', 'b'], cursor := ⟨0, 1⟩ }
    let s : Selection := ⟨.char, ⟨1, 0⟩, ⟨0, 1⟩⟩
    s.kind ≠ .block ∧ d.clamp s.bounds.1 .normal = s.bounds.1 ∧ s.bounds.2.row ≤ d.lastRow ∧
      s.resolve d.buffer = .chars ⟨0, 1⟩ ⟨2, 0⟩ ∧
      (ofRange d (.chars ⟨0, 1⟩ ⟨2, 0⟩)).place d = .chars ⟨0, 1⟩ ⟨2, 0⟩ := by
  intro d s
  have hkind : s.kind ≠ .block := by decide
  have hfirst : d.clamp s.bounds.1 .normal = s.bounds.1 := by decide +kernel
  have hlast : s.bounds.2.row ≤ d.lastRow := by decide +kernel
  have hrange : s.resolve d.buffer = .chars ⟨0, 1⟩ ⟨2, 0⟩ := by decide +kernel
  obtain ⟨hplace, -⟩ := place_ofRange hkind hfirst hlast
  rw [hrange] at hplace
  exact ⟨hkind, hfirst, hlast, hrange, hplace d rfl rfl⟩

end VisualShape

end ModalEditor
