import ModalEditor.Proofs.Document.Row
import ModalEditor.Proofs.Editor.PutOver
import ModalEditor.Proofs.Editor.Quiet

/-!
# Selecting a text object and deleting the selection

An operator deletes a text object by its range. In visual mode the range is turned into two places
between which to select, and the deletion turns the two places into a range again. The two conversions
cancel (`Document.resolve_objectEnds`): the far end of a range of characters is the cluster in front of
its end, or the line break if it ends at the beginning of a row, and rows are selected line by line.

The cursor has moved by the time the selection is deleted. That makes no difference, as what a deletion
leaves is decided by text and range alone. So deleting the object and deleting what was selected of it
leave the same (`Editor.dispatch_select_delete`).
-/

namespace ModalEditor

namespace TextRange

/-- Characters begin and end between clusters. -/
def BetweenClusters (b : Buffer) : TextRange → Prop
  | .chars first past => b.clamp first = first ∧ b.clamp past = past
  | .lines .. | .block .. => True

/-- The range is the one of some selection, of characters or of whole lines. -/
def Selectable (b : Buffer) : TextRange → Prop
  | .chars first past => first < past ∧ b.clamp first = first ∧ b.clamp past = past
  | .lines first last => first ≤ last
  | .block .. => False

/-- The kind of the selection that covers a range. -/
def selectionKind : TextRange → VisualKind
  | .chars .. => .char
  | .lines .. => .line
  | .block .. => .block

end TextRange

theorem TextObject.selectable_resolve {o : TextObject} {b : Buffer} {cursor : Position} {n : Nat}
    {range : TextRange} (hrange : o.resolve b cursor n = .ok range)
    (hsome : range.isEmpty = false) (hends : range.BetweenClusters b) : range.Selectable b := by
  rcases range?_cases (resolve_eq_ok_iff.1 hrange) with ⟨first, past, rfl⟩ | ⟨_, _, rfl, hle⟩
  · have hlt : first < past := by simpa [TextRange.isEmpty] using hsome
    exact ⟨hlt, hends⟩
  · exact hle

/-! ## From a range to places and back -/

namespace Selection

variable {b : Buffer} {first past : Position}

/-- A selection of characters runs from its anchor to what is under its cursor. -/
theorem resolve_char {cursor : Position} (hbehind : ¬ cursor < first)
    (hfirst : b.clamp first = first) (hcursor : b.clamp cursor = cursor) :
    (⟨.char, first, cursor⟩ : Selection).resolve b =
      if b.lineSize cursor.row ≤ cursor.col ∧ cursor.row < b.lastRow then
        .chars first ⟨cursor.row + 1, 0⟩
      else .chars first ⟨cursor.row, nextBoundary (b.line cursor.row) cursor.col⟩ := by
  simp only [resolve, bounds, if_neg hbehind, hfirst, hcursor]

/-- A selection whose cursor is on the line break in front of a row ends at the beginning of the
row. -/
theorem resolve_lineBreak (hlt : first < past) (hfirst : b.clamp first = first)
    (hpast : b.clamp past = past) (hzero : past.col = 0) :
    (⟨.char, first, ⟨past.row - 1, b.lineSize (past.row - 1)⟩⟩ : Selection).resolve b =
      .chars first past := by
  obtain ⟨hrow, -⟩ := Buffer.parts_of_clamp hpast
  obtain ⟨-, hcol⟩ := Buffer.parts_of_clamp hfirst
  have horder := Position.lt_def.1 hlt
  have hpos : 0 < past.row := by omega
  have habove : past.row - 1 < b.lastRow := by
    have hlast := Buffer.lt_lineCount.1 hrow
    omega
  have hbehind : ¬ (⟨past.row - 1, b.lineSize (past.row - 1)⟩ : Position) < first := by
    rw [Position.lt_def]
    -- neither on an earlier row nor before the start on the same row
    rintro (habove | ⟨hsame, hlt⟩)
    · dsimp only at habove
      omega
    · dsimp only at hsame hlt
      rw [hsame] at hlt
      exact Nat.not_lt.2 hcol.isCharBoundary.1 hlt
  rw [resolve_char hbehind hfirst (Buffer.clamp_lineEnd (Nat.le_of_lt habove)),
    if_pos ⟨Nat.le_refl _, habove⟩]
  refine congrArg (TextRange.chars first) ?_
  show (⟨past.row - 1 + 1, 0⟩ : Position) = ⟨past.row, past.col⟩
  rw [Nat.sub_add_cancel hpos, hzero]

/-- A selection whose cursor is on the cluster in front of a place ends at that place. -/
theorem resolve_cluster (hlt : first < past) (hfirst : b.clamp first = first)
    (hpast : b.clamp past = past) (hpos : 0 < past.col) :
    (⟨.char, first, ⟨past.row, prevBoundary (b.line past.row) past.col⟩⟩ : Selection).resolve b =
      .chars first past := by
  obtain ⟨hrow, hcol⟩ := Buffer.parts_of_clamp hpast
  obtain ⟨-, hbegin⟩ := Buffer.parts_of_clamp hfirst
  have hinside : past.col ≤ byteSize (b.line past.row) := hcol.isCharBoundary.1
  obtain ⟨hnext, hprev⟩ := nextBoundary_prevBoundary hcol hpos
  have hbehind : ¬ (⟨past.row, prevBoundary (b.line past.row) past.col⟩ : Position) < first := by
    rw [Position.lt_def]
    rintro (hbelow | ⟨hsame, hlt'⟩)
    · exact Nat.not_lt.2 (Position.row_le_of_lt hlt) hbelow
    · -- the beginning is a boundary in front of the end, so it is not behind the one before the end
      dsimp only at hsame hlt'
      rw [← hsame] at hbegin
      have hcols : first.col < past.col := by
        rcases Position.lt_def.1 hlt with habove | ⟨-, hcols⟩
        · exact absurd hsame (Nat.ne_of_gt habove)
        · exact hcols
      exact Nat.not_lt.2 (le_prevBoundary hbegin hcols hinside) hlt'
  rw [resolve_char hbehind hfirst (Buffer.clamp_of_parts hrow (parts_prevBoundary _ _)), if_neg]
  · exact congrArg (fun col => TextRange.chars first ⟨past.row, col⟩) hnext
  · rintro ⟨hend, -⟩
    exact Nat.not_lt.2 hend (hprev.trans_le hinside)

theorem resolve_rows_of_le {first last : Nat} (hle : first ≤ last) :
    (⟨.line, ⟨first, 0⟩, ⟨last, 0⟩⟩ : Selection).resolve b = .lines first last := by
  have hbehind : ¬ (⟨last, 0⟩ : Position) < ⟨first, 0⟩ := by
    rw [Position.lt_def]
    dsimp only
    omega
  simp only [resolve, bounds, if_neg hbehind]

end Selection

/-- The ends of a selection that covers a range select that range. -/
theorem Document.resolve_objectEnds {d : Document} {range : TextRange}
    (h : range.Selectable d.buffer) :
    ∃ s : Selection, d.objectEnds range = some (s.anchor, s.cursor) ∧ s.kind = range.selectionKind ∧
      s.resolve d.buffer = range := by
  cases range with
  | chars first past =>
    obtain ⟨hlt, hfirst, hpast⟩ := h
    by_cases hzero : past.col = 0
    · refine ⟨_, ?_, rfl, Selection.resolve_lineBreak hlt hfirst hpast hzero⟩
      rw [objectEnds, if_pos hlt, if_pos hzero]
    · refine ⟨_, ?_, rfl, Selection.resolve_cluster hlt hfirst hpast (Nat.pos_of_ne_zero hzero)⟩
      rw [objectEnds, if_pos hlt, if_neg hzero]
      rfl
  | lines first last => exact ⟨_, rfl, rfl, Selection.resolve_rows_of_le h⟩
  | block top bottom left right => exact h.elim

/-! ## The commands -/

namespace Editor

/-- A selection is made. Text and registers are as they were. -/
structure Selected (e : Editor) (s : Selection) (e' : Editor) : Prop where
  mode : ∃ kind, e'.mode = .visual kind
  selection : e'.selection = some s
  buffer : e'.document.buffer = e.document.buffer
  registers : e'.registers = e.registers

/-- A range is deleted into the unnamed register, in so far as it does not matter where the cursor was
before. -/
structure Deleted (e : Editor) (range : TextRange) (e' : Editor) : Prop where
  mode : e'.mode = .normal
  buffer : e'.document.buffer = (e.document.cut false range).buffer
  cursor : e'.document.cursor = (e.document.cut false range).cursor
  registers : e.registers.delete none (e.document.capture range) = .ok e'.registers

/-- Two deletions of a range leave the same. -/
theorem Deleted.registers_eq {e e₁ e₂ : Editor} {range : TextRange} (h₁ : e.Deleted range e₁)
    (h₂ : e.Deleted range e₂) : e₁.registers = e₂.registers :=
  Except.ok.inj (h₁.registers.symm.trans h₂.registers)

end Editor

namespace EditorM

open Editor

variable {e : Editor} {range : TextRange}

theorem enterVisual_char (hmode : e.mode = .normal) :
    Ensures (toggleVisual .char) e (fun _ e' => e'.mode = .visual .char ∧
      e'.document = e.document ∧ e'.registers = e.registers) Never := by
  have hnext : e.mode.next (.enterVisual .char) = .ok (.visual .char) := by rw [hmode]; rfl
  refine ensures_bind.2 (ensures_transition hnext (ensures_modify.2 ?_))
  exact ⟨rfl, rfl, rfl⟩

/-- An object is selected between the ends of its range. -/
theorem selectObject_selected (hmode : e.mode = .visual .char) {o : TextObject} {count : Nat}
    (hrange : o.resolve e.document.buffer e.document.cursor count = .ok range) {s : Selection}
    (hends : e.document.objectEnds range = some (s.anchor, s.cursor))
    (hkind : s.kind = range.selectionKind) (hselectable : range.Selectable e.document.buffer) :
    Ensures (selectObject o count) e (fun _ e' => e.Selected s e') Never := by
  refine ensures_bind.2 (ensures_get.2 (ensures_bind.2 (ensures_ofExcept.2 ?_)))
  rw [hrange]
  simp only [hends]
  refine ensures_bind.2 (ensures_get.2 ?_)
  obtain ⟨kind, anchor, cursor⟩ := s
  cases range with
  | chars first past =>
    cases hkind
    refine ensures_modify.2 ?_
    rw [selectEnds_of_visual anchor cursor hmode]
    exact ⟨⟨_, hmode⟩, rfl, rfl, rfl⟩
  | lines first last =>
    cases hkind
    have hnext : e.mode.next (.enterVisual .line) = .ok (.visual .line) := by rw [hmode]; rfl
    have hother : (e.mode != .visual .line) = true := by rw [hmode]; rfl
    simp only [hother, Bool.and_true, if_true]
    refine ensures_bind.2 (ensures_transition hnext (ensures_modify.2 ?_))
    exact ⟨⟨_, rfl⟩, rfl, rfl, rfl⟩
  | block top bottom left right => exact hselectable.elim

/-- Deleting a range is the same wherever the cursor is. -/
theorem operateOn_deleted {e₁ : Editor} (hmode : e₁.mode = .normal)
    (hbuffer : e₁.document.buffer = e.document.buffer) (hregisters : e₁.registers = e.registers)
    (hsome : range.isEmpty = false) (c : Change) :
    Ensures (operateOn .delete range none c) e₁ (fun _ e' => e.Deleted range e') Never := by
  obtain ⟨registers, hdelete, -, hoperate⟩ := operateOn_delete e₁ hsome c
  obtain ⟨hcut, hcursor⟩ := Document.cut_false_congr hbuffer range
  rw [Ensures, hoperate]
  refine ⟨?_, ?_, ?_, ?_⟩
  · rw [record_mode]
    exact hmode
  · rw [record_document]
    exact hcut
  · rw [record_document]
    exact hcursor
  · rw [record_registers, ← hregisters, ← Document.capture_congr hbuffer range]
    exact hdelete

theorem operate_object_deleted (hmode : e.mode = .normal) {o : TextObject} {count : Option Nat}
    (hrange : o.resolve e.document.buffer e.document.cursor (count.getD 1) = .ok range)
    (hsome : range.isEmpty = false) :
    Ensures (operate .delete (.object o) count none) e (fun _ e' => e.Deleted range e') Never := by
  refine ensures_bind.2 (ensures_bind.2 (ensures_get.2 (ensures_ofExcept.2 ?_)))
  rw [hrange]
  exact operateOn_deleted hmode rfl rfl hsome _

theorem operateSelection_deleted {s : Selection} {e₁ : Editor} (h : e.Selected s e₁)
    (hsome : (s.resolve e.document.buffer).isEmpty = false) :
    Ensures (operateSelection .delete .selection none) e₁
      (fun _ e' => e.Deleted (s.resolve e.document.buffer) e') Never := by
  obtain ⟨kind, hmode⟩ := h.mode
  refine ensures_bind.2 (ensures_takeSelection_of_selection hmode h.selection
    fun e₂ hnormal hbuffer hregisters => ensures_bind.2 (ensures_get.2 ?_))
  rw [h.buffer]
  exact operateOn_deleted hnormal (hbuffer.trans h.buffer) (hregisters.trans h.registers) hsome _

end EditorM

namespace Editor

open EditorM

variable {e : Editor} {o : TextObject} {range : TextRange}

/-- **Deleting a selected object.** In normal mode, a text object that has a range with something in
it is deleted by an operator, or it is selected in visual mode and the selection is deleted. If the
range does not begin or end inside a cluster, the selection covers the range, both deletions succeed,
and they leave the same lines, the same cursor and the same registers. -/
theorem dispatch_select_delete (hmode : e.mode = .normal) {count : Option Nat}
    (hrange : o.resolve e.document.buffer e.document.cursor (count.getD 1) = .ok range)
    (hsome : range.isEmpty = false) (hends : range.BetweenClusters e.document.buffer) :
    let direct := e.dispatch (.operate .delete (.object o) count none)
    let entered := (e.dispatch (.enterVisual .char)).1
    let selected := (entered.dispatch (.visualObject o (count.getD 1))).1
    let deleted := selected.dispatch (.visualOperate .delete .selection none)
    selected.selection.map (·.resolve e.document.buffer) = some range ∧
      direct.2.notice = none ∧ deleted.2.notice = none ∧ deleted.1.mode = direct.1.mode ∧
      deleted.1.document.buffer.lines = direct.1.document.buffer.lines ∧
      deleted.1.document.cursor = direct.1.document.cursor ∧
      deleted.1.registers = direct.1.registers := by
  intro direct entered selected deleted
  have hselectable := TextObject.selectable_resolve hrange hsome hends
  obtain ⟨s, hplaces, hkind, rfl⟩ := Document.resolve_objectEnds hselectable
  obtain ⟨hnotice, hdirect⟩ : direct.2.notice = none ∧ e.Deleted _ direct.1 :=
    dispatch_of_ensures (operate_object_deleted hmode hrange hsome)
  -- the three actions in visual mode, one after the other
  obtain ⟨-, hvisual, hdocument, hregisters⟩ :=
    dispatch_of_ensures (a := .enterVisual .char) (enterVisual_char hmode)
  have hselected : e.Selected s selected := by
    rw [← hdocument] at hrange hplaces hselectable hkind
    have h : entered.Selected s selected :=
      (dispatch_of_ensures (a := .visualObject o (count.getD 1))
        (selectObject_selected hvisual hrange hplaces hkind hselectable)).2
    exact ⟨h.mode, h.selection, h.buffer.trans (congrArg Document.buffer hdocument),
      h.registers.trans hregisters⟩
  obtain ⟨hdone, hdeleted⟩ : deleted.2.notice = none ∧ e.Deleted _ deleted.1 :=
    dispatch_of_ensures (operateSelection_deleted hselected hsome)
  refine ⟨?_, hnotice, hdone, hdeleted.mode.trans hdirect.mode.symm, ?_, ?_, ?_⟩
  · rw [hselected.selection]
    rfl
  · exact congrArg Buffer.lines (hdeleted.buffer.trans hdirect.buffer.symm)
  · exact hdeleted.cursor.trans hdirect.cursor.symm
  · exact hdeleted.registers_eq hdirect

/-- What stands between brackets ends at the beginning of a row, and is selected up to the line break
in front of it. -/
theorem dispatch_select_delete_lineBreak :
    let e := ofBuffer (.ofText ['(', 'a', '\n', ')']) {}
    let o : TextObject := ⟨.bracket '(' ')', true⟩
    let direct := (e.dispatch (.operate .delete (.object o) none none)).1
    let selected := ((e.dispatch (.enterVisual .char)).1.dispatch (.visualObject o 1)).1
    let deleted := (selected.dispatch (.visualOperate .delete .selection none)).1
    selected.selection = some ⟨.char, ⟨0, 1⟩, ⟨0, 2⟩⟩ ∧
      direct.document.buffer.lines = [['(', ')']] ∧
      deleted.document.buffer.lines = direct.document.buffer.lines ∧
      deleted.document.cursor = direct.document.cursor ∧ deleted.registers = direct.registers := by
  intro e o
  have hrange : o.resolve e.document.buffer e.document.cursor ((none : Option Nat).getD 1) =
      .ok (.chars ⟨0, 1⟩ ⟨1, 0⟩) := by
    decide +kernel
  have hends : (TextRange.chars ⟨0, 1⟩ ⟨1, 0⟩).BetweenClusters e.document.buffer := by
    refine ⟨?_, ?_⟩ <;> decide +kernel
  have hsame := dispatch_select_delete rfl hrange rfl hends
  rw [Option.getD_none] at hsame
  obtain ⟨-, -, -, -, hsame⟩ := hsame
  exact ⟨by decide +kernel, by decide +kernel, hsame⟩

end Editor

end ModalEditor
