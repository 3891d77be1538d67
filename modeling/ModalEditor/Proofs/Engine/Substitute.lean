import ModalEditor.Proofs.Document.Substitute
import ModalEditor.Proofs.Engine.Outcome

/-!
# Substitution on a range of lines

A substitution on a range of lines puts what becomes of each line in its place, as one change that one
undo takes back, and goes to the last row of what became of the latest line that was changed. If no
line of the range is changed it fails, and the editor is as it was (`Reachable.execute_substitute`).

Of a line that is changed the text of the document is changed as well: what became of the lines has at
least as many, and as many only if each became one (`eq_of_rewriteLines_eq`).
-/

namespace ModalEditor

/-! ## The command -/

namespace Editor

variable {e : Editor} {range : LineRange} {edit : Text → Text}

/-- A substitution in normal mode is a change of the document. -/
theorem runEx_substitute (hmode : e.mode = .normal) (range : LineRange) (edit : Text → Text) :
    EditorM.runEx (.substitute range edit) e =
      match e.document.beginChange.substitute (range.clamp e.document.beginChange) edit with
      | some d => .ok ⟨⟩ { e with document := d.endChange.1 }
      | none => .error .motionFailed { e with document := e.document.beginChange.endChange.1 } := by
  have hget (e : Editor) : (get : EditorM Editor) e = .ok e e := rfl
  have hrun : EditorM.runEx (.substitute range edit) e =
      EditorM.asOneChange (EditorM.modifyDocument?
        (·.substitute (range.clamp e.document.beginChange) edit)) e := by
    simp only [EditorM.runEx, bind, EStateM.bind, hget, hmode]
    rfl
  rw [hrun]
  simp only [EditorM.asOneChange, EditorM.modifyDocument?, bind, EStateM.bind, hget, mapDocument]
  cases e.document.beginChange.substitute (range.clamp e.document.beginChange) edit with
  | some d => rfl
  | none => rfl

theorem execute_substitute_of_some (hmode : e.mode = .normal) {d : Document}
    (hsub : e.document.beginChange.substitute (range.clamp e.document) edit = some d) :
    (e.execute (.substitute range edit)).1 = { e with document := d.endChange.1 } ∧
      (e.execute (.substitute range edit)).2.notice = none := by
  have hclamp : range.clamp e.document.beginChange = range.clamp e.document := by
    simp only [LineRange.clamp, Document.lastRow, Document.beginChange_buffer]
  have hrun := runEx_substitute hmode range edit
  rw [hclamp, hsub] at hrun
  simp only [execute, EditorM.observe, hrun, and_self]

theorem execute_substitute_of_none (hmode : e.mode = .normal) (hgroup : e.document.group = none)
    (hsub : e.document.beginChange.substitute (range.clamp e.document) edit = none) :
    (e.execute (.substitute range edit)).1 = e ∧
      (e.execute (.substitute range edit)).2.notice = some .motionFailed := by
  have hclamp : range.clamp e.document.beginChange = range.clamp e.document := by
    simp only [LineRange.clamp, Document.lastRow, Document.beginChange_buffer]
  have hrun := runEx_substitute hmode range edit
  rw [hclamp, hsub, Document.endChange_beginChange_of_none hgroup] at hrun
  simp only [execute, EditorM.observe, hrun, and_self]

end Editor

namespace Engine

/-- **Substitution.** In normal mode a substitution puts what becomes of each line of a range in its
place, and the cursor on the first text of the last row of what became of the latest line that was
changed. One undo takes it back, and one redo after that makes it again. If no line of the range is
changed the substitution fails, and nothing of the editor is changed. -/
theorem Reachable.execute_substitute {engine : Engine} (h : engine.Reachable)
    (hmode : engine.editor.mode = .normal) (range : LineRange) (edit : Text → Text) :
    let d := engine.editor.document
    let first := (range.clamp d).first
    let last := (range.clamp d).last
    let after := (engine.execute (.substitute range edit)).1
    let outcome := (engine.execute (.substitute range edit)).2
    let undone := (after.feed undoKey).1
    ((∀ row, first ≤ row → row ≤ last → edit (d.line row) = d.line row) ∧
        outcome.notice = some .motionFailed ∧ after.editor = engine.editor) ∨
      ∃ row, first ≤ row ∧ row ≤ last ∧ edit (d.line row) ≠ d.line row ∧
        (∀ later, row < later → later ≤ last → edit (d.line later) = d.line later) ∧
        outcome.notice = none ∧
        after.editor.document.buffer.lines =
          d.buffer.lines.take first ++ rewriteLines edit (d.buffer.rows first last) ++
            d.buffer.lines.drop (last + 1) ∧
        after.editor.document.cursor = after.editor.document.buffer.firstText
          ⟨first + (rewriteLines edit (d.buffer.rows first row)).length - 1, 0⟩ ∧
        after.editor.document.history.undoDepth ≤ d.history.undoDepth + 1 ∧
        undone.editor.document.buffer = d.buffer ∧
        (undone.feed redoKey).1.editor.document.buffer = after.editor.document.buffer := by
  intro d first last after outcome undone
  have hresting := h.sound.healthy.resting hmode
  have hlast : last < d.buffer.lineCount := Buffer.lt_lineCount.2 (Nat.min_le_right _ _)
  rcases Document.substitute_cases d.beginChange_buffer edit hlast with
    ⟨hsame, hsub⟩ | ⟨row, d', ⟨hfirst, hrow, hne, hkept⟩, hsub, hchanged, hlines, hcursor⟩
  · obtain ⟨heditor, hnotice⟩ := Editor.execute_substitute_of_none hmode hresting.group hsub
    exact .inl ⟨hsame, hnotice, heditor⟩
  · obtain ⟨heditor, hnotice⟩ := Editor.execute_substitute_of_some hmode hsub
    have hafter : after.editor = { engine.editor with document := d'.endChange.1 } := heditor
    have hbuffer : after.editor.document.buffer = d'.buffer := by
      rw [hafter, Document.endChange_buffer]
    have hplace : after.editor.document.cursor = d'.cursor := by
      rw [hafter, Document.endChange_cursor]
    -- the command is one change, and the text is not the same
    have hduring : During d engine :=
      ⟨h.sound, h.sound.healthy.since hresting.session, fun _ => Document.Kept.refl _⟩
    have hrest : after.atRest = true := by
      refine atRest_iff.2 ⟨?_, rfl⟩
      rw [hafter]
      exact hmode
    have hsettled : Document.Settled d after.editor.document :=
      hduring.settled (i := .range (.substitute range edit)) rfl hrest
    have hdone : Document.Changed d after.editor.document :=
      hsettled.2.resolve_left fun hkept => hchanged (hbuffer.symm.trans hkept.buffer)
    have hsound : after.Sound := (h.sound.feed (.range (.substitute range edit))).sound
    obtain ⟨hundo, hundone⟩ := hsound.feed_undoKey hrest
    have hredo := (hsound.feed undoKey).sound.feed_redoKey hundone
    obtain ⟨hbefore, hagain⟩ := hdone.undo_redo h.sound.healthy.sound
    refine .inr ⟨row, hfirst, hrow, hne, hkept, hnotice, ?_, ?_,
      hdone.undoDepth_le h.sound.healthy.sound, ?_, ?_⟩
    · rw [hbuffer, hlines]
    · rw [hbuffer, hplace, hcursor]
    · rw [hundo, hbefore]
    · rw [hredo, hundo, hagain]

/-- Two lines that are broken at their commas, then a line that stays. -/
theorem execute_substitute_breaks :
    let b := Buffer.ofText "a,b\n c,  d\ne".toList
    let engine := ofBuffer b {}
    let edit (l : Text) : Text := l.map fun c => if c = ',' then '\n' else c
    let after := (engine.execute (.substitute (.between 0 9) edit)).1
    engine.editor.mode = .normal ∧
      after.editor.document.buffer.lines =
        ["a".toList, "b".toList, " c".toList, "  d".toList, "e".toList] ∧
      after.editor.document.cursor = ⟨3, 2⟩ ∧
      (after.feed undoKey).1.editor.document.buffer = b := by
  intro b engine edit
  dsimp only
  have hmode : engine.editor.mode = .normal := rfl
  have hbuffer : engine.editor.document.buffer = b := rfl
  have hreachable : engine.Reachable := ⟨b, {}, [], rfl⟩
  rcases hreachable.execute_substitute hmode (.between 0 9) edit with
    ⟨hsame, -⟩ | ⟨row, -, hlast, hne, hkept, -, hlines, hcursor, -, hundo, -⟩
  · exact absurd (hsame 0 (by decide) (by decide)) (by decide +kernel)
  · have hrow : row ≤ 2 := hlast
    rcases (by omega : row = 0 ∨ row = 1 ∨ row = 2) with rfl | rfl | rfl
    · exact absurd (hkept 1 (by decide) (by decide)) (by decide +kernel)
    · rw [hbuffer] at hundo
      exact ⟨hmode, hlines.trans (by decide +kernel), hcursor.trans (by decide +kernel), hundo⟩
    · exact absurd rfl hne

end Engine

end ModalEditor
