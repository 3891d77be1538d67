import ModalEditor.Proofs.Document.Place
import ModalEditor.Proofs.Editor.Preserve
import ModalEditor.Proofs.Engine.Reachable

/-!
# Where the cursor is

After any inputs the cursor is inside the text, since every operation of a document leaves it there
(`documentInvariant_placed`). While no text is typed it is on a cluster as well, which is a matter of
the phases: in visual mode the cursor rests where the selection ends, and in the other modes it is
at rest itself (`Healthy.rests`).
-/

namespace ModalEditor

namespace Document

/-- Every operation of a document leaves the cursor inside the text. -/
theorem documentInvariant_placed : DocumentInvariant Placed where
  begins h := h.beginChange
  ends h := h.endChange
  place p c _ := placed_setCursor _ p c
  stick _ h := h
  remember _ _ h := h
  insertText s _ := placed_insertText _ s
  openLine below h := h.openLine below
  deleteRange p q h := h.deleteRange p q
  replaceRange p q s h := h.replaceRange p q s
  cut change range _ := placed_cut _ change range
  fill range c _ := (rests_fill _ range c).placed
  putOver n range hc _ := (rests_putOver hc _ n range).placed
  put hput _ := (rests_put hput).placed
  joinLines hjoin _ := (rests_joinLines hjoin).placed
  replaceUnder hreplace _ := (rests_replaceUnder hreplace).placed
  substitute hsubstitute _ := (rests_substitute hsubstitute).placed
  undo n h := h.travel _ n
  redo n h := h.travel _ n

end Document

namespace Editor

/-- While no text is typed, the cursor is at rest. -/
theorem Healthy.rests {e : Editor} (h : e.Healthy) (hmode : e.mode.isTyping = false) :
    e.document.Rests := by
  have hphase := h.phase
  unfold InPhase at hphase
  cases hm : e.mode with
  | normal => rw [hm] at hphase; exact hphase.rests
  | replaceSingle => rw [hm] at hphase; exact hphase.rests
  | commandLine => rw [hm] at hphase; exact hphase.rests
  | visual kind =>
    -- the cursor is where the selection's end comes to rest
    rw [hm] at hphase
    obtain ⟨s, -, -, hcursor⟩ := hphase.selection
    rw [Document.Rests, hcursor]
    exact Buffer.rest_rest _ _
  | insert variant => rw [hm] at hmode; cases hmode
  | replace => rw [hm] at hmode; cases hmode

end Editor

namespace Engine

/-- What the operations of a document preserve, every input preserves. -/
theorem feed_preserves {Q : Document → Prop} (hQ : DocumentInvariant Q) {engine : Engine}
    (h : Q engine.editor.document) (i : Input) : Q (engine.feed i).1.editor.document := by
  refine feed_editor (P := fun e => Q e.document) h (fun k a _ _ => ?_) fun command => ?_
  · exact (Editor.dispatch_cases (EditorM.perform_preserves hQ a _ h)).elim (·.2) (·.2)
  · exact (EditorM.observe_cases (EditorM.runEx_preserves hQ command _ h)).elim (·.2) (·.2)

/-- So does a run. -/
theorem run_preserves {Q : Document → Prop} (hQ : DocumentInvariant Q) {engine : Engine}
    (h : Q engine.editor.document) (inputs : List Input) :
    Q (engine.run inputs).1.editor.document := by
  induction inputs generalizing engine with
  | nil => exact h
  | cons i inputs ih => exact ih (feed_preserves hQ h i)

/-- After any inputs the cursor is in a row of the text, within its line and between characters, and
while no text is typed it is on a cluster of that line, or in column zero if there is none. -/
theorem run_ofBuffer_cursor (b : Buffer) (settings : Settings) (inputs : List Input) :
    let e := ((ofBuffer b settings).run inputs).1.editor
    let p := e.document.cursor
    p.row < e.document.buffer.lineCount ∧
      p.col ≤ e.document.buffer.lineSize p.row ∧
      isCharBoundary (e.document.buffer.line p.row) p.col = true ∧
      ((∀ variant, e.mode ≠ .insert variant) → e.mode ≠ .replace →
        StartsCluster (e.document.buffer.line p.row) p.col) := by
  intro e p
  have hfresh : (ofBuffer b settings).editor.document.Placed :=
    Document.Rests.placed (Buffer.rest_origin b)
  have hplaced : e.document.Placed :=
    run_preserves Document.documentInvariant_placed hfresh inputs
  refine ⟨hplaced.row, hplaced.col, hplaced.boundary, fun hinsert hreplace => ?_⟩
  have hsound := (sound_ofBuffer b settings).run inputs
  refine (hsound.healthy.rests ?_).startsCluster
  show e.mode.isTyping = false
  cases hm : e.mode with
  | insert variant => exact absurd hm (hinsert variant)
  | replace => exact absurd hm hreplace
  | _ => rfl

/-- A mark that is appended belongs to the cluster before it, and the cursor goes there. -/
theorem run_ofBuffer_cursor_mark :
    let e := ((ofBuffer (.ofText "cab".toList) {}).run
      ([.ofChar 'l', .ofChar 'a', .ofChar '\u0301', .ofCode .escape].map .key)).1.editor
    e.mode = .normal ∧ e.document.buffer.lines = ["ca\u0301b".toList] ∧
      e.document.cursor = ⟨0, 1⟩ ∧ StartsCluster "ca\u0301b".toList 1 := by
  intro e
  have hmode : e.mode = .normal := by decide +kernel
  have hlines : e.document.buffer.lines = ["ca\u0301b".toList] := by decide +kernel
  have hcursor : e.document.cursor = ⟨0, 1⟩ := by decide +kernel
  obtain ⟨-, -, -, hstarts⟩ := run_ofBuffer_cursor (.ofText "cab".toList) {}
    ([.ofChar 'l', .ofChar 'a', .ofChar '\u0301', .ofCode .escape].map .key)
  have hline : e.document.buffer.line 0 = "ca\u0301b".toList := by
    rw [Buffer.line, Buffer.line?, hlines]
    rfl
  refine ⟨hmode, hlines, hcursor, ?_⟩
  have hcluster := hstarts (fun variant hinsert => by cases hmode.symm.trans hinsert)
    fun hreplace => by cases hmode.symm.trans hreplace
  rw [show ((ofBuffer (.ofText "cab".toList) {}).run _).1.editor = e from rfl, hcursor,
    hline] at hcluster
  exact hcluster

end Engine

end ModalEditor
