import ModalEditor.Proofs.Editor.Session

/-!
# Commands on line ranges are one change

What a command on a range does it does inside a change of its own, so an undo takes all of it back
(`runEx_done`). In any mode but the normal one it is refused.
-/

namespace ModalEditor.EditorM

open Document (IsEdit)
open Editor

variable {e : Editor}

theorem setMarkAt_edited (he : e.Ready) (name : Char) (p : Position) :
    Ensures (setMarkAt name p) e (fun _ e' => Edited e e') (Refused e) := by
  refine ensures_bind.2 (ensures_get.2 ?_)
  cases hset : e.document.setMark? name p with
  | none => exact ensures_throw.2 rfl
  | some document =>
    obtain ⟨marks, -, rfl⟩ := Option.map_eq_some_iff.1 hset
    exact ⟨⟨he.mode, he.selection, he.session, he.rests⟩, rfl, rfl,
      fun d => { d with marks, jumps := e.document.jumps },
      ⟨fun hR h => hR.remember marks e.document.jumps h⟩, rfl⟩

theorem performEx_edited (he : e.Ready) (command : ExCommand) :
    Ensures (performEx command) e (fun _ e' => Edited e e') (Refused e) := by
  refine ensures_bind.2 (ensures_get.2 ?_)
  cases command with
  | delete range register =>
    exact (deleteRange_done he _ register).mono (fun _ _ h => h.edited) fun _ h => h
  | yank range register =>
    refine ensures_bind.2 (ensures_get.2 (ensures_bind.2 (ensures_ofExcept.2 ?_)))
    split
    · exact ⟨⟨he.mode, he.selection, he.session, he.rests⟩, rfl, rfl, id, Document.isEdit_id, rfl⟩
    · exact (rfl : e.core = e.core)
  | substitute range edit =>
    refine ensures_modifyDocument? _ (fun document hsub => ?_) rfl
    refine ⟨⟨he.mode, he.selection, he.session, Document.rests_substitute hsub⟩, rfl, rfl,
      fun d => (d.substitute (range.clamp e.document) edit).getD d,
      ⟨fun hR h => hR.substitute h _ _⟩, ?_⟩
    show document = (e.document.substitute (range.clamp e.document) edit).getD e.document
    rw [hsub]
    rfl
  | join range => exact (join_done he _ _ true).mono (fun _ _ h => h.edited) fun _ h => h
  | gotoLine row =>
    exact ⟨⟨he.mode, he.selection, he.session, Document.rests_gotoRow _ _⟩, rfl, rfl,
      (·.gotoRow row), ⟨fun hR h => hR.gotoRow h row⟩, rfl⟩
  | setMark name row => exact setMarkAt_edited he name _

/-- A command on a range is one change. -/
theorem runEx_done (he : e.Ready) (hd : e.document.Nested) (command : ExCommand) :
    Ensures (runEx command) e (fun _ e' => Done e e') (Refused e) := by
  have hready : (e.mapDocument .beginChange).Ready :=
    ⟨he.mode, he.selection, he.session, he.rests.beginChange⟩
  refine ensures_bind.2 (ensures_get.2 ?_)
  rw [he.mode]
  exact asOneChange_done hd (performEx_edited hready command)

theorem runEx_refused (hmode : e.mode ≠ .normal) (command : ExCommand)
    {ok : Unit → Editor → Prop} : Ensures (runEx command) e ok (Refused e) := by
  refine ensures_bind.2 (ensures_get.2 ?_)
  cases hm : e.mode with
  | normal => exact absurd hm hmode
  | _ => exact ensures_throw.2 rfl

end ModalEditor.EditorM
