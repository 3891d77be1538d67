import ModalEditor.Proofs.Editor.Effect

/-!
# Sessions and repetitions

A session begins with a change that is open and ends with that change: whatever is typed between is
one unit of undo (`finishSession_finished`, `finishWith_done`). A repetition is a change around the
commands that made the change before, and so is one unit as well (`repeatLast_done`).
-/

namespace ModalEditor

/-- None of the keys that the change types is an arrow. -/
def Change.Plain : Change → Prop
  | .operate _ _ _ _ typed | .visual _ _ _ typed | .insert _ _ typed | .replace _ typed =>
    Edit.Plain typed
  | .put .. | .join .. | .replaceChar .. => True

/-- A plain change with another count is plain. -/
theorem Change.Plain.withCount {c : Change} (hc : c.Plain) (n : Nat) : (c.withCount n).Plain := by
  cases c with
  | _ => exact hc

namespace Editor

open Document (IsEdit)

/-- A session has ended, and with it the change that it made. -/
structure Finished (e e' : Editor) : Prop where
  ready : e'.Ready
  commandLine : e'.commandLine = e.commandLine
  replaying : e'.replaying = e.replaying
  document : ∃ f, IsEdit f ∧ e'.document = (f e.document).endChange.1

/-- A change was made inside another one. -/
structure Edited (e e' : Editor) : Prop where
  ready : e'.Ready
  commandLine : e'.commandLine = e.commandLine
  replaying : e'.replaying = e.replaying
  document : ∃ f, IsEdit f ∧ e'.document = f e.document

/-- A finished command has edited. -/
theorem Done.edited {e e' : Editor} (h : Done e e') : Edited e e' := by
  obtain ⟨f, hf, hdoc⟩ := h.document
  exact ⟨h.ready, h.commandLine, h.replaying, f, hf.isEdit, hdoc⟩

/-- What has begun and is finished is done. -/
theorem Begun.done {e e₁ e' : Editor} (h : Begun e e₁) (h' : Finished e₁ e') : Done e e' := by
  obtain ⟨f, hf, hdoc⟩ := h.document
  obtain ⟨g, hg, hdoc'⟩ := h'.document
  refine ⟨h'.ready, h'.commandLine.trans h.commandLine, h'.replaying.trans h.replaying, _,
    (hg.comp hf).isUnit, ?_⟩
  rw [hdoc', hdoc]

/-- After plain keys, the editor types still. -/
theorem AfterKeys.typing {typed : List Edit} (htyped : Edit.Plain typed) {e e' : Editor}
    (h : AfterKeys typed e e') (he : e.Typing) : e'.Typing := by
  obtain ⟨d, g, rfl⟩ := h
  obtain ⟨s, hs, hplain⟩ := he.session
  refine ⟨he.mode, he.selection, { s with typed := s.typed ++ typed, overwritten := g s }, ?_, ?_⟩
  · show e.session.map _ = some _
    rw [hs]; rfl
  · intro k hk
    exact (List.mem_append.1 hk).elim (hplain k) (htyped k)

end Editor

namespace EditorM

open Document (IsEdit)
open Editor

variable {e : Editor} {failed : Editor → Prop}

/-! ## Beginning -/

/-- A key into Insert mode begins a session. -/
theorem enterInsert_begun (he : e.Ready) (variant : InsertVariant) (count : Nat) :
    Ensures (enterInsert variant count) e (fun _ e' => Begun e e') failed :=
  ensures_startInsert variant count _ he.mode fun modes hmodes => by
    refine ⟨⟨?_, he.selection, _, rfl, List.forall_mem_nil _⟩, rfl, rfl, (·.startInsert variant),
      ⟨fun hR h => hR.startInsert h variant⟩, rfl⟩
    show modes.mode.isTyping = true
    rw [hmodes]; rfl

/-- The key into Replace mode begins a session. -/
theorem enterReplace_begun (he : e.Ready) (count : Nat) :
    Ensures (enterReplace count) e (fun _ e' => Begun e e') failed := by
  have hnext : e.mode.next .enterReplace = .ok .replace := by rw [he.mode]; rfl
  refine ensures_bind.2 (ensures_transition hnext (ensures_modify.2 ?_))
  exact ⟨⟨rfl, he.selection, _, rfl, List.forall_mem_nil _⟩, rfl, rfl, id, Document.isEdit_id, rfl⟩

/-! ## Ending -/

/-- The editor of a session with its text put in as often as the count says. -/
def repeated (s : Session) (e : Editor) : Editor :=
  Nat.repeat s.again (s.count - 1) e

/-- An escape leads from the typing modes to Normal mode. -/
theorem next_escape {mode : Mode} (h : mode.isTyping = true) : mode.next .escape = .ok .normal := by
  cases mode with
  | insert variant => rfl
  | replace => rfl
  | _ => cases h

/-- The end of a session, step by step. -/
theorem ensures_finishSession {s : Session} (hs : e.session = some s)
    (hplain : Edit.Plain s.typed) (hmode : e.mode.isTyping = true) {ok : Unit → Editor → Prop}
    (hok : ok () (Editor.record s.toChange
      { repeated s e with
        session := none
        registers := e.registers.setLastInsert (Edit.typedText s.typed)
        document := (repeated s e).document.finishInsert
        modes := { e.modes with mode := .normal, history := e.modes.remember } })) :
    Ensures finishSession e ok failed := by
  obtain ⟨d, g, hkeys⟩ := afterKeys_repeat_again e hplain (s.count - 1)
  -- keys that are typed leave the mode, so there is a way out of it at the end
  have hnext : (repeated s e).mode.next .escape = .ok .normal := by
    rw [repeated, hkeys]
    exact next_escape hmode
  have hregisters : (repeated s e).registers = e.registers := congrArg (·.registers) hkeys
  have hmodes : (repeated s e).modes = e.modes := congrArg (·.modes) hkeys
  refine ensures_bind.2 (ensures_get.2 ?_)
  rw [hs]
  refine ensures_bind.2 (ensures_modify.2 (ensures_bind.2 (ensures_modify.2 ?_)))
  refine ensures_bind.2 (ensures_get.2 (ensures_bind.2 (ensures_transition hnext ?_)))
  refine ensures_modify.2 ?_
  rw [← hregisters, ← hmodes] at hok
  exact hok

/-- A session ends with its text repeated and its change recorded. -/
theorem finishSession_finished (he : e.Typing) :
    Ensures finishSession e (fun _ e' => Finished e e') failed := by
  obtain ⟨s, hs, hplain⟩ := he.session
  refine ensures_finishSession hs hplain he.mode ?_
  obtain ⟨d, g, hkeys⟩ := afterKeys_repeat_again e hplain (s.count - 1)
  have hrepeated : repeated s e = _ := hkeys
  -- the text is put in again, and the cursor goes to a place that is known by then
  have hedit : IsEdit fun d => ((repeated s { e with document := d }).document.setCursor
      ⟨(repeated s e).document.cursor.row,
        if 0 < (repeated s e).document.cursor.col then
          prevBoundary ((repeated s e).document.line (repeated s e).document.cursor.row)
            (repeated s e).document.cursor.col
        else 0⟩ .normal) :=
    IsEdit.comp (f := (·.setCursor _ .normal)) ⟨fun hR h => hR.setCursor h _ _⟩
      (isEdit_of_related e fun hR _ _ _ h => h.repeat_again hR hplain _)
  have hfinished : Finished e
      { repeated s e with
        session := none
        registers := e.registers.setLastInsert (Edit.typedText s.typed)
        document := (repeated s e).document.finishInsert
        modes := { e.modes with mode := .normal, history := e.modes.remember } } := by
    refine ⟨⟨rfl, ?_, rfl, Document.rests_finishInsert _⟩, ?_, ?_, _, hedit, rfl⟩
    · show (repeated s e).selection = none
      rw [hrepeated]; exact he.selection
    · show (repeated s e).commandLine = e.commandLine
      rw [hrepeated]
    · show (repeated s e).replaying = e.replaying
      rw [hrepeated]
  unfold Editor.record
  split
  · exact hfinished
  · exact ⟨⟨hfinished.ready.mode, hfinished.ready.selection, hfinished.ready.session,
      hfinished.ready.rests⟩, hfinished.commandLine, hfinished.replaying, hfinished.document⟩

/-- Keys that are typed, and the end of the session, finish what has begun. -/
theorem finishWith_done {e₁ : Editor} (h : Begun e e₁) {typed : List Edit}
    (htyped : Edit.Plain typed) :
    Ensures (finishWith typed) e₁ (fun _ e' => Done e e') failed := by
  have hkeys := afterKeys_foldl_typeEdit e₁ htyped
  have htyping := hkeys.typing htyped h.typing
  have hedit : IsEdit fun d => (typed.foldl typeEdit { e₁ with document := d }).document :=
    isEdit_of_related e₁ fun hR _ _ _ h => h.foldl_typeEdit hR htyped
  obtain ⟨f, hf, hdoc⟩ := h.document
  have hbegun : Begun e (typed.foldl typeEdit e₁) := by
    obtain ⟨d, g, heq⟩ := hkeys
    -- the keys come after what began the session, in the same change
    refine ⟨htyping, ?_, ?_, _, hedit.comp hf, ?_⟩
    · rw [heq]; exact h.commandLine
    · rw [heq]; exact h.replaying
    · show _ = (typed.foldl typeEdit { e₁ with document := f e.document.beginChange }).document
      rw [← hdoc]
  refine ensures_bind.2 (ensures_modify.2 ?_)
  exact (finishSession_finished hbegun.typing).mono (fun _ _ h' => hbegun.done h') fun _ h' => h'

/-! ## Making a change again -/

/-- A recorded change made again is a finished command or a refusal, one case per kind of change. -/
theorem replay_done (he : e.Ready) (hd : e.document.Nested) {c : Change} (hc : c.Plain) :
    Ensures (replay c) e (fun _ e' => Done e e') (Refused e) := by
  cases c with
  -- only a change command opens a session, which the recorded text then fills and ends
  | operate op target count register typed =>
    by_cases hop : op = .change
    · subst hop
      refine (operate_begun he hd target count register).bind (fun _ e₁ h => ?_) fun _ h => h
      exact finishWith_done h hc
    · refine (operate_done he hop target count register).bind (fun _ e₁ h => ?_) fun _ h => h
      rw [if_neg hop]
      exact h
  | visual edit shape register typed =>
    refine ensures_bind.2 (ensures_get.2 ?_)
    cases edit with
    | delete => exact deleteRange_done he _ register
    | change =>
      refine (changeRange_begun he hd _ register _).bind (fun _ e₁ h => ?_) fun _ h => h
      exact finishWith_done h hc
    | join spaced => exact join_done he _ _ spaced
    | replace c => exact fillRange_done he c _
    | put count => exact putOverRange_done he count register _
  | insert variant count typed =>
    exact (enterInsert_begun he variant count).bind (fun _ e₁ h => finishWith_done h hc)
      fun _ h => h
  | replace count typed =>
    exact (enterReplace_begun he count).bind (fun _ e₁ h => finishWith_done h hc) fun _ h => h
  | put placement count register => exact put_done he placement count register
  | join count spaced =>
    refine (join_done he e.document.cursor.row count spaced).bind (fun _ e₁ h => ?_) fun _ h => h
    exact ensures_record _ (h.record _)
  | replaceChar c count => exact replaceChar_done he c count

/-- What was refused inside a change is refused with that change. -/
theorem Refused.endChange {e' : Editor} (hd : e.document.Nested)
    (h : Refused (e.mapDocument .beginChange) e') :
    Refused e (e'.mapDocument fun d => d.endChange.1) := by
  have hgroup : e'.document.group = e.document.beginChange.group := congrArg (·.group) h
  have hback : e'.document.endChange.1.group = e.document.group := by
    rw [Document.endChange_group, hgroup, ← Document.endChange_group, hd.endChange_beginChange]
  calc (e'.mapDocument fun d => d.endChange.1).core
      = { e'.core with group := e'.document.endChange.1.group } := by
        simp only [core, mapDocument, Document.endChange_buffer, Document.endChange_cursor,
          Document.endChange_marks, Document.endChange_history, Document.endChange_revision]
    _ = { (e.mapDocument .beginChange).core with group := e.document.group } := by rw [h, hback]
    _ = e.core := by
        simp only [core, mapDocument, Document.beginChange_buffer, Document.beginChange_cursor,
          Document.beginChange_marks, Document.beginChange_history, Document.beginChange_revision]

/-- What edits inside a change is done as that change. -/
theorem asOneChange_done {α : Type} {act : EditorM α} (hd : e.document.Nested)
    (hact : Ensures act (e.mapDocument .beginChange)
      (fun _ e' => Edited (e.mapDocument .beginChange) e') (Refused (e.mapDocument .beginChange))) :
    Ensures (asOneChange act) e (fun _ e' => Done e e') (Refused e) := by
  refine ensures_asOneChange.2 (hact.mono (fun _ e' h => ?_) fun e' h => ?_)
  · obtain ⟨f, hf, hdoc⟩ := h.document
    refine ⟨⟨h.ready.mode, h.ready.selection, h.ready.session, h.ready.rests.endChange⟩,
      h.commandLine, h.replaying, _, hf.isUnit, ?_⟩
    exact congrArg (·.endChange.1) hdoc
  · exact Refused.endChange hd h

/-- A repetition is one change. -/
theorem repeatLast_done (he : e.Ready) (hd : e.document.Nested) (hreplaying : e.replaying = false)
    (hplain : ∀ c, e.lastChange = some c → c.Plain) (count : Option Nat) :
    Ensures (repeatLast count) e (fun _ e' => Done e e') (Refused e) := by
  refine ensures_bind.2 (ensures_get.2 ?_)
  cases hlast : e.lastChange with
  | none => exact ensures_throw.2 rfl
  | some last =>
    have hready : ({ e with replaying := true }.mapDocument .beginChange : Editor).Ready :=
      ⟨he.mode, he.selection, he.session, he.rests.beginChange⟩
    obtain ⟨n, hopen⟩ := hd.openAt
    -- inside its own change and with recording suspended, the change is as on its own
    have hchange (change : Change) (hc : change.Plain) :
        Ensures (unrecorded (asOneChange (replay change))) e (fun _ e' => Done e e')
          (Refused e) := by
      have hreplay := replay_done hready (.inr ⟨n, hopen⟩) hc
      have hone : Ensures (asOneChange (replay change)) { e with replaying := true } _ _ :=
        asOneChange_done hd (hreplay.mono (fun _ _ h => h.edited) fun _ h => h)
      refine ensures_unrecorded.2 (hone.mono (fun _ e' h => ?_) fun e' h => ?_)
      · exact ⟨⟨h.ready.mode, h.ready.selection, h.ready.session, h.ready.rests⟩, h.commandLine,
          hreplaying.symm, h.document⟩
      · calc ({ e' with replaying := false } : Editor).core
            = { e'.core with replaying := false } := rfl
          _ = { ({ e with replaying := true } : Editor).core with replaying := false } := by rw [h]
          _ = e.core := by rw [← hreplaying]; rfl
    cases count with
    | none =>
      refine (hchange last (hplain last hlast)).bind (fun _ e₁ h => ?_) fun _ h => h
      exact ensures_record _ (h.record _)
    | some n =>
      refine (hchange _ ((hplain last hlast).withCount n)).bind (fun _ e₁ h => ?_) fun _ h => h
      exact ensures_record _ (h.record _)

end EditorM

end ModalEditor
