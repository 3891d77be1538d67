import ModalEditor.Proofs.Editor.Typing

/-!
# What commands that change the text do

Each of them starts from an editor that is ready: in normal mode, with nothing selected and nothing
typed, and with the cursor at rest. It ends in one of three ways:

* it is done (`Done`): the editor is ready again, and the document is what one unit of undo made of
  it;
* typing has begun (`Begun`): a change is open, in which all further edits will be made;
* it is refused (`Refused`): nothing that counts is different.

A change that is repeated runs the same commands inside a change, so nothing is said here of whether
the document is being changed already.
-/

namespace ModalEditor

namespace Editor

open Document (IsEdit IsUnit)

/-- All of an editor that a refused command leaves as it was. -/
structure Core where
  buffer : Buffer
  cursor : Position
  marks : Marks
  history : History
  group : Option ChangeGroup
  revision : Nat
  registers : Registers
  modes : Modes
  selection : Option Selection
  session : Option Session
  commandLine : CommandLine
  replaying : Bool

/-- What a refused command leaves as it was. -/
def core (e : Editor) : Core where
  buffer := e.document.buffer
  cursor := e.document.cursor
  marks := e.document.marks
  history := e.document.history
  group := e.document.group
  revision := e.document.revision
  registers := e.registers
  modes := e.modes
  selection := e.selection
  session := e.session
  commandLine := e.commandLine
  replaying := e.replaying

/-- Nothing that counts is different. -/
def Refused (e e' : Editor) : Prop :=
  e'.core = e.core

/-- A change may begin. -/
structure Ready (e : Editor) : Prop where
  mode : e.mode = .normal
  selection : e.selection = none
  session : e.session = none
  rests : e.document.Rests

/-- Text is typed. -/
structure Typing (e : Editor) : Prop where
  mode : e.mode.isTyping = true
  selection : e.selection = none
  session : ∃ s, e.session = some s ∧ Edit.Plain s.typed

/-- A change was made. -/
structure Done (e e' : Editor) : Prop where
  ready : e'.Ready
  commandLine : e'.commandLine = e.commandLine
  replaying : e'.replaying = e.replaying
  document : ∃ f, IsUnit f ∧ e'.document = f e.document

/-- A change has begun, and typing goes on. -/
structure Begun (e e' : Editor) : Prop where
  typing : e'.Typing
  commandLine : e'.commandLine = e.commandLine
  replaying : e'.replaying = e.replaying
  document : ∃ f, IsEdit f ∧ e'.document = f e.document.beginChange

/-- A change made from an editor that differs from another in its latest find and in its latest
change at most. -/
theorem Done.of_core {e e₁ e' : Editor} (h : Done e₁ e') (hline : e₁.commandLine = e.commandLine)
    (hreplaying : e₁.replaying = e.replaying) (hdoc : e₁.document = e.document) : Done e e' :=
  ⟨h.ready, h.commandLine.trans hline, h.replaying.trans hreplaying, hdoc ▸ h.document⟩

/-- A change that did nothing was made. -/
theorem Ready.done {e : Editor} (he : e.Ready) : Done e e :=
  ⟨he, rfl, rfl, id, Document.isUnit_id, rfl⟩

/-- Remembering the change to repeat is no change. -/
theorem Done.record {e e' : Editor} (h : Done e e') (c : Change) : Done e (e'.record c) := by
  unfold Editor.record
  split
  · exact h
  · exact ⟨⟨h.ready.mode, h.ready.selection, h.ready.session, h.ready.rests⟩, h.commandLine,
      h.replaying, h.document⟩

end Editor

namespace EditorM

open Document (IsEdit IsUnit)
open Editor

/-! ## Operators -/

section Primitives

variable {e : Editor} {failed : Editor → Prop}

/-- A motion can change the last search at most. -/
theorem ensures_noteFind (m : Motion) {ok : Unit → Editor → Prop}
    (hok : ∀ lastFind, ok () { e with lastFind }) : Ensures (noteFind m) e ok failed := by
  unfold noteFind
  split
  · exact hok _
  · exact hok e.lastFind

/-- Finding the range of an operator can change the last search at most, and may fail. -/
theorem ensures_resolveTarget (op : Operator) (target : OperatorTarget) (count : Option Nat)
    {ok : TextRange → Editor → Prop} (hok : ∀ range lastFind, ok range { e with lastFind })
    (hfailed : ∀ lastFind, failed { e with lastFind }) :
    Ensures (resolveTarget op target count) e ok failed := by
  cases target with
  | motion m =>
    refine ensures_bind.2 (ensures_noteFind m fun lastFind => ?_)
    refine ensures_bind.2 (ensures_get.2 (ensures_ofExcept.2 ?_))
    split
    · exact hok _ lastFind
    · exact hfailed lastFind
  | lines => exact hok _ e.lastFind
  | object o =>
    refine ensures_bind.2 (ensures_get.2 (ensures_ofExcept.2 ?_))
    split
    · exact hok _ e.lastFind
    · exact hfailed e.lastFind

/-- A deletion does nothing for an empty range; otherwise the register takes the range, if it can, and
the range is cut. -/
theorem ensures_deleteRange (range : TextRange) (register : Option Char) (change : Bool)
    {ok : Unit → Editor → Prop} (hempty : ok () e)
    (hcut : ∀ registers, ok () { e with registers, document := e.document.cut change range })
    (hfailed : failed e) : Ensures (deleteRange range register change) e ok failed := by
  unfold deleteRange
  split
  · exact hempty
  · refine ensures_bind.2 (ensures_get.2 (ensures_bind.2 (ensures_ofExcept.2 ?_)))
    split
    · exact hcut _
    · exact hfailed

/-- A yank does nothing for an empty range; otherwise the register takes the range, if it can, and the
cursor is placed. -/
theorem ensures_yankRange (range : TextRange) (register : Option Char)
    {ok : Unit → Editor → Prop} (hempty : ok () e)
    (hyanked : ∀ registers p, ok () ({ e with registers }.setCursor p .normal))
    (hfailed : failed e) : Ensures (yankRange range register) e ok failed := by
  unfold yankRange
  split
  · exact hempty
  · refine ensures_bind.2 (ensures_get.2 (ensures_bind.2 (ensures_ofExcept.2 ?_)))
    split
    · exact hyanked _ _
    · exact hfailed

/-- From normal mode a session always begins, with a change around it. -/
theorem ensures_startInsert (variant : InsertVariant) (count : Nat) (origin : SessionOrigin)
    {ok : Unit → Editor → Prop} (hmode : e.mode = .normal)
    (hok : ∀ modes : Modes, modes.mode = .insert variant →
      ok () { e with
        modes
        document := e.document.beginChange.startInsert variant
        session := some (.start origin count) }) :
    Ensures (startInsert variant count origin) e ok failed := by
  have hnext : e.mode.next (.enterInsert variant) = .ok (.insert variant) := by rw [hmode]; rfl
  exact ensures_bind.2 (ensures_transition hnext (hok _ rfl))

/-- Recording a change cannot fail. -/
theorem ensures_record (c : Change) {ok : Unit → Editor → Prop} (hok : ok () (e.record c)) :
    Ensures (record c) e ok failed :=
  ensures_modify.2 hok

/-- An operation that has nothing to do fails, and leaves the editor. -/
theorem ensures_modifyDocument? (act : Document → Option Document) {ok : Unit → Editor → Prop}
    (hok : ∀ document, act e.document = some document → ok () { e with document })
    (hfailed : failed e) : Ensures (modifyDocument? act) e ok failed := by
  refine ensures_bind.2 (ensures_get.2 ?_)
  cases hact : act e.document with
  | some document => exact hok document hact
  | none => exact hfailed

/-- An operation that did not come about fails, but the document that it gives is kept. -/
theorem ensures_attempt {α : Type} (act : Document → Document × Option α) (reason : EditorError)
    {ok : Unit → Editor → Prop}
    (hok : (act e.document).2.isNone = false → ok () { e with document := (act e.document).1 })
    (hfailed : (act e.document).2 = none → failed { e with document := (act e.document).1 }) :
    Ensures (attempt act reason) e ok failed := by
  refine ensures_bind.2 (ensures_get.2 (ensures_bind.2 (ensures_modify.2 ?_)))
  cases hact : (act e.document).2 with
  | none => exact hfailed hact
  | some a => exact hok (by rw [hact]; rfl)

/-- An empty register gives nothing to put if it is the unnamed one, and fails if it was named. -/
theorem ensures_contentToPut (register : Option Char)
    {ok : Option RegisterContent → Editor → Prop} (hnone : ok none e)
    (hsome : ∀ content, content.isEmpty = false → ok (some content) e) (hfailed : failed e) :
    Ensures (contentToPut register) e ok failed := by
  refine ensures_bind.2 (ensures_get.2 (ensures_bind.2 (ensures_ofExcept.2 ?_)))
  split
  · rename_i content _
    by_cases hc : content.isEmpty
    · rw [if_pos hc]
      cases register with
      | none => exact hnone
      | some name =>
        by_cases hname : name = '\x22'
        · simp only [if_pos hname]; exact hnone
        · simp only [if_neg hname]; exact hfailed
    · rw [if_neg hc]
      exact hsome content (Bool.eq_false_iff.2 hc)
  · exact hfailed

end Primitives

variable {e : Editor}

/-- A yank places the cursor, or is refused. -/
theorem yankRange_done (he : e.Ready) (range : TextRange) (register : Option Char) :
    Ensures (yankRange range register) e (fun _ e' => Done e e') (Refused e) :=
  ensures_yankRange range register he.done
    (fun _ p => ⟨⟨he.mode, he.selection, he.session, Document.rests_setCursor _ _⟩, rfl, rfl,
      _, Document.isUnit_setCursor p .normal, rfl⟩) rfl

/-- A deletion is a cut, or is refused. -/
theorem deleteRange_done (he : e.Ready) (range : TextRange) (register : Option Char) :
    Ensures (deleteRange range register false) e (fun _ e' => Done e e') (Refused e) :=
  ensures_deleteRange range register false he.done
    (fun _ => ⟨⟨he.mode, he.selection, he.session, Document.rests_cut _ _⟩, rfl, rfl,
      _, Document.isUnit_cut false range, rfl⟩) rfl

/-- A change of a range is a cut and a session, within one change, or is refused. -/
theorem changeRange_begun (he : e.Ready) (hd : e.document.Nested) (range : TextRange)
    (register : Option Char) (change : Change) :
    Ensures (changeRange range register change) e (fun _ e' => Begun e e') (Refused e) := by
  obtain ⟨n, hopen⟩ := hd.openAt
  refine ensures_asOneChange.2 (ensures_bind.2 ?_)
  refine ensures_deleteRange range register true ?_ (fun registers => ?_) ?_
  · -- the range is empty: the session's change begins as the change around it ends
    refine ensures_startInsert .change 1 _ he.mode fun modes hmodes => ?_
    refine ⟨⟨?_, he.selection, _, rfl, List.forall_mem_nil _⟩, rfl, rfl, id,
      Document.isEdit_id, ?_⟩
    · show modes.mode.isTyping = true
      rw [hmodes]; rfl
    · exact hopen.endChange_beginChange
  · -- the range is cut inside the change around it, which is then that of the session
    have hcut := (Document.isUnit_cut true range).isEdit
    refine ensures_startInsert .change 1 _ he.mode fun modes hmodes => ?_
    refine ⟨⟨?_, he.selection, _, rfl, List.forall_mem_nil _⟩, rfl, rfl, _, hcut, ?_⟩
    · show modes.mode.isTyping = true
      rw [hmodes]; rfl
    · exact (hcut.openAt hopen).endChange_beginChange
  · -- refused before anything was cut: what is left is a change with nothing in it
    show ({ e with document := e.document.beginChange.endChange.1 } : Editor).core = e.core
    rw [hd.endChange_beginChange]

/-- The other operators are over when they have been done. -/
theorem operate_done (he : e.Ready) {op : Operator} (hop : op ≠ .change) (target : OperatorTarget)
    (count : Option Nat) (register : Option Char) :
    Ensures (operate op target count register) e (fun _ e' => Done e e') (Refused e) := by
  refine ensures_bind.2 (ensures_resolveTarget op target count (fun range lastFind => ?_)
    fun lastFind => rfl)
  have he' : ({ e with lastFind } : Editor).Ready := ⟨he.mode, he.selection, he.session, he.rests⟩
  cases op with
  | yank =>
    exact (yankRange_done he' range register).mono (fun _ _ h => h.of_core rfl rfl rfl)
      fun _ h => h
  | delete =>
    refine (deleteRange_done he' range register).bind (fun _ e₁ h => ?_) fun _ h => h
    have hdone : Done e e₁ := h.of_core rfl rfl rfl
    exact ensures_record _ (hdone.record _)
  | change => exact absurd rfl hop

/-- A change goes on to typing. -/
theorem operate_begun (he : e.Ready) (hd : e.document.Nested) (target : OperatorTarget)
    (count : Option Nat) (register : Option Char) :
    Ensures (operate .change target count register) e (fun _ e' => Begun e e') (Refused e) := by
  refine ensures_bind.2 (ensures_resolveTarget .change target count (fun range lastFind => ?_)
    fun lastFind => rfl)
  have he' : ({ e with lastFind } : Editor).Ready := ⟨he.mode, he.selection, he.session, he.rests⟩
  exact (changeRange_begun he' hd range register _).mono
    (fun _ _ h => ⟨h.typing, h.commandLine, h.replaying, h.document⟩) fun _ h => h

/-! ## Changes in one stroke -/

/-- A put is done, or is refused for what the register holds. -/
theorem put_done (he : e.Ready) (placement : Placement) (count : Nat) (register : Option Char) :
    Ensures (put placement count register) e (fun _ e' => Done e e') (Refused e) := by
  refine ensures_bind.2 (ensures_contentToPut register he.done (fun content hc => ?_) rfl)
  refine ensures_bind.2 (ensures_modifyDocument? _ (fun document hput => ?_) rfl)
  have hdone : Done e { e with document } := by
    refine ⟨⟨he.mode, he.selection, he.session, Document.rests_put hput⟩, rfl, rfl, _,
      Document.isUnit_put content placement count, ?_⟩
    rw [hput]
    rfl
  exact ensures_record _ (hdone.record _)

/-- A join is done, or is refused on the last row. -/
theorem join_done (he : e.Ready) (row count : Nat) (spaced : Bool) :
    Ensures (modifyDocument? fun d => d.joinLines row count spaced) e (fun _ e' => Done e e')
      (Refused e) := by
  refine ensures_modifyDocument? _ (fun document hjoin => ?_) rfl
  refine ⟨⟨he.mode, he.selection, he.session, Document.rests_joinLines hjoin⟩, rfl, rfl, _,
    Document.isUnit_joinLines row count spaced, ?_⟩
  rw [hjoin]
  rfl

/-- The part of a replacement that comes when normal mode is reached. -/
theorem replaceUnder_done (he : e.Ready) (c : Char) (count : Nat) :
    Ensures (do modifyDocument? (·.replaceUnder c count); record (.replaceChar c count)) e
      (fun _ e' => Done e e') (Refused e) := by
  refine ensures_bind.2 (ensures_modifyDocument? _ (fun document hreplace => ?_) rfl)
  have hdone : Done e { e with document } := by
    refine ⟨⟨he.mode, he.selection, he.session, Document.rests_replaceUnder hreplace⟩, rfl, rfl, _,
      Document.isUnit_replaceUnder c count, ?_⟩
    rw [hreplace]
    rfl
  exact ensures_record _ (hdone.record _)

/-- Where the character was awaited, Normal mode is back before anything is replaced. -/
theorem ensures_replaceChar (hm : e.mode = .replaceSingle) (c : Char) (count : Nat)
    {ok : Unit → Editor → Prop} {failed : Editor → Prop}
    (hreplaced : Ensures (do modifyDocument? (·.replaceUnder c count); record (.replaceChar c count))
      { e with modes := { e.modes with mode := .normal, history := e.modes.remember } } ok failed) :
    Ensures (replaceChar c count) e ok failed := by
  have hnext : e.mode.next .replaceCommitted = .ok .normal := by rw [hm]; rfl
  refine ensures_bind.2 (ensures_get.2 ?_)
  rw [if_pos hm]
  exact ensures_bind.2 (ensures_transition hnext hreplaced)

/-- A replacement is done, or is refused where the line is too short. -/
theorem replaceChar_done (he : e.Ready) (c : Char) (count : Nat) :
    Ensures (replaceChar c count) e (fun _ e' => Done e e') (Refused e) := by
  refine ensures_bind.2 (ensures_get.2 ?_)
  rw [if_neg (by rw [he.mode]; exact nofun)]
  exact replaceUnder_done he c count

/-- A fill is always done. -/
theorem fillRange_done (he : e.Ready) (c : Char) (range : TextRange) :
    Ensures (fillRange c range) e (fun _ e' => Done e e') (Refused e) :=
  ensures_modify.2 ⟨⟨he.mode, he.selection, he.session, Document.rests_fill _ _ _⟩, rfl, rfl, _,
    Document.isUnit_fill range c, rfl⟩

/-- What goes to the unnamed register can always be recorded. -/
theorem delete_none (r : Registers) (content : RegisterContent) :
    ∃ r', r.delete none content = .ok r' := by
  show ∃ r', (if content.isSmall then Except.ok (r.storeUnnamed .smallDeletion content)
    else .ok (r.pushDeletion content)) = .ok r'
  split
  · exact ⟨_, rfl⟩
  · exact ⟨_, rfl⟩

/-- Putting over a range is done, or is refused for what the register holds. -/
theorem putOverRange_done (he : e.Ready) (count : Nat) (register : Option Char)
    (range : TextRange) :
    Ensures (putOverRange count register range) e (fun _ e' => Done e e') (Refused e) := by
  refine ensures_bind.2 (ensures_contentToPut register he.done (fun content hc => ?_) rfl)
  -- the text is in place by the time the register is written, so that must not fail
  obtain ⟨registers, hdelete⟩ :=
    delete_none (e.mapDocument (·.putOver content count range)).registers (e.document.capture range)
  refine ensures_bind.2 (ensures_get.2 (ensures_bind.2 (ensures_modify.2 ?_)))
  refine ensures_bind.2 (ensures_get.2 (ensures_bind.2 (ensures_ofExcept.2 ?_)))
  rw [hdelete]
  exact ⟨⟨he.mode, he.selection, he.session, Document.rests_putOver hc _ _ _⟩, rfl, rfl, _,
    Document.isUnit_putOver content count range, rfl⟩

end EditorM

end ModalEditor
