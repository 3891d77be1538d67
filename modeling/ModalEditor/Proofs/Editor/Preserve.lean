import ModalEditor.Proofs.Editor.Effect

/-!
# What every command preserves of the document

A property of documents that the operations of a document preserve (`DocumentInvariant`) is preserved
by every action (`perform_preserves`) and by every command on a range (`runEx_preserves`), also by
one that fails halfway. Nothing is asked of the editor that a command is run from, so this holds of
the commands inside a repetition as well.
-/

namespace ModalEditor

/-- A property of documents that the operations of a command preserve. -/
structure DocumentInvariant (Q : Document → Prop) : Prop where
  begins {d : Document} : Q d → Q d.beginChange
  ends {d : Document} : Q d → Q d.endChange.1
  place {d : Document} (p : Position) (c : CursorContext) : Q d → Q (d.setCursor p c)
  stick {d : Document} (w : Option WantedColumn) : Q d → Q { d with sticky := w }
  remember {d : Document} (marks : Marks) (jumps : JumpList) : Q d → Q { d with marks, jumps }
  insertText {d : Document} (s : Text) : Q d → Q (d.insertText s)
  openLine {d : Document} (below : Bool) : Q d → Q (d.openLine below)
  deleteRange {d : Document} (p q : Position) : Q d → Q (d.deleteRange p q).1
  replaceRange {d : Document} (p q : Position) (s : Text) : Q d → Q (d.replaceRange p q s).1
  cut {d : Document} (change : Bool) (range : TextRange) : Q d → Q (d.cut change range)
  fill {d : Document} (range : TextRange) (c : Char) : Q d → Q (d.fill range c)
  putOver {d : Document} {content : RegisterContent} (n : Nat) (range : TextRange) :
    content.isEmpty = false → Q d → Q (d.putOver content n range)
  put {d d' : Document} {content : RegisterContent} {placement : Placement} {n : Nat} :
    d.put content placement n = some d' → Q d → Q d'
  joinLines {d d' : Document} {row n : Nat} {spaced : Bool} :
    d.joinLines row n spaced = some d' → Q d → Q d'
  replaceUnder {d d' : Document} {c : Char} {n : Nat} :
    d.replaceUnder c n = some d' → Q d → Q d'
  substitute {d d' : Document} {range : LineRange} {edit : Text → Text} :
    d.substitute range edit = some d' → Q d → Q d'
  undo {d : Document} (n : Nat) : Q d → Q (d.undo n).1
  redo {d : Document} (n : Nat) : Q d → Q (d.redo n).1

/-! ## Rules -/

namespace EditorM

open Editor

/-- However the command ends, the document has the property that it had before. -/
def Holds (Q : Document → Prop) {α : Type} (act : EditorM α) : Prop :=
  Preserves (fun e => Q e.document) act

section Rules

variable {Q : Document → Prop} {α β : Type}

/-- Commands one after the other preserve what each of them does. -/
theorem Holds.bind {act : EditorM α} {f : α → EditorM β} (hact : Holds Q act)
    (hf : ∀ a, Holds Q (f a)) : Holds Q (act >>= f) :=
  Preserves.bind hact hf

/-- Reading the editor first changes nothing, so the property is asked of what comes after. -/
theorem holds_get_bind {f : Editor → EditorM β} (hf : ∀ e, Holds Q (f e)) : Holds Q (get >>= f) :=
  preserves_get_bind hf

/-- A step that is a function of the editor is asked about the document alone. -/
theorem holds_modify {f : Editor → Editor} (hf : ∀ e, Q e.document → Q (f e).document) :
    Holds Q (modify f) :=
  preserves_modify hf

/-- A result that is handed on leaves the editor as it is. -/
theorem holds_ofExcept (result : Except EditorError α) : Holds Q (ofExcept result) :=
  preserves_ofExcept result

/-- Entering or leaving a mode does not touch the document. -/
theorem holds_transition (event : ModeEvent) : Holds Q (transition event) :=
  preserves_transition (fun _ _ h => h) event

/-- Whether changes are recorded meanwhile makes no difference to the document. -/
theorem Holds.unrecorded {act : EditorM α} (hact : Holds Q act) : Holds Q (unrecorded act) :=
  fun e h => ensures_unrecorded.2 (hact { e with replaying := true } h)

/-- The recorded change is kept beside the document. -/
theorem holds_record (c : Change) : Holds Q (record c) := by
  refine holds_modify fun e h => ?_
  unfold Editor.record
  split <;> exact h

/-- An operation that may have nothing to do is asked about for the documents where it has. -/
theorem holds_modifyDocument? {act : Document → Option Document}
    (hact : ∀ d d', act d = some d' → Q d → Q d') : Holds Q (modifyDocument? act) :=
  fun e h => ensures_modifyDocument? act (fun d' hd' => hact e.document d' hd' h) h

/-- An operation that says whether it came about is stored either way. -/
theorem holds_attempt {act : Document → Document × Option α}
    (hact : ∀ d, Q d → Q (act d).1) (reason : EditorError) : Holds Q (attempt act reason) :=
  fun e h => ensures_attempt act reason (fun _ => hact e.document h) fun _ => hact e.document h

/-- A search is remembered beside the document. -/
theorem holds_noteFind (m : Motion) : Holds Q (noteFind m) :=
  fun _ h => ensures_noteFind m fun _ => h

/-- Finding the range of an operator notes a search at most. -/
theorem holds_resolveTarget (op : Operator) (target : OperatorTarget) (count : Option Nat) :
    Holds Q (resolveTarget op target count) :=
  fun _ h => ensures_resolveTarget op target count (fun _ _ => h) fun _ => h

/-- Erasing from the command line, or leaving it, does not touch the document. -/
theorem holds_eraseCommand : Holds Q eraseCommand := by
  refine holds_get_bind fun e => ?_
  split
  · exact holds_modify fun _ h => h
  · exact Holds.bind (holds_modify fun _ h => h) fun _ => holds_transition _

end Rules

end EditorM

/-! ## Documents -/

variable {Q : Document → Prop} (hQ : DocumentInvariant Q)
include hQ

namespace DocumentInvariant

section Operations

variable {d : Document} (h : Q d)
include h

/-- The column that vertical motions aim for is a part of the document that the rules name. -/
theorem keepSticky (p : Position) (c : CursorContext) : Q (d.setCursorKeepSticky p c) :=
  hQ.stick d.sticky (hQ.place p c h)

/-- A step sets the cursor, and a vertical one the column it aimed for as well. -/
theorem move (direction : Direction) (n : Nat) (c : CursorContext) :
    Q (d.move direction n c).1 := by
  cases direction with
  | left => exact hQ.place _ c h
  | right => exact hQ.place _ c h
  | up => exact hQ.stick _ (hQ.place _ c h)
  | down => exact hQ.stick _ (hQ.place _ c h)

/-- Erasing is a deletion, with the cursor put where it began. -/
theorem erase (p q : Position) : Q (d.erase p q) :=
  hQ.place _ _ (hQ.deleteRange p q h)

/-- One cluster in front of the cursor is erased, or the break in front of its line, or nothing. -/
theorem eraseBackward : Q d.eraseBackward := by
  unfold Document.eraseBackward
  split
  · exact hQ.erase h _ _
  · split
    · exact hQ.erase h _ _
    · exact h

/-- One cluster under the cursor is deleted, or the break behind its line, or nothing. -/
theorem eraseUnder : Q d.eraseUnder := by
  refine hQ.place _ _ ?_
  split
  · exact hQ.deleteRange _ _ h
  · split
    · exact hQ.deleteRange _ _ h
    · exact h

/-- What was typed over is put back, or what was added is erased; either way the cursor goes back. -/
theorem unwrite (entry : Option Overwritten) : Q (d.unwrite entry) := by
  unfold Document.unwrite
  split
  · exact hQ.place _ _ (hQ.replaceRange _ _ _ h)
  · exact hQ.erase h _ _
  · split
    · exact hQ.erase h _ _
    · exact hQ.place _ _ h
  · exact hQ.place _ _ h

/-- An insert session begins by placing the cursor, but for the variants that open a line. -/
theorem startInsert (variant : InsertVariant) : Q (d.startInsert variant) := by
  cases variant with
  | insert => exact h
  | change => exact h
  | append => exact hQ.place _ _ h
  | insertAtFirstText => exact hQ.place _ _ h
  | appendAtLineEnd => exact hQ.place _ _ h
  | openBelow => exact hQ.openLine true h
  | openAbove => exact hQ.openLine false h

/-- An insert session ends by placing the cursor, and with it the change that it was. -/
theorem finishInsert : Q d.finishInsert :=
  hQ.ends (hQ.place _ _ h)

/-- The jump list, and the mark of the previous context, are remembered. -/
theorem recordJump (p : Position) : Q (d.recordJump p) :=
  hQ.remember _ _ h

/-- Going to a row is a jump unless the cursor is on the row. -/
theorem gotoRow (row : Nat) : Q (d.gotoRow row) := by
  refine hQ.place _ _ ?_
  split
  · exact h
  · exact hQ.recordJump h _

/-- A walk through the jump list moves its index, and the cursor if it comes to a position. -/
theorem landJump (walked : JumpList × Option Position) : Q (d.landJump walked).1 := by
  have hwalked : Q { d with jumps := walked.1 } := hQ.remember d.marks walked.1 h
  unfold Document.landJump
  simp only
  split
  · exact hwalked
  · exact hQ.place _ _ hwalked

end Operations

end DocumentInvariant

/-! ## Typing -/

namespace Editor

section Keys

variable {e : Editor} (h : Q e.document)
include h

/-- Typing over text replaces the cluster under the cursor, or puts the text behind the line. -/
theorem overwrite_invariant (t : Text) : Q (e.overwrite t).document := by
  simp only [overwrite]
  split
  · exact hQ.place _ _ (hQ.replaceRange _ _ _ h)
  · exact hQ.insertText t h

/-- Typed text is inserted, or written over what is there. -/
theorem typeText_invariant (t : Text) : Q (e.typeText t).document := by
  unfold typeText
  split
  · exact overwrite_invariant hQ h t
  · exact hQ.insertText t h

/-- A typed line break is inserted in either mode. -/
theorem breakLine_invariant : Q e.breakLine.document := by
  have hbroken : Q (e.document.insertText ['\n']) := hQ.insertText ['\n'] h
  simp only [breakLine]
  split
  · exact hbroken
  · exact hbroken

/-- The backspace erases in insert mode, and puts back in replace mode. -/
theorem backspace_invariant : Q e.backspace.document := by
  unfold backspace
  split
  · exact hQ.unwrite h _
  · exact hQ.eraseBackward h

/-- An arrow steps through the text; in a session it ends the change and begins another. -/
theorem moveTyping_invariant (direction : Direction) : Q (e.moveTyping direction).document := by
  have hmoved := hQ.move h direction 1 .insert
  simp only [moveTyping]
  split
  · exact hmoved
  · exact hQ.begins (hQ.ends hmoved)

/-- Every key of a session is one of the operations above. -/
theorem applyEdit_invariant (k : Edit) : Q (e.applyEdit k).document := by
  cases k with
  | insertChar c => exact typeText_invariant hQ h [c]
  | newline => exact breakLine_invariant hQ h
  | tab => exact typeText_invariant hQ h e.tabText
  | backspace => exact backspace_invariant hQ h
  | deleteUnder => exact hQ.eraseUnder h
  | move direction => exact moveTyping_invariant hQ h direction

/-- Remembering the key that was typed is no matter of the document. -/
theorem typeEdit_invariant (k : Edit) : Q (e.typeEdit k).document := by
  have hdone := applyEdit_invariant hQ h k
  cases k with
  | _ => exact hdone

/-- The keys of a session, one after the other, by induction on them. -/
theorem foldl_typeEdit_invariant (ks : List Edit) : Q (ks.foldl typeEdit e).document := by
  induction ks generalizing e with
  | nil => exact h
  | cons k ks ih => exact ih (typeEdit_invariant hQ h k)

/-- The same of keys that are typed again. -/
theorem foldl_applyEdit_invariant (ks : List Edit) : Q (ks.foldl applyEdit e).document := by
  induction ks generalizing e with
  | nil => exact h
  | cons k ks ih => exact ih (applyEdit_invariant hQ h k)

/-- A session with a count types its keys again, on a new line each time if it opened one. -/
theorem repeat_again_invariant (s : Session) (times : Nat) :
    Q (Nat.repeat s.again times e).document := by
  induction times with
  | zero => exact h
  | succ times ih =>
    refine foldl_applyEdit_invariant hQ ?_ s.typed
    split
    · exact hQ.openLine true ih
    · exact ih

end Keys

end Editor

/-! ## Commands -/

namespace EditorM

open Editor

/-- A command that is one change begins and ends it, also if it fails in between. -/
theorem Holds.asOneChange {α : Type} {act : EditorM α} (hact : Holds Q act) :
    Holds Q (asOneChange act) :=
  Preserves.asOneChange hact (fun _ => hQ.begins) fun _ => hQ.ends

/-- A yank places the cursor where the range begins, and may fail before. -/
theorem holds_yankRange (range : TextRange) (register : Option Char) :
    Holds Q (yankRange range register) :=
  fun _ h => ensures_yankRange range register h (fun _ p => hQ.place p .normal h) h

/-- A deletion cuts the range once the register has taken it, and may fail before. -/
theorem holds_deleteRange (range : TextRange) (register : Option Char) (change : Bool) :
    Holds Q (deleteRange range register change) :=
  fun _ h => ensures_deleteRange range register change h (fun _ => hQ.cut change range h) h

/-- The change that a session is begins with it and stays open. -/
theorem holds_startInsert (variant : InsertVariant) (count : Nat) (origin : SessionOrigin) :
    Holds Q (startInsert variant count origin) :=
  (holds_transition _).bind fun _ =>
    holds_modify fun _ h => hQ.startInsert (hQ.begins h) variant

/-- Replace mode begins a change too, and leaves the cursor where it is. -/
theorem holds_enterReplace (count : Nat) : Holds Q (enterReplace count) :=
  (holds_transition _).bind fun _ => holds_modify fun _ h => hQ.begins h

/-- Changing a range is a deletion and a session, within one change. -/
theorem holds_changeRange (range : TextRange) (register : Option Char) (c : Change) :
    Holds Q (changeRange range register c) :=
  ((holds_deleteRange hQ range register true).bind fun _ =>
    holds_startInsert hQ .change 1 (.change c)).asOneChange hQ

/-- An operator does one of three things with its range. -/
theorem holds_operateOn (op : Operator) (range : TextRange) (register : Option Char) (c : Change) :
    Holds Q (operateOn op range register c) := by
  cases op with
  | yank => exact holds_yankRange hQ range register
  | delete => exact (holds_deleteRange hQ range register false).bind fun _ => holds_record c
  | change => exact holds_changeRange hQ range register c

/-- An operator resolves its target first. -/
theorem holds_operate (op : Operator) (target : OperatorTarget) (count : Option Nat)
    (register : Option Char) : Holds Q (operate op target count register) :=
  (holds_resolveTarget op target count).bind fun range => holds_operateOn hQ op range register _

/-- A session ends with its repetitions, which go on in the change that it began. -/
theorem holds_finishSession : Holds Q finishSession := by
  refine holds_get_bind fun e => Holds.bind (holds_modify fun e' h => ?_) fun _ => ?_
  · split
    · exact repeat_again_invariant hQ h _ _
    · exact h
  · refine Holds.bind (holds_modify fun _ h => h) fun _ => ?_
    intro e' h
    -- the document that is put in place at the end is the one that is read here
    refine ensures_bind.2 (ensures_get.2 ?_)
    refine ((holds_transition .escape).bind fun _ => holds_modify fun e'' _ => ?_) e' h
    have hfinished : Q e'.document.finishInsert := hQ.finishInsert h
    split
    · unfold Editor.record
      split <;> exact hfinished
    · exact hfinished

/-- A repeated change ends as the session of its typed keys. -/
theorem holds_finishWith (typed : List Edit) : Holds Q (finishWith typed) :=
  Holds.bind (holds_modify fun _ h => foldl_typeEdit_invariant hQ h typed) fun _ =>
    holds_finishSession hQ

/-! ## Changes in one stroke -/

/-- Putting reads the register, which may hold nothing, and puts. -/
theorem holds_put (placement : Placement) (count : Nat) (register : Option Char) :
    Holds Q (put placement count register) := by
  have hread : Holds Q (contentToPut register) :=
    fun _ h => ensures_contentToPut register h (fun _ _ => h) h
  -- the content is read before anything is put, so a failed read leaves the document
  refine hread.bind fun content => ?_
  cases content with
  | none => exact preserves_pure ()
  | some content =>
    exact (holds_modifyDocument? fun _ _ => hQ.put).bind fun _ => holds_record _

/-- Lines are joined from any row on. -/
theorem holds_joinLines (row : Document → Nat) (n : Nat) (spaced : Bool) :
    Holds Q (modifyDocument? fun d => d.joinLines (row d) n spaced) :=
  holds_modifyDocument? fun _ _ => hQ.joinLines

/-- Joining a selection joins its rows. -/
theorem holds_joinRange (spaced : Bool) (range : TextRange) : Holds Q (joinRange spaced range) :=
  holds_joinLines hQ (fun _ => range.rows.1) (range.rows.2 - range.rows.1 + 1) spaced

/-- Characters are replaced in place, or by one line break. -/
theorem holds_replaceChar (c : Char) (count : Nat) : Holds Q (replaceChar c count) := by
  have hrest : Holds Q
      (do modifyDocument? (·.replaceUnder c count); record (.replaceChar c count)) :=
    (holds_modifyDocument? fun _ _ => hQ.replaceUnder).bind fun _ => holds_record _
  refine holds_get_bind fun e => ?_
  split
  · exact (holds_transition _).bind fun _ => hrest
  · exact hrest

/-- Filling a selection is one operation of a document. -/
theorem holds_fillRange (c : Char) (range : TextRange) : Holds Q (fillRange c range) :=
  holds_modify fun _ h => hQ.fill range c h

/-- Putting over a selection reads the register before the range is deleted. -/
theorem holds_putOverRange (count : Nat) (register : Option Char) (range : TextRange) :
    Holds Q (putOverRange count register range) := by
  intro e h
  refine ensures_bind.2 (ensures_contentToPut register h (fun content hc => ?_) h)
  have hput : Q (e.document.putOver content count range) := hQ.putOver count range hc h
  refine ensures_bind.2 (ensures_get.2 (ensures_bind.2 (ensures_modify.2 ?_)))
  refine ensures_bind.2 (ensures_get.2 (ensures_bind.2 (ensures_ofExcept.2 ?_)))
  split
  · exact hput
  · exact hput

/-! ## Repetition -/

/-- Repeating a change does to the document what the change did, with its typed keys after it. -/
theorem holds_replay (c : Change) : Holds Q (replay c) := by
  cases c with
  | operate op target count register typed =>
    -- the keys that were typed once the operator had begun a session, if it did
    refine (holds_operate hQ op target count register).bind fun _ => ?_
    split
    · exact holds_finishWith hQ typed
    · exact preserves_pure ()
  | visual edit shape register typed =>
    -- the shape is placed at the cursor first, so the range is any
    refine holds_get_bind fun _ => ?_
    cases edit with
    | delete => exact holds_deleteRange hQ _ register false
    | change =>
      exact (holds_changeRange hQ _ register _).bind fun _ => holds_finishWith hQ typed
    | join spaced => exact holds_joinRange hQ spaced _
    | replace c => exact holds_fillRange hQ c _
    | put count => exact holds_putOverRange hQ count register _
  | insert variant count typed =>
    exact (holds_startInsert hQ variant count _).bind fun _ => holds_finishWith hQ typed
  | replace count typed =>
    exact (holds_enterReplace hQ count).bind fun _ => holds_finishWith hQ typed
  | put placement count register => exact holds_put hQ placement count register
  | join count spaced => exact (holds_joinLines hQ _ _ spaced).bind fun _ => holds_record _
  | replaceChar c count => exact holds_replaceChar hQ c count

/-- The last change is repeated as one change, and its count may be remembered. -/
theorem holds_repeatLast (count : Option Nat) : Holds Q (repeatLast count) := by
  refine holds_get_bind fun e => ?_
  split
  · exact preserves_throw _
  · exact ((holds_replay hQ _).asOneChange hQ).unrecorded.bind fun _ => holds_record _

/-! ## The other commands -/

/-- A motion records a jump first, then places the cursor; which column it leaves is its own affair. -/
theorem holds_move (m : Motion) (count : Option Nat) : Holds Q (move m count) := by
  refine (holds_noteFind m).bind fun _ e h => ensures_bind.2 (ensures_get.2 ?_)
  refine (holds_ofExcept _ e h).bind (fun landing e' _ => ?_) fun _ h' => h'
  refine ensures_set.2 ?_
  -- the jump is recorded in front of the landing, and both parts are operations of the list
  have hjumped : Q (if m.isJump ∧ landing.place ≠ e.document.cursor
      then e.document.recordJump e.document.cursor else e.document) := by
    split
    · exact hQ.recordJump h _
    · exact h
  simp only [landOn]
  split
  · exact hQ.stick _ (hQ.place _ _ hjumped)
  · exact hQ.place _ _ hjumped

/-- Setting a mark leaves the text alone, and fails for other names. -/
theorem holds_setMarkAt (name : Char) (p : Position) : Holds Q (setMarkAt name p) := by
  intro e h
  refine ensures_bind.2 (ensures_get.2 ?_)
  cases hset : e.document.setMark? name p with
  | none => exact h
  | some d =>
    obtain ⟨marks, -, rfl⟩ := Option.map_eq_some_iff.1 hset
    exact hQ.remember marks e.document.jumps h

/-- Both directions of the jump list are walks that land. -/
theorem holds_walk (walk : Document → JumpList × Option Position) :
    Holds Q (attempt (fun d => d.landJump (walk d)) .jumpListExhausted) :=
  holds_attempt (fun d h => hQ.landJump h (walk d)) _

/-- The escape key ends a session, drops a selection, or closes the command line. -/
theorem holds_escape : Holds Q escape := by
  refine holds_get_bind fun e => ?_
  split
  · exact preserves_pure ()
  · exact holds_finishSession hQ
  · exact holds_finishSession hQ
  · exact (holds_transition _).bind fun _ => holds_modify fun _ h => hQ.keepSticky h _ _
  · exact (holds_transition _).bind fun _ => holds_modify fun _ h => h
  · exact holds_transition _

/-- A selection that is taken leaves the cursor at one of its ends. -/
theorem holds_takeSelection : Holds Q takeSelection := by
  refine holds_get_bind fun e => ?_
  split
  · exact preserves_throw _
  · refine (holds_transition _).bind fun _ => ?_
    exact Holds.bind (holds_modify fun _ h => hQ.place _ _ h) fun _ => preserves_pure _

/-- An edit of a selection preserves what its action does. -/
theorem holds_editSelection {edit : VisualEdit} {register : Option Char}
    {act : TextRange → EditorM Unit} (hact : ∀ range, Holds Q (act range)) :
    Holds Q (editSelection edit register act) :=
  (holds_takeSelection hQ).bind fun range => holds_get_bind fun _ =>
    (hact range).bind fun _ => holds_record _

/-- Selecting begins or ends at the cursor. -/
theorem holds_toggleVisual (kind : VisualKind) : Holds Q (toggleVisual kind) := by
  refine (holds_transition _).bind fun _ => holds_modify fun e h => ?_
  split
  · exact h
  · exact hQ.keepSticky h _ _

/-- Swapping the ends moves the cursor to the other one. -/
theorem holds_swapSelection : Holds Q swapSelection := by
  refine holds_get_bind fun e => ?_
  split
  · exact preserves_throw _
  · exact holds_modify fun _ h => hQ.place _ _ h

/-- Selecting an object places both ends, in linewise mode if the object is whole lines. -/
theorem holds_selectObject (o : TextObject) (count : Nat) : Holds Q (selectObject o count) := by
  refine holds_get_bind fun e => (holds_ofExcept _).bind fun range => ?_
  split
  · exact preserves_pure ()
  · have hselect (anchor cursor : Position) : Holds Q (modify (·.selectEnds anchor cursor)) :=
      holds_modify fun _ h => hQ.place cursor .normal h
    refine holds_get_bind fun e' => ?_
    generalize (_ && _) = wholeLines
    cases wholeLines with
    | true => exact (holds_transition _).bind fun _ => hselect _ _
    | false => exact hselect _ _

/-- A typed key does nothing outside insert and replace mode. -/
theorem holds_type (k : Edit) : Holds Q (type k) := by
  refine holds_modify fun e h => ?_
  split
  · exact typeEdit_invariant hQ h k
  · exact typeEdit_invariant hQ h k
  · exact h

/-- Every action preserves what the operations of a document preserve. -/
theorem perform_preserves (a : Action) : Holds Q (perform a) := by
  cases a with
  | motion m count => exact holds_move hQ m count
  | operate op target count register => exact holds_operate hQ op target count register
  | put placement count register => exact holds_put hQ placement count register
  | join count spaced => exact (holds_joinLines hQ _ _ spaced).bind fun _ => holds_record _
  | beginReplaceSingle => exact holds_transition _
  | replaceChar c count => exact holds_replaceChar hQ c count
  | enterInsert variant count => exact holds_startInsert hQ variant count _
  | enterReplace count => exact holds_enterReplace hQ count
  | enterVisual kind => exact holds_toggleVisual hQ kind
  | undo count => exact holds_attempt (fun _ h => hQ.undo count h) _
  | redo count => exact holds_attempt (fun _ h => hQ.redo count h) _
  | repeatLast count => exact holds_repeatLast hQ count
  | setMark name => exact holds_get_bind fun _ => holds_setMarkAt hQ name _
  | jumpBack count => exact holds_walk hQ fun d => d.jumps.back d.cursor (max count 1)
  | jumpForward count => exact holds_walk hQ fun d => d.jumps.forward (max count 1)
  | commandStart count =>
    exact (holds_transition _).bind fun _ => holds_modify fun _ h => h
  | commandChar c => exact holds_modify fun _ h => h
  | commandBackspace => exact holds_eraseCommand
  | commandSubmit => exact (holds_transition _).bind fun _ => holds_modify fun _ h => h
  | visualSwap => exact holds_swapSelection hQ
  | visualObject o count => exact holds_selectObject hQ o count
  | visualOperate op extent register =>
    exact (holds_takeSelection hQ).bind fun _ => holds_get_bind fun _ =>
      holds_operateOn hQ op _ register _
  | visualJoin spaced => exact holds_editSelection hQ fun range => holds_joinRange hQ spaced range
  | visualReplace c => exact holds_editSelection hQ fun range => holds_fillRange hQ c range
  | visualPut count register =>
    exact holds_editSelection hQ fun range => holds_putOverRange hQ count register range
  | edit k => exact holds_type hQ k
  | escape => exact holds_escape hQ
  | rejected reason => exact preserves_throw reason

/-- So does every command on a range. -/
theorem runEx_preserves (command : ExCommand) : Holds Q (runEx command) := by
  refine holds_get_bind fun e => ?_
  split
  · refine Holds.asOneChange hQ (holds_get_bind fun d => ?_)
    cases command with
    | delete range register => exact holds_deleteRange hQ _ register false
    | yank range register =>
      exact holds_get_bind fun _ => (holds_ofExcept _).bind fun _ => holds_modify fun _ h => h
    | substitute range edit => exact holds_modifyDocument? fun _ _ => hQ.substitute
    | join range => exact holds_joinLines hQ _ _ true
    | gotoLine row => exact holds_modify fun _ h => hQ.gotoRow h row
    | setMark name row => exact holds_setMarkAt hQ name _
  · exact preserves_throw _

end EditorM

end ModalEditor
