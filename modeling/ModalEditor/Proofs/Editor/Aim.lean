import ModalEditor.Proofs.Document.Aim
import ModalEditor.Proofs.Engine.Cursor
import ModalEditor.Proofs.Motion.Landing

/-!
# Every command keeps to the sticky column

Text that is put in moves the cursor and leaves the sticky column alone, so while text is typed the
column may lead anywhere. The end of typing forgets it. Whenever no text is typed, the sticky column
leads to the cursor (`Editor.Aiming`), and every action keeps it so (`perform_aiming`).

A command that does not type keeps `Document.Aims` however it ends. One that types either begins to
type, and then nothing is to be shown, or ends a session, and then the cursor was put where it rests.
-/

namespace ModalEditor

open Document (Aims)

/-- While no text is typed, the sticky column leads to the cursor. -/
def Editor.Aiming (e : Editor) : Prop :=
  e.mode.isTyping = false → e.document.Aims

/-- A document that keeps to its column keeps to it in every mode. -/
theorem Editor.Aiming.of_aims {e : Editor} (h : e.document.Aims) : e.Aiming :=
  fun _ => h

/-- While text is typed nothing is asked. -/
theorem Editor.Aiming.of_typing {e : Editor} (h : e.mode.isTyping = true) : e.Aiming := by
  intro hm
  rw [h] at hm
  cases hm

/-! ## Landing -/

namespace Motion

/-- A motion that leaves a sticky column lands where this column leads. -/
theorem place_of_sticky {m : Motion} {d : Document} {count : Option Nat} {lastFind : Option Find}
    {landing : Landing} (hrow : d.cursor.row ≤ d.lastRow)
    (h : m.land d count lastFind false = .ok landing) {wanted : WantedColumn}
    (hsticky : landing.sticky = some wanted) :
    landing.place.row ≤ d.lastRow ∧
      landing.place =
        ⟨landing.place.row, d.buffer.offsetOfWanted landing.place.row wanted false⟩ := by
  cases m with
  | up =>
    obtain ⟨place, hup, rfl⟩ := landAt_eq_ok_iff.1 h
    obtain rfl := Option.some.inj hsticky
    rw [Buffer.up_eq_some hup]
    exact ⟨(Nat.sub_le _ _).trans hrow, rfl⟩
  | down =>
    obtain ⟨place, hdown, rfl⟩ := landAt_eq_ok_iff.1 h
    obtain rfl := Option.some.inj hsticky
    rw [Buffer.down_eq_some hdown]
    exact ⟨Nat.min_le_right _ _, rfl⟩
  | lineEnd =>
    cases h
    obtain rfl := Option.some.inj hsticky
    exact ⟨Nat.min_le_right _ _, rfl⟩
  -- no other motion leaves a column
  | left | right | paragraphForward | paragraphBackward =>
    obtain ⟨-, rfl⟩ := landIfMoved_eq_ok_iff.1 h
    cases hsticky
  | wordForward big | wordBackward big | wordEnd big =>
    obtain ⟨-, rfl⟩ := landIfMoved_eq_ok_iff.1 h
    cases hsticky
  | find f =>
    obtain ⟨place, -, rfl⟩ := landAt_eq_ok_iff.1 h
    cases hsticky
  | repeatFind reversed =>
    obtain ⟨place, -, rfl⟩ := landAt_eq_ok_iff.1 h
    cases hsticky
  | markExact name =>
    obtain ⟨place, -, rfl⟩ := map_eq_ok_iff.1 h
    cases hsticky
  | markLine name =>
    obtain ⟨place, -, rfl⟩ := map_eq_ok_iff.1 h
    cases hsticky
  | lineStart | firstText | fileStart | fileEnd =>
    cases h
    cases hsticky

end Motion

/-- A motion that leaves a sticky column leaves the cursor where it leads. -/
theorem Editor.landOn_aims {e : Editor} {m : Motion} {count : Option Nat} {lastFind : Option Find}
    {landing : Landing} (hrow : e.document.cursor.row ≤ e.document.lastRow)
    (h : m.land e.document count lastFind false = .ok landing) :
    (e.landOn m landing).document.Aims := by
  -- whatever the landing makes of the jump list, the text is the one that it was found in
  have hlanded (d : Document) (hd : d.buffer = e.document.buffer) :
      (if landing.sticky.isSome then
        { d.setCursor landing.place .normal with sticky := landing.sticky }
        else d.setCursor landing.place .normal).Aims := by
    cases hsticky : landing.sticky with
    | none => exact Document.aims_setCursor _ _ _
    | some wanted =>
      -- a vertical motion lands at the offset that its column leads to, on a row of the text
      obtain ⟨hplace, hwhere⟩ := Motion.place_of_sticky hrow h hsticky
      have hwithin : landing.place.row ≤ d.lastRow := by
        rw [Document.lastRow, hd]
        exact hplace
      have haims := d.aims_of_place hwithin wanted
      rw [hd, ← hwhere] at haims
      exact haims
  apply hlanded
  split
  · rfl
  · rfl

/-- Recording a change does not move the cursor. -/
theorem Editor.record_aims {e : Editor} (h : e.document.Aims) (c : Change) :
    (e.record c).document.Aims := by
  unfold Editor.record
  split
  · exact h
  · exact h

/-! ## Modes -/

namespace Editor

/-- Typed keys move the cursor and change the text, and leave the mode. -/
theorem applyEdit_modes (e : Editor) (k : Edit) : (e.applyEdit k).modes = e.modes := by
  have htext (t : Text) : (e.typeText t).modes = e.modes := by
    unfold typeText overwrite
    split
    · simp only
      split
      · rfl
      · rfl
    · rfl
  cases k with
  | insertChar c => exact htext [c]
  | tab => exact htext e.tabText
  | newline =>
    simp only [applyEdit, breakLine]
    split
    · rfl
    · rfl
  | backspace =>
    simp only [applyEdit, backspace]
    split
    · rfl
    · rfl
  | deleteUnder => rfl
  | move direction =>
    simp only [applyEdit, moveTyping]
    split
    · rfl
    · rfl

/-- Remembering the key leaves the mode as well. -/
theorem typeEdit_modes (e : Editor) (k : Edit) : (e.typeEdit k).modes = e.modes := by
  rw [← applyEdit_modes e k]
  cases k with
  | _ => rfl

/-- Keys one after the other leave the mode, by induction on them. -/
theorem foldl_modes {f : Editor → Edit → Editor} (hf : ∀ e k, (f e k).modes = e.modes)
    (ks : List Edit) (e : Editor) : (ks.foldl f e).modes = e.modes := by
  induction ks generalizing e with
  | nil => rfl
  | cons k ks ih => rw [List.foldl_cons, ih, hf]

/-- The repetitions of a session leave the mode. -/
theorem repeat_again_modes (s : Session) (times : Nat) (e : Editor) :
    (Nat.repeat s.again times e).modes = e.modes := by
  induction times with
  | zero => rfl
  | succ times ih =>
    rw [Nat.repeat, Session.again, foldl_modes applyEdit_modes]
    split
    · exact ih
    · exact ih

end Editor

/-! ## Commands -/

namespace EditorM

open Editor (Aiming)

variable {e : Editor} {failed : Editor → Prop}

/-- A transition leads to the mode that comes next, or fails. -/
theorem ensures_transition_next (event : ModeEvent) {ok : PUnit → Editor → Prop}
    (hok : ∀ mode, e.mode.next event = .ok mode →
      ok ⟨⟩ { e with modes := { e.modes with mode, history := e.modes.remember } })
    (hfailed : failed e) : Ensures (transition event) e ok failed := by
  cases hnext : e.mode.next event with
  | ok mode => exact ensures_transition hnext (hok mode hnext)
  | error reason =>
    have happly : e.modes.apply event = .error reason := Modes.apply_eq_error_iff.2 hnext
    refine ensures_bind.2 (ensures_get.2 (ensures_bind.2 (ensures_ofExcept.2 ?_)))
    rw [happly]
    exact hfailed

/-! ### Commands that do not type -/

/-- The ends of a change do not move the cursor. -/
theorem asOneChange_aims {α : Type} {act : EditorM α} (hact : Holds Aims act) :
    Holds Aims (asOneChange act) :=
  Preserves.asOneChange hact (fun _ => Document.Aims.beginChange) fun _ => Document.Aims.endChange

/-- A yank places the cursor where the range begins, and forgets the column. -/
theorem yankRange_aims (range : TextRange) (register : Option Char) :
    Holds Aims (yankRange range register) :=
  fun _ h => ensures_yankRange range register h
    (fun _ _ => Document.aims_setCursor _ _ _) h

/-- A deletion places the cursor. -/
theorem deleteRange_aims (range : TextRange) (register : Option Char) (change : Bool) :
    Holds Aims (deleteRange range register change) :=
  fun _ h => ensures_deleteRange range register change h (fun _ => Document.aims_cut _ _ _) h

/-- A put places the cursor in what was put. -/
theorem put_aims (placement : Placement) (count : Nat) (register : Option Char) :
    Holds Aims (put placement count register) := by
  have hread : Holds Aims (contentToPut register) :=
    fun _ h => ensures_contentToPut register h (fun _ _ => h) h
  apply hread.bind
  intro content
  cases content with
  | none => exact preserves_pure ()
  | some content =>
    exact (holds_modifyDocument? fun _ _ hput _ => Document.aims_put hput).bind fun _ =>
      holds_record _

/-- Joining places the cursor between the joined parts. -/
theorem joinLines_aims (row : Document → Nat) (n : Nat) (spaced : Bool) :
    Holds Aims (modifyDocument? fun d => d.joinLines (row d) n spaced) :=
  holds_modifyDocument? fun _ _ hjoin _ => Document.aims_joinLines hjoin

/-- Joining a selection is joining its rows. -/
theorem joinRange_aims (spaced : Bool) (range : TextRange) : Holds Aims (joinRange spaced range) :=
  joinLines_aims (fun _ => range.rows.1) (range.rows.2 - range.rows.1 + 1) spaced

/-- A replacement places the cursor on the last character, or behind the break. -/
theorem replaceChar_aims (c : Char) (count : Nat) : Holds Aims (replaceChar c count) := by
  have hrest : Holds Aims
      (do modifyDocument? (·.replaceUnder c count); record (.replaceChar c count)) :=
    (holds_modifyDocument? fun _ _ hreplace _ => Document.aims_replaceUnder hreplace).bind fun _ =>
      holds_record _
  apply holds_get_bind
  intro e
  split
  · exact (holds_transition _).bind fun _ => hrest
  · exact hrest

/-- Filling a range places the cursor where the range begins. -/
theorem fillRange_aims (c : Char) (range : TextRange) : Holds Aims (fillRange c range) :=
  holds_modify fun _ _ => Document.aims_fill _ range c

/-- Putting over a range places the cursor in what was put. -/
theorem putOverRange_aims (count : Nat) (register : Option Char) (range : TextRange) :
    Holds Aims (putOverRange count register range) := by
  intro e h
  refine ensures_bind.2 (ensures_contentToPut register h (fun content _ => ?_) h)
  have hput : (e.document.putOver content count range).Aims := Document.aims_putOver _ _ _ _
  refine ensures_bind.2 (ensures_get.2 (ensures_bind.2 (ensures_modify.2 ?_)))
  refine ensures_bind.2 (ensures_get.2 (ensures_bind.2 (ensures_ofExcept.2 ?_)))
  split
  · exact hput
  · exact hput

/-- A selection that is taken places the cursor at its beginning. -/
theorem takeSelection_aims : Holds Aims takeSelection := by
  apply holds_get_bind
  intro e
  split
  · exact preserves_throw _
  · apply (holds_transition _).bind
    intro _
    exact Holds.bind (holds_modify fun _ _ => Document.aims_setCursor _ _ _) fun _ =>
      preserves_pure _

/-- An edit of a selection keeps to the column as its action does. -/
theorem editSelection_aims {edit : VisualEdit} {register : Option Char}
    {act : TextRange → EditorM Unit} (hact : ∀ range, Holds Aims (act range)) :
    Holds Aims (editSelection edit register act) :=
  takeSelection_aims.bind fun range => holds_get_bind fun _ =>
    (hact range).bind fun _ => holds_record _

/-- Swapping the ends places the cursor on the other one. -/
theorem swapSelection_aims : Holds Aims swapSelection := by
  apply holds_get_bind
  intro e
  split
  · exact preserves_throw _
  · exact holds_modify fun _ _ => Document.aims_setCursor _ _ _

/-- Selecting an object places the cursor on its last cluster. -/
theorem selectObject_aims (o : TextObject) (count : Nat) : Holds Aims (selectObject o count) := by
  refine holds_get_bind fun e => (holds_ofExcept _).bind fun range => ?_
  split
  · exact preserves_pure ()
  · have hselect (anchor cursor : Position) : Holds Aims (modify (·.selectEnds anchor cursor)) :=
      holds_modify fun _ _ => Document.aims_setCursor _ cursor .normal
    refine holds_get_bind fun e' => ?_
    generalize (_ && _) = wholeLines
    cases wholeLines with
    | true => exact (holds_transition _).bind fun _ => hselect _ _
    | false => exact hselect _ _

/-- A mark is remembered without moving the cursor. -/
theorem setMarkAt_aims (name : Char) (p : Position) : Holds Aims (setMarkAt name p) := by
  intro e h
  refine ensures_bind.2 (ensures_get.2 ?_)
  cases hset : e.document.setMark? name p with
  | none => exact h
  | some d =>
    obtain ⟨marks, -, rfl⟩ := Option.map_eq_some_iff.1 hset
    exact h

/-- A walk through the jump list places the cursor, or fails and leaves it. -/
theorem walk_aims (walk : Document → JumpList × Option Position) :
    Holds Aims (attempt (fun d => d.landJump (walk d)) .jumpListExhausted) :=
  holds_attempt (fun d h => Document.Aims.landJump h (walk d)) _

/-- A walk through the history places the cursor where the state has it. -/
theorem travel_aims (step : History → Snapshot → Option (History × Snapshot)) (n : Nat)
    (reason : EditorError) : Holds Aims (attempt (fun d => d.travel step n) reason) :=
  holds_attempt (fun _ h => Document.Aims.travel h step n) reason

/-- The command line opens without moving the cursor. -/
theorem startCommandLine_aims (count : Option Nat) : Holds Aims (startCommandLine count) :=
  (holds_transition _).bind fun _ => holds_modify fun _ h => h

/-- The command line closes without moving the cursor. -/
theorem submitCommand_aims : Holds Aims submitCommand :=
  (holds_transition _).bind fun _ => holds_modify fun _ h => h

/-- A motion keeps to the column that it aims for, and other motions forget it. -/
theorem move_aims (h : e.document.Aims) (hrow : e.document.cursor.row ≤ e.document.lastRow)
    (m : Motion) (count : Option Nat) :
    Ensures (move m count) e (fun _ e' => e'.document.Aims) fun e' => e'.document.Aims := by
  refine ensures_bind.2 (ensures_noteFind m fun lastFind => ?_)
  refine ensures_bind.2 (ensures_get.2 (ensures_bind.2 (ensures_ofExcept.2 ?_)))
  split
  · rename_i landing hland
    exact ensures_set.2 (Editor.landOn_aims (e := { e with lastFind }) hrow hland)
  · exact h

/-- Visual mode is left with the cursor where it is, since it is at rest. -/
theorem toggleVisual_aims (h : e.document.Aims) (hrests : e.document.Rests) (kind : VisualKind) :
    Ensures (toggleVisual kind) e (fun _ e' => e'.document.Aims) fun e' => e'.document.Aims := by
  refine ensures_bind.2 (ensures_transition_next _ (fun mode _ => ensures_modify.2 ?_) h)
  split
  · exact h
  · show (e.document.clampCursor .normal).Aims
    rw [Document.clampCursor, Document.setCursorKeepSticky, hrests]
    exact h

/-! ### Commands that type -/

/-- What begins to type leads from Normal mode alone, and into a mode that types. -/
theorem isTyping_of_next {mode next : Mode} {event : ModeEvent}
    (hevent : event = .enterReplace ∨ ∃ variant, event = .enterInsert variant)
    (hnext : mode.next event = .ok next) : next.isTyping = true := by
  rcases hevent with rfl | ⟨variant, rfl⟩
  all_goals cases mode <;> cases hnext
  all_goals rfl

/-- Typing begins, or nothing happens to the document. -/
theorem startInsert_aims (h : e.document.Aims) (variant : InsertVariant) (count : Nat)
    (origin : SessionOrigin) :
    Ensures (startInsert variant count origin) e (fun _ e' => e'.mode.isTyping = true)
      fun e' => e'.document.Aims := by
  refine ensures_bind.2 (ensures_transition_next _ (fun mode hnext => ensures_modify.2 ?_) h)
  exact isTyping_of_next (.inr ⟨variant, rfl⟩) hnext

/-- Replace mode types, if it is entered. -/
theorem enterReplace_aims (h : e.document.Aims) (count : Nat) :
    Ensures (enterReplace count) e (fun _ e' => e'.mode.isTyping = true)
      fun e' => e'.document.Aims := by
  refine ensures_bind.2 (ensures_transition_next _ (fun mode hnext => ensures_modify.2 ?_) h)
  exact isTyping_of_next (.inl rfl) hnext

/-- A change ends in a session, if the deletion and the mode allow it. -/
theorem changeRange_aims (h : e.document.Aims) (range : TextRange) (register : Option Char)
    (c : Change) :
    Ensures (changeRange range register c) e (fun _ e' => e'.mode.isTyping = true)
      fun e' => e'.document.Aims := by
  have hcut := deleteRange_aims range register true (e.mapDocument .beginChange)
    (Document.Aims.beginChange h)
  refine ensures_asOneChange.2 (hcut.bind (fun _ e₁ h₁ => ?_) fun _ h₁ => h₁.endChange)
  exact (startInsert_aims h₁ .change 1 _).mono (fun _ _ htyping => htyping) fun _ h₂ =>
    h₂.endChange

/-- The end of typing puts the cursor where it rests. -/
theorem finishSession_aims (hm : e.mode.isTyping = true) :
    Ensures finishSession e (fun _ e' => e'.document.Aims) failed := by
  have hnext {e' : Editor} (hmodes : e'.modes = e.modes) : e'.mode.next .escape = .ok .normal := by
    rw [show e'.mode = e.mode from congrArg (·.mode) hmodes]
    exact next_escape hm
  refine ensures_bind.2 (ensures_get.2 (ensures_bind.2 (ensures_modify.2 ?_)))
  refine ensures_bind.2 (ensures_modify.2 (ensures_bind.2 (ensures_get.2 (ensures_bind.2 ?_))))
  refine ensures_transition (hnext ?_) (ensures_modify.2 ?_)
  · cases e.session with
    | none => rfl
    | some s => exact Editor.repeat_again_modes s _ e
  · split
    · exact Editor.record_aims (Document.aims_finishInsert _) _
    · exact Document.aims_finishInsert _

/-- The keys of a repeated change are typed in its session, whose end places the cursor. -/
theorem finishWith_aims (hm : e.mode.isTyping = true) (typed : List Edit) :
    Ensures (finishWith typed) e (fun _ e' => e'.document.Aims) failed := by
  have hmodes := Editor.foldl_modes Editor.typeEdit_modes typed e
  refine ensures_bind.2 (ensures_modify.2 (finishSession_aims ?_))
  rw [show (typed.foldl Editor.typeEdit e).mode = e.mode from congrArg (·.mode) hmodes]
  exact hm

/-- An operator keeps to the column, or begins to type. -/
theorem operateOn_aims (h : e.document.Aims) (op : Operator) (range : TextRange)
    (register : Option Char) (c : Change) :
    Ensures (operateOn op range register c) e
      (fun _ e' => if op = .change then e'.mode.isTyping = true else e'.document.Aims)
      fun e' => e'.document.Aims := by
  cases op with
  | yank => exact yankRange_aims range register e h
  | delete => exact ((deleteRange_aims range register false).bind fun _ => holds_record c) e h
  | change => exact changeRange_aims h range register c

/-- Of the operators only the change types. -/
theorem operate_aims (h : e.document.Aims) (op : Operator) (target : OperatorTarget)
    (count : Option Nat) (register : Option Char) :
    Ensures (operate op target count register) e
      (fun _ e' => if op = .change then e'.mode.isTyping = true else e'.document.Aims)
      fun e' => e'.document.Aims := by
  refine ensures_bind.2
    (ensures_resolveTarget op target count (fun range lastFind => ?_) fun _ => h)
  exact operateOn_aims (e := { e with lastFind }) h op range register _

/-- A repeated change does not type when it is over: what it began to type is finished with its keys. -/
theorem replay_aims (c : Change) : Holds Aims (replay c) := by
  intro e h
  cases c with
  | operate op target count register typed =>
    refine (operate_aims h op target count register).bind (fun _ e₁ h₁ => ?_) fun _ h₁ => h₁
    -- a change goes on to its typed keys, and the other operators are over
    by_cases hop : op = .change
    · rw [if_pos hop] at h₁ ⊢
      exact finishWith_aims h₁ typed
    · rw [if_neg hop] at h₁ ⊢
      exact h₁
  | visual edit shape register typed =>
    refine ensures_bind.2 (ensures_get.2 ?_)
    cases edit with
    | delete => exact deleteRange_aims _ register false e h
    | change =>
      exact (changeRange_aims h _ register _).bind (fun _ _ h₁ => finishWith_aims h₁ typed)
        fun _ h₁ => h₁
    | join spaced => exact joinRange_aims spaced _ e h
    | replace c => exact fillRange_aims c _ e h
    | put count => exact putOverRange_aims count register _ e h
  | insert variant count typed =>
    exact (startInsert_aims h variant count _).bind (fun _ _ h₁ => finishWith_aims h₁ typed)
      fun _ h₁ => h₁
  | replace count typed =>
    exact (enterReplace_aims h count).bind (fun _ _ h₁ => finishWith_aims h₁ typed) fun _ h₁ => h₁
  | put placement count register => exact put_aims placement count register e h
  | join count spaced => exact ((joinLines_aims _ _ spaced).bind fun _ => holds_record _) e h
  | replaceChar c count => exact replaceChar_aims c count e h

/-- The last change is repeated within one change, and recorded again. -/
theorem repeatLast_aims (count : Option Nat) : Holds Aims (repeatLast count) := by
  apply holds_get_bind
  intro e
  split
  · exact preserves_throw _
  · exact (Holds.unrecorded (asOneChange_aims (replay_aims _))).bind fun _ => holds_record _

/-! ### All commands -/

/-- Whether no text is typed, or typing has begun, the command is done well. -/
theorem Ensures.aiming {act : EditorM Unit} {ok : Unit → Editor → Prop}
    (h : Ensures act e ok fun e' => e'.document.Aims)
    (hok : ∀ e', ok () e' → e'.mode.isTyping = true ∨ e'.document.Aims) :
    Ensures act e (fun _ e' => e'.Aiming) Aiming := by
  refine h.mono (fun _ e' h' => ?_) fun _ h' => .of_aims h'
  rcases hok e' h' with htyping | haims
  · exact .of_typing htyping
  · exact .of_aims haims

/-- A command that keeps to the column keeps to it in whatever mode it ends. -/
theorem Holds.aiming {act : EditorM Unit} (hact : Holds Aims act) (h : e.document.Aims) :
    Ensures act e (fun _ e' => e'.Aiming) Aiming :=
  Ensures.aiming (hact e h) fun _ haims => .inr haims

/-- An operator on a selection takes it first, then types or does not. -/
theorem operateSelection_aiming (h : e.document.Aims) (op : Operator) (extent : VisualExtent)
    (register : Option Char) :
    Ensures (operateSelection op extent register) e (fun _ e' => e'.Aiming) Aiming := by
  refine (takeSelection_aims e h).bind (fun _ e₁ h₁ => ensures_bind.2 (ensures_get.2 ?_))
    fun _ h₁ => .of_aims h₁
  refine (operateOn_aims h₁ op _ register _).aiming fun e' h' => ?_
  split at h'
  · exact .inl h'
  · exact .inr h'

/-- The escape key leaves the cursor at rest, where the sticky column leads if it is kept. -/
theorem escape_aiming (he : e.Healthy) (h : e.Aiming) :
    Ensures escape e (fun _ e' => e'.Aiming) Aiming := by
  refine ensures_bind.2 (ensures_get.2 ?_)
  -- what each mode has to give up when it is left
  cases hm : e.mode with
  | normal => exact h
  | insert variant =>
    have htyping : e.mode.isTyping = true := by rw [hm]; rfl
    exact (finishSession_aims htyping).mono (fun _ _ h' => .of_aims h') fun _ h' => h'
  | replace =>
    have htyping : e.mode.isTyping = true := by rw [hm]; rfl
    exact (finishSession_aims htyping).mono (fun _ _ h' => .of_aims h') fun _ h' => h'
  | visual kind =>
    have hm' : e.mode.isTyping = false := by rw [hm]; rfl
    refine ensures_bind.2 (ensures_transition_next _ (fun _ _ => ensures_modify.2 ?_) h)
    apply Aiming.of_aims
    show (e.document.clampCursor .normal).Aims
    rw [Document.clampCursor, Document.setCursorKeepSticky, he.rests hm']
    exact h hm'
  | commandLine =>
    have hm' : e.mode.isTyping = false := by rw [hm]; rfl
    exact ensures_bind.2 (ensures_transition_next _
      (fun _ _ => ensures_modify.2 (Aiming.of_aims (h hm'))) h)
  | replaceSingle =>
    have hm' : e.mode.isTyping = false := by rw [hm]; rfl
    exact ensures_transition_next _ (fun _ _ => Aiming.of_aims (h hm')) h

/-- Every action keeps the sticky column where it leads to the cursor. -/
theorem perform_aiming (he : e.Healthy) (h : e.Aiming) {a : Action} (hfits : a.fits e.mode = true) :
    Ensures (perform a) e (fun _ e' => e'.Aiming) Aiming := by
  by_cases htyping : e.mode.isTyping = true
  · -- while text is typed, a key goes on with it or is the escape key
    cases a with
    | edit k =>
      refine ensures_type htyping k (Aiming.of_typing ?_)
      rw [show (e.typeEdit k).mode = e.mode from congrArg (·.mode) (Editor.typeEdit_modes e k)]
      exact htyping
    | escape => exact escape_aiming he h
    | rejected reason => exact h
    | _ =>
      cases hm : e.mode with
      | insert variant => rw [hm] at hfits; cases hfits
      | replace => rw [hm] at hfits; cases hfits
      | _ => rw [hm] at htyping; cases htyping
  · have hm : e.mode.isTyping = false := Bool.eq_false_iff.2 htyping
    have haims : e.document.Aims := h hm
    have hrests := he.rests hm
    have hrow := Buffer.lt_lineCount.1 hrests.placed.row
    cases a with
    | motion m count => exact (move_aims haims hrow m count).aiming fun _ h' => .inr h'
    | operate op target count register =>
      refine (operate_aims haims op target count register).aiming fun e' h' => ?_
      split at h'
      · exact .inl h'
      · exact .inr h'
    | put placement count register => exact Holds.aiming (put_aims placement count register) haims
    | join count spaced =>
      exact Holds.aiming ((joinLines_aims _ _ spaced).bind fun _ => holds_record _) haims
    | beginReplaceSingle => exact Holds.aiming (holds_transition _) haims
    | replaceChar c count => exact Holds.aiming (replaceChar_aims c count) haims
    | enterInsert variant count =>
      exact (startInsert_aims haims variant count _).aiming fun _ h' => .inl h'
    | enterReplace count => exact (enterReplace_aims haims count).aiming fun _ h' => .inl h'
    | enterVisual kind => exact (toggleVisual_aims haims hrests kind).aiming fun _ h' => .inr h'
    | undo count => exact Holds.aiming (travel_aims History.undo count .oldestChange) haims
    | redo count => exact Holds.aiming (travel_aims History.redo count .newestChange) haims
    | repeatLast count => exact Holds.aiming (repeatLast_aims count) haims
    | setMark name => exact Holds.aiming (holds_get_bind fun _ => setMarkAt_aims name _) haims
    | jumpBack count =>
      exact Holds.aiming (walk_aims fun d => d.jumps.back d.cursor (max count 1)) haims
    | jumpForward count =>
      exact Holds.aiming (walk_aims fun d => d.jumps.forward (max count 1)) haims
    | commandStart count => exact Holds.aiming (startCommandLine_aims count) haims
    | commandChar c => exact Holds.aiming (holds_modify fun _ h' => h') haims
    | commandBackspace => exact Holds.aiming holds_eraseCommand haims
    | commandSubmit => exact Holds.aiming submitCommand_aims haims
    | visualSwap => exact Holds.aiming swapSelection_aims haims
    | visualObject o count => exact Holds.aiming (selectObject_aims o count) haims
    | visualOperate op extent register => exact operateSelection_aiming haims op extent register
    | visualJoin spaced => exact Holds.aiming (editSelection_aims (joinRange_aims spaced)) haims
    | visualReplace c => exact Holds.aiming (editSelection_aims (fillRange_aims c)) haims
    | visualPut count register =>
      exact Holds.aiming (editSelection_aims (putOverRange_aims count register)) haims
    | edit k => rw [Action.fits, hm] at hfits; cases hfits
    | escape => exact escape_aiming he h
    | rejected reason => exact h

/-- So does every command on a range, which does nothing while text is typed. -/
theorem runEx_aiming (h : e.Aiming) (command : ExCommand) :
    Ensures (runEx command) e (fun _ e' => e'.Aiming) Aiming := by
  refine ensures_bind.2 (ensures_get.2 ?_)
  cases hm : e.mode with
  | normal =>
    have haims : e.document.Aims := h (by rw [hm]; rfl)
    have hperform : Holds Aims (performEx command) := by
      apply holds_get_bind
      intro d
      cases command with
      | delete range register => exact deleteRange_aims _ register false
      | yank range register =>
        exact holds_get_bind fun _ => (holds_ofExcept _).bind fun _ => holds_modify fun _ h' => h'
      | substitute range edit =>
        exact holds_modifyDocument? fun _ _ hsubstitute _ => Document.aims_substitute hsubstitute
      | join range => exact joinLines_aims _ _ true
      | gotoLine row => exact holds_modify fun _ _ => Document.aims_gotoRow _ row
      | setMark name row => exact setMarkAt_aims name _
    exact Holds.aiming (asOneChange_aims hperform) haims
  | _ => exact h

end EditorM

end ModalEditor
