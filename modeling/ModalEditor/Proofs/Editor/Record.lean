import ModalEditor.Proofs.Editor.Dispatch

/-!
# What is recorded for repetition

The change that `.` repeats is of a certain form, whatever editor a command is run from: an operator
that is recorded deletes or changes, only a change has text after it, and no arrow is among the keys
that are typed again (`Change.WellFormed`). Every command keeps this (`perform_keeps`,
`runEx_keeps`), also one that fails, and none leaves the recording suspended.
-/

namespace ModalEditor

/-- The form of a change that is recorded. -/
def Change.WellFormed : Change → Prop
  | .operate op _ _ _ typed => op ≠ .yank ∧ (op = .delete → typed = []) ∧ Edit.Plain typed
  | .visual _ _ _ typed | .insert _ _ typed | .replace _ typed => Edit.Plain typed
  | .put .. | .join .. | .replaceChar .. => True

/-- The typed keys of a recorded change are no arrows. -/
theorem Change.WellFormed.plain {c : Change} (h : c.WellFormed) : c.Plain := by
  cases c with
  | operate op target count register typed => exact h.2.2
  | _ => exact h

/-- Another count keeps the form, which is about the operator and the typed keys. -/
theorem Change.WellFormed.withCount {c : Change} (h : c.WellFormed) (n : Nat) :
    (c.withCount n).WellFormed := by
  cases c with
  | _ => exact h

/-- Typing goes on to a change of the form that is recorded, whatever is typed. -/
structure Session.WellFormed (s : Session) : Prop where
  plain : Edit.Plain s.typed
  toChange {typed : List Edit} (overwritten : List Overwritten) : Edit.Plain typed →
    ({ s with typed, overwritten } : Session).toChange.WellFormed

/-- A session that has just begun holds no keys. -/
theorem Edit.plain_nil : Edit.Plain [] := fun _ hk => nomatch hk

/-- What a session of insert mode goes on to is an insertion with the keys that were typed. -/
theorem Session.wellFormed_start_insert (variant : InsertVariant) (count : Nat) :
    (Session.start (.insert variant) count).WellFormed :=
  ⟨Edit.plain_nil, fun _ h => h⟩

/-- What a session of replace mode goes on to is a replacement with the keys that were typed. -/
theorem Session.wellFormed_start_replace (count : Nat) :
    (Session.start .replace count).WellFormed :=
  ⟨Edit.plain_nil, fun _ h => h⟩

/-- What is recorded of the command and of the typing that goes on has the right form, and the
recording is suspended or not. -/
structure Editor.WellFormed (e : Editor) (suspended : Bool) : Prop where
  lastChange {c : Change} : e.lastChange = some c → c.WellFormed
  session {s : Session} : e.session = some s → s.WellFormed
  replaying : e.replaying = suspended

namespace Editor

variable {suspended : Bool}

/-- The parts of an editor that recording has to do with. -/
def recording (e : Editor) : Option Change × Option Session × Bool :=
  (e.lastChange, e.session, e.replaying)

/-- Only the session and the record matter. -/
theorem WellFormed.congr {e e' : Editor} (h : e.WellFormed suspended)
    (hsame : e'.recording = e.recording) : e'.WellFormed suspended := by
  obtain ⟨hlast, hrest⟩ := Prod.mk.inj hsame
  obtain ⟨hsession, hreplaying⟩ := Prod.mk.inj hrest
  exact ⟨fun hc => h.lastChange (hlast ▸ hc), fun hs => h.session (hsession ▸ hs),
    hreplaying.trans h.replaying⟩

/-- Recording a change of the right form keeps the form; a suspended recording keeps the change before.
-/
theorem WellFormed.record {e : Editor} (h : e.WellFormed suspended) {c : Change}
    (hc : c.WellFormed) : (e.record c).WellFormed suspended := by
  unfold Editor.record
  split
  · exact h
  · exact ⟨fun heq => Option.some.inj heq ▸ hc, h.session, h.replaying⟩

/-- Beginning a session of the right form keeps the form. -/
theorem WellFormed.start {e e' : Editor} (h : e.WellFormed suspended)
    (hlast : e'.lastChange = e.lastChange) (hreplaying : e'.replaying = e.replaying) {s : Session}
    (hsession : e'.session = some s) (hs : s.WellFormed) : e'.WellFormed suspended := by
  refine ⟨fun hc => h.lastChange (hlast ▸ hc), fun heq => ?_, hreplaying.trans h.replaying⟩
  rw [hsession] at heq
  exact Option.some.inj heq ▸ hs

/-- Keys that are remembered in a session keep the form, as long as none of them is an arrow. -/
theorem WellFormed.afterKeys {e e' : Editor} (h : e.WellFormed suspended) {typed : List Edit}
    (htyped : Edit.Plain typed) (hkeys : AfterKeys typed e e') : e'.WellFormed suspended := by
  obtain ⟨d, g, rfl⟩ := hkeys
  refine ⟨h.lastChange, fun {s'} hs' => ?_, h.replaying⟩
  obtain ⟨s, hs, rfl⟩ := Option.map_eq_some_iff.1 hs'
  have hform := h.session hs
  refine ⟨fun k hk => ?_, fun overwritten htyped' => hform.toChange overwritten htyped'⟩
  exact (List.mem_append.1 hk).elim (hform.plain k) (htyped k)

/-- A typed key keeps the form, also an arrow, which begins another session. -/
theorem WellFormed.typeEdit {e : Editor} (h : e.WellFormed suspended) (k : Edit) :
    (e.typeEdit k).WellFormed suspended := by
  by_cases hk : k.isMove = false
  · exact h.afterKeys (fun k' hk' => (List.mem_singleton.1 hk') ▸ hk) (afterKeys_typeEdit e hk)
  · cases k with
    | move direction =>
      cases hs : e.session with
      | none =>
        refine h.congr ?_
        simp only [recording, Editor.typeEdit, applyEdit, moveTyping, rememberEdit, mapDocument, hs]
      | some s =>
        -- a moved cursor starts a session over, for the same kind of typing
        have hmoved : ∃ origin, (e.typeEdit (.move direction)).session = some (.start origin 1) ∧
            (Session.start origin 1).WellFormed := by
          cases ho : s.origin with
          | replace =>
            refine ⟨.replace, ?_, Session.wellFormed_start_replace 1⟩
            simp only [Editor.typeEdit, applyEdit, moveTyping, rememberEdit, mapDocument, hs, ho]
          | insert variant =>
            refine ⟨.insert .insert, ?_, Session.wellFormed_start_insert .insert 1⟩
            simp only [Editor.typeEdit, applyEdit, moveTyping, rememberEdit, mapDocument, hs, ho]
          | change c =>
            refine ⟨.insert .insert, ?_, Session.wellFormed_start_insert .insert 1⟩
            simp only [Editor.typeEdit, applyEdit, moveTyping, rememberEdit, mapDocument, hs, ho]
        obtain ⟨origin, hsession, hform⟩ := hmoved
        refine h.start ?_ ?_ hsession hform
        · simp only [Editor.typeEdit, applyEdit, moveTyping, rememberEdit, mapDocument, hs]
        · simp only [Editor.typeEdit, applyEdit, moveTyping, rememberEdit, mapDocument, hs]
    | _ => exact absurd rfl hk

end Editor

namespace EditorM

open Editor

/-- However the command ends, what is recorded has the right form, and the recording is suspended if
it was before. -/
def Keeps (suspended : Bool) {α : Type} (act : EditorM α) : Prop :=
  ∀ e : Editor, e.WellFormed suspended →
    Ensures act e (fun _ e' => e'.WellFormed suspended) fun e' => e'.WellFormed suspended

variable {suspended : Bool}

section Rules

variable {α β : Type}

/-- A result keeps what is recorded. -/
theorem keeps_pure (a : α) : Keeps suspended (pure a) := preserves_pure a

/-- An error keeps what is recorded, since the form is asked for in both cases. -/
theorem keeps_throw (reason : EditorError) : Keeps suspended (throw reason : EditorM α) :=
  preserves_throw reason

/-- A result that is handed on keeps what is recorded. -/
theorem keeps_ofExcept (result : Except EditorError α) : Keeps suspended (ofExcept result) :=
  preserves_ofExcept result

/-- A step that leaves the record, the session and the suspension alone keeps the form. -/
theorem keeps_modify {f : Editor → Editor} (hf : ∀ e, (f e).recording = e.recording) :
    Keeps suspended (modify f) :=
  preserves_modify fun e h => h.congr (hf e)

/-- Commands one after the other keep what each of them keeps. -/
theorem Keeps.bind {act : EditorM α} {f : α → EditorM β} (hact : Keeps suspended act)
    (hf : ∀ a, Keeps suspended (f a)) : Keeps suspended (act >>= f) :=
  Preserves.bind hact hf

/-- What is read of an editor is no more than what any editor could give. -/
theorem keeps_get_bind {f : Editor → EditorM β} (hf : ∀ e, Keeps suspended (f e)) :
    Keeps suspended (get >>= f) :=
  preserves_get_bind hf

/-- The mode is no part of what is recorded. -/
theorem keeps_transition (event : ModeEvent) : Keeps suspended (transition event) :=
  preserves_transition (fun _ _ h => h.congr rfl) event

/-- Where a change begins and ends is no part of what is recorded. -/
theorem Keeps.asOneChange {act : EditorM α} (hact : Keeps suspended act) :
    Keeps suspended (asOneChange act) :=
  Preserves.asOneChange hact (fun _ h => h.congr rfl) fun _ h => h.congr rfl

/-- An action under a suspended recording may count on the suspension, which is lifted however it ends.
-/
theorem Keeps.unrecorded {act : EditorM α} (hact : Keeps true act) :
    Keeps false (unrecorded act) := by
  intro e h
  have hmarked : ({ e with replaying := true } : Editor).WellFormed true :=
    ⟨h.lastChange, h.session, rfl⟩
  refine ensures_unrecorded.2 ((hact _ hmarked).mono (fun _ e' h' => ?_) fun e' h' => ?_)
  · exact ⟨h'.lastChange, h'.session, rfl⟩
  · exact ⟨h'.lastChange, h'.session, rfl⟩

/-- A change is recorded with the form that it has. -/
theorem keeps_record {c : Change} (hc : c.WellFormed) : Keeps suspended (record c) :=
  fun _ h => h.record hc

end Rules

/-! ## Operators and sessions -/

/-- The last search is no part of what is recorded. -/
theorem keeps_noteFind (m : Motion) : Keeps suspended (noteFind m) :=
  fun _ h => ensures_noteFind m fun _ => h.congr rfl

/-- Finding a range records nothing. -/
theorem keeps_resolveTarget (op : Operator) (target : OperatorTarget) (count : Option Nat) :
    Keeps suspended (resolveTarget op target count) :=
  fun _ h => ensures_resolveTarget op target count (fun _ _ => h.congr rfl)
    fun _ => h.congr rfl

/-- A yank records nothing. -/
theorem keeps_yankRange (range : TextRange) (register : Option Char) :
    Keeps suspended (yankRange range register) :=
  fun _ h => ensures_yankRange range register h (fun _ _ => h.congr rfl) h

/-- A deletion by itself records nothing; its caller does. -/
theorem keeps_deleteRange (range : TextRange) (register : Option Char) (change : Bool) :
    Keeps suspended (deleteRange range register change) :=
  fun _ h => ensures_deleteRange range register change h (fun _ => h.congr rfl) h

/-- A session begins with the form that is given for it. -/
theorem keeps_startInsert {variant : InsertVariant} {count : Nat} {origin : SessionOrigin}
    (hs : (Session.start origin count).WellFormed) :
    Keeps suspended (startInsert variant count origin) :=
  (keeps_transition _).bind fun _ _ h => h.start rfl rfl rfl hs

/-- A change of a range goes on to a session, which will record it with the keys to be typed. -/
theorem keeps_changeRange (range : TextRange) (register : Option Char) {c : Change}
    (hc : ∀ {typed}, Edit.Plain typed → (c.withTyped typed).WellFormed) :
    Keeps suspended (changeRange range register c) := by
  have hs : (Session.start (.change c) 1).WellFormed := ⟨Edit.plain_nil, fun _ h => hc h⟩
  exact ((keeps_deleteRange range register true).bind fun _ => keeps_startInsert hs).asOneChange

/-- A deletion is recorded at once and a change when its session ends; a yank is not recorded. -/
theorem keeps_operateOn {op : Operator} (range : TextRange) (register : Option Char) {c : Change}
    (hdelete : op = .delete → c.WellFormed)
    (hchange : op = .change → ∀ {typed}, Edit.Plain typed → (c.withTyped typed).WellFormed) :
    Keeps suspended (operateOn op range register c) := by
  cases op with
  | yank => exact keeps_yankRange range register
  | delete =>
    exact (keeps_deleteRange range register false).bind fun _ => keeps_record (hdelete rfl)
  | change => exact keeps_changeRange range register (hchange rfl)

/-- The change that an operator records is of its own target, count and register. -/
theorem keeps_operate (op : Operator) (target : OperatorTarget) (count : Option Nat)
    (register : Option Char) : Keeps suspended (operate op target count register) := by
  refine (keeps_resolveTarget op target count).bind fun range =>
    keeps_operateOn range register ?_ ?_
  · -- a deletion is recorded with nothing typed, and a change with what is typed from here on
    rintro rfl
    exact ⟨nofun, fun _ => rfl, Edit.plain_nil⟩
  · rintro rfl typed htyped
    exact ⟨nofun, nofun, htyped⟩

/-- The end of a session records what the session goes on to, which has the right form by
`Session.WellFormed`. -/
theorem keeps_finishSession : Keeps suspended finishSession := by
  intro e h
  refine ensures_bind.2 (ensures_get.2 ?_)
  -- without a session there is nothing to record, and only the mode is left
  cases hs : e.session with
  | none =>
    refine ensures_bind.2 (ensures_modify.2 (ensures_bind.2 (ensures_modify.2 ?_)))
    refine ensures_bind.2 (ensures_get.2 (ensures_bind.2 ?_))
    refine (keeps_transition .escape _ ?_).mono (fun _ e₁ h' => ?_) fun _ h' => h'
    · exact h.congr rfl
    · exact ensures_modify.2 (h'.congr rfl)
  | some s =>
    have hform := h.session hs
    -- the repetitions of the session add to no record, so its form is the one from before
    obtain ⟨d, g, hkeys⟩ := afterKeys_repeat_again e hform.plain (s.count - 1)
    have hlast : (Nat.repeat s.again (s.count - 1) e).lastChange = e.lastChange := by rw [hkeys]
    have hreplaying : (Nat.repeat s.again (s.count - 1) e).replaying = e.replaying := by rw [hkeys]
    refine ensures_bind.2 (ensures_modify.2 (ensures_bind.2 (ensures_modify.2 ?_)))
    refine ensures_bind.2 (ensures_get.2 (ensures_bind.2 ?_))
    refine (keeps_transition .escape _ ?_).mono (fun _ e₁ h' => ?_) fun _ h' => h'
    · exact ⟨fun hc => h.lastChange (hlast ▸ hc), nofun, hreplaying.trans h.replaying⟩
    · -- the session is over by now, and its change is what is recorded
      refine ensures_modify.2 (WellFormed.record ?_ ?_)
      · exact h'.congr rfl
      · exact hform.toChange s.overwritten hform.plain

/-- Replace mode begins a session without keys. -/
theorem keeps_enterReplace (count : Nat) : Keeps suspended (enterReplace count) :=
  (keeps_transition _).bind fun _ _ h =>
    h.start rfl rfl rfl (Session.wellFormed_start_replace count)

/-- A repeated change ends with a session that its typed keys went into. -/
theorem keeps_finishWith {typed : List Edit} (htyped : Edit.Plain typed) :
    Keeps suspended (finishWith typed) :=
  Keeps.bind (fun e h => ensures_modify.2 (h.afterKeys htyped (afterKeys_foldl_typeEdit e htyped)))
    fun _ => keeps_finishSession

/-! ## Changes in one stroke -/

/-- A change in one stroke is recorded by what comes after it. -/
theorem keeps_modifyDocument? (act : Document → Option Document) :
    Keeps suspended (modifyDocument? act) :=
  fun _ h => ensures_modifyDocument? act (fun _ _ => h.congr rfl) h

/-- Reading a register records nothing. -/
theorem keeps_contentToPut (register : Option Char) : Keeps suspended (contentToPut register) :=
  fun _ h => ensures_contentToPut register h (fun _ _ => h) h

/-- A put is recorded with its register, if there was anything to put. -/
theorem keeps_put (placement : Placement) (count : Nat) (register : Option Char) :
    Keeps suspended (put placement count register) := by
  refine (keeps_contentToPut register).bind fun content => ?_
  cases content with
  | none => exact keeps_pure ()
  | some content =>
    exact (keeps_modifyDocument? _).bind fun _ => keeps_record trivial

/-- A join is recorded with its count. -/
theorem keeps_join (count : Nat) (spaced : Bool) : Keeps suspended (join count spaced) :=
  (keeps_modifyDocument? _).bind fun _ => keeps_record trivial

/-- A replacement is recorded with its character and its count. -/
theorem keeps_replaceChar (c : Char) (count : Nat) : Keeps suspended (replaceChar c count) := by
  have hrest : Keeps suspended
      (do modifyDocument? (·.replaceUnder c count); record (.replaceChar c count)) :=
    (keeps_modifyDocument? _).bind fun _ => keeps_record trivial
  refine keeps_get_bind fun e => ?_
  split
  · exact (keeps_transition _).bind fun _ => hrest
  · exact hrest

/-- Filling a range records nothing by itself. -/
theorem keeps_fillRange (c : Char) (range : TextRange) : Keeps suspended (fillRange c range) :=
  keeps_modify fun _ => rfl

/-- Putting over a range records nothing by itself. -/
theorem keeps_putOverRange (count : Nat) (register : Option Char) (range : TextRange) :
    Keeps suspended (putOverRange count register range) := by
  refine (keeps_contentToPut register).bind fun content => ?_
  cases content with
  | none => exact keeps_pure ()
  | some content =>
    refine keeps_get_bind fun _ => Keeps.bind (keeps_modify fun _ => rfl) fun _ => ?_
    exact keeps_get_bind fun _ => (keeps_ofExcept _).bind fun _ => keeps_modify fun _ => rfl

/-- Joining a range records nothing by itself. -/
theorem keeps_joinRange (spaced : Bool) (range : TextRange) :
    Keeps suspended (joinRange spaced range) :=
  keeps_modifyDocument? (·.joinLines range.rows.1 (range.rows.2 - range.rows.1 + 1) spaced)

/-! ## Repetition -/

/-- A repeated change begins sessions of the right form only, whatever its own record is. -/
theorem keeps_replay {c : Change} (hc : c.WellFormed) : Keeps suspended (replay c) := by
  -- one case for each kind of change, with the command that it repeats
  cases c with
  | operate op target count register typed =>
    refine (keeps_operate op target count register).bind fun _ => ?_
    split
    · exact keeps_finishWith hc.2.2
    · exact keeps_pure ()
  | visual edit shape register typed =>
    refine keeps_get_bind fun _ => ?_
    cases edit with
    | delete => exact keeps_deleteRange _ register false
    | change =>
      have hvisual {typed' : List Edit} (h : Edit.Plain typed') :
          ((Change.visual .change shape register typed).withTyped typed').WellFormed := h
      exact (keeps_changeRange _ register hvisual).bind fun _ => keeps_finishWith hc
    | join spaced => exact keeps_joinRange spaced _
    | replace c => exact keeps_fillRange c _
    | put count => exact keeps_putOverRange count register _
  | insert variant count typed =>
    exact (keeps_startInsert (Session.wellFormed_start_insert variant count)).bind fun _ =>
      keeps_finishWith hc
  | replace count typed => exact (keeps_enterReplace count).bind fun _ => keeps_finishWith hc
  | put placement count register => exact keeps_put placement count register
  | join count spaced => exact keeps_join count spaced
  | replaceChar c count => exact keeps_replaceChar c count

/-- The change that is repeated is recorded again, with the new count if there is one. -/
theorem keeps_repeatLast (count : Option Nat) : Keeps false (repeatLast count) := by
  intro e h
  refine ensures_bind.2 (ensures_get.2 ?_)
  cases hlast : e.lastChange with
  | none => exact h
  | some last =>
    have hform := h.lastChange hlast
    cases count with
    | none =>
      exact ((keeps_replay hform).asOneChange.unrecorded.bind fun _ => keeps_record hform) e h
    | some n =>
      have hcounted := hform.withCount n
      exact ((keeps_replay hcounted).asOneChange.unrecorded.bind fun _ => keeps_record hcounted) e h

/-! ## The other commands -/

/-- A mark is no part of what is recorded. -/
theorem keeps_setMarkAt (name : Char) (p : Position) : Keeps suspended (setMarkAt name p) := by
  refine keeps_get_bind fun e => ?_
  split
  · exact keeps_modify fun _ => rfl
  · exact keeps_throw _

/-- An operation of the document is no part of what is recorded. -/
theorem keeps_attempt {α : Type} (act : Document → Document × Option α) (reason : EditorError) :
    Keeps suspended (attempt act reason) :=
  fun _ h => ensures_attempt act reason (fun _ => h.congr rfl) fun _ => h.congr rfl

/-- The escape key records what a session comes to, and nothing else. -/
theorem keeps_escape : Keeps suspended escape := by
  refine keeps_get_bind fun e => ?_
  split
  · exact keeps_pure ()
  · exact keeps_finishSession
  · exact keeps_finishSession
  · exact (keeps_transition _).bind fun _ => keeps_modify fun _ => rfl
  · exact (keeps_transition _).bind fun _ => keeps_modify fun _ => rfl
  · exact keeps_transition _

/-- A selection that is taken records nothing by itself. -/
theorem keeps_takeSelection : Keeps suspended takeSelection := by
  refine keeps_get_bind fun e => ?_
  split
  · exact keeps_throw _
  · refine (keeps_transition _).bind fun _ => ?_
    exact Keeps.bind (keeps_modify fun _ => rfl) fun _ => keeps_pure _

/-- An edit of a selection is recorded by its shape, without typed keys. -/
theorem keeps_editSelection {edit : VisualEdit} {register : Option Char}
    {act : TextRange → EditorM Unit} (hact : ∀ range, Keeps suspended (act range)) :
    Keeps suspended (editSelection edit register act) :=
  keeps_takeSelection.bind fun range => keeps_get_bind fun _ =>
    (hact range).bind fun _ => keeps_record Edit.plain_nil

/-- An operator on a selection is recorded as one on a target is, with the shape for its target. -/
theorem keeps_operateSelection (op : Operator) (extent : VisualExtent) (register : Option Char) :
    Keeps suspended (operateSelection op extent register) :=
  keeps_takeSelection.bind fun _ => keeps_get_bind fun _ =>
    keeps_operateOn _ register (fun _ => Edit.plain_nil) fun _ => fun h => h

/-- A motion records nothing. -/
theorem keeps_move (m : Motion) (count : Option Nat) : Keeps suspended (move m count) := by
  refine (keeps_noteFind m).bind fun _ e h => ensures_bind.2 (ensures_get.2 ?_)
  refine (keeps_ofExcept _ e h).bind (fun landing e' h' => ?_) fun _ h' => h'
  exact ensures_set.2 (h.congr rfl)

/-- A selection that begins or ends records nothing. -/
theorem keeps_toggleVisual (kind : VisualKind) : Keeps suspended (toggleVisual kind) := by
  refine (keeps_transition _).bind fun _ e h => ensures_modify.2 ?_
  split
  · exact h.congr rfl
  · exact h.congr rfl

/-- Its ends may be swapped without a record. -/
theorem keeps_swapSelection : Keeps suspended swapSelection := by
  refine keeps_get_bind fun e => ?_
  split
  · exact keeps_throw _
  · exact keeps_modify fun _ => rfl

/-- An object that is selected records nothing. -/
theorem keeps_selectObject (o : TextObject) (count : Nat) :
    Keeps suspended (selectObject o count) := by
  refine keeps_get_bind fun e => (keeps_ofExcept _).bind fun range => ?_
  split
  · exact keeps_pure ()
  · have hselect (anchor cursor : Position) :
        Keeps suspended (modify (·.selectEnds anchor cursor)) :=
      keeps_modify fun _ => rfl
    refine keeps_get_bind fun e' => ?_
    -- whether the mode changes first makes no difference to what is recorded
    generalize (_ && _) = wholeLines
    cases wholeLines with
    | true => exact (keeps_transition _).bind fun _ => hselect _ _
    | false => exact hselect _ _

/-- The command line records nothing. -/
theorem keeps_eraseCommand : Keeps suspended eraseCommand := by
  refine keeps_get_bind fun e => ?_
  split
  · exact keeps_modify fun _ => rfl
  · exact Keeps.bind (keeps_modify fun _ => rfl) fun _ => keeps_transition _

/-- A typed key goes into the session, or nowhere. -/
theorem keeps_type (k : Edit) : Keeps suspended (type k) := by
  intro e h
  refine ensures_modify.2 ?_
  split
  · exact h.typeEdit k
  · exact h.typeEdit k
  · exact h

/-- Every action keeps the form of what is recorded. -/
theorem perform_keeps (a : Action) : Keeps false (perform a) := by
  cases a with
  | motion m count => exact keeps_move m count
  | operate op target count register => exact keeps_operate op target count register
  | put placement count register => exact keeps_put placement count register
  | join count spaced => exact keeps_join count spaced
  | beginReplaceSingle => exact keeps_transition _
  | replaceChar c count => exact keeps_replaceChar c count
  | enterInsert variant count =>
    exact keeps_startInsert (Session.wellFormed_start_insert variant count)
  | enterReplace count => exact keeps_enterReplace count
  | enterVisual kind => exact keeps_toggleVisual kind
  | undo count => exact keeps_attempt (·.undo count) .oldestChange
  | redo count => exact keeps_attempt (·.redo count) .newestChange
  | repeatLast count => exact keeps_repeatLast count
  | setMark name => exact keeps_get_bind fun _ => keeps_setMarkAt name _
  | jumpBack count => exact keeps_attempt (·.jumpBack count) .jumpListExhausted
  | jumpForward count => exact keeps_attempt (·.jumpForward count) .jumpListExhausted
  | commandStart count =>
    exact (keeps_transition _).bind fun _ => keeps_modify fun _ => rfl
  | commandChar c => exact keeps_modify fun _ => rfl
  | commandBackspace => exact keeps_eraseCommand
  | commandSubmit =>
    exact (keeps_transition _).bind fun _ => keeps_modify fun _ => rfl
  | visualSwap => exact keeps_swapSelection
  | visualObject o count => exact keeps_selectObject o count
  | visualOperate op extent register => exact keeps_operateSelection op extent register
  | visualJoin spaced => exact keeps_editSelection fun range => keeps_joinRange spaced range
  | visualReplace c => exact keeps_editSelection fun range => keeps_fillRange c range
  | visualPut count register =>
    exact keeps_editSelection fun range => keeps_putOverRange count register range
  | edit k => exact keeps_type k
  | escape => exact keeps_escape
  | rejected reason => exact keeps_throw reason

/-- So does every command on a range. -/
theorem runEx_keeps (command : ExCommand) : Keeps suspended (runEx command) := by
  refine keeps_get_bind fun e => ?_
  split
  · refine Keeps.asOneChange (keeps_get_bind fun d => ?_)
    cases command with
    | delete range register => exact keeps_deleteRange _ register false
    | yank range register =>
      exact keeps_get_bind fun _ => (keeps_ofExcept _).bind fun _ => keeps_modify fun _ => rfl
    | substitute range edit => exact keeps_modifyDocument? _
    | join range => exact keeps_modifyDocument? _
    | gotoLine row => exact keeps_modify fun _ => rfl
    | setMark name row => exact keeps_setMarkAt name _
  · exact keeps_throw _

end EditorM

end ModalEditor
