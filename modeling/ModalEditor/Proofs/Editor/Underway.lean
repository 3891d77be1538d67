import ModalEditor.Proofs.Document.Recorded
import ModalEditor.Proofs.Editor.Dispatch

/-!
# Commands that record the cursor they began with

A command that began with the document `d₀` and selects nothing goes through two states
(`Underway`): first the document is untouched, while a character or a command line is waited for,
and then text is typed in a change that records the cursor of `d₀`. It ends in normal mode, with
that change settled.

`perform_after` says this of one action. Only the selection makes a difference: it moves the cursor
before the change begins.
-/

namespace ModalEditor

namespace Editor

open Document (Kept Untouched InUnitAt SettledAt)

/-- A command that began with `d₀` goes on. -/
def Underway (d₀ : Document) (e : Editor) : Prop :=
  match e.session with
  | none => Untouched d₀ e.document
  | some _ => InUnitAt d₀ 0 e.document

/-- Nothing was done to `d₀` so far, and nothing is typed. -/
structure Waits (d₀ : Document) (e : Editor) : Prop where
  session : e.session = none
  untouched : Untouched d₀ e.document

/-- What an action makes of a command that began with `d₀`. -/
inductive After (d₀ : Document) (e : Editor) : Prop
  | underway (h : Underway d₀ e)
  | ended (mode : e.mode = .normal) (settled : SettledAt d₀ e.document)
  | selecting (mode : e.mode.isVisual = true)

section Ends

variable {d₀ : Document} {e e' : Editor}

/-- With a session, the change under way is the session's unit. -/
theorem underway_of_some {s : Session} (hs : e.session = some s) :
    Underway d₀ e ↔ InUnitAt d₀ 0 e.document := by
  rw [Underway, hs]

/-- Without a session, the change under way is not begun. -/
theorem Underway.waits (h : Underway d₀ e) (hs : e.session = none) : Waits d₀ e := by
  rw [Underway, hs] at h
  exact ⟨hs, h⟩

/-- A change not begun is under way. -/
theorem Waits.underway (h : Waits d₀ e) : Underway d₀ e := by
  rw [Underway, h.session]
  exact h.untouched

/-- A change not begun leaves all ends open. -/
theorem Waits.after (h : Waits d₀ e) : After d₀ e :=
  .underway h.underway

/-- A cursor that is put elsewhere in normal mode ends the command. -/
theorem Waits.moved (h : Waits d₀ e) (hmode : e'.mode = .normal)
    (hkept : Kept e.document e'.document) (hgroup : e'.document.group = e.document.group) :
    After d₀ e' :=
  .ended hmode ⟨hgroup.trans h.untouched.group, .inl (h.untouched.kept.trans hkept)⟩

/-- A finished command ends the change that waited for it. -/
theorem Done.after (h : Done e e') (hw : Waits d₀ e) : After d₀ e' := by
  obtain ⟨f, hf, hdoc⟩ := h.document
  exact .ended h.ready.mode (hdoc ▸ hf.settledAt hw.untouched)

/-- A session just begun is the change that was waited for. -/
theorem Begun.after (h : Begun e e') (hw : Waits d₀ e) : After d₀ e' := by
  obtain ⟨f, hf, hdoc⟩ := h.document
  obtain ⟨s, hs, -⟩ := h.typing.session
  exact .underway ((underway_of_some hs).2 (hdoc ▸ hf.inUnitAt hw.untouched.beginChange))

/-- A finished session ends its change. -/
theorem Finished.after (h : Finished e e') (hu : InUnitAt d₀ 0 e.document) : After d₀ e' := by
  obtain ⟨f, hf, hdoc⟩ := h.document
  exact .ended h.ready.mode (hdoc ▸ (hf.inUnitAt hu).settledAt)

/-- A refused command leaves the change waiting. -/
theorem Refused.after (h : Refused e e') (hw : Waits d₀ e) : After d₀ e' := by
  have hcursor : e'.document.cursor = e.document.cursor := congrArg (·.cursor) h
  have hgroup : e'.document.group = e.document.group := congrArg (·.group) h
  have hkept := hw.untouched.kept.trans h.sameContent.kept
  exact Waits.after ⟨(congrArg (·.session) h).trans hw.session, hkept,
    hcursor.trans hw.untouched.cursor, hgroup.trans hw.untouched.group⟩

end Ends

end Editor

namespace EditorM

open Document (Kept IsEdit)
open Editor

variable {d₀ : Document} {e : Editor}

/-! ## Commands that wait -/

/-- What touches neither the document nor the session leaves the command waiting. -/
theorem Preserves.after {act : EditorM Unit} (hact : Preserves (Waits d₀) act)
    (hw : Waits d₀ e) : Ensures act e (fun _ e' => After d₀ e') (After d₀) :=
  (hact e hw).mono (fun _ _ h => h.after) fun _ h => h.after

/-- A change of mode leaves the change waiting. -/
theorem transition_waits (event : ModeEvent) : Preserves (Waits d₀) (transition event) :=
  preserves_transition (fun _ _ h => ⟨h.session, h.untouched⟩) event

/-- The command line is none of the document's business. -/
theorem commandLine_waits {f : Editor → CommandLine} :
    Preserves (Waits d₀) (modify fun e => { e with commandLine := f e }) :=
  preserves_modify fun _ h => ⟨h.session, h.untouched⟩

/-- Erasing on the command line leaves the change waiting. -/
theorem eraseCommand_waits : Preserves (Waits d₀) eraseCommand := by
  refine preserves_get_bind fun e => ?_
  split
  · exact commandLine_waits
  · exact commandLine_waits.bind fun _ => transition_waits _

/-! ## Commands that move the cursor -/

/-- A motion leaves the change waiting. -/
theorem move_after (hm : e.mode = .normal) (hw : Waits d₀ e) (m : Motion) (count : Option Nat) :
    Ensures (move m count) e (fun _ e' => After d₀ e') (After d₀) := by
  refine ensures_bind.2 (ensures_noteFind m fun lastFind => ?_)
  have hw' : Waits d₀ { e with lastFind } := ⟨hw.session, hw.untouched⟩
  refine ensures_bind.2 (ensures_get.2 (ensures_bind.2 (ensures_ofExcept.2 ?_)))
  split
  · obtain ⟨hkept, hgroup⟩ := landOn_kept { e with lastFind } m _
    exact ensures_set.2 (hw'.moved hm hkept hgroup)
  · exact hw'.after

/-- A mark leaves the change waiting. -/
theorem setMark_after (hm : e.mode = .normal) (hw : Waits d₀ e) (name : Char) :
    Ensures (setMark name) e (fun _ e' => After d₀ e') (After d₀) := by
  refine ensures_bind.2 (ensures_get.2 (ensures_bind.2 (ensures_get.2 ?_)))
  cases hset : e.document.setMark? name e.document.cursor with
  | none => exact ensures_throw.2 hw.after
  | some document =>
    obtain ⟨marks, -, rfl⟩ := Option.map_eq_some_iff.1 hset
    exact hw.moved hm ⟨rfl, rfl, rfl⟩ rfl

/-- A walk on the jump list leaves the change waiting, also where it fails. -/
theorem landJump_after (hm : e.mode = .normal) (hw : Waits d₀ e)
    (walk : Document → JumpList × Option Position) :
    Ensures (attempt (fun d => d.landJump (walk d)) .jumpListExhausted) e
      (fun _ e' => After d₀ e') (After d₀) := by
  have hlanded : Kept e.document (e.document.landJump (walk e.document)).1 ∧
      (e.document.landJump (walk e.document)).1.group = e.document.group := by
    unfold Document.landJump
    simp only
    split
    · exact ⟨⟨rfl, rfl, rfl⟩, rfl⟩
    · exact ⟨⟨rfl, rfl, rfl⟩, rfl⟩
  have hend : After d₀ { e with document := (e.document.landJump (walk e.document)).1 } :=
    hw.moved hm hlanded.1 hlanded.2
  exact ensures_attempt _ _ (fun _ => hend) fun _ => hend

/-! ## Commands that edit -/

/-- A single replacement is the change that was waited for. -/
theorem replaceChar_after (he : e.Healthy) (hm : e.mode = .replaceSingle) (hu : Underway d₀ e)
    (c : Char) (count : Nat) :
    Ensures (replaceChar c count) e (fun _ e' => After d₀ e') (After d₀) := by
  have hphase := he.phase
  rw [InPhase, hm] at hphase
  have hw := hu.waits hphase.session
  refine ensures_replaceChar hm c count ?_
  -- with the mode for one character left, the editor is ready
  have hready : Ready { e with modes := { e.modes with mode := .normal
                                                       history := e.modes.remember } } :=
    ⟨rfl, hphase.selection, hphase.session, hphase.rests⟩
  have hw' : Waits d₀ { e with modes := { e.modes with mode := .normal
                                                       history := e.modes.remember } } :=
    ⟨hw.session, hw.untouched⟩
  exact (replaceUnder_done hready c count).mono (fun _ _ h => h.after hw') fun _ h => h.after hw'

/-- What is typed belongs to the session's change, unless the cursor is moved. -/
theorem type_after (he : e.Healthy) (hm : e.mode.isTyping = true) (hu : Underway d₀ e) {k : Edit}
    (hk : k.isMove = false) :
    Ensures (type k) e (fun _ e' => After d₀ e') (After d₀) := by
  refine ensures_type hm k ?_
  obtain ⟨htyping, -⟩ := session_of_typing he hm
  have hplain : Edit.Plain [k] := fun k' hk' => (List.mem_singleton.1 hk') ▸ hk
  obtain ⟨s, hs, -⟩ := htyping.session
  obtain ⟨s', hs', -⟩ := ((afterKeys_typeEdit e hk).typing hplain htyping).session
  have hedit : IsEdit fun d => (typeEdit { e with document := d } k).document :=
    isEdit_of_related e fun hR _ _ _ h => h.typeEdit hR hk
  exact .underway ((underway_of_some hs').2 (hedit.inUnitAt ((underway_of_some hs).1 hu)))

/-- A session's end is the change's end. -/
theorem finishSession_after (he : e.Healthy) (hm : e.mode.isTyping = true)
    (hu : Underway d₀ e) :
    Ensures finishSession e (fun _ e' => After d₀ e') (After d₀) := by
  obtain ⟨htyping, -⟩ := session_of_typing he hm
  obtain ⟨s, hs, -⟩ := htyping.session
  exact (finishSession_finished htyping).mono
    (fun _ _ h => h.after ((underway_of_some hs).1 hu)) fun _ h => h

/-- An escape ends the session's change where there is a session, and otherwise leaves the change
waiting. -/
theorem escape_after (he : e.Healthy) (hvisual : e.mode.isVisual = false) (hu : Underway d₀ e) :
    Ensures escape e (fun _ e' => After d₀ e') (After d₀) := by
  have hphase := he.phase
  refine ensures_bind.2 (ensures_get.2 ?_)
  cases hm : e.mode with
  | normal => exact ensures_pure.2 (.underway hu)
  | insert variant => exact finishSession_after he (by rw [hm]; rfl) hu
  | replace => exact finishSession_after he (by rw [hm]; rfl) hu
  | visual kind => rw [hm] at hvisual; cases hvisual
  | commandLine =>
    rw [InPhase, hm] at hphase
    exact ((transition_waits _).bind fun _ => commandLine_waits).after (hu.waits hphase.session)
  | replaceSingle =>
    rw [InPhase, hm] at hphase
    exact (transition_waits _).after (hu.waits hphase.session)

/-! ## All actions -/

/-- An action of a command that selects nothing. -/
theorem perform_after (he : e.Healthy) (hplain : ∀ c, e.lastChange = some c → c.Plain)
    (hvisual : e.mode.isVisual = false) (hu : Underway d₀ e) {a : Action}
    (hfits : a.fits e.mode = true) (hstays : a.staysInChange = true) :
    Ensures (perform a) e (fun _ e' => After d₀ e') (After d₀) := by
  have hselects {p : Prop} (h : e.mode.isVisual = true) : p := by
    rw [hvisual] at h
    cases h
  have hnormal (h : (e.mode == .normal || e.mode.isVisual) = true) : e.mode = .normal := by
    rw [hvisual, Bool.or_false] at h
    exact beq_iff_eq.1 h
  have hwaits (hm : e.mode = .normal) : Waits d₀ e := hu.waits (he.resting hm).session
  have hline (hm : e.mode = .commandLine) : Waits d₀ e :=
    hu.waits (resting_of_commandLine he hm).session
  -- an editing action starts from Normal mode, and `perform_edits` covers them all; the cases below are
  -- the actions that wait, type or are refused
  by_cases hedits : a.edits = true
  · have hm := Action.mode_of_edits hedits hfits
    exact (perform_edits he hm hplain hedits).mono
      (fun _ _ h => h.elim (·.after (hwaits hm)) (·.after (hwaits hm)))
      fun _ h => h.after (hwaits hm)
  cases a with
  | motion m count => exact move_after (hnormal hfits) (hwaits (hnormal hfits)) m count
  | beginReplaceSingle => exact (transition_waits _).after (hwaits (beq_iff_eq.1 hfits))
  | replaceChar c count => exact replaceChar_after he (beq_iff_eq.1 hfits) hu c count
  | enterVisual kind =>
    have hm := hnormal hfits
    have hnext : e.mode.next (.enterVisual kind) = .ok (.visual kind) := by rw [hm]; rfl
    refine ensures_bind.2 (ensures_transition hnext (ensures_modify.2 (.selecting ?_)))
    simp only [Editor.mode, (he.resting hm).selection]
    rfl
  | undo count => cases hstays
  | redo count => cases hstays
  | setMark name =>
    have hm := beq_iff_eq.1 hfits
    exact setMark_after hm (hwaits hm) name
  | jumpBack count =>
    have hm := beq_iff_eq.1 hfits
    exact landJump_after hm (hwaits hm) fun d => d.jumps.back d.cursor (max count 1)
  | jumpForward count =>
    have hm := beq_iff_eq.1 hfits
    exact landJump_after hm (hwaits hm) fun d => d.jumps.forward (max count 1)
  | commandStart count =>
    refine Preserves.after ?_ (hwaits (beq_iff_eq.1 hfits))
    exact (transition_waits _).bind fun _ => commandLine_waits
  | commandChar c => exact commandLine_waits.after (hline (beq_iff_eq.1 hfits))
  | commandBackspace => exact eraseCommand_waits.after (hline (beq_iff_eq.1 hfits))
  | commandSubmit =>
    refine Preserves.after ?_ (hline (beq_iff_eq.1 hfits))
    exact (transition_waits _).bind fun _ => commandLine_waits
  | visualSwap => exact hselects hfits
  | visualObject o count => exact hselects hfits
  | visualOperate op extent register => exact hselects hfits
  | visualJoin spaced => exact hselects hfits
  | visualReplace c => exact hselects hfits
  | visualPut count register => exact hselects hfits
  | edit k =>
    refine type_after he hfits hu ?_
    cases k with
    | move direction => cases hstays
    | _ => rfl
  | escape => exact escape_after he hvisual hu
  | rejected reason => exact ensures_throw.2 (.underway hu)
  | _ => exact absurd rfl hedits

/-- A command on a range, in whatever mode. -/
theorem runEx_after (he : e.Healthy) (hu : Underway d₀ e) (command : ExCommand) :
    Ensures (runEx command) e (fun _ e' => After d₀ e') (After d₀) := by
  by_cases hm : e.mode = .normal
  · have hready := he.ready hm
    have hw := hu.waits hready.session
    exact (runEx_done hready (.inl (he.group_eq_none hready.session)) command).mono
      (fun _ _ h => h.after hw) fun _ h => h.after hw
  · refine ensures_bind.2 (ensures_get.2 ?_)
    cases hmode : e.mode with
    | normal => exact absurd hmode hm
    | _ => exact ensures_throw.2 (.underway hu)

end EditorM

end ModalEditor
