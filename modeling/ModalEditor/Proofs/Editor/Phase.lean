import ModalEditor.Proofs.Document.Travel
import ModalEditor.Proofs.Editor.Range

/-!
# Phases of editing

The mode says which parts of the editor there are. While text is typed there is a session, and one
change is open that began with a document of a sound history; in visual mode there is a selection,
and the cursor rests where the selection ends; in every other mode there is neither.

`Healthy` is the invariant. `Follows` says what a command does to the change that is being made, or
to the document if there is none: whatever the document was when the change began, it is still one
unit of undo away.
-/

namespace ModalEditor.Editor

open Document (Kept Changed InUnit Settled)

/-- Nothing is selected, and nothing is typed. -/
structure Resting (e : Editor) : Prop where
  selection : e.selection = none
  session : e.session = none
  group : e.document.group = none
  rests : e.document.Rests

/-- There is a selection of this kind. -/
structure Selecting (kind : VisualKind) (e : Editor) : Prop where
  selection : ∃ s, e.selection = some s ∧ s.kind = kind ∧
    e.document.cursor = e.document.clamp s.cursor .normal
  session : e.session = none
  group : e.document.group = none

/-- Text is typed, as one change. -/
structure InSession (e : Editor) : Prop where
  typing : e.Typing
  unit : ∃ d₀ : Document, d₀.history.Sound ∧ InUnit d₀ 0 e.document

/-- The parts of the editor that there are in its mode. -/
def InPhase (e : Editor) : Prop :=
  match e.mode with
  | .normal | .replaceSingle | .commandLine => e.Resting
  | .visual kind => e.Selecting kind
  | .insert _ | .replace => e.InSession

/-- What holds of an editor between two commands. -/
structure Healthy (e : Editor) : Prop where
  phase : e.InPhase
  commandLine : e.commandLine.isActive = true ↔ e.mode = .commandLine
  replaying : e.replaying = false
  sound : e.document.history.Sound

/-- What is known of the document since it was `d₀`: a change that began then goes on, or has ended.
-/
def Since (d₀ : Document) (e : Editor) : Prop :=
  match e.session with
  | none => Settled d₀ e.document
  | some _ => InUnit d₀ 0 e.document

/-- A command makes at most one change, and goes on with the one that is being made. Where a change
ends, it ends in normal mode. -/
structure Follows (e e' : Editor) : Prop where
  unit : ∀ d₀, Since d₀ e → (e.session = none → Kept d₀ e.document) → Since d₀ e'
  revision : e.document.revision ≤ e'.document.revision
  ends : e'.session = none → e'.mode = .normal ∨ e.session = none ∧ Kept e.document e'.document

/-- The text is the same, and all that belongs to it. -/
structure SameContent (e e' : Editor) : Prop where
  buffer : e'.document.buffer = e.document.buffer
  revision : e'.document.revision = e.document.revision
  history : e'.document.history = e.document.history
  registers : e'.registers = e.registers
  marks : e'.document.marks = e.document.marks

/-- Content that stays through two stretches stays through both. -/
theorem SameContent.trans {e e' e'' : Editor} (h : SameContent e e') (h' : SameContent e' e'') :
    SameContent e e'' :=
  ⟨h'.buffer.trans h.buffer, h'.revision.trans h.revision, h'.history.trans h.history,
    h'.registers.trans h.registers, h'.marks.trans h.marks⟩

/-- The same content means that the document is kept. -/
theorem SameContent.kept {e e' : Editor} (h : SameContent e e') : Kept e.document e'.document :=
  ⟨h.buffer, h.history, h.revision⟩

/-- A refusal leaves the content. -/
theorem Refused.sameContent {e e' : Editor} (h : Refused e e') : SameContent e e' :=
  ⟨congrArg (·.buffer) h, congrArg (·.revision) h, congrArg (·.history) h,
    congrArg (·.registers) h, congrArg (·.marks) h⟩

/-! ## Phases by mode -/

section Modes

variable {e : Editor}

/-- The phase of Normal mode. -/
theorem inPhase_normal (hm : e.mode = .normal) : e.InPhase ↔ e.Resting := by
  rw [InPhase, hm]

/-- The phase of a Visual mode. -/
theorem inPhase_visual {kind : VisualKind} (hm : e.mode = .visual kind) :
    e.InPhase ↔ e.Selecting kind := by
  rw [InPhase, hm]

/-- The phase of the modes that type. -/
theorem inPhase_typing (hm : e.mode.isTyping = true) : e.InPhase ↔ e.InSession := by
  rw [InPhase]
  cases hmode : e.mode with
  | insert variant => rfl
  | replace => rfl
  | _ => rw [hmode] at hm; cases hm

/-- In Normal mode, a healthy editor is ready for any command. -/
theorem Healthy.ready (h : e.Healthy) (hm : e.mode = .normal) : e.Ready := by
  obtain ⟨hselection, hsession, -, hrests⟩ := (inPhase_normal hm).1 h.phase
  exact ⟨hm, hselection, hsession, hrests⟩

/-- Without a session no change is open, whatever the mode. -/
theorem Healthy.group_eq_none (h : e.Healthy) (hs : e.session = none) :
    e.document.group = none := by
  have hphase := h.phase
  unfold InPhase at hphase
  cases hm : e.mode with
  | normal => rw [hm] at hphase; exact hphase.group
  | replaceSingle => rw [hm] at hphase; exact hphase.group
  | commandLine => rw [hm] at hphase; exact hphase.group
  | visual kind => rw [hm] at hphase; exact hphase.group
  -- the typing modes have a session, which `hs` denies
  | insert variant =>
    rw [hm] at hphase
    obtain ⟨s, hsome, -⟩ := hphase.typing.session
    rw [hs] at hsome; cases hsome
  | replace =>
    rw [hm] at hphase
    obtain ⟨s, hsome, -⟩ := hphase.typing.session
    rw [hs] at hsome; cases hsome

/-- Without a session, nothing has been edited yet since now. -/
theorem Healthy.since (h : e.Healthy) (hs : e.session = none) : Since e.document e := by
  rw [Since, hs]
  exact ⟨h.group_eq_none hs, .inl (Kept.refl _)⟩

end Modes

/-! ## What follows from the ways in which a command ends -/

section Ends

variable {e e' : Editor}

/-- Without a session, all edits so far are one settled change. -/
theorem since_of_none {d₀ : Document} (hs : e.session = none) (h : Settled d₀ e.document) :
    Since d₀ e := by
  rw [Since, hs]; exact h

/-- In a session, all edits so far are in its unit. -/
theorem since_of_some {d₀ : Document} {s : Session} (hs : e.session = some s)
    (h : InUnit d₀ 0 e.document) : Since d₀ e := by
  rw [Since, hs]; exact h

/-- From an editor in which nothing is typed, it is enough to look at one change. -/
theorem Follows.of_none (hs : e.session = none) (h : Since e.document e')
    (hends : e'.session = none → e'.mode = .normal ∨ Kept e.document e'.document) :
    Follows e e' := by
  refine ⟨fun d₀ _ hkept => ?_, ?_, fun hs' => (hends hs').imp_right fun hk => ⟨hs, hk⟩⟩
  · unfold Since at h ⊢
    cases hs' : e'.session with
    | none => rw [hs'] at h; exact (hkept hs).trans_settled h
    | some s => rw [hs'] at h; exact (hkept hs).trans_inUnit h
  · unfold Since at h
    cases hs' : e'.session with
    | none => rw [hs'] at h; exact Document.revision_le_of_kept_or_changed h.2
    | some s => rw [hs'] at h; exact Document.revision_le_of_kept_or_changed h.kept_or_changed

/-- A command that leaves the document's text and history alone makes no change. -/
theorem Follows.of_kept (hkept : Kept e.document e'.document)
    (hgroup : e'.document.group = e.document.group) (hs : e'.session = e.session) :
    Follows e e' := by
  refine ⟨fun d₀ hsince _ => ?_, Nat.le_of_eq hkept.revision.symm,
    fun hs' => .inr ⟨hs ▸ hs', hkept⟩⟩
  unfold Since at hsince ⊢
  rw [hs]
  cases hsession : e.session with
  | none =>
    rw [hsession] at hsince
    exact ⟨hgroup.trans hsince.1, hsince.2.imp (·.trans hkept) (·.trans_kept hkept)⟩
  | some s =>
    rw [hsession] at hsince
    exact hsince.of_kept hkept hgroup

/-- A finished command has edited in one unit since it began. -/
theorem Done.since (h : Done e e') (hgroup : e.document.group = none) : Since e.document e' := by
  obtain ⟨f, hf, hdoc⟩ := h.document
  exact since_of_none h.ready.session (hdoc ▸ hf.settled hgroup)

/-- A session just begun has edited in its unit alone. -/
theorem Begun.since (h : Begun e e') (hgroup : e.document.group = none) :
    Since e.document e' := by
  obtain ⟨f, hf, hdoc⟩ := h.document
  obtain ⟨s, hs, -⟩ := h.typing.session
  exact since_of_some hs (hdoc ▸ hf.inUnit (Document.inUnit_beginChange hgroup))

/-- A finished command leaves a healthy editor. -/
theorem Done.healthy (h : Done e e') (hgroup : e.document.group = none)
    (hsound : e.document.history.Sound) (hline : e.commandLine.isActive = false)
    (hreplaying : e.replaying = false) : e'.Healthy := by
  have hsettled : Settled e.document e'.document := by
    have hsince := h.since hgroup
    rwa [Since, h.ready.session] at hsince
  refine ⟨(inPhase_normal h.ready.mode).2
    ⟨h.ready.selection, h.ready.session, hsettled.1, h.ready.rests⟩, ?_, ?_, hsettled.sound hsound⟩
  · rw [h.commandLine, hline, h.ready.mode]
    exact ⟨nofun, nofun⟩
  · rw [h.replaying, hreplaying]

/-- An editor that types inside a unit is healthy. -/
theorem healthy_of_inUnit (htyping : e'.Typing) {d₀ : Document} (hd₀ : d₀.history.Sound)
    (hunit : InUnit d₀ 0 e'.document) (hline : e'.commandLine.isActive = false)
    (hreplaying : e'.replaying = false) : e'.Healthy := by
  refine ⟨(inPhase_typing htyping.mode).2 ⟨htyping, d₀, hd₀, hunit⟩, ?_, hreplaying,
    hunit.sound hd₀⟩
  rw [hline]
  refine ⟨nofun, fun hmode => ?_⟩
  have htyping := htyping.mode
  rw [hmode] at htyping
  cases htyping

/-- A session just begun leaves a healthy editor. -/
theorem Begun.healthy (h : Begun e e') (hgroup : e.document.group = none)
    (hsound : e.document.history.Sound) (hline : e.commandLine.isActive = false)
    (hreplaying : e.replaying = false) : e'.Healthy := by
  obtain ⟨s, hs, -⟩ := h.typing.session
  have hsince := h.since hgroup
  rw [Since, hs] at hsince
  refine healthy_of_inUnit h.typing hsound hsince ?_ ?_
  · rw [h.commandLine, hline]
  · rw [h.replaying, hreplaying]

/-- Off the command line, the command line is not in use. -/
theorem Healthy.isActive_eq_false (h : e.Healthy) (hm : e.mode ≠ .commandLine) :
    e.commandLine.isActive = false :=
  Bool.eq_false_iff.2 fun hactive => hm (h.commandLine.1 hactive)

end Ends

end ModalEditor.Editor
