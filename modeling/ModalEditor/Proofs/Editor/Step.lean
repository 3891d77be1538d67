import ModalEditor.Proofs.Editor.Phase

/-!
# One action

An action is right in some modes (`Action.fits`). In a healthy editor it ends in one of two ways: it
leaves a healthy editor and makes one change at most (`Stepped`), or it fails and leaves the text
with all that belongs to it as it was (`Failed`). What an action does to the text was said before
(`Done`, `Begun`, `Refused`); what is left are the parts that the modes put around it.
-/

namespace ModalEditor

/-- Can a key mean this action in this mode? -/
def Action.fits (mode : Mode) : Action → Bool
  | .motion .. | .enterVisual _ => mode == .normal || mode.isVisual
  | .operate .. | .put .. | .join .. | .beginReplaceSingle | .enterInsert .. | .enterReplace _
  | .undo _ | .redo _ | .repeatLast _ | .setMark _ | .jumpBack _ | .jumpForward _
  | .commandStart _ => mode == .normal
  | .visualSwap | .visualObject .. | .visualOperate .. | .visualJoin _ | .visualReplace _
  | .visualPut .. => mode.isVisual
  | .replaceChar .. => mode == .replaceSingle
  | .commandChar _ | .commandBackspace | .commandSubmit => mode == .commandLine
  | .edit _ => mode.isTyping
  | .escape | .rejected _ => true

/-- Does the action stay in the change that is being made? -/
def Action.staysInChange : Action → Bool
  | .undo _ | .redo _ | .edit (.move _) => false
  | _ => true

/-- Does the action change the text in one stroke, or begin to type? -/
def Action.edits : Action → Bool
  | .operate .. | .put .. | .join .. | .enterInsert .. | .enterReplace _ | .repeatLast _ => true
  | _ => false

/-- Such an action belongs to normal mode. -/
theorem Action.mode_of_edits {a : Action} {mode : Mode} (hedits : a.edits = true)
    (hfits : a.fits mode = true) : mode = .normal := by
  cases a with
  | operate => exact beq_iff_eq.1 hfits
  | put => exact beq_iff_eq.1 hfits
  | join => exact beq_iff_eq.1 hfits
  | enterInsert => exact beq_iff_eq.1 hfits
  | enterReplace => exact beq_iff_eq.1 hfits
  | repeatLast => exact beq_iff_eq.1 hfits
  | _ => cases hedits

namespace Editor

open Document (Kept Changed InUnit Settled)

variable {e e' : Editor}

/-- A command ended well. -/
structure Stepped (e e' : Editor) : Prop where
  healthy : e'.Healthy
  follows : Follows e e'

/-- A command failed, and left the text alone. -/
structure Failed (e e' : Editor) : Prop where
  stepped : Stepped e e'
  content : SameContent e e'

/-! ## Ends of commands -/

/-- Resting looks at the editor's core alone. -/
theorem Resting.congr (h : e'.core = e.core) (he : e.Resting) : e'.Resting where
  selection := (congrArg (·.selection) h).trans he.selection
  session := (congrArg (·.session) h).trans he.session
  group := (congrArg (·.group) h).trans he.group
  rests := by
    have hbuffer : e'.document.buffer = e.document.buffer := congrArg (·.buffer) h
    have hcursor : e'.document.cursor = e.document.cursor := congrArg (·.cursor) h
    rw [Document.Rests, Document.clamp, hbuffer, hcursor]
    exact he.rests

/-- Selecting looks at the editor's core alone. -/
theorem Selecting.congr {kind : VisualKind} (h : e'.core = e.core) (he : e.Selecting kind) :
    e'.Selecting kind where
  selection := by
    obtain ⟨s, hs, hkind, hcursor⟩ := he.selection
    have hbuffer : e'.document.buffer = e.document.buffer := congrArg (·.buffer) h
    refine ⟨s, (congrArg (·.selection) h).trans hs, hkind, ?_⟩
    rw [Document.clamp, hbuffer]
    exact (congrArg (·.cursor) h).trans hcursor
  session := (congrArg (·.session) h).trans he.session
  group := (congrArg (·.group) h).trans he.group

/-- Being in a session looks at the editor's core alone. -/
theorem InSession.congr (h : e'.core = e.core) (he : e.InSession) : e'.InSession where
  typing :=
    { mode := by
        rw [show e'.mode = e.mode from congrArg (·.modes.mode) h]
        exact he.typing.mode
      selection := (congrArg (·.selection) h).trans he.typing.selection
      session := by
        obtain ⟨s, hs, hplain⟩ := he.typing.session
        exact ⟨s, (congrArg (·.session) h).trans hs, hplain⟩ }
  unit := by
    obtain ⟨d₀, hd₀, hunit⟩ := he.unit
    exact ⟨d₀, hd₀, hunit.of_kept (Refused.sameContent h).kept (congrArg (·.group) h)⟩

/-- What a refused command leaves alone is all that counts. -/
theorem Refused.healthy (h : Refused e e') (he : e.Healthy) : e'.Healthy := by
  have hmode : e'.mode = e.mode := congrArg (·.modes.mode) h
  have hline : e'.commandLine = e.commandLine := congrArg (·.commandLine) h
  refine ⟨?_, ?_, (congrArg (·.replaying) h).trans he.replaying, ?_⟩
  · have hphase := he.phase
    unfold InPhase at hphase ⊢
    rw [hmode]
    cases hm : e.mode with
    | normal => rw [hm] at hphase; exact hphase.congr h
    | replaceSingle => rw [hm] at hphase; exact hphase.congr h
    | commandLine => rw [hm] at hphase; exact hphase.congr h
    | visual kind => rw [hm] at hphase; exact hphase.congr h
    | insert variant => rw [hm] at hphase; exact hphase.congr h
    | replace => rw [hm] at hphase; exact hphase.congr h
  · rw [hline, hmode]; exact he.commandLine
  · rw [show e'.document.history = e.document.history from congrArg (·.history) h]
    exact he.sound

/-- A refusal is a failure that changed nothing. -/
theorem Refused.failed (h : Refused e e') (he : e.Healthy) : Failed e e' := by
  have hsame := h.sameContent
  exact ⟨⟨h.healthy he, Follows.of_kept hsame.kept (congrArg (·.group) h)
    (congrArg (·.session) h)⟩, hsame⟩

/-- A finished command is a step from Normal mode. -/
theorem Done.stepped (h : Done e e') (he : e.Healthy) (hm : e.mode = .normal) : Stepped e e' := by
  have hready := he.ready hm
  have hgroup := he.group_eq_none hready.session
  have hline := he.isActive_eq_false (by rw [hm]; exact nofun)
  exact ⟨h.healthy hgroup he.sound hline he.replaying,
    Follows.of_none hready.session (h.since hgroup) fun _ => .inl h.ready.mode⟩

/-- A session just begun is a step from Normal mode. -/
theorem Begun.stepped (h : Begun e e') (he : e.Healthy) (hm : e.mode = .normal) :
    Stepped e e' := by
  have hready := he.ready hm
  have hgroup := he.group_eq_none hready.session
  have hline := he.isActive_eq_false (by rw [hm]; exact nofun)
  obtain ⟨s, hs, -⟩ := h.typing.session
  exact ⟨h.healthy hgroup he.sound hline he.replaying,
    Follows.of_none hready.session (h.since hgroup) fun hnone => by rw [hs] at hnone; cases hnone⟩

/-- A command that leaves text and history alone ends well if the parts of the new mode are there.
-/
theorem stepped_of_kept (he : e.Healthy) (hkept : Kept e.document e'.document)
    (hgroup : e'.document.group = e.document.group) (hs : e'.session = e.session)
    (hphase : e'.InPhase) (hline : e'.commandLine.isActive = true ↔ e'.mode = .commandLine)
    (hreplaying : e'.replaying = e.replaying) : Stepped e e' :=
  ⟨⟨hphase, hline, hreplaying.trans he.replaying, hkept.history ▸ he.sound⟩,
    Follows.of_kept hkept hgroup hs⟩

/-- A command that ends in Normal mode without editing is a step. -/
theorem stepped_of_resting (he : e.Healthy) (hkept : Kept e.document e'.document)
    (hgroup : e'.document.group = e.document.group) (hs : e'.session = e.session)
    (hm : e'.mode = .normal) (hrest : e'.Resting) (hline : e'.commandLine.isActive = false)
    (hreplaying : e'.replaying = e.replaying) : Stepped e e' := by
  refine stepped_of_kept he hkept hgroup hs ((inPhase_normal hm).2 hrest) ?_ hreplaying
  rw [hline, hm]
  exact ⟨nofun, nofun⟩

/-- A command that ends in a Visual mode without editing is a step. -/
theorem stepped_of_selecting (he : e.Healthy) (hkept : Kept e.document e'.document)
    (hgroup : e'.document.group = e.document.group) (hs : e'.session = e.session)
    {kind : VisualKind} (hm : e'.mode = .visual kind) (hselecting : e'.Selecting kind)
    (hline : e'.commandLine.isActive = false) (hreplaying : e'.replaying = e.replaying) :
    Stepped e e' := by
  refine stepped_of_kept he hkept hgroup hs ((inPhase_visual hm).2 hselecting) ?_ hreplaying
  rw [hline, hm]
  exact ⟨nofun, nofun⟩

/-- A healthy editor in Normal mode rests. -/
theorem Healthy.resting (he : e.Healthy) (hm : e.mode = .normal) : e.Resting :=
  (inPhase_normal hm).1 he.phase

/-- A healthy editor in a Visual mode selects. -/
theorem Healthy.selecting {kind : VisualKind} (he : e.Healthy) (hm : e.mode = .visual kind) :
    e.Selecting kind :=
  (inPhase_visual hm).1 he.phase

/-- The command line is open in no mode but its own. -/
theorem Healthy.closed {mode : Mode} (he : e.Healthy) (hm : e.mode = mode)
    (hmode : mode ≠ .commandLine) : e.commandLine.isActive = false :=
  he.isActive_eq_false (hm ▸ hmode)

end Editor

end ModalEditor
