import ModalEditor.Proofs.Engine.Reachable

/-!
# The parts of an engine go together

Mode, selection, session, open change, command line and reader are separate parts of an engine, and
each command sees to them on its own. After any inputs they agree with one another
(`run_ofBuffer_lockstep`).
-/

namespace ModalEditor

/-- Every part of the engine is there when the others say that it is. -/
structure Engine.Lockstep (engine : Engine) : Prop where
  /-- Something is selected in visual mode only. -/
  selection : engine.editor.selection.isSome = true ↔ engine.editor.mode.isVisual = true
  /-- The kind of the selection is that of the mode. -/
  kind : ∀ s, engine.editor.selection = some s → engine.editor.mode = .visual s.kind
  /-- The cursor is where the selection ends, or at the last place before it where it may rest. -/
  cursor : ∀ s, engine.editor.selection = some s →
    engine.editor.document.cursor = engine.editor.document.clamp s.cursor .normal
  /-- There is a session in insert mode and in replace mode only. -/
  session : engine.editor.session.isSome = true ↔ engine.editor.mode.isTyping = true
  /-- A change is open as long as there is a session. -/
  group : engine.editor.document.group.isSome = true ↔ engine.editor.session.isSome = true
  /-- No change is open inside another one. -/
  depth : ∀ g, engine.editor.document.group = some g → g.depth = 1
  /-- The command line is open in its mode only. -/
  commandLine : engine.editor.commandLine.isActive = true ↔ engine.editor.mode = .commandLine
  /-- Nothing is being repeated. -/
  replaying : engine.editor.replaying = false
  /-- Keys of a command wait in normal mode and in visual mode only. -/
  idle : engine.editor.mode ≠ .normal → engine.editor.mode.isVisual = false →
    engine.reader.isIdle = true
  /-- The keys that are shown are those of a command that goes on. -/
  typed : engine.reader.typed = [] ↔ engine.reader.isIdle = true

namespace Editor

/-- A selection and a session, and an open change with it, are there in the modes that they belong
to. -/
structure Parts (e : Editor) : Prop where
  selection : e.selection.isSome = e.mode.isVisual
  kind : ∀ s, e.selection = some s →
    e.mode = .visual s.kind ∧ e.document.cursor = e.document.clamp s.cursor .normal
  session : e.session.isSome = e.mode.isTyping
  group : e.document.group.isSome = e.mode.isTyping
  depth : ∀ g, e.document.group = some g → g.depth = 1

variable {e : Editor}

/-- An editor that rests has parts that fit. -/
theorem Resting.parts (h : e.Resting) (hvisual : e.mode.isVisual = false)
    (htyping : e.mode.isTyping = false) : e.Parts where
  selection := by rw [h.selection, hvisual]; rfl
  kind := by
    intro s hs
    rw [h.selection] at hs
    cases hs
  session := by rw [h.session, htyping]; rfl
  group := by rw [h.group, htyping]; rfl
  depth := by
    intro g hg
    rw [h.group] at hg
    cases hg

/-- An editor that selects has parts that fit. -/
theorem Selecting.parts {kind : VisualKind} (h : e.Selecting kind) (hm : e.mode = .visual kind) :
    e.Parts := by
  obtain ⟨s, hs, hkind, hcursor⟩ := h.selection
  refine ⟨?_, fun s' hs' => ?_, ?_, ?_, fun g hg => ?_⟩
  · rw [hs, hm]; rfl
  · have hsame : s = s' := Option.some.inj (hs.symm.trans hs')
    rw [← hsame, hkind]
    exact ⟨hm, hcursor⟩
  · rw [h.session, hm]; rfl
  · rw [h.group, hm]; rfl
  · rw [h.group] at hg
    cases hg

/-- An editor in a session has parts that fit. -/
theorem InSession.parts (h : e.InSession) : e.Parts := by
  obtain ⟨s, hs, -⟩ := h.typing.session
  -- the change that goes on with the session is the outermost one
  obtain ⟨d₀, -, g, hg, hdepth, -⟩ := h.unit
  have hvisual : e.mode.isVisual = false := by
    have htyping := h.typing.mode
    cases hm : e.mode with
    | visual kind => rw [hm] at htyping; cases htyping
    | _ => rfl
  refine ⟨?_, fun s' hs' => ?_, ?_, ?_, fun g' hg' => ?_⟩
  · rw [h.typing.selection, hvisual]; rfl
  · rw [h.typing.selection] at hs'
    cases hs'
  · rw [hs, h.typing.mode]; rfl
  · rw [hg, h.typing.mode]; rfl
  · rw [hg] at hg'
    exact Option.some.inj hg' ▸ hdepth

/-- An editor in the phase of its mode has parts that fit, whatever the mode. -/
theorem InPhase.parts (h : e.InPhase) : e.Parts := by
  cases hm : e.mode with
  | normal =>
    refine ((inPhase_normal hm).1 h).parts ?_ ?_
    · rw [hm]; rfl
    · rw [hm]; rfl
  | visual kind => exact ((inPhase_visual hm).1 h).parts hm
  | insert variant => exact ((inPhase_typing (by rw [hm]; rfl)).1 h).parts
  | replace => exact ((inPhase_typing (by rw [hm]; rfl)).1 h).parts
  | commandLine =>
    rw [InPhase, hm] at h
    refine Resting.parts h ?_ ?_
    · rw [hm]; rfl
    · rw [hm]; rfl
  | replaceSingle =>
    rw [InPhase, hm] at h
    refine Resting.parts h ?_ ?_
    · rw [hm]; rfl
    · rw [hm]; rfl

end Editor

namespace Engine

/-- The parts of a sound engine go together. -/
theorem Sound.lockstep {engine : Engine} (h : engine.Sound) : engine.Lockstep := by
  have hparts := h.healthy.phase.parts
  refine
    { selection := by rw [hparts.selection]
      kind := fun s hs => (hparts.kind s hs).1
      cursor := fun s hs => (hparts.kind s hs).2
      session := by rw [hparts.session]
      group := by rw [hparts.group, hparts.session]
      depth := hparts.depth
      commandLine := h.healthy.commandLine
      replaying := h.healthy.replaying
      idle := fun hnormal hvisual => engine.reader.isIdle_iff.2 (h.reader.idle hnormal hvisual)
      typed := ?_ }
  rw [h.reader.typed, KeyReader.isIdle_iff]

/-- Whatever keys and commands on ranges a fresh engine is given, its parts go together. -/
theorem run_ofBuffer_lockstep (b : Buffer) (settings : Settings) (inputs : List Input) :
    ((ofBuffer b settings).run inputs).1.Lockstep :=
  ((sound_ofBuffer b settings).run inputs).lockstep

end Engine

end ModalEditor
