import ModalEditor.Proofs.Engine.Reachable

/-!
# What an outcome says

An outcome with a notice says that the text is as it was, with all that belongs to it
(`Reachable.notice_keeps`).

A command begins and ends where the editor is in normal mode and no key waits (`Engine.atRest`), and
is not at rest between (`Engine.completes`). If one of its outcomes says that the text was changed,
one undo takes the whole command back, and one redo after that restores it
(`Reachable.undo_redo_command`).
-/

namespace ModalEditor.Engine

open Document (Kept Changed Settled)
open Editor (Since)

/-! ## A notice -/

/-- If there is a notice, the input changed nothing of the text, its history, the registers and the
marks. -/
theorem Reachable.notice_keeps {engine : Engine} (h : engine.Reachable) (i : Input)
    (hnotice : (engine.feed i).2.notice ≠ none) :
    (engine.feed i).1.editor.document.buffer.lines = engine.editor.document.buffer.lines ∧
      (engine.feed i).1.editor.document.revision = engine.editor.document.revision ∧
      (engine.feed i).1.editor.document.history.undoDepth =
        engine.editor.document.history.undoDepth ∧
      (engine.feed i).1.editor.document.history.redoDepth =
        engine.editor.document.history.redoDepth ∧
      (engine.feed i).1.editor.registers = engine.editor.registers ∧
      (engine.feed i).1.editor.document.marks = engine.editor.document.marks := by
  have hsame := (h.sound.feed i).content hnotice
  refine ⟨?_, hsame.revision, ?_, ?_, hsame.registers, hsame.marks⟩
  · rw [hsame.buffer]
  · rw [hsame.history]
  · rw [hsame.history]

/-- After a deletion, putting what an empty register holds. -/
theorem notice_keeps_emptyRegister :
    let engine := ((ofBuffer (.ofText "ab\nc".toList) {}).run
      ([.ofChar 'd', .ofChar 'd', .ofChar '\x22', .ofChar 'z'].map .key)).1
    (engine.feed (.key (.ofChar 'p'))).2.notice = some (.emptyRegister 'z') ∧
      (engine.feed (.key (.ofChar 'p'))).1.editor.document.buffer.lines =
        engine.editor.document.buffer.lines := by
  intro engine
  have hnotice : (engine.feed (.key (.ofChar 'p'))).2.notice = some (.emptyRegister 'z') := rfl
  exact ⟨hnotice, (Reachable.notice_keeps ⟨_, _, _, rfl⟩ _ (by rw [hnotice]; exact nofun)).1⟩

/-! ## Whole commands -/

/-- Is the editor in normal mode, and does no key wait? -/
def atRest (engine : Engine) : Bool :=
  engine.editor.mode == .normal && engine.reader.typed.isEmpty

/-- Is this one command, up to the first time that the engine is at rest again? An undo, a redo and
a step while text is typed do not belong to one. -/
def completes (engine : Engine) : List Input → Bool
  | [] => false
  | i :: inputs =>
    engine.staysInChange i &&
      if (engine.feed i).1.atRest then inputs.isEmpty else (engine.feed i).1.completes inputs

/-- An engine rests in Normal mode with no keys waiting. -/
theorem atRest_iff {engine : Engine} :
    engine.atRest = true ↔ engine.editor.mode = .normal ∧ engine.reader.typed = [] := by
  rw [atRest, Bool.and_eq_true, beq_iff_eq, List.isEmpty_iff]

/-- As long as keys wait, the editor knows nothing of them. -/
theorem feed_editor_of_typed {engine : Engine} (h : engine.Sound) {i : Input}
    (htyped : (engine.feed i).1.reader.typed ≠ []) :
    (engine.feed i).1.editor = engine.editor := by
  cases i with
  | range command => exact absurd rfl htyped
  | key k =>
    obtain ⟨hsome, -⟩ := KeyReader.read_fits h.reader k
    cases hread : (engine.reader.read engine.editor.mode k).2 with
    | none => exact (handleKey_of_none hread).1
    | some a => exact absurd (hsome a hread).2.2 htyped

/-- A command that began with the document `d₀` goes on. -/
structure During (d₀ : Document) (engine : Engine) : Prop where
  sound : engine.Sound
  since : Since d₀ engine.editor
  kept : engine.editor.session = none → Kept d₀ engine.editor.document

section Steps

variable {d₀ : Document} {engine : Engine} {i : Input}

/-- A command starts from an engine at rest. -/
theorem Sound.during (h : engine.Sound) (hrest : engine.atRest = true) :
    During engine.editor.document engine := by
  have hresting := h.healthy.resting (atRest_iff.1 hrest).1
  exact ⟨h, h.healthy.since hresting.session, fun _ => Kept.refl _⟩

/-- An input after which the engine is not at rest. -/
theorem During.feed (h : During d₀ engine) (hstays : engine.staysInChange i = true)
    (hrest : (engine.feed i).1.atRest = false) : During d₀ (engine.feed i).1 := by
  have hfed := h.sound.feed i
  have hfollows := hfed.follows hstays
  refine ⟨hfed.sound, hfollows.unit d₀ h.since h.kept, fun hs => ?_⟩
  rcases hfollows.ends hs with hnormal | ⟨hnone, hkept⟩
  · -- a change that ended in normal mode would leave the engine at rest
    have htyped : (engine.feed i).1.reader.typed ≠ [] := fun hnil => by
      rw [atRest_iff.2 ⟨hnormal, hnil⟩] at hrest
      cases hrest
    rw [feed_editor_of_typed h.sound htyped] at hs ⊢
    exact h.kept hs
  · exact (h.kept hnone).trans hkept

/-- An input after which the engine is at rest. -/
theorem During.settled (h : During d₀ engine) (hstays : engine.staysInChange i = true)
    (hrest : (engine.feed i).1.atRest = true) :
    Settled d₀ (engine.feed i).1.editor.document := by
  have hfed := h.sound.feed i
  have hsince := (hfed.follows hstays).unit d₀ h.since h.kept
  have hresting := hfed.sound.healthy.resting (atRest_iff.1 hrest).1
  rwa [Since, hresting.session] at hsince

/-- An input that changed the text counts the revision up. -/
theorem During.revision_lt (h : During d₀ engine) (hstays : engine.staysInChange i = true)
    (hchanged : (engine.feed i).2.changed = true) :
    engine.editor.document.revision < (engine.feed i).1.editor.document.revision := by
  have hfed := h.sound.feed i
  have hle := (hfed.follows hstays).revision
  rw [hfed.changed, bne_iff_ne] at hchanged
  omega

end Steps

/-- A command settles what it began with, and counts the revision up if it changed the text. -/
theorem During.run {d₀ : Document} {engine : Engine} (h : During d₀ engine) {inputs : List Input}
    (hcommand : engine.completes inputs = true) :
    Settled d₀ (engine.run inputs).1.editor.document ∧
      (engine.run inputs).1.Sound ∧ (engine.run inputs).1.atRest = true ∧
      engine.editor.document.revision ≤ (engine.run inputs).1.editor.document.revision ∧
      ((∃ o ∈ (engine.run inputs).2, o.changed = true) →
        engine.editor.document.revision < (engine.run inputs).1.editor.document.revision) := by
  induction inputs generalizing engine with
  | nil => cases hcommand
  | cons i inputs ih =>
    rw [completes, Bool.and_eq_true] at hcommand
    obtain ⟨hstays, hcommand⟩ := hcommand
    have hle := ((h.sound.feed i).follows hstays).revision
    by_cases hrest : (engine.feed i).1.atRest = true
    · rw [if_pos hrest, List.isEmpty_iff] at hcommand
      subst hcommand
      refine ⟨h.settled hstays hrest, (h.sound.feed i).sound, hrest, hle, fun hchanged => ?_⟩
      obtain ⟨o, ho, hchanged⟩ := hchanged
      rw [List.mem_singleton.1 ho] at hchanged
      exact h.revision_lt hstays hchanged
    · rw [if_neg hrest] at hcommand
      have hnext := h.feed hstays (Bool.eq_false_iff.2 hrest)
      obtain ⟨hsettled, hsound, hend, hle', hlt⟩ := ih hnext hcommand
      refine ⟨hsettled, hsound, hend, Nat.le_trans hle hle', fun hchanged => ?_⟩
      obtain ⟨o, ho, hchanged⟩ := hchanged
      rcases List.mem_cons.1 ho with rfl | ho
      · exact Nat.lt_of_lt_of_le (h.revision_lt hstays hchanged) hle'
      · exact Nat.lt_of_le_of_lt hle (hlt ⟨o, ho, hchanged⟩)

/-! ## Undo and redo by key -/

/-- The keys that take one change back, and restore it. -/
def undoKey : Input := .key (.ofChar 'u')

def redoKey : Input := .key { code := .char 'r', ctrl := true }

/-- An action that walks the history changes the document alone. -/
theorem dispatch_attempt {e : Editor} {a : Action} (act : Document → Document × Option Nat)
    (reason : EditorError) (ha : EditorM.perform a = EditorM.attempt act reason) :
    (e.dispatch a).1 = { e with document := (act e.document).1 } := by
  have hattempt : EditorM.Ensures (EditorM.perform a) e
      (fun _ e' => e' = { e with document := (act e.document).1 })
      (fun e' => e' = { e with document := (act e.document).1 }) := by
    rw [ha]
    exact EditorM.ensures_attempt act reason (fun _ => rfl) fun _ => rfl
  exact (Editor.dispatch_cases hattempt).elim (·.2) (·.2)

/-- A key that completes an action dispatches it. -/
theorem handleKey_of_read {engine : Engine} {k : Key} {reader : KeyReader} {a : Action}
    (hread : engine.reader.read engine.editor.mode k = (reader, some a)) :
    (engine.handleKey k).1 = { editor := (engine.editor.dispatch a).1, reader } := by
  simp only [handleKey, hread]

section Keys

variable {engine : Engine}

/-- At rest, no command is begun. -/
theorem Sound.pending_of_atRest (h : engine.Sound) (hrest : engine.atRest = true) :
    engine.reader.pending = {} :=
  h.reader.typed.1 (atRest_iff.1 hrest).2

/-- `u` undoes one change and leaves the engine at rest. -/
theorem Sound.feed_undoKey (h : engine.Sound) (hrest : engine.atRest = true) :
    (engine.feed undoKey).1.editor.document = (engine.editor.document.undo 1).1 ∧
      (engine.feed undoKey).1.atRest = true := by
  have hread : engine.reader.read engine.editor.mode (.ofChar 'u') =
      (engine.reader.reset, some (.undo 1)) := by
    rw [(atRest_iff.1 hrest).1, KeyReader.read, KeyReader.readCommand, h.pending_of_atRest hrest]
    rfl
  have hfed : (engine.feed undoKey).1 = _ := handleKey_of_read hread
  rw [hfed, dispatch_attempt (·.undo 1) .oldestChange rfl]
  exact ⟨rfl, atRest_iff.2 ⟨(atRest_iff.1 hrest).1, rfl⟩⟩

/-- Control-r redoes one change. -/
theorem Sound.feed_redoKey (h : engine.Sound) (hrest : engine.atRest = true) :
    (engine.feed redoKey).1.editor.document = (engine.editor.document.redo 1).1 := by
  have hread : engine.reader.read engine.editor.mode { code := .char 'r', ctrl := true } =
      (engine.reader.reset, some (.redo 1)) := by
    rw [(atRest_iff.1 hrest).1, KeyReader.read, KeyReader.readCommand, h.pending_of_atRest hrest]
    rfl
  have hfed : (engine.feed redoKey).1 = _ := handleKey_of_read hread
  rw [hfed, dispatch_attempt (·.redo 1) .newestChange rfl]

end Keys

/-- A command that changed the text adds one state to the undo history at most; one undo after it
gives the lines from before it, and one redo after that the lines that it left. -/
theorem Reachable.undo_redo_command {engine : Engine} (h : engine.Reachable)
    (hrest : engine.atRest = true) {inputs : List Input} (hcommand : engine.completes inputs = true)
    (hchanged : ∃ o ∈ (engine.run inputs).2, o.changed = true) :
    let after := (engine.run inputs).1
    let undone := (after.feed undoKey).1
    after.editor.document.history.undoDepth ≤ engine.editor.document.history.undoDepth + 1 ∧
      undone.editor.document.buffer.lines = engine.editor.document.buffer.lines ∧
      (undone.feed redoKey).1.editor.document.buffer.lines =
        after.editor.document.buffer.lines := by
  intro after undone
  obtain ⟨hsettled, hsound, hend, -, hlt⟩ := (h.sound.during hrest).run hcommand
  have hdone : Changed engine.editor.document after.editor.document := by
    refine hsettled.2.resolve_left fun hkept => ?_
    have hrevision := hlt hchanged
    rw [hkept.revision] at hrevision
    exact Nat.lt_irrefl _ hrevision
  obtain ⟨hundo, hundone⟩ := hsound.feed_undoKey hend
  have hredo := (hsound.feed undoKey).sound.feed_redoKey hundone
  obtain ⟨hbefore, hafter⟩ := hdone.undo_redo h.sound.healthy.sound
  refine ⟨hdone.undoDepth_le h.sound.healthy.sound, ?_, ?_⟩
  · rw [hundo, hbefore]
  · rw [hredo, hundo, hafter]

/-- A change of a word, typed key by key. -/
theorem undo_redo_command_change :
    let engine := ofBuffer (.ofText "ab c".toList) {}
    let inputs := [.ofChar 'c', .ofChar 'w', .ofChar 'x', .ofCode .escape].map Input.key
    let undone := ((engine.run inputs).1.feed undoKey).1
    (engine.run inputs).1.editor.document.buffer.lines = ["x c".toList] ∧
      undone.editor.document.buffer.lines = ["ab c".toList] ∧
      (undone.feed redoKey).1.editor.document.buffer.lines = ["x c".toList] := by
  have hcompletes : (ofBuffer (.ofText "ab c".toList) {}).completes
      ([.ofChar 'c', .ofChar 'w', .ofChar 'x', .ofCode .escape].map .key) = true := by
    decide +kernel
  have hchanged : ∃ o ∈ ((ofBuffer (.ofText "ab c".toList) {}).run
      ([.ofChar 'c', .ofChar 'w', .ofChar 'x', .ofCode .escape].map .key)).2,
      o.changed = true := by
    decide +kernel
  have hlines : ((ofBuffer (.ofText "ab c".toList) {}).run ([.ofChar 'c', .ofChar 'w', .ofChar 'x',
      .ofCode .escape].map .key)).1.editor.document.buffer.lines = ["x c".toList] := by
    decide +kernel
  obtain ⟨-, hundone, hredone⟩ :=
    Reachable.undo_redo_command ⟨_, _, [], rfl⟩ rfl hcompletes hchanged
  exact ⟨hlines, hundone, hredone.trans hlines⟩

end ModalEditor.Engine
