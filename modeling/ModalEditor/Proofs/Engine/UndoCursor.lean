import ModalEditor.Proofs.Editor.Underway
import ModalEditor.Proofs.Engine.Outcome

/-!
# Undo and the cursor

One undo after a command that changed the text, and in which nothing was selected, puts the cursor
where it was before the command (`Reachable.undo_command_cursor`), with one exception: if the newest
state of the history had the text from before the command already, it is that state which the undo
gives, and the cursor goes where that state has it (`undo_command_cursor_ne`).
-/

namespace ModalEditor.Engine

open Document (SettledAt)
open Editor (Underway After)

/-- Is nothing selected after any of the inputs? -/
def avoidsVisual (engine : Engine) : List Input → Bool
  | [] => true
  | i :: inputs =>
    !(engine.feed i).1.editor.mode.isVisual && (engine.feed i).1.avoidsVisual inputs

section Steps

variable {d₀ : Document} {engine : Engine} {i : Input}

theorem Sound.underway (h : engine.Sound) (hrest : engine.atRest = true) :
    Underway engine.editor.document engine.editor := by
  have hresting := h.healthy.resting (atRest_iff.1 hrest).1
  exact Editor.Waits.underway ⟨hresting.session, Document.Kept.refl _, rfl, hresting.group⟩

/-- An input of a command that selects nothing. -/
theorem Sound.feed_after (h : engine.Sound) (hvisual : engine.editor.mode.isVisual = false)
    (hu : Underway d₀ engine.editor) (hstays : engine.staysInChange i = true) :
    After d₀ (engine.feed i).1.editor := by
  refine feed_editor (.underway hu) (fun k a hi hread => ?_) fun command => ?_
  · obtain ⟨hfits, -⟩ := (KeyReader.read_fits h.reader k).1 a hread
    have hplain {c : Change} (hc : engine.editor.lastChange = some c) : c.Plain :=
      (h.wellFormed.lastChange hc).plain
    rw [hi, staysInChange, hread] at hstays
    have hact := EditorM.perform_after h.healthy (fun _ => hplain) hvisual hu hfits hstays
    exact (Editor.dispatch_cases hact).elim (·.2) (·.2)
  · have hex := EditorM.runEx_after h.healthy hu command
    exact (EditorM.observe_cases hex).elim (·.2) (·.2)

/-- An input after which the engine is not at rest. -/
theorem Sound.feed_underway (h : engine.Sound) (hvisual : engine.editor.mode.isVisual = false)
    (hu : Underway d₀ engine.editor) (hstays : engine.staysInChange i = true)
    (hrest : (engine.feed i).1.atRest = false)
    (hvisual' : (engine.feed i).1.editor.mode.isVisual = false) :
    Underway d₀ (engine.feed i).1.editor := by
  cases h.feed_after hvisual hu hstays with
  | underway hu' => exact hu'
  | ended hmode hsettled =>
    -- in normal mode the engine is not at rest only while keys wait, and those do nothing
    have htyped : (engine.feed i).1.reader.typed ≠ [] := fun hnil => by
      rw [atRest_iff.2 ⟨hmode, hnil⟩] at hrest
      cases hrest
    rw [feed_editor_of_typed h htyped]
    exact hu
  | selecting hmode =>
    rw [hvisual'] at hmode
    cases hmode

/-- An input after which the engine is at rest. -/
theorem Sound.feed_settledAt (h : engine.Sound) (hvisual : engine.editor.mode.isVisual = false)
    (hu : Underway d₀ engine.editor) (hstays : engine.staysInChange i = true)
    (hrest : (engine.feed i).1.atRest = true) :
    SettledAt d₀ (engine.feed i).1.editor.document := by
  have hmode := (atRest_iff.1 hrest).1
  cases h.feed_after hvisual hu hstays with
  | underway hu' =>
    have hresting := (h.feed i).sound.healthy.resting hmode
    exact (hu'.waits hresting.session).untouched.settledAt
  | ended _ hsettled => exact hsettled
  | selecting hselects =>
    rw [hmode] at hselects
    cases hselects

end Steps

/-- A command that selects nothing records the cursor that it began with. -/
theorem Sound.run_settledAt {d₀ : Document} {engine : Engine} (h : engine.Sound)
    (hvisual : engine.editor.mode.isVisual = false) (hu : Underway d₀ engine.editor)
    {inputs : List Input} (hcommand : engine.completes inputs = true)
    (havoids : engine.avoidsVisual inputs = true) :
    SettledAt d₀ (engine.run inputs).1.editor.document := by
  induction inputs generalizing engine with
  | nil => cases hcommand
  | cons i inputs ih =>
    rw [completes, Bool.and_eq_true] at hcommand
    rw [avoidsVisual, Bool.and_eq_true, Bool.not_eq_true'] at havoids
    obtain ⟨hstays, hcommand⟩ := hcommand
    by_cases hrest : (engine.feed i).1.atRest = true
    · rw [if_pos hrest, List.isEmpty_iff] at hcommand
      subst hcommand
      exact h.feed_settledAt hvisual hu hstays hrest
    · rw [if_neg hrest] at hcommand
      have hnext := h.feed_underway hvisual hu hstays (Bool.eq_false_iff.2 hrest) havoids.1
      exact ih (h.feed i).sound havoids.1 hnext hcommand havoids.2

/-- One undo after a command that changed the text, and that selected nothing, puts the cursor where
it was before the command, unless the newest state of the history had the same text as the document
then: in that case to the place that it has in that state. -/
theorem Reachable.undo_command_cursor {engine : Engine} (h : engine.Reachable)
    (hrest : engine.atRest = true) {inputs : List Input} (hcommand : engine.completes inputs = true)
    (havoids : engine.avoidsVisual inputs = true)
    (hchanged : ∃ o ∈ (engine.run inputs).2, o.changed = true) :
    let undone := ((engine.run inputs).1.feed undoKey).1
    undone.editor.document.cursor = engine.editor.document.undoCursor := by
  intro undone
  have hnormal := (atRest_iff.1 hrest).1
  have hvisual : engine.editor.mode.isVisual = false := by rw [hnormal]; rfl
  obtain ⟨-, hsound, hend, -, hlt⟩ := (h.sound.during hrest).run hcommand
  have hsettled := h.sound.run_settledAt hvisual (h.sound.underway hrest) hcommand havoids
  have hrecords := hsettled.2.resolve_left fun hkept => by
    have hrevision := hlt hchanged
    rw [hkept.revision] at hrevision
    exact Nat.lt_irrefl _ hrevision
  have hresting := h.sound.healthy.resting hnormal
  rw [(hsound.feed_undoKey hend).1]
  exact hrecords.undo_cursor h.sound.healthy.sound hresting.rests

/-- Text that is appended to the second line, from its first column. -/
theorem undo_command_cursor_append :
    let engine := ((ofBuffer (.ofText "ab\ncd".toList) {}).run
      ([.ofChar 'x', .ofChar 'j'].map .key)).1
    let inputs := [.ofChar 'A', .ofChar 'e', .ofCode .escape].map Input.key
    let undone := ((engine.run inputs).1.feed undoKey).1
    (engine.run inputs).1.editor.document.cursor = ⟨1, 2⟩ ∧
      undone.editor.document.cursor = ⟨1, 0⟩ := by
  intro engine inputs
  have hreachable : engine.Reachable := ⟨_, _, _, rfl⟩
  have hrest : engine.atRest = true := by decide +kernel
  have hcompletes : engine.completes inputs = true := by decide +kernel
  have havoids : engine.avoidsVisual inputs = true := by decide +kernel
  have hchanged : ∃ o ∈ (engine.run inputs).2, o.changed = true := by decide +kernel
  have hcursor : (engine.run inputs).1.editor.document.cursor = ⟨1, 2⟩ := by decide +kernel
  have hundoCursor : engine.editor.document.undoCursor = ⟨1, 0⟩ := by decide +kernel
  have hundone := hreachable.undo_command_cursor hrest hcompletes havoids hchanged
  exact ⟨hcursor, hundone.trans hundoCursor⟩

/-- Text was typed and erased on the first line, so the history has the text already when a
character of the second line is deleted: the undo puts the cursor on the first line. -/
theorem undo_command_cursor_ne :
    let engine := ((ofBuffer (.ofText "ab\ncd".toList) {}).run ([.ofChar 'i', .ofChar 'X',
      .ofCode .backspace, .ofCode .escape, .ofChar 'j'].map .key)).1
    let inputs := [Input.key (.ofChar 'x')]
    let undone := ((engine.run inputs).1.feed undoKey).1
    engine.atRest = true ∧ engine.completes inputs = true ∧
      engine.avoidsVisual inputs = true ∧ (∃ o ∈ (engine.run inputs).2, o.changed = true) ∧
      engine.editor.document.cursor = ⟨1, 0⟩ ∧ undone.editor.document.cursor = ⟨0, 0⟩ := by
  intro engine inputs undone
  have hrest : engine.atRest = true := by decide +kernel
  have hcompletes : engine.completes inputs = true := by decide +kernel
  have havoids : engine.avoidsVisual inputs = true := by decide +kernel
  have hchanged : ∃ o ∈ (engine.run inputs).2, o.changed = true := by decide +kernel
  have hbefore : engine.editor.document.cursor = ⟨1, 0⟩ := by decide +kernel
  have hundone : undone.editor.document.cursor = ⟨0, 0⟩ := by decide +kernel
  exact ⟨hrest, hcompletes, havoids, hchanged, hbefore, hundone⟩

end ModalEditor.Engine
