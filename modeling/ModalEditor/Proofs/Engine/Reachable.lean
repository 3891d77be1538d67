import ModalEditor.Proofs.Command.Reader
import ModalEditor.Proofs.Editor.Record

/-!
# The engines that there are

An engine starts with a buffer and takes inputs: keys, and commands on line ranges. `Engine.Sound`
is what holds of it between two inputs, whatever they were (`Reachable.sound`): the editor is
healthy, what it recorded has the right form, and what the reader has read belongs to the mode.
-/

namespace ModalEditor

/-- What an engine is given. -/
inductive Engine.Input where
  | key (k : Key)
  | range (command : ExCommand)

namespace Engine

/-- Takes an input. -/
def feed (engine : Engine) : Input → Engine × Outcome
  | .key k => engine.handleKey k
  | .range command => engine.execute command

/-- Takes inputs one after the other. Gives the outcome of each. -/
def run (engine : Engine) : List Input → Engine × List Outcome
  | [] => (engine, [])
  | i :: inputs =>
    (((engine.feed i).1.run inputs).1, (engine.feed i).2 :: ((engine.feed i).1.run inputs).2)

/-- The engine comes about by some inputs. -/
def Reachable (engine : Engine) : Prop :=
  ∃ (b : Buffer) (settings : Settings) (inputs : List Input),
    engine = ((ofBuffer b settings).run inputs).1

/-- What holds of an engine between two inputs. -/
structure Sound (engine : Engine) : Prop where
  healthy : engine.editor.Healthy
  wellFormed : engine.editor.WellFormed false
  reader : engine.reader.Fits engine.editor.mode

/-- Does the input stay in the change that is being made? -/
def staysInChange (engine : Engine) : Input → Bool
  | .key k => ((engine.reader.read engine.editor.mode k).2.map Action.staysInChange).getD true
  | .range _ => true

/-- What an input does to a sound engine. -/
structure Fed (engine : Engine) (i : Input) : Prop where
  sound : (engine.feed i).1.Sound
  content : (engine.feed i).2.notice ≠ none →
    engine.editor.SameContent (engine.feed i).1.editor
  follows : engine.staysInChange i = true → engine.editor.Follows (engine.feed i).1.editor
  changed : (engine.feed i).2.changed =
    (engine.editor.document.revision != (engine.feed i).1.editor.document.revision)

/-- A key that completes no command is none of the editor's business. -/
theorem handleKey_of_none {engine : Engine} {k : Key}
    (hread : (engine.reader.read engine.editor.mode k).2 = none) :
    (engine.handleKey k).1.editor = engine.editor ∧ (engine.handleKey k).2.changed = false ∧
      (engine.handleKey k).2.notice = none := by
  simp only [handleKey, hread, and_self]

/-- A key that completes a command gives the outcome of its action. -/
theorem handleKey_of_some {engine : Engine} {k : Key} {a : Action}
    (hread : (engine.reader.read engine.editor.mode k).2 = some a) :
    (engine.handleKey k).1.editor = (engine.editor.dispatch a).1 ∧
      (engine.handleKey k).2.changed = (engine.editor.dispatch a).2.changed ∧
      (engine.handleKey k).2.notice = (engine.editor.dispatch a).2.notice := by
  simp only [handleKey, hread, and_self]

/-- To know what an input makes of the editor it is enough to look at actions and commands. -/
theorem feed_editor {P : Editor → Prop} {engine : Engine} {i : Input} (hsame : P engine.editor)
    (hact : ∀ k a, i = .key k → (engine.reader.read engine.editor.mode k).2 = some a →
      P (engine.editor.dispatch a).1)
    (hrange : ∀ command, P (engine.editor.execute command).1) : P (engine.feed i).1.editor := by
  cases i with
  | range command => exact hrange command
  | key k =>
    show P (engine.handleKey k).1.editor
    cases hread : (engine.reader.read engine.editor.mode k).2 with
    | none => rw [(handleKey_of_none hread).1]; exact hsame
    | some a => rw [(handleKey_of_some hread).1]; exact hact k a rfl hread

/-- A key fed to a sound engine leaves it sound, whatever the mode. -/
theorem Sound.feed_key {engine : Engine} (h : engine.Sound) (k : Key) : Fed engine (.key k) := by
  obtain ⟨hsome, hnone⟩ := KeyReader.read_fits h.reader k
  have hplain {c : Change} (hc : engine.editor.lastChange = some c) : c.Plain :=
    (h.wellFormed.lastChange hc).plain
  cases hread : (engine.reader.read engine.editor.mode k).2 with
  | none =>
    obtain ⟨heditor, hchanged, hnotice⟩ := handleKey_of_none hread
    have hreader := hnone hread
    refine ⟨⟨?_, ?_, ?_⟩, fun hn => absurd hnotice hn, fun _ => ?_, ?_⟩
    · exact heditor ▸ h.healthy
    · exact heditor ▸ h.wellFormed
    · show (engine.handleKey k).1.reader.Fits (engine.handleKey k).1.editor.mode
      rw [heditor]; exact hreader
    · show engine.editor.Follows (engine.handleKey k).1.editor
      rw [heditor]; exact Editor.Follows.of_kept (Document.Kept.refl _) rfl rfl
    · show (engine.handleKey k).2.changed = (_ != (engine.handleKey k).1.editor.document.revision)
      rw [heditor, hchanged, bne_self_eq_false]
  | some a =>
    obtain ⟨hfits, hpending, htyped⟩ := hsome a hread
    obtain ⟨heditor, hchanged, hnotice⟩ := handleKey_of_some hread
    have hhealthy :=
      Editor.dispatch_cases (EditorM.perform_healthy h.healthy (fun _ => hplain) hfits)
    have hkeeps := Editor.dispatch_cases (EditorM.perform_keeps a _ h.wellFormed)
    refine ⟨⟨?_, ?_, KeyReader.fits_of_idle hpending htyped⟩, fun hn => ?_, fun hstays => ?_, ?_⟩
    · show (engine.handleKey k).1.editor.Healthy
      rw [heditor]
      exact hhealthy.elim (·.2) (·.2.stepped.healthy)
    · show (engine.handleKey k).1.editor.WellFormed false
      rw [heditor]
      exact hkeeps.elim (·.2) (·.2)
    · show engine.editor.SameContent (engine.handleKey k).1.editor
      rw [heditor]
      exact hhealthy.elim (fun hok => absurd (hnotice.trans hok.1) hn) (·.2.content)
    · rw [staysInChange, hread] at hstays
      have hstepped :=
        Editor.dispatch_cases (EditorM.perform_stepped h.healthy (fun _ => hplain) hfits hstays)
      show engine.editor.Follows (engine.handleKey k).1.editor
      rw [heditor]
      exact hstepped.elim (·.2.follows) (·.2.stepped.follows)
    · show (engine.handleKey k).2.changed = (_ != (engine.handleKey k).1.editor.document.revision)
      rw [heditor, hchanged]
      exact EditorM.observe_changed _ _

/-- A command over a range leaves a sound engine sound. -/
theorem Sound.feed_range {engine : Engine} (h : engine.Sound) (command : ExCommand) :
    Fed engine (.range command) := by
  have hstepped := EditorM.observe_cases (EditorM.runEx_stepped h.healthy command)
  have hkeeps := EditorM.observe_cases (EditorM.runEx_keeps command _ h.wellFormed)
  refine ⟨⟨hstepped.elim (·.2.healthy) (·.2.stepped.healthy), hkeeps.elim (·.2) (·.2),
    KeyReader.fits_reset _⟩, fun hn => ?_, fun _ => ?_, EditorM.observe_changed _ _⟩
  · exact hstepped.elim (fun hok => absurd hok.1 hn) (·.2.content)
  · exact hstepped.elim (·.2.follows) (·.2.stepped.follows)

/-- Whatever a sound engine is given, it stays sound. -/
theorem Sound.feed {engine : Engine} (h : engine.Sound) (i : Input) : Fed engine i := by
  cases i with
  | key k => exact h.feed_key k
  | range command => exact h.feed_range command

/-- A run of any inputs leaves a sound engine sound. -/
theorem Sound.run {engine : Engine} (h : engine.Sound) (inputs : List Input) :
    (engine.run inputs).1.Sound := by
  induction inputs generalizing engine with
  | nil => exact h
  | cons i inputs ih => exact ih (h.feed i).sound

/-! ## All engines -/

/-- An engine that starts on a buffer is sound. -/
theorem sound_ofBuffer (b : Buffer) (settings : Settings) : (ofBuffer b settings).Sound where
  healthy :=
    { phase := ⟨rfl, rfl, rfl, Buffer.rest_origin b⟩
      commandLine := ⟨nofun, nofun⟩
      replaying := rfl
      sound := History.sound_withBound settings.undoBound }
  wellFormed := ⟨nofun, nofun, rfl⟩
  reader := KeyReader.fits_of_idle rfl rfl

/-- Every reachable engine is sound. -/
theorem Reachable.sound {engine : Engine} (h : engine.Reachable) : engine.Sound := by
  obtain ⟨b, settings, inputs, rfl⟩ := h
  exact (sound_ofBuffer b settings).run inputs

end Engine

end ModalEditor
