import ModalEditor.Proofs.Document.Rest

/-!
# Going back and forth in the history

A walk through the history keeps it sound (`travel_sound`). After a change that has ended, one undo
gives the text before it, and one redo after that the text behind it (`Changed.undo_redo`).
-/

namespace ModalEditor.Document

variable {step : History → Snapshot → Option (History × Snapshot)}

/-- A step through the history keeps it sound. -/
def KeepsSound (step : History → Snapshot → Option (History × Snapshot)) : Prop :=
  ∀ h s h' older, h.Sound → step h s = some (h', older) → h'.Sound

/-- A walk keeps the history sound if each step does. -/
theorem walkHistory_sound (hstep : KeepsSound step) (n : Nat) {d : Document}
    (hd : d.history.Sound) : (walkHistory step n d).1.history.Sound := by
  induction n generalizing d with
  | zero => exact hd
  | succ n ih =>
    rw [walkHistory]
    cases hs : step d.history d.snapshot with
    | none => exact hd
    | some found => exact ih (hstep _ _ _ _ hd hs)

/-- A walk goes nowhere, or ends with the cursor at rest and no change going on. -/
theorem travel_cases (step : History → Snapshot → Option (History × Snapshot)) (d : Document)
    (n : Nat) :
    (d.travel step n).1 = { d with group := none } ∧ (d.travel step n).2 = none ∧
        (walkHistory step (max n 1) { d with group := none }).2 = 0 ∨
      ∃ d' done, walkHistory step (max n 1) { d with group := none } = (d', done + 1) ∧
        (d.travel step n).1 = { d' with revision := d'.revision + 1 }.setCursor d'.cursor .normal ∧
        (d.travel step n).2 = some (done + 1) := by
  unfold travel
  simp only
  cases hw : walkHistory step (max n 1) { d with group := none } with
  | mk d' done =>
    cases done with
    | zero => exact .inl ⟨rfl, rfl, rfl⟩
    | succ done => exact .inr ⟨d', done, rfl, rfl, rfl⟩

/-- A walk keeps the history sound if each of its steps does. -/
theorem travel_sound (hstep : KeepsSound step) (n : Nat) {d : Document} (hd : d.history.Sound) :
    (d.travel step n).1.history.Sound := by
  rcases travel_cases step d n with ⟨h, -⟩ | ⟨d', done, hw, h, -⟩
  · rw [h]; exact hd
  · have hwalked := walkHistory_sound hstep (max n 1) (d := { d with group := none }) hd
    rw [hw] at hwalked
    rw [h]
    exact hwalked

/-- A walk does not touch the change. -/
theorem walkHistory_group (step : History → Snapshot → Option (History × Snapshot)) (n : Nat)
    (d : Document) : (walkHistory step n d).1.group = d.group := by
  induction n generalizing d with
  | zero => rfl
  | succ n ih =>
    rw [walkHistory]
    cases hs : step d.history d.snapshot with
    | none => rfl
    | some found => exact ih (d.restore found)

/-- After a walk no change is being made. -/
theorem travel_group (d : Document) (n : Nat) : (d.travel step n).1.group = none := by
  rcases travel_cases step d n with ⟨h, -⟩ | ⟨d', done, hw, h, -⟩
  · rw [h]
  · have hwalked := walkHistory_group step (max n 1) { d with group := none }
    rw [hw] at hwalked
    rw [h]
    exact hwalked

/-- A walk that comes to a state puts the cursor where it may rest. -/
theorem travel_rests {d : Document} (hd : d.Rests) (n : Nat) : (d.travel step n).1.Rests := by
  rcases travel_cases step d n with ⟨h, -⟩ | ⟨d', done, hw, h, -⟩
  · rw [h]; exact hd
  · rw [h]; exact rests_setCursor _ _

/-- A walk of one step comes to the state that the step gives. -/
theorem walkHistory_one {d : Document} {found : History × Snapshot}
    (hs : step d.history d.snapshot = some found) :
    walkHistory step 1 d = (d.restore found, 1) := by
  rw [walkHistory, hs]
  rfl

/-- One step of a walk. -/
theorem travel_one {d : Document} {found : History × Snapshot}
    (hs : step d.history d.snapshot = some found) :
    (d.travel step 1).1.buffer = found.2.buffer ∧ (d.travel step 1).1.history = found.1 ∧
      (d.travel step 1).1.cursor = found.2.buffer.rest found.2.cursor := by
  have hwalk : walkHistory step (max 1 1) { d with group := none } =
      (({ d with group := none } : Document).restore found, 1) :=
    walkHistory_one hs
  unfold travel
  simp only [hwalk]
  exact ⟨rfl, rfl, rfl⟩

/-- A step back keeps the history sound. -/
theorem keepsSound_undo : KeepsSound History.undo :=
  fun _ s _ _ hh hu => hh.undo s hu

/-- A step forward keeps it sound. -/
theorem keepsSound_redo : KeepsSound History.redo :=
  fun _ s _ _ hh hr => hh.redo s hr

/-! ## After a change -/

/-- A change keeps it sound, since it records once. -/
theorem Changed.sound {d₀ d : Document} (h : Changed d₀ d) (hd₀ : d₀.history.Sound) :
    d.history.Sound := by
  obtain ⟨p, hp⟩ := h.history
  rw [hp]
  exact (History.push_spec hd₀ _).1

/-- So does what may have changed nothing. -/
theorem sound_of_kept_or_changed {d₀ d : Document} (h : Kept d₀ d ∨ Changed d₀ d)
    (hd₀ : d₀.history.Sound) : d.history.Sound := by
  rcases h with h | h
  · rw [h.history]; exact hd₀
  · exact h.sound hd₀

/-- So does a change that has ended. -/
theorem Settled.sound {d₀ d : Document} (h : Settled d₀ d) (hd₀ : d₀.history.Sound) :
    d.history.Sound :=
  sound_of_kept_or_changed h.2 hd₀

/-- So does a change that is being made. -/
theorem InUnit.sound {d₀ d : Document} {n : Nat} (h : InUnit d₀ n d) (hd₀ : d₀.history.Sound) :
    d.history.Sound :=
  sound_of_kept_or_changed h.kept_or_changed hd₀

/-- A change can be undone by one step. -/
theorem Changed.undoDepth_le {d₀ d : Document} (h : Changed d₀ d) (hd₀ : d₀.history.Sound) :
    d.history.undoDepth ≤ d₀.history.undoDepth + 1 := by
  obtain ⟨p, hp⟩ := h.history
  rw [hp]
  exact History.undoDepth_push_le hd₀ _

/-- One undo gives the text before the change, and one redo the text behind it. -/
theorem Changed.undo_redo {d₀ d : Document} (h : Changed d₀ d) (hd₀ : d₀.history.Sound) :
    (d.undo 1).1.buffer = d₀.buffer ∧ ((d.undo 1).1.redo 1).1.buffer = d.buffer := by
  obtain ⟨p, hp⟩ := h.history
  obtain ⟨older, hhead, hbuffer⟩ := History.head_past_push hd₀ ⟨d₀.buffer, p⟩
  rw [← hp] at hhead
  obtain ⟨past, hpast⟩ := List.head?_eq_some_iff.1 hhead
  obtain ⟨back, hback, hsound, -, hfuture⟩ :=
    History.undo_of_past (h.sound hd₀) d.snapshot hpast
  obtain ⟨htext, hhist, -⟩ := travel_one (d := d) hback
  refine ⟨htext.trans hbuffer, ?_⟩
  -- what was undone is the first state that can be restored
  obtain ⟨forth, hforth, -⟩ :=
    History.redo_of_future hsound (d.undo 1).1.snapshot hfuture
  have hredo : History.redo (d.undo 1).1.history (d.undo 1).1.snapshot =
      some (forth, d.snapshot) := by
    rw [undo, hhist]
    exact hforth
  exact (travel_one hredo).1

end ModalEditor.Document
