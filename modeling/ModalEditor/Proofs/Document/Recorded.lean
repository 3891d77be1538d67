import ModalEditor.Proofs.Document.Travel

/-!
# The cursor that an undo restores

A change records the cursor that the document had when it began, wherever the cursor goes before the
first mutation (`InUnitAt`, which every edit preserves). So what a change leaves in the history is
the whole state before it (`Records`), and not just the text.

The history does not store a state if the newest one has the same text. Then the state that an undo
gives is that older one, whose cursor may have been elsewhere (`undoCursor`, `Records.undo_cursor`).
-/

namespace ModalEditor.Document

/-- The state of `d₀` was recorded, and none after it. -/
def Records (d₀ d : Document) : Prop :=
  d.history = d₀.history.push d₀.snapshot

/-- A change that began with `d₀` is being made, with `n` others around it. It records the cursor of
`d₀`. -/
def InUnitAt (d₀ : Document) (n : Nat) (d : Document) : Prop :=
  ∃ g, d.group = some g ∧ g.depth = n + 1 ∧ g.cursor = d₀.cursor ∧
    if g.captured then Records d₀ d else Kept d₀ d

/-- A change that began with `d₀` has ended. If it changed the text, it recorded the cursor of `d₀`.
-/
def SettledAt (d₀ d : Document) : Prop :=
  d.group = none ∧ (Kept d₀ d ∨ Records d₀ d)

/-- Text, history, revision and cursor are as they were, and no change is being made. -/
structure Untouched (d₀ d : Document) : Prop where
  kept : Kept d₀ d
  cursor : d.cursor = d₀.cursor
  group : d.group = none

theorem Untouched.settledAt {d₀ d : Document} (h : Untouched d₀ d) : SettledAt d₀ d :=
  ⟨h.group, .inl h.kept⟩

/-! ## Edits stay in their unit -/

theorem Untouched.beginChange {d₀ d : Document} (h : Untouched d₀ d) :
    InUnitAt d₀ 0 d.beginChange := by
  rw [beginChange_of_none h.group]
  exact ⟨_, rfl, rfl, h.cursor, h.kept.buffer, h.kept.history, h.kept.revision⟩

theorem changeInvariant_inUnitAt (d₀ : Document) : ChangeInvariant fun g d =>
    g.cursor = d₀.cursor ∧ if g.captured then Records d₀ d else Kept d₀ d where
  kept := by
    rintro g g' d d' hkept hcursor hcaptured ⟨hat, hwas⟩
    refine ⟨hcursor.trans hat, ?_⟩
    rw [hcaptured]
    by_cases hc : g.captured
    · rw [if_pos hc] at hwas ⊢
      exact hkept.history.trans hwas
    · rw [if_neg hc] at hwas ⊢
      exact hwas.trans hkept
  mutate := by
    rintro g d b hg ⟨hat, h⟩
    refine ⟨hat, ?_⟩
    rw [if_pos rfl, mutate_of_group hg]
    -- the first mutation records the cursor of the change, and those that follow record nothing
    by_cases hc : g.captured
    · rw [if_pos hc] at h
      simp only [Records, if_pos hc]
      exact h
    · rw [if_neg hc] at h
      simp only [Records, if_neg hc, snapshot]
      rw [h.history, h.buffer, hat]

theorem editInvariant_inUnitAt (d₀ : Document) : EditInvariant (InUnitAt d₀) :=
  (changeInvariant_inUnitAt d₀).editInvariant

/-- An edit stays in its unit. -/
theorem IsEdit.inUnitAt {f : Document → Document} (hf : IsEdit f) {d₀ d : Document} {n : Nat}
    (h : InUnitAt d₀ n d) : InUnitAt d₀ n (f d) :=
  hf.keeps (editInvariant_inUnitAt d₀) h

/-- The end of the change settles it. -/
theorem InUnitAt.settledAt {d₀ d : Document} (h : InUnitAt d₀ 0 d) :
    SettledAt d₀ d.endChange.1 := by
  obtain ⟨g, hg, hdepth, -, hwas⟩ := h
  rw [endChange_of_le hg (by omega)]
  refine ⟨rfl, ?_⟩
  by_cases hc : g.captured
  · rw [if_pos hc] at hwas
    exact .inr hwas
  · rw [if_neg hc] at hwas
    exact .inl ⟨hwas.buffer, hwas.history, hwas.revision⟩

theorem IsUnit.settledAt {f : Document → Document} (hf : IsUnit f) {d₀ d : Document}
    (h : Untouched d₀ d) : SettledAt d₀ (f d) := by
  rw [← hf.begun h.group]
  exact (hf.isEdit.inUnitAt h.beginChange).settledAt

/-! ## One undo -/

/-- Where an undo puts the cursor after a change that begins with this document: to where it is now,
unless the newest state of the history has the same text. -/
def undoCursor (d : Document) : Position :=
  match d.history.past.head? with
  | some older => if older.buffer = d.buffer then d.clamp older.cursor .normal else d.cursor
  | none => d.cursor

/-- One undo after a change puts the cursor where the state that it gives has it. -/
theorem Records.undo_cursor {d₀ d : Document} (h : Records d₀ d) (hd₀ : d₀.history.Sound)
    (hrests : d₀.Rests) : (d.undo 1).1.cursor = d₀.undoCursor := by
  obtain ⟨hsound, -, hpast⟩ := History.push_spec hd₀ d₀.snapshot
  rw [← show d.history = _ from h] at hsound hpast
  obtain ⟨n, hn⟩ := Nat.exists_eq_add_one.2 hd₀.bound_pos
  have hundo {older : Snapshot} {past : List Snapshot} (hp : d.history.past = older :: past) :
      (d.undo 1).1.cursor = older.buffer.rest older.cursor := by
    obtain ⟨back, hback, -⟩ := History.undo_of_past hsound d.snapshot hp
    exact (travel_one hback).2.2
  unfold undoCursor
  cases hold : d₀.history.past with
  | nil =>
    -- there is no older state
    rw [hold, hn] at hpast
    rw [hundo hpast]
    exact hrests
  | cons older past =>
    rw [List.head?_cons]
    by_cases htext : older.buffer = d₀.buffer
    · -- the newest state has the text already, and stays the newest one
      have hsame : d.history.past = older :: past := by
        rw [hpast, hold]
        exact if_pos (congrArg some htext)
      simp only [if_pos htext]
      rw [hundo hsame, htext]
      rfl
    · have hnew : d.history.past = d₀.snapshot :: (older :: past).take n := by
        rw [hpast, hold, hn]
        exact if_neg fun heq => htext (Option.some.inj heq)
      simp only [if_neg htext]
      rw [hundo hnew]
      exact hrests

end ModalEditor.Document
