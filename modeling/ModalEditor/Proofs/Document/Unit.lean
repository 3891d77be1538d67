import ModalEditor.Proofs.Document.Operations
import ModalEditor.Proofs.History.Arena

/-!
# Units of undo

However many mutations a change makes, it leaves one state in the history: the one before it.

* `InUnit d₀ n d` is the invariant of a change that began with `d₀`. As long as nothing is captured,
  text, history and revision are those of `d₀`; from then on the history is that of `d₀` with the
  text of `d₀` recorded once. Every edit preserves it (`IsEdit.inUnit`).
* `Settled d₀ d` is what is left when the change has ended. Where it changed the text, an undo gives
  the text of `d₀`, and a redo the text of `d` again (`Changed.undo`, `Changed.redo`).

A function that acts on a document that is not being changed is a unit (`IsUnit`) if it does there
what it does as a change.
-/

namespace ModalEditor.Document

/-- Text, history and revision are as they were. -/
structure Kept (d₀ d : Document) : Prop where
  buffer : d.buffer = d₀.buffer
  history : d.history = d₀.history
  revision : d.revision = d₀.revision

/-- The text was changed, and the one before it was recorded once. -/
structure Changed (d₀ d : Document) : Prop where
  revision : d₀.revision < d.revision
  history : ∃ p, d.history = d₀.history.push ⟨d₀.buffer, p⟩

/-- A change that began with `d₀` is being made, with `n` others around it. -/
def InUnit (d₀ : Document) (n : Nat) (d : Document) : Prop :=
  ∃ g, d.group = some g ∧ g.depth = n + 1 ∧ if g.captured then Changed d₀ d else Kept d₀ d

/-- A change that began with `d₀` has ended. -/
def Settled (d₀ d : Document) : Prop :=
  d.group = none ∧ (Kept d₀ d ∨ Changed d₀ d)

/-- Nothing is touched. -/
theorem Kept.refl (d : Document) : Kept d d := ⟨rfl, rfl, rfl⟩

/-- Two steps that touch nothing touch nothing. -/
theorem Kept.trans {d₀ d d' : Document} (h : Kept d₀ d) (h' : Kept d d') : Kept d₀ d' :=
  ⟨h'.buffer.trans h.buffer, h'.history.trans h.history, h'.revision.trans h.revision⟩

/-- What happened before a change, but did not touch the text, does not show in what it records. -/
theorem Kept.trans_changed {d₀ d d' : Document} (h : Kept d₀ d) (h' : Changed d d') :
    Changed d₀ d' := by
  obtain ⟨p, hp⟩ := h'.history
  refine ⟨h.revision ▸ h'.revision, p, ?_⟩
  rw [hp, h.history, h.buffer]

/-- What happens after a change, but does not touch the text, leaves what it recorded. -/
theorem Changed.trans_kept {d₀ d d' : Document} (h : Changed d₀ d) (h' : Kept d d') :
    Changed d₀ d' :=
  ⟨h'.revision ▸ h.revision, h'.history ▸ h.history⟩

/-- Revisions are counted up. -/
theorem revision_le_of_kept_or_changed {d₀ d : Document} (h : Kept d₀ d ∨ Changed d₀ d) :
    d₀.revision ≤ d.revision :=
  h.elim (fun hk => Nat.le_of_eq hk.revision.symm) fun hc => Nat.le_of_lt hc.revision

/-- A change that has ended may have begun earlier, as long as nothing was touched before. -/
theorem Kept.trans_settled {d₀ d d' : Document} (h : Kept d₀ d) (h' : Settled d d') :
    Settled d₀ d' :=
  ⟨h'.1, h'.2.imp h.trans h.trans_changed⟩

/-- A change that is being made may have begun earlier, as long as nothing was touched before. -/
theorem Kept.trans_inUnit {d₀ d d' : Document} {n : Nat} (h : Kept d₀ d) (h' : InUnit d n d') :
    InUnit d₀ n d' := by
  obtain ⟨g, hg, hdepth, hwas⟩ := h'
  refine ⟨g, hg, hdepth, ?_⟩
  by_cases hc : g.captured
  · rw [if_pos hc] at hwas ⊢
    exact h.trans_changed hwas
  · rw [if_neg hc] at hwas ⊢
    exact h.trans hwas

/-- Whether the text was changed so far is what the change remembers of itself. -/
theorem InUnit.kept_or_changed {d₀ d : Document} {n : Nat} (h : InUnit d₀ n d) :
    Kept d₀ d ∨ Changed d₀ d := by
  obtain ⟨g, -, -, h⟩ := h
  by_cases hc : g.captured
  · rw [if_pos hc] at h
    exact .inr h
  · rw [if_neg hc] at h
    exact .inl h

/-! ## Edits stay in their unit -/

/-- A change begins with nothing touched. -/
theorem inUnit_beginChange {d : Document} (hd : d.group = none) : InUnit d 0 d.beginChange := by
  rw [beginChange_of_none hd]
  exact ⟨_, rfl, rfl, rfl, rfl, rfl⟩

/-- A change is being made, with `n` others around it, and `P` holds of it. -/
def OpenWith (P : ChangeGroup → Document → Prop) (n : Nat) (d : Document) : Prop :=
  ∃ g, d.group = some g ∧ g.depth = n + 1 ∧ P g d

/-- What is asked of a change depends on its cursor, on whether it recorded the state before it, and
on the text with its history, and a mutation keeps it. -/
structure ChangeInvariant (P : ChangeGroup → Document → Prop) : Prop where
  kept {g g' : ChangeGroup} {d d' : Document} : Kept d d' → g'.cursor = g.cursor →
    g'.captured = g.captured → P g d → P g' d'
  mutate {g : ChangeGroup} {d : Document} (b : Buffer) : d.group = some g → P g d →
    P { g with captured := true } (d.mutate b)

section ChangeInvariant

variable {P : ChangeGroup → Document → Prop} (hP : ChangeInvariant P)
include hP

/-- A step that touches neither the text nor what is recorded may open and close changes inside. -/
theorem ChangeInvariant.congr {d d' : Document} {n m : Nat} (h : OpenWith P n d)
    (hkept : Kept d d') (hgroup : ∀ g, d.group = some g → g.depth = n + 1 → ∃ g',
      d'.group = some g' ∧ g'.depth = m + 1 ∧ g'.cursor = g.cursor ∧ g'.captured = g.captured) :
    OpenWith P m d' := by
  obtain ⟨g, hg, hdepth, hwas⟩ := h
  obtain ⟨g', hg', hdepth', hcursor, hcaptured⟩ := hgroup g hg hdepth
  exact ⟨g', hg', hdepth', hP.kept hkept hcursor hcaptured hwas⟩

/-- A step that leaves the change as it is may move the cursor and set marks. -/
theorem ChangeInvariant.of_kept {d d' : Document} {n : Nat} (h : OpenWith P n d)
    (hkept : Kept d d') (hgroup : d'.group = d.group) : OpenWith P n d' :=
  hP.congr h hkept fun g hg hdepth => ⟨g, hgroup.trans hg, hdepth, rfl, rfl⟩

/-- What a mutation keeps is kept by every edit, since the other steps do not touch text or record. -/
theorem ChangeInvariant.editInvariant : EditInvariant (OpenWith P) where
  place := fun _ _ h => hP.of_kept h ⟨rfl, rfl, rfl⟩ rfl
  remember := fun _ _ h => hP.of_kept h ⟨rfl, rfl, rfl⟩ rfl
  mutate := by
    rintro n d b ⟨g, hg, hdepth, h⟩
    exact ⟨{ g with captured := true }, by rw [mutate_of_group hg], hdepth, hP.mutate b hg h⟩
  begins := by
    -- a change inside the change begins or ends: only its depth is another
    intro n d h
    refine hP.congr h ⟨beginChange_buffer d, beginChange_history d, beginChange_revision d⟩ ?_
    intro g hg hdepth
    rw [beginChange_of_group hg]
    exact ⟨_, rfl, congrArg (· + 1) hdepth, rfl, rfl⟩
  ends := by
    intro n d h
    refine hP.congr h ⟨endChange_buffer d, endChange_history d, endChange_revision d⟩ ?_
    intro g hg hdepth
    rw [endChange_of_lt hg (by omega)]
    exact ⟨{ g with depth := g.depth - 1 }, rfl, by simp only; omega, rfl, rfl⟩

end ChangeInvariant

/-- Until its first mutation a change has kept the text, and from then on it has recorded it once. -/
theorem changeInvariant_inUnit (d₀ : Document) :
    ChangeInvariant fun g d => if g.captured then Changed d₀ d else Kept d₀ d where
  kept := by
    intro g g' d d' hkept _ hcaptured hwas
    rw [hcaptured]
    by_cases hc : g.captured
    · rw [if_pos hc] at hwas ⊢
      exact hwas.trans_kept hkept
    · rw [if_neg hc] at hwas ⊢
      exact hwas.trans hkept
  mutate := by
    intro g d b hg h
    rw [if_pos rfl, mutate_of_group hg]
    -- the first mutation records the state, and those that follow leave it
    by_cases hc : g.captured
    · rw [if_pos hc] at h
      simp only [if_pos hc]
      exact ⟨Nat.lt_succ_of_lt h.revision, h.history⟩
    · rw [if_neg hc] at h
      simp only [if_neg hc]
      refine ⟨Nat.lt_succ_of_le (Nat.le_of_eq h.revision.symm), g.cursor, ?_⟩
      rw [h.history, h.buffer]

/-- So a change stays what it is through all its edits. -/
theorem editInvariant_inUnit (d₀ : Document) : EditInvariant (InUnit d₀) :=
  (changeInvariant_inUnit d₀).editInvariant

/-- It stays so through steps that are not edits but touch nothing. -/
theorem InUnit.of_kept {d₀ d d' : Document} {n : Nat} (h : InUnit d₀ n d) (hkept : Kept d d')
    (hgroup : d'.group = d.group) : InUnit d₀ n d' :=
  (changeInvariant_inUnit d₀).of_kept h hkept hgroup

/-- An edit stays in its unit. -/
theorem IsEdit.inUnit {f : Document → Document} (hf : IsEdit f) {d₀ d : Document} {n : Nat}
    (h : InUnit d₀ n d) : InUnit d₀ n (f d) :=
  hf.keeps (editInvariant_inUnit d₀) h

/-- The end of the change settles it. -/
theorem InUnit.settled {d₀ d : Document} (h : InUnit d₀ 0 d) : Settled d₀ d.endChange.1 := by
  have hwas := h.kept_or_changed
  obtain ⟨g, hg, hdepth, -⟩ := h
  rw [endChange_of_le hg (by omega)]
  have hclosed : Kept d { d with group := none } := ⟨rfl, rfl, rfl⟩
  exact ⟨rfl, hwas.imp (·.trans hclosed) (·.trans_kept hclosed)⟩

/-- A change that is being made is open. -/
theorem InUnit.openAt {d₀ d : Document} {n : Nat} (h : InUnit d₀ n d) : d.OpenAt n := by
  obtain ⟨g, hg, hdepth, -⟩ := h
  exact ⟨g, hg, hdepth⟩

/-- Edits never count the revision back. -/
theorem editInvariant_revision (r : Nat) :
    EditInvariant fun n d => d.OpenAt n ∧ r ≤ d.revision where
  place := fun _ _ h => h
  remember := fun _ _ h => h
  mutate := by
    rintro n d b ⟨⟨g, hg, hdepth⟩, hr⟩
    refine ⟨OpenAt.mutate ⟨g, hg, hdepth⟩ b, ?_⟩
    rw [mutate_of_group hg]
    exact Nat.le_succ_of_le hr
  begins := by
    rintro n d ⟨hd, hr⟩
    exact ⟨hd.beginChange, by rwa [beginChange_revision]⟩
  ends := by
    rintro n d ⟨hd, hr⟩
    exact ⟨hd.endChange, by rwa [endChange_revision]⟩

/-- An edit never counts the revision down. -/
theorem IsEdit.revision_le {f : Document → Document} (hf : IsEdit f) {d : Document} {n : Nat}
    (hd : d.OpenAt n) : d.revision ≤ (f d).revision :=
  (hf.keeps (editInvariant_revision d.revision) ⟨hd, Nat.le_refl _⟩).2

/-! ## Units -/

/-- An edit that does to a document that is not being changed what it does to it as a change. -/
structure IsUnit (f : Document → Document) : Prop where
  isEdit : IsEdit f
  begun {d : Document} : d.group = none → (f d.beginChange).endChange.1 = f d

/-- A unit is over when it has been done. -/
theorem IsUnit.settled {f : Document → Document} (hf : IsUnit f) {d : Document}
    (hd : d.group = none) : Settled d (f d) := by
  rw [← hf.begun hd]
  exact (hf.isEdit.inUnit (inUnit_beginChange hd)).settled

/-- A change of its own is a unit. -/
theorem IsEdit.isUnit {f : Document → Document} (hf : IsEdit f) :
    IsUnit fun d => (f d.beginChange).endChange.1 where
  isEdit := hf.asChange
  begun := by
    intro d hd
    rw [hf.nested (openAt_beginChange_of_none hd)]

/-- A function that does not look at the change that is being made, nor begins one, is a unit. -/
theorem isUnit_of_group {f : Document → Document} (hf : IsEdit f)
    (hgroup : ∀ (d : Document) (group : Option ChangeGroup),
      f { d with group } = { f d with group }) : IsUnit f where
  isEdit := hf
  begun := by
    intro d hd
    -- opening the change and closing it both write the group only, and `f` passes that through
    have hsame : f d = { f d with group := none } := by
      conv_lhs => rw [show d = { d with group := none } from by rw [← hd]]
      exact hgroup d none
    rw [beginChange_of_none hd, hgroup, endChange_of_le rfl (Nat.le_refl 1), hsame]

/-- Doing nothing is a unit. -/
theorem isUnit_id : IsUnit id :=
  isUnit_of_group isEdit_id fun _ _ => rfl

/-- Placing the cursor is a unit. -/
theorem isUnit_setCursor (p : Position) (c : CursorContext) : IsUnit (·.setCursor p c) :=
  isUnit_of_group (⟨fun hR h => hR.setCursor h p c⟩) fun _ _ => rfl

/-- Cutting a range is a unit, however many mutations it takes. -/
theorem isUnit_cut (change : Bool) (range : TextRange) : IsUnit (·.cut change range) :=
  IsEdit.isUnit ⟨fun hR h => hR.cutRange h change range⟩

/-- Putting over a range is a unit, though it both cuts and puts. -/
theorem isUnit_putOver (content : RegisterContent) (k : Nat) (range : TextRange) :
    IsUnit (·.putOver content k range) :=
  IsEdit.isUnit ⟨fun hR h => hR.putRange h content k range⟩

/-- Filling a range is a unit, though it fills row by row. -/
theorem isUnit_fill (range : TextRange) (c : Char) : IsUnit (·.fill range c) := by
  refine IsEdit.isUnit (f := fun d =>
    (d.fillRange c range).setCursor ((d.fillRange c range).rangeOrigin range) .normal)
    ⟨fun hR h => ?_⟩
  have hfilled := hR.fillRange h c range
  rw [hR.rangeOrigin hfilled]
  exact hR.setCursor hfilled _ _

/-- Content that is not empty can be put. -/
theorem isSome_put {content : RegisterContent} (hc : content.isEmpty = false) (d : Document)
    (placement : Placement) (k : Nat) : (d.put content placement k).isSome := by
  rw [put, hc]
  rfl

/-- A put is a change by itself, so it does the same inside one that is begun for it. -/
theorem put_begun {d : Document} (hd : d.group = none) (content : RegisterContent)
    (placement : Placement) (k : Nat) :
    (d.beginChange.put content placement k).map (·.endChange.1) = d.put content placement k := by
  have hopen := openAt_beginChange_of_none hd
  unfold put
  split
  · rfl
  -- inside the change of the put the edits are the same, with one more change around them
  · refine congrArg some ?_
    cases content.kind with
    | chars =>
      have hedit : IsEdit (·.putChars content.text placement (max k 1)) :=
        ⟨fun hR h => hR.putChars h _ _ _⟩
      exact congrArg (·.endChange.1) (hedit.nested hopen)
    | lines =>
      have hedit : IsEdit (·.putLines content.rows placement (max k 1)) :=
        ⟨fun hR h => hR.putLines h _ _ _⟩
      exact congrArg (·.endChange.1) (hedit.nested hopen)
    | block width =>
      have hedit : IsEdit (·.putBlock content.rows width placement (max k 1)) :=
        ⟨fun hR h => hR.putBlock h _ _ _ _⟩
      exact congrArg (·.endChange.1) (hedit.nested hopen)

/-! ## Single mutations -/

/-- Where a change ends does not depend on where the cursor is. -/
theorem endChange_setCursor (d : Document) (p : Position) (c : CursorContext) :
    (d.setCursor p c).endChange.1 = d.endChange.1.setCursor p c := by
  cases hg : d.group with
  | none =>
    have hd : d.endChange.1 = d := by rw [endChange, hg]
    have hset : (d.setCursor p c).group = none := hg
    rw [hd, endChange, hset]
  | some g =>
    have hset : (d.setCursor p c).group = some g := hg
    rcases Nat.lt_or_ge 1 g.depth with hlt | hle
    · rw [endChange_of_lt hg hlt, endChange_of_lt hset hlt]; rfl
    · rw [endChange_of_le hg hle, endChange_of_le hset hle]; rfl

/-- A mutation that is a change by itself records what it would without it. -/
theorem mutate_begun {d : Document} (hd : d.group = none) (b : Buffer) :
    (d.beginChange.mutate b).endChange.1 = d.mutate b := by
  rw [beginChange_of_none hd, mutate_of_group rfl, endChange_of_le rfl (Nat.le_refl 1)]
  unfold mutate recordChange
  simp only [hd]
  rfl

/-- Joining is one mutation. -/
theorem joinLines_begun {d : Document} (hd : d.group = none) (row k : Nat) (spaced : Bool) :
    (d.beginChange.joinLines row k spaced).map (·.endChange.1) = d.joinLines row k spaced := by
  have hlast : d.beginChange.lastRow = d.lastRow := congrArg Buffer.lastRow (beginChange_buffer d)
  have hline : d.beginChange.line = d.line := congrArg Buffer.line (beginChange_buffer d)
  rw [joinLines_eq, joinLines_eq, hlast, hline, beginChange_buffer]
  by_cases hrow : d.lastRow ≤ row
  · rw [if_pos hrow, if_pos hrow, Option.map_none]
  · rw [if_neg hrow, if_neg hrow]
    simp only [Option.map_some, endChange_setCursor, mutate_begun hd]

/-- Replacing is one mutation, or none. -/
theorem replaceRange_begun {d : Document} (hd : d.group = none) (p q : Position) (s : Text) :
    (d.beginChange.replaceRange p q s).1.endChange.1 = (d.replaceRange p q s).1 := by
  simp only [replaceRange, beginChange_buffer]
  split
  · exact endChange_beginChange_of_none hd
  · exact mutate_begun hd _

/-- Replacing characters is one mutation, or none. -/
theorem replaceUnder_begun {d : Document} (hd : d.group = none) (c : Char) (k : Nat) :
    (d.beginChange.replaceUnder c k).map (·.endChange.1) = d.replaceUnder c k := by
  simp only [replaceUnder, replaceChars, line, beginChange_buffer, beginChange_cursor]
  split
  · simp only [Option.map_map, Function.comp_def, endChange_setCursor, replaceRange_begun hd]
  · simp only [Option.map_map, Function.comp_def, endChange_setCursor, replaceRange_begun hd]

/-- An edit that may not be possible is a unit where it is. -/
theorem isUnit_getD {f : Document → Option Document} (hf : IsEdit fun d => (f d).getD d)
    (hbegun : ∀ {d : Document}, d.group = none → (f d.beginChange).map (·.endChange.1) = f d) :
    IsUnit fun d => (f d).getD d where
  isEdit := hf
  begun := by
    intro d hd
    rw [← hbegun hd]
    cases f d.beginChange with
    | none => exact endChange_beginChange_of_none hd
    | some d' => rfl

/-- So putting is a unit. -/
theorem isUnit_put (content : RegisterContent) (placement : Placement) (k : Nat) :
    IsUnit fun d => (d.put content placement k).getD d :=
  isUnit_getD ⟨fun hR h => hR.put h content placement k⟩ fun hd => put_begun hd _ _ _

/-- Joining is a unit. -/
theorem isUnit_joinLines (row k : Nat) (spaced : Bool) :
    IsUnit fun d => (d.joinLines row k spaced).getD d :=
  isUnit_getD ⟨fun hR h => (hR.joinLines h row k spaced).1⟩ fun hd => joinLines_begun hd _ _ _

/-- Replacing characters is a unit. -/
theorem isUnit_replaceUnder (c : Char) (k : Nat) : IsUnit fun d => (d.replaceUnder c k).getD d :=
  isUnit_getD ⟨fun hR h => (hR.replaceUnder h c k).1⟩ fun hd => replaceUnder_begun hd _ _

end ModalEditor.Document
