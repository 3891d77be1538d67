import ModalEditor.Editor.Ex

/-!
# Edits

While a change is being made, all that a command does to the text and to the cursor is a series of a
few steps: putting the cursor somewhere, changing the text (`mutate`), and beginning or ending a
change inside. Where the cursor goes and what the text becomes depends on what can be seen of the
document, not on its history or on how changes are nested.

`EditRelation` says what a relation between documents has to keep for this to carry it through a
whole command (`IsEdit`). Two kinds of relations are of use:

* a property of one document, such as what the change has recorded so far (`IsEdit.keeps`);
* the same document inside one more change (`IsEdit.beginChange`), by which a change inside a change
  comes to nothing (`IsEdit.nested`).

Every relation is indexed by the depth of nesting, so that an edit may make changes of its own.
-/

namespace ModalEditor.Document

/-! ## Beginning and ending a change -/

/-- A change is being made, with `n` others around it. -/
def OpenAt (n : Nat) (d : Document) : Prop :=
  ∃ g, d.group = some g ∧ g.depth = n + 1

section Frame

variable (d : Document)

@[simp] theorem beginChange_buffer : d.beginChange.buffer = d.buffer := by
  unfold beginChange; split <;> rfl

@[simp] theorem beginChange_cursor : d.beginChange.cursor = d.cursor := by
  unfold beginChange; split <;> rfl

@[simp] theorem beginChange_marks : d.beginChange.marks = d.marks := by
  unfold beginChange; split <;> rfl

@[simp] theorem beginChange_history : d.beginChange.history = d.history := by
  unfold beginChange; split <;> rfl

@[simp] theorem beginChange_revision : d.beginChange.revision = d.revision := by
  unfold beginChange; split <;> rfl

/-- The end of a change touches nothing but the change. -/
theorem endChange_eq : ∃ group, d.endChange.1 = { d with group } := by
  unfold endChange
  split
  · exact ⟨d.group, rfl⟩
  · split
    · exact ⟨_, rfl⟩
    · exact ⟨_, rfl⟩

@[simp] theorem endChange_buffer : d.endChange.1.buffer = d.buffer := by
  obtain ⟨_, h⟩ := endChange_eq d; rw [h]

@[simp] theorem endChange_cursor : d.endChange.1.cursor = d.cursor := by
  obtain ⟨_, h⟩ := endChange_eq d; rw [h]

@[simp] theorem endChange_marks : d.endChange.1.marks = d.marks := by
  obtain ⟨_, h⟩ := endChange_eq d; rw [h]

@[simp] theorem endChange_history : d.endChange.1.history = d.history := by
  obtain ⟨_, h⟩ := endChange_eq d; rw [h]

@[simp] theorem endChange_revision : d.endChange.1.revision = d.revision := by
  obtain ⟨_, h⟩ := endChange_eq d; rw [h]

end Frame

/-- Inside a change another one is counted. -/
theorem beginChange_of_group {d : Document} {g : ChangeGroup} (hg : d.group = some g) :
    d.beginChange = { d with group := some { g with depth := g.depth + 1 } } := by
  rw [beginChange, hg]

/-- The first change remembers the cursor. -/
theorem beginChange_of_none {d : Document} (hd : d.group = none) :
    d.beginChange = { d with group := some { cursor := d.cursor } } := by
  rw [beginChange, hd]

/-- The end of an inner change is counted. -/
theorem endChange_of_lt {d : Document} {g : ChangeGroup} (hg : d.group = some g)
    (hlt : 1 < g.depth) :
    d.endChange.1 = { d with group := some { g with depth := g.depth - 1 } } := by
  simp only [endChange, hg]
  rw [if_pos hlt]

/-- The end of the outermost change leaves none. -/
theorem endChange_of_le {d : Document} {g : ChangeGroup} (hg : d.group = some g)
    (hle : g.depth ≤ 1) : d.endChange.1 = { d with group := none } := by
  simp only [endChange, hg]
  rw [if_neg (Nat.not_lt.2 hle)]

/-- What is left of the change that is being made depends on that change alone. -/
theorem endChange_group (d : Document) :
    d.endChange.1.group =
      d.group.bind fun g => if 1 < g.depth then some { g with depth := g.depth - 1 } else none := by
  cases hg : d.group with
  | none => simp only [endChange, hg, Option.bind_none]
  | some g =>
    rcases Nat.lt_or_ge 1 g.depth with hlt | hle
    · rw [endChange_of_lt hg hlt, Option.bind_some, if_pos hlt]
    · rw [endChange_of_le hg hle, Option.bind_some, if_neg (Nat.not_lt.2 hle)]

/-- A first change has no other around it. -/
theorem openAt_beginChange_of_none {d : Document} (hd : d.group = none) :
    d.beginChange.OpenAt 0 :=
  ⟨_, by rw [beginChange_of_none hd], rfl⟩

/-- A change inside a change has one more around it. -/
theorem OpenAt.beginChange {n : Nat} {d : Document} (hd : d.OpenAt n) :
    d.beginChange.OpenAt (n + 1) := by
  obtain ⟨g, hg, hdepth⟩ := hd
  exact ⟨_, by rw [beginChange_of_group hg], congrArg (· + 1) hdepth⟩

/-- Its end leaves those around it. -/
theorem OpenAt.endChange {n : Nat} {d : Document} (hd : d.OpenAt (n + 1)) :
    d.endChange.1.OpenAt n := by
  obtain ⟨g, hg, hdepth⟩ := hd
  refine ⟨{ g with depth := g.depth - 1 }, by rw [endChange_of_lt hg (by omega)], ?_⟩
  show g.depth - 1 = n + 1
  omega

/-- Ending the change that was begun last leaves the document as it was. -/
theorem OpenAt.endChange_beginChange {n : Nat} {d : Document} (hd : d.OpenAt n) :
    d.beginChange.endChange.1 = d := by
  obtain ⟨g, hg, hdepth⟩ := hd
  have hlt : 1 < g.depth + 1 := by omega
  rw [beginChange_of_group hg, endChange_of_lt rfl hlt]
  simp only [Nat.add_sub_cancel, ← hg]

/-- A change that does nothing leaves no trace. -/
theorem endChange_beginChange_of_none {d : Document} (hd : d.group = none) :
    d.beginChange.endChange.1 = d := by
  rw [beginChange_of_none hd, endChange_of_le rfl (Nat.le_refl 1), ← hd]

/-- A change that is being made, if there is one, began. -/
def Nested (d : Document) : Prop :=
  d.group = none ∨ ∃ n, d.OpenAt n

/-- Neither does one inside another. -/
theorem Nested.endChange_beginChange {d : Document} (hd : d.Nested) :
    d.beginChange.endChange.1 = d := by
  rcases hd with hd | ⟨n, hd⟩
  · exact endChange_beginChange_of_none hd
  · exact hd.endChange_beginChange

/-- Inside a change a document is open. -/
theorem Nested.openAt {d : Document} (hd : d.Nested) : ∃ n, d.beginChange.OpenAt n := by
  rcases hd with hd | ⟨n, hd⟩
  · exact ⟨0, openAt_beginChange_of_none hd⟩
  · exact ⟨n + 1, hd.beginChange⟩

/-- Beginning the change again that was ended last leaves the document as it was, if there is
another one around it. -/
theorem OpenAt.beginChange_endChange {n : Nat} {d : Document} (hd : d.OpenAt (n + 1)) :
    d.endChange.1.beginChange = d := by
  obtain ⟨g, hg, hdepth⟩ := hd
  rw [endChange_of_lt hg (by omega), beginChange_of_group rfl]
  have hback : g.depth - 1 + 1 = g.depth := by omega
  simp only [hback, ← hg]

/-! ## What edits keep -/

/-- A relation between open documents that look the same, for each depth, that edits keep. -/
structure EditRelation (R : Nat → Document → Document → Prop) : Prop where
  /-- The documents differ in what is recorded of changes at most. -/
  view {n : Nat} {d d' : Document} : R n d d' →
    ∃ history group revision, d' = { d with history, group, revision }
  place {n : Nat} {d d' : Document} (p : Position) (w : Option WantedColumn) :
    R n d d' → R n { d with cursor := p, sticky := w } { d' with cursor := p, sticky := w }
  remember {n : Nat} {d d' : Document} (marks : Marks) (jumps : JumpList) :
    R n d d' → R n { d with marks, jumps } { d' with marks, jumps }
  mutate {n : Nat} {d d' : Document} (b : Buffer) : R n d d' → R n (d.mutate b) (d'.mutate b)
  begins {n : Nat} {d d' : Document} : R n d d' → R (n + 1) d.beginChange d'.beginChange
  ends {n : Nat} {d d' : Document} : R (n + 1) d d' → R n d.endChange.1 d'.endChange.1

/-- A function on documents that edits: it keeps whatever edits keep. -/
structure IsEdit (f : Document → Document) : Prop where
  relates {R : Nat → Document → Document → Prop} {n : Nat} {d d' : Document} :
    EditRelation R → R n d d' → R n (f d) (f d')

/-- Doing nothing is an edit. -/
theorem isEdit_id : IsEdit id where
  relates _ h := h

/-- Edits one after the other are an edit. -/
theorem IsEdit.comp {f g : Document → Document} (hf : IsEdit f) (hg : IsEdit g) :
    IsEdit fun d => f (g d) where
  relates hR h := hf.relates hR (hg.relates hR h)

/-- An edit made as a change of its own. -/
theorem IsEdit.asChange {f : Document → Document} (hf : IsEdit f) :
    IsEdit fun d => (f d.beginChange).endChange.1 where
  relates hR h := hR.ends (hf.relates hR (hR.begins h))

/-- Edits from a list, one after the other, by induction on it. -/
theorem isEdit_foldl {α : Type} {f : Document → α → Document} (hf : ∀ a, IsEdit (f · a))
    (as : List α) : IsEdit fun d => as.foldl f d where
  relates {R n d d'} hR h := by
    induction as generalizing d d' with
    | nil => exact h
    | cons a as ih => exact ih ((hf a).relates hR h)

/-- Recording counts the mutation, whether or not the state is stored. -/
theorem recordChange_revision (d : Document) : d.recordChange.revision = d.revision + 1 := by
  unfold recordChange
  simp only
  split
  · rfl
  · split <;> rfl

/-- A mutation counts. -/
theorem mutate_revision (d : Document) (b : Buffer) : (d.mutate b).revision = d.revision + 1 :=
  recordChange_revision d

/-- The mutation of an open document: the state before is recorded, with the cursor of when the change
began, unless that was done before in the same change. -/
theorem mutate_of_group {d : Document} {g : ChangeGroup} (hg : d.group = some g) (b : Buffer) :
    d.mutate b =
      { d with
        buffer := b
        cursor := b.clamp d.cursor
        revision := d.revision + 1
        history := if g.captured then d.history else d.history.push ⟨d.buffer, g.cursor⟩
        group := some { g with captured := true } } := by
  unfold mutate recordChange
  simp only [hg]
  by_cases hc : g.captured
  · simp only [hc, if_true]
    rw [← hc, ← hg]
  · simp only [hc, Bool.false_eq_true, if_false]

/-- A mutation leaves the changes around it open. -/
theorem OpenAt.mutate {n : Nat} {d : Document} (hd : d.OpenAt n) (b : Buffer) :
    (d.mutate b).OpenAt n := by
  obtain ⟨g, hg, hdepth⟩ := hd
  exact ⟨{ g with captured := true }, by rw [mutate_of_group hg], hdepth⟩

/-! ## Properties that edits preserve -/

/-- A property of open documents, for each depth, that the steps of an edit preserve. -/
structure EditInvariant (P : Nat → Document → Prop) : Prop where
  place {n : Nat} {d : Document} (p : Position) (w : Option WantedColumn) :
    P n d → P n { d with cursor := p, sticky := w }
  remember {n : Nat} {d : Document} (marks : Marks) (jumps : JumpList) :
    P n d → P n { d with marks, jumps }
  mutate {n : Nat} {d : Document} (b : Buffer) : P n d → P n (d.mutate b)
  begins {n : Nat} {d : Document} : P n d → P (n + 1) d.beginChange
  ends {n : Nat} {d : Document} : P (n + 1) d → P n d.endChange.1

/-- A property is a relation of a document to itself. -/
theorem EditInvariant.relation {P : Nat → Document → Prop} (hP : EditInvariant P) :
    EditRelation fun n d d' => d' = d ∧ P n d where
  view := by rintro n d _ ⟨rfl, -⟩; exact ⟨_, _, _, rfl⟩
  place := by rintro n d _ p w ⟨rfl, h⟩; exact ⟨rfl, hP.place p w h⟩
  remember := by rintro n d _ marks jumps ⟨rfl, h⟩; exact ⟨rfl, hP.remember marks jumps h⟩
  mutate := by rintro n d _ b ⟨rfl, h⟩; exact ⟨rfl, hP.mutate b h⟩
  begins := by rintro n d _ ⟨rfl, h⟩; exact ⟨rfl, hP.begins h⟩
  ends := by rintro n d _ ⟨rfl, h⟩; exact ⟨rfl, hP.ends h⟩

/-- An edit preserves what its steps preserve. -/
theorem IsEdit.keeps {f : Document → Document} (hf : IsEdit f) {P : Nat → Document → Prop}
    (hP : EditInvariant P) {n : Nat} {d : Document} (h : P n d) : P n (f d) :=
  (hf.relates hP.relation ⟨rfl, h⟩).2

/-- Being open is such a property: what an edit begins it ends. -/
theorem editInvariant_openAt : EditInvariant OpenAt where
  place := fun _ _ h => h
  remember := fun _ _ h => h
  mutate := fun b h => h.mutate b
  begins := OpenAt.beginChange
  ends := OpenAt.endChange

/-- An edit leaves the changes around it open. -/
theorem IsEdit.openAt {f : Document → Document} (hf : IsEdit f) {n : Nat} {d : Document}
    (hd : d.OpenAt n) : (f d).OpenAt n :=
  hf.keeps editInvariant_openAt hd

/-! ## One more change around -/

/-- One more change around a document is kept by edits. -/
theorem editRelation_beginChange :
    EditRelation fun n d d' => d' = d.beginChange ∧ d.OpenAt n where
  view := by
    rintro n d _ ⟨rfl, g, hg, -⟩
    exact ⟨d.history, _, d.revision, beginChange_of_group hg⟩
  place := by
    rintro n d _ p w ⟨rfl, g, hg, hdepth⟩
    refine ⟨?_, g, hg, hdepth⟩
    rw [beginChange_of_group hg]
    exact (beginChange_of_group (d := { d with cursor := p, sticky := w }) hg).symm
  remember := by
    rintro n d _ marks jumps ⟨rfl, g, hg, hdepth⟩
    refine ⟨?_, g, hg, hdepth⟩
    rw [beginChange_of_group hg]
    exact (beginChange_of_group (d := { d with marks, jumps }) hg).symm
  mutate := by
    rintro n d _ b ⟨rfl, g, hg, hdepth⟩
    refine ⟨?_, OpenAt.mutate ⟨g, hg, hdepth⟩ b⟩
    have hbegun : d.beginChange.group = some { g with depth := g.depth + 1 } := by
      rw [beginChange_of_group hg]
    -- whether the state was recorded does not depend on how deep the change is
    rw [mutate_of_group hbegun, beginChange_of_group hg, mutate_of_group hg,
      beginChange_of_group rfl]
  begins := by rintro n d _ ⟨rfl, hd⟩; exact ⟨rfl, hd.beginChange⟩
  ends := by
    rintro n d _ ⟨rfl, hd⟩
    refine ⟨?_, hd.endChange⟩
    rw [hd.endChange_beginChange, hd.beginChange_endChange]

/-- An edit does the same inside one more change. -/
theorem IsEdit.beginChange {f : Document → Document} (hf : IsEdit f) {n : Nat} {d : Document}
    (hd : d.OpenAt n) : f d.beginChange = (f d).beginChange :=
  (hf.relates editRelation_beginChange ⟨rfl, hd⟩).1

/-- A change inside a change comes to nothing. -/
theorem IsEdit.nested {f : Document → Document} (hf : IsEdit f) {n : Nat} {d : Document}
    (hd : d.OpenAt n) : (f d.beginChange).endChange.1 = f d := by
  rw [hf.beginChange hd, (hf.openAt hd).endChange_beginChange]

end ModalEditor.Document
