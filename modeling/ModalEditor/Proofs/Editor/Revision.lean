import ModalEditor.Proofs.Document.Unit
import ModalEditor.Proofs.Document.Travel
import ModalEditor.Proofs.Editor.Preserve

/-!
# The revision stands for the text

An outcome says that the text was changed if the revision was counted up. So nothing may change the
text without counting. Every mutation counts (`mutate_revision`), and a walk through the history
counts once at its end (`Counted.travel`); everything else that a command does to a document is made
of such steps. Whatever an action or a command on a range does, an outcome that reports no change is
right, and so is one that reports nothing to be seen (`outcome_faithful`).
-/

namespace ModalEditor

namespace Document

variable {d₀ d : Document}

/-- The revision was counted up since `d₀`, or the text is the same. -/
structure Counted (d₀ d : Document) : Prop where
  le : d₀.revision ≤ d.revision
  buffer : d.revision = d₀.revision → d.buffer = d₀.buffer

theorem Counted.refl (d : Document) : Counted d d := ⟨Nat.le_refl _, fun _ => rfl⟩

theorem Counted.of_lt (h : d₀.revision < d.revision) : Counted d₀ d :=
  ⟨Nat.le_of_lt h, fun heq => absurd heq.symm (Nat.ne_of_lt h)⟩

theorem editInvariant_counted (d₀ : Document) : EditInvariant fun _ => Counted d₀ where
  place _ _ h := ⟨h.le, h.buffer⟩
  remember _ _ h := ⟨h.le, h.buffer⟩
  mutate {_ d} b h := by
    refine Counted.of_lt ?_
    rw [mutate_revision]
    exact Nat.lt_succ_of_le h.le
  begins {_ d} h := by
    refine ⟨?_, ?_⟩
    · rw [beginChange_revision]; exact h.le
    · rw [beginChange_revision, beginChange_buffer]; exact h.buffer
  ends {_ d} h := by
    refine ⟨?_, ?_⟩
    · rw [endChange_revision]; exact h.le
    · rw [endChange_revision, endChange_buffer]; exact h.buffer

/-! ## Undo and redo -/

section Travel

variable (step : History → Snapshot → Option (History × Snapshot))

theorem walkHistory_revision (n : Nat) (d : Document) :
    (walkHistory step n d).1.revision = d.revision := by
  induction n generalizing d with
  | zero => rfl
  | succ n ih =>
    rw [walkHistory]
    cases step d.history d.snapshot with
    | none => rfl
    | some found => exact ih (d.restore found)

/-- A walk that goes somewhere counts, although no mutation does. -/
theorem Counted.travel (h : Counted d₀ d) (n : Nat) : Counted d₀ (d.travel step n).1 := by
  rcases travel_cases step d n with ⟨hstay, -⟩ | ⟨d', done, hwalk, hgo, -⟩
  · rw [hstay]
    exact ⟨h.le, h.buffer⟩
  · have hrevision : d'.revision = d.revision := by
      have hwalked := walkHistory_revision step (max n 1) { d with group := none }
      rwa [hwalk] at hwalked
    rw [hgo]
    refine Counted.of_lt (Nat.lt_succ_of_le ?_)
    rw [hrevision]
    exact h.le

end Travel

/-! ## All operations -/

/-- What the steps of an edit preserve whatever the depth, every operation of a document preserves,
if undo and redo do. -/
theorem EditInvariant.documentInvariant {Q : Document → Prop} (hQ : EditInvariant fun _ => Q)
    (hundo : ∀ {d : Document} (n : Nat), Q d → Q (d.undo n).1)
    (hredo : ∀ {d : Document} (n : Nat), Q d → Q (d.redo n).1) : DocumentInvariant Q where
  begins h := hQ.begins (n := 0) h
  ends h := hQ.ends (n := 0) h
  place p c h := (hQ.relation.setCursor (n := 0) ⟨rfl, h⟩ p c).2
  stick {d} w h := hQ.place (n := 0) d.cursor w h
  remember marks jumps h := hQ.remember (n := 0) marks jumps h
  insertText s h := (hQ.relation.insertText (n := 0) ⟨rfl, h⟩ s).2
  openLine below h := (hQ.relation.openLine (n := 0) ⟨rfl, h⟩ below).2
  deleteRange p q h := (hQ.relation.deleteRange (n := 0) ⟨rfl, h⟩ p q).1.2
  replaceRange p q s h := (hQ.relation.replaceRange (n := 0) ⟨rfl, h⟩ p q s).1.2
  cut change range h := (isUnit_cut change range).isEdit.keeps hQ (n := 0) h
  fill range c h := (isUnit_fill range c).isEdit.keeps hQ (n := 0) h
  putOver {_ content} n range _ h := (isUnit_putOver content n range).isEdit.keeps hQ (n := 0) h
  put {d _ content placement n} hput h := by
    have hkept : Q ((d.put content placement n).getD d) :=
      (isUnit_put content placement n).isEdit.keeps hQ (n := 0) h
    rwa [hput] at hkept
  joinLines {d _ row n spaced} hjoin h := by
    have hkept : Q ((d.joinLines row n spaced).getD d) :=
      (isUnit_joinLines row n spaced).isEdit.keeps hQ (n := 0) h
    rwa [hjoin] at hkept
  replaceUnder {d _ c n} hreplace h := by
    have hkept : Q ((d.replaceUnder c n).getD d) :=
      (isUnit_replaceUnder c n).isEdit.keeps hQ (n := 0) h
    rwa [hreplace] at hkept
  substitute {d _ range edit} hsubstitute h := by
    have hkept : Q ((d.substitute range edit).getD d) :=
      (hQ.relation.substitute (n := 0) ⟨rfl, h⟩ range edit).2
    rwa [hsubstitute] at hkept
  undo n h := hundo n h
  redo n h := hredo n h

theorem documentInvariant_counted (d₀ : Document) : DocumentInvariant (Counted d₀) :=
  (editInvariant_counted d₀).documentInvariant (fun n h => h.travel _ n)
    fun n h => h.travel _ n

end Document

/-! ## Outcomes -/

/-- What the outcome does not report has not happened between the two editors. -/
structure Outcome.Faithful (outcome : Outcome) (before after : Editor) : Prop where
  unchanged : outcome.changed = false →
    after.document.buffer.lines = before.document.buffer.lines
  clean : outcome.dirty = false →
    after.document.buffer.lines = before.document.buffer.lines ∧
      after.document.cursor = before.document.cursor ∧ after.mode = before.mode ∧
      after.selection = before.selection ∧ after.commandLine = before.commandLine

namespace Editor

/-- What is observed of a command is faithful if the command counts. -/
theorem observe_faithful {act : EditorM Unit} {e : Editor}
    (hact : EditorM.Holds (Document.Counted e.document) act) :
    (act.observe e).2.Faithful e (act.observe e).1 := by
  have hcounted : Document.Counted e.document (act.observe e).1.document :=
    (EditorM.observe_cases (hact e (Document.Counted.refl e.document))).elim (·.2) (·.2)
  refine ⟨fun hchanged => ?_, fun hdirty => ?_⟩
  · rw [EditorM.observe_changed, bne_eq_false_iff_eq] at hchanged
    rw [hcounted.buffer hchanged.symm]
  · have hsame : e.appearance = (act.observe e).1.appearance := bne_eq_false_iff_eq.1 hdirty
    rw [hcounted.buffer (congrArg Appearance.revision hsame).symm]
    exact ⟨rfl, (congrArg Appearance.cursor hsame).symm, (congrArg Appearance.mode hsame).symm,
      (congrArg Appearance.selection hsame).symm, (congrArg Appearance.commandLine hsame).symm⟩

/-- **Outcomes are faithful.** Whatever the editor and its mode, and whether or not the command
succeeds: if the outcome of an action or of a command on a range does not report a change, the lines
are the same as before; and if it does not report that something can be seen, so are the lines, the
cursor, the mode, the selection and the command line. -/
theorem outcome_faithful (e : Editor) :
    (∀ a, (e.dispatch a).2.Faithful e (e.dispatch a).1) ∧
      ∀ command, (e.execute command).2.Faithful e (e.execute command).1 := by
  have hQ := Document.documentInvariant_counted e.document
  refine ⟨fun a => ?_, fun command => observe_faithful (EditorM.runEx_preserves hQ command)⟩
  -- the command line that was submitted is all that the outcome of an action says beyond that
  obtain ⟨hunchanged, hclean⟩ := observe_faithful (EditorM.perform_preserves hQ a)
  exact ⟨hunchanged, hclean⟩

end Editor

end ModalEditor
