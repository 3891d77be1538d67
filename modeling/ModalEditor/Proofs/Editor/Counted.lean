import Mathlib.Logic.Function.Iterate
import ModalEditor.Proofs.Document.Recorded
import ModalEditor.Proofs.Editor.Backspace
import ModalEditor.Proofs.Editor.Repeat
import ModalEditor.Proofs.Engine.Cursor

/-!
# Typing with a count

A session of insert mode with a count puts its text in again when it ends. There a key does to the
document what it does while it is typed (`applyEdit_of_insert`), since only replace mode looks at what
was typed before. So a session leaves what its keys leave when they are typed as often as the count
says (`inserted_insertSession`).

Where no lines are opened, that is one session in which the keys are typed as often. Where each
repetition opens a line, it is as many sessions: a session ends on the row where its text ends, and the
next line is opened below that row, whether the session ended in between or not
(`Document.alike_openLine_finishInsert`). The documents only look the same then (`Document.Alike`), for
as many sessions are as many changes, where a session with a count is one (`settledAt_insertSession`).
-/

namespace ModalEditor

/-- Does every repetition of what is typed begin on a line of its own? -/
def InsertVariant.opensLine : InsertVariant → Bool
  | .openBelow | .openAbove => true
  | _ => false

/-- Keys without arrows stay so when they are typed several times. -/
theorem Edit.Plain.flatten_replicate {typed : List Edit} (h : Edit.Plain typed) (n : Nat) :
    Edit.Plain (List.replicate n typed).flatten := fun k hk => by
  obtain ⟨keys, hkeys, hk⟩ := List.mem_flatten.1 hk
  exact h k (List.eq_of_mem_replicate hkeys ▸ hk)

namespace Document

/-! ## What keys do to a document -/

/-- What a key of insert mode does to a document. -/
def typeKey (settings : Settings) (d : Document) (k : Edit) : Document :=
  (Editor.applyEdit { document := d, settings } k).document

/-- What keys of insert mode do, one after the other. -/
def typeKeys (settings : Settings) (typed : List Edit) (d : Document) : Document :=
  typed.foldl (typeKey settings) d

/-- What a session of insert mode does to put its text in once more, on a line of its own if the
session opens lines. -/
def typeAgain (settings : Settings) (opens : Bool) (typed : List Edit) (d : Document) : Document :=
  (if opens then d.openLine true else d).typeKeys settings typed

/-- Keys without arrows are edits, so they do the same inside and outside a change. -/
theorem isEdit_typeKeys (settings : Settings) {typed : List Edit} (htyped : Edit.Plain typed) :
    IsEdit (typeKeys settings typed) where
  relates {R n d d'} hR h := by
    induction typed generalizing d d' with
    | nil => exact h
    | cons k typed ih =>
      have hblank : Editor.Related (R n) { document := d, settings } { document := d', settings } :=
        ⟨h, rfl⟩
      refine ih (fun k' hk' => htyped k' (List.mem_cons_of_mem k hk')) ?_
      exact (hblank.applyEdit hR (htyped k List.mem_cons_self)).document

/-- The keys of a repetition are edits, with a new line in front of them or not. -/
theorem isEdit_typeAgain (settings : Settings) (opens : Bool) {typed : List Edit}
    (htyped : Edit.Plain typed) : IsEdit (typeAgain settings opens typed) := by
  refine (isEdit_typeKeys settings htyped).comp ?_
  split
  · exact ⟨fun hR h => hR.openLine h true⟩
  · exact isEdit_id

/-- An edit made several times is an edit. -/
theorem IsEdit.iterate {f : Document → Document} (hf : IsEdit f) (n : Nat) : IsEdit f^[n] := by
  induction n with
  | zero => exact isEdit_id
  | succ n ih => exact ih.comp hf

/-- Keys that are typed several times do several times what they do. -/
theorem typeKeys_flatten_replicate (settings : Settings) (typed : List Edit) (n : Nat) :
    typeKeys settings (List.replicate n typed).flatten = (typeKeys settings typed)^[n] := by
  induction n with
  | zero => rfl
  | succ n ih =>
    funext d
    rw [List.replicate_succ, List.flatten_cons, typeKeys, List.foldl_append,
      Function.iterate_succ_apply, ← ih]
    rfl

/-- Keys leave the cursor on a row of the text. -/
theorem Placed.typeKeys {d : Document} (h : d.Placed) (settings : Settings) (typed : List Edit) :
    (d.typeKeys settings typed).Placed := by
  induction typed generalizing d with
  | nil => exact h
  | cons k typed ih =>
    have hblank : Placed ({ document := d, settings } : Editor).document := h
    exact ih (Editor.applyEdit_invariant documentInvariant_placed hblank k)

/-- A repetition leaves the cursor on a row of the text. -/
theorem Placed.typeAgain {d : Document} (h : d.Placed) (settings : Settings) (opens : Bool)
    (typed : List Edit) : (d.typeAgain settings opens typed).Placed := by
  refine Placed.typeKeys ?_ settings typed
  split
  · exact h.openLine true
  · exact h

/-! ## Documents that look the same -/

/-- The documents differ in what is recorded of changes at most. -/
structure Alike (d d' : Document) : Prop where
  buffer : d'.buffer = d.buffer
  cursor : d'.cursor = d.cursor
  sticky : d'.sticky = d.sticky
  marks : d'.marks = d.marks
  jumps : d'.jumps = d.jumps

/-- A document looks like itself. -/
theorem Alike.refl (d : Document) : Alike d d := ⟨rfl, rfl, rfl, rfl, rfl⟩

/-- Looking the same is transitive. -/
theorem Alike.trans {d d' d'' : Document} (h : Alike d d') (h' : Alike d' d'') : Alike d d'' :=
  ⟨h'.buffer.trans h.buffer, h'.cursor.trans h.cursor, h'.sticky.trans h.sticky,
    h'.marks.trans h.marks, h'.jumps.trans h.jumps⟩

/-- Looking the same is symmetric. -/
theorem Alike.symm {d d' : Document} (h : Alike d d') : Alike d' d :=
  ⟨h.buffer.symm, h.cursor.symm, h.sticky.symm, h.marks.symm, h.jumps.symm⟩

/-- Documents that look the same have the same text and cursor. -/
theorem Alike.snapshot_eq {d d' : Document} (h : Alike d d') : d.snapshot = d'.snapshot := by
  rw [snapshot, snapshot, h.buffer, h.cursor]

/-- A change that begins does not show. -/
theorem alike_beginChange (d : Document) : Alike d d.beginChange := by
  unfold beginChange
  split <;> exact ⟨rfl, rfl, rfl, rfl, rfl⟩

/-- A change that ends does not show. -/
theorem alike_endChange (d : Document) : Alike d d.endChange.1 := by
  obtain ⟨group, h⟩ := endChange_eq d
  rw [h]
  exact ⟨rfl, rfl, rfl, rfl, rfl⟩

/-- What is recorded does not show. -/
theorem alike_recordChange (d : Document) : Alike d d.recordChange := by
  unfold recordChange
  dsimp only
  split
  · exact ⟨rfl, rfl, rfl, rfl, rfl⟩
  · split <;> exact ⟨rfl, rfl, rfl, rfl, rfl⟩

/-- Edits of documents that look the same look the same. -/
theorem editRelation_alike : EditRelation fun _ => Alike where
  view {n d d'} h := by
    refine ⟨d'.history, d'.group, d'.revision, ?_⟩
    rw [← h.buffer, ← h.cursor, ← h.sticky, ← h.marks, ← h.jumps]
  place p w h := ⟨h.buffer, rfl, rfl, h.marks, h.jumps⟩
  remember marks jumps h := ⟨h.buffer, h.cursor, h.sticky, rfl, rfl⟩
  mutate {n d d'} b h := by
    have hrecorded := (alike_recordChange d).symm.trans (h.trans (alike_recordChange d'))
    exact ⟨rfl, congrArg b.clamp h.cursor, hrecorded.sticky, hrecorded.marks, hrecorded.jumps⟩
  begins {n d d'} h := (alike_beginChange d).symm.trans (h.trans (alike_beginChange d'))
  ends {n d d'} h := (alike_endChange d).symm.trans (h.trans (alike_endChange d'))

/-- What edits do to documents that look the same looks the same. -/
theorem Alike.map {f : Document → Document} (hf : IsEdit f) {d d' : Document} (h : Alike d d') :
    Alike (f d) (f d') :=
  IsEdit.relates (n := 0) hf editRelation_alike h

/-- So do the ends of a session. -/
theorem Alike.finishInsert {d d' : Document} (h : Alike d d') :
    Alike d.finishInsert d'.finishInsert := by
  simp only [Document.finishInsert, line, h.buffer, h.cursor]
  exact editRelation_alike.ends (n := 0) (editRelation_alike.setCursor (n := 1) h _ _)

/-- A line is opened below the row of the cursor, wherever in the row the cursor is. -/
theorem alike_openLine {d d' : Document} (hbuffer : d'.buffer = d.buffer)
    (hrow : d'.cursor.row = d.cursor.row) (hmarks : d'.marks = d.marks)
    (hjumps : d'.jumps = d.jumps) : Alike (d.openLine true) (d'.openLine true) := by
  have hrecorded := alike_recordChange d
  have hrecorded' := alike_recordChange d'
  refine ⟨?_, ?_, rfl, ?_, ?_⟩
  · show d'.buffer.insertLines (d'.cursor.row + 1) [[]] =
      d.buffer.insertLines (d.cursor.row + 1) [[]]
    rw [hbuffer, hrow]
  · show (⟨d'.cursor.row + 1, 0⟩ : Position) = ⟨d.cursor.row + 1, 0⟩
    rw [hrow]
  · exact hrecorded'.marks.trans (hmarks.trans hrecorded.marks.symm)
  · exact hrecorded'.jumps.trans (hjumps.trans hrecorded.jumps.symm)

/-- The end of a session leaves the cursor on its row. -/
theorem row_finishInsert {d : Document} (h : d.Placed) :
    d.finishInsert.cursor.row = d.cursor.row := by
  rw [Document.finishInsert, endChange_cursor]
  exact Nat.min_eq_left (Nat.le_sub_one_of_lt h.row)

/-- A line that is opened is the same before and after the end of a session, which moves the cursor in
its row only. -/
theorem alike_openLine_finishInsert {d : Document} (h : d.Placed) :
    Alike (d.openLine true) (d.finishInsert.openLine true) := by
  refine alike_openLine ?_ (row_finishInsert h) ?_ ?_
  · exact endChange_buffer _
  · exact endChange_marks _
  · exact (alike_endChange _).jumps

/-- As many sessions that open a line, one after the other, leave what one session with a count does:
each of them ends on the row where its text ends, below which the next line is opened. -/
theorem alike_iterate (settings : Settings) {typed : List Edit} (htyped : Edit.Plain typed)
    {d : Document} (hd : d.Placed) (n : Nat) :
    Alike ((typeAgain settings true typed)^[n + 1] d.beginChange).finishInsert
      ((fun d => (d.beginChange.typeAgain settings true typed).finishInsert)^[n + 1] d) := by
  induction n with
  | zero => exact Alike.refl _
  | succ n ih =>
    rw [Function.iterate_succ_apply', Function.iterate_succ_apply' _ _ d]
    have hplaced : ((typeAgain settings true typed)^[n + 1] d.beginChange).Placed :=
      Function.Iterate.rec Placed hd.beginChange (fun _ h => h.typeAgain settings true typed) _
    have hopen : IsEdit (·.openLine true) := ⟨fun hR h => hR.openLine h true⟩
    -- the next line is opened where it would have been without the end of the session
    have hopened := (alike_openLine_finishInsert hplaced).trans
      (Alike.map hopen (ih.trans (alike_beginChange _)))
    exact (Alike.map (isEdit_typeKeys settings htyped) hopened).finishInsert

end Document

namespace Editor

/-! ## Keys in insert mode -/

variable {e : Editor} (hmode : e.mode ≠ .replace)
include hmode

/-- In insert mode typed text is inserted. -/
theorem typeText_of_insert (t : Text) : e.typeText t = e.mapDocument (·.insertText t) :=
  if_neg hmode

/-- In insert mode a key that is no arrow does what it does to the document, and nothing else. -/
theorem applyEdit_of_insert {k : Edit} (hk : k.isMove = false) :
    e.applyEdit k = e.mapDocument (·.typeKey e.settings k) := by
  cases k with
  | insertChar c => exact typeText_of_insert hmode [c]
  | newline => exact if_neg hmode
  | tab => exact typeText_of_insert hmode e.tabText
  | backspace => exact if_neg hmode
  | deleteUnder => rfl
  | move direction => cases hk

/-- So do keys one after the other. -/
theorem foldl_applyEdit_of_insert {typed : List Edit} (htyped : Edit.Plain typed) :
    typed.foldl applyEdit e = e.mapDocument (·.typeKeys e.settings typed) := by
  induction typed generalizing e with
  | nil => rfl
  | cons k typed ih =>
    rw [List.foldl_cons, applyEdit_of_insert hmode (htyped k List.mem_cons_self)]
    exact ih hmode fun k' hk' => htyped k' (List.mem_cons_of_mem k hk')

/-- Typed keys do to the document what they do when they are repeated. -/
theorem document_foldl_typeEdit {typed : List Edit} (htyped : Edit.Plain typed) :
    (typed.foldl typeEdit e).document = e.document.typeKeys e.settings typed := by
  induction typed generalizing e with
  | nil => rfl
  | cons k typed ih =>
    have hk := htyped k List.mem_cons_self
    have hkey : (e.typeEdit k).document = e.document.typeKey e.settings k := by
      rw [document_typeEdit, applyEdit_of_insert hmode hk]
      rfl
    obtain ⟨d, g, hafter⟩ := afterKeys_typeEdit e hk
    have hsettings : (e.typeEdit k).settings = e.settings := by rw [hafter]
    have hmode' : (e.typeEdit k).mode ≠ .replace := by
      rw [hafter]
      exact hmode
    rw [List.foldl_cons, ih hmode' fun k' hk' => htyped k' (List.mem_cons_of_mem k hk'), hkey,
      hsettings]
    rfl

/-- A repetition of a session in insert mode is one of the document. -/
theorem again_of_insert {s : Session} (hs : Edit.Plain s.typed) :
    s.again e = e.mapDocument (·.typeAgain e.settings s.opensLines s.typed) := by
  unfold Session.again Document.typeAgain
  split
  · have hopened : (e.mapDocument (·.openLine true)).mode ≠ .replace := hmode
    exact foldl_applyEdit_of_insert hopened hs
  · exact foldl_applyEdit_of_insert hmode hs

/-- So are several repetitions. -/
theorem repeat_again_of_insert {s : Session} (hs : Edit.Plain s.typed) (n : Nat) :
    Nat.repeat s.again n e =
      e.mapDocument (Document.typeAgain e.settings s.opensLines s.typed)^[n] := by
  induction n with
  | zero => rfl
  | succ n ih =>
    have hbefore : (e.mapDocument
        (Document.typeAgain e.settings s.opensLines s.typed)^[n]).mode ≠ .replace := hmode
    rw [Function.iterate_succ']
    show s.again (Nat.repeat s.again n e) = _
    rw [ih]
    exact again_of_insert hbefore hs

omit hmode

/-! ## A session -/

/-- A session begins in normal mode with a change, a mode and the keys still to come. -/
theorem dispatch_enterInsert (hmode : e.mode = .normal) (variant : InsertVariant) (n : Nat) :
    ∃ modes : Modes, modes.mode = .insert variant ∧ (e.dispatch (.enterInsert variant n)).1 =
      { e with
        modes
        document := e.document.beginChange.startInsert variant
        session := some (.start (.insert variant) n) } := by
  have hact : EditorM.Ensures (EditorM.perform (.enterInsert variant n)) e
      (fun _ e' => ∃ modes : Modes, modes.mode = .insert variant ∧ e' = { e with
        modes
        document := e.document.beginChange.startInsert variant
        session := some (.start (.insert variant) n) }) EditorM.Never :=
    EditorM.ensures_startInsert variant n _ hmode fun modes hmodes => ⟨modes, hmodes, rfl⟩
  exact (dispatch_of_ensures hact).2

/-- A session has ended: its text was put in as often as the count says. -/
structure Ended (s : Session) (e e' : Editor) : Prop where
  mode : e'.mode = .normal
  settings : e'.settings = e.settings
  document : e'.document =
    ((Document.typeAgain e.settings s.opensLines s.typed)^[s.count - 1] e.document).finishInsert

/-- The escape key ends a session with its repetitions, in the change that it began. -/
theorem ended_escape {variant : InsertVariant} (hmode : e.mode = .insert variant) {s : Session}
    (hsession : e.session = some s) (hplain : Edit.Plain s.typed) :
    Ended s e (e.dispatch .escape).1 := by
  have htyping : e.mode.isTyping = true := by rw [hmode]; rfl
  have hinsert : e.mode ≠ .replace := by rw [hmode]; exact nofun
  have hrepeated := repeat_again_of_insert hinsert hplain (s.count - 1)
  have hact : EditorM.Ensures (EditorM.perform .escape) e (fun _ e' => Ended s e e')
      EditorM.Never := by
    unfold EditorM.Ensures
    rw [EditorM.escape_of_typing htyping]
    refine EditorM.ensures_finishSession hsession hplain htyping ?_
    rw [EditorM.repeated, hrepeated, record]
    split
    · exact ⟨rfl, rfl, rfl⟩
    · exact ⟨rfl, rfl, rfl⟩
  exact (dispatch_of_ensures hact).2

/-- The editor behind a session of insert mode: the command that begins it, the keys, and escape. -/
def insertSession (e : Editor) (variant : InsertVariant) (n : Nat) (typed : List Edit) : Editor :=
  e.dispatchAll (Change.insert variant n typed).retype

/-- What a session leaves is known from the text: its keys are typed where it begins, and the rest of
the times at the end. -/
structure Inserted (variant : InsertVariant) (n : Nat) (typed : List Edit) (e e' : Editor) :
    Prop where
  mode : e'.mode = .normal
  settings : e'.settings = e.settings
  document : e'.document =
    ((Document.typeAgain e.settings variant.opensLine typed)^[n - 1]
      ((e.document.beginChange.startInsert variant).typeKeys e.settings typed)).finishInsert

/-- A session as a whole: begun, typed, repeated and ended, within one change. -/
theorem inserted_insertSession (hmode : e.mode = .normal) (variant : InsertVariant) {n : Nat}
    (hn : 1 ≤ n) {typed : List Edit} (htyped : Edit.Plain typed) :
    Inserted variant n typed e (e.insertSession variant n typed) := by
  obtain ⟨modes, hmodes, hbegun⟩ := dispatch_enterInsert hmode variant n
  rw [insertSession, Change.retype, dispatchAll_cons, hbegun, dispatchAll_append]
  generalize hstarted : ({ e with
    modes
    document := e.document.beginChange.startInsert variant
    session := some (.start (.insert variant) n) } : Editor) = e₁
  have hmode₁ : e₁.mode = .insert variant := by
    rw [← hstarted]
    exact hmodes
  have htyping₁ : e₁.mode.isTyping = true := by rw [hmode₁]; rfl
  have hinsert₁ : e₁.mode ≠ .replace := by rw [hmode₁]; exact nofun
  rw [EditorM.dispatchAll_edits htyping₁ htyped]
  -- the keys are typed into the document, and remembered in the session
  have hdocument := document_foldl_typeEdit hinsert₁ htyped
  obtain ⟨d, g, hafter⟩ := afterKeys_foldl_typeEdit e₁ htyped
  have hsession : (typed.foldl typeEdit e₁).session = some { Session.start (.insert variant) n with
      typed, overwritten := g (.start (.insert variant) n) } := by
    rw [hafter, ← hstarted]
    rfl
  have hmode₂ : (typed.foldl typeEdit e₁).mode = .insert variant := by
    rw [hafter]
    exact hmode₁
  have hsettings₂ : (typed.foldl typeEdit e₁).settings = e.settings := by
    rw [hafter, ← hstarted]
  obtain ⟨hmode', hsettings', hdocument'⟩ := ended_escape hmode₂ hsession htyped
  refine ⟨hmode', hsettings'.trans hsettings₂, hdocument'.trans ?_⟩
  have hcount : max n 1 = n := Nat.max_eq_left hn
  have hopens (s : Session) (hs : s.origin = .insert variant) :
      s.opensLines = variant.opensLine := by
    rw [Session.opensLines, hs]
    cases variant <;> rfl
  rw [hsettings₂, hdocument, ← hstarted, hopens _ rfl]
  simp only [Session.start, hcount]

/-- A session is one change, with the cursor recorded as it was when it began. -/
theorem settledAt_insertSession (hmode : e.mode = .normal) (hgroup : e.document.group = none)
    (variant : InsertVariant) {n : Nat} (hn : 1 ≤ n) {typed : List Edit}
    (htyped : Edit.Plain typed) :
    Document.SettledAt e.document (e.insertSession variant n typed).document := by
  rw [(inserted_insertSession hmode variant hn htyped).document]
  have hbegun : Document.InUnitAt e.document 0 e.document.beginChange :=
    Document.Untouched.beginChange ⟨Document.Kept.refl _, rfl, hgroup⟩
  have hstart : Document.IsEdit (·.startInsert variant) := ⟨fun hR h => hR.startInsert h variant⟩
  have hkeys := Document.isEdit_typeKeys e.settings htyped
  have hagain := (Document.isEdit_typeAgain e.settings variant.opensLine htyped).iterate (n - 1)
  have hall := hagain.inUnitAt (hkeys.inUnitAt (hstart.inUnitAt hbegun))
  exact ((Document.editInvariant_inUnitAt e.document).place _ _ hall).settledAt

/-- Sessions without a count, one after the other. -/
theorem document_iterate_insertSession (hmode : e.mode = .normal) (variant : InsertVariant)
    {typed : List Edit} (htyped : Edit.Plain typed) (n : Nat) :
    let e' := (·.insertSession variant 1 typed)^[n] e
    e'.mode = .normal ∧ e'.settings = e.settings ∧
      e'.document = (fun d => ((d.beginChange.startInsert variant).typeKeys e.settings
        typed).finishInsert)^[n] e.document := by
  induction n with
  | zero => exact ⟨hmode, rfl, rfl⟩
  | succ n ih =>
    obtain ⟨hmode', hsettings, hdocument⟩ := ih
    have hone := inserted_insertSession hmode' variant (Nat.le_refl 1) htyped
    simp only [Function.iterate_succ_apply']
    refine ⟨hone.mode, hone.settings.trans hsettings, ?_⟩
    rw [hone.document, hsettings, hdocument]
    rfl

/-- **Typing with a count.** With the cursor in the text and no change under way, a session of insert
mode with a count leaves what a session without one leaves in which the keys are typed as often, if it
does not open lines; and a session that opens lines below leaves the text and the cursor that as many
sessions without a count leave, one after the other. A session with a count adds one state to the undo
history at most: the one before it. -/
theorem insertSession_counted (hmode : e.mode = .normal) (hgroup : e.document.group = none)
    (hplaced : e.document.Placed) {n : Nat} (hn : 1 ≤ n) {typed : List Edit}
    (htyped : Edit.Plain typed) :
    (∀ variant : InsertVariant, variant.opensLine = false →
        (e.insertSession variant n typed).document =
          (e.insertSession variant 1 (List.replicate n typed).flatten).document) ∧
      (e.insertSession .openBelow n typed).document.snapshot =
        ((·.insertSession .openBelow 1 typed)^[n] e).document.snapshot ∧
      ∀ variant, let d := (e.insertSession variant n typed).document
        (d.history = e.document.history ∨
            d.history = e.document.history.push e.document.snapshot) ∧
          (e.document.history.Sound →
            d.history.undoDepth ≤ e.document.history.undoDepth + 1) := by
  -- the first time is what is typed, and the other `m` are repetitions
  obtain ⟨m, rfl⟩ := Nat.exists_eq_add_one_of_ne_zero (Nat.ne_of_gt hn)
  refine ⟨fun variant hline => ?_, ?_, fun variant => ?_⟩
  -- on a line the repeated keys are the keys of one session that types them all
  · have hmany := htyped.flatten_replicate (m + 1)
    rw [(inserted_insertSession hmode variant hn htyped).document,
      (inserted_insertSession hmode variant (Nat.le_refl 1) hmany).document,
      hline, Document.typeKeys_flatten_replicate, Nat.add_sub_cancel, Function.iterate_succ_apply]
    rfl
  -- each repetition opens its line, as a session of its own would
  · rw [(inserted_insertSession hmode .openBelow hn htyped).document,
      (document_iterate_insertSession hmode .openBelow htyped (m + 1)).2.2]
    exact (Document.alike_iterate e.settings htyped hplaced m).snapshot_eq
  -- all of it is one change, which records at most one state
  · obtain ⟨-, hkept | hrecords⟩ := settledAt_insertSession hmode hgroup variant hn htyped
    · exact ⟨.inl hkept.history, fun _ => by rw [hkept.history]; exact Nat.le_succ _⟩
    · refine ⟨.inr hrecords, fun hsound => ?_⟩
      rw [hrecords]
      exact History.undoDepth_push_le hsound _

/-- The keys break the line and join it with the next one. With a count of two, text is appended twice
over, and below the first line two lines are opened, the second one under what the first has joined. -/
theorem insertSession_counted_join :
    let e := ofBuffer (.ofText "ab\ncd".toList) {}
    let typed := [.insertChar 'x', .newline, .insertChar 'y', .deleteUnder]
    (e.mode = .normal ∧ e.document.group = none ∧ e.document.Placed ∧ 1 ≤ 2 ∧
        Edit.Plain typed) ∧
      (e.insertSession .append 2 typed).document =
        (e.insertSession .append 1 (List.replicate 2 typed).flatten).document ∧
      (e.insertSession .append 2 typed).document.buffer.lines =
        ["ax".toList, "yx".toList, "ycd".toList] ∧
      (e.insertSession .openBelow 2 typed).document.snapshot =
        ((·.insertSession .openBelow 1 typed)^[2] e).document.snapshot ∧
      (e.insertSession .openBelow 2 typed).document.buffer.lines =
        ["ab".toList, ['x'], "ycd".toList, ['x'], ['y']] ∧
      (e.insertSession .openBelow 2 typed).document.history.undoDepth ≤
        e.document.history.undoDepth + 1 := by
  intro e typed
  have hmode : e.mode = .normal := rfl
  have hgroup : e.document.group = none := rfl
  have hplaced : e.document.Placed := Document.Rests.placed (Buffer.rest_origin _)
  have htyped : ∀ k ∈ typed, k.isMove = false := by decide
  have happended : (e.insertSession .append 2 typed).document.buffer.lines =
      ["ax".toList, "yx".toList, "ycd".toList] := by decide +kernel
  have hopened : (e.insertSession .openBelow 2 typed).document.buffer.lines =
      ["ab".toList, ['x'], "ycd".toList, ['x'], ['y']] := by decide +kernel
  have htwo : 1 ≤ 2 := by decide
  obtain ⟨hline, hlines, hundo⟩ := insertSession_counted hmode hgroup hplaced htwo htyped
  have hsound : e.document.history.Sound := History.sound_withBound _
  exact ⟨⟨hmode, hgroup, hplaced, htwo, htyped⟩, hline .append rfl, happended, hlines, hopened,
    (hundo .openBelow).2 hsound⟩

end Editor

end ModalEditor
