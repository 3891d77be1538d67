import ModalEditor.Proofs.Document.Rest
import ModalEditor.Proofs.Editor.Command

/-!
# Typing as a series of edits

A typed key, unless it is an arrow, edits the document, and beside that changes the session only: it
is remembered there, and in replace mode so is what it wrote over. `Related` carries a relation
between documents over to editors that differ in nothing else but what is recorded for repetition,
so that every statement about keys can be made for two documents at once.
-/

namespace ModalEditor

/-- Is text typed in this mode? -/
def Mode.isTyping : Mode → Bool
  | .insert _ | .replace => true
  | _ => false

/-- Does the key move the cursor and no more? -/
def Edit.isMove : Edit → Bool
  | .move _ => true
  | _ => false

/-- None of the keys is an arrow. -/
def Edit.Plain (typed : List Edit) : Prop :=
  ∀ k ∈ typed, k.isMove = false

namespace Editor

open Document (EditRelation IsEdit)

/-- Two editors whose documents are related, and which are the same otherwise, but for what is
recorded to be repeated. -/
structure Related (R : Document → Document → Prop) (e e' : Editor) : Prop where
  document : R e.document e'.document
  rest : e' = { e with
    document := e'.document, lastChange := e'.lastChange, replaying := e'.replaying }

section Keys

variable {R : Nat → Document → Document → Prop} (hR : EditRelation R) {n : Nat}

include hR

/-! ## Keys keep what edits keep -/

/-- An edit of the document keeps two editors related. -/
theorem Related.mapDocument {e e' : Editor} (h : Related (R n) e e') {f : Document → Document}
    (hf : IsEdit f) : Related (R n) (e.mapDocument f) (e'.mapDocument f) where
  document := hf.relates hR h.document
  rest := by rw [h.rest]; rfl

omit hR in
/-- What is remembered in the session is remembered in both. -/
theorem Related.mapSession {e e' : Editor} (h : Related (R n) e e') (f : Session → Session) :
    Related (R n) (e.mapSession f) (e'.mapSession f) where
  document := h.document
  rest := by rw [h.rest]; rfl

/-- Typing over a cluster replaces the same one in both documents. -/
theorem Related.overwrite {e e' : Editor} (h : Related (R n) e e') (t : Text) :
    Related (R n) (e.overwrite t) (e'.overwrite t) := by
  obtain ⟨hdoc, hrest⟩ := h
  have hline := hR.line hdoc
  have hcursor := hR.cursor hdoc
  unfold Editor.overwrite
  simp only [hline, hcursor]
  cases clusterAt (e.document.line e.document.cursor.row) e.document.cursor.col with
  | none =>
    have hkey := Related.mapDocument hR ⟨hdoc, hrest⟩ (f := (·.insertText t))
      ⟨fun hR h => hR.insertText h t⟩
    exact hkey.mapSession _
  | some old =>
    obtain ⟨hreplaced, hpast⟩ := hR.replaceRange hdoc e.document.cursor
      ⟨e.document.cursor.row, e.document.cursor.col + byteSize old⟩ t
    refine Related.mapSession ⟨?_, ?_⟩ _
    · simp only [hpast]
      exact hR.setCursor hreplaced _ _
    · rw [hrest]

/-- Typed text is inserted or written over in both. -/
theorem Related.typeText {e e' : Editor} (h : Related (R n) e e') (t : Text) :
    Related (R n) (e.typeText t) (e'.typeText t) := by
  have hmode : e'.mode = e.mode := by rw [h.rest]; rfl
  unfold Editor.typeText
  rw [hmode]
  split
  · exact h.overwrite hR t
  · exact h.mapDocument hR ⟨fun hR h => hR.insertText h t⟩

/-- A typed line break is inserted in both. -/
theorem Related.breakLine {e e' : Editor} (h : Related (R n) e e') :
    Related (R n) e.breakLine e'.breakLine := by
  have hmode : e'.mode = e.mode := by rw [h.rest]; rfl
  have hbroken := h.mapDocument hR (f := (·.insertText ['\n'])) ⟨fun hR h => hR.insertText h _⟩
  unfold Editor.breakLine
  show Related (R n) (if e.mode = .replace then _ else _) (if e'.mode = .replace then _ else _)
  rw [hmode]
  split
  · exact hbroken.mapSession _
  · exact hbroken

/-- The backspace takes back the same key in both. -/
theorem Related.backspace {e e' : Editor} (h : Related (R n) e e') :
    Related (R n) e.backspace e'.backspace := by
  have hmode : e'.mode = e.mode := by rw [h.rest]; rfl
  have hsession : e'.session = e.session := by rw [h.rest]
  unfold Editor.backspace
  rw [hmode, hsession]
  split
  · exact (h.mapDocument hR ⟨fun hR h => hR.unwrite h _⟩).mapSession _
  · exact h.mapDocument hR ⟨fun hR h => hR.eraseBackward h⟩

/-- A typed key keeps what edits keep, unless it is an arrow. -/
theorem Related.applyEdit {e e' : Editor} (h : Related (R n) e e') {k : Edit}
    (hk : k.isMove = false) : Related (R n) (e.applyEdit k) (e'.applyEdit k) := by
  cases k with
  | insertChar c => exact h.typeText hR [c]
  | newline => exact h.breakLine hR
  | tab =>
    have htab : e'.tabText = e.tabText := by
      unfold Editor.tabText
      rw [hR.line h.document, hR.cursor h.document, show e'.settings = e.settings by rw [h.rest]]
    unfold Editor.applyEdit
    rw [htab]
    exact h.typeText hR _
  | backspace => exact h.backspace hR
  | deleteUnder => exact h.mapDocument hR ⟨fun hR h => hR.eraseUnder h⟩
  | move direction => cases hk

/-- A typed key is remembered in both sessions. -/
theorem Related.typeEdit {e e' : Editor} (h : Related (R n) e e') {k : Edit}
    (hk : k.isMove = false) : Related (R n) (e.typeEdit k) (e'.typeEdit k) := by
  have happlied := h.applyEdit hR hk
  cases k with
  | move direction => cases hk
  | _ => exact happlied.mapSession _

/-- So are keys one after the other. -/
theorem Related.foldl_typeEdit {e e' : Editor} (h : Related (R n) e e') {typed : List Edit}
    (htyped : Edit.Plain typed) :
    Related (R n) (typed.foldl Editor.typeEdit e) (typed.foldl Editor.typeEdit e') := by
  induction typed generalizing e e' with
  | nil => exact h
  | cons k typed ih =>
    have hk := h.typeEdit hR (htyped k (List.mem_cons_self ..))
    exact ih hk fun k' hk' => htyped k' (List.mem_cons_of_mem _ hk')

/-- Keys that are typed again are not remembered, in neither. -/
theorem Related.foldl_applyEdit {e e' : Editor} (h : Related (R n) e e') {typed : List Edit}
    (htyped : Edit.Plain typed) :
    Related (R n) (typed.foldl Editor.applyEdit e) (typed.foldl Editor.applyEdit e') := by
  induction typed generalizing e e' with
  | nil => exact h
  | cons k typed ih =>
    have hk := h.applyEdit hR (htyped k (List.mem_cons_self ..))
    exact ih hk fun k' hk' => htyped k' (List.mem_cons_of_mem _ hk')

/-! ## Putting the typed text in again -/

/-- A repetition opens the same line in both, and types the same keys. -/
theorem Related.again {e e' : Editor} (h : Related (R n) e e') {s : Session}
    (hs : Edit.Plain s.typed) : Related (R n) (s.again e) (s.again e') := by
  unfold Session.again
  split
  · exact (h.mapDocument hR ⟨fun hR h => hR.openLine h true⟩).foldl_applyEdit hR hs
  · exact h.foldl_applyEdit hR hs

/-- So do several repetitions. -/
theorem Related.repeat_again {e e' : Editor} (h : Related (R n) e e') {s : Session}
    (hs : Edit.Plain s.typed) (times : Nat) :
    Related (R n) (Nat.repeat s.again times e) (Nat.repeat s.again times e') := by
  induction times with
  | zero => exact h
  | succ times ih => exact ih.again hR hs

end Keys

/-! ## What keys leave alone -/

/-- Beside the document only the session has changed: `typed` was added to what was typed, and what
was written over may be anything. -/
def AfterKeys (typed : List Edit) (e e' : Editor) : Prop :=
  ∃ (document : Document) (overwritten : Session → List Overwritten),
    e' = { e with
      document
      session := e.session.map fun s =>
        { s with typed := s.typed ++ typed, overwritten := overwritten s } }

/-- An operation of the document alone types no keys. -/
theorem AfterKeys.of_document (e : Editor) (document : Document) :
    AfterKeys [] e { e with document } := by
  refine ⟨document, (·.overwritten), ?_⟩
  have hsession : (e.session.map fun s : Session =>
      { s with typed := s.typed ++ [], overwritten := s.overwritten }) = e.session := by
    cases e.session with
    | none => rfl
    | some s => rw [Option.map_some, List.append_nil]
  rw [hsession]

/-- Keys typed after others are added to them. -/
theorem AfterKeys.trans {typed typed' : List Edit} {e e' e'' : Editor} (h : AfterKeys typed e e')
    (h' : AfterKeys typed' e' e'') : AfterKeys (typed ++ typed') e e'' := by
  obtain ⟨d, g, rfl⟩ := h
  obtain ⟨d', g', rfl⟩ := h'
  refine ⟨d', fun s => g' { s with typed := s.typed ++ typed, overwritten := g s }, ?_⟩
  simp only [Option.map_map, Function.comp_def, List.append_assoc]

/-- What was written over may be remembered in any way. -/
theorem AfterKeys.rememberOverwritten {typed : List Edit} {e e' : Editor} (h : AfterKeys typed e e')
    (entry : Overwritten) : AfterKeys typed e (e'.rememberOverwritten entry) := by
  obtain ⟨d, g, rfl⟩ := h
  refine ⟨d, fun s => entry :: g s, ?_⟩
  simp only [Editor.rememberOverwritten, mapSession, Option.map_map, Function.comp_def]

/-- Text that a key stands for is typed, and the key itself is remembered elsewhere. -/
theorem afterKeys_typeText (e : Editor) (t : Text) : AfterKeys [] e (e.typeText t) := by
  unfold typeText
  split
  · simp only [overwrite]
    cases clusterAt (e.document.line e.document.cursor.row) e.document.cursor.col with
    | none => exact (AfterKeys.of_document e _).rememberOverwritten .appended
    | some old => exact (AfterKeys.of_document e _).rememberOverwritten (.replaced old)
  · exact AfterKeys.of_document e _

/-- A key that is no arrow changes the document, and what was written over. -/
theorem afterKeys_applyEdit (e : Editor) {k : Edit} (hk : k.isMove = false) :
    AfterKeys [] e (e.applyEdit k) := by
  cases k with
  | insertChar c => exact afterKeys_typeText e [c]
  | newline =>
    simp only [applyEdit, breakLine]
    split
    · exact (AfterKeys.of_document e _).rememberOverwritten .lineBreak
    · exact AfterKeys.of_document e _
  | tab => exact afterKeys_typeText e _
  | backspace =>
    simp only [applyEdit, backspace]
    split
    · obtain ⟨d, g, h⟩ := AfterKeys.of_document e (e.document.unwrite _)
      refine ⟨d, fun s => (g s).drop 1, ?_⟩
      rw [show e.mapDocument (·.unwrite _) = _ from h]
      simp only [mapSession, Option.map_map, Function.comp_def]
    · exact AfterKeys.of_document e _
  | deleteUnder => exact AfterKeys.of_document e _
  | move direction => cases hk

/-- A typed key is added to the session. -/
theorem afterKeys_typeEdit (e : Editor) {k : Edit} (hk : k.isMove = false) :
    AfterKeys [k] e (e.typeEdit k) := by
  obtain ⟨d, g, h⟩ := afterKeys_applyEdit e hk
  refine ⟨d, g, ?_⟩
  cases k with
  | move direction => cases hk
  | _ =>
    simp only [typeEdit, rememberEdit, h, mapSession, Option.map_map, Function.comp_def,
      List.append_nil]

/-- So are keys one after the other. -/
theorem afterKeys_foldl_typeEdit (e : Editor) {typed : List Edit} (htyped : Edit.Plain typed) :
    AfterKeys typed e (typed.foldl typeEdit e) := by
  induction typed generalizing e with
  | nil => exact AfterKeys.of_document e e.document
  | cons k typed ih =>
    have hk := afterKeys_typeEdit e (htyped k (List.mem_cons_self ..))
    exact hk.trans (ih _ fun k' hk' => htyped k' (List.mem_cons_of_mem _ hk'))

/-- Keys that are typed again are not added. -/
theorem afterKeys_foldl_applyEdit (e : Editor) {typed : List Edit} (htyped : Edit.Plain typed) :
    AfterKeys [] e (typed.foldl applyEdit e) := by
  induction typed generalizing e with
  | nil => exact AfterKeys.of_document e e.document
  | cons k typed ih =>
    have hk := afterKeys_applyEdit e (htyped k (List.mem_cons_self ..))
    exact hk.trans (ih _ fun k' hk' => htyped k' (List.mem_cons_of_mem _ hk'))

/-- The repetitions of a session add no keys. -/
theorem afterKeys_repeat_again (e : Editor) {s : Session} (hs : Edit.Plain s.typed) (times : Nat) :
    AfterKeys [] e (Nat.repeat s.again times e) := by
  induction times with
  | zero => exact AfterKeys.of_document e e.document
  | succ times ih =>
    refine ih.trans ?_
    unfold Session.again
    split
    · exact (AfterKeys.of_document _ _).trans (afterKeys_foldl_applyEdit _ hs)
    · exact afterKeys_foldl_applyEdit _ hs

/-! ## Keys are edits -/

/-- What is kept for two documents in the same editor is kept for one. -/
theorem isEdit_of_related {f : Editor → Editor} (e : Editor)
    (hf : ∀ {R : Nat → Document → Document → Prop}, EditRelation R → ∀ {n : Nat} {e e' : Editor},
      Related (R n) e e' → Related (R n) (f e) (f e')) :
    IsEdit fun d => (f { e with document := d }).document where
  relates hR h := (hf hR (Related.mk h rfl)).document

end Editor

end ModalEditor
