import ModalEditor.Proofs.Editor.Overwrite

/-!
# The backspace key of replace mode

The backspace key takes back the key before it if and only if the text of that key reads back where it
was typed (`Editor.Overwriting.snapshot_backspace_iff`); a broken line is always joined again, and a tab
that is written as several spaces is never taken back (`Editor.not_canTakeBack_tab`). What the key does
depends on the text, the cursor and what is remembered (`Editor.page_backspace_congr`), so keys that can
all be taken back are taken back by as many backspace keys (`Editor.page_foldl_backspace`).
-/

namespace ModalEditor

/-! ## One key -/

/-- The key writes text or breaks the line. -/
def Edit.writes : Edit → Bool
  | .insertChar _ | .newline | .tab => true
  | _ => false

namespace Editor

/-- What is there of the text: the text with the cursor, and what is remembered of it. -/
def page (e : Editor) : Snapshot × List Overwritten :=
  (e.document.snapshot, e.overwritten)

/-- Text is written over, and the cursor is between clusters. -/
structure Overwriting (e : Editor) : Prop where
  mode : e.mode = .replace
  session : e.session.isSome
  parted : e.document.snapshot.Parted

/-- What replace mode remembers of a key. -/
def remembered (e : Editor) : Edit → Overwritten
  | .newline => .lineBreak
  | _ => .ofCluster? e.clusterUnder

/-- The key writes characters that stand alone, and one only if it is a tab. -/
def WritesAlone (e : Editor) : Edit → Prop
  | .insertChar c => (Unicode.graphemeBreak c).isAlone = true
  | .tab => e.tabText.length = 1
  | _ => True

/-- What the key writes can be taken back: its text reads back at the cursor, or it breaks the line. -/
def CanTakeBack (e : Editor) : Edit → Prop
  | .insertChar c => c ≠ '\n' ∧ ReadsBack e.document.snapshot.line e.document.cursor.col [c]
  | .tab => ReadsBack e.document.snapshot.line e.document.cursor.col e.tabText
  | .newline => True
  | _ => False

/-- A character can be taken back if it is no line break and its line reads back. -/
theorem canTakeBack_insertChar (e : Editor) (c : Char) :
    e.CanTakeBack (.insertChar c) ↔
      c ≠ '\n' ∧ ReadsBack e.document.snapshot.line e.document.cursor.col [c] :=
  Iff.rfl

/-- A tab can be taken back if its line reads back as a whole, for the text that it stands for. -/
theorem canTakeBack_tab (e : Editor) :
    e.CanTakeBack .tab ↔ ReadsBack e.document.snapshot.line e.document.cursor.col e.tabText :=
  Iff.rfl

instance (e : Editor) : (k : Edit) → Decidable (e.CanTakeBack k)
  | .insertChar _ => inferInstanceAs (Decidable (_ ∧ _))
  | .tab => inferInstanceAs (Decidable (ReadsBack _ _ _))
  | .newline => inferInstanceAs (Decidable True)
  | .backspace | .deleteUnder | .move _ => inferInstanceAs (Decidable False)

/-- A tab stands for characters that stand alone. -/
theorem alone_tabText (e : Editor) : Alone e.tabText := by
  rw [tabText]
  split
  · intro c hc
    rw [List.eq_of_mem_replicate hc]
    decide
  · decide

/-- A tab stands for some text. -/
theorem tabText_ne_nil (e : Editor) : e.tabText ≠ [] := by
  rw [tabText]
  split
  · have hpos : 0 < max e.settings.tabWidth 1 := by omega
    have hlt := Nat.mod_lt
      (columnOf (e.document.line e.document.cursor.row) e.document.cursor.col) hpos
    intro hnil
    have hlength := congrArg List.length hnil
    dsimp only at hlength
    rw [spaces, List.length_replicate, List.length_nil] at hlength
    omega
  · exact List.cons_ne_nil _ _

/-- Among characters that stand alone every such character can be taken back. -/
theorem canTakeBack_of_alone {e : Editor} (halone : e.document.snapshot.Alone) {k : Edit}
    (hk : k.writes = true) (hwrites : e.WritesAlone k) : e.CanTakeBack k := by
  cases k with
  | insertChar c =>
    refine ⟨?_, readsBack_of_alone halone.line _ hwrites⟩
    rintro rfl
    exact absurd (show (Unicode.graphemeBreak '\n').isAlone = true from hwrites) (by decide)
  | newline => trivial
  | tab =>
    have hlength : e.tabText.length = 1 := hwrites
    obtain ⟨c, hc⟩ := List.length_eq_one_iff.1 hlength
    have hone : (Unicode.graphemeBreak c).isAlone = true := e.alone_tabText c (by rw [hc]; simp)
    rw [canTakeBack_tab, hc]
    exact readsBack_of_alone halone.line _ hone
  | _ => cases hk

/-- Remembering a key does not touch the document. -/
theorem document_typeEdit (e : Editor) (k : Edit) :
    (e.typeEdit k).document = (e.applyEdit k).document := by
  cases k <;> rfl

/-- Remembering a key does not touch what was written over. -/
theorem overwritten_typeEdit (e : Editor) (k : Edit) :
    (e.typeEdit k).overwritten = (e.applyEdit k).overwritten := by
  rw [typeEdit, overwritten, overwritten]
  cases hs : (e.applyEdit k).session <;> cases k <;> simp [rememberEdit, mapSession, hs]

/-- So a typed key does to both what it does when it is repeated. -/
theorem page_typeEdit (e : Editor) (k : Edit) : (e.typeEdit k).page = (e.applyEdit k).page :=
  congrArg₂ Prod.mk (congrArg Document.snapshot (document_typeEdit e k)) (overwritten_typeEdit e k)

namespace Overwriting

variable {e : Editor} (h : e.Overwriting)
include h

/-- In replace mode a character is written over the line. -/
theorem applyEdit_insertChar (c : Char) : e.applyEdit (.insertChar c) = e.overwrite [c] :=
  if_pos h.mode

/-- In replace mode a tab is written over the line. -/
theorem applyEdit_tab : e.applyEdit .tab = e.overwrite e.tabText :=
  if_pos h.mode

/-- In replace mode a line break is put in, and remembered as one. -/
theorem applyEdit_newline :
    e.applyEdit .newline =
      (e.mapDocument (·.insertText ['\n'])).rememberOverwritten .lineBreak :=
  if_pos h.mode

/-- The backspace takes back the latest entry, and drops it. -/
theorem page_backspace :
    (e.typeEdit .backspace).page =
      ((e.document.unwrite e.overwritten.head?).snapshot, e.overwritten.drop 1) := by
  obtain ⟨s, hs⟩ := Option.isSome_iff_exists.1 h.session
  have hback : e.applyEdit .backspace =
      (e.mapDocument (·.unwrite (e.session.bind (·.overwritten.head?)))).mapSession
        fun s => { s with overwritten := s.overwritten.drop 1 } := if_pos h.mode
  have hover : e.overwritten = s.overwritten := by
    rw [overwritten, hs]
    rfl
  rw [page_typeEdit, hback, page, overwritten, mapSession, mapDocument, hs, hover]
  rfl

/-- Keys that write, and the backspace, leave a session of replace mode as it is: in its mode, with the
cursor between clusters. -/
theorem typeEdit {k : Edit} (hk : k.writes = true ∨ k = .backspace) :
    (e.typeEdit k).Overwriting := by
  have hplain : k.isMove = false := by
    rcases hk with hk | rfl
    · cases k <;> first | rfl | cases hk
    · rfl
  obtain ⟨d, g, hafter⟩ := afterKeys_typeEdit e hplain
  refine ⟨?_, ?_, ?_⟩
  · rw [hafter]
    exact h.mode
  · rw [hafter]
    exact (Option.isSome_map ..).trans h.session
  · rw [document_typeEdit]
    rcases hk with hk | rfl
    · cases k with
      | insertChar c =>
        rw [h.applyEdit_insertChar]
        by_cases hc : c = '\n'
        · rw [hc]
          exact (parted_overwrite_break h.parted).1
        · exact parted_overwrite h.parted (fun hmem => hc (List.mem_singleton.1 hmem).symm)
            (List.cons_ne_nil _ _)
      | newline =>
        rw [h.applyEdit_newline]
        exact Document.parted_insertBreak h.parted
      | tab =>
        rw [h.applyEdit_tab]
        exact parted_overwrite h.parted e.alone_tabText.isLine e.tabText_ne_nil
      | _ => cases hk
    -- the backspace places the cursor, whatever it took back
    · have hback := congrArg Prod.fst h.page_backspace
      rw [page_typeEdit] at hback
      rw [show (e.applyEdit .backspace).document.snapshot = _ from hback]
      exact Document.parted_unwrite _ _

/-- A key that writes leaves one entry, for all its text. -/
theorem overwritten_writes {k : Edit} (hk : k.writes = true) :
    (e.typeEdit k).overwritten = e.remembered k :: e.overwritten := by
  rw [overwritten_typeEdit]
  cases k with
  | insertChar c =>
    rw [h.applyEdit_insertChar]
    exact overwritten_overwrite h.session [c]
  | newline =>
    rw [h.applyEdit_newline]
    exact overwritten_rememberOverwritten h.session _
  | tab =>
    rw [h.applyEdit_tab]
    exact overwritten_overwrite h.session e.tabText
  | _ => cases hk

/-- The backspace key takes back the key before it, and drops what was remembered of it. -/
theorem page_writes_backspace {k : Edit} (hk : k.writes = true) :
    ((e.typeEdit k).typeEdit .backspace).page =
      (((e.applyEdit k).document.unwrite (some (e.remembered k))).snapshot, e.overwritten) := by
  rw [(h.typeEdit (.inl hk)).page_backspace, h.overwritten_writes hk, document_typeEdit]
  rfl

/-- The key before is taken back if and only if what it wrote can be taken back. -/
theorem snapshot_backspace_iff {k : Edit} (hk : k.writes = true) :
    ((e.typeEdit k).typeEdit .backspace).document.snapshot = e.document.snapshot ↔
      e.CanTakeBack k := by
  have hback : ((e.typeEdit k).typeEdit .backspace).document.snapshot = _ :=
    congrArg Prod.fst (h.page_writes_backspace hk)
  -- what was written is taken back by the entry that it left, so one kind of key at a time
  rw [hback]
  cases k with
  | insertChar c =>
    rw [h.applyEdit_insertChar, canTakeBack_insertChar]
    by_cases hc : c = '\n'
    · rw [hc]
      exact iff_of_false (snapshot_unwrite_break_ne h.parted) fun hback => hback.1 rfl
    · rw [and_iff_right hc]
      exact snapshot_unwrite_overwrite_iff h.parted
        (fun hmem => hc (List.mem_singleton.1 hmem).symm) (List.cons_ne_nil _ _)
  | newline =>
    rw [h.applyEdit_newline]
    exact iff_of_true (Document.snapshot_unwrite_insertBreak h.parted) trivial
  | tab =>
    rw [h.applyEdit_tab]
    exact snapshot_unwrite_overwrite_iff h.parted e.alone_tabText.isLine e.tabText_ne_nil
  | _ => cases hk

/-- A key that writes such characters leaves a buffer of such characters. -/
theorem alone_typeEdit (halone : e.document.snapshot.Alone) {k : Edit} (hk : k.writes = true)
    (hwrites : e.WritesAlone k) : (e.typeEdit k).document.snapshot.Alone := by
  rw [document_typeEdit]
  cases k with
  | insertChar c =>
    rw [h.applyEdit_insertChar]
    exact alone_overwrite h.parted halone (fun d hd => List.mem_singleton.1 hd ▸ hwrites)
      (List.cons_ne_nil _ _)
  | newline =>
    rw [h.applyEdit_newline]
    exact Document.alone_insertBreak h.parted halone
  | tab =>
    rw [h.applyEdit_tab]
    exact alone_overwrite h.parted halone e.alone_tabText e.tabText_ne_nil
  | _ => cases hk

end Overwriting

/-! ## Several keys -/

/-- The backspace key looks at the page only. -/
theorem page_backspace_congr {e e' : Editor} (h : e.Overwriting) (h' : e'.Overwriting)
    (hpage : e.page = e'.page) : (e.typeEdit .backspace).page = (e'.typeEdit .backspace).page := by
  obtain ⟨hsnapshot, hover⟩ := Prod.mk.inj hpage
  rw [h.page_backspace, h'.page_backspace, hover, Document.snapshot_unwrite_congr hsnapshot]

/-- So do keys one after the other, by induction on them. -/
theorem overwriting_foldl {e : Editor} (h : e.Overwriting) {typed : List Edit}
    (htyped : ∀ k ∈ typed, k.writes = true ∨ k = .backspace) :
    (typed.foldl typeEdit e).Overwriting := by
  induction typed generalizing e with
  | nil => exact h
  | cons k typed ih =>
    exact ih (h.typeEdit (htyped k List.mem_cons_self))
      fun k' hk' => htyped k' (List.mem_cons_of_mem _ hk')

/-- Keys of which each can be taken back where it was typed are taken back by as many backspace
keys. -/
theorem page_foldl_backspace {e : Editor} (h : e.Overwriting) {typed : List Edit}
    (htyped : ∀ k ∈ typed, k.writes = true)
    (hback : ∀ i (hi : i < typed.length), ((typed.take i).foldl typeEdit e).CanTakeBack typed[i]) :
    ((List.replicate typed.length Edit.backspace).foldl typeEdit (typed.foldl typeEdit e)).page =
      e.page := by
  induction typed generalizing e with
  | nil => rfl
  | cons k typed ih =>
    have hk := htyped k List.mem_cons_self
    have hlater (k' : Edit) (hk' : k' ∈ typed) := htyped k' (List.mem_cons_of_mem _ hk')
    have hnext := h.typeEdit (.inl hk)
    have hrest := ih hnext hlater fun i hi => hback (i + 1) (Nat.succ_lt_succ hi)
    -- the last backspace key takes back the first key
    have hdropped : ((e.typeEdit k).typeEdit .backspace).overwritten = e.overwritten :=
      congrArg Prod.snd (h.page_writes_backspace hk)
    have hlast : ((e.typeEdit k).typeEdit .backspace).page = e.page :=
      Prod.ext ((h.snapshot_backspace_iff hk).2 (hback 0 (Nat.succ_pos _))) hdropped
    rw [List.length_cons, List.replicate_succ', List.foldl_concat, List.foldl_cons, ← hlast]
    refine page_backspace_congr ?_ hnext hrest
    refine overwriting_foldl (overwriting_foldl hnext fun k' hk' => .inl (hlater k' hk')) ?_
    exact fun k' hk' => .inr (List.eq_of_mem_replicate hk')

/-- Keys that write characters that stand alone can all be taken back, if such characters are all that
there are. -/
theorem canTakeBack_foldl {e : Editor} (h : e.Overwriting) (halone : e.document.snapshot.Alone)
    {typed : List Edit} (htyped : ∀ k ∈ typed, k.writes = true)
    (hwrites : ∀ i (hi : i < typed.length), ((typed.take i).foldl typeEdit e).WritesAlone typed[i]) :
    ∀ i (hi : i < typed.length), ((typed.take i).foldl typeEdit e).CanTakeBack typed[i] := by
  induction typed generalizing e with
  | nil => exact fun i hi => absurd hi (Nat.not_lt_zero i)
  | cons k typed ih =>
    have hk := htyped k List.mem_cons_self
    have hfirst := hwrites 0 (Nat.succ_pos _)
    intro i hi
    cases i with
    | zero => exact canTakeBack_of_alone halone hk hfirst
    | succ i =>
      exact ih (h.typeEdit (.inl hk)) (h.alone_typeEdit halone hk hfirst)
        (fun k' hk' => htyped k' (List.mem_cons_of_mem _ hk'))
        (fun j hj => hwrites (j + 1) (Nat.succ_lt_succ hj)) i (Nat.lt_of_succ_lt_succ hi)

/-- A tab that is written as several spaces cannot be taken back. -/
theorem not_canTakeBack_tab {e : Editor} (hexpand : e.settings.expandTab = true)
    (hwide : 1 < e.tabText.length) : ¬ e.CanTakeBack .tab := by
  intro hback
  obtain ⟨n, hn⟩ : ∃ n, e.tabText = spaces n := by
    rw [tabText, if_pos hexpand]
    exact ⟨_, rfl⟩
  obtain ⟨l, hl⟩ := ReadsBack.mem_clusters hback
  rw [hn, spaces, List.length_replicate] at hwide
  obtain ⟨k, rfl⟩ : ∃ k, n = k + 2 := ⟨n - 2, by omega⟩
  have hspace : (Unicode.graphemeBreak ' ').isAlone = true := by decide
  rw [hn] at hl
  exact ne_cons_cons_of_isAlone hspace hspace (m := {}) hl (List.replicate k ' ') rfl

end Editor

end ModalEditor
