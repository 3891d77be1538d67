import ModalEditor.Proofs.Editor.Backspace
import ModalEditor.Proofs.Engine.Typed

/-!
# Backspaces in replace mode

Keys that are typed in replace mode and backspace keys behind them are one edit each
(`editor_run_replace`). A key is taken back if and only if its text reads back in its place, and keys
that all do leave the text and the cursor as they were when replace mode began. A tab that is written
as several spaces is never taken back: the backspace key goes back by one of them.
-/

namespace ModalEditor.Engine

open Editor (Overwriting)

variable {engine : Engine}

/-- Replace mode reads the keys as these edits, each of which writes text or breaks the line. -/
structure TypedAs (keys : List Key) (typed : List Edit) : Prop where
  read : keys.map Action.ofTypedKey? = typed.map fun edit => some (.edit edit)
  writes : ∀ edit ∈ typed, edit.writes = true

/-- Backspace keys. -/
def backspaces (n : Nat) : List Key :=
  List.replicate n (.ofCode .backspace)

namespace TypedAs

variable {keys : List Key} {typed : List Edit} (h : TypedAs keys typed)
include h

theorem length_eq : keys.length = typed.length := by
  have hlength := congrArg List.length h.read
  rwa [List.length_map, List.length_map] at hlength

theorem plain : Edit.Plain typed := fun edit hedit => by
  have hwrites := h.writes edit hedit
  cases edit <;> first | rfl | cases hwrites

theorem take (i : Nat) : TypedAs (keys.take i) (typed.take i) where
  read := by rw [List.map_take, List.map_take, h.read]
  writes := fun edit hedit => h.writes edit (List.mem_of_mem_take hedit)

omit h in
/-- The keys before the last of them. -/
theorem init {k : Key} {edit : Edit} (h : TypedAs (keys ++ [k]) (typed ++ [edit])) :
    TypedAs keys typed := by
  have hlength : keys.length = typed.length := by
    have hboth := h.length_eq
    rw [List.length_append, List.length_append] at hboth
    exact Nat.add_right_cancel hboth
  have htake := h.take keys.length
  rwa [List.take_left, hlength, List.take_left] at htake

end TypedAs

section

variable (hmode : engine.editor.mode = .normal) {k : Key} {n : Nat}
  (hread : (engine.reader.read engine.editor.mode k).2 = some (.enterReplace n))
include hmode hread

/-- The key that begins replace mode leaves the text and the cursor. -/
theorem snapshot_feed_replace :
    (engine.feed (.key k)).1.editor.document.snapshot = engine.editor.document.snapshot := by
  obtain ⟨modes, -, hbegun⟩ := feed_enterReplace hmode hread
  rw [hbegun]
  exact congrArg₂ Snapshot.mk (Document.beginChange_buffer _) (Document.beginChange_cursor _)

theorem overwriting_feed_replace (hrests : engine.editor.document.Rests) :
    (engine.feed (.key k)).1.editor.Overwriting := by
  obtain ⟨modes, hmodes, hbegun⟩ := feed_enterReplace hmode hread
  refine ⟨?_, ?_, ?_⟩
  · rw [hbegun]
    exact hmodes
  · rw [hbegun]
    rfl
  · rw [snapshot_feed_replace hmode hread]
    exact hrests.clamp_cursor

variable {keys : List Key} {typed : List Edit} (hkeys : TypedAs keys typed)
include hkeys

theorem settings_foldl_replace :
    (typed.foldl Editor.typeEdit (engine.feed (.key k)).1.editor).settings =
      engine.editor.settings := by
  obtain ⟨modes, -, hbegun⟩ := feed_enterReplace hmode hread
  obtain ⟨d, g, hafter⟩ :=
    Editor.afterKeys_foldl_typeEdit (engine.feed (.key k)).1.editor hkeys.plain
  rw [hafter, hbegun]

/-- Every key that is typed, and every backspace key behind them, is one edit. -/
theorem editor_run_replace (m : Nat) :
    (engine.run ((k :: (keys ++ backspaces m)).map .key)).1.editor =
      (List.replicate m Edit.backspace).foldl Editor.typeEdit
        (typed.foldl Editor.typeEdit (engine.feed (.key k)).1.editor) := by
  obtain ⟨modes, hmodes, hbegun⟩ := feed_enterReplace hmode hread
  have hreplace : (engine.feed (.key k)).1.editor.mode = .replace := by
    rw [hbegun]
    exact hmodes
  have hedits : (keys ++ backspaces m).map Action.ofTypedKey? =
      (typed ++ List.replicate m Edit.backspace).map fun edit => some (.edit edit) := by
    rw [List.map_append, List.map_append, hkeys.read, backspaces, List.map_replicate,
      List.map_replicate]
    rfl
  have hplain : Edit.Plain (typed ++ List.replicate m Edit.backspace) := fun edit hedit =>
    (List.mem_append.1 hedit).elim (hkeys.plain edit) fun hedit => by
      rw [List.eq_of_mem_replicate hedit]
      rfl
  have hrun := run_edits (by rw [hreplace]; rfl) hedits hplain
  rw [List.foldl_append] at hrun
  exact congrArg Engine.editor hrun

end

/-- Keys that are typed in replace mode, and backspace keys behind them. A key is taken back by one
backspace key if and only if what it writes can be taken back in its place. If all keys can be taken
back in their places, as many backspace keys bring back the text and the cursor from before. So it is
where all characters stand alone, those of the text and those that are typed, and where a tab is one of
them. A tab that is written as several spaces is not taken back. -/
theorem replace_backspace (hmode : engine.editor.mode = .normal) {k : Key} {n : Nat}
    (hread : (engine.reader.read engine.editor.mode k).2 = some (.enterReplace n))
    (hrests : engine.editor.document.Rests) :
    let after (keys : List Key) (m : Nat) :=
      (engine.run ((k :: (keys ++ backspaces m)).map .key)).1.editor
    (∀ keys typed, TypedAs keys typed →
      (∀ i (hi : i < typed.length), (after (keys.take i) 0).CanTakeBack typed[i]) →
      (after keys keys.length).document.snapshot = engine.editor.document.snapshot) ∧
    (∀ keys typed, TypedAs keys typed → engine.editor.document.snapshot.Alone →
      (∀ i (hi : i < typed.length), (after (keys.take i) 0).WritesAlone typed[i]) →
      (after keys keys.length).document.snapshot = engine.editor.document.snapshot) ∧
    (∀ keys k' typed edit, TypedAs (keys ++ [k']) (typed ++ [edit]) →
      ((after (keys ++ [k']) 1).document.snapshot = (after keys 0).document.snapshot ↔
        (after keys 0).CanTakeBack edit)) ∧
    ∀ keys k' typed, TypedAs (keys ++ [k']) (typed ++ [.tab]) →
      engine.editor.settings.expandTab = true → 1 < (after keys 0).tabText.length →
      (after (keys ++ [k']) 1).document.snapshot ≠ (after keys 0).document.snapshot := by
  intro after
  let e := (engine.feed (.key k)).1.editor
  have hover : e.Overwriting := overwriting_feed_replace hmode hread hrests
  have hsnapshot : e.document.snapshot = engine.editor.document.snapshot :=
    snapshot_feed_replace hmode hread
  have hrun {keys : List Key} {typed : List Edit} (htyped : TypedAs keys typed) (m : Nat) :
      after keys m = (List.replicate m Edit.backspace).foldl Editor.typeEdit
        (typed.foldl Editor.typeEdit e) := editor_run_replace hmode hread htyped m
  have hafter {keys : List Key} {typed : List Edit} (htyped : TypedAs keys typed) :
      after keys 0 = typed.foldl Editor.typeEdit e := hrun htyped 0
  have hall {keys : List Key} {typed : List Edit} (htyped : TypedAs keys typed)
      (hback : ∀ i (hi : i < typed.length),
        ((typed.take i).foldl Editor.typeEdit e).CanTakeBack typed[i]) :
      (after keys keys.length).document.snapshot = engine.editor.document.snapshot := by
    have hpage := congrArg Prod.fst (Editor.page_foldl_backspace hover htyped.writes hback)
    rw [hrun htyped, htyped.length_eq, ← hsnapshot]
    exact hpage
  have hone {keys : List Key} {k' : Key} {typed : List Edit} {edit : Edit}
      (htyped : TypedAs (keys ++ [k']) (typed ++ [edit])) :
      (after (keys ++ [k']) 1).document.snapshot = (after keys 0).document.snapshot ↔
        (after keys 0).CanTakeBack edit := by
    have hbefore := htyped.init
    have hreached : (typed.foldl Editor.typeEdit e).Overwriting :=
      Editor.overwriting_foldl hover fun edit hedit => .inl (hbefore.writes edit hedit)
    have hedit := htyped.writes edit (List.mem_append_right _ (List.mem_singleton_self _))
    rw [hrun htyped, hafter hbefore, List.foldl_concat]
    exact hreached.snapshot_backspace_iff hedit
  refine ⟨fun keys typed htyped hback => hall htyped fun i hi => ?_,
    fun keys typed htyped halone hwrites => hall htyped ?_,
    fun keys k' typed edit htyped => hone htyped,
    fun keys k' typed htyped hexpand hwide hback => ?_⟩
  · rw [← hafter (htyped.take i)]
    exact hback i hi
  · refine Editor.canTakeBack_foldl hover (by rwa [hsnapshot]) htyped.writes fun i hi => ?_
    rw [← hafter (htyped.take i)]
    exact hwrites i hi
  · refine Editor.not_canTakeBack_tab ?_ hwide ((hone htyped).1 hback)
    rw [hafter htyped.init, settings_foldl_replace hmode hread htyped.init]
    exact hexpand

/-- Letters and a line break are taken back. A tab that is written as several spaces is not, and
neither is an accent, which joins the letter before it. -/
theorem replace_backspace_letters :
    let engine := ofBuffer (.ofText ['a', 'b']) { expandTab := true }
    let after (keys : List Key) (m : Nat) :=
      (engine.run ((.ofChar 'R' :: (keys ++ backspaces m)).map .key)).1.editor
    let x : List Key := [.ofChar 'x']
    let letters : List Key := [.ofChar 'x', .ofCode .enter, .ofChar 'y']
    (engine.editor.mode = .normal ∧
      (engine.reader.read engine.editor.mode (.ofChar 'R')).2 = some (.enterReplace 1) ∧
      engine.editor.document.Rests) ∧
    (after letters letters.length).document.snapshot = engine.editor.document.snapshot ∧
    (after (x ++ [.ofChar '\u0301']) 1).document.snapshot ≠ (after x 0).document.snapshot ∧
    (after (x ++ [.ofCode .tab]) 1).document.snapshot ≠ (after x 0).document.snapshot := by
  intro engine after x letters
  have hread : (engine.reader.read engine.editor.mode (.ofChar 'R')).2 = some (.enterReplace 1) := rfl
  have hrests : engine.editor.document.Rests := Buffer.rest_origin _
  obtain ⟨-, halone, hone, htab⟩ := replace_backspace rfl hread hrests
  have htyped : TypedAs letters [.insertChar 'x', .newline, .insertChar 'y'] := ⟨rfl, by decide⟩
  refine ⟨⟨rfl, hread, hrests⟩, halone letters _ htyped ?_ fun i hi => ?_, fun hback => ?_, ?_⟩
  · show ∀ l ∈ [['a', 'b']], Alone l
    decide
  · match i, hi with
    | 0, _ => show (Unicode.graphemeBreak 'x').isAlone = true; decide
    | 1, _ => trivial
    | 2, _ => show (Unicode.graphemeBreak 'y').isAlone = true; decide
  · have hcan := (hone x _ [.insertChar 'x'] (.insertChar '\u0301') ⟨rfl, by decide⟩).1 hback
    exact absurd hcan (by decide +kernel)
  · exact htab x _ [.insertChar 'x'] ⟨rfl, by decide⟩ rfl (by decide +kernel)

/-- A tab that is written as four spaces, of which the backspace key takes back one. -/
theorem replace_backspace_ne :
    ¬ ∀ (engine : Engine) (k : Key) (n : Nat) (keys : List Key) (typed : List Edit),
      engine.editor.mode = .normal →
      (engine.reader.read engine.editor.mode k).2 = some (.enterReplace n) →
      engine.editor.document.Rests → TypedAs keys typed →
      (engine.run ((k :: (keys ++ backspaces keys.length)).map .key)).1.editor.document.snapshot =
        engine.editor.document.snapshot := by
  intro h
  have hwrong := h (ofBuffer (.ofText ['a', 'b']) { expandTab := true }) (.ofChar 'R') 1
    [.ofCode .tab] [.tab] rfl rfl (Buffer.rest_origin _) ⟨rfl, by decide⟩
  exact absurd hwrong (by decide +kernel)

end ModalEditor.Engine
