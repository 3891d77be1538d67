import ModalEditor.Proofs.Editor.Repeat
import ModalEditor.Proofs.Engine.Outcome

/-!
# Typing, key by key

What an engine does from the key that begins typing to the escape key. The first key begins a change
and a session (`feed_enterInsert`, `feed_enterReplace`). While text is typed, every key is a command of
its own, so keys that stand for edits do these edits one after the other, and the reader stays as it
is (`run_edits`). The escape key puts the text in as often as the count says, steps back
(`feed_escape`) and fills the register `.` (`registers_feed_escape`). Of a session of insert mode
without a count, nothing but the edits is left to look at (`run_insertion`).
-/

namespace ModalEditor.Engine

open Editor (AfterKeys)
open EditorM (Never repeated)

variable {engine : Engine}

/-- A run in two parts. -/
theorem run_append (engine : Engine) (inputs later : List Input) :
    (engine.run (inputs ++ later)).1 = ((engine.run inputs).1.run later).1 := by
  induction inputs generalizing engine with
  | nil => rfl
  | cons i inputs ih => exact ih (engine.feed i).1

/-- A command that cannot fail is carried out. -/
theorem feed_of_ensures {k : Key} {a : Action} {ok : Editor → Prop}
    (hread : (engine.reader.read engine.editor.mode k).2 = some a)
    (hact : EditorM.Ensures (EditorM.perform a) engine.editor (fun _ e => ok e) Never) :
    ok (engine.feed (.key k)).1.editor := by
  show ok (engine.handleKey k).1.editor
  rw [(handleKey_of_some hread).1]
  exact (Editor.dispatch_of_ensures hact).2

/-! ## The key that begins -/

/-- The key into Insert mode opens a session, and where the cursor goes is the variant's. -/
theorem feed_enterInsert (hmode : engine.editor.mode = .normal) {k : Key} {variant : InsertVariant}
    {n : Nat}
    (hread : (engine.reader.read engine.editor.mode k).2 = some (.enterInsert variant n)) :
    ∃ modes : Modes, modes.mode = .insert variant ∧
      (engine.feed (.key k)).1.editor = { engine.editor with
        modes
        document := engine.editor.document.beginChange.startInsert variant
        session := some (.start (.insert variant) n) } := by
  have hact : EditorM.Ensures (EditorM.enterInsert variant n) engine.editor
      (fun _ e => ∃ modes : Modes, modes.mode = .insert variant ∧ e = { engine.editor with
        modes
        document := engine.editor.document.beginChange.startInsert variant
        session := some (.start (.insert variant) n) }) Never :=
    EditorM.ensures_startInsert variant n _ hmode fun modes hmodes => ⟨modes, hmodes, rfl⟩
  exact feed_of_ensures hread hact

/-- The key into Replace mode opens a session at the cursor. -/
theorem feed_enterReplace (hmode : engine.editor.mode = .normal) {k : Key} {n : Nat}
    (hread : (engine.reader.read engine.editor.mode k).2 = some (.enterReplace n)) :
    ∃ modes : Modes, modes.mode = .replace ∧
      (engine.feed (.key k)).1.editor = { engine.editor with
        modes
        document := engine.editor.document.beginChange
        session := some (.start .replace n) } := by
  have hnext : engine.editor.mode.next .enterReplace = .ok .replace := by rw [hmode]; rfl
  have hact : EditorM.Ensures (EditorM.enterReplace n) engine.editor
      (fun _ e => ∃ modes : Modes, modes.mode = .replace ∧ e = { engine.editor with
        modes
        document := engine.editor.document.beginChange
        session := some (.start .replace n) }) Never :=
    EditorM.ensures_bind.2
      (EditorM.ensures_transition hnext (EditorM.ensures_modify.2 ⟨_, rfl, rfl⟩))
  exact feed_of_ensures hread hact

/-! ## The keys that follow -/

/-- While typing, a key is read by itself, whatever came before. -/
theorem read_of_typing (hmode : engine.editor.mode.isTyping = true) (k : Key) :
    engine.reader.read engine.editor.mode k = (engine.reader, Action.ofTypedKey? k) := by
  cases hm : engine.editor.mode with
  | insert variant => rfl
  | replace => rfl
  | _ => rw [hm] at hmode; cases hmode

/-- While typing, a key that edits is one more edit. -/
theorem feed_edit (hmode : engine.editor.mode.isTyping = true) {k : Key} {edit : Edit}
    (hk : Action.ofTypedKey? k = some (.edit edit)) :
    (engine.feed (.key k)).1 = { engine with editor := engine.editor.typeEdit edit } := by
  have hperform : EditorM.perform (.edit edit) engine.editor = .ok () (engine.editor.typeEdit edit) :=
    EditorM.Ensures.eq_ok (EditorM.ensures_type hmode edit ⟨rfl, rfl⟩)
  have hread := read_of_typing hmode k
  rw [hk] at hread
  show (engine.handleKey k).1 = _
  rw [handleKey_of_read hread, (Editor.dispatch_of_ok hperform).1]

/-- Keys that stand for edits do these edits. -/
theorem run_edits (hmode : engine.editor.mode.isTyping = true) {keys : List Key} {typed : List Edit}
    (hkeys : keys.map Action.ofTypedKey? = typed.map fun edit => some (.edit edit))
    (htyped : Edit.Plain typed) :
    (engine.run (keys.map .key)).1 =
      { engine with editor := typed.foldl Editor.typeEdit engine.editor } := by
  induction keys generalizing engine typed with
  | nil =>
    obtain rfl := List.map_eq_nil_iff.1 hkeys.symm
    rfl
  | cons k keys ih =>
    cases typed with
    | nil => cases hkeys
    | cons edit typed =>
      obtain ⟨hk, hlater⟩ := List.cons.inj hkeys
      have hfed := feed_edit hmode hk
      obtain ⟨d, g, hafter⟩ :=
        Editor.afterKeys_typeEdit engine.editor (htyped edit List.mem_cons_self)
      have hmode' : (engine.feed (.key k)).1.editor.mode.isTyping = true := by
        rw [hfed, hafter]
        exact hmode
      have hrun := ih hmode' hlater fun k' hk' => htyped k' (List.mem_cons_of_mem _ hk')
      rw [hfed] at hrun
      exact (congrArg (fun e => (e.run (keys.map .key)).1) hfed).trans hrun

/-! ## The escape key -/

/-- What holds of the editor in which a session has ended holds behind the escape key. -/
theorem feed_escape_of (hmode : engine.editor.mode.isTyping = true) {s : Session}
    (hsession : engine.editor.session = some s) (hplain : Edit.Plain s.typed) {ok : Editor → Prop}
    (hok : ok (Editor.record s.toChange
      { repeated s engine.editor with
        session := none
        registers := engine.editor.registers.setLastInsert (Edit.typedText s.typed)
        document := (repeated s engine.editor).document.finishInsert
        modes := { engine.editor.modes with
          mode := .normal, history := engine.editor.modes.remember } })) :
    ok (engine.feed (.key (.ofCode .escape))).1.editor := by
  have hread : (engine.reader.read engine.editor.mode (.ofCode .escape)).2 = some .escape := by
    rw [read_of_typing hmode]
    rfl
  have hfinish : EditorM.Ensures EditorM.finishSession engine.editor (fun _ e => ok e) Never :=
    EditorM.ensures_finishSession hsession hplain hmode hok
  have hescape :
      EditorM.Ensures (EditorM.perform .escape) engine.editor (fun _ e => ok e) Never := by
    unfold EditorM.Ensures at hfinish ⊢
    rwa [EditorM.escape_of_typing hmode]
  exact feed_of_ensures hread hescape

/-- What the document is after the escape. -/
theorem feed_escape (hmode : engine.editor.mode.isTyping = true) {s : Session}
    (hsession : engine.editor.session = some s) (hplain : Edit.Plain s.typed) :
    (engine.feed (.key (.ofCode .escape))).1.editor.document =
      (repeated s engine.editor).document.finishInsert := by
  let ok (e : Editor) := e.document = (repeated s engine.editor).document.finishInsert
  show ok (engine.feed (.key (.ofCode .escape))).1.editor
  refine feed_escape_of hmode hsession hplain ?_
  unfold Editor.record
  split <;> rfl

/-- The register `.` holds the text that is made of the keys. -/
theorem registers_feed_escape (hmode : engine.editor.mode.isTyping = true) {s : Session}
    (hsession : engine.editor.session = some s) (hplain : Edit.Plain s.typed) :
    (engine.feed (.key (.ofCode .escape))).1.editor.registers =
      engine.editor.registers.setLastInsert (Edit.typedText s.typed) := by
  let ok (e : Editor) :=
    e.registers = engine.editor.registers.setLastInsert (Edit.typedText s.typed)
  show ok (engine.feed (.key (.ofCode .escape))).1.editor
  refine feed_escape_of hmode hsession hplain ?_
  unfold Editor.record
  split <;> rfl

section Run

variable (hmode : engine.editor.mode.isTyping = true) {keys : List Key} {typed : List Edit}
  (hkeys : keys.map Action.ofTypedKey? = typed.map fun edit => some (.edit edit))
  (htyped : Edit.Plain typed)
include hmode hkeys htyped

/-- A key behind keys that are typed. -/
theorem run_edits_feed (k : Key) :
    (engine.run ((keys ++ [k]).map .key)).1 =
      (Engine.feed { engine with editor := typed.foldl Editor.typeEdit engine.editor }
        (.key k)).1 := by
  rw [List.map_append, run_append, run_edits hmode hkeys htyped]
  rfl

omit hkeys in
/-- Plain edits stay in the typing mode. -/
theorem mode_foldl_typeEdit :
    (typed.foldl Editor.typeEdit engine.editor).mode.isTyping = true := by
  obtain ⟨d, g, hafter⟩ := Editor.afterKeys_foldl_typeEdit engine.editor htyped
  rw [hafter]
  exact hmode

variable {s : Session} (hsession : (typed.foldl Editor.typeEdit engine.editor).session = some s)
  (hplain : Edit.Plain s.typed)
include hsession hplain

/-- What the keys that are typed and the escape key behind them leave. -/
theorem run_edits_escape :
    (engine.run ((keys ++ [Key.ofCode .escape]).map .key)).1.editor.document =
      (repeated s (typed.foldl Editor.typeEdit engine.editor)).document.finishInsert := by
  rw [run_edits_feed hmode hkeys htyped]
  exact feed_escape (mode_foldl_typeEdit hmode htyped) hsession hplain

/-- After the escape, the last-insert register holds the text typed. -/
theorem registers_run_edits_escape :
    (engine.run ((keys ++ [Key.ofCode .escape]).map .key)).1.editor.registers =
      (typed.foldl Editor.typeEdit engine.editor).registers.setLastInsert
        (Edit.typedText s.typed) := by
  rw [run_edits_feed hmode hkeys htyped]
  exact registers_feed_escape (mode_foldl_typeEdit hmode htyped) hsession hplain

end Run

/-! ## A session of insert mode -/

/-- Keys of insert mode, and the escape key behind them if typing is over. -/
def insertion (keys : List Key) (ended : Bool) : List Input :=
  (.ofChar 'i' :: (keys ++ if ended then [.ofCode .escape] else [])).map .key

/-- Every key that is typed is one edit, and the escape key puts what they are into the register. -/
theorem run_insertion (hmode : engine.editor.mode = .normal)
    (hread : (engine.reader.read engine.editor.mode (.ofChar 'i')).2 =
      some (.enterInsert .insert 1)) :
    ∃ begun : Editor, begun.document = engine.editor.document.beginChange ∧
      begun.settings = engine.editor.settings ∧ begun.mode ≠ .replace ∧
      ∀ keys typed, keys.map Action.ofTypedKey? = (typed.map fun edit => some (.edit edit)) →
        Edit.Plain typed →
        (engine.run (insertion keys false)).1.editor.document =
            (typed.foldl Editor.typeEdit begun).document ∧
          (engine.run (insertion keys true)).1.editor.document =
            (typed.foldl Editor.typeEdit begun).document.finishInsert ∧
          (engine.run (insertion keys true)).1.editor.registers.lastInsert =
            Edit.typedText typed := by
  obtain ⟨modes, hmodes, hbegun⟩ := feed_enterInsert hmode hread
  have hinsert : (engine.feed (.key (.ofChar 'i'))).1.editor.mode = .insert .insert := by
    rw [hbegun]
    exact hmodes
  refine ⟨(engine.feed (.key (.ofChar 'i'))).1.editor, by rw [hbegun]; rfl, by rw [hbegun],
    by rw [hinsert]; nofun, fun keys typed hkeys hplain => ?_⟩
  have htyping : (engine.feed (.key (.ofChar 'i'))).1.editor.mode.isTyping = true := by
    rw [hinsert]
    rfl
  have hrun (ended : Bool) : (engine.run (insertion keys ended)).1 =
      ((engine.feed (.key (.ofChar 'i'))).1.run
        ((keys ++ if ended then [Key.ofCode .escape] else []).map .key)).1 := rfl
  obtain ⟨d, g, hafter⟩ :=
    Editor.afterKeys_foldl_typeEdit (engine.feed (.key (.ofChar 'i'))).1.editor hplain
  -- a session without a count has nothing to put in again
  have hsession : (typed.foldl Editor.typeEdit (engine.feed (.key (.ofChar 'i'))).1.editor).session =
      some ⟨.insert .insert, 1, typed, g (.start (.insert .insert) 1)⟩ := by
    rw [hafter, hbegun]
    rfl
  refine ⟨?_, ?_, ?_⟩
  · rw [hrun, if_neg (by decide), List.append_nil, run_edits htyping hkeys hplain]
  · rw [hrun, if_pos rfl]
    exact run_edits_escape htyping hkeys hplain hsession hplain
  · rw [hrun, if_pos rfl, registers_run_edits_escape htyping hkeys hplain hsession hplain]
    rfl

end ModalEditor.Engine
