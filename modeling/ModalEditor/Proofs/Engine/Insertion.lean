import Mathlib.Data.List.Induction
import ModalEditor.Proofs.Document.Index
import ModalEditor.Proofs.Engine.Typed

/-!
# The text of an insertion

The text of a document after characters were typed between `i` and the escape key, without a count
(`Reachable.text_insertion`). Every character is put in at a cluster boundary: where the cursor is, or
before it, if what was typed last forms one cluster with what follows (`typeInto`). As long as no
character has to go back, the text is the one from before with the characters in the place of the
cursor; the first one that has to is out of order, unless the characters that it passes are the same
(`take_cons_drop_eq_iff`).
-/

namespace ModalEditor

open Buffer (typingIndex)

/-- A text with a character typed behind the first characters of it, and how many characters stand
before the cursor then. -/
def typeInto (s : Text × Nat) (c : Char) : Text × Nat :=
  let k := typingIndex s.1 s.2
  (s.1.take k ++ c :: s.1.drop k, k + 1)

/-- Each of the characters, typed behind the first `n` characters of a text, goes where the cursor
is. -/
def KeepsPlace (t : Text) (n : Nat) (cs : Text) : Prop :=
  ∀ i < cs.length, typingIndex (t.take n ++ cs.take i ++ t.drop n) (n + i) = n + i

instance (t : Text) (n : Nat) (cs : Text) : Decidable (KeepsPlace t n cs) :=
  inferInstanceAs (Decidable (∀ i < cs.length, _ = _))

/-! ## Characters in their place -/

theorem keepsPlace_concat_iff {t : Text} {n : Nat} {s : Text} {c : Char} :
    KeepsPlace t n (s ++ [c]) ↔
      KeepsPlace t n s ∧
        typingIndex (t.take n ++ s ++ t.drop n) (n + s.length) = n + s.length := by
  unfold KeepsPlace
  rw [List.length_append, List.length_singleton, Nat.forall_lt_succ_right, List.take_left]
  refine and_congr_left fun _ => forall₂_congr fun i hi => ?_
  rw [List.take_append_of_le_length (Nat.le_of_lt hi)]

/-- As long as the characters keep their place, they come one after the other. -/
theorem KeepsPlace.foldl_typeInto {t : Text} {n : Nat} (hn : n ≤ t.length) {cs : Text}
    (h : KeepsPlace t n cs) :
    cs.foldl typeInto (t, n) = (t.take n ++ cs ++ t.drop n, n + cs.length) := by
  induction cs using List.reverseRecOn with
  | nil => rw [List.foldl_nil, List.append_nil, List.take_append_drop]; rfl
  | append_singleton s c ih =>
    obtain ⟨hs, hplace⟩ := keepsPlace_concat_iff.1 h
    have hfront : (t.take n ++ s).length = n + s.length := by
      rw [List.length_append, List.length_take_of_le hn]
    rw [List.foldl_concat, ih hs, typeInto]
    dsimp only
    rw [hplace, ← hfront, List.take_left, List.drop_left, hfront]
    simp only [List.append_assoc, List.singleton_append, List.length_append, List.length_singleton,
      Nat.add_assoc]

theorem cons_eq_concat_iff {c : Char} {l : Text} : c :: l = l ++ [c] ↔ ∀ d ∈ l, d = c := by
  induction l with
  | nil => exact iff_of_true rfl nofun
  | cons d l ih =>
    rw [List.cons_append, List.cons.injEq, List.forall_mem_cons]
    constructor
    · rintro ⟨rfl, hl⟩
      exact ⟨rfl, ih.1 hl⟩
    · rintro ⟨rfl, hl⟩
      exact ⟨rfl, ih.2 hl⟩

/-- A character that is put in before its place passes the characters between, and cannot be told from
one in its place if they are the same. -/
theorem take_cons_drop_eq_iff {u : Text} {k m : Nat} (hkm : k ≤ m) (c : Char) :
    u.take k ++ c :: u.drop k = u.take m ++ c :: u.drop m ↔ ∀ d ∈ (u.take m).drop k, d = c := by
  have hfront := take_eq_append u hkm
  generalize (u.take m).drop k = carried at hfront ⊢
  have hbehind : u.drop k = carried ++ u.drop m := by
    have hwhole := List.take_append_drop m u
    rw [hfront, List.append_assoc] at hwhole
    exact List.append_cancel_left ((List.take_append_drop k u).trans hwhole.symm)
  rw [hbehind, hfront, ← cons_eq_concat_iff, List.append_assoc, List.append_cancel_left_eq,
    ← List.cons_append, ← List.singleton_append (l := u.drop m), ← List.append_assoc,
    List.append_cancel_right_eq]

/-! ## Characters that are typed -/

namespace Editor

theorem document_typeEdit_insertChar {e : Editor} (hmode : e.mode ≠ .replace) (c : Char) :
    (e.typeEdit (.insertChar c)).document = e.document.insertText [c] := by
  show (e.typeText [c]).document = _
  rw [typeText, if_neg hmode]
  rfl

theorem standsAt_foldl_typeEdit {e : Editor} (hmode : e.mode ≠ .replace) {t : Text} {n : Nat}
    (h : e.document.StandsAt t n) (cs : Text) :
    ((cs.map Edit.insertChar).foldl typeEdit e).document.StandsAt (cs.foldl typeInto (t, n)).1
      (cs.foldl typeInto (t, n)).2 := by
  induction cs generalizing e t n with
  | nil => exact h
  | cons c cs ih =>
    obtain ⟨d, g, hafter⟩ := afterKeys_typeEdit e (k := .insertChar c) rfl
    have hmode' : (e.typeEdit (.insertChar c)).mode ≠ .replace := by rwa [hafter]
    have htyped := h.insertText [c]
    rw [List.append_assoc, List.singleton_append, ← document_typeEdit_insertChar hmode] at htyped
    exact ih hmode' htyped

end Editor

namespace Engine

variable {engine : Engine}

/-- The keys of a session in insert mode without a count. -/
def insertKeys (cs : Text) : List Key :=
  .ofChar 'i' :: (cs.map .ofChar ++ [.ofCode .escape])

/-- A session in insert mode leaves the characters where they were typed. -/
theorem Sound.standsAt_insertion (h : engine.Sound) (hmode : engine.editor.mode = .normal)
    (hread : (engine.reader.read engine.editor.mode (.ofChar 'i')).2 =
      some (.enterInsert .insert 1)) (cs : Text) :
    (engine.run ((insertKeys cs).map .key)).1.editor.document.buffer.text =
      (cs.foldl typeInto (engine.editor.document.buffer.text,
        engine.editor.document.buffer.charIndex engine.editor.document.cursor)).1 := by
  have hrests : engine.editor.document.Rests := (h.healthy.ready hmode).rests
  obtain ⟨begun, hdocument, -, hbegun, hrun⟩ := run_insertion hmode hread
  have hstands : begun.document.StandsAt engine.editor.document.buffer.text
      (engine.editor.document.buffer.charIndex engine.editor.document.cursor) := by
    rw [hdocument]
    exact hrests.standsAt.beginChange
  -- the characters that are typed
  have hplain : Edit.Plain (cs.map .insertChar) := fun k hk => by
    obtain ⟨c, -, rfl⟩ := List.mem_map.1 hk
    rfl
  have hkeys : (cs.map Key.ofChar).map Action.ofTypedKey? =
      (cs.map Edit.insertChar).map fun edit => some (.edit edit) := by
    rw [List.map_map, List.map_map]
    rfl
  obtain ⟨-, hescape, -⟩ := hrun _ _ hkeys hplain
  have htyped := Editor.standsAt_foldl_typeEdit hbegun hstands cs
  rw [show (insertKeys cs).map .key = insertion (cs.map .ofChar) true from rfl, hescape,
    Document.finishInsert, Document.endChange_buffer, ← htyped.text]
  rfl

/-- The text of a document after a session in insert mode that was begun without a count. Every
character goes to the cluster boundary at the cursor, or to the one before. As long as that is where
the cursor is, the characters come one after the other in the place where typing began; the first one
for which it is not passes the characters between, and the text is as if it did not if and only if
these are the same as it. -/
theorem Reachable.text_insertion (h : engine.Reachable) (hmode : engine.editor.mode = .normal)
    (hread : (engine.reader.read engine.editor.mode (.ofChar 'i')).2 =
      some (.enterInsert .insert 1)) :
    let t := engine.editor.document.buffer.text
    let n := engine.editor.document.buffer.charIndex engine.editor.document.cursor
    let after (cs : Text) := (engine.run ((insertKeys cs).map .key)).1.editor.document.buffer.text
    (∀ cs, after cs = (cs.foldl typeInto (t, n)).1) ∧
      (∀ cs, KeepsPlace t n cs → after cs = t.take n ++ cs ++ t.drop n) ∧
      ∀ s c, KeepsPlace t n s →
        let u := t.take n ++ s ++ t.drop n
        let k := typingIndex u (n + s.length)
        k ≤ n + s.length ∧ after (s ++ [c]) = u.take k ++ c :: u.drop k ∧
          (after (s ++ [c]) = t.take n ++ (s ++ [c]) ++ t.drop n ↔
            ∀ d ∈ (u.take (n + s.length)).drop k, d = c) := by
  intro t n after
  have hafter (cs : Text) : after cs = (cs.foldl typeInto (t, n)).1 :=
    h.sound.standsAt_insertion hmode hread cs
  have hrests : engine.editor.document.Rests := (h.sound.healthy.ready hmode).rests
  have hn : n ≤ t.length := hrests.standsAt.le_length
  refine ⟨hafter, fun cs hcs => ?_, fun s c hs => ?_⟩
  · rw [hafter, hcs.foldl_typeInto hn]
  · intro u k
    have hlast : after (s ++ [c]) = u.take k ++ c :: u.drop k := by
      rw [hafter, List.foldl_concat, hs.foldl_typeInto hn, typeInto]
    have hfront : (t.take n ++ s).length = n + s.length := by
      rw [List.length_append, List.length_take_of_le hn]
    have hk : k ≤ n + s.length := by
      refine Buffer.typingIndex_le ?_
      rw [← hfront]
      exact (List.prefix_append _ _).length_le
    have hwanted : t.take n ++ (s ++ [c]) ++ t.drop n =
        u.take (n + s.length) ++ c :: u.drop (n + s.length) := by
      rw [← hfront, List.take_left, List.drop_left]
      simp only [List.append_assoc, List.singleton_append]
    refine ⟨hk, hlast, ?_⟩
    rw [hlast, hwanted]
    exact take_cons_drop_eq_iff hk c

/-- In front of an accent that stands alone, a letter joins the accent, and the next one goes in front
of both. -/
theorem text_insertion_accent :
    let engine := ofBuffer (.ofText ['\u0301']) {}
    engine.Reachable ∧ engine.editor.mode = .normal ∧
      (engine.reader.read engine.editor.mode (.ofChar 'i')).2 = some (.enterInsert .insert 1) ∧
      KeepsPlace ['\u0301'] 0 ['a'] ∧
      (engine.run ((insertKeys ['a']).map .key)).1.editor.document.buffer.text = ['a', '\u0301'] ∧
      (engine.run ((insertKeys ['a', 'b']).map .key)).1.editor.document.buffer.text =
        ['b', 'a', '\u0301'] ∧
      (engine.run ((insertKeys ['a', 'a']).map .key)).1.editor.document.buffer.text =
        ['a', 'a', '\u0301'] := by
  intro engine
  have hreachable : engine.Reachable := ⟨_, _, [], rfl⟩
  have hkeeps : KeepsPlace ['\u0301'] 0 ['a'] := by decide +kernel
  obtain ⟨hafter, hplace, hlast⟩ := hreachable.text_insertion rfl rfl
  refine ⟨hreachable, rfl, rfl, hkeeps, hplace ['a'] hkeeps, ?_, ?_⟩
  · exact (hafter ['a', 'b']).trans (by decide +kernel)
  · -- the letter that is passed is the same
    have hpassed : (['a', '\u0301'] : Text).take 1 = ['a'] := rfl
    refine (hlast ['a'] 'a' hkeeps).2.2.2 fun d hd => ?_
    exact List.mem_singleton.1 (hpassed ▸ List.mem_of_mem_drop hd)

/-- Two letters in front of an accent that stands alone end up in the wrong order. -/
theorem text_insertion_ne :
    ¬ ∀ (engine : Engine) (cs : Text), engine.Reachable → engine.editor.mode = .normal →
      (engine.reader.read engine.editor.mode (.ofChar 'i')).2 = some (.enterInsert .insert 1) →
      (engine.run ((insertKeys cs).map .key)).1.editor.document.buffer.text =
        engine.editor.document.buffer.text.take
            (engine.editor.document.buffer.charIndex engine.editor.document.cursor) ++ cs ++
          engine.editor.document.buffer.text.drop
            (engine.editor.document.buffer.charIndex engine.editor.document.cursor) := by
  intro h
  have hwrong := h (ofBuffer (.ofText ['\u0301']) {}) ['a', 'b'] ⟨_, _, [], rfl⟩ rfl rfl
  exact absurd hwrong (by decide +kernel)

end Engine

end ModalEditor
