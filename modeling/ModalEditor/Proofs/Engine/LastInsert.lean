import ModalEditor.Proofs.Document.Index
import ModalEditor.Proofs.Editor.Leave
import ModalEditor.Proofs.Engine.Typed

/-!
# The register of what was inserted last

Keys between `i`, without a count, and the escape key, on a line that is empty
(`Reachable.last_insert`). The text that they leave stands where typing began, and the register `.`
holds the text that is made of the keys alone. Where tabs are typed as such and all characters stand
alone the two are the same, and they are as long as every key does what the register takes it for. The
first key that does not parts them: a tab that is written as spaces, or a backspace key that takes back
a cluster of several characters.
-/

namespace ModalEditor

namespace Engine

variable {engine : Engine}

/-- Insert mode reads the keys as these edits, which write text or take back some of what they have
left. -/
structure InsertedAs (settings : Settings) (keys : List Key) (typed : List Edit) : Prop where
  read : keys.map Action.ofTypedKey? = typed.map fun edit => some (.edit edit)
  fits : Edit.Each settings Edit.Fits [] typed

/-- What the keys leave on an empty line, and what the register holds. -/
theorem standsAt_insertion (hmode : engine.editor.mode = .normal)
    (hread : (engine.reader.read engine.editor.mode (.ofChar 'i')).2 =
      some (.enterInsert .insert 1))
    (hplaced : engine.editor.document.Placed)
    (hempty : engine.editor.document.line engine.editor.document.cursor.row = [])
    {keys : List Key} {typed : List Edit} (htyped : InsertedAs engine.editor.settings keys typed) :
    let t := engine.editor.document.buffer.text
    let n := engine.editor.document.buffer.charIndex engine.editor.document.cursor
    let left := Edit.left engine.editor.settings typed
    (engine.run (insertion keys false)).1.editor.document.StandsAt (t.take n ++ left ++ t.drop n)
        (n + left.length) ∧
      (engine.run (insertion keys true)).1.editor.document.buffer.text =
        t.take n ++ left ++ t.drop n ∧
      (engine.run (insertion keys true)).1.editor.registers.get (some '.') =
        .ok (.ofChars (Edit.typedText typed)) := by
  intro t n left
  obtain ⟨begun, hdocument, hsettings, hbegun, hrun⟩ := run_insertion hmode hread
  obtain ⟨hafter, hover, hregister⟩ := hrun keys typed htyped.read htyped.fits.plain
  -- what is around the cursor before
  have hstart := Snapshot.typed_of_empty hplaced hempty
  obtain ⟨htext, -, hindex⟩ := hstart.standsAt
  generalize engine.editor.document.buffer.lines.take engine.editor.document.cursor.row = above,
    engine.editor.document.buffer.lines.drop (engine.editor.document.cursor.row + 1) = below
    at hstart htext hindex
  have hn : n = (above.flatMap (· ++ ['\n'])).length := by
    have hparted : engine.editor.document.buffer.clamp engine.editor.document.cursor =
      engine.editor.document.cursor := hstart.parted
    have hbefore := engine.editor.document.buffer.length_textBefore engine.editor.document.cursor
    rw [hparted, hindex] at hbefore
    exact hbefore.symm
  have ht : t = above.flatMap (· ++ ['\n']) ++ joinLines ([] :: below) := by
    rw [List.append_nil] at htext
    exact htext
  -- what the keys leave there
  have hbegins : begun.document.snapshot = engine.editor.document.snapshot := by
    rw [hdocument]
    exact congrArg₂ Snapshot.mk (Document.beginChange_buffer _) (Document.beginChange_cursor _)
  rw [← hbegins] at hstart
  have hends := (Editor.typed_foldl hbegun hstart (hsettings ▸ htyped.fits)).standsAt
  rw [hsettings] at hends
  rw [hn, ht, List.take_left, List.drop_left]
  refine ⟨?_, ?_, ?_⟩
  · rw [hafter]
    exact hends
  · rw [hover, Document.finishInsert, Document.endChange_buffer]
    exact hends.text
  · rw [← hregister]
    rfl

/-- The register `.` and the text that was inserted on an empty line, without a count. The text stands
where typing began, with the cursor behind it until the escape key, and the register holds the text
that is made of the keys. If tabs are typed as such and all characters stand alone, that is the same
text; so it is if every key does what the register takes it for. Behind such keys, a key that does not
parts the two. -/
theorem Reachable.last_insert (h : engine.Reachable) (hmode : engine.editor.mode = .normal)
    (hread : (engine.reader.read engine.editor.mode (.ofChar 'i')).2 =
      some (.enterInsert .insert 1))
    (hempty : engine.editor.document.line engine.editor.document.cursor.row = []) :
    let t := engine.editor.document.buffer.text
    let n := engine.editor.document.buffer.charIndex engine.editor.document.cursor
    let settings := engine.editor.settings
    let register (keys : List Key) :=
      (engine.run (insertion keys true)).1.editor.registers.get (some '.')
    (∀ keys typed, InsertedAs settings keys typed →
      let left := Edit.left settings typed
      (engine.run (insertion keys false)).1.editor.document.StandsAt
          (t.take n ++ left ++ t.drop n) (n + left.length) ∧
        (engine.run (insertion keys true)).1.editor.document.buffer.text =
          t.take n ++ left ++ t.drop n ∧
        register keys = .ok (.ofChars (Edit.typedText typed))) ∧
    (∀ keys typed, InsertedAs settings keys typed → settings.expandTab = false →
      (∀ c, .insertChar c ∈ typed → (Unicode.graphemeBreak c).isAlone = true) →
      register keys = .ok (.ofChars (Edit.left settings typed))) ∧
    (∀ keys typed, InsertedAs settings keys typed →
      Edit.Each settings (Edit.Mirrored settings) [] typed →
      register keys = .ok (.ofChars (Edit.left settings typed))) ∧
    ∀ keys k typed edit, InsertedAs settings (keys ++ [k]) (typed ++ [edit]) →
      Edit.Each settings (Edit.Mirrored settings) [] typed →
      (register (keys ++ [k]) = .ok (.ofChars (Edit.left settings (typed ++ [edit]))) ↔
        Edit.Mirrored settings (Edit.left settings typed) edit) := by
  intro t n settings register
  have hplaced : engine.editor.document.Placed := (h.sound.healthy.ready hmode).rests.placed
  have hall {keys : List Key} {typed : List Edit} (htyped : InsertedAs settings keys typed) :=
    standsAt_insertion hmode hread hplaced hempty htyped
  -- where each key notes what it leaves, the keys note what they leave
  have hmirrored {keys : List Key} {typed : List Edit} (htyped : InsertedAs settings keys typed)
      (hmirrors : Edit.Each settings (Edit.Mirrored settings) [] typed) :
      register keys = .ok (.ofChars (Edit.left settings typed)) := by
    refine (hall htyped).2.2.trans ?_
    rw [Edit.typedText_eq_foldl, Edit.left, htyped.fits.left_eq hmirrors]
  refine ⟨fun keys typed htyped => hall htyped, fun keys typed htyped hexpand halone => ?_,
    fun keys typed htyped => hmirrored htyped, fun keys k typed edit htyped hmirrors => ?_⟩
  · have hnone : Edit.Loose [] := fun c hc => absurd hc List.not_mem_nil
    exact hmirrored htyped (hnone.each_mirrored hexpand halone)
  · obtain ⟨hfits, hfit, -⟩ := Edit.each_append.1 htyped.fits
    -- the last key is noted behind what was noted before, and leaves behind what was left before
    have hnote : Edit.typedText (typed ++ [edit]) =
        Edit.note (Edit.left settings typed) edit := by
      rw [Edit.typedText_eq_foldl, List.foldl_concat, Edit.left, hfits.left_eq hmirrors]
    have hleft : Edit.left settings (typed ++ [edit]) =
        Edit.leave settings (Edit.left settings typed) edit := List.foldl_concat ..
    have hiff : Edit.leave settings (Edit.left settings typed) edit =
        Edit.note (Edit.left settings typed) edit ↔ _ := Edit.leave_eq_note_iff hfit
    rw [show register (keys ++ [k]) = _ from (hall htyped).2.2, hnote, hleft, ← hiff]
    constructor
    · intro heq
      injection heq with heq
      injection heq with heq
      exact heq.symm
    · intro heq
      rw [heq]

/-- A letter that is taken back is taken out of the register. A letter with an accent is one cluster,
which a backspace key takes back, and the register keeps the letter. -/
theorem last_insert_accent :
    let engine := ofBuffer (.ofText []) {}
    let register (keys : List Key) :=
      (engine.run (insertion keys true)).1.editor.registers.get (some '.')
    let letters : List Key := [.ofChar 'a', .ofChar 'b', .ofCode .backspace]
    let accented : List Key := [.ofChar 'e', .ofChar '\u0301']
    (engine.Reachable ∧ engine.editor.mode = .normal ∧
      (engine.reader.read engine.editor.mode (.ofChar 'i')).2 = some (.enterInsert .insert 1) ∧
      engine.editor.document.line engine.editor.document.cursor.row = []) ∧
    register letters = .ok (.ofChars ['a']) ∧
    register accented = .ok (.ofChars ['e', '\u0301']) ∧
    (engine.run (insertion (accented ++ [.ofCode .backspace]) true)).1.editor.document.buffer.text =
      [] ∧
    register (accented ++ [.ofCode .backspace]) = .ok (.ofChars ['e']) ∧
    register (accented ++ [.ofCode .backspace]) ≠ .ok (.ofChars []) := by
  intro engine register letters accented
  -- the mark is a character of its own and belongs to the cluster before, so erasing takes two
  -- characters and notes one
  have hreachable : engine.Reachable := ⟨_, _, [], rfl⟩
  obtain ⟨hall, halone, hmirrored, hlast⟩ := hreachable.last_insert rfl rfl rfl
  have htyped : InsertedAs {} (accented ++ [.ofCode .backspace])
      ([.insertChar 'e', .insertChar '\u0301'] ++ [.backspace]) := ⟨rfl, by decide +kernel⟩
  have hleft : Edit.left {} ([.insertChar 'e', .insertChar '\u0301'] ++ [.backspace]) = [] := by
    decide +kernel
  have hletters : Edit.left {} [.insertChar 'a', .insertChar 'b', .backspace] = ['a'] := by
    decide +kernel
  obtain ⟨-, htext, hregister⟩ := hall _ _ htyped
  refine ⟨⟨hreachable, rfl, rfl, rfl⟩, ?_, ?_, ?_, hregister, ?_⟩
  · refine hletters ▸ halone letters [.insertChar 'a', .insertChar 'b', .backspace]
      ⟨rfl, by decide +kernel⟩ rfl fun c hc => ?_
    obtain rfl | rfl : c = 'a' ∨ c = 'b' := by simpa using hc
    · decide
    · decide
  · exact hmirrored accented [.insertChar 'e', .insertChar '\u0301'] ⟨rfl, by decide⟩ (by decide)
  · exact htext.trans (by decide +kernel)
  · intro heq
    rw [← hleft] at heq
    have hone := (hlast accented _ _ _ htyped (by decide)).1 heq
    exact absurd hone (by decide +kernel)

/-- A tab that is typed as spaces. -/
theorem last_insert_ne :
    ¬ ∀ (engine : Engine) (keys : List Key) (typed : List Edit) (u : Text), engine.Reachable →
      engine.editor.mode = .normal →
      (engine.reader.read engine.editor.mode (.ofChar 'i')).2 = some (.enterInsert .insert 1) →
      engine.editor.document.line engine.editor.document.cursor.row = [] →
      InsertedAs engine.editor.settings keys typed →
      (engine.run (insertion keys true)).1.editor.document.buffer.text =
        engine.editor.document.buffer.text.take
            (engine.editor.document.buffer.charIndex engine.editor.document.cursor) ++ u ++
          engine.editor.document.buffer.text.drop
            (engine.editor.document.buffer.charIndex engine.editor.document.cursor) →
      (engine.run (insertion keys true)).1.editor.registers.get (some '.') = .ok (.ofChars u) := by
  intro h
  have hwrong := h (ofBuffer (.ofText []) { expandTab := true }) [.ofCode .tab] [.tab] (spaces 4)
    ⟨_, _, [], rfl⟩ rfl rfl rfl ⟨rfl, by decide⟩ (by decide +kernel)
  injection hwrong with hwrong
  injection hwrong with hwrong
  exact absurd hwrong (by decide +kernel)

end Engine

end ModalEditor
