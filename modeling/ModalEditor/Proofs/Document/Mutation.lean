import ModalEditor.Proofs.Document.Index
import ModalEditor.Proofs.Document.Operations
import ModalEditor.Proofs.Document.Replace
import ModalEditor.Proofs.Document.Row

/-!
# Mutations without an effect

Every mutation looks at its arguments first, and leaves the document alone where they show that
nothing would change. Where it goes on, the text does change, with two exceptions
(`Mutation.InVain`): the only line of an empty text is deleted, which leaves an empty line again; and
a text is replaced by another one that gives the same text together with characters that the
replacement carries along. Both are recorded although nothing changed (`Mutation.apply_spec`).
-/

namespace ModalEditor

namespace Buffer

/-! ## What changes the text -/

variable {b : Buffer}

/-- Buffers with the same text are the same, since the text determines the lines. -/
theorem eq_of_text {b b' : Buffer} (h : b.text = b'.text) : b = b' := by
  rw [← ofText_text b, h, ofText_text]

/-- Text that is put in makes the buffer longer. -/
theorem insert_ne {s : Text} (hs : s ≠ []) (p : Position) : (b.insert p s).1 ≠ b := by
  intro heq
  have hlength := congrArg (fun b' => b'.text.length) heq
  have hpos : 0 < s.length := List.length_pos_iff.2 hs
  have hsplit := congrArg List.length (List.take_append_drop (b.charIndex p) b.text)
  simp only [text_insert, List.length_append] at hlength hsplit
  omega

/-- Text that is taken out makes the buffer shorter. -/
theorem remove_ne {p q : Position} (hlt : b.clamp p < b.clamp q) : (b.remove p q).1 ≠ b := by
  intro heq
  obtain ⟨hle, -, htext⟩ := text_remove_index fun h => Position.lt_asymm hlt h
  -- positions that differ have different numbers of characters before them
  have hindex : b.charIndex p ≠ b.charIndex q := by
    intro hsame
    rw [← b.positionOf_charIndex p, ← b.positionOf_charIndex q, hsame] at hlt
    exact Position.lt_irrefl _ hlt
  have hlength := congrArg List.length ((congrArg text heq).symm.trans htext)
  have hend := b.charIndex_le q
  rw [List.length_append, List.length_take, List.length_drop] at hlength
  omega

/-- There is one row more than the index of the last. -/
theorem lineCount_eq (b : Buffer) : b.lineCount = b.lastRow + 1 := by
  have hpos := b.lineCount_pos
  rw [lastRow]
  omega

/-- Removed rows are gone, but the last row that there is stays as an empty one. -/
theorem lineCount_removeLines {first last : Nat} (hfirst : first ≤ b.lastRow) (hle : first ≤ last) :
    (b.removeLines first last).1.lineCount = max 1 (first + (b.lastRow - min last b.lastRow)) := by
  have hlines := lines_removeLines hfirst hle
  have hcount : b.lines.length = b.lastRow + 1 := b.lineCount_eq
  have hkept : (b.lines.take first ++ b.lines.drop (min last b.lastRow + 1)).length =
      first + (b.lastRow - min last b.lastRow) := by
    rw [List.length_append, List.length_take, List.length_drop]
    omega
  show (b.removeLines first last).1.lines.length = _
  rw [hlines]
  split
  · rename_i hnone
    rw [hnone, List.length_nil] at hkept
    rw [← hkept]
    rfl
  · rename_i hsome
    have hpos := List.length_pos_iff.2 hsome
    rw [hkept] at hpos ⊢
    exact (Nat.max_eq_right hpos).symm

/-- Rows that are removed leave the same text only if it was empty. -/
theorem removeLines_eq_iff {first last : Nat} (hfirst : first ≤ b.lastRow) (hle : first ≤ last) :
    (b.removeLines first last).1 = b ↔ first = 0 ∧ b.text = [] := by
  have hlines := lines_removeLines hfirst hle
  have hcount := lineCount_removeLines hfirst hle
  have hlength : b.lines.length = b.lastRow + 1 := b.lineCount_eq
  constructor
  -- as many rows as before are left only where the last one was removed and stays empty
  · intro heq
    rw [heq, b.lineCount_eq] at hcount
    have hlast : b.lastRow = 0 := by omega
    have hzero : first = 0 := by omega
    have hkept : b.lines.take first ++ b.lines.drop (min last b.lastRow + 1) = [] := by
      rw [hzero, List.take_zero, List.nil_append, List.drop_eq_nil_iff]
      omega
    simp only at hlines
    rw [heq, if_pos hkept] at hlines
    exact ⟨hzero, by rw [text, hlines]; rfl⟩
  · rintro ⟨rfl, htext⟩
    have hone : b.lines = [[]] := by
      have hof := b.ofText_text
      rw [htext] at hof
      exact (congrArg lines hof).symm
    refine ext (hlines.trans ?_)
    rw [hone]
    simp

/-- Rows that are put in make the buffer longer. -/
theorem insertLines_ne {ls : List Text} (hls : ls ≠ []) (row : Nat) : b.insertLines row ls ≠ b := by
  intro heq
  have hempty : ¬ ls.isEmpty = true := by
    rw [List.isEmpty_iff]
    exact hls
  have hlength := congrArg (fun b' => b'.lines.length) heq
  have hsplit := congrArg List.length (List.take_append_drop row b.lines)
  have hmore : 0 < (splitLines (joinLines ls)).length :=
    List.length_pos_iff.2 (splitLines_ne_nil _)
  simp only [insertLines, if_neg hempty, lines_replaceRows, List.length_append] at hlength hsplit
  omega

/-- A row that is written is another one. -/
theorem setLine_ne {row : Nat} (hrow : row < b.lineCount) {s : Text} (hs : b.line row ≠ s) :
    b.setLine row s ≠ b := by
  intro heq
  have hlines := congrArg lines heq
  rw [setLine, if_pos hrow, lines_replaceRows] at hlines
  have hsame := hlines.trans (lines_eq_append hrow)
  rw [← List.singleton_append, ← List.append_assoc] at hsame
  have hline := List.append_cancel_left (List.append_cancel_right hsame)
  apply hs
  rw [← joinLines_splitLines s, hline]
  rfl

/-- The rows between two others are lines of the buffer. -/
theorem mem_of_mem_rows {first last : Nat} {l : Text} (h : l ∈ b.rows first last) : l ∈ b.lines :=
  List.mem_of_mem_take (List.mem_of_mem_drop h)

/-- What is removed and put in depends on the nearest places in the text only. -/
theorem remove_clamp (b : Buffer) (p q : Position) :
    b.remove (b.clamp p) (b.clamp q) = b.remove p q := by
  simp only [remove, slice, clamp_clamp]

/-- The characters in front of a position that come to stand behind a text which takes the place of
that up to another position: those behind the place to which the position is brought once the text
between the two is removed. -/
def carried (b : Buffer) (first past : Position) : Text :=
  (b.text.take (b.charIndex first)).drop ((b.remove first past).1.charIndex (b.clamp first))

/-- A replacement gives the same text exactly if old and new text are the same but for what is
carried along. -/
theorem insert_remove_eq_iff (b : Buffer) {first past : Position} {s : Text}
    (hs : b.slice first past ≠ s) :
    ((b.remove first past).1.insert (b.clamp first) s).1 = b ↔
      s ++ b.carried first past = b.carried first past ++ b.slice first past := by
  by_cases hle : b.clamp past < b.clamp first
  · -- positions that are not in order have nothing between them
    have hnot : ¬ b.clamp first < b.clamp past := Position.lt_asymm hle
    have hslice : b.slice first past = [] := by simp only [slice, if_neg hnot]
    have hremove : (b.remove first past).1 = b := by simp only [remove, if_neg hnot]
    have hcarried : b.carried first past = [] := by
      rw [carried, hremove, charIndex_clamp, List.drop_eq_nil_iff, List.length_take]
      exact Nat.min_le_left _ _
    rw [hslice] at hs
    rw [hremove, hcarried, hslice, List.append_nil, List.append_nil]
    exact iff_of_false (insert_ne (Ne.symm hs) _) (Ne.symm hs)
  · obtain ⟨hij, hslice, -⟩ := text_remove_index hle
    have hfirst := b.clamp_clamp first
    have hpast := b.clamp_clamp past
    have hk := (charIndex_remove hfirst hpast).1
    have htext := text_insert_remove hfirst hpast hle s
    simp only [remove_clamp, charIndex_clamp] at hk htext
    have hold : b.text = b.text.take ((b.remove first past).1.charIndex (b.clamp first)) ++
        b.carried first past ++ b.slice first past ++ b.text.drop (b.charIndex past) := by
      rw [carried, ← take_eq_append b.text hk, hslice, ← take_eq_append b.text hij,
        List.take_append_drop]
    have hnew : ((b.remove first past).1.insert (b.clamp first) s).1 = b ↔
        ((b.remove first past).1.insert (b.clamp first) s).1.text = b.text :=
      ⟨congrArg text, eq_of_text⟩
    rw [hnew, htext]
    conv_lhs => rhs; rw [hold]
    rw [← carried]
    simp only [List.append_assoc, List.append_cancel_left_eq]
    rw [← List.append_assoc, ← List.append_assoc (b.carried first past),
      List.append_cancel_right_eq]

end Buffer

/-! ## The mutations -/

/-- A mutation of a document, with its arguments. -/
inductive Mutation where
  | insertAt (p : Position) (s : Text)
  | deleteRange (first past : Position)
  | replaceRange (first past : Position) (s : Text)
  | deleteLines (first last : Nat)
  | insertLines (row : Nat) (ls : List Text)
  | setLine (row : Nat) (s : Text)
  | joinLines (row n : Nat) (spaced : Bool)
  deriving DecidableEq, Repr

namespace Mutation

/-- The document after a mutation. A join that fails leaves it as it is. -/
def apply (d : Document) : Mutation → Document
  | .insertAt p s => (d.insertAt p s).1
  | .deleteRange first past => (d.deleteRange first past).1
  | .replaceRange first past s => (d.replaceRange first past s).1
  | .deleteLines first last => (d.deleteLines first last).1
  | .insertLines row ls => d.insertLines row ls
  | .setLine row s => d.setLine row s
  | .joinLines row n spaced => (d.joinLines row n spaced).getD d

/-- The mutation does not see that it changes nothing: it deletes the only line of an empty text, or
replaces a text by another one that differs from it by what is carried along. -/
def InVain (d : Document) : Mutation → Prop
  | .deleteLines first _ => first = 0 ∧ d.buffer.text = []
  | .replaceRange first past s =>
    d.buffer.slice first past ≠ s ∧
      s ++ d.buffer.carried first past =
        d.buffer.carried first past ++ d.buffer.slice first past
  | _ => False

end Mutation

namespace Document

variable {d : Document}

/-! ### Each mutation on its own -/

/-- An insertion that leaves the text leaves the document. -/
theorem insertAt_eq_self {p : Position} {s : Text} (h : (d.insertAt p s).1.buffer = d.buffer) :
    (d.insertAt p s).1 = d := by
  by_cases hs : s.isEmpty
  · simp only [insertAt, if_pos hs]
  · have hne : s ≠ [] := fun hnil => hs (List.isEmpty_iff.2 hnil)
    simp only [insertAt, if_neg hs] at h
    exact absurd h (Buffer.insert_ne hne p)

/-- A deletion that leaves the text leaves the document. -/
theorem deleteRange_eq_self {first past : Position}
    (h : (d.deleteRange first past).1.buffer = d.buffer) : (d.deleteRange first past).1 = d := by
  by_cases hlt : d.buffer.clamp first < d.buffer.clamp past
  · simp only [deleteRange, if_pos hlt] at h
    exact absurd h (Buffer.remove_ne hlt)
  · simp only [deleteRange, if_neg hlt]

/-- Rows that leave the text were none. -/
theorem insertLines_eq_self {row : Nat} {ls : List Text}
    (h : (d.insertLines row ls).buffer = d.buffer) : d.insertLines row ls = d := by
  by_cases hls : ls.isEmpty
  · rw [insertLines, if_pos hls]
  · have hne : ls ≠ [] := fun hnil => hls (List.isEmpty_iff.2 hnil)
    rw [insertLines, if_neg hls] at h
    exact absurd h (Buffer.insertLines_ne hne row)

/-- A row that leaves the text was the same before. -/
theorem setLine_eq_self {row : Nat} {s : Text} (h : (d.setLine row s).buffer = d.buffer) :
    d.setLine row s = d := by
  by_cases hs : d.lastRow < row ∨ d.line row = s
  · rw [setLine, if_pos hs]
  · rw [setLine, if_neg hs] at h
    obtain ⟨hrow, hline⟩ := not_or.1 hs
    exact absurd h (Buffer.setLine_ne (Buffer.lt_lineCount.2 (Nat.not_lt.1 hrow)) hline)

/-- A replacement by another text is a mutation, of which nothing is known but that the texts differ. -/
theorem replaceRange_of_ne {first past : Position} {s : Text}
    (hs : d.buffer.slice first past ≠ s) :
    (d.replaceRange first past s).1 =
      d.mutate ((d.buffer.remove first past).1.insert (d.buffer.clamp first) s).1 := by
  have hslice : d.buffer.slice (d.buffer.clamp first) past = d.buffer.slice first past := by
    simp only [Buffer.slice, Buffer.clamp_clamp]
  have hremove : d.buffer.remove (d.buffer.clamp first) past = d.buffer.remove first past := by
    simp only [Buffer.remove, Buffer.clamp_clamp, hslice]
  simp only [replaceRange, hslice, if_neg hs, hremove]

/-- A replacement by the same text is none. -/
theorem replaceRange_of_eq {first past : Position} {s : Text}
    (hs : d.buffer.slice first past = s) : (d.replaceRange first past s).1 = d := by
  have hslice : d.buffer.slice (d.buffer.clamp first) past = s := by
    rw [← hs]
    simp only [Buffer.slice, Buffer.clamp_clamp]
  simp only [replaceRange, if_pos hslice]

/-- Joined lines are a line, with or without a blank between them. -/
theorem isLine_joinPart {joined next : Text} (hjoined : IsLine joined) (hnext : IsLine next)
    (spaced : Bool) : IsLine (joinPart spaced joined next) := by
  have hpart : IsLine (next.dropWhile Unicode.isBlank) := fun hmem =>
    hnext ((List.dropWhile_sublist _).subset hmem)
  have hspace :
      IsLine (if needsSpace joined (next.dropWhile Unicode.isBlank) then [' '] else []) := by
    split
    · exact fun hmem => absurd (List.mem_singleton.1 hmem) (by decide)
    · exact List.not_mem_nil
  cases spaced with
  | true => exact isLine_append (isLine_append hjoined hspace) hpart
  | false => exact isLine_append hjoined hnext

/-- Lines that are joined make one line. -/
theorem isLine_joinAll {spaced : Bool} {joined : Text} (hjoined : IsLine joined) (column : Nat)
    {later : List Text} (hlater : ∀ l ∈ later, IsLine l) :
    IsLine (joinAll spaced joined column later).1 := by
  induction later generalizing joined column with
  | nil => exact hjoined
  | cons next later ih =>
    exact ih (isLine_joinPart hjoined (hlater next List.mem_cons_self) spaced) _
      fun l hl => hlater l (List.mem_cons_of_mem _ hl)

/-- After a mutation the buffer is what was asked for, wherever the cursor goes. -/
theorem buffer_mutate_setCursor (d : Document) (b : Buffer) (p : Position) (c : CursorContext) :
    ((d.mutate b).setCursor p c).buffer = b := rfl

/-- Lines that are joined are fewer afterwards. -/
theorem joinLines_buffer_ne {d' : Document} {row n : Nat} {spaced : Bool}
    (h : d.joinLines row n spaced = some d') : d'.buffer ≠ d.buffer := by
  rw [joinLines_eq] at h
  split at h
  · cases h
  · rename_i hrow
    simp only [Option.some.injEq] at h
    have hbuffer := congrArg buffer h
    rw [buffer_mutate_setCursor] at hbuffer
    have hfirst : row + 1 ≤ d.buffer.lastRow := Nat.not_le.1 hrow
    have hle : row + 1 ≤ min (row + max n 2 - 1) d.lastRow := Nat.le_min.2 ⟨by omega, hfirst⟩
    generalize min (row + max n 2 - 1) d.lastRow = last at hbuffer hle
    have hline : IsLine (joinAll spaced (d.line row) 0 (d.buffer.rows (row + 1) last)).1 :=
      isLine_joinAll (d.buffer.isLine_line row) 0 fun _ hmem =>
        d.buffer.isLine _ (Buffer.mem_of_mem_rows hmem)
    intro heq
    have hcount := congrArg Buffer.lineCount (hbuffer.trans heq)
    rw [Buffer.lineCount_setLine _ _ hline, Buffer.lineCount_removeLines hfirst hle,
      d.buffer.lineCount_eq] at hcount
    omega

end Document

/-- **What a mutation records.** A mutation that leaves the text as it was leaves the whole document
as it was, unless it is in vain: then it counts up the revision and records the state before it. -/
theorem Mutation.apply_spec (d : Document) (m : Mutation) :
    ((m.apply d).buffer = d.buffer → ¬ m.InVain d → m.apply d = d) ∧
      (m.InVain d → (m.apply d).buffer = d.buffer ∧
        (m.apply d).revision = d.revision + 1 ∧ (m.apply d).history = d.recordChange.history) := by
  -- most mutations ask first whether there is anything to do; the other two can come to the same text
  -- again
  cases m with
  | insertAt p s => exact ⟨fun h _ => Document.insertAt_eq_self h, False.elim⟩
  | deleteRange first past => exact ⟨fun h _ => Document.deleteRange_eq_self h, False.elim⟩
  | insertLines row ls => exact ⟨fun h _ => Document.insertLines_eq_self h, False.elim⟩
  | setLine row s => exact ⟨fun h _ => Document.setLine_eq_self h, False.elim⟩
  | joinLines row n spaced =>
    refine ⟨fun h _ => ?_, False.elim⟩
    cases hjoin : d.joinLines row n spaced with
    | none =>
      rw [apply, hjoin]
      rfl
    | some d' =>
      rw [apply, hjoin] at h
      exact absurd h (Document.joinLines_buffer_ne hjoin)
  | replaceRange first past s =>
    by_cases hs : d.buffer.slice first past = s
    · exact ⟨fun _ _ => Document.replaceRange_of_eq hs, fun hvain => absurd hs hvain.1⟩
    -- the text that is put in may be the one that was taken out, if a clamp moved it
    · have hiff := d.buffer.insert_remove_eq_iff hs
      rw [apply, Document.replaceRange_of_ne hs]
      exact ⟨fun h hvain => absurd ⟨hs, hiff.1 h⟩ hvain, fun hvain =>
        ⟨hiff.2 hvain.2, d.recordChange_revision, rfl⟩⟩
  | deleteLines first last =>
    -- rows that are no range are no rows to delete, and the rows of an empty buffer come back
    by_cases hnone : d.lastRow < first ∨ last < first
    · have hsame : (d.deleteLines first last).1 = d := by
        simp only [Document.deleteLines, if_pos hnone]
      refine ⟨fun _ _ => hsame, fun hvain => ?_⟩
      rw [hvain.1] at hnone
      exact absurd hnone (not_or.2 ⟨Nat.not_lt_zero _, Nat.not_lt_zero _⟩)
    · obtain ⟨hfirst, hlast⟩ := not_or.1 hnone
      have hiff := Buffer.removeLines_eq_iff (Nat.not_lt.1 hfirst) (Nat.not_lt.1 hlast)
      have hmutate :
          (d.deleteLines first last).1 = d.mutate (d.buffer.removeLines first last).1 := by
        simp only [Document.deleteLines, if_neg hnone]
      rw [apply, hmutate]
      exact ⟨fun h hvain => absurd (hiff.1 h) hvain, fun hvain =>
        ⟨hiff.2 hvain, d.recordChange_revision, rfl⟩⟩

/-- A deletion of nothing is not recorded. The deletion of the only line of an empty text is, and so
is the replacement of letters by others which the flag behind them completes to the same text. -/
theorem Mutation.apply_spec_empty :
    let empty : Document := { buffer := .ofText [] }
    let x := Char.ofNat 0x1F1E6
    let flags : Document := { buffer := .ofText [x, 'a', x, x, x] }
    let replacement := Mutation.replaceRange ⟨0, 4⟩ ⟨0, 13⟩ [x, 'a', x]
    ¬ (Mutation.deleteRange ⟨0, 0⟩ ⟨0, 3⟩).InVain empty ∧
      (Mutation.deleteRange ⟨0, 0⟩ ⟨0, 3⟩).apply empty = empty ∧
      (Mutation.deleteLines 0 0).InVain empty ∧
      ((Mutation.deleteLines 0 0).apply empty).revision = 1 ∧
      replacement.InVain flags ∧ (replacement.apply flags).revision = 1 := by
  intro empty x flags replacement
  have hlines : (Mutation.deleteLines 0 0).InVain empty := ⟨rfl, rfl⟩
  have hreplacement : replacement.InVain flags := ⟨by decide +kernel, by decide +kernel⟩
  exact ⟨id, (Mutation.apply_spec empty (.deleteRange ⟨0, 0⟩ ⟨0, 3⟩)).1 (by decide +kernel) id,
    hlines, ((Mutation.apply_spec empty (.deleteLines 0 0)).2 hlines).2.1,
    hreplacement, ((Mutation.apply_spec flags replacement).2 hreplacement).2.1⟩

/-- Not every mutation without an effect records nothing: an empty text whose only line is deleted can
be undone once. -/
theorem Mutation.apply_spec_ne :
    ¬ ∀ (d : Document) (m : Mutation), (m.apply d).buffer = d.buffer →
      (m.apply d).revision = d.revision ∧ (m.apply d).history = d.history := by
  intro h
  have hwrong := h { buffer := .ofText [] } (.deleteLines 0 0) (by decide +kernel)
  exact absurd hwrong.1 (by decide +kernel)

end ModalEditor
