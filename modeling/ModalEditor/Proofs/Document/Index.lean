import ModalEditor.Proofs.Document.Replace

/-!
# Places by number

A place inside a buffer is the one that has so many characters before it (`positionOf_textBefore`),
and every number up to the length of
the text has such a place (`inside_positionOf`). Text that is put in ends where its last
character says (`insert_snd`).

What is typed goes to the cluster boundary before the cursor (`typingIndex`). A document whose cursor
has `n` characters of the text before it (`Document.StandsAt`) is one again when text was put in, and
the numbers say where (`Document.StandsAt.insertText`).
-/

namespace ModalEditor

namespace Buffer

/-! ## Numbers and places -/

/-- The number of a place leads back to it. -/
theorem positionIn_charsOf {lines : List Text} {row col : Nat} {l : Text} (hl : lines[row]? = some l)
    (hcol : isCharBoundary l col = true) :
    positionIn lines (charsOf (lines.take row) + (takeBytes l col).length) = ⟨row, col⟩ := by
  have hshorter : (takeBytes l col).length ≤ l.length := (takeBytes_isPrefix l col).length_le
  induction lines generalizing row with
  | nil => cases hl
  | cons first later ih =>
    cases row with
    | zero =>
      obtain rfl : first = l := Option.some.inj hl
      have hsize : byteSize (first.take (takeBytes first col).length) = col := by
        rw [← List.prefix_iff_eq_take.1 (takeBytes_isPrefix first col), byteSize_takeBytes hcol]
      rw [List.take_zero, charsOf, Nat.zero_add]
      cases later with
      | nil => rw [positionIn, hsize]
      | cons m later => rw [positionIn, if_pos hshorter, hsize]
    | succ row =>
      obtain ⟨m, later, rfl⟩ := List.exists_cons_of_ne_nil (l := later) fun hnil => by
        rw [hnil] at hl
        cases hl
      have hpast : ¬ first.length + 1 + charsOf ((m :: later).take row) +
          (takeBytes l col).length ≤ first.length := by omega
      have hrest : first.length + 1 + charsOf ((m :: later).take row) + (takeBytes l col).length -
          (first.length + 1) = charsOf ((m :: later).take row) + (takeBytes l col).length := by omega
      rw [List.take_succ_cons, charsOf, positionIn, if_neg hpast, hrest, ih hl]

/-- Every number up to that of the characters is that of a place between characters. -/
theorem positionIn_spec {lines : List Text} (hne : lines ≠ []) {n : Nat}
    (hn : n ≤ (joinLines lines).length) :
    ∃ l u, lines[(positionIn lines n).row]? = some l ∧ u <+: l ∧
      (positionIn lines n).col = byteSize u ∧
      charsOf (lines.take (positionIn lines n).row) + u.length = n := by
  induction lines generalizing n with
  | nil => exact absurd rfl hne
  | cons first later ih =>
    have hfirst (hle : n ≤ first.length) : charsOf [] + (first.take n).length = n := by
      rw [List.length_take_of_le hle, charsOf, Nat.zero_add]
    cases later with
    | nil => exact ⟨first, first.take n, rfl, List.take_prefix _ _, rfl, hfirst hn⟩
    | cons m later =>
      rw [positionIn]
      split
      · rename_i hle
        exact ⟨first, first.take n, rfl, List.take_prefix _ _, rfl, hfirst hle⟩
      · rename_i hpast
        rw [joinLines, List.length_append, List.length_cons] at hn
        obtain ⟨l, u, hl, hu, hcol, hcount⟩ :=
          ih (List.cons_ne_nil m later) (n := n - (first.length + 1)) (by omega)
        refine ⟨l, u, hl, hu, hcol, ?_⟩
        dsimp only
        rw [List.take_succ_cons, charsOf]
        omega

variable {b : Buffer} {p : Position}

/-- A place inside is the one with so many characters before it. -/
theorem positionOf_textBefore (hp : b.Inside p) : b.positionOf (b.textBefore p).length = p := by
  rw [textBefore, List.length_append, length_flatMap_break]
  exact positionIn_charsOf (getElem?_lines hp.row) hp.boundary

/-- A place's number gives the place in the buffer that is closest. -/
theorem positionOf_charIndex (b : Buffer) (p : Position) :
    b.positionOf (b.charIndex p) = b.clamp p := by
  rw [← length_textBefore, positionOf_textBefore (b.inside_clamp p)]

/-- The place with so many characters before it is inside, if there are as many. -/
theorem inside_positionOf {n : Nat} (hn : n ≤ b.text.length) :
    b.Inside (b.positionOf n) ∧ (b.textBefore (b.positionOf n)).length = n := by
  obtain ⟨l, u, hl, ⟨v, rfl⟩, hcol, hcount⟩ := positionIn_spec b.lines_ne_nil hn
  have hline : b.line (b.positionOf n).row = u ++ v := by
    rw [line, line?, positionOf, hl, Option.getD_some]
  have hcol' : (b.positionOf n).col = byteSize u := hcol
  refine ⟨⟨List.getElem?_eq_some_iff.1 hl |>.1, ?_, ?_⟩, ?_⟩
  · rw [lineSize, hline, hcol', byteSize_append]
    exact Nat.le_add_right _ _
  · rw [hline, hcol']
    exact isCharBoundary_append u v
  · rw [textBefore, lineBefore, hline, hcol', takeBytes_append_byteSize, List.length_append,
      length_flatMap_break]
    exact hcount

/-- The nearest place of a place inside is not behind it. -/
theorem charIndex_le_length_textBefore (hp : b.Inside p) :
    b.charIndex p ≤ (b.textBefore p).length := by
  have hclamp : b.clamp p = ⟨p.row, floorBoundary (b.line p.row) p.col⟩ := clamp_row hp.row p.col
  have hrow : (b.clamp p).row = p.row := by rw [hclamp]
  have hcol : (b.clamp p).col ≤ byteSize (b.lineBefore p) := by
    rw [byteSize_lineBefore hp, hclamp]
    exact floorIn_le _ _
  have hline : (takeBytes (b.line p.row) (b.clamp p).col).length ≤ (b.lineBefore p).length := by
    rw [line_eq_append b p, takeBytes_append_of_le hcol]
    exact (takeBytes_isPrefix _ _).length_le
  rw [← length_textBefore, textBefore, textBefore, lineBefore, hrow, List.length_append,
    List.length_append]
  exact Nat.add_le_add_left hline _

/-! ## Text that is put in -/

/-- In front of the place behind text that was put in is what was in front of it, and that text. -/
theorem textBefore_insert (b : Buffer) (p : Position) (s : Text) :
    (b.insert p s).1.textBefore (b.insert p s).2 = b.textBefore (b.clamp p) ++ s := by
  have hinside := b.inside_clamp p
  obtain ⟨front, last, first, rest, hs, -, hall⟩ :=
    splitLines_append (b.lineBefore (b.clamp p) ++ s) (b.lineBehind (b.clamp p))
  have hend : (b.insert p s).2 = ⟨(b.clamp p).row + front.length, byteSize last⟩ := by
    have hplace := endOf_eq (b.isLine_lineBefore (b.clamp p)) hs (b.clamp p).row
    rwa [byteSize_lineBefore hinside] at hplace
  have hline : (b.insert p s).1.line ((b.clamp p).row + front.length) = last ++ first :=
    (b.line_replaceRows (Nat.le_of_lt hinside.row) ((b.clamp p).row + 1) hall).2
  have htake : (b.insert p s).1.lines.take ((b.clamp p).row + front.length) =
      b.lines.take (b.clamp p).row ++ front := by
    rw [insert, lines_replaceRows, hall, ← List.append_assoc, List.append_assoc _ (_ :: _)]
    refine List.take_left' ?_
    rw [List.length_append, length_take_lines (Nat.le_of_lt hinside.row)]
  -- the rows of what is in front of the place, with the text in the last of them
  have htyped : front.flatMap (· ++ ['\n']) ++ last = b.lineBefore (b.clamp p) ++ s := by
    have hjoin := joinLines_append front last [] []
    rw [List.append_nil, joinLines, List.append_nil] at hjoin
    rw [← hjoin, ← hs, joinLines_splitLines]
  rw [hend, textBefore, htake, lineBefore, hline, takeBytes_append_byteSize,
    List.flatMap_append, List.append_assoc,
    htyped, textBefore, List.append_assoc]

/-- The place behind text that was put in, by its number. -/
theorem insert_snd (b : Buffer) (p : Position) (s : Text) :
    (b.insert p s).2 = (b.insert p s).1.positionOf (b.charIndex p + s.length) := by
  rw [← length_textBefore, ← List.length_append, ← textBefore_insert,
    positionOf_textBefore (b.inside_insert p s)]

/-- The number of the place at which text is put in that is typed behind `n` characters of a text:
that of the cluster boundary there, or of the one before. -/
def typingIndex (t : Text) (n : Nat) : Nat :=
  (ofText t).charIndex ((ofText t).positionOf n)

/-- The number where typing goes is not behind the one asked for. -/
theorem typingIndex_le {t : Text} {n : Nat} (hn : n ≤ t.length) : typingIndex t n ≤ n := by
  rw [← text_ofText t] at hn
  obtain ⟨hinside, hlength⟩ := inside_positionOf hn
  have hle := charIndex_le_length_textBefore hinside
  rwa [hlength] at hle

end Buffer

namespace Document

open Buffer (typingIndex)

/-- The document has this text, and its cursor this many characters before it. -/
structure StandsAt (d : Document) (t : Text) (n : Nat) : Prop where
  text : d.buffer.text = t
  placed : d.Placed
  index : (d.buffer.textBefore d.cursor).length = n

namespace StandsAt

variable {d : Document} {t : Text} {n : Nat} (h : d.StandsAt t n)
include h

/-- The cursor's number is where typing goes. -/
theorem charIndex_cursor : d.buffer.charIndex d.cursor = typingIndex t n := by
  rw [typingIndex, ← h.text, Buffer.ofText_text, ← h.index, Buffer.positionOf_textBefore h.placed]

/-- The number is within the text. -/
theorem le_length : n ≤ t.length := by
  have htext := d.buffer.textBefore_append_textBehind h.placed.row
  rw [← h.text, ← htext, ← h.index, List.length_append]
  exact Nat.le_add_right _ _

/-- Opening a change leaves the place. -/
theorem beginChange : d.beginChange.StandsAt t n := by
  refine ⟨?_, h.placed.beginChange, ?_⟩
  · rw [beginChange_buffer]
    exact h.text
  · rw [beginChange_buffer, beginChange_cursor]
    exact h.index

/-- Text put in at the place stands there, and the place is behind it. -/
theorem insertText (s : Text) :
    (d.insertText s).StandsAt
      (t.take (typingIndex t n) ++ s ++ t.drop (typingIndex t n)) (typingIndex t n + s.length) := by
  have hplaced := placed_insertText d s
  rw [← h.charIndex_cursor, ← h.text]
  by_cases hs : s = []
  · subst hs
    refine ⟨?_, hplaced, d.buffer.length_textBefore d.cursor⟩
    rw [List.append_nil, List.take_append_drop]
    rfl
  · have hsome : ¬ s.isEmpty = true := fun hempty => hs (List.isEmpty_iff.1 hempty)
    have hinserted : (d.insertText s).buffer = (d.buffer.insert d.cursor s).1 ∧
        (d.insertText s).cursor = (d.buffer.insert d.cursor s).2 := by
      rw [Document.insertText, insertAt, if_neg hsome]
      exact ⟨rfl, rfl⟩
    refine ⟨?_, hplaced, ?_⟩
    · rw [hinserted.1]
      exact d.buffer.text_insert d.cursor s
    · rw [hinserted.1, hinserted.2, Buffer.textBefore_insert, List.length_append,
        Buffer.length_textBefore]

end StandsAt

/-- A cursor at rest is between clusters. -/
theorem Rests.clamp_cursor {d : Document} (h : d.Rests) : d.buffer.clamp d.cursor = d.cursor := by
  have hparts : Parts (clusters (d.line d.cursor.row)) d.cursor.col := by
    rcases h.startsCluster with ⟨hline, hcol⟩ | hstarts
    · rw [hcol]
      exact parts_zero _
    · exact hstarts.parts
  exact Buffer.clamp_of_parts h.placed.row hparts

/-- A cursor at rest stands at its own number. -/
theorem Rests.standsAt {d : Document} (h : d.Rests) :
    d.StandsAt d.buffer.text (d.buffer.charIndex d.cursor) where
  text := rfl
  placed := h.placed
  index := by
    have hlength := d.buffer.length_textBefore d.cursor
    rwa [h.clamp_cursor] at hlength

end Document

end ModalEditor
