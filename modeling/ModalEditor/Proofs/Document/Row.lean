import ModalEditor.Proofs.Document.Index
import ModalEditor.Proofs.Text.Overwrite

/-!
# Edits of one row

What is removed between two places of a row (`remove_row`), what is put into a row (`insert_row`) and
what takes the place of a part of it (`Document.replaceRange_row`) leaves the other rows alone, as long
as no line break is put in. Each of them is therefore a new text for the row and a column in it.
-/

namespace ModalEditor

namespace Buffer

variable {b : Buffer} {row : Nat}

/-- The index of a position is that of the place it is brought to. -/
theorem charIndex_clamp (b : Buffer) (p : Position) : b.charIndex (b.clamp p) = b.charIndex p := by
  simp only [charIndex, clamp_clamp]

/-- Writing a row leaves their number. -/
theorem lineCount_setLine (b : Buffer) (row : Nat) {l : Text} (hl : IsLine l) :
    (b.setLine row l).lineCount = b.lineCount := by
  rw [lineCount, lines_setLine b row hl, List.length_set]
  rfl

/-- A row that was written is what was written. -/
theorem line_setLine (hrow : row < b.lineCount) {l : Text} (hl : IsLine l) :
    (b.setLine row l).line row = l := by
  rw [line, line?, lines_setLine b row hl, List.getElem?_set_self hrow, Option.getD_some]

/-- Writing a row as it is leaves the buffer. -/
theorem setLine_line (hrow : row < b.lineCount) : b.setLine row (b.line row) = b := by
  refine ext ?_
  rw [lines_setLine b row (b.isLine_line row), set_lines hrow]
  exact (lines_eq_append hrow).symm

/-- Only what was written last remains. -/
theorem setLine_setLine (b : Buffer) (row : Nat) {l m : Text} (hl : IsLine l) (hm : IsLine m) :
    (b.setLine row l).setLine row m = b.setLine row m := by
  refine ext ?_
  rw [lines_setLine _ row hm, lines_setLine b row hl, lines_setLine b row hm, List.set_set]

/-- What is removed of a row. -/
theorem remove_row (hrow : row < b.lineCount) {first past : Nat}
    (hfirst : Parts (clusters (b.line row)) first) (hpast : Parts (clusters (b.line row)) past)
    (hle : first ≤ past) :
    (b.remove ⟨row, first⟩ ⟨row, past⟩).1 =
      b.setLine row (takeBytes (b.line row) first ++ dropBytes (b.line row) past) := by
  rcases Nat.lt_or_eq_of_le hle with hlt | rfl
  · refine ext ?_
    rw [lines_remove_row hrow hfirst hpast hlt, lines_setLine]
    exact isLine_append (isLine_takeBytes (b.isLine_line row) _)
      (isLine_dropBytes (b.isLine_line row) _)
  · rw [takeBytes_append_dropBytes, setLine_line hrow, remove, if_neg (Position.lt_irrefl _)]

/-- What is put into a row. -/
theorem insert_row (hrow : row < b.lineCount) (col : Nat) (t : Text) :
    (b.insert ⟨row, col⟩ t).1 =
      b.setLine row (takeBytes (b.line row) (floorBoundary (b.line row) col) ++ t ++
        dropBytes (b.line row) (floorBoundary (b.line row) col)) := by
  rw [setLine, if_pos hrow, insert, clamp_row hrow]
  rfl

/-- Inserting in a row ends in the row. -/
theorem insert_row_snd (hrow : row < b.lineCount) (col : Nat) {t : Text} (ht : IsLine t) :
    (b.insert ⟨row, col⟩ t).2 = ⟨row, floorBoundary (b.line row) col + byteSize t⟩ := by
  rw [insert, clamp_row hrow, endOf, splitLines_of_isLine ht]

/-- Text adds as many rows as it has line breaks. -/
theorem lineCount_insert (b : Buffer) (p : Position) (t : Text) :
    (b.insert p t).1.lineCount + 1 = b.lineCount + (splitLines t).length := by
  have hrow := (b.inside_clamp p).row
  have hbefore := splitLines_of_isLine (b.isLine_lineBefore (b.clamp p))
  have hbehind : splitLines (b.lineBehind (b.clamp p)) = [b.lineBehind (b.clamp p)] :=
    splitLines_of_isLine (isLine_dropBytes (b.isLine_line _) _)
  have hfirst := length_splitLines_append (b.lineBefore (b.clamp p)) t
  have hall := length_splitLines_append (b.lineBefore (b.clamp p) ++ t) (b.lineBehind (b.clamp p))
  rw [hbefore, List.length_singleton] at hfirst
  rw [hbehind, List.length_singleton] at hall
  rw [insert, lineCount, lines_replaceRows, List.length_append, List.length_append,
    length_take_lines (Nat.le_of_lt hrow), List.length_drop]
  unfold lineCount at hrow ⊢
  omega

/-- The text between two places of a row is a part of its line. -/
theorem slice_row (hrow : row < b.lineCount) {first past : Nat}
    (hfirst : Parts (clusters (b.line row)) first) (hpast : Parts (clusters (b.line row)) past)
    (hle : first ≤ past) :
    b.slice ⟨row, first⟩ ⟨row, past⟩ = sliceBytes (b.line row) first past := by
  rw [slice, clamp_of_parts hrow hfirst, clamp_of_parts hrow hpast]
  rcases Nat.lt_or_eq_of_le hle with hlt | rfl
  · have horder : (⟨row, first⟩ : Position) < ⟨row, past⟩ := .inr ⟨rfl, hlt⟩
    rw [if_pos horder, if_pos rfl]
  · have hnone : takeBytes (dropBytes (b.line row) first) 0 = [] :=
      takeBytes_append_byteSize [] _
    rw [if_neg (Position.lt_irrefl _), sliceBytes, Nat.sub_self, hnone]

/-- Behind text that is there already is the place so many bytes further. -/
theorem positionOf_charIndex_add (hrow : row < b.lineCount) {first past : Nat}
    (hfirst : Parts (clusters (b.line row)) first) (hpast : Parts (clusters (b.line row)) past)
    (hle : first ≤ past) :
    b.positionOf (b.charIndex ⟨row, first⟩ + (sliceBytes (b.line row) first past).length) =
      ⟨row, first + byteSize (sliceBytes (b.line row) first past)⟩ := by
  have hfront : takeBytes (b.line row) past =
      takeBytes (b.line row) first ++ sliceBytes (b.line row) first past :=
    List.append_cancel_right ((takeBytes_append_dropBytes _ past).trans
      (eq_take_slice_drop hfirst.isCharBoundary.2 hle))
  have hsize := congrArg byteSize hfront
  rw [byteSize_append, byteSize_takeBytes hfirst.isCharBoundary.2,
    byteSize_takeBytes hpast.isCharBoundary.2] at hsize
  rw [← hsize, charIndex, clamp_of_parts hrow hfirst, Nat.add_assoc, ← List.length_append, ← hfront]
  exact positionIn_charsOf (getElem?_lines hrow) hpast.isCharBoundary.2

/-! ## Line breaks -/

/-- A row is the line at its index. -/
theorem line_eq_of_lines {before behind : List Text} {l : Text} (h : b.lines = before ++ l :: behind) :
    b.line before.length = l := by
  rw [line, line?, h, List.getElem?_append_right (Nat.le_refl _), Nat.sub_self,
    List.getElem?_cons_zero, Option.getD_some]

/-- A row that has a line is one of the text. -/
theorem lt_lineCount_of_lines {before behind : List Text} {l : Text}
    (h : b.lines = before ++ l :: behind) : before.length < b.lineCount := by
  rw [lineCount, h, List.length_append, List.length_cons]
  omega

/-- The rows between two others are the lines between. -/
theorem rows_of_lines {before ls behind : List Text} (h : b.lines = before ++ ls ++ behind)
    {last : Nat} (hlast : last + 1 = before.length + ls.length) : b.rows before.length last = ls := by
  rw [rows, hlast, ← List.length_append, h, List.take_left, List.drop_left]

/-- A line break parts its row and leaves the others. -/
theorem insert_break (hrow : row < b.lineCount) {col : Nat}
    (hcol : Parts (clusters (b.line row)) col) :
    (b.insert ⟨row, col⟩ ['\n']).1.lines = b.lines.take row ++
        takeBytes (b.line row) col :: dropBytes (b.line row) col :: b.lines.drop (row + 1) ∧
      (b.insert ⟨row, col⟩ ['\n']).2 = ⟨row + 1, 0⟩ := by
  have hline := b.isLine_line row
  have hbroken : splitLines (takeBytes (b.line row) col ++ ['\n'] ++ dropBytes (b.line row) col) =
      [takeBytes (b.line row) col, dropBytes (b.line row) col] := by
    rw [List.append_assoc, List.singleton_append,
      splitLines_append_break (isLine_takeBytes hline col),
      splitLines_of_isLine (isLine_dropBytes hline col)]
  rw [insert, clamp_of_parts hrow hcol]
  refine ⟨?_, rfl⟩
  rw [lines_replaceRows, lineBefore, lineBehind, hbroken, List.append_assoc]
  rfl

/-- Two rows are joined where the break between them is removed. -/
theorem remove_break {before behind : List Text} {l m : Text}
    (h : b.lines = before ++ l :: m :: behind) :
    (b.remove ⟨before.length, b.lineSize before.length⟩ ⟨before.length + 1, 0⟩).1.lines =
      before ++ (l ++ m) :: behind := by
  -- the two rows as a front with the line itself, and as a front that ends with it
  have hlines : b.lines = (before ++ [l]) ++ m :: behind := by rw [h, List.append_assoc]; rfl
  have hfront : (before ++ [l]).length = before.length + 1 := by
    rw [List.length_append, List.length_singleton]
  have hl : b.line before.length = l := line_eq_of_lines h
  have hm : b.line (before.length + 1) = m := by
    rw [← hfront]
    exact line_eq_of_lines hlines
  have hrows : before.length + 1 < b.lineCount := by
    rw [lineCount, h, List.length_append, List.length_cons, List.length_cons]
    omega
  have hend : Parts (clusters (b.line before.length)) (b.lineSize before.length) :=
    parts_byteSize _
  have horder : (⟨before.length, b.lineSize before.length⟩ : Position) <
      ⟨before.length + 1, 0⟩ := .inl (Nat.lt_succ_self _)
  have hbefore : b.lineBefore ⟨before.length, b.lineSize before.length⟩ = l := by
    rw [lineBefore, lineSize, hl, takeBytes_byteSize]
  have hbehind : b.lineBehind ⟨before.length + 1, 0⟩ = m := by
    rw [lineBehind, hm]
    exact dropBytes_append_byteSize [] m
  have hjoined : IsLine (l ++ m) := isLine_append (hl ▸ b.isLine_line _) (hm ▸ b.isLine_line _)
  have htake : b.lines.take before.length = before := by rw [h, List.take_left]
  have hdrop : b.lines.drop (before.length + 1 + 1) = behind := by
    rw [← hfront, hlines, ← List.drop_drop, List.drop_left]
    rfl
  -- the two places are in the text and in order, so what is removed is what is between
  rw [remove, clamp_of_parts (Nat.lt_of_succ_lt hrows) hend, clamp_of_parts hrows (parts_zero _),
    if_pos horder]
  rw [hbefore, hbehind, lines_replaceRows, splitLines_of_isLine hjoined, htake, hdrop,
    List.append_assoc]
  rfl

/-- A row that was broken between clusters is joined again. -/
theorem remove_insert_break (hrow : row < b.lineCount) {col : Nat}
    (hcol : Parts (clusters (b.line row)) col) :
    (b.insert ⟨row, col⟩ ['\n']).1.lineSize row = col ∧
      ((b.insert ⟨row, col⟩ ['\n']).1.remove
        ⟨row, (b.insert ⟨row, col⟩ ['\n']).1.lineSize row⟩ ⟨row + 1, 0⟩).1 = b := by
  have hlines := (insert_break hrow hcol).1
  have hlength := length_take_lines (Nat.le_of_lt hrow)
  have hline := line_eq_of_lines hlines
  have hjoined := remove_break hlines
  rw [hlength] at hline hjoined
  refine ⟨?_, ext (hjoined.trans ?_)⟩
  · rw [lineSize, hline, byteSize_takeBytes hcol.isCharBoundary.2]
  · rw [takeBytes_append_dropBytes]
    exact (lines_eq_append hrow).symm

end Buffer

namespace Document

variable {d : Document}

/-- What a text does that takes the place of a part of a row. -/
theorem replaceRange_row {row first past : Nat} (hrow : row < d.buffer.lineCount)
    (hfirst : Parts (clusters (d.buffer.line row)) first)
    (hpast : Parts (clusters (d.buffer.line row)) past) (hle : first ≤ past) {t : Text}
    (ht : IsLine t) :
    (d.replaceRange ⟨row, first⟩ ⟨row, past⟩ t).1.buffer =
        d.buffer.setLine row (rewriteLine (d.buffer.line row) first past t).1 ∧
      (d.replaceRange ⟨row, first⟩ ⟨row, past⟩ t).2 =
        ⟨row, (rewriteLine (d.buffer.line row) first past t).2⟩ := by
  -- the slice is compared first, since the same text is no change
  have hslice := Buffer.slice_row hrow hfirst hpast hle
  simp only [replaceRange, Buffer.clamp_of_parts hrow hfirst, hslice, rewriteLine]
  split
  · rename_i hsame
    refine ⟨(Buffer.setLine_line hrow).symm, ?_⟩
    rw [← hsame]
    exact Buffer.positionOf_charIndex_add hrow hfirst hpast hle
  · have hline := d.buffer.isLine_line row
    -- the rest of the line is put down first, and the text is inserted in what is there then
    have hrest : IsLine (takeBytes (d.buffer.line row) first ++ dropBytes (d.buffer.line row) past) :=
      isLine_append (isLine_takeBytes hline _) (isLine_dropBytes hline _)
    have hremoved := Buffer.remove_row hrow hfirst hpast hle
    have hrow' : row < (d.buffer.remove ⟨row, first⟩ ⟨row, past⟩).1.lineCount := by
      rwa [hremoved, Buffer.lineCount_setLine _ _ hrest]
    refine ⟨?_, ?_⟩
    · show (Buffer.insert _ _ _).1 = _
      rw [Buffer.insert_row hrow', hremoved, Buffer.line_setLine hrow hrest,
        Buffer.setLine_setLine _ _ hrest]
      exact isLine_append (isLine_append (isLine_takeBytes hrest _) ht) (isLine_dropBytes hrest _)
    · show (Buffer.insert _ _ _).2 = _
      rw [Buffer.insert_row_snd hrow' _ ht, hremoved, Buffer.line_setLine hrow hrest]

end Document

end ModalEditor
