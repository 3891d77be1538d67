import ModalEditor.Editor.Operator
import ModalEditor.Proofs.Document.Place
import ModalEditor.Proofs.Text.Cut

/-!
# What is taken out of a document

A range that is cut out of a document and what was captured of it fit together: put back in its
place, the content gives the text before (`restores_cut`). For each kind of range the text is
captured and cut on two ways of their own, and this holds because both bring their positions to the
same cluster boundaries (`text_remove`, `deleteBlockRow_lines`) and count the same rows
(`lines_removeLines`).
-/

namespace ModalEditor

namespace Buffer

/-! ## Rows -/

/-- A row with the same line has the same text. -/
theorem line_of_lines {b b' : Buffer} {row : Nat} (h : b'.lines[row]? = b.lines[row]?) :
    b'.line row = b.line row := by
  rw [line, line, line?, line?, h]

/-- A row of the text has a line. -/
theorem getElem?_lines {b : Buffer} {row : Nat} (hrow : row < b.lineCount) :
    b.lines[row]? = some (b.line row) := by
  have hlength : row < b.lines.length := hrow
  rw [line, line?, List.getElem?_eq_getElem hlength, Option.getD_some]

/-- A line that is not there is empty. -/
theorem line_mem_or_eq_nil (b : Buffer) (row : Nat) : b.line row ∈ b.lines ∨ b.line row = [] := by
  rw [line, line?]
  cases hl : b.lines[row]? with
  | none => exact .inr rfl
  | some l => exact .inl (List.mem_of_getElem? hl)

/-- The lines around a row. -/
theorem lines_eq_append {b : Buffer} {row : Nat} (hrow : row < b.lineCount) :
    b.lines = b.lines.take row ++ b.line row :: b.lines.drop (row + 1) := by
  obtain ⟨hlength, hline⟩ := List.getElem?_eq_some_iff.1 (getElem?_lines hrow)
  rw [← hline, ← List.drop_eq_getElem_cons hlength, List.take_append_drop]

/-- Rows that are replaced are those between, by the lines of the new text. -/
theorem lines_replaceRows (b : Buffer) (first past : Nat) (middle : Text) :
    (b.replaceRows first past middle).lines =
      b.lines.take first ++ splitLines middle ++ b.lines.drop past := rfl

/-- In front of a row are as many rows as its index says. -/
theorem length_take_lines {b : Buffer} {row : Nat} (hrow : row ≤ b.lineCount) :
    (b.lines.take row).length = row := by
  rw [List.length_take]
  exact Nat.min_eq_left hrow

/-- A row is one of the text if it is not behind the last. -/
theorem lt_lineCount {b : Buffer} {row : Nat} : row < b.lineCount ↔ row ≤ b.lastRow := by
  have hpos := b.lineCount_pos
  rw [lastRow]
  omega

/-- Writing a row leaves those in front and those behind. -/
theorem set_lines {b : Buffer} {row : Nat} (hrow : row < b.lineCount) (l : Text) :
    b.lines.set row l = b.lines.take row ++ l :: b.lines.drop (row + 1) := by
  have hlength : row < b.lines.length := hrow
  rw [List.set_eq_take_append_cons_drop, if_pos hlength]

/-- One line in the place of a row. -/
theorem lines_replaceRows_row {b : Buffer} {row : Nat} (hrow : row < b.lineCount) {l : Text}
    (hl : IsLine l) : (b.replaceRows row (row + 1) l).lines = b.lines.set row l := by
  rw [lines_replaceRows, splitLines_of_isLine hl, List.append_assoc, List.singleton_append,
    set_lines hrow]

/-- A row is written if it is in the text, and otherwise nothing happens. -/
theorem lines_setLine (b : Buffer) (row : Nat) {l : Text} (hl : IsLine l) :
    (b.setLine row l).lines = b.lines.set row l := by
  rw [setLine]
  split
  · rename_i hrow
    exact lines_replaceRows_row hrow hl
  · rename_i hrow
    exact (List.set_eq_of_length_le (Nat.not_lt.1 hrow)).symm

/-- Lines that are put in stand in front of the row, or behind the last one. -/
theorem lines_insertLines {b : Buffer} {row : Nat} {ls : List Text} (hls : ∀ l ∈ ls, IsLine l) :
    (b.insertLines row ls).lines = b.lines.take row ++ ls ++ b.lines.drop row := by
  rw [insertLines]
  split
  · rename_i hnone
    rw [List.isEmpty_iff.1 hnone, List.append_nil, List.take_append_drop]
  · rename_i hsome
    have hne : ls ≠ [] := fun h => hsome (List.isEmpty_iff.2 h)
    rw [lines_replaceRows, splitLines_joinLines hne hls]

/-- A buffer of lines has these lines, or an empty one. -/
theorem lines_ofLines {ls : List Text} (hls : ∀ l ∈ ls, IsLine l) :
    (ofLines ls).lines = if ls = [] then [[]] else ls := by
  rw [ofLines, ofText]
  split
  · rename_i hnil; rw [hnil]; rfl
  · rename_i hne; exact splitLines_joinLines hne hls

/-- The rows that are there are left in front of and behind those that are removed. -/
theorem lines_removeLines {b : Buffer} {first last : Nat} (hfirst : first ≤ b.lastRow)
    (hle : first ≤ last) :
    let kept := b.lines.take first ++ b.lines.drop (min last b.lastRow + 1)
    (b.removeLines first last).1.lines = if kept = [] then [[]] else kept := by
  have hmin : ¬ min last b.lastRow < first := Nat.not_lt.2 (Nat.le_min.2 ⟨hle, hfirst⟩)
  rw [removeLines, if_neg hmin]
  refine lines_ofLines fun l hl => ?_
  rcases List.mem_append.1 hl with hl | hl
  · exact b.isLine l (List.mem_of_mem_take hl)
  · exact b.isLine l (List.mem_of_mem_drop hl)

/-- Behind a row that was emptied, rows are removed up to the last one. -/
theorem lines_removeLines_emptied {b emptied : Buffer} {first last : Nat}
    (hfirst : first ≤ b.lastRow) (hle : first ≤ last)
    (hemptied : emptied.lines = b.lines.set first []) :
    (emptied.removeLines (first + 1) last).1.lines =
      b.lines.take first ++ [] :: b.lines.drop (min last b.lastRow + 1) := by
  have hcount : first < b.lineCount := lt_lineCount.2 hfirst
  have hlast : emptied.lastRow = b.lastRow := by
    rw [lastRow, lineCount, hemptied, List.length_set]
    rfl
  have hmin : first ≤ min last b.lastRow := Nat.le_min.2 ⟨hle, hfirst⟩
  rcases Nat.lt_or_eq_of_le hmin with hmore | hone
  · have hbefore : emptied.lines.take (first + 1) = b.lines.take first ++ [[]] := by
      rw [hemptied, set_lines hcount, ← List.singleton_append, ← List.append_assoc]
      refine List.take_left' ?_
      rw [List.length_append, length_take_lines (Nat.le_of_lt hcount), List.length_singleton]
    have hbehind : emptied.lines.drop (min last b.lastRow + 1) =
        b.lines.drop (min last b.lastRow + 1) := by
      rw [hemptied, List.drop_set_of_lt (Nat.lt_succ_of_lt hmore)]
    rw [lines_removeLines (by omega) (by omega), hlast, hbefore, hbehind, if_neg (by simp),
      List.append_assoc]
    rfl
  · -- the row that was emptied is the last one
    rw [removeLines, hlast, if_pos (by omega), hemptied, set_lines hcount, ← hone]

/-- The rows in front of, between and behind two rows. -/
theorem lines_eq_rows (b : Buffer) {first last : Nat} (hle : first ≤ last + 1) :
    b.lines = b.lines.take first ++ b.rows first last ++ b.lines.drop (last + 1) := by
  have htake : b.lines.take first = (b.lines.take (last + 1)).take first := by
    rw [List.take_take, Nat.min_eq_left hle]
  rw [rows, htake, List.take_append_drop, List.take_append_drop]

/-! ## Places of a row -/

section Places

variable {b : Buffer} {row : Nat}

/-- On a row of the text only the offset is brought to a boundary. -/
theorem clamp_row (hrow : row < b.lineCount) (col : Nat) :
    b.clamp ⟨row, col⟩ = ⟨row, floorBoundary (b.line row) col⟩ := by
  rw [clamp, Nat.min_eq_left (lt_lineCount.1 hrow)]

/-- A place between clusters stays where it is. -/
theorem clamp_of_parts (hrow : row < b.lineCount) {col : Nat}
    (hcol : Parts (clusters (b.line row)) col) : b.clamp ⟨row, col⟩ = ⟨row, col⟩ := by
  rw [clamp_row hrow, floorBoundary_of_parts hcol]

/-- So does the beginning of a row. -/
theorem clamp_beginning (hrow : row ≤ b.lastRow) : b.clamp ⟨row, 0⟩ = ⟨row, 0⟩ :=
  clamp_of_parts (lt_lineCount.2 hrow) (parts_zero _)

/-- So does its end. -/
theorem clamp_lineEnd (hrow : row ≤ b.lastRow) :
    b.clamp ⟨row, b.lineSize row⟩ = ⟨row, b.lineSize row⟩ :=
  clamp_of_parts (lt_lineCount.2 hrow) (parts_byteSize _)

/-- A place that is its own nearest place lies in a row, between clusters. -/
theorem parts_of_clamp {p : Position} (hp : b.clamp p = p) :
    p.row < b.lineCount ∧ Parts (clusters (b.line p.row)) p.col := by
  have hrow : p.row < b.lineCount := (hp ▸ b.inside_clamp p).row
  have hcol := congrArg Position.col hp
  rw [clamp, Nat.min_eq_left (lt_lineCount.1 hrow)] at hcol
  exact ⟨hrow, hcol ▸ parts_floorIn _ _⟩

/-- What was brought into the text is in it. -/
theorem clamp_clamp (b : Buffer) (p : Position) : b.clamp (b.clamp p) = b.clamp p := by
  refine clamp_of_parts (b.inside_clamp p).row ?_
  exact parts_floorIn _ _

end Places

/-! ## Text between positions -/

/-- The rows in front of a later row. -/
theorem take_lines_eq {b : Buffer} {row later : Nat} (hrow : row < later)
    (hlater : later < b.lineCount) :
    b.lines.take later =
      b.lines.take row ++ b.line row :: (b.lines.take later).drop (row + 1) := by
  have hlength : row < (b.lines.take later).length := by
    rw [List.length_take]
    exact Nat.lt_min.2 ⟨hrow, Nat.lt_trans hrow hlater⟩
  have hline : b.line row = (b.lines.take later)[row] := by
    rw [List.getElem_take, line, line?, List.getElem?_eq_getElem (Nat.lt_trans hrow hlater),
      Option.getD_some]
  have htake : b.lines.take row = (b.lines.take later).take row := by
    rw [List.take_take, Nat.min_eq_left (Nat.le_of_lt hrow)]
  rw [hline, ← List.drop_eq_getElem_cons hlength, htake, List.take_append_drop]

/-- A line is what is in front of a position, and what is behind it. -/
theorem line_eq_append (b : Buffer) (p : Position) :
    b.line p.row = b.lineBefore p ++ b.lineBehind p :=
  (takeBytes_append_dropBytes _ _).symm

/-- The text in front of a place. -/
def textBefore (b : Buffer) (p : Position) : Text :=
  (b.lines.take p.row).flatMap (· ++ ['\n']) ++ b.lineBefore p

/-- The text behind a place. -/
def textBehind (b : Buffer) (p : Position) : Text :=
  joinLines (b.lineBehind p :: b.lines.drop (p.row + 1))

/-- The text around what is between two places on a row. -/
theorem text_eq_of_row_eq {b : Buffer} {p q : Position} (hp : b.Inside p) (hrow : p.row = q.row)
    (hcol : p.col ≤ q.col) :
    b.text = b.textBefore p ++ sliceBytes (b.line p.row) p.col q.col ++ b.textBehind q := by
  have hline : b.line p.row =
      b.lineBefore p ++ sliceBytes (b.line p.row) p.col q.col ++ b.lineBehind q := by
    rw [lineBefore, lineBehind, ← hrow]
    exact eq_take_slice_drop hp.boundary hcol
  calc b.text
      = joinLines (b.lines.take p.row ++
          (b.lineBefore p ++ sliceBytes (b.line p.row) p.col q.col ++ b.lineBehind q) ::
            b.lines.drop (p.row + 1)) := by
        rw [← hline, ← lines_eq_append hp.row, text]
    _ = b.textBefore p ++ sliceBytes (b.line p.row) p.col q.col ++ b.textBehind q := by
        rw [joinLines_append, textBefore, textBehind, hrow]
        simp only [List.append_assoc]

/-- The text around what is between two places on different rows. -/
theorem text_eq_of_row_lt {b : Buffer} {p q : Position} (hq : q.row < b.lineCount)
    (hrow : p.row < q.row) :
    b.text = b.textBefore p ++
      joinLines (b.lineBehind p :: (b.lines.take q.row).drop (p.row + 1) ++ [b.lineBefore q]) ++
      b.textBehind q := by
  have hbetween := joinLines_append (b.lineBehind p :: (b.lines.take q.row).drop (p.row + 1))
    (b.lineBefore q) [] []
  rw [List.append_nil] at hbetween
  calc b.text
      = joinLines (b.lines.take p.row ++ (b.lineBefore p ++ b.lineBehind p) ::
          (b.lines.take q.row).drop (p.row + 1) ++
          (b.lineBefore q ++ b.lineBehind q) :: b.lines.drop (q.row + 1)) := by
        rw [← line_eq_append, ← line_eq_append, ← take_lines_eq hrow hq, ← lines_eq_append hq, text]
    _ = _ := by
        rw [joinLines_append, hbetween, textBefore, textBehind]
        simp only [List.flatMap_append, List.flatMap_cons, List.append_assoc, joinLines,
          List.append_nil]

/-- The text around what is between two positions that are in order. -/
theorem text_eq_slice {b : Buffer} {p q : Position} (hlt : b.clamp p < b.clamp q) :
    b.text = b.textBefore (b.clamp p) ++ b.slice p q ++ b.textBehind (b.clamp q) := by
  have hp := b.inside_clamp p
  have hq := b.inside_clamp q
  simp only [slice, if_pos hlt]
  generalize b.clamp p = p at *
  generalize b.clamp q = q at *
  split
  · rename_i hrow
    have hcol : p.col ≤ q.col := by
      rcases hlt with hlt | ⟨-, hlt⟩
      · omega
      · exact Nat.le_of_lt hlt
    exact text_eq_of_row_eq hp hrow hcol
  · rename_i hrow
    have hrows : p.row < q.row := hlt.resolve_right fun h => hrow h.1
    exact text_eq_of_row_lt hq.row hrows

/-- What is in front of one position and behind another is a line. -/
theorem isLine_before_behind (b : Buffer) (p q : Position) :
    IsLine (b.lineBefore p ++ b.lineBehind q) := fun h =>
  (List.mem_append.1 h).elim (b.isLine_lineBefore p)
    fun h => b.isLine_line q.row (mem_of_mem_dropBytes h)

/-- The text without what is between two positions. -/
theorem text_remove_of_lt {b : Buffer} {p q : Position} (hlt : b.clamp p < b.clamp q) :
    (b.remove p q).1.text = b.textBefore (b.clamp p) ++ b.textBehind (b.clamp q) := by
  simp only [remove, if_pos hlt]
  rw [text, lines_replaceRows, splitLines_of_isLine (b.isLine_before_behind _ _),
    List.append_assoc, List.singleton_append, joinLines_append, textBefore, textBehind]

/-- The text that is removed between two positions is what the rest is without. -/
theorem text_remove (b : Buffer) (p q : Position) :
    ∃ before behind, (b.remove p q).1.text = before ++ behind ∧
      b.text = before ++ b.slice p q ++ behind := by
  by_cases hlt : b.clamp p < b.clamp q
  · exact ⟨_, _, text_remove_of_lt hlt, text_eq_slice hlt⟩
  · simp only [remove, slice, if_neg hlt]
    exact ⟨b.text, [], (List.append_nil _).symm, by simp⟩

/-- What is removed between two cluster boundaries of a row. -/
theorem lines_remove_row {b : Buffer} {row first past : Nat} (hrow : row < b.lineCount)
    (hfirst : Parts (clusters (b.line row)) first) (hpast : Parts (clusters (b.line row)) past)
    (hlt : first < past) :
    (b.remove ⟨row, first⟩ ⟨row, past⟩).1.lines =
      b.lines.set row (takeBytes (b.line row) first ++ dropBytes (b.line row) past) := by
  have hclamp {col : Nat} (hcol : Parts (clusters (b.line row)) col) :
      b.clamp ⟨row, col⟩ = ⟨row, col⟩ := by
    have hmin : min row b.lastRow = row := Nat.min_eq_left (lt_lineCount.1 hrow)
    rw [clamp, hmin, floorBoundary_of_parts hcol]
  have hl : IsLine (takeBytes (b.line row) first ++ dropBytes (b.line row) past) := fun h =>
    b.isLine_line row ((List.mem_append.1 h).elim mem_of_mem_takeBytes mem_of_mem_dropBytes)
  have horder : (⟨row, first⟩ : Position) < ⟨row, past⟩ := .inr ⟨rfl, hlt⟩
  simp only [remove, hclamp hfirst, hclamp hpast, if_pos horder]
  exact lines_replaceRows_row hrow hl

end Buffer

/-! ## Cutting -/

/-- The content is what was taken out of the buffer `old` to leave `new`. A run of characters goes
back between two parts of the text. Whole rows go back in front of the row that follows them, in the
place of the row that was emptied for a change, or of the one empty line that is left if all rows
were taken out. The rows of a rectangle go back into the rows that they were in, and no other row is
different. -/
def RegisterContent.Restores (content : RegisterContent) (change : Bool) (new old : Buffer) :
    TextRange → Prop
  | .chars _ _ =>
    content.kind = .chars ∧ ∃ before behind, new.text = before ++ behind ∧
      old.text = before ++ content.text ++ behind
  | .lines first _ =>
    ∃ rows, content = .ofLines rows ∧ (rows ≠ [] → content.rows = rows) ∧
      (rows = [] ∧ new = old ∨
        if change then
          new.line? first = some [] ∧
            old.lines = new.lines.take first ++ rows ++ new.lines.drop (first + 1)
        else
          old.lines = new.lines.take first ++ rows ++ new.lines.drop first ∨
            new.lines = [[]] ∧ old.lines = rows)
  | .block top _ left right =>
    ∃ rows, content = .ofBlock rows (right - left) ∧ (rows ≠ [] → content.rows = rows) ∧
      new.lineCount = old.lineCount ∧
      (∀ row, row < top ∨ top + rows.length ≤ row → new.line row = old.line row) ∧
      ∀ i piece, rows[i]? = some piece → ∃ before behind,
        new.line (top + i) = before ++ behind ∧ old.line (top + i) = before ++ piece ++ behind

/-- Rows come in order, unless there are none of them. -/
def TextRange.InOrder (b : Buffer) : TextRange → Prop
  | .lines first last => first ≤ last ∨ b.lastRow < first
  | .chars .. | .block .. => True

namespace Document

variable {d : Document}

/-- A deletion removes a range, or there is nothing in it. -/
theorem deleteRange_buffer (d : Document) (p q : Position) :
    (d.deleteRange p q).1.buffer = (d.buffer.remove p q).1 := by
  simp only [deleteRange, Buffer.remove]
  split <;> rfl

/-- Deleting rows removes them, or there are none. -/
theorem deleteLines_buffer (d : Document) (first last : Nat) :
    (d.deleteLines first last).1.buffer = (d.buffer.removeLines first last).1 := by
  unfold deleteLines
  split
  · rename_i hnone
    have hmin : min last d.buffer.lastRow < first := by
      rcases hnone with h | h
      · exact Nat.lt_of_le_of_lt (Nat.min_le_right _ _) h
      · exact Nat.lt_of_le_of_lt (Nat.min_le_left _ _) h
    rw [Buffer.removeLines, if_pos hmin]
  · rfl

/-- Inserting rows puts them in, or there are none. -/
theorem insertLines_buffer (d : Document) (row : Nat) (ls : List Text) :
    (d.insertLines row ls).buffer = d.buffer.insertLines row ls := by
  rw [insertLines, Buffer.insertLines]
  split <;> rfl

/-- Writing a row writes it, or it is the same. -/
theorem setLine_lines (d : Document) (row : Nat) {l : Text} (hl : IsLine l) :
    (d.setLine row l).buffer.lines = d.buffer.lines.set row l := by
  rw [← d.buffer.lines_setLine row hl]
  unfold setLine
  split
  · rename_i hkept
    refine congrArg Buffer.lines (Buffer.ext ?_)
    rw [d.buffer.lines_setLine row hl]
    rcases Nat.lt_or_ge row d.buffer.lineCount with hrow | hrow
    · have hline : d.line row = l := hkept.resolve_left (by rw [lastRow, Buffer.lastRow]; omega)
      rw [← hline, Buffer.set_lines hrow]
      exact Buffer.lines_eq_append hrow
    · exact (List.set_eq_of_length_le hrow).symm
  · rfl

/-! ## Characters -/

/-- Putting the characters back where they were gives the text again. -/
theorem restores_chars (d : Document) (change : Bool) (first past : Position) :
    (d.capture (.chars first past)).Restores change (d.cutRange change (.chars first past)).buffer
      d.buffer (.chars first past) := by
  refine ⟨rfl, ?_⟩
  show ∃ before behind, (d.deleteRange first past).1.buffer.text = _ ∧ _
  rw [deleteRange_buffer]
  exact d.buffer.text_remove first past

/-! ## Whole rows -/

section Lines

variable {first last : Nat}

/-- Below the last row there is nothing to take out. -/
theorem cutRange_lines_of_lt (change : Bool) (hfirst : d.lastRow < first) :
    d.buffer.rows first (min last d.lastRow) = [] ∧
      (d.cutRange change (.lines first last)).buffer = d.buffer := by
  have hset : d.setLine first [] = d := if_pos (.inl hfirst)
  have hdelete {row : Nat} (hrow : d.lastRow < row) : d.deleteLines row last = (d, []) :=
    if_pos (.inl hrow)
  refine ⟨?_, ?_⟩
  · refine List.drop_eq_nil_of_le ?_
    have hcount : d.buffer.lines.length ≤ first := by
      rw [lastRow, Buffer.lastRow, Buffer.lineCount] at hfirst
      omega
    exact Nat.le_trans (List.length_take_le' _ _) hcount
  · cases change with
    | false => simp only [cutRange, Bool.false_eq_true, if_false, hdelete hfirst]; rfl
    | true =>
      simp only [cutRange, if_true, hset, hdelete (Nat.lt_succ_of_lt hfirst), ite_self]
      rfl

section Inside

variable (hfirst : first ≤ d.lastRow) (hle : first ≤ last)
include hfirst hle

/-- A deletion leaves the rows around, and one empty row if there are none. -/
theorem cutRange_lines_delete :
    let kept := d.buffer.lines.take first ++ d.buffer.lines.drop (min last d.lastRow + 1)
    (d.cutRange false (.lines first last)).buffer.lines = if kept = [] then [[]] else kept := by
  intro kept
  show (d.deleteLines first last).1.buffer.lines = _
  rw [deleteLines_buffer]
  exact Buffer.lines_removeLines hfirst hle

/-- A change leaves the rows around, and an empty row between them. -/
theorem cutRange_lines_change :
    (d.cutRange true (.lines first last)).buffer.lines =
      d.buffer.lines.take first ++ [] :: d.buffer.lines.drop (min last d.lastRow + 1) := by
  have hemptied := setLine_lines d first List.not_mem_nil
  have hcut : (d.cutRange true (.lines first last)).buffer =
      ((d.setLine first []).buffer.removeLines (first + 1) last).1 := by
    simp only [cutRange, if_true]
    split
    · exact deleteLines_buffer _ _ _
    · -- a single row is emptied, and none is removed
      rw [Buffer.removeLines, if_pos (by omega)]
      rfl
  rw [hcut]
  exact Buffer.lines_removeLines_emptied hfirst hle hemptied

end Inside

end Lines

/-- Putting whole rows back gives the text again, also if all of them were cut and one empty row took
their place. -/
theorem restores_lines (d : Document) (change : Bool) {first last : Nat}
    (horder : (TextRange.lines first last).InOrder d.buffer) :
    (d.capture (.lines first last)).Restores change (d.cutRange change (.lines first last)).buffer
      d.buffer (.lines first last) := by
  refine ⟨d.buffer.rows first (min last d.lastRow), rfl, fun hne => ?_, ?_⟩
  · refine RegisterContent.rows_ofLines hne fun l hl => d.buffer.isLine l ?_
    exact List.mem_of_mem_take (List.mem_of_mem_drop hl)
  -- rows behind the text are no rows, and nothing is cut
  rcases Nat.lt_or_ge d.lastRow first with hlt | hfirst
  · exact .inl (cutRange_lines_of_lt change hlt)
  have hle : first ≤ last := horder.resolve_right (Nat.not_lt.2 hfirst)
  have hlength : (d.buffer.lines.take first).length = first :=
    Buffer.length_take_lines (Nat.le_of_lt (Buffer.lt_lineCount.2 hfirst))
  have hmin : first ≤ min last d.lastRow + 1 := by omega
  have hlines := d.buffer.lines_eq_rows hmin
  refine .inr ?_
  cases change with
  -- a change leaves an empty row in their place, and a deletion does not, unless no row is left
  | true =>
    have hnew := cutRange_lines_change hfirst hle
    rw [if_pos rfl, Buffer.line?, hnew]
    refine ⟨?_, ?_⟩
    · rw [List.getElem?_append_right (Nat.le_of_eq hlength), hlength, Nat.sub_self,
        List.getElem?_cons_zero]
    · have hemptied : (d.buffer.lines.take first ++ [[]]).length = first + 1 := by
        rw [List.length_append, hlength, List.length_singleton]
      rw [List.take_left' hlength, ← List.singleton_append, ← List.append_assoc,
        List.drop_left' hemptied]
      exact hlines
  | false =>
    have hnew := cutRange_lines_delete hfirst hle
    rw [if_neg Bool.false_ne_true, hnew]
    split
    · rename_i hnone
      obtain ⟨hbefore, hbehind⟩ := List.append_eq_nil_iff.1 hnone
      rw [hbefore, hbehind, List.nil_append, List.append_nil] at hlines
      exact .inr ⟨rfl, hlines⟩
    · refine .inl ?_
      rw [List.take_left' hlength, List.drop_left' hlength]
      exact hlines

/-! ## Rectangles -/

/-- From `d` to `d'`, the `i`-th of `n` rows from `top` on became what `f i` makes of it, and the other
rows are as they were. -/
structure RowWise (f : Nat → Text → Text) (top n : Nat) (d d' : Document) : Prop where
  others : ∀ row, row < top ∨ top + n ≤ row → d'.line row = d.line row
  rows : ∀ i < n, d'.line (top + i) = f i (d.line (top + i))

namespace RowWise

variable {f : Nat → Text → Text} {top n : Nat} {d' : Document}

/-- Without rows nothing is written. -/
theorem zero (d : Document) : RowWise f top 0 d d :=
  ⟨fun _ _ => rfl, nofun⟩

/-- The first row, and then the rows behind it. -/
theorem cons {d₁ : Document} (h₁ : RowWise (fun _ => f 0) top 1 d d₁)
    (h₂ : RowWise (fun i => f (i + 1)) (top + 1) n d₁ d') : RowWise f top (n + 1) d d' where
  others row hrow := by rw [h₂.others row (by omega), h₁.others row (by omega)]
  rows i hi := by
    cases i with
    | zero => exact (h₂.others _ (.inl (Nat.lt_succ_self top))).trans (h₁.rows 0 Nat.one_pos)
    | succ i =>
      -- the first step left this row as it was
      have hlater := h₂.rows i (Nat.lt_of_succ_lt_succ hi)
      rwa [h₁.others _ (.inr (Nat.le_add_right _ _)), Nat.add_right_comm, Nat.add_assoc] at hlater

/-- One row that was given another line. -/
theorem of_set {g : Text → Text} (htop : top < d.buffer.lineCount)
    (hlines : d'.buffer.lines = d.buffer.lines.set top (g (d.line top))) :
    RowWise (fun _ => g) top 1 d d' where
  others row hrow := by
    refine Buffer.line_of_lines ?_
    rw [hlines, List.getElem?_set_ne (by omega)]
  rows i hi := by
    obtain rfl : i = 0 := Nat.lt_one_iff.1 hi
    have hlength : top < d.buffer.lines.length := htop
    rw [Nat.add_zero, line, Buffer.line, Buffer.line?, hlines, List.getElem?_set_self hlength,
      Option.getD_some]

/-- Row by row, only the lines of the two documents are looked at. -/
theorem congr {d₀ d₀' : Document} (h : RowWise f top n d d') (hold : d₀.line = d.line)
    (hnew : d₀'.line = d'.line) : RowWise f top n d₀ d₀' where
  others := by rw [hold, hnew]; exact h.others
  rows := by rw [hold, hnew]; exact h.rows

/-- What holds of all lines, and of what becomes of a line that it holds of. -/
theorem forall_line {P : Text → Prop} (h : RowWise f top n d d')
    (hf : ∀ i < n, ∀ l, P l → P (f i l)) (hd : ∀ row, P (d.line row)) (row : Nat) :
    P (d'.line row) := by
  by_cases hinside : top ≤ row ∧ row < top + n
  · obtain ⟨i, rfl⟩ := Nat.exists_eq_add_of_le hinside.1
    have hi : i < n := Nat.lt_of_add_lt_add_left hinside.2
    exact h.rows i hi ▸ hf i hi _ (hd _)
  · exact h.others row (by omega) ▸ hd row

end RowWise

section Block

variable (left right : Nat)

/-- A row without its part in the rectangle takes its place. -/
theorem deleteBlockRow_lines {row : Nat} (hrow : row < d.buffer.lineCount) :
    (d.deleteBlockRow left right row).buffer.lines =
      d.buffer.lines.set row (outsideBlock (d.line row) left right) := by
  obtain ⟨hfirst, hpast, hle⟩ := parts_blockBytes (d.line row) left right
  simp only [deleteBlockRow, outsideBlock]
  split
  · rename_i hlt
    rw [deleteRange_buffer, Buffer.lines_remove_row hrow hfirst hpast hlt]
    rfl
  · rename_i hnot
    -- nothing of the rectangle is on the row
    have hsame : (blockBytes (d.line row) left right).1 = (blockBytes (d.line row) left right).2 :=
      Nat.le_antisymm hle (Nat.not_lt.1 hnot)
    rw [← hsame, takeBytes_append_dropBytes, Buffer.set_lines hrow]
    exact Buffer.lines_eq_append hrow

/-- One row after the other. -/
theorem rowWise_deleteBlockRow (n : Nat) {top : Nat} (hrows : n = 0 ∨ top + n ≤ d.buffer.lineCount) :
    let cut := (List.range' top n).foldl (deleteBlockRow left right) d
    cut.buffer.lineCount = d.buffer.lineCount ∧
      RowWise (fun _ l => outsideBlock l left right) top n d cut := by
  induction n generalizing d top with
  | zero => exact ⟨rfl, .zero d⟩
  | succ n ih =>
    have htop : top < d.buffer.lineCount := by omega
    have hlines := deleteBlockRow_lines left right htop
    have hcount : (d.deleteBlockRow left right top).buffer.lineCount = d.buffer.lineCount := by
      rw [Buffer.lineCount, hlines, List.length_set]
      rfl
    have hrest : n = 0 ∨ top + 1 + n ≤ (d.deleteBlockRow left right top).buffer.lineCount :=
      .inr (by omega)
    obtain ⟨hkept, hlater⟩ := ih hrest
    rw [List.range'_succ, List.foldl_cons]
    exact ⟨hkept.trans hcount, .cons (.of_set htop hlines) hlater⟩

/-- The rows of a rectangle that exist are left without their parts in it. -/
theorem rowWise_deleteBlock (d : Document) (top bottom : Nat) :
    let cut := (d.deleteBlock top bottom left right).1
    cut.buffer.lineCount = d.buffer.lineCount ∧
      RowWise (fun _ l => outsideBlock l left right) top (d.blockRows top bottom).length d cut := by
  intro cut
  have hlength : (d.blockRows top bottom).length = min bottom d.lastRow + 1 - top :=
    List.length_range'
  have hrows : (d.blockRows top bottom).length = 0 ∨
      top + (d.blockRows top bottom).length ≤ d.beginChange.buffer.lineCount := by
    have hlast : d.lastRow < d.buffer.lineCount := Buffer.lt_lineCount.2 (Nat.le_refl _)
    rw [beginChange_buffer, hlength]
    omega
  obtain ⟨hcount, hcut⟩ := rowWise_deleteBlockRow left right _ hrows
  -- beginning and ending the change leaves the text alone
  have hnew : cut.buffer =
      ((d.blockRows top bottom).foldl (deleteBlockRow left right) d.beginChange).buffer :=
    endChange_buffer _
  rw [blockRows, ← hlength] at hnew
  refine ⟨?_, hcut.congr (congrArg Buffer.line (beginChange_buffer d).symm)
    (congrArg Buffer.line hnew)⟩
  rw [hnew, ← beginChange_buffer d]
  exact hcount

/-- The text of a rectangle has a row for each of its rows. -/
theorem length_blockText (d : Document) (top bottom : Nat) :
    (d.blockText top bottom left right).length = (d.blockRows top bottom).length :=
  List.length_map _

/-- Its rows are the parts of the lines between the columns. -/
theorem getElem_blockText (d : Document) (top bottom : Nat) {i : Nat}
    (hi : i < (d.blockText top bottom left right).length) :
    (d.blockText top bottom left right)[i] = d.blockRowText (top + i) left right := by
  simp only [blockText, blockRows, List.getElem_map, List.getElem_range', Nat.one_mul]

end Block

/-- Putting the rows of a rectangle back where they were gives the text again. -/
theorem restores_block (d : Document) (change : Bool) (top bottom left right : Nat) :
    (d.capture (.block top bottom left right)).Restores change
      (d.cutRange change (.block top bottom left right)).buffer d.buffer
      (.block top bottom left right) := by
  obtain ⟨hcount, hcut⟩ := rowWise_deleteBlock left right d top bottom
  rw [← length_blockText left right] at hcut
  refine ⟨d.blockText top bottom left right, rfl, fun hne => ?_, hcount, hcut.others,
    fun i piece hi => ?_⟩
  · refine RegisterContent.rows_ofBlock hne (fun l hl => ?_) _
    obtain ⟨row, -, rfl⟩ := List.mem_map.1 hl
    exact isLine_sliceBytes (d.buffer.isLine_line row) _ _
  · obtain ⟨hlt, rfl⟩ := List.getElem?_eq_some_iff.1 hi
    obtain ⟨hfirst, -, hle⟩ := parts_blockBytes (d.line (top + i)) left right
    rw [getElem_blockText]
    exact ⟨_, _, hcut.rows i hlt, eq_take_slice_drop hfirst.isCharBoundary.2 hle⟩

/-! ## What the text alone decides -/

/-- What a register takes depends on the text alone. -/
theorem capture_congr {d d' : Document} (hbuffer : d.buffer = d'.buffer) (range : TextRange) :
    d.capture range = d'.capture range := by
  cases range with
  | chars first past => simp only [capture, hbuffer]
  | lines first last => simp only [capture, lastRow, hbuffer]
  | block top bottom left right =>
    simp only [capture, blockText, blockRows, blockRowText, line, lastRow, hbuffer]

/-- What a rectangle leaves depends on the text alone. -/
theorem deleteBlock_congr {d d' : Document} (hbuffer : d.buffer = d'.buffer)
    (top bottom left right : Nat) :
    (d.deleteBlock top bottom left right).1.buffer =
      (d'.deleteBlock top bottom left right).1.buffer := by
  have hrows : d.blockRows top bottom = d'.blockRows top bottom := by
    simp only [blockRows, lastRow, hbuffer]
  -- one row, and then all of them by induction
  have hrow {d d' : Document} (h : d.buffer = d'.buffer) (row : Nat) :
      (deleteBlockRow left right d row).buffer = (deleteBlockRow left right d' row).buffer := by
    have hline : d.line row = d'.line row := congrArg (Buffer.line · row) h
    simp only [deleteBlockRow, hline]
    split
    · rw [deleteRange_buffer, deleteRange_buffer, h]
    · exact h
  have hfold (rows : List Nat) {d d' : Document} (h : d.buffer = d'.buffer) :
      (rows.foldl (deleteBlockRow left right) d).buffer =
        (rows.foldl (deleteBlockRow left right) d').buffer := by
    induction rows generalizing d d' with
    | nil => exact h
    | cons row rows ih => exact ih (hrow h row)
  simp only [deleteBlock, endChange_buffer, hrows]
  refine hfold _ ?_
  rw [beginChange_buffer, beginChange_buffer, hbuffer]

/-- What cutting a range out leaves, and where the cursor is then. -/
theorem cut_false_congr {d d' : Document} (hbuffer : d.buffer = d'.buffer) (range : TextRange) :
    (d.cut false range).buffer = (d'.cut false range).buffer ∧
      (d.cut false range).cursor = (d'.cut false range).cursor := by
  -- what is recorded of the change is set aside, so that only the text is compared
  have hbegun : d.beginChange.buffer = d'.beginChange.buffer := by
    rw [beginChange_buffer, beginChange_buffer, hbuffer]
  simp only [cut, endChange_buffer, endChange_cursor]
  generalize d.beginChange = d at hbegun
  generalize d'.beginChange = d' at hbegun
  cases range with
  | chars first past =>
    have hcut : (d.deleteRange first past).1.buffer = (d'.deleteRange first past).1.buffer := by
      rw [deleteRange_buffer, deleteRange_buffer, hbegun]
    exact ⟨hcut, congrArg (Buffer.rest · first) hcut⟩
  | lines first last =>
    have hcut : (d.deleteLines first last).1.buffer = (d'.deleteLines first last).1.buffer := by
      rw [deleteLines_buffer, deleteLines_buffer, hbegun]
    refine ⟨hcut, ?_⟩
    simp only [cutRange, Bool.false_eq_true, if_false, setCursor, clamp, lastRow, hcut]
  | block top bottom left right =>
    have hcut := deleteBlock_congr hbegun top bottom left right
    refine ⟨hcut, ?_⟩
    simp only [cutRange, Bool.false_eq_true, if_false, setCursor, clamp, blockOrigin, line, hcut]

/-! ## All ranges -/

/-- What was captured of a range is what cutting the range takes out. -/
theorem restores_cut (d : Document) (change : Bool) {range : TextRange}
    (horder : range.InOrder d.buffer) :
    (d.capture range).Restores change (d.cut change range).buffer d.buffer range := by
  have hcapture : d.beginChange.capture range = d.capture range :=
    capture_congr (beginChange_buffer d) range
  have hrestores : (d.beginChange.capture range).Restores change
      (d.beginChange.cutRange change range).buffer d.beginChange.buffer range := by
    rw [← beginChange_buffer d] at horder
    cases range with
    | chars first past => exact restores_chars _ change first past
    | lines first last => exact restores_lines _ change horder
    | block top bottom left right => exact restores_block _ change top bottom left right
  rw [hcapture, beginChange_buffer] at hrestores
  rw [cut, endChange_buffer]
  exact hrestores

end Document

end ModalEditor
