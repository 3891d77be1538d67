import Mathlib.Data.List.DropRight
import Mathlib.Data.List.GetD
import ModalEditor.Proofs.Document.Cut
import ModalEditor.Proofs.Document.Travel
import ModalEditor.Proofs.Text.Printable

/-!
# Putting a rectangle

Each row of a rectangle that is put goes into a line of its own (`putRow`, `rowWise_putRows`). Up to
spaces at its end, what becomes of a printable line is the line filled up to the column of the cursor,
with each copy of the row filled up to the full width (`putRow_append_spaces`). So the rows of a copy
stand below each other however long the lines and the rows are: each copy can be read back, and the
lines are left when all of them are cut out again (`put_block_read_back`).
-/

namespace ModalEditor

open Document (blockRow)

/-! ## Spaces at the end -/

/-- The text without the spaces at its end. -/
def trimEnd (t : Text) : Text :=
  t.rdropWhile (· == ' ')

/-- Spaces at the end do not show in what is trimmed. -/
theorem trimEnd_append_spaces (t : Text) (n : Nat) : trimEnd (t ++ spaces n) = trimEnd t := by
  induction n with
  | zero => rw [spaces, List.replicate_zero, List.append_nil]
  | succ n ih =>
    rw [spaces, List.replicate_succ', ← List.append_assoc, trimEnd,
      List.rdropWhile_concat_pos _ _ _ rfl]
    exact ih

/-- Spaces behind a text are spaces at the end of each part of it. -/
theorem trimEnd_part_append_spaces (t : Text) (j first n : Nat) :
    trimEnd (((t ++ spaces j).drop first).take n) = trimEnd ((t.drop first).take n) := by
  rw [List.drop_append, List.take_append, spaces, List.drop_replicate, List.take_replicate]
  exact trimEnd_append_spaces _ _

/-- They are at the end of what is around a part, too. -/
theorem trimEnd_around_append_spaces (t : Text) (j : Nat) {first past : Nat} (hle : first ≤ past) :
    trimEnd ((t ++ spaces j).take first ++ (t ++ spaces j).drop past) =
      trimEnd (t.take first ++ t.drop past) := by
  rw [List.take_append, List.drop_append, spaces, List.take_replicate, List.drop_replicate]
  rcases Nat.le_total t.length past with hend | hinside
  · rw [List.drop_eq_nil_of_le hend, List.nil_append, List.append_nil, List.append_assoc,
      ← List.replicate_add]
    exact trimEnd_append_spaces _ _
  · -- the part ends inside the text
    rw [Nat.sub_eq_zero_of_le (hle.trans hinside), Nat.zero_min, List.replicate_zero,
      List.append_nil, ← List.append_assoc]
    exact trimEnd_append_spaces _ _

/-- The text filled up with spaces. -/
def fillTo (n : Nat) (t : Text) : Text :=
  t ++ spaces (n - t.length)

/-- A filled text is as long as asked, or as it was. -/
theorem length_fillTo (n : Nat) (t : Text) : (fillTo n t).length = max n t.length := by
  rw [fillTo, spaces, List.length_append, List.length_replicate]
  omega

/-- Filling a text up does not show in what is trimmed. -/
theorem trimEnd_fillTo (n : Nat) (t : Text) : trimEnd (fillTo n t) = trimEnd t :=
  trimEnd_append_spaces _ _

/-- A filled printable text is printable. -/
theorem Printable.fillTo {t : Text} (ht : Printable t) (n : Nat) : Printable (fillTo n t) := by
  refine ht.append fun c hc => ?_
  rw [List.eq_of_mem_replicate hc]
  decide

/-! ## Copies -/

/-- Copies of a printable text are printable. -/
theorem Printable.repeatText {t : Text} (ht : Printable t) (n : Nat) : Printable (repeatText n t) :=
  fun c hc => by
    obtain ⟨copy, hcopy, hmem⟩ := List.mem_flatten.1 hc
    rw [List.eq_of_mem_replicate hcopy] at hmem
    exact ht c hmem

/-- Copies made one after the other are copies. -/
theorem repeatText_add (m n : Nat) (t : Text) :
    repeatText (m + n) t = repeatText m t ++ repeatText n t := by
  rw [repeatText, List.replicate_add, List.flatten_append]
  rfl

/-- One copy is the text itself. -/
theorem repeatText_one (t : Text) : repeatText 1 t = t :=
  List.append_nil t

/-- The length of copies. -/
theorem length_repeatText (n : Nat) (t : Text) : (repeatText n t).length = n * t.length := by
  rw [repeatText, List.length_flatten, List.map_replicate, List.sum_replicate_nat]

/-! ## One row -/

/-- The line with a row of a rectangle put into it. -/
def putRow (column width n : Nat) (piece l : Text) : Text :=
  let l := l ++ spaces (column - lineWidth l)
  let col := offsetOfColumn l column
  takeBytes l col ++ blockRow piece width n (byteSize l ≤ col) ++ dropBytes l col

/-- The line as it would be if the last copy of the row was filled up in any case. -/
def gridRow (column width n : Nat) (piece l : Text) : Text :=
  (fillTo column l).take column ++ repeatText n (fillTo width piece) ++
    (fillTo column l).drop column

section Row

variable {column width n : Nat} {piece l : Text}

/-- The beginning of the line up to the column. -/
theorem length_take_fillTo : ((fillTo column l).take column).length = column :=
  List.length_take_of_le (length_fillTo column l ▸ Nat.le_max_left _ _)

section Grid

variable (hwidth : piece.length ≤ width)
include hwidth

/-- The beginning of the line up to a copy of the row. -/
theorem length_take_fillTo_append (k : Nat) :
    ((fillTo column l).take column ++ repeatText k (fillTo width piece)).length =
      column + k * width := by
  rw [List.length_append, length_take_fillTo, length_repeatText, length_fillTo,
    Nat.max_eq_left hwidth]

/-- Each copy of the row stands where it belongs. -/
theorem copy_gridRow {k : Nat} (hk : k < n) :
    ((gridRow column width n piece l).drop (column + k * width)).take width =
      fillTo width piece := by
  obtain ⟨m, rfl⟩ := Nat.exists_eq_add_of_lt hk
  have hcopies : gridRow column width (k + m + 1) piece l =
      ((fillTo column l).take column ++ repeatText k (fillTo width piece)) ++
        (fillTo width piece ++
          (repeatText m (fillTo width piece) ++ (fillTo column l).drop column)) := by
    rw [gridRow, Nat.add_assoc, Nat.add_comm m 1, repeatText_add, repeatText_add, repeatText_one]
    simp only [List.append_assoc]
  rw [hcopies, List.drop_left' (length_take_fillTo_append hwidth k)]
  exact List.take_left' ((length_fillTo _ _).trans (Nat.max_eq_left hwidth))

/-- Around the copies the line is left. -/
theorem around_gridRow :
    (gridRow column width n piece l).take column ++
      (gridRow column width n piece l).drop (column + n * width) = fillTo column l := by
  rw [gridRow, List.drop_left' (length_take_fillTo_append hwidth n), List.append_assoc,
    List.take_left' length_take_fillTo, List.take_append_drop]

end Grid

section Printable

variable (hpiece : Printable piece) (hl : Printable l) (hn : 1 ≤ n)
include hpiece hl hn

/-- Behind a line that ends in the last copy, only spaces are missing. -/
theorem putRow_append_spaces (column width : Nat) :
    ∃ j, putRow column width n piece l ++ spaces j = gridRow column width n piece l := by
  have hfilled := hl.fillTo column
  have hlength : column ≤ (fillTo column l).length := length_fillTo column l ▸ Nat.le_max_left _ _
  have hput : putRow column width n piece l = (fillTo column l).take column ++
      blockRow piece width n ((fillTo column l).length ≤ column) ++ (fillTo column l).drop column := by
    rw [putRow, lineWidth_of_printable hl, ← fillTo, offsetOfColumn_of_printable hfilled,
      Nat.min_eq_left hlength, takeBytes_of_printable hfilled, dropBytes_of_printable hfilled,
      byteSize_of_printable hfilled]
  obtain ⟨m, rfl⟩ := Nat.exists_eq_add_of_le' hn
  rw [hput, blockRow, lineWidth_of_printable hpiece, ← fillTo]
  -- at the line's end the last copy is not padded, inside the line it is
  by_cases hend : (fillTo column l).length ≤ column
  · refine ⟨width - piece.length, ?_⟩
    rw [if_pos (decide_eq_true hend), if_neg (Nat.succ_ne_zero m), Nat.add_sub_cancel, gridRow,
      repeatText_add, repeatText_one, List.drop_eq_nil_of_le hend]
    simp only [fillTo, List.append_nil, List.append_assoc]
  · refine ⟨0, ?_⟩
    rw [if_neg (mt of_decide_eq_true hend)]
    exact List.append_nil _

/-- A row put between printable texts is printable. -/
theorem printable_putRow (column width : Nat) : Printable (putRow column width n piece l) := by
  obtain ⟨j, hgrid⟩ := putRow_append_spaces hpiece hl hn column width
  have hprintable : Printable (gridRow column width n piece l) :=
    (((hl.fillTo column).take column).append ((hpiece.fillTo width).repeatText n)).append
      ((hl.fillTo column).drop column)
  rw [← hgrid] at hprintable
  exact fun c hc => hprintable c (List.mem_append_left _ hc)

variable (hwidth : piece.length ≤ width)
include hwidth

/-- Each copy reads back as the piece, up to spaces at its end. -/
theorem trimEnd_copy_putRow (column : Nat) {k : Nat} (hk : k < n) :
    trimEnd (((putRow column width n piece l).drop (column + k * width)).take width) =
      trimEnd piece := by
  obtain ⟨j, hgrid⟩ := putRow_append_spaces hpiece hl hn column width
  rw [← trimEnd_part_append_spaces _ j, hgrid, copy_gridRow hwidth hk, trimEnd_fillTo]

/-- What is outside of the copies is the old line, up to spaces at its end. -/
theorem trimEnd_outsideBlock_putRow (column : Nat) :
    trimEnd (outsideBlock (putRow column width n piece l) column (column + n * width)) =
      trimEnd l := by
  obtain ⟨j, hgrid⟩ := putRow_append_spaces hpiece hl hn column width
  have hle : column ≤ column + n * width := Nat.le_add_right _ _
  rw [outsideBlock_of_printable (printable_putRow hpiece hl hn column width) hle,
    ← trimEnd_around_append_spaces _ j hle, hgrid, around_gridRow hwidth, trimEnd_fillTo]

end Printable

end Row

/-! ## All rows -/

namespace Document

variable {d : Document}

/-- A row that is missing is added. A line that is not there is empty, and now it is there. -/
theorem extend_row {row : Nat} (hrow : row ≤ d.buffer.lineCount) :
    let d' := if d.lastRow < row then d.insertLines d.buffer.lineCount [[]] else d
    d'.buffer.lineCount = max d.buffer.lineCount (row + 1) ∧ d'.line = d.line := by
  intro d'
  by_cases hlast : d.lastRow < row
  -- a row that is missing is the one just behind the last: it is added empty, and an absent line reads
  -- as empty too
  · have hmissing : ¬ row < d.buffer.lineCount := fun h =>
      Nat.not_le.2 hlast (Buffer.lt_lineCount.1 h)
    have hlines : d'.buffer.lines = d.buffer.lines ++ [[]] := by
      have hempty : ∀ l ∈ [([] : Text)], IsLine l := fun l hl => by
        rw [List.mem_singleton.1 hl]
        exact List.not_mem_nil
      have hcount : d.buffer.lines.length ≤ d.buffer.lineCount := Nat.le_refl _
      rw [show d' = d.insertLines d.buffer.lineCount [[]] from if_pos hlast, insertLines_buffer,
        Buffer.lines_insertLines hempty, List.take_of_length_le hcount,
        List.drop_eq_nil_of_le hcount, List.append_nil]
    refine ⟨?_, funext fun r => ?_⟩
    · rw [Buffer.lineCount, hlines, List.length_append, List.length_singleton]
      exact (by omega : d.buffer.lineCount + 1 = max d.buffer.lineCount (row + 1))
    · show d'.buffer.lines[r]?.getD [] = d.buffer.lines[r]?.getD []
      rw [hlines]
      rcases Nat.lt_or_ge r d.buffer.lines.length with hr | hr
      · rw [List.getElem?_append_left hr]
      · rw [List.getElem?_append_right hr, List.getElem?_eq_none hr]
        cases r - d.buffer.lines.length <;> rfl
  · have hsame : d' = d := if_neg hlast
    have hinside : row < d.buffer.lineCount := Buffer.lt_lineCount.2 (Nat.not_lt.1 hlast)
    rw [hsame]
    exact ⟨(Nat.max_eq_left hinside).symm, rfl⟩

/-- A row of a rectangle is put into the line that is there, or into one that is added. -/
def putRowAt (column width n : Nat) (piece : Text) (d : Document) (row : Nat) : Document :=
  let d := if d.lastRow < row then d.insertLines d.buffer.lineCount [[]] else d
  d.setLine row (putRow column width n piece (d.line row))

/-- The first piece goes on its row, the others on the rows after it. -/
theorem putRows_cons (column width n : Nat) (d : Document) (row : Nat) (piece : Text)
    (later : List Text) :
    putRows column width n d row (piece :: later) =
      putRows column width n (putRowAt column width n piece d row) (row + 1) later := rfl

/-- Putting one piece adds its row where missing and changes that row alone. -/
theorem rowWise_putRowAt {column width n row : Nat} {piece : Text}
    (hrow : row ≤ d.buffer.lineCount)
    (hline : IsLine (putRow column width n piece (d.line row))) :
    let d' := putRowAt column width n piece d row
    d'.buffer.lineCount = max d.buffer.lineCount (row + 1) ∧
      RowWise (fun _ => putRow column width n piece) row 1 d d' := by
  intro d'
  obtain ⟨hcount, hsame⟩ := extend_row hrow
  generalize hextended :
    (if d.lastRow < row then d.insertLines d.buffer.lineCount [[]] else d) = d₁ at hcount hsame
  rw [← hsame] at hline
  have hput : d' = d₁.setLine row (putRow column width n piece (d₁.line row)) := by
    rw [← hextended]
    rfl
  have hset := d₁.setLine_lines row hline
  rw [← hput] at hset
  refine ⟨?_, (RowWise.of_set (by omega) hset).congr hsame.symm rfl⟩
  rw [← hcount, Buffer.lineCount, hset, List.length_set]
  rfl

/-- One row after the other. -/
theorem rowWise_putRows {n : Nat} (hn : 1 ≤ n) {pieces : List Text}
    (hpieces : ∀ piece ∈ pieces, Printable piece) {row : Nat} (hrow : row ≤ d.buffer.lineCount)
    (hlines : ∀ r, Printable (d.line r)) (column width : Nat) :
    let d' := putRows column width n d row pieces
    d'.buffer.lineCount = max d.buffer.lineCount (row + pieces.length) ∧
      RowWise (fun i => putRow column width n (pieces.getD i [])) row pieces.length d d' := by
  induction pieces generalizing d row with
  | nil => exact ⟨(Nat.max_eq_left hrow).symm, .zero d⟩
  | cons piece later ih =>
    have hnew (l : Text) (hl : Printable l) : Printable (putRow column width n piece l) :=
      printable_putRow (hpieces piece List.mem_cons_self) hl hn column width
    obtain ⟨hcount, hfirst⟩ := rowWise_putRowAt hrow (hnew _ (hlines row)).isLine
    have hrow' : row + 1 ≤ (putRowAt column width n piece d row).buffer.lineCount :=
      hcount ▸ Nat.le_max_right _ _
    -- the lines after the first piece are printable still, which the rows to come ask for
    have hlines' := hfirst.forall_line (P := Printable) (fun _ _ l hl => hnew l hl) hlines
    obtain ⟨hcount', hlater⟩ :=
      ih (fun p hp => hpieces p (List.mem_cons_of_mem piece hp)) hrow' hlines'
    rw [putRows_cons]
    refine ⟨?_, .cons hfirst hlater⟩
    rw [hcount', hcount, List.length_cons]
    omega

/-- A block's row of a printable line is a stretch of its characters. -/
theorem blockRowText_of_printable {row : Nat} (hl : Printable (d.line row)) (left width : Nat) :
    d.blockRowText row left (left + width) = ((d.line row).drop left).take width := by
  have hpart := sliceBytes_blockBytes_of_printable hl (Nat.le_add_right left width)
  rwa [Nat.add_sub_cancel_left] at hpart

section Put

variable {column width n top bottom : Nat} {pieces : List Text} {d' : Document} (hn : 1 ≤ n)
  (hpieces : ∀ piece ∈ pieces, Printable piece ∧ piece.length ≤ width)
  (hlines : ∀ row, Printable (d.line row))
  (hput : RowWise (fun i => putRow column width n (pieces.getD i [])) top pieces.length d d')
include hn hpieces hlines hput

/-- After a put, all lines are printable. -/
theorem printable_line_put (row : Nat) : Printable (d'.line row) := by
  refine hput.forall_line (P := Printable) (fun i hi l hl => ?_) hlines row
  rw [List.getD_eq_getElem _ _ hi]
  exact printable_putRow (hpieces _ (List.getElem_mem hi)).1 hl hn column width

variable (hrows : (d'.blockRows top bottom).length = pieces.length)
include hrows

/-- Each copy reads as the rows that were put. -/
theorem map_trimEnd_blockText_put {k : Nat} (hk : k < n) :
    (d'.blockText top bottom (column + k * width) (column + (k + 1) * width)).map trimEnd =
      pieces.map trimEnd := by
  have hpart : column + k * width + width = column + (k + 1) * width := by
    rw [Nat.succ_mul, Nat.add_assoc]
  refine List.ext_getElem ?_ fun i hi hi' => ?_
  · rw [List.length_map, List.length_map, length_blockText, hrows]
  · rw [List.length_map] at hi'
    obtain ⟨hpiece, hwidth⟩ := hpieces _ (List.getElem_mem hi')
    have hprintable := printable_line_put hn hpieces hlines hput (top + i)
    rw [List.getElem_map, List.getElem_map, getElem_blockText, ← hpart,
      blockRowText_of_printable hprintable, hput.rows i hi', List.getD_eq_getElem _ _ hi',
      trimEnd_copy_putRow hpiece (hlines _) hn hwidth column hk]

/-- Without all copies the lines are as they were. -/
theorem trimEnd_line_deleteBlock_put (row : Nat) :
    trimEnd ((d'.deleteBlock top bottom column (column + n * width)).1.line row) =
      trimEnd (d.line row) := by
  obtain ⟨-, hcut⟩ := rowWise_deleteBlock column (column + n * width) d' top bottom
  rw [hrows] at hcut
  by_cases hinside : top ≤ row ∧ row < top + pieces.length
  · obtain ⟨i, rfl⟩ := Nat.exists_eq_add_of_le hinside.1
    have hi : i < pieces.length := Nat.lt_of_add_lt_add_left hinside.2
    obtain ⟨hpiece, hwidth⟩ := hpieces _ (List.getElem_mem hi)
    rw [hcut.rows i hi, hput.rows i hi, List.getD_eq_getElem _ _ hi,
      trimEnd_outsideBlock_putRow hpiece (hlines _) hn hwidth column]
  · have hother : row < top ∨ top + pieces.length ≤ row := by omega
    rw [hcut.others row hother, hput.others row hother]

end Put

/-! ## The whole rectangle -/

/-- The column at which a rectangle is put: the one of the cursor, or behind its cluster. -/
def putColumn (d : Document) (placement : Placement) : Nat :=
  let l := d.line d.cursor.row
  columnOf l d.cursor.col +
    if placement = .after then ((clusterAt l d.cursor.col).map clusterWidth).getD 0 else 0

/-- On a printable line that is in front of a character or behind it. -/
theorem putColumn_of_printable (hl : Printable (d.line d.cursor.row)) (placement : Placement) :
    d.putColumn placement = min d.cursor.col (d.line d.cursor.row).length +
      if placement = .after ∧ d.cursor.col < (d.line d.cursor.row).length then 1 else 0 := by
  rw [putColumn, columnOf_of_printable hl, clusterAt_of_printable hl]
  by_cases hafter : placement = .after
  · rw [if_pos hafter]
    rcases Nat.lt_or_ge d.cursor.col (d.line d.cursor.row).length with hcol | hend
    · have hwidth := clusterWidth_of_printable (hl _ (List.getElem_mem hcol))
      rw [if_pos ⟨hafter, hcol⟩, List.getElem?_eq_getElem hcol, Option.map_some, Option.map_some,
        hwidth, Option.getD_some]
    · rw [if_neg fun h => Nat.not_lt.2 hend h.2, List.getElem?_eq_none hend]
      rfl
  · rw [if_neg hafter, if_neg fun h => hafter h.1]

/-- A block put is its pieces put row by row, as one change. -/
theorem put_of_block {content : RegisterContent} {width : Nat} (hkind : content.kind = .block width)
    (hsome : content.isEmpty = false) (d : Document) (placement : Placement) {n : Nat} (hn : 1 ≤ n) :
    ∃ d', d.put content placement n = some d' ∧ d'.buffer = (putRows (d.putColumn placement) width n
      d.beginChange d.cursor.row content.rows).buffer := by
  refine ⟨(d.beginChange.putBlock content.rows width placement n).endChange.1, ?_, ?_⟩
  · rw [put, if_neg (hsome ▸ Bool.false_ne_true), Nat.max_eq_left hn]
    simp only [hkind]
  · rw [endChange_buffer]
    simp only [putBlock, putColumn, line, beginChange_buffer, beginChange_cursor]
    rfl

/-- **Putting a rectangle.** On printable lines, with the cursor on one of them, and from a register
whose printable rows are no wider than its width: the `n` copies stand side by side, in front of the
cursor or behind its character, and each of them reads as the rows of the register, up to spaces at
the end of a row. Cut out together they leave the lines as they were, up to spaces at the end, where a
line that was added counts as empty. The lines around are the same throughout. The command is one
change: unless it leaves the text and the history alone, one undo takes it back, and one redo puts the
rectangle again. -/
theorem put_block_read_back {content : RegisterContent} {width : Nat}
    (hkind : content.kind = .block width) (hsome : content.isEmpty = false)
    (hpieces : ∀ piece ∈ content.rows, Printable piece ∧ piece.length ≤ width) {d : Document}
    (hlines : ∀ l ∈ d.buffer.lines, Printable l) (hcursor : d.cursor.row ≤ d.lastRow)
    (placement : Placement) {n : Nat} (hn : 1 ≤ n) :
    let top := d.cursor.row
    let past := top + content.rows.length
    let l := d.line top
    let column := min d.cursor.col l.length +
      if placement = .after ∧ d.cursor.col < l.length then 1 else 0
    ∃ d', d.put content placement n = some d' ∧
      let cut := (d'.deleteBlock top (past - 1) column (column + n * width)).1
      (∀ k < n, (d'.blockText top (past - 1) (column + k * width)
        (column + (k + 1) * width)).map trimEnd = content.rows.map trimEnd) ∧
      (∀ row, trimEnd (cut.line row) = trimEnd (d.line row)) ∧
      (∀ row, row < top ∨ past ≤ row → d'.line row = d.line row ∧ cut.line row = d.line row) ∧
      d'.buffer.lineCount = max d.buffer.lineCount past ∧
      cut.buffer.lineCount = d'.buffer.lineCount ∧
      (d.group = none → d.history.Sound →
        d'.buffer = d.buffer ∧ d'.history = d.history ∨
        (d'.undo 1).1.buffer = d.buffer ∧ ((d'.undo 1).1.redo 1).1.buffer = d'.buffer ∧
          d'.history.undoDepth ≤ d.history.undoDepth + 1) := by
  intro top past l column
  obtain ⟨d', hput, hbuffer⟩ := put_of_block hkind hsome d placement hn
  have hbegun : d.beginChange.line = d.line := congrArg Buffer.line (beginChange_buffer d)
  have htop : top ≤ d.beginChange.buffer.lineCount := by
    rw [beginChange_buffer]
    exact (Buffer.lt_lineCount.2 hcursor).le
  have hprintable (row : Nat) : Printable (d.line row) := by
    rcases d.buffer.line_mem_or_eq_nil row with hmem | hnil
    · exact hlines _ hmem
    · rw [line, hnil]
      exact printable_nil
  rw [putColumn_of_printable (hprintable top) placement] at hbuffer
  -- what becomes of the rows
  obtain ⟨hcount, hbegunRows⟩ := rowWise_putRows hn
    (fun piece hpiece => (hpieces piece hpiece).1) htop (hbegun.symm ▸ hprintable) column width
  rw [← hbuffer, beginChange_buffer] at hcount
  have hrows : RowWise (fun i => putRow column width n (content.rows.getD i [])) top
      content.rows.length d d' :=
    hbegunRows.congr hbegun.symm (congrArg Buffer.line hbuffer)
  have hlength : (d'.blockRows top (past - 1)).length = content.rows.length := by
    have hsome : 0 < content.rows.length := List.length_pos_iff.2 content.rows_ne_nil
    have hlast : past - 1 ≤ d'.lastRow := Buffer.lt_lineCount.1 (by omega)
    rw [blockRows, List.length_range']
    omega
  obtain ⟨hcut, hothers⟩ := rowWise_deleteBlock column (column + n * width) d' top (past - 1)
  rw [hlength] at hothers
  refine ⟨d', hput, fun k hk => ?_, fun row => ?_, fun row hrow => ?_, hcount, hcut,
    fun hgroup hsound => ?_⟩
  · exact map_trimEnd_blockText_put hn hpieces hprintable hrows hlength hk
  · exact trimEnd_line_deleteBlock_put hn hpieces hprintable hrows hlength row
  · exact ⟨hrows.others row hrow, (hothers.others row hrow).trans (hrows.others row hrow)⟩
  · have hsettled := (isUnit_put content placement n).settled hgroup
    rw [hput] at hsettled
    rcases hsettled.2 with hkept | hchanged
    · exact .inl ⟨hkept.buffer, hkept.history⟩
    · obtain ⟨hundo, hredo⟩ := hchanged.undo_redo hsound
      exact .inr ⟨hundo, hredo, hchanged.undoDepth_le hsound⟩

/-- A rectangle of ragged rows is put twice behind the cursor: into a line that goes on, at the end of
one that is too short, and into one that is added. -/
theorem put_block_read_back_ragged :
    let d : Document := { buffer := .ofText ['a', 'b', 'c', 'd', '\n', 'a'], cursor := ⟨0, 1⟩ }
    let content := RegisterContent.ofBlock [['1', '2'], ['3'], ['4', '5']] 2
    ∃ d', d.put content .after 2 = some d' ∧
      d'.buffer.lines = [['a', 'b', '1', '2', '1', '2', 'c', 'd'], ['a', ' ', '3', ' ', '3'],
        [' ', ' ', '4', '5', '4', '5']] ∧
      (d'.blockText 0 2 4 6).map trimEnd = [['1', '2'], ['3'], ['4', '5']] ∧
      (∀ row, trimEnd ((d'.deleteBlock 0 2 2 6).1.line row) = trimEnd (d.line row)) ∧
      (d'.undo 1).1.buffer = d.buffer := by
  intro d content
  have hpieces : ∀ piece ∈ content.rows, Printable piece ∧ piece.length ≤ 2 := by decide +kernel
  have hlines : ∀ l ∈ d.buffer.lines, Printable l := by decide +kernel
  have hcursor : d.cursor.row ≤ d.lastRow := by decide +kernel
  have hput : (d.put content .after 2).map (·.buffer.lines) =
      some [['a', 'b', '1', '2', '1', '2', 'c', 'd'], ['a', ' ', '3', ' ', '3'],
        [' ', ' ', '4', '5', '4', '5']] := by decide +kernel
  obtain ⟨d', heq, hread, hleft, -, -, -, hunit⟩ :=
    put_block_read_back rfl rfl hpieces hlines hcursor .after (n := 2) (by decide)
  rw [heq] at hput
  have hnew := Option.some.inj hput
  refine ⟨d', heq, hnew, (hread 1 (by decide)).trans (by decide +kernel), hleft, ?_⟩
  rcases hunit rfl (History.sound_withBound 200) with ⟨hsame, -⟩ | ⟨hundo, -⟩
  · exact absurd (hnew.symm.trans (congrArg Buffer.lines hsame)) (by decide +kernel)
  · exact hundo

end Document

end ModalEditor
