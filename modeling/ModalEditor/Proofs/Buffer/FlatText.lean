import ModalEditor.Proofs.Document.Row

/-!
# A buffer as lines and as one text

A buffer is edited by its lines, and every edit is also one cut of the whole text, in which some
characters are replaced by others (`Buffer.replaced`). For text between positions the cut is made at
their character indices. For whole rows it is made where rows begin: a row goes with the line break
behind it, and the last rows go with the one in front of them (`Buffer.rowChars`), so that no break is
left over. Whichever way an edit is looked at, the outcome is the same (`Buffer.edits_flat`).
-/

namespace ModalEditor

/-- The rows in front, each with its break, and the others joined behind them. -/
theorem joinLines_append_lines (before : List Text) {ls : List Text} (h : ls ≠ []) :
    joinLines (before ++ ls) = before.flatMap (· ++ ['\n']) ++ joinLines ls := by
  obtain ⟨l, behind, rfl⟩ := List.exists_cons_of_ne_nil h
  have hjoin := joinLines_append before [] l behind
  rwa [List.nil_append, List.append_nil] at hjoin

namespace Buffer

variable (b : Buffer)

/-- The text with another one in the place of the characters from `i` up to but without `j`. -/
def replaced (i j : Nat) (s : Text) : Text :=
  b.text.take i ++ s ++ b.text.drop j

/-- How many characters stand in front of a row. -/
def rowStart (row : Nat) : Nat :=
  charsOf (b.lines.take row)

/-- The characters that go with the rows from `first` to `last`, from the first of them up to but
without the second number. The break behind the rows is one of them, or the one in front of them if
they are the last. -/
def rowChars (first last : Nat) : Nat × Nat :=
  if last < b.lastRow then (b.rowStart first, b.rowStart (last + 1))
  else if 0 < first then (b.rowStart first - 1, b.text.length)
  else (0, b.text.length)

/-! ## Where rows begin -/

variable {b}

/-- The text is the rows in front of a row and those from it on. -/
theorem text_eq_rows {row : Nat} (hrow : row < b.lineCount) :
    b.text = (b.lines.take row).flatMap (· ++ ['\n']) ++ joinLines (b.lines.drop row) := by
  have hbehind : b.lines.drop row ≠ [] := fun h => by
    rw [List.drop_eq_nil_iff] at h
    exact absurd hrow (Nat.not_lt.2 h)
  rw [← joinLines_append_lines _ hbehind, List.take_append_drop, text]

/-- In front of the place where a row begins are the rows in front, each with its break. -/
theorem take_rowStart {row : Nat} (hrow : row < b.lineCount) :
    b.text.take (b.rowStart row) = (b.lines.take row).flatMap (· ++ ['\n']) := by
  rw [text_eq_rows hrow, rowStart, ← length_flatMap_break, List.take_left]

/-- From there on are the other rows. -/
theorem drop_rowStart {row : Nat} (hrow : row < b.lineCount) :
    b.text.drop (b.rowStart row) = joinLines (b.lines.drop row) := by
  rw [text_eq_rows hrow, rowStart, ← length_flatMap_break, List.drop_left]

/-- In front of a row other than the first is a line break. -/
theorem take_rowStart_sub_one {row : Nat} (hrow : row < b.lineCount) (hpos : 0 < row) :
    b.text.take (b.rowStart row - 1) = joinLines (b.lines.take row) := by
  have hne : b.lines.take row ≠ [] := fun h => by
    have hlength := length_take_lines (Nat.le_of_lt hrow)
    rw [h, List.length_nil] at hlength
    omega
  have hfront := flatMap_break hne
  have hlength : b.rowStart row = (joinLines (b.lines.take row)).length + 1 := by
    rw [rowStart, ← length_flatMap_break, hfront, List.length_append, List.length_singleton]
  rw [text_eq_rows hrow, hfront, hlength, Nat.add_sub_cancel, List.append_assoc, List.take_left]

/-! ## Text between positions -/

/-- The lines of a buffer are those of its text. -/
theorem lines_eq_splitLines (b : Buffer) : b.lines = splitLines b.text :=
  (splitLines_joinLines b.lines_ne_nil b.isLine).symm

/-- Inserting in lines is inserting in the text. -/
theorem lines_insert (p : Position) (s : Text) :
    (b.insert p s).1.lines = splitLines (b.replaced (b.charIndex p) (b.charIndex p) s) := by
  rw [lines_eq_splitLines, text_insert, replaced]

/-- What is removed is what is between the positions. -/
theorem remove_snd (p q : Position) : (b.remove p q).2 = b.slice p q := by
  simp only [remove, slice]
  split <;> rfl

/-- What is removed, and what is left. If the positions are not in order, that is nothing and all. -/
theorem remove_flat (p q : Position) :
    (b.remove p q).2 = (b.text.take (b.charIndex q)).drop (b.charIndex p) ∧
      (b.remove p q).1.text =
        b.replaced (b.charIndex p) (max (b.charIndex p) (b.charIndex q)) [] := by
  rw [remove_snd, replaced, List.append_nil]
  by_cases hback : b.clamp q < b.clamp p
  · have hle := (text_remove_index (Position.lt_asymm hback)).1
    have hlength := List.length_take_le (b.charIndex q) b.text
    simp only [remove, slice, if_neg (Position.lt_asymm hback)]
    rw [List.drop_eq_nil_of_le (hlength.trans hle), Nat.max_eq_left hle, List.take_append_drop]
    exact ⟨rfl, rfl⟩
  · obtain ⟨hle, hslice, hrest⟩ := text_remove_index hback
    rw [Nat.max_eq_right hle]
    exact ⟨hslice, hrest⟩

/-! ## Whole lines -/

/-- There is one line more than the index of the last row. -/
theorem length_lines (b : Buffer) : b.lines.length = b.lastRow + 1 :=
  (Nat.sub_add_cancel b.lineCount_pos).symm

/-- Rows beyond the last are no rows. -/
theorem rows_min_lastRow (first last : Nat) :
    b.rows first (min last b.lastRow) = b.rows first last := by
  have hlength := b.length_lines
  rcases Nat.le_total last b.lastRow with hle | hle
  · rw [Nat.min_eq_left hle]
  · rw [Nat.min_eq_right hle, rows, rows, List.take_of_length_le (Nat.le_of_eq hlength),
      List.take_of_length_le (by omega)]

/-- A range without rows removes none. -/
theorem removeLines_of_lt {first last : Nat} (hlt : min last b.lastRow < first) :
    b.removeLines first last = (b, []) := by
  rw [removeLines, if_pos hlt]

/-- Rows that are removed leave those in front and those behind. -/
theorem removeLines_of_le {first last : Nat} (hle : first ≤ min last b.lastRow) :
    (b.removeLines first last).1 =
        ofLines (b.lines.take first ++ b.lines.drop (min last b.lastRow + 1)) ∧
      (b.removeLines first last).2 = b.rows first last := by
  rw [removeLines, if_neg (Nat.not_lt.2 hle), rows_min_lastRow]
  exact ⟨rfl, rfl⟩

/-- The rows that are removed, and the lines that are left. -/
theorem removeLines_lines (first last : Nat) :
    let kept := b.lines.take first ++ b.lines.drop (max first (last + 1))
    (b.removeLines first last).2 = b.rows first last ∧
      (b.removeLines first last).1.lines = if kept = [] then [[]] else kept := by
  intro kept
  have hlength := b.length_lines
  rcases Nat.lt_or_ge (min last b.lastRow) first with hlt | hle
  · -- the rows are not in order, or below the text
    have hkept : kept = b.lines := by
      rcases Nat.lt_or_ge last first with horder | hbelow
      · show b.lines.take first ++ b.lines.drop (max first (last + 1)) = b.lines
        rw [Nat.max_eq_left (Nat.succ_le_of_lt horder), List.take_append_drop]
      · show b.lines.take first ++ b.lines.drop (max first (last + 1)) = b.lines
        rw [List.take_of_length_le (by omega), List.drop_eq_nil_of_le (by omega), List.append_nil]
    have hnone : b.rows first last = [] := by
      rw [rows, List.drop_eq_nil_iff, List.length_take]
      omega
    rw [removeLines_of_lt hlt, hkept, if_neg b.lines_ne_nil, hnone]
    exact ⟨rfl, rfl⟩
  · have hdrop : b.lines.drop (min last b.lastRow + 1) = b.lines.drop (max first (last + 1)) := by
      rcases Nat.le_total last b.lastRow with hin | hpast
      · rw [Nat.min_eq_left hin, Nat.max_eq_right (by omega)]
      · rw [List.drop_eq_nil_of_le (by omega), List.drop_eq_nil_of_le (by omega)]
    refine ⟨(removeLines_of_le hle).2, ?_⟩
    rw [lines_removeLines (by omega) (by omega), hdrop]

/-- Rows are removed with one line break for each of them, as far as there is one. -/
theorem text_removeLines {first last : Nat} (hle : first ≤ min last b.lastRow) :
    (b.removeLines first last).1.text =
      b.replaced (b.rowChars first (min last b.lastRow)).1
        (b.rowChars first (min last b.lastRow)).2 [] := by
  have hlength : b.lineCount = b.lastRow + 1 := b.length_lines
  rw [(removeLines_of_le hle).1, ofLines, text_ofText, replaced, List.append_nil, rowChars]
  generalize hrow : min last b.lastRow = row at hle
  have hrow' : row ≤ b.lastRow := hrow ▸ Nat.min_le_right _ _
  split
  · rename_i hlt
    have hbehind : b.lines.drop (row + 1) ≠ [] := fun h => by
      have hend := List.drop_eq_nil_iff.1 h
      have hlines := b.length_lines
      omega
    rw [joinLines_append_lines _ hbehind, take_rowStart (by omega), drop_rowStart (by omega)]
  · -- the last rows are removed
    rename_i hend
    have hnone : b.lines.drop (row + 1) = [] :=
      List.drop_eq_nil_of_le (by rw [b.length_lines]; omega)
    rw [hnone, List.append_nil]
    split
    · rename_i hpos
      rw [List.drop_length, List.append_nil, take_rowStart_sub_one (by omega) hpos]
    · rename_i hzero
      rw [Nat.eq_zero_of_not_pos hzero, List.drop_length]
      rfl

/-- Lines come with a break behind the last of them, or with one in front at the end of the text. -/
theorem text_insertLines (row : Nat) {ls : List Text} (hne : ls ≠ []) (hls : ∀ l ∈ ls, IsLine l) :
    (b.insertLines row ls).text =
      if row < b.lineCount then
        b.replaced (b.rowStart row) (b.rowStart row) (joinLines ls ++ ['\n'])
      else b.replaced b.text.length b.text.length ('\n' :: joinLines ls) := by
  rw [text, lines_insertLines hls]
  split
  · rename_i hrow
    have hbehind : b.lines.drop row ≠ [] := fun h =>
      absurd hrow (Nat.not_lt.2 (List.drop_eq_nil_iff.1 h))
    rw [joinLines_append_lines _ hbehind, List.flatMap_append, flatMap_break hne, replaced,
      take_rowStart hrow, drop_rowStart hrow]
  · rename_i hend
    have hlength : b.lines.length ≤ row := Nat.not_lt.1 hend
    rw [List.take_of_length_le hlength, List.drop_eq_nil_of_le hlength, List.append_nil,
      joinLines_append_lines _ hne, flatMap_break b.lines_ne_nil, replaced, List.take_length,
      List.drop_length, List.append_nil, List.append_assoc]
    rfl

/-- The characters of a line are replaced, and its break is left. -/
theorem text_setLine {row : Nat} (hrow : row < b.lineCount) {s : Text} (hs : IsLine s) :
    (b.setLine row s).text =
      b.replaced (b.rowStart row) (b.rowStart row + (b.line row).length) s := by
  have hbehind : b.text.drop (b.rowStart row + (b.line row).length) =
      joinLines ([] :: b.lines.drop (row + 1)) := by
    have hlines := lines_eq_append hrow
    have hdrop : b.lines.drop row = b.line row :: b.lines.drop (row + 1) := by
      conv_lhs => rw [hlines]
      exact List.drop_left' (length_take_lines (Nat.le_of_lt hrow))
    rw [← List.drop_drop, drop_rowStart hrow, hdrop, joinLines_cons_eq_append, List.drop_left]
  rw [text, lines_setLine b row hs, set_lines hrow,
    joinLines_append_lines _ (List.cons_ne_nil _ _), joinLines_cons_eq_append, replaced,
    take_rowStart hrow, hbehind, List.append_assoc]

/-! ## All edits -/

/-- **Lines and text agree.** What every edit of a buffer does to its lines, and what it does to its
text. Text is put in and removed at the character indices of the positions, and the place behind text
that was put in is the one of the character behind it. Rows are removed from the list of lines, of
which one empty line is left if there is no other; lines are put into the list, behind all of it if
there is no such row, or take the place of one; and a buffer of lines has these lines. In the text the
rows come and go with their line breaks. -/
theorem edits_flat (b : Buffer) :
    (∀ (p : Position) (s : Text),
      let i := b.charIndex p
      (b.insert p s).1.lines = splitLines (b.text.take i ++ s ++ b.text.drop i) ∧
        (b.insert p s).2 = (b.insert p s).1.positionOf (i + s.length)) ∧
    (∀ p q : Position,
      let i := b.charIndex p
      let j := b.charIndex q
      (b.remove p q).2 = (b.text.take j).drop i ∧
        (b.remove p q).1.lines = splitLines (b.text.take i ++ b.text.drop (max i j))) ∧
    (∀ first last : Nat,
      let kept := b.lines.take first ++ b.lines.drop (max first (last + 1))
      (b.removeLines first last).2 = (b.lines.take (last + 1)).drop first ∧
        (b.removeLines first last).1.lines = (if kept = [] then [[]] else kept) ∧
        (first ≤ min last b.lastRow →
          (b.removeLines first last).1.text =
            b.replaced (b.rowChars first (min last b.lastRow)).1
              (b.rowChars first (min last b.lastRow)).2 [])) ∧
    (∀ (row : Nat) (ls : List Text), ls ≠ [] → (∀ l ∈ ls, IsLine l) →
      (b.insertLines row ls).lines = b.lines.take row ++ ls ++ b.lines.drop row ∧
        (b.insertLines row ls).text =
          if row < b.lineCount then
            b.replaced (b.rowStart row) (b.rowStart row) (joinLines ls ++ ['\n'])
          else b.replaced b.text.length b.text.length ('\n' :: joinLines ls)) ∧
    (∀ (row : Nat) (s : Text), IsLine s →
      (b.setLine row s).lines = b.lines.set row s ∧
        (row < b.lineCount → (b.setLine row s).text =
          b.replaced (b.rowStart row) (b.rowStart row + (b.line row).length) s)) ∧
    ∀ ls : List Text, ls ≠ [] → (∀ l ∈ ls, IsLine l) → (ofLines ls).lines = ls := by
  -- each operation by its own two views: the lines that it leaves and the text that they make
  refine ⟨fun p s => ⟨lines_insert p s, b.insert_snd p s⟩, fun p q => ?_, fun first last => ?_,
    fun row ls hne hls => ⟨lines_insertLines hls, text_insertLines row hne hls⟩,
    fun row s hs => ⟨b.lines_setLine row hs, fun hrow => text_setLine hrow hs⟩,
    fun ls hne hls => ?_⟩
  · obtain ⟨hremoved, hleft⟩ := b.remove_flat p q
    refine ⟨hremoved, ?_⟩
    rw [lines_eq_splitLines, hleft, replaced, List.append_nil]
  · obtain ⟨hremoved, hleft⟩ := b.removeLines_lines first last
    exact ⟨hremoved, hleft, text_removeLines⟩
  · rw [lines_ofLines hls, if_neg hne]

/-- The last rows go with the line break in front of them, lines are put in behind the empty last row,
and what is removed reaches from the end of a row to the beginning of another. -/
theorem edits_flat_end :
    let b := ofText "a\nbb\n".toList
    let ls := ["x".toList, []]
    (ls ≠ [] ∧ ∀ l ∈ ls, IsLine l) ∧ 1 ≤ min 2 b.lastRow ∧
      (b.removeLines 1 2).1.text = "a".toList ∧
      (b.insertLines 3 ls).text = "a\nbb\n\nx\n".toList ∧
      (b.remove ⟨0, 1⟩ ⟨2, 0⟩).2 = "\nbb\n".toList := by
  intro b ls
  obtain ⟨-, hremove, hremoveLines, hinsertLines, -, -⟩ := b.edits_flat
  have hls : ls ≠ [] ∧ ∀ l ∈ ls, IsLine l := by decide
  have hrows : 1 ≤ min 2 b.lastRow := by decide
  refine ⟨hls, hrows, ?_, ?_, ?_⟩
  · rw [(hremoveLines 1 2).2.2 hrows]
    decide +kernel
  · rw [(hinsertLines 3 ls hls.1 hls.2).2]
    decide +kernel
  · rw [(hremove ⟨0, 1⟩ ⟨2, 0⟩).1]
    decide +kernel

end Buffer

end ModalEditor
