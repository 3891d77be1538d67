import ModalEditor.Proofs.Document.Cut

/-!
# Text in the place of other text

Text is replaced in two steps: what stands between the positions is removed, and the new text is put
in at the first of them. By their character indices both steps are cuts of the whole text
(`text_remove_index`, `text_insert`). Between the steps the first position is brought to a cluster
boundary of the line as it then is. Where characters from both sides of the gap form one cluster, that
boundary lies before the position (`charIndex_remove`): the characters from there on come to stand
behind the new text, and the replacement is not in its place unless they commute
(`Document.replaceRange_text`).
-/

namespace ModalEditor

/-- A beginning of a text, cut at a smaller index. -/
theorem take_eq_append (t : Text) {k i : Nat} (h : k ≤ i) :
    t.take i = t.take k ++ (t.take i).drop k := by
  have htake : (t.take i).take k = t.take k := by rw [List.take_take, Nat.min_eq_left h]
  rw [← htake, List.take_append_drop]

namespace Buffer

/-! ## Character indices -/

/-- Rows with their breaks have as many characters as the indices count. -/
theorem length_flatMap_break (ls : List Text) :
    (ls.flatMap (· ++ ['\n'])).length = charsOf ls := by
  induction ls with
  | nil => rfl
  | cons l ls ih =>
    rw [List.flatMap_cons, List.length_append, ih, List.length_append, List.length_singleton,
      charsOf]

variable (b : Buffer)

/-- The text is what is in front of a position and what is behind it. -/
theorem textBefore_append_textBehind {p : Position} (hrow : p.row < b.lineCount) :
    b.textBefore p ++ b.textBehind p = b.text := by
  have hjoin := joinLines_append (b.lines.take p.row) (b.lineBefore p) (b.lineBehind p)
    (b.lines.drop (p.row + 1))
  rw [← line_eq_append, ← lines_eq_append hrow] at hjoin
  exact hjoin.symm

/-- As many characters are in front of a position as its index says. -/
theorem length_textBefore (p : Position) : (b.textBefore (b.clamp p)).length = b.charIndex p := by
  rw [textBefore, List.length_append, length_flatMap_break]
  rfl

/-- The text up to an index is what is in front of its position. -/
theorem take_charIndex (p : Position) :
    b.text.take (b.charIndex p) = b.textBefore (b.clamp p) := by
  rw [← b.textBefore_append_textBehind (b.inside_clamp p).row, ← b.length_textBefore p,
    List.take_left]

/-- The text from an index on is what is behind its position. -/
theorem drop_charIndex (p : Position) :
    b.text.drop (b.charIndex p) = b.textBehind (b.clamp p) := by
  rw [← b.textBefore_append_textBehind (b.inside_clamp p).row, ← b.length_textBefore p,
    List.drop_left]

/-- The index of a position is in the text. -/
theorem charIndex_le (p : Position) : b.charIndex p ≤ b.text.length := by
  rw [← b.textBefore_append_textBehind (b.inside_clamp p).row, ← length_textBefore,
    List.length_append]
  exact Nat.le_add_right _ _

/-- Text is put in where the position is. -/
theorem text_insert (p : Position) (s : Text) :
    (b.insert p s).1.text =
      b.text.take (b.charIndex p) ++ s ++ b.text.drop (b.charIndex p) := by
  rw [take_charIndex, drop_charIndex, insert, text, lines_replaceRows, joinLines_splitLines_append,
    textBefore, textBehind, joinLines_cons_eq_append (b.lineBehind _)]
  simp only [List.append_assoc]

variable {b} {first past : Position}

/-- What stands between two positions, and is left when it is removed. -/
theorem text_remove_index (hle : ¬ b.clamp past < b.clamp first) :
    b.charIndex first ≤ b.charIndex past ∧
      b.slice first past = (b.text.take (b.charIndex past)).drop (b.charIndex first) ∧
      (b.remove first past).1.text =
        b.text.take (b.charIndex first) ++ b.text.drop (b.charIndex past) := by
  by_cases hlt : b.clamp first < b.clamp past
  · have hpast := b.textBefore_append_textBehind (b.inside_clamp past).row
    have hbefore : b.textBefore (b.clamp past) =
        b.textBefore (b.clamp first) ++ b.slice first past :=
      List.append_cancel_right (hpast.trans (text_eq_slice hlt))
    have hindex : b.charIndex past = b.charIndex first + (b.slice first past).length := by
      rw [← length_textBefore, hbefore, List.length_append, length_textBefore]
    refine ⟨by omega, ?_, ?_⟩
    · rw [take_charIndex, hbefore, ← length_textBefore, List.drop_left]
    · rw [text_remove_of_lt hlt, take_charIndex, drop_charIndex]
  · have hsame : b.charIndex first = b.charIndex past := by
      rw [charIndex, charIndex, Position.eq_of_not_lt hlt hle]
    simp only [remove, slice, if_neg hlt, hsame, List.take_append_drop, and_true]
    exact ⟨Nat.le_refl _, (List.drop_eq_nil_of_le (List.length_take_le _ _)).symm⟩

/-- What is removed leaves the position on its row. -/
theorem clamp_remove (hlt : first < past) (hfirst : b.clamp first = first)
    (hpast : b.clamp past = past) :
    ∃ col ≤ first.col, (b.remove first past).1.clamp first = ⟨first.row, col⟩ ∧
      (b.remove first past).1.charIndex first =
        charsOf (b.lines.take first.row) + (takeBytes (b.lineBefore first) col).length := by
  have hinside := hfirst ▸ b.inside_clamp first
  have hrest : (b.remove first past).1 =
      b.replaceRows first.row (past.row + 1) (b.lineBefore first ++ b.lineBehind past) := by
    simp only [remove, hfirst, hpast, if_pos hlt]
  have hmiddle : splitLines (b.lineBefore first ++ b.lineBehind past) =
      [] ++ (b.lineBefore first ++ b.lineBehind past) :: [] :=
    splitLines_of_isLine (b.isLine_before_behind first past)
  -- the row of the cut holds what was in front of it and what was behind, as one line
  obtain ⟨hrow, hline⟩ := b.line_replaceRows (Nat.le_of_lt hinside.row) (past.row + 1) hmiddle
  have hrows : (b.remove first past).1.lines.take first.row = b.lines.take first.row := by
    rw [hrest, lines_replaceRows, List.append_assoc]
    exact List.take_left' (length_take_lines (Nat.le_of_lt hinside.row))
  rw [← hrest, List.length_nil, Nat.add_zero] at hrow hline
  generalize (b.remove first past).1 = rest at *
  -- the place of the cut may be inside a cluster of that line now
  have hclamp : rest.clamp first = ⟨first.row, floorBoundary (rest.line first.row) first.col⟩ :=
    clamp_row hrow first.col
  have hcol : floorBoundary (rest.line first.row) first.col ≤ first.col := floorIn_le _ _
  refine ⟨_, hcol, hclamp, ?_⟩
  -- the boundary is in the part in front, so its index is told from that part
  have hbytes : floorBoundary (rest.line first.row) first.col ≤ byteSize (b.lineBefore first) :=
    (byteSize_lineBefore hinside).symm ▸ hcol
  rw [charIndex, hclamp, ← takeBytes_append_of_le hbytes (b.lineBehind past), ← hrows]
  exact congrArg (fun l => _ + (takeBytes l _).length) hline

/-- Once the text behind the position is removed, it may lie further in front. -/
theorem charIndex_remove (hfirst : b.clamp first = first) (hpast : b.clamp past = past) :
    (b.remove first past).1.charIndex first ≤ b.charIndex first ∧
      ((b.remove first past).1.charIndex first = b.charIndex first ↔
        (b.remove first past).1.clamp first = first) := by
  by_cases hlt : first < past
  · obtain ⟨col, hcol, hclamp, hindex⟩ := clamp_remove hlt hfirst hpast
    have hinside := hfirst ▸ b.inside_clamp first
    have hbytes := byteSize_lineBefore hinside
    -- as both indices begin with the rows in front, the rest is compared
    have holdIndex : b.charIndex first =
        charsOf (b.lines.take first.row) + (b.lineBefore first).length := by
      rw [charIndex, hfirst]
      rfl
    have hbeginning : takeBytes (b.lineBefore first) col <+: b.lineBefore first :=
      ⟨_, takeBytes_append_dropBytes _ _⟩
    rw [hindex, hclamp, holdIndex, Nat.add_left_cancel_iff, Nat.add_le_add_iff_left]
    refine ⟨hbeginning.length_le, ?_⟩
    have hwhole := takeBytes_eq_self_iff (u := b.lineBefore first) (hbytes.symm ▸ hcol)
    calc (takeBytes (b.lineBefore first) col).length = (b.lineBefore first).length
        ↔ takeBytes (b.lineBefore first) col = b.lineBefore first :=
          ⟨hbeginning.eq_of_length, congrArg List.length⟩
      _ ↔ col = first.col := by rw [hwhole, hbytes]
      _ ↔ (⟨first.row, col⟩ : Position) = first :=
          ⟨congrArg (Position.mk first.row), congrArg Position.col⟩
  · have hrest : (b.remove first past).1 = b := by
      simp only [remove, hfirst, hpast, if_neg hlt]
    rw [hrest]
    exact ⟨Nat.le_refl _, iff_of_true rfl hfirst⟩

/-- The new text is put in where the position is brought to, so it parts what was in front. -/
theorem text_insert_remove (hfirst : b.clamp first = first) (hpast : b.clamp past = past)
    (hle : ¬ past < first) (s : Text) :
    let k := (b.remove first past).1.charIndex first
    ((b.remove first past).1.insert first s).1.text =
      b.text.take k ++ s ++ (b.text.take (b.charIndex first)).drop k ++
        b.text.drop (b.charIndex past) := by
  intro k
  have hk : k ≤ b.charIndex first := (charIndex_remove hfirst hpast).1
  have hlength : k ≤ (b.text.take (b.charIndex first)).length := by
    rwa [List.length_take_of_le (b.charIndex_le first)]
  have hclamped : ¬ b.clamp past < b.clamp first := by rwa [hfirst, hpast]
  rw [text_insert, (text_remove_index hclamped).2.2, List.take_append_of_le_length hlength,
    List.drop_append_of_le_length hlength, List.take_take, Nat.min_eq_left hk]
  simp only [List.append_assoc]

end Buffer

namespace Document

/-- A replacement removes and inserts, unless the text is the same. -/
theorem replaceRange_buffer {d : Document} {first : Position} (hfirst : d.buffer.clamp first = first)
    (past : Position) (s : Text) :
    (d.replaceRange first past s).1.buffer =
      if d.buffer.slice first past = s then d.buffer
      else ((d.buffer.remove first past).1.insert first s).1 := by
  simp only [replaceRange, hfirst]
  split <;> rfl

/-- Text between two positions in order is replaced by text that is put in at the character `k` of
the old text. That is the place `i` of the first position, or a place before it, where the position
is brought to once the text is removed. Then the characters that were between the two places stand
behind the new text, and it is in the place of the old one only if they commute with it. -/
theorem replaceRange_text {d : Document} {first past : Position}
    (hfirst : d.buffer.clamp first = first) (hpast : d.buffer.clamp past = past)
    (hle : ¬ past < first) (s : Text) :
    let old := d.buffer.text
    let new := (d.replaceRange first past s).1.buffer.text
    let i := d.buffer.charIndex first
    let j := d.buffer.charIndex past
    let k := (d.buffer.remove first past).1.charIndex first
    let carried := (old.take i).drop k
    k ≤ i ∧ i ≤ j ∧
      new = (if (old.take j).drop i = s then old
        else old.take k ++ s ++ carried ++ old.drop j) ∧
      (new = old.take i ++ s ++ old.drop j ↔
        (old.take j).drop i = s ∨ carried ++ s = s ++ carried) ∧
      (carried = [] ↔ (d.buffer.remove first past).1.clamp first = first) := by
  intro old new i j k carried
  have hclamped : ¬ d.buffer.clamp past < d.buffer.clamp first := by rwa [hfirst, hpast]
  obtain ⟨hij, hslice, -⟩ := Buffer.text_remove_index hclamped
  obtain ⟨hki, hkeeps⟩ := Buffer.charIndex_remove hfirst hpast
  have hlength : (old.take i).length = i :=
    List.length_take_of_le (d.buffer.charIndex_le first)
  -- what the clamp passes over is carried behind the new text
  have hfront : old.take i = old.take k ++ carried := take_eq_append old hki
  have hold : old = old.take i ++ (old.take j).drop i ++ old.drop j := by
    rw [← take_eq_append old hij, List.take_append_drop]
  have hnew : new = if (old.take j).drop i = s then old
      else old.take k ++ s ++ carried ++ old.drop j := by
    show (d.replaceRange first past s).1.buffer.text = _
    rw [replaceRange_buffer hfirst, hslice, apply_ite Buffer.text,
      Buffer.text_insert_remove hfirst hpast hle]
  refine ⟨hki, hij, hnew, ?_, ?_⟩
  · by_cases hs : (old.take j).drop i = s
    · rw [hnew, if_pos hs, ← hs]
      exact iff_of_true hold (.inl rfl)
    · rw [hnew, if_neg hs, hfront, or_iff_right hs]
      -- the parts in front and behind are the same, so what is between is compared
      simp only [List.append_assoc, List.append_cancel_left_eq]
      rw [← List.append_assoc, ← List.append_assoc, List.append_cancel_right_eq, eq_comm]
  · rw [List.drop_eq_nil_iff, hlength, ← hkeeps]
    exact ⟨fun h => Nat.le_antisymm hki h, fun h => Nat.le_of_eq h.symm⟩

/-- A line break is replaced by another text with one, and nothing is carried along. -/
theorem replaceRange_text_lines :
    let d : Document := { buffer := .ofText ['a', 'b', '\n', 'c'] }
    let first : Position := ⟨0, 1⟩
    let past : Position := ⟨1, 0⟩
    (d.buffer.clamp first = first ∧ d.buffer.clamp past = past ∧ ¬ past < first) ∧
      (d.replaceRange first past ['x', '\n']).1.buffer.text = ['a', 'x', '\n', 'c'] := by
  intro d first past
  have hfirst : d.buffer.clamp first = first := by decide +kernel
  have hpast : d.buffer.clamp past = past := by decide +kernel
  have hle : ¬ past < first := by decide
  obtain ⟨-, -, -, hplace, hcarried⟩ := replaceRange_text hfirst hpast hle ['x', '\n']
  have hnone := hcarried.2 (by decide +kernel)
  exact ⟨⟨hfirst, hpast, hle⟩, hplace.2 (.inr (by rw [hnone]; rfl))⟩

/-- An accent behind a tab is a cluster of its own. Once the tab is removed it joins the letter in
front, and what takes the place of the tab comes to stand before the letter. -/
theorem replaceRange_text_ne :
    ¬ ∀ (d : Document) (first past : Position) (s : Text), d.buffer.clamp first = first →
      d.buffer.clamp past = past → ¬ past < first →
      (d.replaceRange first past s).1.buffer.text =
        d.buffer.text.take (d.buffer.charIndex first) ++ s ++
          d.buffer.text.drop (d.buffer.charIndex past) := by
  intro h
  have hwrong := h { buffer := .ofText ['a', '\t', '\u0301'] } ⟨0, 1⟩ ⟨0, 2⟩ ['x']
    (by decide +kernel) (by decide +kernel) (by decide)
  exact absurd hwrong (by decide +kernel)

end Document

end ModalEditor
