import ModalEditor.Editor.Ex
import ModalEditor.Proofs.Command.Exclusive
import ModalEditor.Proofs.Document.Row
import ModalEditor.Proofs.Motion.Column

/-!
# Lines that are substituted one after the other

A line may become several, and then the lines below it move down. Where a substitution stands among
the lines is told by the lines that it has left and those that are still to come
(`Substitution.StandsAt`): each step replaces the line that is next (`StandsAt.substituteRow`), so the
lines of a range are replaced by what becomes of each of them, in order (`StandsAt.foldl`).

The cursor goes to the last row of what became of the latest line that was changed
(`substitute_eq_some`). Lines that stay as they are are not touched, so if there is no line that is
changed there is nothing to be done (`substitute_eq_none`).
-/

namespace ModalEditor

theorem length_splitLines (t : Text) : (splitLines t).length = t.count '\n' + 1 := by
  induction t with
  | nil => rfl
  | cons c t ih =>
    by_cases hc : c = '\n'
    · rw [splitLines, if_pos hc, hc, List.length_cons, ih, List.count_cons_self]
    · obtain ⟨l, ls, hlines⟩ := List.exists_cons_of_ne_nil (splitLines_ne_nil t)
      rw [splitLines, if_neg hc, List.count_cons_of_ne hc, ← ih, hlines, consToFirst,
        List.length_cons, List.length_cons]

/-- The lines that become of lines, each of which is rewritten on its own. -/
def rewriteLines (edit : Text → Text) (ls : List Text) : List Text :=
  ls.flatMap fun l => splitLines (edit l)

section RewriteLines

variable {edit : Text → Text}

theorem rewriteLines_append (ls ms : List Text) :
    rewriteLines edit (ls ++ ms) = rewriteLines edit ls ++ rewriteLines edit ms :=
  List.flatMap_append

theorem rewriteLines_cons (l : Text) (ls : List Text) :
    rewriteLines edit (l :: ls) = splitLines (edit l) ++ rewriteLines edit ls :=
  List.flatMap_cons

theorem length_le_rewriteLines (edit : Text → Text) (ls : List Text) :
    ls.length ≤ (rewriteLines edit ls).length := by
  induction ls with
  | nil => exact Nat.le_refl 0
  | cons l ls ih =>
    rw [rewriteLines_cons, List.length_append, length_splitLines, List.length_cons]
    omega

/-- Lines that come out as they were were rewritten to themselves. -/
theorem eq_of_rewriteLines_eq {ls : List Text} (h : rewriteLines edit ls = ls) {l : Text}
    (hl : l ∈ ls) : edit l = l := by
  induction ls with
  | nil => exact absurd hl List.not_mem_nil
  | cons m ls ih =>
    rw [rewriteLines_cons] at h
    -- no line is lost, so the first one became a single line
    have hlength := congrArg List.length h
    have hle := length_le_rewriteLines edit ls
    rw [List.length_append, length_splitLines, List.length_cons] at hlength
    have hone : (splitLines (edit m)).length = 1 := by
      rw [length_splitLines]
      omega
    obtain ⟨m', hm'⟩ := List.length_eq_one_iff.1 hone
    rw [hm', List.singleton_append, List.cons.injEq] at h
    obtain ⟨rfl, hrest⟩ := h
    rcases List.mem_cons.1 hl with rfl | hl
    · rw [← joinLines_splitLines (edit l), hm']
      rfl
    · exact ih hrest hl

/-- Either all lines stay as they are, or there is a last one that does not. -/
theorem forall_or_last_ne (edit : Text → Text) (ls : List Text) :
    (∀ l ∈ ls, edit l = l) ∨
      ∃ front l kept, ls = front ++ l :: kept ∧ edit l ≠ l ∧ ∀ m ∈ kept, edit m = m := by
  induction ls with
  | nil => exact .inl (List.forall_mem_nil _)
  | cons l ls ih =>
    rcases ih with hsame | ⟨front, m, kept, rfl, hne, hkept⟩
    · by_cases hl : edit l = l
      · exact .inl (List.forall_mem_cons.2 ⟨hl, hsame⟩)
      · exact .inr ⟨[], l, ls, rfl, hl, hsame⟩
    · exact .inr ⟨l :: front, m, kept, rfl, hne, hkept⟩

end RewriteLines

namespace Buffer

variable {b : Buffer} {front behind : List Text} {l : Text}

/-- The text of a whole row. -/
theorem slice_wholeRow (h : b.lines = front ++ l :: behind) :
    b.slice ⟨front.length, 0⟩ ⟨front.length, byteSize l⟩ = l := by
  have hline : b.line front.length = l := line_eq_of_lines h
  have hall := sliceBytes_append [] l []
  rw [List.nil_append, List.append_nil, byteSize_nil, Nat.zero_add] at hall
  have hslice := slice_row (lt_lineCount_of_lines h) (parts_zero _) (parts_byteSize _)
    (Nat.zero_le _)
  rw [hline] at hslice
  exact hslice.trans hall

/-- A text takes the place of a row. -/
theorem lines_insert_remove (h : b.lines = front ++ l :: behind) (t : Text) :
    ((b.remove ⟨front.length, 0⟩ ⟨front.length, byteSize l⟩).1.insert ⟨front.length, 0⟩ t).1.lines =
      front ++ splitLines t ++ behind := by
  have hline : b.line front.length = l := line_eq_of_lines h
  have hrow : front.length < b.lineCount := lt_lineCount_of_lines h
  have hnone : takeBytes l 0 = [] := takeBytes_append_byteSize [] l
  -- the row is emptied first
  have hremove : (b.remove ⟨front.length, 0⟩ ⟨front.length, byteSize l⟩).1 =
      b.setLine front.length [] := by
    have hwhole := remove_row hrow (parts_zero _) (parts_byteSize _) (Nat.zero_le _)
    rwa [hline, hnone, dropBytes_byteSize] at hwhole
  have hemptied : (b.setLine front.length []).lines = front ++ [] :: behind := by
    rw [lines_setLine b _ List.not_mem_nil, h, List.set_append_right _ _ (Nat.le_refl _),
      Nat.sub_self, List.set_cons_zero]
  have hempty : (b.setLine front.length []).line front.length = [] := line_eq_of_lines hemptied
  have hrow' : front.length < (b.setLine front.length []).lineCount :=
    lt_lineCount_of_lines hemptied
  have htake : (front ++ [] :: behind).take front.length = front := List.take_left
  have hdrop : (front ++ [] :: behind).drop (front.length + 1) = behind := by
    rw [List.append_cons]
    exact List.drop_left' (by rw [List.length_append, List.length_singleton])
  rw [hremove, insert_row hrow', hempty, takeBytes, dropBytes, List.nil_append, List.append_nil,
    setLine, if_pos hrow', lines_replaceRows, hemptied, htake, hdrop]

/-- A row between others is one of the lines between them. -/
theorem line_mem_of_lines {ls : List Text} (h : b.lines = front ++ ls ++ behind) {row : Nat}
    (hfirst : front.length ≤ row) (hlast : row < front.length + ls.length) : b.line row ∈ ls := by
  obtain ⟨i, rfl⟩ := Nat.exists_eq_add_of_le hfirst
  have hi : i < ls.length := by omega
  have hsplit : ls = ls.take i ++ ls[i] :: ls.drop (i + 1) := by
    rw [← List.drop_eq_getElem_cons hi, List.take_append_drop]
  have hlines : b.lines = (front ++ ls.take i) ++ ls[i] :: (ls.drop (i + 1) ++ behind) := by
    rw [h]
    conv_lhs => rw [hsplit]
    simp only [List.append_assoc, List.cons_append]
  have hline := line_eq_of_lines hlines
  rw [List.length_append, List.length_take_of_le (Nat.le_of_lt hi)] at hline
  rw [hline]
  exact List.getElem_mem hi

/-- The row of a line parts the lines of a range: those from the first one to it, and those below. -/
theorem row_of_lines {above below : List Text}
    (h : b.lines = front ++ (above ++ l :: below) ++ behind) :
    b.line (front.length + above.length) = l ∧
      b.rows front.length (front.length + above.length) = above ++ [l] ∧
      ∀ row, front.length + above.length < row →
        row < front.length + (above ++ l :: below).length → b.line row ∈ below := by
  have hline : b.lines = (front ++ above) ++ l :: (below ++ behind) := by
    rw [h]
    simp only [List.append_assoc, List.cons_append]
  have hbelow : b.lines = (front ++ above ++ [l]) ++ below ++ behind := by
    rw [hline]
    simp only [List.append_assoc, List.cons_append, List.nil_append]
  have hupto : b.lines = front ++ (above ++ [l]) ++ (below ++ behind) := by
    rw [hbelow]
    simp only [List.append_assoc]
  refine ⟨?_, rows_of_lines hupto ?_, fun row hrow hlast => line_mem_of_lines hbelow ?_ ?_⟩
  · rw [← List.length_append]
    exact line_eq_of_lines hline
  · rw [List.length_append, List.length_singleton, Nat.add_assoc]
  · simp only [List.length_append, List.length_singleton]
    exact hrow
  · simp only [List.length_append, List.length_cons, List.length_nil] at hlast ⊢
    omega

/-- The first text of a row is a place where the cursor may rest. -/
theorem rest_firstText {row : Nat} (hrow : row < b.lineCount) :
    b.rest (b.firstText ⟨row, 0⟩) = b.firstText ⟨row, 0⟩ := by
  obtain ⟨before, rest, hclusters, hsize, -⟩ := exists_firstNonBlankIn (clusters (b.line row))
  have hparts : Parts (clusters (b.line row)) (firstNonBlank (b.line row)) :=
    ⟨before, rest, hclusters, hsize⟩
  have hplace : b.clamp (b.firstText ⟨row, 0⟩) = b.firstText ⟨row, 0⟩ :=
    clamp_of_parts hrow (hparts.min (parts_restLimit _ false))
  rw [Buffer.rest, hplace]
  exact congrArg (Position.mk row) (Nat.min_eq_left (Nat.min_le_right _ _))

end Buffer

namespace Document

/-- The next line is that of the row, which is as far down as lines were added: in front of it are the
lines that were left, and behind it those that are still to come. -/
structure Substitution.StandsAt (s : Substitution) (row : Nat) (front behind : List Text) : Prop where
  lines : s.document.buffer.lines = front ++ behind
  row : row + s.shift = front.length

namespace Substitution.StandsAt

variable {edit : Text → Text} {s : Substitution} {row : Nat} {front behind : List Text} {l : Text}

theorem line (h : s.StandsAt row front (l :: behind)) :
    s.document.line front.length = l :=
  Buffer.line_eq_of_lines h.lines

/-- A line that stays as it is is not touched. -/
theorem substituteRow_of_eq (h : s.StandsAt row front (l :: behind)) (hsame : edit l = l) :
    substituteRow edit s row = s := by
  simp only [substituteRow, h.row, h.line, if_pos hsame]

/-- A line that is changed moves those below it down. -/
theorem substituteRow_of_ne (h : s.StandsAt row front (l :: behind)) (hne : edit l ≠ l) :
    (substituteRow edit s row).StandsAt (row + 1) (front ++ splitLines (edit l)) behind ∧
      (substituteRow edit s row).lastChanged =
        some ((front ++ splitLines (edit l)).length - 1) := by
  have hclamp : s.document.buffer.clamp ⟨front.length, 0⟩ = ⟨front.length, 0⟩ :=
    Buffer.clamp_of_parts (Buffer.lt_lineCount_of_lines h.lines) (parts_zero _)
  have hslice := Buffer.slice_wholeRow h.lines
  have hlines := Buffer.lines_insert_remove h.lines (edit l)
  simp only [substituteRow, h.row, h.line, if_neg hne]
  refine ⟨⟨?_, ?_⟩, ?_⟩
  · rw [replaceRange_buffer hclamp, hslice, if_neg (Ne.symm hne)]
    exact hlines
  · rw [List.length_append, length_splitLines, ← h.row]
    dsimp only
    omega
  · rw [List.length_append, length_splitLines]
    rfl

/-- One line is replaced by what becomes of it. -/
theorem substituteRow (h : s.StandsAt row front (l :: behind)) (edit : Text → Text) :
    (Document.substituteRow edit s row).StandsAt (row + 1) (front ++ splitLines (edit l)) behind := by
  by_cases hsame : edit l = l
  · have hline : IsLine l := h.line ▸ s.document.buffer.isLine_line _
    rw [h.substituteRow_of_eq hsame, hsame, splitLines_of_isLine hline]
    refine ⟨h.lines.trans (List.append_cons _ _ _), ?_⟩
    rw [List.length_append, List.length_singleton, ← h.row]
    omega
  · exact (h.substituteRow_of_ne hsame).1

/-- The lines of a range are replaced by what becomes of them. -/
theorem foldl {ls : List Text} (h : s.StandsAt row front (ls ++ behind)) (edit : Text → Text) :
    ((List.range' row ls.length).foldl (Document.substituteRow edit) s).StandsAt (row + ls.length)
      (front ++ rewriteLines edit ls) behind := by
  induction ls generalizing s row front with
  | nil => rwa [rewriteLines, List.flatMap_nil, List.append_nil]
  | cons l ls ih =>
    have hrest := ih (h.substituteRow edit)
    rw [List.length_cons, List.range'_succ, List.foldl_cons, rewriteLines_cons,
      ← List.append_assoc, Nat.add_comm ls.length, ← Nat.add_assoc]
    exact hrest

/-- Lines that all stay as they are are not touched. -/
theorem foldl_of_eq {ls : List Text} (h : s.StandsAt row front (ls ++ behind))
    (hsame : ∀ l ∈ ls, edit l = l) :
    (List.range' row ls.length).foldl (Document.substituteRow edit) s = s := by
  induction ls generalizing row front with
  | nil => rfl
  | cons l ls ih =>
    obtain ⟨hl, hls⟩ := List.forall_mem_cons.1 hsame
    have hkept := h.substituteRow_of_eq hl
    have hnext := h.substituteRow edit
    rw [hkept] at hnext
    rw [List.length_cons, List.range'_succ, List.foldl_cons, hkept]
    exact ih hnext hls

/-- Behind the latest line that is changed nothing more happens, and it ends in the row that is
remembered. -/
theorem lastChanged_foldl {ls kept : List Text}
    (h : s.StandsAt row front ((ls ++ l :: kept) ++ behind)) (hne : edit l ≠ l)
    (hkept : ∀ m ∈ kept, edit m = m) :
    ((List.range' row (ls ++ l :: kept).length).foldl (Document.substituteRow edit) s).lastChanged =
      some ((front ++ rewriteLines edit (ls ++ [l])).length - 1) := by
  rw [List.append_assoc] at h
  have hchanged := h.foldl edit
  obtain ⟨hnext, hlast⟩ := hchanged.substituteRow_of_ne hne
  rw [List.length_append, List.length_cons, ← List.range'_append_1, List.foldl_append,
    List.range'_succ, List.foldl_cons, hnext.foldl_of_eq hkept, hlast, rewriteLines_append,
    rewriteLines_cons, rewriteLines, rewriteLines, List.flatMap_nil, List.append_nil,
    List.append_assoc]

end Substitution.StandsAt

variable {d : Document} {edit : Text → Text} {front behind : List Text} {range : LineRange}

/-- If no line of the range is changed there is nothing to be done. -/
theorem substitute_eq_none {ls : List Text} (h : d.buffer.lines = front ++ ls ++ behind)
    (hsame : ∀ l ∈ ls, edit l = l) (hfirst : range.first = front.length)
    (hcount : range.rowCount = ls.length) : d.substitute range edit = none := by
  have hstart : (Substitution.mk d 0 none).StandsAt front.length front (ls ++ behind) :=
    ⟨h.trans (List.append_assoc _ _ _), Nat.add_zero _⟩
  simp only [substitute, hfirst, hcount, hstart.foldl_of_eq hsame, Option.map_none]

/-- The lines of the range are replaced by what becomes of them, and the cursor goes to the last row
of what became of the latest line that was changed. -/
theorem substitute_eq_some {ls kept : List Text} {l : Text}
    (h : d.buffer.lines = front ++ (ls ++ l :: kept) ++ behind) (hne : edit l ≠ l)
    (hkept : ∀ m ∈ kept, edit m = m) (hfirst : range.first = front.length)
    (hcount : range.rowCount = (ls ++ l :: kept).length) :
    ∃ d', d.substitute range edit = some d' ∧
      d'.buffer.lines = front ++ rewriteLines edit (ls ++ l :: kept) ++ behind ∧
      d'.cursor = d'.buffer.firstText ⟨(front ++ rewriteLines edit (ls ++ [l])).length - 1, 0⟩ := by
  have hstart : (Substitution.mk d 0 none).StandsAt front.length front ((ls ++ l :: kept) ++ behind) :=
    ⟨h.trans (List.append_assoc _ _ _), Nat.add_zero _⟩
  have hdone := hstart.foldl edit
  have hrow := hstart.lastChanged_foldl hne hkept
  have hrewritten : rewriteLines edit (ls ++ l :: kept) =
      rewriteLines edit (ls ++ [l]) ++ rewriteLines edit kept := by
    rw [← rewriteLines_append, List.append_assoc, List.singleton_append]
  simp only [substitute, hfirst, hcount, hrow, Option.map_some]
  refine ⟨_, rfl, hdone.lines, Buffer.rest_firstText ?_⟩
  -- the latest line that was changed became at least one
  have hsome := length_le_rewriteLines edit (ls ++ [l])
  rw [List.length_append, List.length_singleton] at hsome
  rw [Buffer.lineCount, hdone.lines, hrewritten]
  simp only [List.length_append]
  omega

/-- Either no line of the range is changed, and there is nothing to be done, or one of them is the
latest that is. -/
theorem substitute_cases {b : Buffer} (hbuffer : d.buffer = b) (edit : Text → Text)
    (hlast : range.last < b.lineCount) :
    ((∀ row, range.first ≤ row → row ≤ range.last → edit (b.line row) = b.line row) ∧
        d.substitute range edit = none) ∨
      ∃ row d', (range.first ≤ row ∧ row ≤ range.last ∧ edit (b.line row) ≠ b.line row ∧
          ∀ later, row < later → later ≤ range.last → edit (b.line later) = b.line later) ∧
        d.substitute range edit = some d' ∧ d'.buffer ≠ b ∧
        d'.buffer.lines = b.lines.take range.first ++
          rewriteLines edit (b.rows range.first range.last) ++ b.lines.drop (range.last + 1) ∧
        d'.cursor = d'.buffer.firstText
          ⟨range.first + (rewriteLines edit (b.rows range.first row)).length - 1, 0⟩ := by
  subst hbuffer
  have hle := range.first_le_last
  have hrange := range.first_add_rowCount
  have hlines := d.buffer.lines_eq_rows (Nat.le_succ_of_le hle)
  have hcount : (d.buffer.rows range.first range.last).length = range.rowCount := by
    rw [Buffer.rows, List.length_drop, Buffer.length_take_lines hlast]
    omega
  have hfront : range.first = (d.buffer.lines.take range.first).length :=
    (Buffer.length_take_lines (Nat.le_of_lt (Nat.lt_of_le_of_lt hle hlast))).symm
  generalize d.buffer.lines.take range.first = front at hlines hfront ⊢
  generalize d.buffer.lines.drop (range.last + 1) = behind at hlines ⊢
  generalize hrows : d.buffer.rows range.first range.last = ls at hlines hcount ⊢
  rw [hfront]
  rcases forall_or_last_ne edit ls with hsame | ⟨above, l, kept, rfl, hne, hkept⟩
  · refine .inl ⟨fun row hrow hrow' => ?_, substitute_eq_none hlines hsame hfront hcount.symm⟩
    exact hsame _ (Buffer.line_mem_of_lines hlines hrow (by omega))
  · obtain ⟨hline, hupto, hbelow⟩ := Buffer.row_of_lines hlines
    obtain ⟨d', hsub, hnew, hcursor⟩ := substitute_eq_some hlines hne hkept hfront hcount.symm
    have hchanged : d'.buffer ≠ d.buffer := fun hsame => by
      rw [hsame, hlines, List.append_cancel_right_eq, List.append_cancel_left_eq] at hnew
      exact hne (eq_of_rewriteLines_eq hnew.symm (List.mem_append_right _ List.mem_cons_self))
    have hin : above.length < (above ++ l :: kept).length := by
      rw [List.length_append, List.length_cons]
      omega
    refine .inr ⟨front.length + above.length, d',
      ⟨Nat.le_add_right _ _, by omega, by rwa [hline], fun later hlt hle => ?_⟩, hsub, hchanged,
      hnew, ?_⟩
    · exact hkept _ (hbelow later hlt (by omega))
    · rw [hcursor, hupto, List.length_append]

end Document

end ModalEditor
