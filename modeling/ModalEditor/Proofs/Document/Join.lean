import Mathlib.Logic.Function.Iterate
import ModalEditor.Proofs.Document.Mutation

/-!
# Joining lines

A join puts one line in the place of the rows from one row to another (`Buffer.lines_joined`). Nothing
of them is lost but blanks at the places of joining (`filter_joinAll`), and without spaces nothing at
all (`joinAll_false`).

What the next line adds depends on the text that was joined so far, and not on where that text came
from. So when some rows are joined already, one more join of two lines does what a join of one more
row would have done (`Buffer.joinedAt_concat`), and a join of many lines is as many joins of two
(`Document.joinLines_iterate`).
-/

namespace ModalEditor

open Unicode

namespace Document

/-! ## The line that is joined -/

/-- One more line is joined to what the others have come to. -/
theorem joinAll_concat (spaced : Bool) (joined : Text) (column : Nat) (ls : List Text) (l : Text) :
    joinAll spaced joined column (ls ++ [l]) =
      joinAll spaced (joinAll spaced joined column ls).1 0 [l] := by
  induction ls generalizing joined column with
  | nil => rfl
  | cons next ls ih => exact ih _ _

/-- Without blanks the lines are put together as they are. -/
theorem joinAll_false (joined : Text) (column : Nat) (ls : List Text) :
    (joinAll false joined column ls).1 = joined ++ ls.flatten := by
  induction ls generalizing joined column with
  | nil => simp [joinAll]
  | cons next ls ih => simp [joinAll, joinPart, ih]

/-- What is trimmed of a line is blank. -/
theorem filter_dropWhile_isBlank (l : Text) :
    (l.dropWhile isBlank).filter (fun c => !isBlank c) = l.filter fun c => !isBlank c := by
  induction l with
  | nil => rfl
  | cons c l ih =>
    by_cases hc : isBlank c = true
    · simp [hc, ih]
    · simp [hc]

/-- Blanks are all that a join puts in or leaves out. -/
theorem filter_joinPart (spaced : Bool) (joined next : Text) :
    (joinPart spaced joined next).filter (fun c => !isBlank c) =
      (joined ++ next).filter fun c => !isBlank c := by
  cases spaced with
  | false => rfl
  | true =>
    have hspace : isBlank ' ' = true := by decide
    simp only [joinPart, if_true, List.filter_append, filter_dropWhile_isBlank]
    split
    · simp [hspace]
    · simp

/-- But for blanks, the joined lines are the lines put together. -/
theorem filter_joinAll (spaced : Bool) (joined : Text) (column : Nat) (ls : List Text) :
    (joinAll spaced joined column ls).1.filter (fun c => !isBlank c) =
      (joined ++ ls.flatten).filter fun c => !isBlank c := by
  induction ls generalizing joined column with
  | nil => simp [joinAll]
  | cons next ls ih =>
    rw [joinAll, ih, List.filter_append, filter_joinPart, ← List.filter_append, List.flatten_cons,
      List.append_assoc]

end Document

/-! ## Rows that are joined -/

namespace Buffer

/-- The line to which the rows from `row` to `last` are joined, and the offset of the last join. -/
def joinRows (b : Buffer) (spaced : Bool) (row last : Nat) : Text × Nat :=
  Document.joinAll spaced (b.line row) 0 (b.rows (row + 1) last)

/-- The buffer with that line in the place of the rows. -/
def joined (b : Buffer) (spaced : Bool) (row last : Nat) : Buffer :=
  (b.removeLines (row + 1) last).1.setLine row (b.joinRows spaced row last).1

/-- What a join leaves: the buffer, and the cursor at the last join. -/
def joinedAt (b : Buffer) (spaced : Bool) (row last : Nat) : Snapshot :=
  ⟨b.joined spaced row last, (b.joined spaced row last).rest ⟨row, (b.joinRows spaced row last).2⟩⟩

/-- Joined rows are a line. -/
theorem isLine_joinRows (b : Buffer) (spaced : Bool) (row last : Nat) :
    IsLine (b.joinRows spaced row last).1 :=
  Document.isLine_joinAll (b.isLine_line row) 0 fun _ hl => b.isLine _ (mem_of_mem_rows hl)

/-- The lines in front of a row, between it and a later one, and behind that. -/
theorem exists_lines_eq {b : Buffer} {row last : Nat} (hle : row ≤ last) (hlast : last ≤ b.lastRow) :
    ∃ before l later behind, b.lines = before ++ l :: later ++ behind ∧
      before.length = row ∧ before.length + later.length = last := by
  have hcount : row < b.lineCount := lt_lineCount.2 (hle.trans hlast)
  have hrest : (b.lines.drop (row + 1)).length = b.lastRow - row := by
    rw [List.length_drop]
    exact congrArg (· - (row + 1)) b.lineCount_eq |>.trans (by omega)
  refine ⟨b.lines.take row, b.line row, (b.lines.drop (row + 1)).take (last - row),
    (b.lines.drop (row + 1)).drop (last - row), ?_, length_take_lines hcount.le, ?_⟩
  · rw [List.append_assoc, List.cons_append, List.take_append_drop]
    exact lines_eq_append hcount
  · rw [length_take_lines hcount.le, List.length_take, hrest]
    omega

section Lines

variable {b : Buffer} {before later behind : List Text} {l : Text}
  (h : b.lines = before ++ l :: later ++ behind) (spaced : Bool)
include h

/-- Joining rows joins their lines. -/
theorem joinRows_of_lines :
    b.joinRows spaced before.length (before.length + later.length) =
      Document.joinAll spaced l 0 later := by
  have hline : b.lines = before ++ l :: (later ++ behind) := by simp [h]
  have hlater : b.lines = (before ++ [l]) ++ later ++ behind := by simp [h]
  have hrows : b.rows (before.length + 1) (before.length + later.length) = later := by
    have hfront : (before ++ [l]).length = before.length + 1 := by simp
    rw [← hfront]
    exact rows_of_lines hlater (by omega)
  rw [joinRows, hrows, line_eq_of_lines hline]

/-- The rows are one line afterwards, and the other lines are as they were. -/
theorem lines_joined (hlater : later ≠ []) :
    (b.joined spaced before.length (before.length + later.length)).lines =
      before ++ (Document.joinAll spaced l 0 later).1 :: behind := by
  have hpos := List.length_pos_iff.2 hlater
  -- the rows in front, the joined ones and those behind are all the rows
  have hcount : b.lastRow + 1 = before.length + (later.length + 1) + behind.length := by
    rw [← b.lineCount_eq, lineCount, h, List.length_append, List.length_append, List.length_cons]
  have htake : b.lines.take (before.length + 1) = before ++ [l] := by
    have hlines : b.lines = (before ++ [l]) ++ (later ++ behind) := by simp [h]
    rw [hlines]
    exact List.take_left' (by simp)
  have hdrop : b.lines.drop (before.length + later.length + 1) = behind := by
    rw [h]
    exact List.drop_left' (by simp [Nat.add_assoc])
  have hlast : min (before.length + later.length) b.lastRow = before.length + later.length := by
    omega
  -- the rows that are joined to the first are gone, and the first takes their text
  have hremoved :
      (b.removeLines (before.length + 1) (before.length + later.length)).1.lines =
        before ++ l :: behind := by
    rw [lines_removeLines (by omega) (by omega), hlast, htake, hdrop, if_neg (by simp)]
    simp
  rw [joined, lines_setLine _ _ (b.isLine_joinRows spaced _ _), hremoved, joinRows_of_lines h]
  simp

end Lines

/-- Once some rows are joined, a join with the next row does what a join of one more row does. -/
theorem joinedAt_concat {b : Buffer} {before later behind : List Text} {l m : Text}
    (h : b.lines = before ++ l :: (later ++ [m]) ++ behind) (hlater : later ≠ []) (spaced : Bool) :
    (b.joined spaced before.length (before.length + later.length)).joinedAt spaced before.length
        (before.length + 1) =
      b.joinedAt spaced before.length (before.length + (later ++ [m]).length) := by
  have hfirst : b.lines = before ++ l :: later ++ (m :: behind) := by simp [h]
  -- the line that is joined comes first, and the next row of the old text follows it
  have hjoined : (b.joined spaced before.length (before.length + later.length)).lines =
      before ++ (Document.joinAll spaced l 0 later).1 :: [m] ++ behind := by
    rw [lines_joined hfirst spaced hlater]
    simp
  have hrows : (b.joined spaced before.length (before.length + later.length)).joinRows spaced
        before.length (before.length + 1) =
      b.joinRows spaced before.length (before.length + (later ++ [m]).length) := by
    rw [joinRows_of_lines h, Document.joinAll_concat]
    exact joinRows_of_lines hjoined spaced
  have hbuffer : (b.joined spaced before.length (before.length + later.length)).joined spaced
        before.length (before.length + 1) =
      b.joined spaced before.length (before.length + (later ++ [m]).length) := by
    refine ext ?_
    rw [lines_joined h spaced (by simp), Document.joinAll_concat]
    exact lines_joined hjoined spaced (List.cons_ne_nil m [])
  rw [joinedAt, joinedAt, hbuffer, hrows]

end Buffer

/-! ## Joins of a document -/

namespace Document

variable {d : Document} {row : Nat}

/-- Joins a row and the next one. Nothing is done if there is no next row. -/
def joinNext (spaced : Bool) (row : Nat) (d : Document) : Document :=
  (d.joinLines row 2 spaced).getD d

/-- From a row that is not the last, lines are joined, as far as there are any. -/
theorem joinLines_eq_some (hrow : row < d.lastRow) (n : Nat) (spaced : Bool) :
    ∃ d', d.joinLines row n spaced = some d' ∧
      d'.snapshot = d.buffer.joinedAt spaced row (min (row + max n 2 - 1) d.lastRow) := by
  rw [joinLines_eq, if_neg (Nat.not_le.2 hrow)]
  exact ⟨_, rfl, rfl⟩

/-- On the last row there is nothing to join. -/
theorem joinNext_of_le (hrow : d.lastRow ≤ row) (spaced : Bool) : d.joinNext spaced row = d := by
  rw [joinNext, joinLines_eq, if_pos hrow]
  rfl

/-- Joining with the next row. -/
theorem snapshot_joinNext (hrow : row < d.lastRow) (spaced : Bool) :
    (d.joinNext spaced row).snapshot = d.buffer.joinedAt spaced row (row + 1) := by
  obtain ⟨d', hjoin, hsnapshot⟩ := joinLines_eq_some hrow 2 spaced
  have hlast : min (row + max 2 2 - 1) d.lastRow = row + 1 := by omega
  rw [joinNext, hjoin, Option.getD_some, hsnapshot, hlast]

section Lines

variable {before later behind : List Text} {l : Text}

/-- The index of the last row, told from the rows. -/
theorem lastRow_of_lines (h : d.buffer.lines = before ++ l :: later ++ behind) :
    d.lastRow = before.length + later.length + behind.length := by
  have hcount : d.lastRow + 1 = d.buffer.lines.length := d.buffer.lineCount_eq.symm
  rw [h] at hcount
  simp only [List.length_append, List.length_cons] at hcount
  omega

/-- What is left to be joined are the lines behind the rows that were joined. -/
theorem lastRow_of_joined {e : Document} {spaced : Bool}
    (h : d.buffer.lines = before ++ l :: later ++ behind) (hlater : later ≠ [])
    (he : e.buffer = d.buffer.joined spaced before.length (before.length + later.length)) :
    e.lastRow = before.length + behind.length := by
  have hlines : e.buffer.lines = before ++ (joinAll spaced l 0 later).1 :: [] ++ behind := by
    rw [he, Buffer.lines_joined h spaced hlater]
    simp
  exact lastRow_of_lines hlines

/-- Joins of two rows, one after the other, take in one row after the other. -/
theorem snapshot_joinNext_iterate (h : d.buffer.lines = before ++ l :: later ++ behind)
    (hlater : later ≠ []) (spaced : Bool) :
    ((joinNext spaced before.length)^[later.length] d).snapshot =
      d.buffer.joinedAt spaced before.length (before.length + later.length) := by
  -- by induction on the rows to be joined, from the last: one more step joins one more row
  induction later using List.reverseRecOn generalizing behind with
  | nil => exact absurd rfl hlater
  | append_singleton later m ih =>
    have hrows := lastRow_of_lines h
    rw [List.length_append, List.length_singleton] at hrows ⊢
    rw [Function.iterate_succ_apply']
    by_cases hnil : later = []
    · subst hnil
      exact snapshot_joinNext (d := d) (by omega) spaced
    -- to the rows before the last, that one is a row behind
    · have hfirst : d.buffer.lines = before ++ l :: later ++ (m :: behind) := by simp [h]
      have hbuffer : ((joinNext spaced before.length)^[later.length] d).buffer =
          d.buffer.joined spaced before.length (before.length + later.length) :=
        congrArg Snapshot.buffer (ih hfirst hnil)
      have hmore := lastRow_of_joined hfirst hnil hbuffer
      rw [List.length_cons] at hmore
      rw [snapshot_joinNext (by omega), hbuffer]
      have hjoined := Buffer.joinedAt_concat h hnil spaced
      rwa [List.length_append, List.length_singleton] at hjoined

/-- Where the rows run out, a join of two rows does nothing. -/
theorem joinNext_iterate_fixed (h : d.buffer.lines = before ++ l :: later) (hlater : later ≠ [])
    (spaced : Bool) {k : Nat} (hk : later.length ≤ k) :
    (joinNext spaced before.length)^[k] d = (joinNext spaced before.length)^[later.length] d := by
  have hall : d.buffer.lines = before ++ l :: later ++ [] := by simp [h]
  have hbuffer := congrArg Snapshot.buffer (snapshot_joinNext_iterate hall hlater spaced)
  have hlast := lastRow_of_joined hall hlater hbuffer
  obtain ⟨more, rfl⟩ := Nat.exists_eq_add_of_le' hk
  rw [Function.iterate_add_apply]
  exact Function.iterate_fixed (joinNext_of_le (Nat.le_of_eq hlast) spaced) more

end Lines

/-- **Joining.** From every row above the last one, a join of `n` lines, and at least two, puts one
line in the place of the rows up to the last that it reaches, and leaves the others alone. Without
spaces the line is those rows one behind the other; with spaces it has the same characters in the same
order, but for blanks. The text and the cursor are those that `max n 2 - 1` joins of two lines leave,
one after the other; where the rows run out, these joins do nothing. -/
theorem joinLines_iterate (hrow : row < d.lastRow) (n : Nat) (spaced : Bool) :
    let last := min (row + max n 2 - 1) d.lastRow
    ∃ d' l, d.joinLines row n spaced = some d' ∧
      d'.buffer.lines = d.buffer.lines.take row ++ l :: d.buffer.lines.drop (last + 1) ∧
      (spaced = false → l = (d.buffer.rows row last).flatten) ∧
      l.filter (fun c => !isBlank c) =
        (d.buffer.rows row last).flatten.filter (fun c => !isBlank c) ∧
      ((joinNext spaced row)^[max n 2 - 1] d).buffer = d'.buffer ∧
      ((joinNext spaced row)^[max n 2 - 1] d).cursor = d'.cursor := by
  intro last
  obtain ⟨d', hjoin, hsnapshot⟩ := joinLines_eq_some hrow n spaced
  have hlast : row < last ∧ last ≤ d.lastRow := by omega
  obtain ⟨before, l, later, behind, hlines, rfl, hlength⟩ :=
    Buffer.exists_lines_eq hlast.1.le hlast.2
  have hlater : later ≠ [] := by
    rintro rfl
    rw [List.length_nil] at hlength
    omega
  have hrows : d.buffer.rows before.length last = l :: later :=
    Buffer.rows_of_lines hlines (by rw [List.length_cons]; omega)
  have htake : d.buffer.lines.take before.length = before := by simp [hlines]
  have hdrop : d.buffer.lines.drop (last + 1) = behind := by
    rw [hlines, ← hlength]
    exact List.drop_left' (by simp [Nat.add_assoc])
  -- as many steps as rows are joined; where the text ends before the count, further steps do nothing
  have hsame : ((joinNext spaced before.length)^[max n 2 - 1] d).snapshot = d'.snapshot := by
    have hcount := lastRow_of_lines hlines
    rw [hsnapshot, show min (before.length + max n 2 - 1) d.lastRow = _ from hlength.symm,
      ← snapshot_joinNext_iterate hlines hlater]
    by_cases hall : max n 2 - 1 = later.length
    · rw [hall]
    · obtain rfl : behind = [] := List.length_eq_zero_iff.1 (by omega)
      rw [List.append_nil] at hlines
      rw [joinNext_iterate_fixed hlines hlater spaced (by omega)]
  have hbuffer : d'.buffer = d.buffer.joined spaced before.length last :=
    congrArg Snapshot.buffer hsnapshot
  refine ⟨d', (joinAll spaced l 0 later).1, hjoin, ?_, ?_, ?_,
    congrArg Snapshot.buffer hsame, congrArg Snapshot.cursor hsame⟩
  · rw [hbuffer, htake, hdrop, ← hlength]
    exact Buffer.lines_joined hlines spaced hlater
  · rintro rfl
    rw [hrows]
    exact joinAll_false ..
  · rw [hrows]
    exact filter_joinAll ..

/-- An indented line, an empty one and one that begins with a parenthesis are joined to the first one;
the fourth join of two lines finds none. -/
theorem joinLines_iterate_indented :
    let d : Document := {
      buffer := .ofText ['a', '\n', ' ', '\t', 'b', '\n', '\n', ' ', ')'] }
    0 < d.lastRow ∧
      ∃ d', d.joinLines 0 5 true = some d' ∧ d'.buffer.lines = [['a', ' ', 'b', ')']] ∧
        ((joinNext true 0)^[4] d).buffer = d'.buffer ∧
        ((joinNext true 0)^[4] d).cursor = d'.cursor := by
  intro d
  have hrow : 0 < d.lastRow := by decide +kernel
  obtain ⟨d', l, hjoin, -, -, -, hsame⟩ := joinLines_iterate hrow 5 true
  have hlines : (d.joinLines 0 5 true).map (·.buffer.lines) = some [['a', ' ', 'b', ')']] := by
    decide +kernel
  rw [hjoin] at hlines
  exact ⟨hrow, d', hjoin, Option.some.inj hlines, hsame⟩

end Document

end ModalEditor
