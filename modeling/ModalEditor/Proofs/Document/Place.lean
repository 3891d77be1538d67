import ModalEditor.Proofs.Document.Travel
import ModalEditor.Proofs.Text.Boundary

/-!
# The cursor stays in the text

A position is inside a buffer if there is such a row, and its column is within the line and between
characters (`Buffer.Inside`). Most operations end by bringing the cursor to the nearest such place.
Two of them do not: text that is put in leaves the cursor behind it, and an opened line has the
cursor at its start. Both places are inside as well (`inside_insert`, `Placed.openLine`), so the
cursor is inside whatever is done (`Document.Placed`).
-/

namespace ModalEditor

namespace Buffer

/-- There is such a row, and the column is within its line and between characters. -/
structure Inside (b : Buffer) (p : Position) : Prop where
  row : p.row < b.lineCount
  col : p.col ≤ b.lineSize p.row
  boundary : isCharBoundary (b.line p.row) p.col = true

/-- What was brought into the buffer is inside it. -/
theorem inside_clamp (b : Buffer) (p : Position) : b.Inside (b.clamp p) := by
  obtain ⟨hcol, hboundary⟩ := floorBoundary_inside (b.line (min p.row b.lastRow)) p.col
  refine ⟨?_, hcol, hboundary⟩
  have hpos := b.lineCount_pos
  simp only [clamp, lastRow]
  omega

/-- A place of rest is the beginning of a cluster, or of an empty line. -/
theorem startsCluster_rest (b : Buffer) (p : Position) :
    StartsCluster (b.line (b.rest p).row) (b.rest p).col :=
  startsCluster_of_le _ _

/-! ## Text that is put in -/

/-- The end of a text that follows `u` on its row. -/
theorem endOf_eq {u s last : Text} {front : List Text} (hu : IsLine u)
    (hlines : splitLines (u ++ s) = front ++ [last]) (row : Nat) :
    endOf ⟨row, byteSize u⟩ s = ⟨row + front.length, byteSize last⟩ := by
  -- both texts in lines: the last line of one and the first of the other are one line together
  obtain ⟨front', last', first, rest, hu', hs, hboth⟩ := splitLines_append u s
  rw [splitLines_of_isLine hu] at hu'
  obtain ⟨rfl, rfl⟩ : front' = [] ∧ last' = u := by
    cases front' with
    | nil => exact ⟨rfl, (List.singleton_inj.1 hu').symm⟩
    | cons l ls => simp at hu'
  rw [hlines, List.nil_append] at hboth
  unfold endOf
  -- without a break in `s` the end is on the row itself, and otherwise on the last line of `s`
  cases rest with
  | nil =>
    obtain ⟨rfl, rfl⟩ : front = [] ∧ last = last' ++ first := by
      cases front with
      | nil => exact ⟨rfl, List.singleton_inj.1 hboth⟩
      | cons l ls => simp at hboth
    have hfirst : s = first := by
      rw [← joinLines_splitLines s, hs, joinLines]
    rw [hs, byteSize_append, hfirst]
    rfl
  | cons m ms =>
    have hlength := congrArg List.length hboth
    have hlast := congrArg List.getLast? hboth
    simp only [List.length_append, List.length_cons, List.length_nil] at hlength
    rw [List.getLast?_concat, List.getLast?_cons_cons] at hlast
    simp only [hs, ← hlast, Option.getD_some, List.length_cons]
    have hrow : row + (ms.length + 1) = row + front.length := by omega
    rw [hrow]

/-- The part of a line before a place inside is as long as its column says. -/
theorem byteSize_lineBefore {b : Buffer} {p : Position} (hp : b.Inside p) :
    byteSize (b.lineBefore p) = p.col :=
  byteSize_takeBytes hp.boundary

/-- What is in front of a position of a row is a line. -/
theorem isLine_lineBefore (b : Buffer) (p : Position) : IsLine (b.lineBefore p) :=
  fun h => b.isLine_line p.row (mem_of_mem_takeBytes h)

/-- A line of a text that takes the place of rows. -/
theorem line_replaceRows (b : Buffer) {first : Nat} (hfirst : first ≤ b.lineCount) (past : Nat)
    {middle l : Text} {front behind : List Text}
    (hmiddle : splitLines middle = front ++ l :: behind) :
    first + front.length < (b.replaceRows first past middle).lineCount ∧
      (b.replaceRows first past middle).line (first + front.length) = l := by
  have hlines : (b.replaceRows first past middle).lines =
      (b.lines.take first ++ front) ++ l :: (behind ++ b.lines.drop past) := by
    simp only [replaceRows, splice, hmiddle, List.append_assoc, List.cons_append]
  have hlength : (b.lines.take first ++ front).length = first + front.length := by
    rw [List.length_append, List.length_take, ← lineCount, Nat.min_eq_left hfirst]
  refine ⟨?_, ?_⟩
  · rw [lineCount, hlines, List.length_append, hlength, List.length_cons]
    omega
  · rw [line, line?, hlines, ← hlength, List.getElem?_append_right (Nat.le_refl _), Nat.sub_self,
      List.getElem?_cons_zero, Option.getD_some]

/-- Behind text that was put in is a place inside. -/
theorem inside_insert (b : Buffer) (p : Position) (s : Text) :
    (b.insert p s).1.Inside (b.insert p s).2 := by
  have hinside := b.inside_clamp p
  have hbefore := b.isLine_lineBefore (b.clamp p)
  obtain ⟨front, last, first, rest, hs, hbehind, hall⟩ :=
    splitLines_append (b.lineBefore (b.clamp p) ++ s) (b.lineBehind (b.clamp p))
  have hend : endOf (b.clamp p) s = ⟨(b.clamp p).row + front.length, byteSize last⟩ := by
    have hplace := endOf_eq hbefore hs (b.clamp p).row
    rwa [byteSize_lineBefore hinside] at hplace
  obtain ⟨hrow, hline⟩ :=
    b.line_replaceRows (Nat.le_of_lt hinside.row) ((b.clamp p).row + 1) hall
  -- the text ends with `last`, and what was behind the position follows it
  show (b.replaceRows _ _ _).Inside (endOf (b.clamp p) s)
  rw [hend]
  refine ⟨hrow, ?_, ?_⟩
  · simp only [lineSize, hline, byteSize_append]
    exact Nat.le_add_right _ _
  · simp only [hline]
    exact isCharBoundary_append _ _

end Buffer

namespace Document

/-- The cursor is inside the text. -/
def Placed (d : Document) : Prop :=
  d.buffer.Inside d.cursor

/-! ## The cursor alone -/

/-- The beginning of a cluster is inside the buffer. -/
theorem inside_of_startsCluster {b : Buffer} {p : Position} (hrow : p.row < b.lineCount)
    (hstarts : StartsCluster (b.line p.row) p.col) : b.Inside p := by
  rcases hstarts with ⟨hline, hcol⟩ | hstarts
  · refine ⟨hrow, ?_, ?_⟩
    · rw [hcol]; exact Nat.zero_le _
    · rw [hline, hcol]; rfl
  · obtain ⟨hcol, hboundary⟩ := hstarts.parts.isCharBoundary
    exact ⟨hrow, hcol, hboundary⟩

/-- Whatever the context, a clamped position is inside the buffer. -/
theorem inside_documentClamp (d : Document) (p : Position) (c : CursorContext) :
    d.buffer.Inside (d.clamp p c) := by
  cases c with
  | insert => exact d.buffer.inside_clamp p
  | normal =>
    exact inside_of_startsCluster (d.buffer.inside_clamp p).row (d.buffer.startsCluster_rest p)

/-- A cursor at rest is on a cluster, or in column zero of an empty line. -/
theorem Rests.startsCluster {d : Document} (h : d.Rests) :
    StartsCluster (d.line d.cursor.row) d.cursor.col := by
  have hstarts := d.buffer.startsCluster_rest d.cursor
  rwa [show d.buffer.rest d.cursor = d.cursor from h] at hstarts

/-- A cursor at rest is inside the buffer. -/
theorem Rests.placed {d : Document} (h : d.Rests) : d.Placed := by
  have hinside := inside_documentClamp d d.cursor .normal
  rwa [show d.clamp d.cursor .normal = d.cursor from h] at hinside

/-- A cursor that is placed is inside the buffer. -/
theorem placed_setCursor (d : Document) (p : Position) (c : CursorContext) :
    (d.setCursor p c).Placed :=
  inside_documentClamp d p c

/-- The beginning of a change leaves the cursor. -/
theorem Placed.beginChange {d : Document} (h : d.Placed) : d.beginChange.Placed := by
  rw [Placed, beginChange_cursor, beginChange_buffer]
  exact h

/-- The end of a change leaves the cursor. -/
theorem Placed.endChange {d : Document} (h : d.Placed) : d.endChange.1.Placed := by
  rw [Placed, endChange_cursor, endChange_buffer]
  exact h

/-! ## Text and lines -/

/-- A mutation brings the cursor into the new text. -/
theorem placed_mutate (d : Document) (b : Buffer) : (d.mutate b).Placed :=
  b.inside_clamp d.cursor

/-- A deletion is a mutation, or leaves the document. -/
theorem Placed.deleteRange {d : Document} (h : d.Placed) (first past : Position) :
    (d.deleteRange first past).1.Placed := by
  unfold Document.deleteRange
  split
  · exact placed_mutate d _
  · exact h

/-- A replacement is a mutation, or leaves the document. -/
theorem Placed.replaceRange {d : Document} (h : d.Placed) (first past : Position) (s : Text) :
    (d.replaceRange first past s).1.Placed := by
  simp only [Document.replaceRange]
  split
  · exact h
  · exact placed_mutate d _

/-- Inserted text puts the cursor behind it, inside the new text. -/
theorem placed_insertText (d : Document) (s : Text) : (d.insertText s).Placed := by
  unfold Document.insertText insertAt
  by_cases hs : s.isEmpty
  · simp only [if_pos hs]
    exact d.buffer.inside_clamp d.cursor
  · simp only [if_neg hs]
    exact d.buffer.inside_insert d.cursor s

/-- The row below the last one can be opened, and every row that there is. -/
theorem Placed.openLine {d : Document} (h : d.Placed) (below : Bool) :
    (d.openLine below).Placed := by
  have hrow : (if below then d.cursor.row + 1 else d.cursor.row) ≤ d.buffer.lineCount := by
    have hcursor := h.row
    split <;> omega
  have hempty : splitLines (ModalEditor.joinLines [[]]) = [] ++ [] :: [] := rfl
  obtain ⟨hin, -⟩ := d.buffer.line_replaceRows hrow
    (if below then d.cursor.row + 1 else d.cursor.row) hempty
  exact ⟨hin, Nat.zero_le _, isCharBoundary_append [] _⟩

/-- A cut ends by placing the cursor. -/
theorem placed_cut (d : Document) (change : Bool) (range : TextRange) :
    (d.cut change range).Placed := by
  refine Placed.endChange ?_
  cases range with
  | chars first past => exact placed_setCursor _ _ _
  | lines first last =>
    simp only [cutRange]
    split <;> exact placed_setCursor _ _ _
  | block top bottom left right => exact placed_setCursor _ _ _

/-- A walk through the history places the cursor, or leaves the document. -/
theorem Placed.travel {d : Document} (h : d.Placed)
    (step : History → Snapshot → Option (History × Snapshot)) (n : Nat) :
    (d.travel step n).1.Placed := by
  rcases travel_cases step d n with ⟨heq, -⟩ | ⟨d', done, -, heq, -⟩
  · rw [heq]; exact h
  · rw [heq]; exact placed_setCursor _ _ _

end Document

end ModalEditor
