import ModalEditor.Editor.Operator
import ModalEditor.Proofs.Command.WordSpan
import ModalEditor.Proofs.Document.Row
import ModalEditor.Proofs.Motion.Landing

/-!
# What an exclusive motion takes

An operator with an exclusive motion takes the text between the cursor and the place where the motion
lands, whichever of the two comes first. A range that would end at the very beginning of a line is
given another form: it ends at the end of the line before, or is made of whole lines if nothing but
blanks precede it in its first line. So the text that is taken may lack the last line break, or have
blanks in front (`Buffer.Takes`), and the characters that are not blank are always those of the text
between the two places (`Span.resolve_exclusive`).

The two forms rest on what stands in front of a place (`textBefore_append_slice`). That the ends of the
range are rows of the buffer is shown for all motions (`Motion.land_row_le`).
-/

namespace ModalEditor

open Unicode

/-! ## Blanks in front of a line -/

/-- The clusters in front of the first that is not blank. -/
theorem exists_firstNonBlankIn (gs : List Cluster) :
    ∃ before behind, gs = before ++ behind ∧ byteSize before.flatten = firstNonBlankIn gs ∧
      ∀ c ∈ before.flatten, isBlank c = true := by
  induction gs with
  | nil => exact ⟨[], [], rfl, rfl, nofun⟩
  | cons g gs ih =>
    rw [firstNonBlankIn]
    split
    · rename_i hblank
      obtain ⟨before, behind, hgs, hsize, hbefore⟩ := ih
      refine ⟨g :: before, behind, by rw [hgs, List.cons_append], ?_, fun c hc => ?_⟩
      · rw [List.flatten_cons, byteSize_append, hsize]
      · rw [List.flatten_cons, List.mem_append] at hc
        exact hc.elim (List.all_eq_true.1 hblank c) (hbefore c)
    · exact ⟨[], g :: gs, rfl, rfl, nofun⟩

/-- In front of the first text of a line there are blanks alone. -/
theorem isBlank_of_mem_takeBytes {l : Text} {n : Nat} (hn : n ≤ firstNonBlank l) {c : Char}
    (hc : c ∈ takeBytes l n) : isBlank c = true := by
  obtain ⟨before, behind, hgs, hsize, hblank⟩ := exists_firstNonBlankIn (clusters l)
  have hl : l = before.flatten ++ behind.flatten := by
    rw [← flatten_clusters l, hgs, List.flatten_append]
  rw [hl, takeBytes_append_of_le (hsize ▸ hn)] at hc
  exact hblank c (mem_of_mem_takeBytes hc)

namespace Buffer

variable {b : Buffer}

/-! ## What stands in front of a place -/

/-- What stands in front of a place, with the text from there up to another, is what stands in front
of the other. -/
theorem textBefore_append_slice {p q : Position} (hle : ¬ b.clamp q < b.clamp p) :
    b.textBefore (b.clamp p) ++ b.slice p q = b.textBefore (b.clamp q) := by
  by_cases hlt : b.clamp p < b.clamp q
  · have hall := text_eq_slice hlt
    rw [← b.textBefore_append_textBehind (b.inside_clamp q).row] at hall
    exact (List.append_cancel_right hall).symm
  · rw [slice, if_neg hlt, List.append_nil, Position.eq_of_not_lt hlt hle]

/-- Nothing stands before the beginning of a line. -/
theorem lineBefore_beginning (b : Buffer) (row : Nat) : b.lineBefore ⟨row, 0⟩ = [] :=
  takeBytes_append_byteSize [] _

/-- In front of the beginning of a row there are the rows above it. -/
theorem textBefore_beginning (b : Buffer) (row : Nat) :
    b.textBefore ⟨row, 0⟩ = (b.lines.take row).flatMap (· ++ ['\n']) := by
  rw [textBefore, lineBefore_beginning, List.append_nil]

/-- Between the end of a row and the beginning of the next there is a line break. -/
theorem textBefore_lineEnd {row : Nat} (hrow : row < b.lineCount) :
    b.textBefore ⟨row, b.lineSize row⟩ ++ ['\n'] = b.textBefore ⟨row + 1, 0⟩ := by
  have hall : b.lineBefore ⟨row, b.lineSize row⟩ = b.line row := by
    rw [lineBefore, lineSize, takeBytes_byteSize]
  rw [textBefore_beginning, textBefore, hall, List.take_add_one, getElem?_lines hrow,
    Option.toList_some, List.flatMap_append, List.flatMap_singleton, List.append_assoc]

/-- The rows up to a later one, each with its line break. -/
theorem flatMap_rows {first row : Nat} (hle : first ≤ row) :
    (b.lines.take first).flatMap (· ++ ['\n']) ++
        ((b.lines.take row).drop first).flatMap (· ++ ['\n']) =
      (b.lines.take row).flatMap (· ++ ['\n']) := by
  have htake : b.lines.take first = (b.lines.take row).take first := by
    rw [List.take_take, Nat.min_eq_left hle]
  rw [htake, ← List.flatMap_append, List.take_append_drop]

/-! ## What a range takes -/

/-- The content is the text from one place up to another: all of it, or without the line break at its
end, or as whole lines with the blanks in front of it. -/
inductive Takes (b : Buffer) (first past : Position) : RegisterContent → Prop
  | all : Takes b first past (.ofChars (b.slice first past))
  | withoutBreak {t : Text} (hbreak : b.slice first past = t ++ ['\n']) :
    Takes b first past (.ofChars t)
  | wholeLines (hblank : ∀ c ∈ b.lineBefore (b.clamp first), isBlank c = true) :
    Takes b first past ⟨b.lineBefore (b.clamp first) ++ b.slice first past, .lines⟩

/-- What is taken has the characters of the text that are not blank, and no others. -/
theorem Takes.filter_text {first past : Position} {content : RegisterContent}
    (h : b.Takes first past content) :
    content.text.filter (fun c => !isBlank c) =
      (b.slice first past).filter (fun c => !isBlank c) := by
  -- all that was asked for is taken, or only the final break is not, or blanks come with it that the
  -- filter drops
  cases h with
  | all => rfl
  | withoutBreak hbreak =>
    have hnone : ['\n'].filter (fun c => !isBlank c) = [] := rfl
    rw [hbreak, List.filter_append, hnone, List.append_nil]
    rfl
  | wholeLines hblank =>
    have hnone : (b.lineBefore (b.clamp first)).filter (fun c => !isBlank c) = [] := by
      refine List.filter_eq_nil_iff.2 fun c hc => ?_
      rw [hblank c hc]
      exact Bool.false_ne_true
    rw [List.filter_append, hnone, List.nil_append]

/-- A place on a row is not behind the end of that row. -/
theorem not_lineEnd_lt {p : Position} {row : Nat} (hp : p.row ≤ row) :
    ¬ (⟨row, b.lineSize row⟩ : Position) < b.clamp p := by
  have hrow : (b.clamp p).row ≤ row := (Nat.min_le_left _ _).trans hp
  intro hlt
  rcases Position.lt_def.1 hlt with hless | ⟨hsame, hless⟩
  · exact Nat.not_lt.2 hrow hless
  · have hcol := (b.inside_clamp p).col
    rw [← hsame] at hcol
    exact Nat.not_lt.2 hcol hless

/-- A place on a row is not behind the beginning of the next row. -/
theorem not_beginning_lt {p : Position} {row : Nat} (hp : p.row ≤ row) :
    ¬ (⟨row + 1, 0⟩ : Position) < b.clamp p := by
  have hrow : (b.clamp p).row ≤ row := (Nat.min_le_left _ _).trans hp
  rw [Position.lt_def]
  dsimp only
  omega

/-- Up to the beginning of the next row the line break is taken that is left out at the end of the
row. -/
theorem slice_beginning {first : Position} {row : Nat} (hfirst : first.row ≤ row)
    (hrow : row < b.lastRow) :
    b.slice first ⟨row + 1, 0⟩ = b.slice first ⟨row, b.lineSize row⟩ ++ ['\n'] := by
  have hlast : row ≤ b.lastRow := Nat.le_of_lt hrow
  have hend := clamp_lineEnd hlast
  have hnext := clamp_beginning (b := b) hrow
  have hrest : b.textBefore (b.clamp first) ++ b.slice first ⟨row, b.lineSize row⟩ =
      b.textBefore ⟨row, b.lineSize row⟩ := by
    rw [textBefore_append_slice (by rw [hend]; exact not_lineEnd_lt hfirst), hend]
  have hall : b.textBefore (b.clamp first) ++ b.slice first ⟨row + 1, 0⟩ =
      b.textBefore ⟨row + 1, 0⟩ := by
    rw [textBefore_append_slice (by rw [hnext]; exact not_beginning_lt hfirst), hnext]
  refine List.append_cancel_left (hall.trans ?_)
  rw [← textBefore_lineEnd (lt_lineCount.2 hlast), ← hrest, List.append_assoc]

/-- Whole rows are the text up to the beginning of the next row, with what stands in front of it in
its first row. -/
theorem flatMap_rows_eq {first : Position} {row : Nat} (hfirst : first.row ≤ row)
    (hrow : row < b.lastRow) :
    (b.rows first.row row).flatMap (· ++ ['\n']) =
      b.lineBefore (b.clamp first) ++ b.slice first ⟨row + 1, 0⟩ := by
  have hnext := clamp_beginning (b := b) hrow
  have hclamp : (b.clamp first).row = first.row :=
    Nat.min_eq_left (hfirst.trans (Nat.le_of_lt hrow))
  have hall : b.textBefore (b.clamp first) ++ b.slice first ⟨row + 1, 0⟩ =
      b.textBefore ⟨row + 1, 0⟩ := by
    rw [textBefore_append_slice (by rw [hnext]; exact not_beginning_lt hfirst), hnext]
  rw [textBefore_beginning, ← flatMap_rows (Nat.le_succ_of_le hfirst), textBefore, hclamp,
    List.append_assoc] at hall
  exact (List.append_cancel_left hall).symm

/-! ## The rows where motions land -/

section Rows

/-- A gap found ahead is within the rows searched. -/
theorem gapAhead_row {k row gap : Nat} {seenText : Bool}
    (h : b.gapAhead k row seenText = .gap gap) : gap ≤ row + k := by
  induction k generalizing row seenText with
  | zero =>
    rw [gapAhead] at h
    split at h <;> cases h
  | succ k ih =>
    rw [gapAhead] at h
    split at h
    · split at h
      · cases h
        omega
      · have hgap := ih h
        omega
    · have hgap := ih h
      omega

/-- A gap found behind is not below the row searched from. -/
theorem gapBehind_row {row gap : Nat} {seenText : Bool}
    (h : b.gapBehind row seenText = .gap gap) : gap ≤ row := by
  induction row generalizing seenText with
  | zero =>
    rw [gapBehind] at h
    split at h <;> cases h
  | succ row ih =>
    rw [gapBehind] at h
    split at h
    · split at h
      · cases h
        exact Nat.le_succ _
      · exact (ih h).trans (Nat.le_succ _)
    · exact (ih h).trans (Nat.le_succ _)

/-- Searches that stay below a row lead to a row below it. -/
theorem gapRow_le {search : Nat → GapSearch} {edge limit : Nat} (hedge : edge ≤ limit)
    (hsearch : ∀ row gap, row ≤ limit → search row = .gap gap → gap ≤ limit) {n row found : Nat}
    (hrow : row ≤ limit) (h : gapRow search edge n row = some found) : found ≤ limit := by
  induction n generalizing row with
  | zero =>
    cases h
    exact hrow
  | succ n ih =>
    rw [gapRow] at h
    split at h
    · rename_i gap hgap
      exact ih (hsearch row gap hrow hgap) h
    · split at h
      · cases h
        exact hedge
      · cases h
    · cases h
      exact hedge

variable {p : Position} (hp : p.row ≤ b.lastRow)
include hp

/-- `}` lands inside the buffer. -/
theorem paragraphForward_row_le (n : Nat) : (b.paragraphForward p n).row ≤ b.lastRow := by
  simp only [paragraphForward]
  split
  · exact hp
  · rename_i row hrow
    have hle : row ≤ b.lastRow :=
      gapRow_le (Nat.max_le.2 ⟨hp, Nat.le_refl _⟩)
        (fun row gap hrow hgap => (gapAhead_row hgap).trans (by omega)) hp hrow
    split
    · exact hle
    · exact hle

/-- `{` lands inside the buffer. -/
theorem paragraphBackward_row_le (n : Nat) : (b.paragraphBackward p n).row ≤ b.lastRow := by
  simp only [paragraphBackward]
  split
  · exact hp
  · rename_i row hrow
    exact gapRow_le (Nat.zero_le _) (fun row gap hrow hgap => (gapBehind_row hgap).trans hrow) hp
      hrow

/-- A move left stays on a row of the buffer. -/
theorem left_row_le (n : Nat) : (b.left p n).row ≤ b.lastRow := by
  unfold left
  split <;> exact hp

/-- A move right stays on a row of the buffer. -/
theorem right_row_le (n : Nat) (pastEnd : Bool) : (b.right p n pastEnd).row ≤ b.lastRow := by
  unfold right
  split <;> exact hp

end Rows

/-- Steps that lead from places between clusters to such places lead to a row of the buffer. -/
theorem iterate_row_le {step : Position → Position}
    (hstep : ∀ p, b.clamp p = p → b.clamp (step p) = step p) {p : Position} (hp : b.clamp p = p)
    (n : Nat) : (step^[n] p).row ≤ b.lastRow := by
  have hmaps : Set.MapsTo step {p | b.clamp p = p} {p | b.clamp p = p} := fun p hp => hstep p hp
  have hend : b.clamp (step^[n] p) = step^[n] p := hmaps.iterate n hp
  rw [← hend]
  exact Nat.min_le_right _ _

/-- `w` lands inside the buffer. -/
theorem wordForward_row_le (b : Buffer) (p : Position) (n : Nat) (big : Bool) :
    (b.wordForward p n big).row ≤ b.lastRow := by
  have hstart : b.wordForward p n big = b.wordForward (b.clamp p) n big := by
    simp only [wordForward, walkForward, clamp_clamp]
  rw [hstart, wordForward_iterate (b.clamp_clamp p)]
  refine iterate_row_le (fun q hq => ?_) (b.clamp_clamp p) n
  exact clamp_of_nearest (wordForward_lands hq big).1 (fun _ h => h.clamp) b.clamp_endPosition

/-- `e` lands inside the buffer. -/
theorem wordEndForward_row_le (b : Buffer) (p : Position) (n : Nat) (big : Bool) :
    (b.wordEndForward p n big).row ≤ b.lastRow := by
  have hstart : b.wordEndForward p n big = b.wordEndForward (b.clamp p) n big := by
    simp only [wordEndForward, walkForward, clamp_clamp]
  rw [hstart, wordEndForward_iterate (b.clamp_clamp p)]
  refine iterate_row_le (fun q hq => ?_) (b.clamp_clamp p) n
  exact clamp_of_nearest (wordEndForward_lands hq big).1 (fun _ h => h.clamp) hq

/-- `b` lands inside the buffer. -/
theorem wordBackward_row_le (b : Buffer) (p : Position) (n : Nat) (big : Bool) :
    (b.wordBackward p n big).row ≤ b.lastRow := by
  have hstart : b.wordBackward p n big = b.wordBackward (b.clamp p) n big := by
    simp only [wordBackward, clamp_clamp]
  rw [hstart, wordBackward_iterate (b.clamp_clamp p)]
  refine iterate_row_le (fun q hq => ?_) (b.clamp_clamp p) n
  exact clamp_of_nearest (wordBackward_lands hq big).1 (fun _ h => h.clamp) b.clamp_origin

end Buffer

namespace Motion

/-- No motion leads away from the rows of the buffer. -/
theorem land_row_le {m : Motion} {d : Document} {count : Option Nat} {lastFind : Option Find}
    {reachEnd : Bool} {landing : Landing} (hcursor : d.cursor.row ≤ d.lastRow)
    (h : m.land d count lastFind reachEnd = .ok landing) : landing.place.row ≤ d.lastRow := by
  -- a search stays on the row of the cursor, and a mark is brought into the text
  have hfind {f : Find} {n : Nat} {repeated : Bool} {p : Position}
      (hp : d.buffer.find d.cursor f n repeated = some p) : p.row ≤ d.lastRow := by
    obtain ⟨col, -, rfl⟩ := Option.map_eq_some_iff.1 hp
    exact hcursor
  have hmark {name : Char} {p : Position} (hp : d.mark name = .ok p) : p.row ≤ d.lastRow := by
    unfold Document.mark at hp
    split at hp
    · cases hp
      exact Nat.min_le_right _ _
    · cases hp
  cases m with
  | left =>
    obtain ⟨-, rfl⟩ := landIfMoved_eq_ok_iff.1 h
    exact Buffer.left_row_le hcursor _
  | right =>
    obtain ⟨-, rfl⟩ := landIfMoved_eq_ok_iff.1 h
    exact Buffer.right_row_le hcursor _ _
  | up =>
    obtain ⟨place, hup, rfl⟩ := landAt_eq_ok_iff.1 h
    rw [Buffer.up_eq_some hup]
    exact (Nat.sub_le _ _).trans hcursor
  | down =>
    obtain ⟨place, hdown, rfl⟩ := landAt_eq_ok_iff.1 h
    rw [Buffer.down_eq_some hdown]
    exact Nat.min_le_right _ _
  | lineStart =>
    cases h
    exact hcursor
  | firstText =>
    cases h
    exact hcursor
  | lineEnd =>
    cases h
    exact Nat.min_le_right _ _
  | wordForward big =>
    obtain ⟨-, rfl⟩ := landIfMoved_eq_ok_iff.1 h
    exact d.buffer.wordForward_row_le _ _ big
  | wordBackward big =>
    obtain ⟨-, rfl⟩ := landIfMoved_eq_ok_iff.1 h
    exact d.buffer.wordBackward_row_le _ _ big
  | wordEnd big =>
    obtain ⟨-, rfl⟩ := landIfMoved_eq_ok_iff.1 h
    exact d.buffer.wordEndForward_row_le _ _ big
  | fileStart =>
    cases h
    exact Nat.min_le_right _ _
  | fileEnd =>
    cases h
    exact Nat.min_le_right _ _
  | paragraphForward =>
    obtain ⟨-, rfl⟩ := landIfMoved_eq_ok_iff.1 h
    exact Buffer.paragraphForward_row_le hcursor _
  | paragraphBackward =>
    obtain ⟨-, rfl⟩ := landIfMoved_eq_ok_iff.1 h
    exact Buffer.paragraphBackward_row_le hcursor _
  | find f =>
    obtain ⟨place, hp, rfl⟩ := landAt_eq_ok_iff.1 h
    exact hfind hp
  | repeatFind reversed =>
    obtain ⟨place, hagain, rfl⟩ := landAt_eq_ok_iff.1 h
    obtain ⟨f, -, hp⟩ := Option.bind_eq_some_iff.1 hagain
    exact hfind hp
  | markExact name =>
    obtain ⟨place, hp, rfl⟩ := map_eq_ok_iff.1 h
    exact hmark hp
  | markLine name =>
    obtain ⟨place, hp, rfl⟩ := map_eq_ok_iff.1 h
    exact (hmark hp : place.row ≤ d.lastRow)

end Motion

namespace Span

/-- **What an exclusive range takes.** The text between two places that are in order. -/
theorem takes_exclusive {d : Document} {first past : Position} (hpast : past.row ≤ d.lastRow) :
    d.buffer.Takes first past (d.capture (exclusive d.buffer first past)) := by
  unfold exclusive
  split
  · rename_i hbeginning
    obtain ⟨hrow, hcol⟩ := hbeginning
    obtain ⟨row, rfl⟩ : ∃ row, past = ⟨row + 1, 0⟩ := by
      obtain ⟨prow, pcol⟩ := past
      obtain ⟨row, hprow⟩ := Nat.exists_eq_add_one_of_ne_zero (Nat.ne_zero_of_lt hrow)
      exact ⟨row, by rw [show prow = row + 1 from hprow, show pcol = 0 from hcol]⟩
    -- an end at column 0 of a later row is brought back to the end of the row before it, or, when
    -- nothing but blanks stands before the start, to whole rows
    have hfirst : first.row ≤ row := Nat.le_of_lt_succ hrow
    have hlast : row < d.buffer.lastRow := hpast
    split
    · rename_i hblank
      have hcapture : d.capture (.lines first.row row) =
          ⟨d.buffer.lineBefore (d.buffer.clamp first) ++ d.buffer.slice first ⟨row + 1, 0⟩,
            .lines⟩ := by
        rw [Document.capture, Document.lastRow, Nat.min_eq_left (Nat.le_of_lt hlast),
          RegisterContent.ofLines, Buffer.flatMap_rows_eq hfirst hlast]
      have hcol : floorBoundary (d.buffer.line first.row) first.col ≤
          firstNonBlank (d.buffer.line first.row) :=
        (floorIn_le _ _).trans hblank
      rw [Nat.add_sub_cancel, hcapture]
      refine .wholeLines fun c hc => ?_
      rw [Buffer.lineBefore, Buffer.clamp_row (Buffer.lt_lineCount.2 (hfirst.trans hlast.le))] at hc
      exact isBlank_of_mem_takeBytes hcol hc
    · exact .withoutBreak (Buffer.slice_beginning hfirst hlast)
  · exact .all

/-- A motion that does not go forward over words bounds a range by the place where it lands. -/
theorem resolve_of_not_wordForward {d : Document} {op : Operator} {m : Motion}
    {count : Option Nat} {lastFind : Option Find} (hword : m.isWordForward = false) :
    resolve d op m count lastFind =
      match m.land d count lastFind true with
      | .ok landing => between d m count lastFind landing.place
      | .error e => .error e := by
  cases m with
  | wordForward big => cases hword
  | _ => cases op <;> rfl

/-- **What an exclusive motion takes.** Whenever an operator has a range for an exclusive motion, other
than one forward over words, the motion lands somewhere, and what is captured of the range is the text
between that place and the cursor, up to a line break at its end or blanks in front: the characters
that are not blank are the same, and in the same order. -/
theorem resolve_exclusive {d : Document} {op : Operator} {m : Motion} {count : Option Nat}
    {lastFind : Option Find} {range : TextRange} (hcursor : d.cursor.row ≤ d.lastRow)
    (hclass : m.motionClass lastFind = .exclusive) (hword : m.isWordForward = false)
    (h : resolve d op m count lastFind = .ok range) :
    ∃ landing, m.land d count lastFind true = .ok landing ∧
      let first := min d.cursor landing.place
      let past := max d.cursor landing.place
      d.buffer.Takes first past (d.capture range) ∧
        (d.capture range).text.filter (fun c => !isBlank c) =
          (d.buffer.slice first past).filter (fun c => !isBlank c) := by
  rw [resolve_of_not_wordForward hword] at h
  cases hland : m.land d count lastFind true with
  | error reason =>
    rw [hland] at h
    cases h
  | ok landing =>
    rw [hland] at h
    have hrange : exclusive d.buffer (min d.cursor landing.place) (max d.cursor landing.place) =
        range := by
      simp only [between, hclass, hword, Bool.false_eq_true, false_and, if_false,
        Except.ok.injEq] at h
      exact h
    have hpast : (max d.cursor landing.place).row ≤ d.lastRow := by
      show (if landing.place < d.cursor then d.cursor else landing.place).row ≤ d.lastRow
      split
      · exact hcursor
      · exact Motion.land_row_le hcursor hland
    have htakes : d.buffer.Takes (min d.cursor landing.place) (max d.cursor landing.place) _ :=
      takes_exclusive hpast
    rw [hrange] at htakes
    exact ⟨landing, rfl, htakes, htakes.filter_text⟩

/-- From the blanks in front of a paragraph to the empty line behind it: the lines of the paragraph are
taken, with the blank that was in front of the cursor. -/
theorem resolve_exclusive_paragraph :
    let d : Document := {
      buffer := .ofText [' ', ' ', 'a', '\n', 'b', '\n', '\n', 'c']
      cursor := ⟨0, 1⟩ }
    resolve d .delete .paragraphForward none none = .ok (.lines 0 1) ∧
      d.capture (.lines 0 1) = ⟨[' ', ' ', 'a', '\n', 'b', '\n'], .lines⟩ ∧
      ∃ landing, Motion.paragraphForward.land d none none true = .ok landing ∧
        d.buffer.Takes (min d.cursor landing.place) (max d.cursor landing.place)
          (d.capture (.lines 0 1)) := by
  intro d
  have hcursor : d.cursor.row ≤ d.lastRow := by decide +kernel
  have hrange : resolve d .delete .paragraphForward none none = .ok (.lines 0 1) := by
    decide +kernel
  obtain ⟨landing, hland, htakes, -⟩ := resolve_exclusive hcursor rfl rfl hrange
  exact ⟨hrange, by decide +kernel, landing, hland, htakes⟩

end Span

end ModalEditor
