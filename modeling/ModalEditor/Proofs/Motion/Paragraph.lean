import Mathlib.Order.Bounds.Basic
import ModalEditor.Command.Motion

/-!
# Where paragraph motions land

A gap is a blank row that the start is parted from by text (`Buffer.GapsBelow`, `Buffer.GapsAbove`). A
walk from the start finds the nearest gap, or that there is none (`gapAhead_finds`,
`gapBehind_finds`). Both walks carry the same invariant: the flag says whether there was text on the
rows so far, and none of these rows is a gap. So a paragraph motion lands on the nearest gap, or at the
edge of the document if there is none, and it fails when it is there already (`Motion.land_paragraph`).
-/

namespace ModalEditor

namespace Buffer

/-- One of the rows from `first` to `last` is not blank. -/
def HasText (b : Buffer) (first last : Nat) : Prop :=
  ∃ row, first ≤ row ∧ row ≤ last ∧ b.isBlankLine row = false

/-- The blank rows below `start` with text between them and `start`, or on `start` itself. -/
def GapsBelow (b : Buffer) (start : Nat) : Set Nat :=
  {gap | start < gap ∧ b.isBlankLine gap = true ∧ b.HasText start gap}

/-- The blank rows above `start` with text between them and `start`, or on `start` itself. -/
def GapsAbove (b : Buffer) (start : Nat) : Set Nat :=
  {gap | gap < start ∧ b.isBlankLine gap = true ∧ b.HasText gap start}

/-- What a search tells about the gaps: which one is the nearest, or that there is none. -/
def GapSearch.Finds (nearest : Set Nat → Nat → Prop) (gaps : Set Nat) : GapSearch → Prop
  | .gap row => nearest gaps row
  | .edgeAfterText | .edge => gaps = ∅

/-- The beginning of the nearest gap, or the edge if there is no gap. -/
def LandsOn (nearest : Set Nat → Nat → Prop) (gaps : Set Nat) (edge place : Position) : Prop :=
  (∃ row, nearest gaps row ∧ place = ⟨row, 0⟩) ∨ gaps = ∅ ∧ place = edge

/-- Where the rows run out below: the end of the last row, or its beginning if it is blank. -/
def lowerEdge (b : Buffer) : Position :=
  if b.isBlankLine b.lastRow then ⟨b.lastRow, 0⟩ else b.endPosition

variable {b : Buffer}

/-! ## Rows with text -/

/-- A blank row is a row of the buffer. -/
theorem lt_lineCount_of_isBlankLine {row : Nat} (h : b.isBlankLine row = true) :
    row < b.lineCount := by
  refine Nat.lt_of_not_le fun hle => ?_
  rw [isBlankLine, line?, List.getElem?_eq_none hle] at h
  exact Bool.false_ne_true h

/-- A row by itself has text unless it is blank. -/
theorem hasText_self {row : Nat} : b.HasText row row ↔ b.isBlankLine row = false := by
  constructor
  · rintro ⟨text, hfirst, hlast, htext⟩
    rwa [Nat.le_antisymm hlast hfirst] at htext
  · exact fun h => ⟨row, Nat.le_refl _, Nat.le_refl _, h⟩

/-- One row more at the end has text if the rows before did or it does itself. -/
theorem hasText_succ {first last : Nat} (hle : first ≤ last + 1) :
    b.HasText first (last + 1) ↔ b.HasText first last ∨ b.isBlankLine (last + 1) = false := by
  constructor
  · rintro ⟨row, hfirst, hlast, htext⟩
    rcases Nat.le_succ_iff.1 hlast with hlast | rfl
    · exact .inl ⟨row, hfirst, hlast, htext⟩
    · exact .inr htext
  · rintro (⟨row, hfirst, hlast, htext⟩ | htext)
    · exact ⟨row, hfirst, Nat.le_succ_of_le hlast, htext⟩
    · exact ⟨last + 1, hle, Nat.le_refl _, htext⟩

/-- One row more at the beginning has text if the rows after did or it does itself. -/
theorem hasText_pred {first last : Nat} (hle : first ≤ last) :
    b.HasText first last ↔ b.HasText (first + 1) last ∨ b.isBlankLine first = false := by
  constructor
  · rintro ⟨row, hfirst, hlast, htext⟩
    rcases Nat.eq_or_lt_of_le hfirst with rfl | hfirst
    · exact .inr htext
    · exact .inl ⟨row, hfirst, hlast, htext⟩
  · rintro (⟨row, hfirst, hlast, htext⟩ | htext)
    · exact ⟨row, Nat.le_of_succ_le hfirst, hlast, htext⟩
    · exact ⟨first, Nat.le_refl _, hle, htext⟩

/-! ## The walks -/

/-- From a row down to which there was no gap, the walk finds the first one below `start`. -/
theorem gapAhead_finds {start k row : Nat} {seenText : Bool} (hstart : start ≤ row)
    (hrow : row + k = b.lastRow) (hseen : seenText = true ↔ b.HasText start row)
    (hpassed : ∀ gap ∈ b.GapsBelow start, row < gap) :
    (b.gapAhead k row seenText).Finds IsLeast (b.GapsBelow start) := by
  induction k generalizing row seenText with
  | zero =>
    have hnone : b.GapsBelow start = ∅ := by
      refine Set.eq_empty_of_forall_notMem fun gap hgap => ?_
      have hbeyond := hpassed gap hgap
      have hinside := lt_lineCount_of_isBlankLine hgap.2.1
      rw [lastRow] at hrow
      omega
    rw [gapAhead]
    split <;> exact hnone
  | succ k ih =>
    have hsucc := hasText_succ (b := b) (Nat.le_succ_of_le hstart)
    -- a gap on the next row needs a blank row and text in front of it
    have hnext (hno : b.isBlankLine (row + 1) = true → ¬ b.HasText start (row + 1)) :
        ∀ gap ∈ b.GapsBelow start, row + 1 < gap := by
      intro gap hgap
      refine Nat.lt_of_le_of_ne (hpassed gap hgap) ?_
      rintro rfl
      exact hno hgap.2.1 hgap.2.2
    rw [gapAhead]
    by_cases hblank : b.isBlankLine (row + 1) = true
    · rw [if_pos hblank]
      simp only [hblank, Bool.true_eq_false, or_false] at hsucc
      by_cases htext : b.HasText start row
      · rw [if_pos (hseen.2 htext)]
        exact ⟨⟨Nat.lt_succ_of_le hstart, hblank, hsucc.2 htext⟩, hpassed⟩
      · rw [if_neg (mt hseen.1 htext)]
        refine ih (by omega) (by omega) ?_ (hnext fun _ h => htext (hsucc.1 h))
        simp [hsucc, htext]
    · rw [if_neg hblank]
      rw [Bool.not_eq_true] at hblank
      refine ih (by omega) (by omega) ?_ (hnext fun h => ?_)
      · simp [hsucc, hblank]
      · simp [hblank] at h

/-- From a row up to which there was no gap, the walk finds the last one above `start`. -/
theorem gapBehind_finds {start row : Nat} {seenText : Bool} (hstart : row ≤ start)
    (hseen : seenText = true ↔ b.HasText row start)
    (hpassed : ∀ gap ∈ b.GapsAbove start, gap < row) :
    (b.gapBehind row seenText).Finds IsGreatest (b.GapsAbove start) := by
  induction row generalizing seenText with
  | zero =>
    have hnone : b.GapsAbove start = ∅ :=
      Set.eq_empty_of_forall_notMem fun gap hgap => Nat.not_lt_zero gap (hpassed gap hgap)
    rw [gapBehind]
    split <;> exact hnone
  | succ row ih =>
    have hpred := hasText_pred (b := b) (Nat.le_of_succ_le hstart)
    have hnext (hno : b.isBlankLine row = true → ¬ b.HasText row start) :
        ∀ gap ∈ b.GapsAbove start, gap < row := by
      intro gap hgap
      refine Nat.lt_of_le_of_ne (Nat.le_of_lt_succ (hpassed gap hgap)) ?_
      rintro rfl
      exact hno hgap.2.1 hgap.2.2
    rw [gapBehind]
    -- a blank row ends the walk only once text has been passed
    by_cases hblank : b.isBlankLine row = true
    · rw [if_pos hblank]
      simp only [hblank, Bool.true_eq_false, or_false] at hpred
      by_cases htext : b.HasText (row + 1) start
      · rw [if_pos (hseen.2 htext)]
        exact ⟨⟨hstart, hblank, hpred.2 htext⟩, fun gap hgap => Nat.le_of_lt_succ (hpassed gap hgap)⟩
      · rw [if_neg (mt hseen.1 htext)]
        refine ih (by omega) ?_ (hnext fun _ h => htext (hpred.1 h))
        simp [hpred, htext]
    · rw [if_neg hblank]
      rw [Bool.not_eq_true] at hblank
      refine ih (by omega) ?_ (hnext fun h => ?_)
      · simp [hpred, hblank]
      · simp [hblank] at h

/-! ## The motions -/

/-- A walk starts having seen text exactly when its own row has some. -/
theorem not_isBlankLine_iff {row : Nat} : (!b.isBlankLine row) = true ↔ b.HasText row row := by
  rw [hasText_self, Bool.not_eq_true']

/-- `}` lands on the nearest gap below, or on the lower edge of the buffer. -/
theorem paragraphForward_lands {p : Position} (hrow : p.row ≤ b.lastRow) :
    LandsOn IsLeast (b.GapsBelow p.row) b.lowerEdge (b.paragraphForward p 1) := by
  have hfinds := gapAhead_finds (Nat.le_refl p.row) (Nat.add_sub_of_le hrow)
    not_isBlankLine_iff fun gap hgap => hgap.1
  have hlower : (if b.lastRow = b.lastRow ∧ b.isBlankLine b.lastRow = false then
      (⟨b.lastRow, b.lineSize b.lastRow⟩ : Position) else ⟨b.lastRow, 0⟩) = b.lowerEdge := by
    cases h : b.isBlankLine b.lastRow <;> simp [lowerEdge, endPosition, h]
  simp only [paragraphForward, gapRow, Nat.max_eq_right hrow]
  cases hsearch : b.gapAhead (b.lastRow - p.row) p.row (!b.isBlankLine p.row) with
  | gap row =>
    rw [hsearch] at hfinds
    obtain ⟨-, hblank, -⟩ := hfinds.1
    exact .inl ⟨row, hfinds, by simp [hblank]⟩
  | edgeAfterText =>
    rw [hsearch] at hfinds
    exact .inr ⟨hfinds, hlower⟩
  | edge =>
    rw [hsearch] at hfinds
    exact .inr ⟨hfinds, hlower⟩

/-- `{` lands on the nearest gap above, or at the beginning of the buffer. -/
theorem paragraphBackward_lands (b : Buffer) (p : Position) :
    LandsOn IsGreatest (b.GapsAbove p.row) .origin (b.paragraphBackward p 1) := by
  have hfinds := gapBehind_finds (b := b) (Nat.le_refl p.row) not_isBlankLine_iff
    fun gap hgap => hgap.1
  simp only [paragraphBackward, gapRow]
  cases hsearch : b.gapBehind p.row (!b.isBlankLine p.row) with
  | gap row =>
    rw [hsearch] at hfinds
    exact .inl ⟨row, hfinds, rfl⟩
  | edgeAfterText =>
    rw [hsearch] at hfinds
    exact .inr ⟨hfinds, rfl⟩
  | edge =>
    rw [hsearch] at hfinds
    exact .inr ⟨hfinds, rfl⟩

end Buffer

namespace Motion

open Buffer

/-- **Paragraph motions.** Without a count, or with count one, the motion forward lands on the
beginning of the first gap below the row of the cursor; if there is none, at the end of the last row,
or at its beginning if that row is blank. The motion backward lands on the beginning of the last gap
above, or at the beginning of the document if there is none. They fail exactly if this is where the
cursor is. -/
theorem land_paragraph {d : Document} {count : Option Nat} (hrow : d.cursor.row ≤ d.lastRow)
    (hcount : count.getD 1 ≤ 1) (lastFind : Option Find) (reachEnd : Bool) :
    let below := d.buffer.paragraphForward d.cursor 1
    let above := d.buffer.paragraphBackward d.cursor 1
    LandsOn IsLeast (d.buffer.GapsBelow d.cursor.row) d.buffer.lowerEdge below ∧
      LandsOn IsGreatest (d.buffer.GapsAbove d.cursor.row) .origin above ∧
      (paragraphForward.land d count lastFind reachEnd =
        if below = d.cursor then .error .motionFailed else .ok { place := below }) ∧
      paragraphBackward.land d count lastFind reachEnd =
        if above = d.cursor then .error .motionFailed else .ok { place := above } := by
  have hone : max (count.getD 1) 1 = 1 := Nat.max_eq_right hcount
  refine ⟨paragraphForward_lands hrow, paragraphBackward_lands d.buffer d.cursor, ?_, ?_⟩
  · simp only [land, hone, landIfMoved]
  · simp only [land, hone, landIfMoved]

/-- From the middle of three blank rows: the next gap is behind the text below, and the blank row right
above is no gap, for there is no text between the two. -/
theorem land_paragraph_blankRows :
    let d : Document := {
      buffer := .ofText ['a', '\n', '\n', '\n', ' ', '\n', 'b', '\n', '\n', 'c']
      cursor := ⟨2, 0⟩ }
    d.cursor.row ≤ d.lastRow ∧
      LandsOn IsLeast (d.buffer.GapsBelow 2) d.buffer.lowerEdge ⟨5, 0⟩ ∧
      LandsOn IsGreatest (d.buffer.GapsAbove 2) .origin .origin ∧
      paragraphForward.land d none none false = .ok { place := ⟨5, 0⟩ } ∧
      paragraphBackward.land d none none false = .ok { place := .origin } := by
  intro d
  have hrow : d.cursor.row ≤ d.lastRow := by decide +kernel
  have hcount : (none : Option Nat).getD 1 ≤ 1 := by decide
  obtain ⟨hbelow, habove, hforward, hbackward⟩ := land_paragraph hrow hcount none false
  rw [show d.buffer.paragraphForward d.cursor 1 = ⟨5, 0⟩ by decide +kernel] at hbelow hforward
  rw [show d.buffer.paragraphBackward d.cursor 1 = .origin by decide +kernel] at habove hbackward
  exact ⟨hrow, hbelow, habove, hforward, hbackward⟩

end Motion

end ModalEditor
