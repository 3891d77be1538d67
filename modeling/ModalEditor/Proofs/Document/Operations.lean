import ModalEditor.Proofs.Document.Edit

/-!
# Operations are edits

Every operation of a document that changes the text, one after the other: what edits keep of two
open documents is kept by the operation. An operation that gives a value beside the document gives
the same value for both.
-/

namespace ModalEditor.Document

/-- Joining is a single mutation. -/
theorem joinLines_eq (d : Document) (row k : Nat) (spaced : Bool) :
    d.joinLines row k spaced =
      if d.lastRow ≤ row then none
      else
        let last := min (row + max k 2 - 1) d.lastRow
        let joined := joinAll spaced (d.line row) 0 (d.buffer.rows (row + 1) last)
        some ((d.mutate ((d.buffer.removeLines (row + 1) last).1.setLine row joined.1)).setCursor
          ⟨row, joined.2⟩ .normal) := rfl

namespace EditRelation

section View

variable {R : Nat → Document → Document → Prop} (hR : EditRelation R) {n : Nat} {d d' : Document}
  (h : R n d d')
include hR h

/-- Related documents have the same text. -/
theorem buffer : d'.buffer = d.buffer := by obtain ⟨_, _, _, rfl⟩ := hR.view h; rfl

/-- Related documents have the same cursor. -/
theorem cursor : d'.cursor = d.cursor := by obtain ⟨_, _, _, rfl⟩ := hR.view h; rfl

theorem line : d'.line = d.line := by obtain ⟨_, _, _, rfl⟩ := hR.view h; rfl

theorem lastRow : d'.lastRow = d.lastRow := by obtain ⟨_, _, _, rfl⟩ := hR.view h; rfl

/-- What a position is brought to depends on the text alone. -/
theorem clamp : d'.clamp = d.clamp := by obtain ⟨_, _, _, rfl⟩ := hR.view h; rfl

/-! ## The cursor -/

/-- Placing the cursor, which brings it into the text first, is kept. -/
theorem setCursor (p : Position) (c : CursorContext) :
    R n (d.setCursor p c) (d'.setCursor p c) := by
  unfold Document.setCursor
  rw [hR.clamp h]
  exact hR.place _ _ h

/-- The cursor may also be put down as it is. -/
theorem moved (p : Position) : R n { d with cursor := p } { d' with cursor := p } := by
  obtain ⟨_, _, _, rfl⟩ := hR.view h
  exact hR.place p d.sticky h

/-- A jump is recorded in both documents from the same cursor. -/
theorem recordJump (p : Position) : R n (d.recordJump p) (d'.recordJump p) := by
  obtain ⟨_, _, _, rfl⟩ := hR.view h
  exact hR.remember _ _ h

/-! ## Text -/

/-- Inserting is one mutation, and gives the same end in both documents. -/
theorem insertAt (p : Position) (s : Text) :
    R n (d.insertAt p s).1 (d'.insertAt p s).1 ∧ (d'.insertAt p s).2 = (d.insertAt p s).2 := by
  unfold Document.insertAt
  rw [hR.buffer h]
  split
  · exact ⟨h, rfl⟩
  · exact ⟨hR.mutate _ h, rfl⟩

/-- Inserting at the cursor inserts, and places the cursor behind the text. -/
theorem insertText (s : Text) : R n (d.insertText s) (d'.insertText s) := by
  obtain ⟨hdoc, hpast⟩ := hR.insertAt h d.cursor s
  unfold Document.insertText
  rw [hR.cursor h]
  show R n { (d.insertAt d.cursor s).1 with cursor := (d.insertAt d.cursor s).2 }
    { (d'.insertAt d.cursor s).1 with cursor := (d'.insertAt d.cursor s).2 }
  rw [hpast]
  exact hR.moved hdoc _

/-- Deleting a range is one mutation, or none if the range is empty, and gives the same text. -/
theorem deleteRange (p q : Position) :
    R n (d.deleteRange p q).1 (d'.deleteRange p q).1 ∧
      (d'.deleteRange p q).2 = (d.deleteRange p q).2 := by
  unfold Document.deleteRange
  rw [hR.buffer h]
  split
  · exact ⟨hR.mutate _ h, rfl⟩
  · exact ⟨h, rfl⟩

/-- Replacing a range is one mutation, or none if nothing would change, and gives the same end. -/
theorem replaceRange (p q : Position) (s : Text) :
    R n (d.replaceRange p q s).1 (d'.replaceRange p q s).1 ∧
      (d'.replaceRange p q s).2 = (d.replaceRange p q s).2 := by
  simp only [Document.replaceRange, hR.buffer h]
  split
  · exact ⟨h, rfl⟩
  · exact ⟨hR.mutate _ h, rfl⟩

/-! ## Lines -/

/-- Deleting rows is one mutation. -/
theorem deleteLines (first last : Nat) :
    R n (d.deleteLines first last).1 (d'.deleteLines first last).1 := by
  unfold Document.deleteLines
  rw [hR.lastRow h, hR.buffer h]
  split
  · exact h
  · exact hR.mutate _ h

/-- Inserting rows is one mutation, or none if there are no rows to insert. -/
theorem insertLines (row : Nat) (ls : List Text) :
    R n (d.insertLines row ls) (d'.insertLines row ls) := by
  unfold Document.insertLines
  rw [hR.buffer h]
  split
  · exact h
  · exact hR.mutate _ h

/-- Writing a row is one mutation, or none if the row is the same already. -/
theorem setLine (row : Nat) (s : Text) : R n (d.setLine row s) (d'.setLine row s) := by
  unfold Document.setLine
  rw [hR.buffer h, hR.lastRow h, hR.line h]
  split
  · exact h
  · exact hR.mutate _ h

/-- Opening a line inserts a row, and places the cursor in it. -/
theorem openLine (below : Bool) : R n (d.openLine below) (d'.openLine below) := by
  unfold Document.openLine
  rw [hR.cursor h]
  exact hR.place _ _ (hR.insertLines h _ _)

/-! ## Joining and replacing -/

/-- Joining fails in both documents, or is one mutation in both. -/
theorem joinLines (row k : Nat) (spaced : Bool) :
    R n ((d.joinLines row k spaced).getD d) ((d'.joinLines row k spaced).getD d') ∧
      (d'.joinLines row k spaced).isSome = (d.joinLines row k spaced).isSome := by
  rw [joinLines_eq, joinLines_eq, hR.buffer h, hR.lastRow h, hR.line h]
  split
  · exact ⟨h, rfl⟩
  · exact ⟨hR.setCursor (hR.mutate _ h) _ _, rfl⟩

/-- Replacing characters fails in both documents, or is one replacement in both. -/
theorem replaceChars (p : Position) (k : Nat) (c : Char) :
    R n ((d.replaceChars p k c).getD d) ((d'.replaceChars p k c).getD d') ∧
      (d'.replaceChars p k c).isSome = (d.replaceChars p k c).isSome := by
  simp only [Document.replaceChars, hR.line h]
  cases offsetBehind (d.line p.row) (max k 1) p.col with
  | none => exact ⟨h, rfl⟩
  | some past => exact ⟨hR.setCursor (hR.replaceRange h _ _ _).1 _ _, rfl⟩

/-- A line break takes the place of all the characters together, another character that of each of them.
-/
theorem replaceUnder (c : Char) (k : Nat) :
    R n ((d.replaceUnder c k).getD d) ((d'.replaceUnder c k).getD d') ∧
      (d'.replaceUnder c k).isSome = (d.replaceUnder c k).isSome := by
  simp only [Document.replaceUnder, hR.cursor h, hR.line h]
  by_cases hc : c = '\n'
  · simp only [if_pos hc]
    cases offsetBehind (d.line d.cursor.row) (max k 1) d.cursor.col with
    | none => exact ⟨h, rfl⟩
    | some past => exact ⟨hR.setCursor (hR.replaceRange h _ _ _).1 _ _, rfl⟩
  · simp only [if_neg hc]
    exact hR.replaceChars h _ _ _

/-! ## Putting back -/

/-- Putting characters inserts them, and places the cursor on the last. -/
theorem putChars (t : Text) (placement : Placement) (k : Nat) :
    R n (d.putChars t placement k) (d'.putChars t placement k) := by
  simp only [Document.putChars, hR.cursor h, hR.line h]
  generalize (if placement = .after ∧ d.line d.cursor.row ≠ [] then _ else _) = col
  obtain ⟨hdoc, hpast⟩ := hR.insertAt h ⟨d.cursor.row, col⟩ (repeatText k t)
  rw [hpast, hR.line hdoc, hR.cursor hdoc]
  split
  · exact hR.setCursor hdoc _ _
  · exact hR.setCursor hdoc _ _

/-- Putting rows inserts them, and places the cursor in the first. -/
theorem putLines (ls : List Text) (placement : Placement) (k : Nat) :
    R n (d.putLines ls placement k) (d'.putLines ls placement k) := by
  simp only [Document.putLines, hR.cursor h]
  generalize (if placement = .after then _ else _) = row
  have hdoc := hR.insertLines h row (List.replicate k ls).flatten
  rw [hR.buffer hdoc]
  exact hR.setCursor hdoc _ _

/-- The rows of a rectangle are put one below the other, with rows added where the text ends. -/
theorem putRows (column width k : Nat) (ls : List Text) (row : Nat) :
    R n (putRows column width k d row ls) (Document.putRows column width k d' row ls) := by
  induction ls generalizing d d' row with
  | nil => exact h
  | cons piece later ih =>
    -- the missing row is added first, and the piece is set into the row that there is then
    have hgrown : R n (if d.lastRow < row then d.insertLines d.buffer.lineCount [[]] else d)
        (if d'.lastRow < row then d'.insertLines d'.buffer.lineCount [[]] else d') := by
      rw [hR.lastRow h, hR.buffer h]
      split
      · exact hR.insertLines h _ _
      · exact h
    simp only [Document.putRows, hR.line hgrown]
    exact ih (hR.setLine hgrown _ _) _

/-- Putting a rectangle puts its rows from the column of the cursor on. -/
theorem putBlock (rows : List Text) (width : Nat) (placement : Placement) (k : Nat) :
    R n (d.putBlock rows width placement k) (d'.putBlock rows width placement k) := by
  simp only [Document.putBlock, hR.cursor h, hR.line h]
  exact hR.setCursor (hR.putRows h _ _ _ _ _) _ _

/-- What is put decides how, and nothing is put if the content is empty. -/
theorem put (content : RegisterContent) (placement : Placement) (k : Nat) :
    R n ((d.put content placement k).getD d) ((d'.put content placement k).getD d') := by
  unfold Document.put
  split
  · exact h
  · have hbegun := hR.begins h
    refine hR.ends ?_
    cases content.kind with
    | chars => exact hR.putChars hbegun _ _ _
    | lines => exact hR.putLines hbegun _ _ _
    | block width => exact hR.putBlock hbegun _ _ _ _

/-! ## Rectangles -/

/-- Which rows a rectangle takes depends on the text alone. -/
theorem blockRows : d'.blockRows = d.blockRows := by obtain ⟨_, _, _, rfl⟩ := hR.view h; rfl

/-- So does the position where it begins. -/
theorem blockOrigin : d'.blockOrigin = d.blockOrigin := by obtain ⟨_, _, _, rfl⟩ := hR.view h; rfl

/-- One row of a rectangle is deleted as a range. -/
theorem deleteBlockRow (left right row : Nat) :
    R n (d.deleteBlockRow left right row) (d'.deleteBlockRow left right row) := by
  simp only [Document.deleteBlockRow, hR.line h]
  split
  · exact (hR.deleteRange h _ _).1
  · exact h

/-- A rectangle is deleted row by row, which edits compose. -/
theorem deleteBlock (top bottom left right : Nat) :
    R n (d.deleteBlock top bottom left right).1 (d'.deleteBlock top bottom left right).1 := by
  unfold Document.deleteBlock
  rw [hR.blockRows h]
  have hrow (row : Nat) : IsEdit (Document.deleteBlockRow left right · row) :=
    ⟨fun hR h => hR.deleteBlockRow h left right row⟩
  exact (isEdit_foldl hrow _).asChange.relates hR h

/-- One row of a rectangle is replaced as a range, unless it is empty. -/
theorem replaceBlockRow (left right : Nat) (c : Char) (row : Nat) :
    R n (d.replaceBlockRow left right c row) (d'.replaceBlockRow left right c row) := by
  have htext : d'.blockRowText = d.blockRowText := by obtain ⟨_, _, _, rfl⟩ := hR.view h; rfl
  simp only [Document.replaceBlockRow, hR.line h, htext]
  cases (clusters (d.blockRowText row left right)).length with
  | zero => exact h
  | succ k => exact (hR.replaceRange h _ _ _).1

/-- A rectangle is replaced row by row. -/
theorem replaceBlock (top bottom left right : Nat) (c : Char) :
    R n (d.replaceBlock top bottom left right c) (d'.replaceBlock top bottom left right c) := by
  unfold Document.replaceBlock
  rw [hR.blockRows h]
  have hrow (row : Nat) : IsEdit (Document.replaceBlockRow left right c · row) :=
    ⟨fun hR h => hR.replaceBlockRow h left right c row⟩
  exact (isEdit_foldl hrow _).asChange.relates hR h

/-! ## Cutting -/

/-- Each shape of range is cut by the operation for its shape; with `change` whole rows leave one empty.
-/
theorem cutRange (change : Bool) (range : TextRange) :
    R n (d.cutRange change range) (d'.cutRange change range) := by
  unfold Document.cutRange
  cases range with
  | chars first past => exact hR.setCursor (hR.deleteRange h _ _).1 _ _
  | lines first last =>
    have hset := hR.setLine h first []
    have hcut := hR.deleteLines h first last
    simp only [hR.buffer hcut, hR.lastRow hcut]
    split
    · split
      · exact hR.setCursor (hR.deleteLines hset _ _) _ _
      · exact hR.setCursor hset _ _
    · exact hR.setCursor hcut _ _
  | block top bottom left right =>
    have hcut := hR.deleteBlock h top bottom left right
    simp only [hR.blockOrigin hcut]
    exact hR.setCursor hcut _ _

/-! ## Filling -/

/-- Filling a part of a row replaces it, unless it holds no cluster. -/
theorem fillRow (c : Char) (row first past : Nat) :
    R n (d.fillRow c row first past) (d'.fillRow c row first past) := by
  unfold Document.fillRow
  rw [hR.line h]
  split
  · exact h
  · exact (hR.replaceRange h _ _ _).1

/-- A range is filled row by row, and the last offset of a row is read from the text of the time. -/
theorem fillRange (c : Char) (range : TextRange) :
    R n (d.fillRange c range) (d'.fillRange c range) := by
  cases range with
  | block top bottom left right => exact hR.replaceBlock h _ _ _ _ _
  | _ =>
    simp only [Document.fillRange, hR.blockRows h]
    refine (isEdit_foldl (fun row => ⟨fun hR h => ?_⟩) _).relates hR h
    simp only [hR.buffer h]
    exact hR.fillRow h _ _ _ _

/-- Where a range begins depends on the text alone. -/
theorem rangeOrigin (range : TextRange) : d'.rangeOrigin range = d.rangeOrigin range := by
  obtain ⟨_, _, _, rfl⟩ := hR.view h; cases range <;> rfl

/-! ## Putting in the place of a range -/

/-- A range is cut and the content put where it was, after or before, as the text then requires. -/
theorem putRange (content : RegisterContent) (k : Nat) (range : TextRange) :
    R n (d.putRange content k range) (d'.putRange content k range) := by
  cases range with
  | chars first past =>
    have hcut := (hR.deleteRange h first past).1
    simp only [Document.putRange, Document.putOrKeep]
    split
    -- whole rows that take the place of characters break the line first
    · exact hR.put (hR.setCursor (hR.insertAt hcut _ _).1 _ _) _ _ _
    · exact hR.put (hR.setCursor hcut _ _) _ _ _
  | lines first last =>
    have hcut := hR.deleteLines h first last
    simp only [Document.putRange, Document.putOrKeep, hR.lastRow hcut]
    generalize (if content.kind = .lines then _ else _) = rows
    -- the cut may take the last rows, and the content then goes behind the row that is left
    split
    · exact hR.put (hR.setCursor hcut _ _) _ _ _
    · exact hR.put (hR.setCursor hcut _ _) _ _ _
  | block top bottom left right =>
    have hcut := hR.deleteBlock h top bottom left right
    simp only [Document.putRange, Document.putOrKeep, hR.blockOrigin hcut]
    exact hR.put (hR.setCursor hcut _ _) _ _ _

/-! ## Substituting -/

omit h in
/-- A substitution in one row changes the row, and the count of rows that the edit has added. -/
theorem substituteRow {s s' : Substitution} (hdoc : R n s.document s'.document)
    (hshift : s'.shift = s.shift) (hlast : s'.lastChanged = s.lastChanged) (edit : Text → Text)
    (row : Nat) :
    R n (substituteRow edit s row).document (Document.substituteRow edit s' row).document ∧
      (Document.substituteRow edit s' row).shift = (Document.substituteRow edit s row).shift ∧
      (Document.substituteRow edit s' row).lastChanged =
        (Document.substituteRow edit s row).lastChanged := by
  simp only [Document.substituteRow, hshift, hR.line hdoc]
  split
  · exact ⟨hdoc, hshift, hlast⟩
  · exact ⟨(hR.replaceRange hdoc _ _ _).1, rfl, rfl⟩

omit h in
/-- The rows of a substitution one after the other, by induction on them. -/
theorem foldl_substituteRow {s s' : Substitution} (hdoc : R n s.document s'.document)
    (hshift : s'.shift = s.shift) (hlast : s'.lastChanged = s.lastChanged) (edit : Text → Text)
    (rows : List Nat) :
    R n (rows.foldl (Document.substituteRow edit) s).document
        (rows.foldl (Document.substituteRow edit) s').document ∧
      (rows.foldl (Document.substituteRow edit) s').lastChanged =
        (rows.foldl (Document.substituteRow edit) s).lastChanged := by
  induction rows generalizing s s' with
  | nil => exact ⟨hdoc, hlast⟩
  | cons row rows ih =>
    obtain ⟨hdoc', hshift', hlast'⟩ := hR.substituteRow hdoc hshift hlast edit row
    exact ih hdoc' hshift' hlast'

/-- A substitution fails in both documents, or ends on the same row in both. -/
theorem substitute (range : LineRange) (edit : Text → Text) :
    R n ((d.substitute range edit).getD d) ((d'.substitute range edit).getD d') := by
  unfold Document.substitute
  generalize List.range' range.first range.rowCount = rows
  have hstart : R n ({ document := d } : Substitution).document
    ({ document := d' } : Substitution).document := h
  obtain ⟨hdoc, hlast⟩ := hR.foldl_substituteRow hstart rfl rfl edit rows
  simp only [hlast]
  cases (rows.foldl (Document.substituteRow edit) { document := d }).lastChanged with
  | none => exact h
  | some row =>
    simp only [Option.map_some, Option.getD_some, hR.buffer hdoc]
    exact hR.setCursor hdoc _ _

/-! ## Typing -/

/-- A session begins with a place for the cursor, or with an open line. -/
theorem startInsert (variant : InsertVariant) :
    R n (d.startInsert variant) (d'.startInsert variant) := by
  unfold Document.startInsert
  rw [hR.cursor h, hR.line h, hR.buffer h]
  cases variant with
  | insert => exact h
  | change => exact h
  | append => exact hR.setCursor h _ _
  | insertAtFirstText => exact hR.setCursor h _ _
  | appendAtLineEnd => exact hR.setCursor h _ _
  | openBelow => exact hR.openLine h _
  | openAbove => exact hR.openLine h _

/-- Erasing deletes a range and goes where it began. -/
theorem erase (p q : Position) : R n (d.erase p q) (d'.erase p q) :=
  hR.setCursor (hR.deleteRange h p q).1 _ _

/-- A line is joined with the one before it by erasing the break. -/
theorem eraseBreakBefore (row : Nat) : R n (d.eraseBreakBefore row) (d'.eraseBreakBefore row) := by
  unfold Document.eraseBreakBefore
  rw [hR.buffer h]
  exact hR.erase h _ _

/-- The position in front of the cursor depends on the text and the cursor. -/
theorem positionBefore : d'.positionBefore = d.positionBefore := by
  obtain ⟨_, _, _, rfl⟩ := hR.view h; rfl

/-- Erasing backwards erases a cluster, or a break, or nothing. -/
theorem eraseBackward : R n d.eraseBackward d'.eraseBackward := by
  unfold Document.eraseBackward
  rw [hR.cursor h, hR.positionBefore h]
  split
  · exact hR.erase h _ _
  · split
    · exact hR.eraseBreakBefore h _
    · exact h

/-- Erasing forwards deletes a cluster, or a break, or nothing. -/
theorem eraseUnder : R n d.eraseUnder d'.eraseUnder := by
  simp only [Document.eraseUnder, hR.cursor h, hR.line h, hR.lastRow h]
  refine hR.setCursor ?_ _ _
  split
  · exact (hR.deleteRange h _ _).1
  · split
    · exact (hR.deleteRange h _ _).1
    · exact h

/-- Taking back a typed character restores what it was typed over. -/
theorem unwrite (entry : Option Overwritten) : R n (d.unwrite entry) (d'.unwrite entry) := by
  unfold Document.unwrite
  rw [hR.positionBefore h, hR.cursor h]
  split
  · exact hR.setCursor (hR.replaceRange h _ _ _).1 _ _
  · exact hR.erase h _ _
  · split
    · exact hR.eraseBreakBefore h _
    · exact hR.setCursor h _ _
  · exact hR.setCursor h _ _

/-- Going to a row records a jump unless it is the row of the cursor. -/
theorem gotoRow (row : Nat) : R n (d.gotoRow row) (d'.gotoRow row) := by
  simp only [Document.gotoRow, hR.buffer h, hR.lastRow h, hR.cursor h]
  split
  · exact hR.setCursor h _ _
  · exact hR.setCursor (hR.recordJump h _) _ _

end View

end EditRelation

end ModalEditor.Document
