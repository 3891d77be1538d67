import ModalEditor.Proofs.Engine.Cursor
import ModalEditor.Proofs.Engine.Typed
import ModalEditor.Proofs.Motion.Column

/-!
# The column of an arrow key while text is typed

A character or a line break that is typed moves the cursor and keeps the sticky column. An arrow up
or down behind it aims for the sticky column if there is one, and for the column of the cursor only
if there is none (`arrow_insert`). The column that an arrow or a vertical motion left some
keys before may thus come back behind text that was typed since (`arrow_insert_ne`).
-/

namespace ModalEditor

namespace Document

/-- The row on which a vertical step of one line lands; none at the first and at the last row. -/
def IsNextRow (d : Document) : Direction → Nat → Prop
  | .up, row => row + 1 = d.cursor.row
  | .down, row => row = d.cursor.row + 1 ∧ row ≤ d.lastRow
  | .left, _ | .right, _ => False

/-- A vertical step goes where the wanted column leads on the next row. -/
theorem move_of_isNextRow {d : Document} (hplaced : d.Placed) {direction : Direction} {row : Nat}
    (hrow : d.IsNextRow direction row) :
    (d.move direction 1 .insert).1.cursor =
      ⟨row, d.buffer.offsetOfWanted row d.wantedColumn true⟩ := by
  have hcursor : d.cursor.row < d.buffer.lineCount := hplaced.row
  cases direction with
  | left => exact hrow.elim
  | right => exact hrow.elim
  -- both directions move to the row and bring the offset that the column leads to into it
  | up =>
    have hfirst : ¬ d.cursor.row = 0 := by
      rw [← hrow]
      exact Nat.succ_ne_zero row
    have hup : d.cursor.row - 1 = row := by
      rw [← hrow, Nat.add_sub_cancel]
    have hin : row < d.buffer.lineCount := by
      rw [← hrow] at hcursor
      exact Nat.lt_of_succ_lt hcursor
    simp only [move, Buffer.up, if_neg hfirst, hup, Option.getD_some, clamp]
    exact Buffer.clamp_offsetOfWanted hin _ _
  | down =>
    obtain ⟨rfl, hlast⟩ := hrow
    have hmore : ¬ d.buffer.lastRow ≤ d.cursor.row := Nat.not_le.2 hlast
    have hin : d.cursor.row + 1 < d.buffer.lineCount := Buffer.lt_lineCount.2 hlast
    have hdown : min (d.cursor.row + 1) d.buffer.lastRow = d.cursor.row + 1 := Nat.min_eq_left hlast
    simp only [move, Buffer.down, if_neg hmore, hdown, Option.getD_some, clamp]
    exact Buffer.clamp_offsetOfWanted hin _ _

/-- Text that is put in at the cursor keeps the sticky column. -/
theorem insertText_sticky (d : Document) (s : Text) : (d.insertText s).sticky = d.sticky := by
  have hmutate (b : Buffer) : (d.mutate b).sticky = d.sticky := by
    unfold mutate recordChange
    simp only
    split
    · rfl
    · split
      · rfl
      · rfl
  by_cases hs : s.isEmpty
  · simp only [insertText, insertAt, if_pos hs]
  · simp only [insertText, insertAt, if_neg hs]
    exact hmutate _

end Document

namespace Engine

variable {engine : Engine}

/-- A character or a line break that is typed in insert mode is put in at the cursor. -/
theorem feed_insert {variant : InsertVariant} (hmode : engine.editor.mode = .insert variant)
    {k : Key} (hk : (∃ c, Action.ofTypedKey? k = some (.edit (.insertChar c))) ∨
      Action.ofTypedKey? k = some (.edit .newline)) :
    ∃ s, (engine.feed (.key k)).1.editor.document = engine.editor.document.insertText s ∧
      (engine.feed (.key k)).1.editor.mode = engine.editor.mode := by
  have htyping : engine.editor.mode.isTyping = true := by rw [hmode]; rfl
  have hinsert : ¬ engine.editor.mode = .replace := by rw [hmode]; exact nofun
  -- a typed character and a typed break are inserted at the cursor alike
  rcases hk with ⟨c, hk⟩ | hk
  · refine ⟨[c], ?_⟩
    have hedit : engine.editor.applyEdit (.insertChar c) =
        engine.editor.mapDocument (·.insertText [c]) := by
      show engine.editor.typeText [c] = _
      rw [Editor.typeText, if_neg hinsert]
    rw [feed_edit htyping hk, Editor.typeEdit, hedit]
    exact ⟨rfl, rfl⟩
  · refine ⟨['\n'], ?_⟩
    have hedit : engine.editor.applyEdit .newline =
        engine.editor.mapDocument (·.insertText ['\n']) := by
      show engine.editor.breakLine = _
      exact if_neg hinsert
    rw [feed_edit htyping hk, Editor.typeEdit, hedit]
    exact ⟨rfl, rfl⟩

/-- An arrow moves the cursor as a step of one does. -/
theorem feed_arrow (hmode : engine.editor.mode.isTyping = true) {k : Key} {direction : Direction}
    (hk : Action.ofTypedKey? k = some (.edit (.move direction))) :
    (engine.feed (.key k)).1.editor.document.cursor =
      (engine.editor.document.move direction 1 .insert).1.cursor := by
  rw [feed_edit hmode hk]
  show (engine.editor.moveTyping direction).document.cursor = _
  simp only [Editor.moveTyping]
  split
  · rfl
  · show ((engine.editor.document.move direction 1 .insert).1.endChange.1.beginChange).cursor = _
    rw [Document.beginChange_cursor, Document.endChange_cursor]

/-- **An arrow behind typed text.** Behind a character or a line break that was typed in insert mode,
an arrow up or down lands where the sticky column leads, as it was before that key, and where the
column of the cursor leads if there is none. So it lands where the cursor's own column leads exactly
if a sticky column, should there be one, leads there too. -/
theorem arrow_insert {variant : InsertVariant} (hmode : engine.editor.mode = .insert variant)
    {k arrow : Key}
    (hk : (∃ c, Action.ofTypedKey? k = some (.edit (.insertChar c))) ∨
      Action.ofTypedKey? k = some (.edit .newline))
    {direction : Direction} (harrow : Action.ofTypedKey? arrow = some (.edit (.move direction)))
    {row : Nat} (hrow : (engine.feed (.key k)).1.editor.document.IsNextRow direction row) :
    let d := (engine.feed (.key k)).1.editor.document
    let moved := ((engine.feed (.key k)).1.feed (.key arrow)).1.editor.document
    let sticky := engine.editor.document.sticky
    let own := WantedColumn.column (columnOf (d.line d.cursor.row) d.cursor.col)
    moved.cursor = ⟨row, d.buffer.offsetOfWanted row (sticky.getD own) true⟩ ∧
      (moved.cursor = ⟨row, d.buffer.offsetOfWanted row own true⟩ ↔
        ∀ wanted, sticky = some wanted →
          d.buffer.offsetOfWanted row wanted true = d.buffer.offsetOfWanted row own true) := by
  intro d moved sticky own
  obtain ⟨s, hdocument, hsame⟩ := feed_insert hmode hk
  have htyping : (engine.feed (.key k)).1.editor.mode.isTyping = true := by
    rw [hsame, hmode]
    rfl
  have hplaced : d.Placed := by
    show (engine.feed (.key k)).1.editor.document.Placed
    rw [hdocument]
    exact Document.placed_insertText _ s
  -- the column is the one from before the key, since inserting leaves it
  have hwanted : d.wantedColumn = sticky.getD own := by
    have hkept : d.sticky = sticky := by
      show (engine.feed (.key k)).1.editor.document.sticky = _
      rw [hdocument]
      exact Document.insertText_sticky _ s
    rw [Document.wantedColumn, hkept]
  have hmoved : moved.cursor = ⟨row, d.buffer.offsetOfWanted row (sticky.getD own) true⟩ := by
    rw [← hwanted]
    exact (feed_arrow htyping harrow).trans (Document.move_of_isNextRow hplaced hrow)
  refine ⟨hmoved, ?_⟩
  rw [hmoved, Position.mk.injEq, and_iff_right rfl]
  -- without a sticky column the cursor keeps to its own, and otherwise they have to lead to the same
  -- place
  cases hsticky : sticky with
  | none => exact iff_of_true rfl nofun
  | some wanted =>
    constructor
    · intro hlands wanted' heq
      rw [← Option.some.inj heq]
      exact hlands
    · intro hlands
      exact hlands wanted rfl

/-- Without a sticky column the arrow keeps to the column of the cursor. -/
theorem arrow_insert_column :
    let engine := ((ofBuffer (.ofText "中b\nabc".toList) {}).run ([.ofChar 'i'].map .key)).1
    let moved := ((engine.feed (.key (.ofChar 'x'))).1.feed (.key (.ofCode .down))).1
    engine.editor.document.sticky = none ∧ moved.editor.document.cursor = ⟨1, 1⟩ := by
  intro engine moved
  have hmode : engine.editor.mode = .insert .insert := by decide +kernel
  have hsticky : engine.editor.document.sticky = none := by decide +kernel
  have hrow : (engine.feed (.key (.ofChar 'x'))).1.editor.document.IsNextRow .down 1 := by
    show _ ∧ _
    decide +kernel
  have hdown : Action.ofTypedKey? (.ofCode .down) = some (.edit (.move .down)) := rfl
  obtain ⟨-, hiff⟩ := arrow_insert hmode (.inl ⟨'x', rfl⟩) hdown hrow
  refine ⟨hsticky, (hiff.2 fun wanted heq => ?_).trans (by decide +kernel)⟩
  rw [hsticky] at heq
  cases heq

/-- The keys `jix` leave the sticky column of the step down, and the arrow up goes back to it. -/
theorem arrow_insert_ne :
    ¬ ∀ (engine : Engine) (variant : InsertVariant) (k arrow : Key) (direction : Direction)
      (row : Nat), engine.Reachable → engine.editor.mode = .insert variant →
      ((∃ c, Action.ofTypedKey? k = some (.edit (.insertChar c))) ∨
        Action.ofTypedKey? k = some (.edit .newline)) →
      Action.ofTypedKey? arrow = some (.edit (.move direction)) →
      let d := (engine.feed (.key k)).1.editor.document
      d.IsNextRow direction row →
      ((engine.feed (.key k)).1.feed (.key arrow)).1.editor.document.cursor =
        ⟨row, d.buffer.offsetOfWanted row
          (.column (columnOf (d.line d.cursor.row) d.cursor.col)) true⟩ := by
  intro h
  let engine := ((ofBuffer (.ofText "abc\nabc".toList) {}).run
    ([.ofChar 'j', .ofChar 'i'].map .key)).1
  have hmode : engine.editor.mode = .insert .insert := by decide +kernel
  have hrow : (engine.feed (.key (.ofChar 'x'))).1.editor.document.IsNextRow .up 0 := by
    show 0 + 1 = (engine.feed (.key (.ofChar 'x'))).1.editor.document.cursor.row
    decide +kernel
  have hwrong := h engine .insert (.ofChar 'x') (.ofCode .up) .up 0 ⟨_, _, _, rfl⟩ hmode
    (.inl ⟨'x', rfl⟩) rfl hrow
  exact absurd hwrong (by decide +kernel)

end Engine

end ModalEditor
