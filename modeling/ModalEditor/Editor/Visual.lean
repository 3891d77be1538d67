import ModalEditor.Editor.Put

/-!
# Visual mode

Choosing a range by moving, and editing it. An edit uses the selection up: the mode is left and the
selection is gone before the text is touched. What is recorded for repetition is the size of the
range. The ends of a range are taken to lie between characters (see `Document.fillRow`).
-/

namespace ModalEditor

namespace TextRange

/-- The range of an operator that reaches beyond a selection. -/
def widen (d : Document) (range : TextRange) : VisualExtent → TextRange
  | .selection => range
  | .lines => .lines range.rows.1 range.rows.2
  | .toLineEnd =>
    match range with
    | .block top bottom left _ =>
      let widths := (List.range' top (bottom + 1 - top)).map fun row => lineWidth (d.line row)
      .block top bottom left (widths.foldl max left)
    | _ => .lines range.rows.1 range.rows.2

end TextRange

namespace Document

/-- Puts a character in the place of each cluster between two byte offsets of a row. The offsets are to
lie between characters. Inside a character the row has no such part, and a program that cuts it there
stops; the definition is total and gives a document there as well, to which no run corresponds. -/
def fillRow (c : Char) (d : Document) (row first past : Nat) : Document :=
  match clusters (sliceBytes (d.line row) first past) with
  | [] => d
  | gs =>
    (d.replaceRange ⟨row, first⟩ ⟨row, min past (byteSize (d.line row))⟩
      (List.replicate gs.length c)).1

/-- Puts a character in the place of each cluster of a range. Line breaks stay. -/
def fillRange (c : Char) (d : Document) : TextRange → Document
  | .chars first past =>
    (d.blockRows first.row past.row).foldl
      (fun d row =>
        d.fillRow c row (if row = first.row then first.col else 0)
          (if row = past.row then past.col else d.buffer.lineSize row))
      d
  | .lines first last =>
    (d.blockRows first last).foldl (fun d row => d.fillRow c row 0 (d.buffer.lineSize row)) d
  | .block top bottom left right => d.replaceBlock top bottom left right c

/-- Where a range begins. -/
def rangeOrigin (d : Document) : TextRange → Position
  | .chars first _ => first
  | .lines first _ => ⟨first, 0⟩
  | .block top _ left _ => d.blockOrigin top left

/-- Fills a range with a character as one change, and goes to where the range begins. -/
def fill (d : Document) (range : TextRange) (c : Char) : Document :=
  let d := d.beginChange.fillRange c range
  (d.setCursor (d.rangeOrigin range) .normal).endChange.1

/-- Puts content where the cursor is, or leaves the document as it is if there is none. -/
def putOrKeep (d : Document) (content : RegisterContent) (placement : Placement) (n : Nat) :
    Document :=
  (d.put content placement n).getD d

/-- Puts content in the place of a range. Rows that take the place of whole rows are whole rows
themselves; rows that take the place of characters break the line. -/
def putRange (d : Document) (content : RegisterContent) (n : Nat) : TextRange → Document
  | .lines first last =>
    let d := (d.deleteLines first last).1
    let rows := if content.kind = .lines then content else .ofLines content.rows
    if d.lastRow < first then
      (d.setCursor ⟨d.lastRow, 0⟩ .normal).putOrKeep rows .after n
    else (d.setCursor ⟨first, 0⟩ .normal).putOrKeep rows .before n
  | .chars first past =>
    let d := (d.deleteRange first past).1
    let d :=
      if content.kind = .lines then
        (d.insertAt first ['\n']).1.setCursor ⟨first.row + 1, 0⟩ .normal
      else d.setCursor first .insert
    d.putOrKeep content .before n
  | .block top bottom left right =>
    let d := (d.deleteBlock top bottom left right).1
    (d.setCursor (d.blockOrigin top left) .insert).putOrKeep content .before n

/-- Puts content in the place of a range, as one change. -/
def putOver (d : Document) (content : RegisterContent) (n : Nat) (range : TextRange) : Document :=
  (d.beginChange.putRange content n range).endChange.1

/-- The ends of a selection that covers a range; none for a range without anything in it. -/
def objectEnds (d : Document) : TextRange → Option (Position × Position)
  | .chars first past =>
    if first < past then
      some (first,
        if past.col = 0 then ⟨past.row - 1, d.buffer.lineSize (past.row - 1)⟩
        else ⟨past.row, prevBoundary (d.line past.row) past.col⟩)
    else none
  | .lines first last => some (⟨first, 0⟩, ⟨last, 0⟩)
  | .block top bottom _ _ => some (⟨top, 0⟩, ⟨bottom, 0⟩)

end Document

/-! ## Selecting -/

/-- Selects from one place to another, in the kind of the visual mode, and goes there. -/
def Editor.selectEnds (anchor cursor : Position) (e : Editor) : Editor :=
  let kind := match e.mode with
    | .visual kind => kind
    | _ => .char
  { e.setCursor cursor .normal with selection := some ⟨kind, anchor, cursor⟩ }

namespace EditorM

/-- Enters visual mode, changes the kind of the selection, or leaves visual mode if the selection is
of this kind already. -/
def toggleVisual (kind : VisualKind) : EditorM Unit := do
  transition (.enterVisual kind)
  modify fun e =>
    match e.mode with
    | .visual kind =>
      let selection := match e.selection with
        | some s => { s with kind }
        | none => .start kind e.document.cursor
      { e with selection := some selection }
    | _ => { e.mapDocument (·.clampCursor .normal) with selection := none }

/-- Goes to the other end of the selection. -/
def swapSelection : EditorM Unit := do
  match (← get).selection with
  | none => throw .motionFailed
  | some s =>
    modify fun e => { e.setCursor s.swap.cursor .normal with selection := some s.swap }

/-- Selects a text object. Objects that are made of whole lines are selected line by line. -/
def selectObject (o : TextObject) (count : Nat) : EditorM Unit := do
  let d := (← get).document
  let range ← ofExcept (o.resolve d.buffer d.cursor count)
  match d.objectEnds range with
  | none => return
  | some (anchor, cursor) => do
    if (range matches .lines ..) && (← get).mode != .visual .line then
      transition (.enterVisual .line)
    modify (·.selectEnds anchor cursor)

/-! ## Editing the selection -/

/-- Uses the selection up: leaves visual mode, goes to where the range begins, and gives the range. An
undo of what follows leads back there. -/
def takeSelection : EditorM TextRange := do
  let e ← get
  match e.selection with
  | none => throw .motionFailed
  | some s => do
    let range := s.resolve e.document.buffer
    transition .operatorApplied
    let start := match range with
      | .lines .. => s.bounds.1
      | _ => e.document.rangeOrigin range
    modify fun e => { e.setCursor start .normal with selection := none }
    return range

/-- Applies an operator to the selection. -/
def operateSelection (op : Operator) (extent : VisualExtent) (register : Option Char) :
    EditorM Unit := do
  let taken ← takeSelection
  let d := (← get).document
  let range := taken.widen d extent
  let edit : VisualEdit := if op = .change then .change else .delete
  operateOn op range register (.visual edit (.ofRange d range) register [])

/-- Makes an edit on the selection that can be repeated. -/
def editSelection (edit : VisualEdit) (register : Option Char) (act : TextRange → EditorM Unit) :
    EditorM Unit := do
  let range ← takeSelection
  let shape := VisualShape.ofRange (← get).document range
  act range
  record (.visual edit shape register [])

/-- Joins the rows of a range. -/
def joinRange (spaced : Bool) (range : TextRange) : EditorM Unit :=
  let (first, last) := range.rows
  modifyDocument? (·.joinLines first (last - first + 1) spaced)

/-- Fills a range with a character. -/
def fillRange (c : Char) (range : TextRange) : EditorM Unit :=
  modify (·.mapDocument (·.fill range c))

/-- Puts what a register holds in the place of a range. The text that was there goes to the unnamed
register. -/
def putOverRange (count : Nat) (register : Option Char) (range : TextRange) : EditorM Unit := do
  match ← contentToPut register with
  | none => return
  | some content => do
    let replaced := (← get).document.capture range
    modify (·.mapDocument (·.putOver content count range))
    let registers ← ofExcept ((← get).registers.delete none replaced)
    modify fun e => { e with registers }

/-- Joins the rows of the selection. -/
def joinSelection (spaced : Bool) : EditorM Unit :=
  editSelection (.join spaced) none (joinRange spaced)

/-- Fills the selection with a character. -/
def fillSelection (c : Char) : EditorM Unit :=
  editSelection (.replace c) none (fillRange c)

/-- Puts what a register holds in the place of the selection. -/
def putOverSelection (count : Nat) (register : Option Char) : EditorM Unit :=
  editSelection (.put count) register (putOverRange count register)

end EditorM

end ModalEditor
