import ModalEditor.Buffer.Edit
import ModalEditor.Error
import ModalEditor.History
import ModalEditor.JumpList
import ModalEditor.Mark
import ModalEditor.Motion.Line

/-!
# Documents

A buffer that is being edited, with its cursor, marks, jump list and undo history.

## Shape of a change

Every mutation that changes the text records the state before it, counts up the revision, and brings
the cursor back into the text. Between `beginChange` and `endChange` only the first mutation records
a state, together with the cursor of the time when the change began; one undo then takes the whole
command back. Changes nest, and the outermost one counts.
-/

namespace ModalEditor

/-- Where the cursor may rest. -/
inductive CursorContext where
  /-- On a cluster, or in column zero of an empty line. -/
  | normal
  /-- Between clusters, and behind the last one as well. -/
  | insert
  deriving DecidableEq, Repr

/-- The direction of a step. -/
inductive Direction where
  | left | right | up | down
  deriving DecidableEq, Repr

/-- A change that is being made. -/
structure ChangeGroup where
  /-- The cursor when the change began. -/
  cursor : Position
  /-- The state before the change is recorded already. -/
  captured : Bool := false
  /-- How many changes are nested. -/
  depth : Nat := 1
  deriving DecidableEq, Repr

/-- A document that is being edited. -/
structure Document where
  buffer : Buffer
  cursor : Position := .origin
  /-- The display column that vertical steps keep to, if there were any. -/
  sticky : Option WantedColumn := none
  marks : Marks := {}
  jumps : JumpList := {}
  history : History := {}
  /-- The change that is being made. -/
  group : Option ChangeGroup := none
  /-- How often the text was changed. -/
  revision : Nat := 0

namespace Document

/-- A document with bounds on its undo history and on its jump list. -/
def withBounds (buffer : Buffer) (undoBound jumpBound : Nat) : Document :=
  { buffer, history := .withBound undoBound, jumps := .withBound jumpBound }

/-- The text of a line, empty past the end. -/
def line (d : Document) (row : Nat) : Text :=
  d.buffer.line row

/-- The index of the last line. -/
def lastRow (d : Document) : Nat :=
  d.buffer.lastRow

/-! ## The cursor -/

/-- The nearest place on which the cursor may rest. -/
def clamp (d : Document) (p : Position) : CursorContext → Position
  | .normal => d.buffer.rest p
  | .insert => d.buffer.clamp p

/-- Puts the cursor near a position, and forgets the sticky column. -/
def setCursor (d : Document) (p : Position) (context : CursorContext) : Document :=
  { d with cursor := d.clamp p context, sticky := none }

/-- Puts the cursor near a position. -/
def setCursorKeepSticky (d : Document) (p : Position) (context : CursorContext) : Document :=
  { d with cursor := d.clamp p context }

/-- Brings the cursor to a place where it may rest. -/
def clampCursor (d : Document) (context : CursorContext) : Document :=
  d.setCursorKeepSticky d.cursor context

/-- The display column that a vertical step aims for: the sticky one, or that of the cursor. -/
def wantedColumn (d : Document) : WantedColumn :=
  d.sticky.getD (.column (columnOf (d.line d.cursor.row) d.cursor.col))

/-- Steps `n` clusters or lines. Says whether there was a way to go. A vertical step leaves the
column that it aimed for as the sticky one. -/
def move (d : Document) (direction : Direction) (n : Nat) (context : CursorContext) :
    Document × Bool :=
  let pastEnd := context == .insert
  let sideways (p : Position) := (d.setCursor p context, p != d.cursor)
  let vertical (p : Option Position) :=
    ({ d with cursor := d.clamp (p.getD d.cursor) context, sticky := some d.wantedColumn },
      p.isSome)
  match direction with
  | .left => sideways (d.buffer.left d.cursor n)
  | .right => sideways (d.buffer.right d.cursor n pastEnd)
  | .up => vertical (d.buffer.up d.cursor n d.wantedColumn pastEnd)
  | .down => vertical (d.buffer.down d.cursor n d.wantedColumn pastEnd)

/-! ## Changes and undo -/

/-- Begins a change. -/
def beginChange (d : Document) : Document :=
  match d.group with
  | some g => { d with group := some { g with depth := g.depth + 1 } }
  | none => { d with group := some { cursor := d.cursor } }

/-- Ends a change. Says whether this was the outermost one and the text was changed in it. -/
def endChange (d : Document) : Document × Bool :=
  match d.group with
  | none => (d, false)
  | some g =>
    if 1 < g.depth then ({ d with group := some { g with depth := g.depth - 1 } }, false)
    else ({ d with group := none }, g.captured)

/-- Is a change being made? -/
def inChange (d : Document) : Bool :=
  d.group.isSome

/-- Records the state before a mutation, unless the change that is being made did so already. -/
def recordChange (d : Document) : Document :=
  let d := { d with revision := d.revision + 1 }
  match d.group with
  | none => { d with history := d.history.push ⟨d.buffer, d.cursor⟩ }
  | some g =>
    if g.captured then d
    else
      { d with
        history := d.history.push ⟨d.buffer, g.cursor⟩
        group := some { g with captured := true } }

/-- Changes the text, and keeps the cursor inside it. -/
def mutate (d : Document) (b : Buffer) : Document :=
  { d.recordChange with buffer := b, cursor := b.clamp d.cursor }

/-- The state to be kept when another one takes its place. -/
def snapshot (d : Document) : Snapshot :=
  ⟨d.buffer, d.cursor⟩

/-- The document in the state that a walk through the history gave. -/
def restore (d : Document) (found : History × Snapshot) : Document :=
  { d with history := found.1, buffer := found.2.buffer, cursor := found.2.cursor }

/-- Walks up to `n` states through the history, and counts how many there were. -/
def walkHistory (step : History → Snapshot → Option (History × Snapshot)) :
    Nat → Document → Document × Nat
  | 0, d => (d, 0)
  | n + 1, d =>
    match step d.history d.snapshot with
    | none => (d, 0)
    | some found =>
      let rest := walkHistory step n (d.restore found)
      (rest.1, rest.2 + 1)

/-- Walks through the history; gives the number of states if there was any. Whatever change was being
made is at an end. -/
def travel (d : Document) (step : History → Snapshot → Option (History × Snapshot)) (n : Nat) :
    Document × Option Nat :=
  let d := { d with group := none }
  match walkHistory step (max n 1) d with
  | (_, 0) => (d, none)
  | (d, done) => ({ d with revision := d.revision + 1 }.setCursor d.cursor .normal, some done)

/-- Takes back up to `n` changes, and at least one. -/
def undo (d : Document) (n : Nat) : Document × Option Nat :=
  d.travel History.undo n

/-- Restores up to `n` changes that were taken back, and at least one. -/
def redo (d : Document) (n : Nat) : Document × Option Nat :=
  d.travel History.redo n

/-! ## Marks and jumps -/

/-- Sets a mark, if there is such a mark. -/
def setMark? (d : Document) (name : Char) (p : Position) : Option Document :=
  (d.marks.set? name p).map fun marks => { d with marks }

/-- The place of a mark, brought into the text. -/
def mark (d : Document) (name : Char) : Except EditorError Position :=
  match d.marks.get? name with
  | some p => .ok (d.clamp p .normal)
  | none => .error (.markNotSet name)

/-- Records the place that a jump starts from. -/
def recordJump (d : Document) (p : Position) : Document :=
  { d with marks := d.marks.setPreviousContext p, jumps := d.jumps.push p }

/-- Jumps to a mark, or to the first text of its line. -/
def jumpToMark (d : Document) (name : Char) (linewise : Bool) : Except EditorError Document :=
  match d.mark name with
  | .ok p =>
    .ok ((d.recordJump d.cursor).setCursor (if linewise then d.buffer.firstText p else p) .normal)
  | .error e => .error e

/-- Goes to the place that a walk through the jump list gave. -/
def landJump (d : Document) (walked : JumpList × Option Position) : Document × Option Position :=
  let d := { d with jumps := walked.1 }
  match walked.2 with
  | none => (d, none)
  | some p =>
    let d := d.setCursor p .normal
    (d, some d.cursor)

/-- Walks `n` places back in the jump list, and at least one. Gives the place, if there is one. -/
def jumpBack (d : Document) (n : Nat) : Document × Option Position :=
  d.landJump (d.jumps.back d.cursor (max n 1))

/-- Walks `n` places forward in the jump list, and at least one. Gives the place, if there is one.
-/
def jumpForward (d : Document) (n : Nat) : Document × Option Position :=
  d.landJump (d.jumps.forward (max n 1))

/-! ## Mutations -/

/-- Puts text in at a position. Gives the position behind it. -/
def insertAt (d : Document) (p : Position) (s : Text) : Document × Position :=
  if s.isEmpty then (d, d.buffer.clamp p)
  else
    let (b, past) := d.buffer.insert p s
    (d.mutate b, past)

/-- Puts text in at the cursor, and the cursor behind it. -/
def insertText (d : Document) (s : Text) : Document :=
  let (d, past) := d.insertAt d.cursor s
  { d with cursor := past }

/-- Takes out the text between two positions. -/
def deleteRange (d : Document) (first past : Position) : Document × Text :=
  if d.buffer.clamp first < d.buffer.clamp past then
    let (b, removed) := d.buffer.remove first past
    (d.mutate b, removed)
  else (d, [])

/-- Puts text in the place of that between two positions. Gives the position behind it. Nothing is
recorded if the text is the same. -/
def replaceRange (d : Document) (first past : Position) (s : Text) : Document × Position :=
  let first := d.buffer.clamp first
  if d.buffer.slice first past = s then
    (d, d.buffer.positionOf (d.buffer.charIndex first + s.length))
  else
    let (b, past) := (d.buffer.remove first past).1.insert first s
    (d.mutate b, past)

/-- Takes out the rows from `first` to `last`. -/
def deleteLines (d : Document) (first last : Nat) : Document × List Text :=
  if d.lastRow < first ∨ last < first then (d, [])
  else
    let (b, removed) := d.buffer.removeLines first last
    (d.mutate b, removed)

/-- Puts lines in so that the first of them lands on `row`, or behind the last line. -/
def insertLines (d : Document) (row : Nat) (ls : List Text) : Document :=
  if ls.isEmpty then d else d.mutate (d.buffer.insertLines row ls)

/-- Puts text in the place of a line. Nothing is recorded if the text is the same. -/
def setLine (d : Document) (row : Nat) (s : Text) : Document :=
  if d.lastRow < row ∨ d.line row = s then d else d.mutate (d.buffer.setLine row s)

/-- Opens an empty line below or above the cursor, and goes there. -/
def openLine (d : Document) (below : Bool) : Document :=
  let row := if below then d.cursor.row + 1 else d.cursor.row
  { d.insertLines row [[]] with cursor := ⟨row, 0⟩, sticky := none }

end Document

end ModalEditor
