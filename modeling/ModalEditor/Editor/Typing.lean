import ModalEditor.Editor.Basic

/-!
# Typing

What the keys do in insert mode and in replace mode. Typed keys are remembered, so that they can be
typed again when the session ends and when the change is repeated. Replace mode remembers what each
key wrote over; the backspace key restores it.
-/

namespace ModalEditor

namespace Editor

/-- The text of the tab key: a tab, or spaces up to the next tab stop. -/
def tabText (e : Editor) : Text :=
  if e.settings.expandTab then
    let width := max e.settings.tabWidth 1
    let p := e.document.cursor
    spaces (width - columnOf (e.document.line p.row) p.col % width)
  else ['\t']

/-- The editor with its session changed, if there is one. -/
def mapSession (f : Session → Session) (e : Editor) : Editor :=
  { e with session := e.session.map f }

/-- Remembers what a key of replace mode did. -/
def rememberOverwritten (entry : Overwritten) (e : Editor) : Editor :=
  e.mapSession fun s => { s with overwritten := entry :: s.overwritten }

/-- Writes text over the cluster under the cursor, or adds it at the end of the line. -/
def overwrite (e : Editor) (t : Text) : Editor :=
  let p := e.document.cursor
  match clusterAt (e.document.line p.row) p.col with
  | some old =>
    let (d, past) := e.document.replaceRange p ⟨p.row, p.col + byteSize old⟩ t
    { e with document := d.setCursor past .insert }.rememberOverwritten (.replaced old)
  | none => (e.mapDocument (·.insertText t)).rememberOverwritten .appended

/-- Types text: writes over the line in replace mode, and puts it in otherwise. -/
def typeText (e : Editor) (t : Text) : Editor :=
  if e.mode = .replace then e.overwrite t else e.mapDocument (·.insertText t)

/-- Breaks the line at the cursor. -/
def breakLine (e : Editor) : Editor :=
  let e := e.mapDocument (·.insertText ['\n'])
  if e.mode = .replace then e.rememberOverwritten .lineBreak else e

end Editor

namespace Document

/-- Takes out the text between two positions, and goes there. -/
def erase (d : Document) (first past : Position) : Document :=
  (d.deleteRange first past).1.setCursor first .insert

/-- Takes out the line break before a row that is not the first, and goes there. -/
def eraseBreakBefore (d : Document) (row : Nat) : Document :=
  d.erase ⟨row - 1, d.buffer.lineSize (row - 1)⟩ ⟨row, 0⟩

/-- The position of the cluster before the cursor, in its line. -/
def positionBefore (d : Document) : Position :=
  ⟨d.cursor.row, prevBoundary (d.line d.cursor.row) d.cursor.col⟩

/-- Takes out what is before the cursor: a cluster, or a line break. -/
def eraseBackward (d : Document) : Document :=
  if 0 < d.cursor.col then d.erase d.positionBefore d.cursor
  else if 0 < d.cursor.row then d.eraseBreakBefore d.cursor.row
  else d

/-- Takes out what is under the cursor: a cluster, or a line break. -/
def eraseUnder (d : Document) : Document :=
  let p := d.cursor
  let l := d.line p.row
  let d :=
    if p.col < byteSize l then (d.deleteRange p ⟨p.row, nextBoundary l p.col⟩).1
    else if p.row < d.lastRow then (d.deleteRange p ⟨p.row + 1, 0⟩).1
    else d
  d.setCursor p .insert

/-- Takes back a key of replace mode. Where nothing was written over, only the cursor goes back. -/
def unwrite (d : Document) : Option Overwritten → Document
  | some (.replaced old) =>
    (d.replaceRange d.positionBefore d.cursor old).1.setCursor d.positionBefore .insert
  | some .appended => d.erase d.positionBefore d.cursor
  | some .lineBreak =>
    if 0 < d.cursor.row then d.eraseBreakBefore d.cursor.row
    else d.setCursor d.positionBefore .insert
  | none => d.setCursor d.positionBefore .insert

end Document

namespace Editor

/-- The backspace key: takes back a key of replace mode, and otherwise takes out what is before the
cursor. -/
def backspace (e : Editor) : Editor :=
  if e.mode = .replace then
    let entry := e.session.bind (·.overwritten.head?)
    (e.mapDocument (·.unwrite entry)).mapSession
      fun s => { s with overwritten := s.overwritten.drop 1 }
  else e.mapDocument .eraseBackward

/-- Steps while typing. What was typed before is a change of its own, and what follows is a plain
insertion, or goes on in replace mode. -/
def moveTyping (direction : Direction) (e : Editor) : Editor :=
  let e := e.mapDocument fun d => (d.move direction 1 .insert).1
  match e.session with
  | none => e
  | some s =>
    let origin := match s.origin with
      | .replace => .replace
      | _ => .insert .insert
    { e.mapDocument fun d => d.endChange.1.beginChange with
      session := some (.start origin 1) }

/-- What a key does to the text and to the cursor. -/
def applyEdit (e : Editor) : Edit → Editor
  | .insertChar c => e.typeText [c]
  | .newline => e.breakLine
  | .tab => e.typeText e.tabText
  | .backspace => e.backspace
  | .deleteUnder => e.mapDocument .eraseUnder
  | .move direction => e.moveTyping direction

/-- Remembers a key, if it is one to be typed again. -/
def rememberEdit (e : Editor) : Edit → Editor
  | .move _ => e
  | edit => e.mapSession fun s => { s with typed := s.typed ++ [edit] }

/-- Types a key. -/
def typeEdit (e : Editor) (edit : Edit) : Editor :=
  (e.applyEdit edit).rememberEdit edit

end Editor

/-- Types a key, if text can be typed in this mode. -/
def EditorM.type (edit : Edit) : EditorM Unit :=
  modify fun e =>
    match e.mode with
    | .insert _ | .replace => e.typeEdit edit
    | _ => e

end ModalEditor
