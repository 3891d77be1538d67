import ModalEditor.Editor.Visual

/-!
# Repeating the latest change

A repetition does what the recorded change did, at the cursor, and types what was typed. It makes one
change of the document and leaves the record alone, except that a count given with it stays.
-/

namespace ModalEditor

namespace EditorM

/-- Types the keys, and ends the session. -/
def finishWith (typed : List Edit) : EditorM Unit := do
  modify fun e => typed.foldl .typeEdit e
  finishSession

/-- Makes a change again. -/
def replay (change : Change) : EditorM Unit := do
  match change with
  | .operate op target count register typed => do
    operate op target count register
    if op = .change then finishWith typed
  | .visual edit shape register typed => do
    let range := shape.place (← get).document
    match edit with
    | .delete => deleteRange range register false
    | .change => do
      changeRange range register change
      finishWith typed
    | .join spaced => joinRange spaced range
    | .replace c => fillRange c range
    | .put count => putOverRange count register range
  | .insert variant count typed => do
    enterInsert variant count
    finishWith typed
  | .replace count typed => do
    enterReplace count
    finishWith typed
  | .put placement count register => put placement count register
  | .join count spaced => join count spaced
  | .replaceChar c count => replaceChar c count

/-- Makes the latest change again. A count takes the place of the recorded one. -/
def repeatLast (count : Option Nat) : EditorM Unit := do
  match (← get).lastChange with
  | none => throw .noPreviousChange
  | some last => do
    let change := match count with
      | some n => last.withCount n
      | none => last
    unrecorded (asOneChange (replay change))
    record change

end EditorM

end ModalEditor
