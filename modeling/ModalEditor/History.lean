import ModalEditor.Buffer.Basic

/-!
# Undo history

The states that a document went through are snapshots in an arena of slots. Two stacks name slots:
the older states, and the states that were taken back and can be restored. A slot that is given up
goes to a free list and is used again before the arena grows.

Whether a state is recorded again depends on its text alone, and the texts themselves are compared. An
editor that compares hashes of them is described as long as no two texts that meet have the same hash.
-/

namespace ModalEditor

/-- A state of a document: its text, and the place of the cursor. -/
structure Snapshot where
  buffer : Buffer
  cursor : Position
  deriving DecidableEq

/-- The index of a slot in the arena. -/
abbrev SlotId := Nat

/-- The older and the newer states of a document. -/
structure History where
  /-- The arena. -/
  slots : List (Option Snapshot) := []
  /-- The empty slots, the next to be used first. -/
  free : List SlotId := []
  /-- The older states, the newest first. -/
  undoStack : List SlotId := []
  /-- The states that were taken back, the latest first. -/
  redoStack : List SlotId := []
  /-- How many older states are kept. -/
  bound : Nat := 200
  /-- How many states were not stored because the newest one has the same text. -/
  skipped : Nat := 0

namespace History

/-- A history without states that keeps `bound` of them, and at least one. -/
def withBound (bound : Nat) : History :=
  { bound := max bound 1 }

/-- How many states can be gone back. -/
def undoDepth (h : History) : Nat :=
  h.undoStack.length

/-- How many states can be gone forward. -/
def redoDepth (h : History) : Nat :=
  h.redoStack.length

/-- How many slots hold a snapshot. -/
def liveCount (h : History) : Nat :=
  h.slots.countP (·.isSome)

/-- How many slots there are. -/
def capacity (h : History) : Nat :=
  h.slots.length

/-- The snapshot in a slot. -/
def at? (h : History) (id : SlotId) : Option Snapshot :=
  (h.slots[id]?).join

/-- Puts a snapshot into a free slot, or into a new one. -/
def alloc (h : History) (s : Snapshot) : History × SlotId :=
  match h.free with
  | id :: free => ({ h with slots := h.slots.set id (some s), free }, id)
  | [] => ({ h with slots := h.slots ++ [some s] }, h.slots.length)

/-- Empties a slot, if it holds a snapshot. -/
def release (h : History) (id : SlotId) : History :=
  match h.at? id with
  | some _ => { h with slots := h.slots.set id none, free := id :: h.free }
  | none => h

/-- Gives up the states that were taken back, the latest last, so its slot is used again first. -/
def clearRedo (h : History) : History :=
  { h.redoStack.reverse.foldl release h with redoStack := [] }

/-- Does the newest of the older states have this text? -/
def topHas (h : History) (b : Buffer) : Bool :=
  match h.undoStack.head?.bind h.at? with
  | some s => s.buffer == b
  | none => false

/-- Gives up the oldest state if there are more than the bound allows. -/
def trim (h : History) : History :=
  if h.bound < h.undoStack.length then
    match h.undoStack.getLast? with
    | some oldest => { h.release oldest with undoStack := h.undoStack.dropLast }
    | none => h
  else h

/-- Records the state before a change. A state whose text is that of the newest one is not stored
again. A change gives up the states that were taken back. -/
def push (h : History) (s : Snapshot) : History :=
  if h.topHas s.buffer then { h with skipped := h.skipped + 1 }.clearRedo
  else
    let stored := h.alloc s
    { stored.1 with undoStack := stored.2 :: stored.1.undoStack }.trim.clearRedo

/-- Takes back the latest change: gives the state before it, and keeps `current` to be restored. -/
def undo (h : History) (current : Snapshot) : Option (History × Snapshot) :=
  match h.undoStack with
  | [] => none
  | id :: undoStack =>
    (h.at? id).map fun older =>
      let stored := ({ h with undoStack }.release id).alloc current
      ({ stored.1 with redoStack := stored.2 :: stored.1.redoStack }, older)

/-- Restores the change that was taken back latest, and keeps `current` as an older state. -/
def redo (h : History) (current : Snapshot) : Option (History × Snapshot) :=
  match h.redoStack with
  | [] => none
  | id :: redoStack =>
    (h.at? id).map fun newer =>
      let stored := ({ h with redoStack }.release id).alloc current
      ({ stored.1 with undoStack := stored.2 :: stored.1.undoStack }, newer)

end History

end ModalEditor
