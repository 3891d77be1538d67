import ModalEditor.Buffer.Position

/-!
# The jump list

The places that jumps started from, oldest first, and how far back the cursor has walked in them.
While the cursor is not walking, it stands behind the last place. The first step back keeps the
place it starts from, so that walking forward can return there.
-/

namespace ModalEditor

/-- The places that jumps started from. -/
structure JumpList where
  /-- The places, oldest first. -/
  entries : List Position := []
  /-- The index of the place that the cursor walked to; the number of places if it is not walking.
  -/
  current : Nat := 0
  /-- How many places are kept. A walk may add the place that it started from. -/
  bound : Nat := 100
  deriving DecidableEq, Repr

namespace JumpList

/-- A list without places that keeps `bound` of them, and at least one. -/
def withBound (bound : Nat) : JumpList :=
  { bound := max bound 1 }

/-- The number of places. -/
def size (j : JumpList) : Nat :=
  j.entries.length

/-- Is the last place on the given row? -/
def endsOnRow (entries : List Position) (row : Nat) : Bool :=
  match entries.getLast? with
  | some last => last.row == row
  | none => false

/-- The places with one more behind them, without the oldest if there are more than `limit`. -/
def addWithin (limit : Nat) (entries : List Position) (p : Position) : List Position :=
  let all := entries ++ [p]
  if limit < all.length then all.drop 1 else all

/-- Records the place where a jump started. The places that a walk left behind are dropped. The last
place gives way to the new one if they share a row. -/
def push (j : JumpList) (p : Position) : JumpList :=
  let kept := j.entries.take j.current
  let entries := if endsOnRow kept p.row then kept.dropLast ++ [p] else addWithin j.bound kept p
  { j with entries, current := entries.length }

/-- Begins a walk from `live`, if none is going on. -/
def startWalk (j : JumpList) (live : Position) : JumpList :=
  if j.entries.length ≤ j.current then
    let entries :=
      if endsOnRow j.entries live.row then j.entries else addWithin (j.bound + 1) j.entries live
    { j with entries, current := entries.length - 1 }
  else j

/-- Walks `n` places back, starting from `live` if no walk is going on. A walk that would pass the
oldest place stays where it is. -/
def back (j : JumpList) (live : Position) (n : Nat) : JumpList × Option Position :=
  if j.entries.isEmpty then (j, none)
  else
    let j := j.startWalk live
    if j.current < n then (j, none)
    else ({ j with current := j.current - n }, j.entries[j.current - n]?)

/-- Walks `n` places forward, if there are as many. -/
def forward (j : JumpList) (n : Nat) : JumpList × Option Position :=
  if j.entries.length ≤ j.current + n then (j, none)
  else ({ j with current := j.current + n }, j.entries[j.current + n]?)

end JumpList

end ModalEditor
