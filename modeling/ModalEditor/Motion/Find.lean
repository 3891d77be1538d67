import ModalEditor.Buffer.Basic

/-!
# Finding a character in the line

The search walks from the cursor over the line, cluster by cluster, and looks for those that begin with a
character. It stops on the cluster found, or one short of it. The walk comes nearer to one end of the line
with every step (`Find.room_neighbour`), so it ends.
-/

namespace ModalEditor

/-- What to look for in the line, and how. -/
structure Find where
  /-- The character that the cluster begins with. -/
  ch : Char
  /-- To the right of the cursor, or to its left. -/
  forward : Bool
  /-- Stop one cluster short of the one found. -/
  till : Bool
  deriving DecidableEq, Repr

namespace Find

/-- The same search to the other side. -/
def reversed (f : Find) : Find :=
  { f with forward := !f.forward }

/-- Clusters with the offsets at which they begin, the first of them at `col`. -/
def withOffsets : Nat → List Cluster → List (Nat × Cluster)
  | _, [] => []
  | col, g :: gs => (col, g) :: withOffsets (col + byteSize g) gs

/-- The offset of the next cluster on the side that is searched. To the right there is none at the end of
the line, to the left there is none at its start. -/
def neighbour (f : Find) (l : Text) (col : Nat) : Option Nat :=
  if f.forward then
    if byteSize l ≤ nextBoundary l col then none else some (nextBoundary l col)
  else if col = 0 then none else some (prevBoundary l col)

/-- What is left of the line on the side that is searched. -/
def room (f : Find) (l : Text) (col : Nat) : Nat :=
  if f.forward then byteSize l - col else col

theorem room_neighbour {f : Find} {l : Text} {col next : Nat} (h : f.neighbour l col = some next) :
    f.room l next < f.room l col := by
  rw [neighbour] at h
  rw [room, room]
  split at h
  · split at h
    · exact nomatch h
    · obtain rfl := Option.some.inj h
      have hprogress := lt_nextBoundary (Nat.not_le.1 ‹_›)
      rw [if_pos ‹_›, if_pos ‹_›]
      omega
  · split at h
    · exact nomatch h
    · obtain rfl := Option.some.inj h
      rw [if_neg ‹_›, if_neg ‹_›]
      exact prevBoundary_lt l ‹_›

/-- Walks from `col` to the nearest cluster that begins with the character. `skip` says that the first
step does not count. -/
def seek (f : Find) (l : Text) (skip : Bool) (col : Nat) : Option Nat :=
  match h : f.neighbour l col with
  | none => none
  | some next =>
    have := room_neighbour h
    if clusterAtStartsWith l next f.ch && !skip then some next else f.seek l false next
termination_by f.room l col

/-- Walks from `col` to the `n`-th cluster that begins with the character; for `n = 0` it stays. -/
def seekNth (f : Find) (l : Text) (skip : Bool) : (n col : Nat) → Option Nat
  | 0, col => some col
  | n + 1, col => (f.seek l skip col).bind (f.seekNth l false n)

/-- The offset of the `n`-th cluster found from `col`. When the search is a repeated one for a single
cluster and stops short of it, the nearest cluster does not count: the cursor may stand beside it from the
time before. -/
def target (f : Find) (l : Text) (col n : Nat) (repeated : Bool) : Option Nat :=
  f.seekNth l (repeated && f.till && n == 1) n col

/-- The offset at which the cursor stops. -/
def stop (f : Find) (l : Text) (col n : Nat) (repeated : Bool) : Option Nat :=
  (f.target l col n repeated).map fun at_ =>
    if f.till then if f.forward then prevBoundary l at_ else nextBoundary l at_ else at_

end Find

namespace Buffer

/-- Where the search for the `n`-th cluster ends, if there are as many. A search that stops short of
a cluster beside the cursor succeeds without moving. -/
def find (b : Buffer) (p : Position) (f : Find) (n : Nat) (repeated : Bool) : Option Position :=
  (f.stop (b.line p.row) p.col n repeated).map fun col => ⟨p.row, col⟩

end Buffer

end ModalEditor
