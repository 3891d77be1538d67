import ModalEditor.Text.Cluster

/-!
# Boundaries and columns of a line

The places between clusters, as byte offsets, and the display column of each. Every function walks
the clusters of the line once. Offsets that lie inside a cluster are allowed everywhere: the
functions say which boundary they mean.

A step to the next boundary makes progress until the end of the line (`lt_nextBoundary`), and one to the
previous boundary until its start (`prevBoundary_lt`), so a walk in steps ends.
-/

namespace ModalEditor

open Unicode

/-! ## Walks over clusters -/

/-- The greatest boundary that is at most `byte`. -/
def floorIn : List Cluster → Nat → Nat
  | [], _ => 0
  | g :: gs, byte => if byte < byteSize g then 0 else byteSize g + floorIn gs (byte - byteSize g)

/-- The least boundary beyond `byte`, or the end. -/
def nextIn : List Cluster → Nat → Nat
  | [], _ => 0
  | g :: gs, byte =>
    if byte < byteSize g then byteSize g else byteSize g + nextIn gs (byte - byteSize g)

/-- The greatest boundary that is less than `byte`, or the start. -/
def prevIn : List Cluster → Nat → Nat
  | [], _ => 0
  | g :: gs, byte => if byte ≤ byteSize g then 0 else byteSize g + prevIn gs (byte - byteSize g)

/-- The width of the clusters that begin before `byte`. -/
def widthBefore : List Cluster → Nat → Nat
  | [], _ => 0
  | g :: gs, byte => if byte = 0 then 0 else clusterWidth g + widthBefore gs (byte - byteSize g)

/-- The start of the cluster that covers display column `column`, or the end. -/
def startOfColumn : List Cluster → Nat → Nat
  | [], _ => 0
  | g :: gs, column =>
    if column < clusterWidth g then 0 else byteSize g + startOfColumn gs (column - clusterWidth g)

/-- The start of the first cluster that holds a character that is not blank, or the end. -/
def firstNonBlankIn : List Cluster → Nat
  | [] => 0
  | g :: gs => if g.all isBlank then byteSize g + firstNonBlankIn gs else 0

/-! ## The same on a line -/

/-- The greatest cluster boundary of the line that is at most `byte`. -/
def floorBoundary (l : Text) (byte : Nat) : Nat :=
  floorIn (clusters l) byte

/-- The least cluster boundary of the line beyond `byte`; the end of the line if there is none. -/
def nextBoundary (l : Text) (byte : Nat) : Nat :=
  nextIn (clusters l) byte

/-- The greatest cluster boundary of the line before `byte`; the start if there is none, or if
`byte` is beyond the line. -/
def prevBoundary (l : Text) (byte : Nat) : Nat :=
  if byteSize l < byte then 0 else prevIn (clusters l) byte

/-- The start of the last cluster, where a cursor that rests on text is at most. -/
def lastBoundary (l : Text) : Nat :=
  prevBoundary l (byteSize l)

/-- The offset of the first cluster that is not blank; the end of the line if there is none. -/
def firstNonBlank (l : Text) : Nat :=
  firstNonBlankIn (clusters l)

/-- The display column at which `byte` begins. -/
def columnOf (l : Text) (byte : Nat) : Nat :=
  widthBefore (clusters l) byte

/-- The display width of the whole line. -/
def lineWidth (l : Text) : Nat :=
  columnOf l (byteSize l)

/-- The offset of the cluster that covers the display column; the end of a shorter line. -/
def offsetOfColumn (l : Text) (column : Nat) : Nat :=
  startOfColumn (clusters l) column

/-! ## Steps -/

/-- The walk to the next boundary passes the offset, unless it comes to the end. -/
theorem lt_nextIn (gs : List Cluster) {byte : Nat} (h : nextIn gs byte < byteSize gs.flatten) :
    byte < nextIn gs byte := by
  induction gs generalizing byte with
  | nil => exact absurd h (Nat.lt_irrefl 0)
  | cons g gs ih =>
    rw [List.flatten_cons, byteSize_append] at h
    rw [nextIn] at h ⊢
    split at h
    · rwa [if_pos ‹_›]
    · have hlater := ih (Nat.lt_of_add_lt_add_left h)
      rw [if_neg ‹_›]
      omega

/-- A step to the right that does not come to the end of the line makes progress. -/
theorem lt_nextBoundary {l : Text} {byte : Nat} (h : nextBoundary l byte < byteSize l) :
    byte < nextBoundary l byte :=
  lt_nextIn (clusters l) (by rwa [flatten_clusters])

/-- The walk to the previous boundary stops in front of the offset. -/
theorem prevIn_lt (gs : List Cluster) {byte : Nat} (h : byte ≠ 0) : prevIn gs byte < byte := by
  induction gs generalizing byte with
  | nil => exact Nat.pos_of_ne_zero h
  | cons g gs ih =>
    rw [prevIn]
    split
    · exact Nat.pos_of_ne_zero h
    · have hlater := @ih (byte - byteSize g) (by omega)
      omega

/-- A step to the left that does not begin at the start of the line makes progress. -/
theorem prevBoundary_lt (l : Text) {byte : Nat} (h : byte ≠ 0) : prevBoundary l byte < byte := by
  rw [prevBoundary]
  split
  · exact Nat.pos_of_ne_zero h
  · exact prevIn_lt (clusters l) h

/-! ## Clusters by their offsets -/

/-- The cluster that begins at `byte`. Inside a cluster it is the first cluster of the rest of the
line; inside a character, and at the end of the line, there is none. -/
def clusterAt (l : Text) (byte : Nat) : Option Cluster :=
  if isCharBoundary l byte then (clusters (dropBytes l byte)).head? else none

/-- Does the cluster at `byte` begin with the character? -/
def clusterAtStartsWith (l : Text) (byte : Nat) (c : Char) : Bool :=
  match clusterAt l byte with
  | some (d :: _) => d == c
  | _ => false

end ModalEditor
