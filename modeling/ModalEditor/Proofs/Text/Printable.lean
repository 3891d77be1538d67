import ModalEditor.Motion.Line
import ModalEditor.Proofs.Text.Cluster
import ModalEditor.Proofs.Text.Cut

/-!
# Printable lines

Of a line of printable ASCII characters, each character is one byte, one cluster and one display column
wide. So offsets, columns and numbers of characters are the same on it, and a walk over its clusters
that looks for one of them counts characters: `floorBoundary_of_printable`, `columnOf_of_printable`,
`blockBytes_of_printable` and those beside them.
-/

namespace ModalEditor

open Unicode

/-- Every character of the text is one of those that ASCII can print. -/
def Printable (t : Text) : Prop :=
  ∀ c ∈ t, ' ' ≤ c ∧ c ≤ '~'

instance (t : Text) : Decidable (Printable t) :=
  List.decidableBAll _ t

/-! ## Texts -/

/-- The empty text is printable. -/
theorem printable_nil : Printable [] := nofun

/-- A text is printable when its characters are. -/
theorem printable_cons {c : Char} {t : Text} :
    Printable (c :: t) ↔ (' ' ≤ c ∧ c ≤ '~') ∧ Printable t :=
  List.forall_mem_cons

/-- Printable texts put together are printable. -/
theorem Printable.append {s t : Text} (hs : Printable s) (ht : Printable t) : Printable (s ++ t) :=
  fun c hc => (List.mem_append.1 hc).elim (hs c) (ht c)

section Text

variable {t : Text} (ht : Printable t)
include ht

/-- A printable text's beginning is printable. -/
theorem Printable.take (n : Nat) : Printable (t.take n) := fun c hc =>
  ht c (List.mem_of_mem_take hc)

/-- A printable text's remainder is printable. -/
theorem Printable.drop (n : Nat) : Printable (t.drop n) := fun c hc =>
  ht c (List.mem_of_mem_drop hc)

/-- A printable text has no line feed. -/
theorem Printable.isLine : IsLine t := fun h => absurd (ht _ h) (by decide)

/-- Each printable character is a cluster of its own. -/
theorem clusters_of_printable : clusters t = t.map fun c => [c] :=
  clusters_of_alone fun c hc => by rw [graphemeBreak_of_printable (ht c hc)]; rfl

/-- A printable text has as many bytes as characters. -/
theorem byteSize_of_printable : byteSize t = t.length := by
  induction t with
  | nil => rfl
  | cons c t ih =>
    obtain ⟨hc, ht⟩ := printable_cons.1 ht
    rw [byteSize_cons, ih ht, utf8Size_of_printable hc, List.length_cons, Nat.add_comm]

/-- Its first bytes are its first characters. -/
theorem takeBytes_of_printable (n : Nat) : takeBytes t n = t.take n := by
  induction t generalizing n with
  | nil => exact List.take_nil.symm
  | cons c t ih =>
    obtain ⟨hc, ht⟩ := printable_cons.1 ht
    cases n with
    | zero => rw [takeBytes, utf8Size_of_printable hc]; rfl
    | succ n =>
      rw [takeBytes, utf8Size_of_printable hc, if_pos (Nat.le_add_left 1 n), Nat.add_sub_cancel,
        ih ht, List.take_succ_cons]

/-- Dropping its first bytes drops its first characters. -/
theorem dropBytes_of_printable (n : Nat) : dropBytes t n = t.drop n := by
  have hcut := takeBytes_append_dropBytes t n
  rw [takeBytes_of_printable ht] at hcut
  exact List.append_cancel_left (hcut.trans (List.take_append_drop n t).symm)

/-- Its bytes between two offsets are its characters between them. -/
theorem sliceBytes_of_printable (first past : Nat) :
    sliceBytes t first past = (t.drop first).take (past - first) := by
  rw [sliceBytes, dropBytes_of_printable ht, takeBytes_of_printable (ht.drop first)]

/-! ### Walks over the clusters -/

/-- What a walk makes of a line and an offset or a column, if one more cluster, of one byte and one
column, makes the same of a line that is longer by one. -/
theorem walk_of_printable (f : List Cluster → Nat → Nat) (g : Nat → Nat → Nat)
    (hnil : ∀ n, f [] n = g 0 n)
    (hcons : ∀ (c : Cluster) (gs : List Cluster) (length n : Nat), byteSize c = 1 →
      clusterWidth c = 1 → (∀ m, f gs m = g length m) → f (c :: gs) n = g (length + 1) n)
    (n : Nat) : f (clusters t) n = g t.length n := by
  rw [clusters_of_printable ht]
  induction t generalizing n with
  | nil => exact hnil n
  | cons c t ih =>
    obtain ⟨hc, ht⟩ := printable_cons.1 ht
    refine hcons [c] _ t.length n ?_ (clusterWidth_of_printable hc) (ih ht)
    rw [byteSize_cons, utf8Size_of_printable hc, byteSize_nil]

/-- Every offset within it is a boundary. -/
theorem floorBoundary_of_printable (n : Nat) : floorBoundary t n = min n t.length := by
  refine walk_of_printable ht floorIn (fun length n => min n length) (fun n => (Nat.min_zero n).symm)
    (fun c gs length n hsize _ ih => ?_) n
  rw [floorIn, hsize, ih]
  split <;> omega

/-- Every character is a cluster. -/
theorem parts_of_printable {n : Nat} (hle : n ≤ t.length) : Parts (clusters t) n := by
  have hfloor := floorBoundary_of_printable ht n
  rw [Nat.min_eq_left hle] at hfloor
  exact hfloor ▸ parts_floorIn _ _

/-- The next boundary is one character further. -/
theorem nextBoundary_of_printable (n : Nat) : nextBoundary t n = min (n + 1) t.length := by
  refine walk_of_printable ht nextIn (fun length n => min (n + 1) length)
    (fun n => (Nat.min_zero _).symm) (fun c gs length n hsize _ ih => ?_) n
  rw [nextIn, hsize, ih]
  split <;> omega

/-- The last boundary is that of the last character. -/
theorem lastBoundary_of_printable : lastBoundary t = t.length - 1 := by
  have hprev := walk_of_printable ht prevIn (fun length n => min (n - 1) length)
    (fun n => (Nat.min_zero _).symm)
    (fun c gs length n hsize _ ih => by rw [prevIn, hsize, ih]; split <;> omega) t.length
  rw [lastBoundary, byteSize_of_printable ht, prevBoundary, if_neg (by
    rw [byteSize_of_printable ht]
    exact Nat.lt_irrefl _), hprev, Nat.min_eq_left (Nat.sub_le _ _)]

/-- A cell per character: columns and offsets agree. -/
theorem columnOf_of_printable (n : Nat) : columnOf t n = min n t.length := by
  refine walk_of_printable ht widthBefore (fun length n => min n length)
    (fun n => (Nat.min_zero n).symm) (fun c gs length n hsize hwidth ih => ?_) n
  rw [widthBefore, hsize, hwidth, ih]
  split <;> omega

/-- It is as wide as it has characters. -/
theorem lineWidth_of_printable : lineWidth t = t.length := by
  rw [lineWidth, columnOf_of_printable ht, byteSize_of_printable ht, Nat.min_self]

/-- The offset of a column is the column. -/
theorem offsetOfColumn_of_printable (column : Nat) :
    offsetOfColumn t column = min column t.length := by
  refine walk_of_printable ht startOfColumn (fun length column => min column length)
    (fun n => (Nat.min_zero n).symm) (fun c gs length column hsize hwidth ih => ?_) column
  rw [startOfColumn, hsize, hwidth, ih]
  split <;> omega

/-- The columns of a rectangle hold as many characters, as far as the line reaches. -/
theorem blockBytes_of_printable {left right : Nat} (hle : left ≤ right) :
    blockBytes t left right = (min left t.length, min right t.length) := by
  obtain ⟨width, rfl⟩ := Nat.exists_eq_add_of_le hle
  -- a column that opens the block is found as such, the next ones are counted off
  have hstart := walk_of_printable ht (fun gs left => blockStart gs left (left + width))
    (fun length left => min left length) (fun n => (Nat.min_zero n).symm)
    (fun c gs length left hsize hwidth ih => by
      rw [blockStart, hsize, hwidth]
      split
      · omega
      · rw [if_neg (by omega), Nat.sub_add_comm (by omega), ih]
        omega) left
  have hend := walk_of_printable ht blockEnd (fun length right => min right length)
    (fun n => (Nat.min_zero n).symm)
    (fun c gs length right hsize hwidth ih => by
      rw [blockEnd, hsize, hwidth, ih]
      split <;> omega) (left + width)
  rw [blockBytes, hstart, hend]
  exact congrArg (Prod.mk _) (Nat.max_eq_right (by omega))

/-- The part of a line in a rectangle. -/
theorem sliceBytes_blockBytes_of_printable {left right : Nat} (hle : left ≤ right) :
    sliceBytes t (blockBytes t left right).1 (blockBytes t left right).2 =
      (t.drop left).take (right - left) := by
  rw [blockBytes_of_printable ht hle, sliceBytes_of_printable ht]
  rcases Nat.le_total left t.length with hinside | hpast
  · rw [Nat.min_eq_left hinside, List.take_eq_take_iff, List.length_drop]
    omega
  · rw [Nat.min_eq_right hpast, List.drop_length, List.drop_eq_nil_of_le hpast, List.take_nil,
      List.take_nil]

/-- The parts of a line around a rectangle. -/
theorem outsideBlock_of_printable {left right : Nat} (hle : left ≤ right) :
    outsideBlock t left right = t.take left ++ t.drop right := by
  rw [outsideBlock, blockBytes_of_printable ht hle, takeBytes_of_printable ht,
    dropBytes_of_printable ht, List.take_eq_take_iff.2, List.drop_eq_drop_iff.2]
  · omega
  · omega

/-- The cluster at an offset is the character there. -/
theorem clusterAt_of_printable (n : Nat) : clusterAt t n = (t[n]?).map fun c => [c] := by
  rw [clusterAt]
  split
  · rw [dropBytes_of_printable ht, clusters_of_printable (ht.drop n), List.head?_map,
      List.head?_drop]
  · rename_i hno
    have hpast : t.length < n := by
      refine Nat.lt_of_not_le fun hle => hno ?_
      have hboundary := isCharBoundary_append (t.take n) (t.drop n)
      rwa [List.take_append_drop, byteSize_of_printable (ht.take n), List.length_take_of_le hle]
        at hboundary
    rw [List.getElem?_eq_none (Nat.le_of_lt hpast), Option.map_none]

/-- As many clusters to the right are as many characters. -/
theorem rightOf_of_printable {col n : Nat} (hle : col + n ≤ t.length) :
    Buffer.rightOf t t.length n col = col + n := by
  induction n generalizing col with
  | zero => rfl
  | succ n ih =>
    rw [Buffer.rightOf, if_neg (by omega), nextBoundary_of_printable ht, Nat.min_assoc, Nat.min_self,
      Nat.min_eq_left (by omega), ih (by omega)]
    omega

end Text

end ModalEditor
