import ModalEditor.Proofs.Document.Unit

/-!
# Where the cursor rests

Outside of typing the cursor rests on a cluster, or in column zero of an empty line. The nearest
place where it may rest is such a place itself (`rest_rest`), and every operation that ends by
putting the cursor there leaves it at rest.
-/

namespace ModalEditor

/-! ## Boundaries -/

/-- Offset zero is a boundary. -/
theorem floorIn_zero (gs : List Cluster) : floorIn gs 0 = 0 := by
  induction gs with
  | nil => rfl
  | cons g gs ih =>
    rw [floorIn]
    split
    · rfl
    · rename_i hsize
      rw [Nat.zero_sub, ih]
      omega

/-- Boundaries past the first cluster are those of the clusters after it. -/
theorem floorIn_add (g : Cluster) (gs : List Cluster) (k : Nat) :
    floorIn (g :: gs) (byteSize g + k) = byteSize g + floorIn gs k := by
  rw [floorIn, if_neg (by omega), Nat.add_sub_cancel_left]

/-- A boundary is its own floor. -/
theorem floorIn_floorIn (gs : List Cluster) (k : Nat) :
    floorIn gs (floorIn gs k) = floorIn gs k := by
  induction gs generalizing k with
  | nil => rfl
  | cons g gs ih =>
    by_cases hk : k < byteSize g
    · have hstart : floorIn (g :: gs) k = 0 := by rw [floorIn, if_pos hk]
      rw [hstart, floorIn_zero]
    · have hlater : floorIn (g :: gs) k = byteSize g + floorIn gs (k - byteSize g) := by
        rw [floorIn, if_neg hk]
      rw [hlater, floorIn_add, ih]

/-- The boundary before an offset is its own floor. -/
theorem floorIn_prevIn (gs : List Cluster) (k : Nat) : floorIn gs (prevIn gs k) = prevIn gs k := by
  induction gs generalizing k with
  | nil => rfl
  | cons g gs ih =>
    rw [prevIn]
    split
    · exact floorIn_zero _
    · rw [floorIn_add, ih]

/-- The last boundary is one. -/
theorem floorBoundary_lastBoundary (l : Text) :
    floorBoundary l (lastBoundary l) = lastBoundary l := by
  unfold lastBoundary prevBoundary
  rw [if_neg (Nat.lt_irrefl _)]
  exact floorIn_prevIn _ _

namespace Buffer

/-- The place where a cursor rests is a place where it may rest. -/
theorem rest_rest (b : Buffer) (p : Position) : b.rest (b.rest p) = b.rest p := by
  have hrow : min (min p.row b.lastRow) b.lastRow = min p.row b.lastRow := by omega
  unfold rest clamp
  simp only [hrow]
  generalize b.line (min p.row b.lastRow) = l
  refine congrArg (Position.mk _) ?_
  -- the resting column is one of two boundaries, and at most the last of them
  have hfloor : floorBoundary l (min (floorBoundary l p.col) (lastBoundary l)) =
      min (floorBoundary l p.col) (lastBoundary l) := by
    rcases Nat.le_total (floorBoundary l p.col) (lastBoundary l) with hle | hle
    · rw [Nat.min_eq_left hle]
      exact floorIn_floorIn _ _
    · rw [Nat.min_eq_right hle]
      exact floorBoundary_lastBoundary l
  rw [hfloor]
  omega

/-- The beginning of the buffer is a place of rest. -/
theorem rest_origin (b : Buffer) : b.rest .origin = .origin := by
  unfold rest clamp
  simp only [Position.origin, Nat.zero_min]
  rw [floorBoundary, floorIn_zero, Nat.zero_min]

end Buffer

namespace Document

/-- The cursor is where it may rest. -/
def Rests (d : Document) : Prop :=
  d.clamp d.cursor .normal = d.cursor

/-- A cursor set for Normal mode rests. -/
theorem rests_setCursor (d : Document) (p : Position) : (d.setCursor p .normal).Rests :=
  Buffer.rest_rest d.buffer p

/-- Opening a change leaves the cursor. -/
theorem Rests.beginChange {d : Document} (h : d.Rests) : d.beginChange.Rests := by
  rw [Rests, clamp, beginChange_cursor, beginChange_buffer]
  exact h

/-- Closing a change leaves the cursor. -/
theorem Rests.endChange {d : Document} (h : d.Rests) : d.endChange.1.Rests := by
  rw [Rests, clamp, endChange_cursor, endChange_buffer]
  exact h

/-- A cut outside of a change command ends at rest. -/
theorem rests_cut (d : Document) (range : TextRange) : (d.cut false range).Rests := by
  refine Rests.endChange ?_
  cases range with
  | chars first past => exact rests_setCursor _ _
  | lines first last => exact rests_setCursor _ _
  | block top bottom left right => exact rests_setCursor _ _

/-- A filled range leaves the cursor at rest. -/
theorem rests_fill (d : Document) (range : TextRange) (c : Char) : (d.fill range c).Rests :=
  (rests_setCursor _ _).endChange

/-- A finished insertion leaves the cursor at rest. -/
theorem rests_finishInsert (d : Document) : d.finishInsert.Rests :=
  (rests_setCursor _ _).endChange

/-- A put of characters ends at rest. -/
theorem rests_putChars (d : Document) (t : Text) (placement : Placement) (k : Nat) :
    (d.putChars t placement k).Rests := by
  simp only [putChars]
  split
  · exact rests_setCursor _ _
  · exact rests_setCursor _ _

/-- A put of any kind ends at rest. -/
theorem rests_put {d d' : Document} {content : RegisterContent} {placement : Placement} {k : Nat}
    (h : d.put content placement k = some d') : d'.Rests := by
  unfold put at h
  split at h
  · cases h
  · cases h
    refine Rests.endChange ?_
    cases content.kind with
    | chars => exact rests_putChars _ _ _ _
    | lines => exact rests_setCursor _ _
    | block width => exact rests_setCursor _ _

/-- A put of something ends at rest even where what is put may be kept as it is. -/
theorem rests_putOrKeep {content : RegisterContent} (hc : content.isEmpty = false) (d : Document)
    (placement : Placement) (k : Nat) : (d.putOrKeep content placement k).Rests := by
  obtain ⟨d', hd'⟩ := Option.isSome_iff_exists.1 (isSome_put hc d placement k)
  rw [putOrKeep, hd']
  exact rests_put hd'

/-- The rows of a content are content too. -/
theorem isEmpty_ofLines_rows (content : RegisterContent) :
    (RegisterContent.ofLines content.rows).isEmpty = false := by
  have hrows : content.rows ≠ [] := by
    unfold RegisterContent.rows
    split
    · exact splitLines_ne_nil _
    · exact splitLines_ne_nil _
  obtain ⟨l, ls, hls⟩ := List.exists_cons_of_ne_nil hrows
  simp only [RegisterContent.isEmpty, RegisterContent.ofLines, hls, List.flatMap_cons,
    List.isEmpty_eq_false_iff, ne_eq, List.append_eq_nil_iff]
  simp

/-- A put over a range ends at rest, for each shape of the range. -/
theorem rests_putOver {content : RegisterContent} (hc : content.isEmpty = false) (d : Document)
    (k : Nat) (range : TextRange) : (d.putOver content k range).Rests := by
  refine Rests.endChange ?_
  cases range with
  | chars first past => exact rests_putOrKeep hc _ _ _
  | lines first last =>
    have hrows : (if content.kind = .lines then content
        else RegisterContent.ofLines content.rows).isEmpty = false := by
      split
      · exact hc
      · exact isEmpty_ofLines_rows content
    simp only [putRange]
    split
    · exact rests_putOrKeep hrows _ _ _
    · exact rests_putOrKeep hrows _ _ _
  | block top bottom left right => exact rests_putOrKeep hc _ _ _

/-- A join ends at rest. -/
theorem rests_joinLines {d d' : Document} {row k : Nat} {spaced : Bool}
    (h : d.joinLines row k spaced = some d') : d'.Rests := by
  rw [joinLines_eq] at h
  split at h
  · cases h
  · cases h
    exact rests_setCursor _ _

/-- A replaced character leaves the cursor at rest. -/
theorem rests_replaceUnder {d d' : Document} {c : Char} {k : Nat}
    (h : d.replaceUnder c k = some d') : d'.Rests := by
  simp only [replaceUnder, replaceChars] at h
  split at h
  · obtain ⟨past, -, rfl⟩ := Option.map_eq_some_iff.1 h
    exact rests_setCursor _ _
  · obtain ⟨past, -, rfl⟩ := Option.map_eq_some_iff.1 h
    exact rests_setCursor _ _

/-- A substitution leaves the cursor at rest. -/
theorem rests_substitute {d d' : Document} {range : LineRange} {edit : Text → Text}
    (h : d.substitute range edit = some d') : d'.Rests := by
  obtain ⟨row, -, rfl⟩ := Option.map_eq_some_iff.1 h
  exact rests_setCursor _ _

/-- A jump to a row ends at rest. -/
theorem rests_gotoRow (d : Document) (row : Nat) : (d.gotoRow row).Rests :=
  rests_setCursor _ _

end Document

end ModalEditor
