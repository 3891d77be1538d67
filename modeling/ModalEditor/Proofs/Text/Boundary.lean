import ModalEditor.Text.Boundary

/-!
# Boundaries of a line

A cluster boundary is the size of the clusters before it, so it lies between two characters and
within the line. The boundary that `floorBoundary` gives may be the end of the line; one that is at
most the last boundary is where a cluster begins (`startsCluster_of_le`).

The lines of two texts put together are those of the first and those of the second, with the last of
the first and the first of the second made one (`splitLines_append`).
-/

namespace ModalEditor

/-! ## Characters -/

/-- Where two texts meet is a place between characters. -/
theorem isCharBoundary_append (s t : Text) : isCharBoundary (s ++ t) (byteSize s) = true := by
  induction s with
  | nil => simp [isCharBoundary]
  | cons c cs ih =>
    obtain ⟨n, hn⟩ := Nat.exists_eq_add_one.2 (Nat.add_pos_left c.utf8Size_pos (byteSize cs))
    have hback : n + 1 - c.utf8Size = byteSize cs := by omega
    rw [List.cons_append, byteSize_cons, hn, isCharBoundary, hback, ih, Bool.and_true,
      decide_eq_true_iff]
    omega

/-- A text that is cut between two characters is cut exactly there. -/
theorem byteSize_takeBytes {l : Text} {n : Nat} (h : isCharBoundary l n = true) :
    byteSize (takeBytes l n) = n := by
  induction l generalizing n with
  | nil =>
    cases n with
    | zero => rfl
    | succ n => cases h
  | cons c cs ih =>
    cases n with
    | zero =>
      have hpos := c.utf8Size_pos
      rw [takeBytes, if_neg (by omega), byteSize_nil]
    | succ n =>
      rw [isCharBoundary, Bool.and_eq_true, decide_eq_true_iff] at h
      rw [takeBytes, if_pos h.1, byteSize_cons, ih h.2]
      omega

/-- What fits in front of the end of `u` is a beginning of `u`. -/
theorem takeBytes_append_of_le {u : Text} {n : Nat} (h : n ≤ byteSize u) (v : Text) :
    takeBytes (u ++ v) n = takeBytes u n := by
  induction u generalizing n with
  | nil =>
    obtain rfl := Nat.le_zero.1 h
    cases v with
    | nil => rfl
    | cons c v => exact if_neg (Nat.not_le.2 c.utf8Size_pos)
  | cons c u ih =>
    rw [byteSize_cons] at h
    rw [List.cons_append, takeBytes, takeBytes, ih (by omega)]

/-- All of a text is in front of a place if and only if that is its end. -/
theorem takeBytes_eq_self_iff {u : Text} {n : Nat} (h : n ≤ byteSize u) :
    takeBytes u n = u ↔ n = byteSize u := by
  induction u generalizing n with
  | nil => exact iff_of_true rfl (Nat.le_zero.1 h)
  | cons c u ih =>
    rw [byteSize_cons] at h ⊢
    rw [takeBytes]
    split
    · rw [List.cons_inj_right, ih (by omega)]
      omega
    · exact iff_of_false (List.cons_ne_nil c u).symm (by omega)

/-! ## Clusters -/

/-- The offset is the size of the clusters before it. -/
def Parts (gs : List Cluster) (n : Nat) : Prop :=
  ∃ before behind, gs = before ++ behind ∧ byteSize before.flatten = n

/-- The offset is where a cluster begins. -/
def Starts (gs : List Cluster) (n : Nat) : Prop :=
  ∃ before g behind, gs = before ++ g :: behind ∧ byteSize before.flatten = n

/-- The beginning of a cluster is a place between clusters. -/
theorem Starts.parts {gs : List Cluster} {n : Nat} (h : Starts gs n) : Parts gs n := by
  obtain ⟨before, g, behind, rfl, hn⟩ := h
  exact ⟨before, g :: behind, rfl, hn⟩

/-- So is the beginning of the text. -/
theorem parts_zero (gs : List Cluster) : Parts gs 0 :=
  ⟨[], gs, rfl, rfl⟩

/-- So is its end. -/
theorem parts_byteSize (l : Text) : Parts (clusters l) (byteSize l) :=
  ⟨clusters l, [], (List.append_nil _).symm, by rw [flatten_clusters]⟩

/-- Behind one more cluster a place is further by its size. -/
theorem Parts.cons {gs : List Cluster} {n : Nat} (h : Parts gs n) (g : Cluster) :
    Parts (g :: gs) (byteSize g + n) := by
  obtain ⟨before, behind, rfl, hn⟩ := h
  exact ⟨g :: before, behind, rfl, by rw [List.flatten_cons, byteSize_append, hn]⟩

/-- So is the beginning of a cluster. -/
theorem Starts.cons {gs : List Cluster} {n : Nat} (h : Starts gs n) (g : Cluster) :
    Starts (g :: gs) (byteSize g + n) := by
  obtain ⟨before, g', behind, rfl, hn⟩ := h
  exact ⟨g :: before, g', behind, rfl, by rw [List.flatten_cons, byteSize_append, hn]⟩

/-- An offset is brought to a place between clusters. -/
theorem parts_floorIn (gs : List Cluster) (n : Nat) : Parts gs (floorIn gs n) := by
  induction gs generalizing n with
  | nil => exact parts_zero []
  | cons g gs ih =>
    rw [floorIn]
    split
    · exact parts_zero (g :: gs)
    · exact (ih _).cons g

/-- It is brought there by going back. -/
theorem floorIn_le (gs : List Cluster) (n : Nat) : floorIn gs n ≤ n := by
  induction gs generalizing n with
  | nil => exact Nat.zero_le n
  | cons g gs ih =>
    have hgs := ih (n - byteSize g)
    rw [floorIn]
    split <;> omega

/-- The boundary before the end is where a cluster begins. -/
theorem starts_prevIn {gs : List Cluster} (hgs : gs ≠ []) :
    Starts gs (prevIn gs (byteSize gs.flatten)) := by
  induction gs with
  | nil => exact absurd rfl hgs
  | cons g gs ih =>
    rw [List.flatten_cons, byteSize_append, prevIn]
    split
    · exact ⟨[], g, gs, rfl, rfl⟩
    · rename_i hmore
      have hlater : gs ≠ [] := by
        rintro rfl
        exact hmore (Nat.le_refl _)
      rw [Nat.add_sub_cancel_left]
      exact (ih hlater).cons g

/-- A text with characters has a size. -/
theorem byteSize_pos {t : Text} (h : t ≠ []) : 0 < byteSize t := by
  cases t with
  | nil => exact absurd rfl h
  | cons c cs => exact Nat.add_pos_left c.utf8Size_pos _

/-- Where a cluster begins the line goes on. -/
theorem Starts.lt {l : Text} {n : Nat} (h : Starts (clusters l) n) : n < byteSize l := by
  obtain ⟨before, g, behind, hclusters, rfl⟩ := h
  have hmem : g ∈ clusters l := by
    rw [hclusters]
    exact List.mem_append_right _ List.mem_cons_self
  have hpos := byteSize_pos (clusters_ne_nil hmem)
  rw [← flatten_clusters l, hclusters, List.flatten_append, List.flatten_cons, byteSize_append,
    byteSize_append]
  omega

/-- A place between clusters that is not behind the last of them begins one. -/
theorem Parts.starts {gs : List Cluster} (hgs : ∀ g ∈ gs, g ≠ []) {n m : Nat} (hn : Parts gs n)
    (hm : Starts gs m) (hle : n ≤ m) : Starts gs n := by
  obtain ⟨before, behind, rfl, rfl⟩ := hn
  cases behind with
  | cons g behind => exact ⟨before, g, behind, rfl, rfl⟩
  | nil =>
    -- then all clusters are before it, the one at `m` too, which has a size
    obtain ⟨before', g, behind', heq, rfl⟩ := hm
    have hpos : 0 < byteSize g := byteSize_pos (hgs g (heq ▸ by simp))
    rw [List.append_nil] at heq
    rw [heq, List.flatten_append, List.flatten_cons, byteSize_append, byteSize_append] at hle
    omega

/-! ## Lines -/

/-- The offset is where a cluster of the line begins, or zero in an empty line. -/
def StartsCluster (l : Text) (n : Nat) : Prop :=
  (l = [] ∧ n = 0) ∨ Starts (clusters l) n

/-- A place between clusters lies within the line and between characters. -/
theorem Parts.isCharBoundary {l : Text} {n : Nat} (h : Parts (clusters l) n) :
    n ≤ byteSize l ∧ isCharBoundary l n = true := by
  obtain ⟨before, behind, heq, rfl⟩ := h
  have hline : l = before.flatten ++ behind.flatten := by
    rw [← flatten_clusters l, heq, List.flatten_append]
  refine ⟨?_, ?_⟩
  · rw [hline, byteSize_append]
    exact Nat.le_add_right _ _
  · rw [hline]
    exact isCharBoundary_append _ _

/-- An offset is brought into the text, to a place between characters. -/
theorem floorBoundary_inside (l : Text) (n : Nat) :
    floorBoundary l n ≤ byteSize l ∧ isCharBoundary l (floorBoundary l n) = true :=
  (parts_floorIn (clusters l) n).isCharBoundary

/-- A place of rest on a line that is not empty is the beginning of a cluster. -/
theorem startsCluster_of_le (l : Text) (n : Nat) :
    StartsCluster l (min (floorBoundary l n) (lastBoundary l)) := by
  by_cases hl : l = []
  · subst hl
    exact .inl ⟨rfl, rfl⟩
  · refine .inr ?_
    have hgs : clusters l ≠ [] := by
      intro hnil
      have hflat := flatten_clusters l
      rw [hnil] at hflat
      exact hl hflat.symm
    have hlast : Starts (clusters l) (lastBoundary l) := by
      have hprev := starts_prevIn hgs
      rw [flatten_clusters] at hprev
      rw [lastBoundary, prevBoundary, if_neg (Nat.lt_irrefl _)]
      exact hprev
    rcases Nat.le_total (floorBoundary l n) (lastBoundary l) with hle | hle
    · rw [Nat.min_eq_left hle]
      exact (parts_floorIn _ n).starts (fun g hg => clusters_ne_nil hg) hlast hle
    · rw [Nat.min_eq_right hle]
      exact hlast

/-- The lines of two texts put together. -/
theorem splitLines_append (s t : Text) :
    ∃ front last first rest, splitLines s = front ++ [last] ∧ splitLines t = first :: rest ∧
      splitLines (s ++ t) = front ++ (last ++ first) :: rest := by
  obtain ⟨first, rest, ht⟩ := List.exists_cons_of_ne_nil (splitLines_ne_nil t)
  suffices h : ∃ front last, splitLines s = front ++ [last] ∧
      splitLines (s ++ t) = front ++ (last ++ first) :: rest by
    obtain ⟨front, last, hs, hst⟩ := h
    exact ⟨front, last, first, rest, hs, ht, hst⟩
  induction s with
  | nil => exact ⟨[], [], rfl, ht⟩
  | cons c cs ih =>
    obtain ⟨front, last, hs, hst⟩ := ih
    by_cases hc : c = '\n'
    · refine ⟨[] :: front, last, ?_, ?_⟩
      · rw [splitLines, if_pos hc, hs, List.cons_append]
      · rw [List.cons_append, splitLines, if_pos hc, hst, List.cons_append]
    · rw [List.cons_append, splitLines, if_neg hc, splitLines, if_neg hc, hs, hst]
      cases front with
      | nil => exact ⟨[], c :: last, rfl, rfl⟩
      | cons l front => exact ⟨(c :: l) :: front, last, rfl, rfl⟩

end ModalEditor
