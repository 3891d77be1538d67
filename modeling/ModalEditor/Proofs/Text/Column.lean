import Mathlib.Order.Interval.Set.LinearOrder
import ModalEditor.Proofs.Text.Cut

/-!
# Display columns of a line

The clusters of a line stand side by side, so a cluster begins at the width of all those before it
(`widthBefore_flatten`), and this column leads back to it however wide they are
(`startOfColumn_widthOf`).

A rectangle is a range of columns. It takes every cluster that has a column in it, also one that
reaches over an edge (`blockBytes_columns`). Both of its ends are looked for together, and each can
be told alone: the rectangle begins with the cluster that covers its left edge
(`blockStart_eq_startOfColumn`), and ends in front of the first cluster that begins at its right edge
or beyond (`le_blockEnd_iff`).
-/

namespace ModalEditor

/-! ## Clusters side by side -/

/-- The number of columns that clusters take side by side. -/
def widthOf : List Cluster → Nat
  | [] => 0
  | g :: gs => clusterWidth g + widthOf gs

/-- The display columns of a cluster that stands behind others. -/
def columnsBehind (before : List Cluster) (g : Cluster) : Set Nat :=
  Set.Ico (widthOf before) (widthOf before + clusterWidth g)

/-- Two ranges of columns meet if each begins before the other ends. -/
theorem columnsBehind_inter_nonempty_iff {g : Cluster} (hg : g ≠ []) (before : List Cluster)
    {left right : Nat} (hlt : left < right) :
    (columnsBehind before g ∩ Set.Ico left right).Nonempty ↔
      left < widthOf before + clusterWidth g ∧ widthOf before < right := by
  have hpos := clusterWidth_pos hg
  rw [columnsBehind, Set.Ico_inter_Ico, Set.nonempty_Ico, sup_lt_iff, lt_inf_iff, lt_inf_iff]
  omega

/-! ## A column and its offset -/

theorem widthBefore_zero (gs : List Cluster) : widthBefore gs 0 = 0 := by
  cases gs with
  | nil => rfl
  | cons g gs => rw [widthBefore, if_pos rfl]

/-- A cluster begins at the width of all those before it. -/
theorem widthBefore_flatten {before : List Cluster} (hne : ∀ g ∈ before, g ≠ [])
    (behind : List Cluster) :
    widthBefore (before ++ behind) (byteSize before.flatten) = widthOf before := by
  induction before with
  | nil => exact widthBefore_zero behind
  | cons g before ih =>
    have hpos : 0 < byteSize g := byteSize_pos (hne g List.mem_cons_self)
    rw [List.flatten_cons, byteSize_append, List.cons_append, widthBefore, if_neg (by omega),
      Nat.add_sub_cancel_left, ih fun g' hg' => hne g' (List.mem_cons_of_mem g hg'), widthOf]

theorem parts_startOfColumn (gs : List Cluster) (column : Nat) :
    Parts gs (startOfColumn gs column) := by
  induction gs generalizing column with
  | nil => exact parts_zero []
  | cons g gs ih =>
    rw [startOfColumn]
    split
    · exact parts_zero (g :: gs)
    · exact (ih _).cons g

theorem startOfColumn_zero {gs : List Cluster} (hgs : ∀ g ∈ gs, g ≠ []) :
    startOfColumn gs 0 = 0 := by
  cases gs with
  | nil => rfl
  | cons g gs => rw [startOfColumn, if_pos (clusterWidth_pos (hgs g List.mem_cons_self))]

/-- The width of clusters leads behind them. -/
theorem startOfColumn_widthOf (before : List Cluster) {behind : List Cluster}
    (hne : ∀ g ∈ behind, g ≠ []) :
    startOfColumn (before ++ behind) (widthOf before) = byteSize before.flatten := by
  induction before with
  | nil => exact startOfColumn_zero hne
  | cons g before ih =>
    rw [List.cons_append, widthOf, startOfColumn, if_neg (by omega), Nat.add_sub_cancel_left,
      ih, List.flatten_cons, byteSize_append]

/-- A column behind all clusters leads to the end. -/
theorem startOfColumn_of_widthOf_le {gs : List Cluster} {column : Nat}
    (hle : widthOf gs ≤ column) : startOfColumn gs column = byteSize gs.flatten := by
  induction gs generalizing column with
  | nil => rfl
  | cons g gs ih =>
    rw [widthOf] at hle
    rw [startOfColumn, if_neg (by omega), ih (by omega), List.flatten_cons, byteSize_append]

/-- A column leads at most to a cluster if the cluster reaches beyond it. -/
theorem startOfColumn_le_iff {g : Cluster} (hg : g ≠ []) (before behind : List Cluster)
    (column : Nat) :
    startOfColumn (before ++ g :: behind) column ≤ byteSize before.flatten ↔
      column < widthOf before + clusterWidth g := by
  have hpos := byteSize_pos hg
  induction before generalizing column with
  | nil =>
    show startOfColumn (g :: behind) column ≤ 0 ↔ column < 0 + clusterWidth g
    rw [startOfColumn]
    split <;> omega
  | cons g' before ih =>
    -- the column is counted on from the end of the first cluster, or lies in it
    have hlater := ih (column - clusterWidth g')
    rw [List.cons_append, startOfColumn, widthOf, List.flatten_cons, byteSize_append]
    split <;> omega

section Line

variable {l : Text}

theorem columnOf_flatten {before behind : List Cluster} (h : clusters l = before ++ behind) :
    columnOf l (byteSize before.flatten) = widthOf before := by
  rw [columnOf, h]
  exact widthBefore_flatten
    (fun g hg => clusters_ne_nil (t := l) (h ▸ List.mem_append_left behind hg)) behind

theorem lineWidth_eq_widthOf (l : Text) : lineWidth l = widthOf (clusters l) := by
  have hall := columnOf_flatten (List.append_nil (clusters l)).symm
  rwa [flatten_clusters] at hall

/-- The column of a place between clusters leads back to the place. -/
theorem offsetOfColumn_columnOf {n : Nat} (hn : Parts (clusters l) n) :
    offsetOfColumn l (columnOf l n) = n := by
  obtain ⟨before, behind, h, rfl⟩ := hn
  rw [columnOf_flatten h, offsetOfColumn, h]
  exact startOfColumn_widthOf before fun g hg =>
    clusters_ne_nil (t := l) (h ▸ List.mem_append_right before hg)

end Line

/-! ## Rectangles -/

/-- The first cluster of a rectangle is the one that covers its left edge. -/
theorem blockStart_eq_startOfColumn (gs : List Cluster) {left right : Nat} (hlt : left < right) :
    blockStart gs left right = startOfColumn gs left := by
  induction gs generalizing left right with
  | nil => rfl
  | cons g gs ih =>
    rw [blockStart, startOfColumn]
    split
    · rfl
    · rw [if_neg (by omega), ih (by omega)]

/-- A cluster ends in front of the end of a rectangle if it begins before the right edge. -/
theorem le_blockEnd_iff {before : List Cluster} (hne : ∀ g ∈ before, g ≠ []) {g : Cluster}
    (hg : g ≠ []) (behind : List Cluster) (right : Nat) :
    byteSize before.flatten + byteSize g ≤ blockEnd (before ++ g :: behind) right ↔
      widthOf before < right := by
  induction before generalizing right with
  | nil =>
    have hpos := byteSize_pos hg
    show 0 + byteSize g ≤ blockEnd (g :: behind) right ↔ 0 < right
    rw [blockEnd]
    split <;> omega
  | cons g' before ih =>
    have hpos : 0 < byteSize g' := byteSize_pos (hne g' List.mem_cons_self)
    have hlater := ih (fun g hg => hne g (List.mem_cons_of_mem g' hg)) (right - clusterWidth g')
    rw [List.cons_append, blockEnd, widthOf, List.flatten_cons, byteSize_append]
    split <;> omega

/-- A cluster lies in a rectangle if the two have a column in common. -/
theorem mem_blockBytes_iff {l : Text} {before behind : List Cluster} {g : Cluster}
    (h : clusters l = before ++ g :: behind) {left right : Nat} (hlt : left < right) :
    (blockBytes l left right).1 ≤ byteSize before.flatten ∧
        byteSize (before ++ [g]).flatten ≤ (blockBytes l left right).2 ↔
      (columnsBehind before g ∩ Set.Ico left right).Nonempty := by
  have hne : ∀ g' ∈ before ++ g :: behind, g' ≠ [] := fun g' hg' =>
    clusters_ne_nil (t := l) (h ▸ hg')
  have hg : g ≠ [] := hne g (by simp)
  have hstart := startOfColumn_le_iff hg before behind left
  have hend := le_blockEnd_iff (fun g' hg' => hne g' (List.mem_append_left _ hg')) hg behind right
  have hpos := byteSize_pos hg
  rw [columnsBehind_inter_nonempty_iff hg before hlt, ← hstart, ← hend, blockBytes, h,
    blockStart_eq_startOfColumn _ hlt, List.flatten_append, List.flatten_singleton,
    byteSize_append]
  -- a cluster that begins behind the first offset does not end in front of it
  omega

/-- Of a line that ends in front of a rectangle, nothing but its end lies in it. -/
theorem blockBytes_of_lineWidth_le {l : Text} {left right : Nat} (hlt : left < right)
    (hle : lineWidth l ≤ left) : blockBytes l left right = (byteSize l, byteSize l) := by
  have hend : blockEnd (clusters l) right ≤ byteSize l := (parts_blockEnd _ _).isCharBoundary.1
  rw [lineWidth_eq_widthOf] at hle
  rw [blockBytes, blockStart_eq_startOfColumn _ hlt, startOfColumn_of_widthOf_le hle,
    flatten_clusters, Nat.max_eq_left hend]

/-- **Rectangles and columns.** The two offsets of a rectangle are in order and lie between clusters.
Between them are exactly the clusters that have a display column in common with the rectangle, and
both are the end of the line if the line ends in front of it. The column of a place between clusters
is the width of the clusters before it, and leads back to the place. -/
theorem blockBytes_columns (l : Text) :
    (∀ left right, left < right →
      let first := (blockBytes l left right).1
      let past := (blockBytes l left right).2
      (Parts (clusters l) first ∧ Parts (clusters l) past ∧ first ≤ past) ∧
        (∀ before g behind, clusters l = before ++ g :: behind →
          (first ≤ byteSize before.flatten ∧ byteSize (before ++ [g]).flatten ≤ past ↔
            (columnsBehind before g ∩ Set.Ico left right).Nonempty)) ∧
        (lineWidth l ≤ left → first = byteSize l ∧ past = byteSize l)) ∧
    (∀ before behind, clusters l = before ++ behind →
      columnOf l (byteSize before.flatten) = widthOf before) ∧
    ∀ n, Parts (clusters l) n → offsetOfColumn l (columnOf l n) = n := by
  refine ⟨?_, fun before behind h => columnOf_flatten h, fun n hn => offsetOfColumn_columnOf hn⟩
  intro left right hlt first past
  refine ⟨parts_blockBytes l left right, ?_, ?_⟩
  · intro before g behind h
    exact mem_blockBytes_iff h hlt
  · intro hle
    exact Prod.ext_iff.1 (blockBytes_of_lineWidth_le hlt hle)

/-- A rectangle that begins in the second cell of a wide character takes all of it, and not the
letter behind it. Behind the end of the line there is nothing to take. -/
theorem blockBytes_columns_wide :
    let l := "a漢b".toList
    (2 < 3 ∧ 4 < 9 ∧ clusters l = [['a']] ++ ['漢'] :: [['b']] ∧
        clusters l = [['a'], ['漢']] ++ ['b'] :: [] ∧ lineWidth l ≤ 4 ∧ Parts (clusters l) 4) ∧
      ((blockBytes l 2 3).1 ≤ 1 ∧ 4 ≤ (blockBytes l 2 3).2) ∧
      ¬ ((blockBytes l 2 3).1 ≤ 4 ∧ 5 ≤ (blockBytes l 2 3).2) ∧
      blockBytes l 4 9 = (5, 5) ∧ columnOf l 4 = 3 ∧ offsetOfColumn l (columnOf l 4) = 4 := by
  intro l
  obtain ⟨hblock, hcolumn, hback⟩ := blockBytes_columns l
  have hwide : clusters l = [['a']] ++ ['漢'] :: [['b']] := by decide +kernel
  have hlast : clusters l = [['a'], ['漢']] ++ ['b'] :: [] := hwide
  have hend : lineWidth l ≤ 4 := by decide +kernel
  have hparts : Parts (clusters l) 4 := ⟨_, _, hlast, by decide⟩
  refine ⟨⟨by decide, by decide, hwide, hlast, hend, hparts⟩, ?_, ?_, ?_, ?_, ?_⟩
  · refine ((hblock 2 3 (by decide)).2.1 _ _ _ hwide).2 ?_
    exact ⟨2, ⟨by decide +kernel, by decide +kernel⟩, by decide, by decide⟩
  · intro htaken
    obtain ⟨column, ⟨hfrom, -⟩, -, hbefore⟩ := ((hblock 2 3 (by decide)).2.1 _ _ _ hlast).1 htaken
    have hwidth : widthOf [['a'], ['漢']] = 3 := by decide +kernel
    omega
  · exact Prod.ext_iff.2 ((hblock 4 9 (by decide)).2.2 hend)
  · exact (hcolumn _ _ hlast).trans (by decide +kernel)
  · exact hback 4 hparts

end ModalEditor
