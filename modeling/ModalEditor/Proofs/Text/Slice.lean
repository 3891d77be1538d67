import ModalEditor.Proofs.Text.Overwrite

/-!
# Clusters of a piece of a line

A piece of a line that begins and ends between clusters is divided on its own as it is in the line
(`clusters_eq_slice`). So the clusters that are counted in the piece are steps in the line: as many of
them lead from the beginning of the piece to its end (`repeat_nextBoundary_slice`).
-/

namespace ModalEditor

/-- A place that lies behind the first clusters is a place between those that are left. -/
theorem Parts.of_append {before behind : List Cluster} {n : Nat}
    (h : Parts (before ++ behind) (byteSize before.flatten + n)) (hne : ∀ g ∈ before, g ≠ []) :
    Parts behind n := by
  induction before with
  | nil => rwa [List.nil_append, List.flatten_nil, byteSize_nil, Nat.zero_add] at h
  | cons g before ih =>
    have hpos := byteSize_pos (hne g List.mem_cons_self)
    rw [List.cons_append, List.flatten_cons, byteSize_append] at h
    rcases h.of_cons with hzero | ⟨m, hm, hlater⟩
    · omega
    · obtain rfl : byteSize before.flatten + n = m := by omega
      exact ih hlater fun g' hg' => hne g' (List.mem_cons_of_mem g hg')

/-- A boundary that is not behind an offset is not behind the greatest one there. -/
theorem le_floorIn {gs : List Cluster} {m n : Nat} (hm : Parts gs m) (hle : m ≤ n) :
    m ≤ floorIn gs n := by
  induction gs generalizing m n with
  | nil =>
    obtain ⟨before, behind, heq, rfl⟩ := hm
    rw [(List.append_eq_nil_iff.1 heq.symm).1]
    exact Nat.zero_le _
  | cons g gs ih =>
    rcases hm.of_cons with rfl | ⟨m, rfl, hlater⟩
    · exact Nat.zero_le _
    · rw [floorIn, if_neg (by omega)]
      exact Nat.add_le_add_left (ih hlater (by omega)) _

variable {l : Text} {first past : Nat}

/-- A piece of a line that begins and ends between clusters is divided as it is in the line. -/
theorem clusters_eq_slice (hfirst : Parts (clusters l) first) (hpast : Parts (clusters l) past)
    (hle : first ≤ past) :
    ∃ before behind, clusters l = before ++ clusters (sliceBytes l first past) ++ behind ∧
      byteSize before.flatten = first ∧
      byteSize (before ++ clusters (sliceBytes l first past)).flatten = past := by
  have hcut := clusters_eq_append hfirst
  have hbefore : byteSize (clusters (takeBytes l first)).flatten = first := by
    rw [flatten_clusters, byteSize_takeBytes hfirst.isCharBoundary.2]
  -- the end of the piece is a boundary of what is behind its beginning
  have hrest : Parts (clusters (dropBytes l first)) (past - first) := by
    have hall : Parts (clusters (takeBytes l first) ++ clusters (dropBytes l first))
        (byteSize (clusters (takeBytes l first)).flatten + (past - first)) := by
      rwa [← hcut, hbefore, Nat.add_sub_cancel' hle]
    exact hall.of_append fun g hg => clusters_ne_nil hg
  refine ⟨clusters (takeBytes l first), clusters (dropBytes (dropBytes l first) (past - first)),
    ?_, hbefore, ?_⟩
  · rw [List.append_assoc, sliceBytes, ← clusters_eq_append hrest]
    exact hcut
  · rw [List.flatten_append, byteSize_append, hbefore, flatten_clusters, sliceBytes,
      byteSize_takeBytes hrest.isCharBoundary.2, Nat.add_sub_cancel' hle]

/-- As many steps as there are clusters lead from where they begin to where they end. -/
theorem repeat_nextBoundary_append {before gs behind : List Cluster}
    (h : clusters l = before ++ gs ++ behind) :
    Nat.repeat (nextBoundary l) gs.length (byteSize before.flatten) =
      byteSize (before ++ gs).flatten := by
  induction gs using List.reverseRecOn generalizing behind with
  | nil => rw [List.append_nil]; rfl
  | append_singleton gs g ih =>
    have hline : clusters l = (before ++ gs) ++ g :: behind := by
      rw [h, List.append_assoc, List.append_assoc, List.append_assoc, List.singleton_append]
    have hg : g ≠ [] := clusters_ne_nil (t := l) (by rw [hline]; simp)
    have hsize : byteSize (before ++ (gs ++ [g])).flatten =
        byteSize (before ++ gs).flatten + byteSize g := by
      rw [← List.append_assoc, List.flatten_append, List.flatten_singleton, byteSize_append]
    rw [List.length_append, List.length_singleton, Nat.repeat, ih hline, nextBoundary, hline,
      nextIn_append hg, hsize]

/-- As many steps as a piece of a line has clusters lead from its beginning to its end. -/
theorem repeat_nextBoundary_slice (hfirst : Parts (clusters l) first)
    (hpast : Parts (clusters l) past) (hle : first ≤ past) :
    Nat.repeat (nextBoundary l) (clusters (sliceBytes l first past)).length first = past := by
  obtain ⟨before, behind, hline, hbefore, hboth⟩ := clusters_eq_slice hfirst hpast hle
  have hsteps := repeat_nextBoundary_append hline
  rwa [hbefore, hboth] at hsteps

end ModalEditor
