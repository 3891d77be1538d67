import ModalEditor.Proofs.Editor.Effect
import ModalEditor.Proofs.Motion.Landing
import ModalEditor.Proofs.Text.Overwrite

/-!
# Where a search in the line lands

The clusters of the line are counted from its beginning, and the cursor is where one of them begins, or
at the end. The steps of a search visit the clusters on one side of the cursor, nearest first
(`Find.visits_candidates`), so the one at which its loop ends is the `n`-th there that begins with the
character (`Find.seekNth_of_visits`, `Find.IsNth`). It fails when there are fewer. A search that is
repeated never stops where it started, for what it finds is not beside the cursor whenever it stops one
short of it (`Motion.land_find`).
-/

namespace ModalEditor

open Unicode

/-- A member of a list is the one with the index `n` among those with a property if it has the property
and there are `n` of them in front of it. -/
theorem getElem?_filter_iff {α : Type} {p : α → Bool} {xs : List α} {n : Nat} {x : α} :
    (xs.filter p)[n]? = some x ↔
      ∃ j, xs[j]? = some x ∧ p x = true ∧ (xs.take j).countP p = n := by
  induction xs generalizing n with
  | nil => simp
  | cons y ys ih =>
    -- an element is at a place of the filtered list if the places before it hold as many that fit
    constructor
    · intro h
      by_cases hy : p y = true
      · rw [List.filter_cons_of_pos hy] at h
        cases n with
        | zero => exact ⟨0, h, by simpa [← Option.some.inj h] using hy, rfl⟩
        | succ n =>
          obtain ⟨j, hx, hp, hcount⟩ := ih.1 h
          exact ⟨j + 1, hx, hp, by rw [List.take_succ_cons, List.countP_cons_of_pos hy, hcount]⟩
      · rw [List.filter_cons_of_neg hy] at h
        obtain ⟨j, hx, hp, hcount⟩ := ih.1 h
        exact ⟨j + 1, hx, hp, by rw [List.take_succ_cons, List.countP_cons_of_neg hy, hcount]⟩
    · rintro ⟨j, hx, hp, hcount⟩
      cases j with
      | zero =>
        obtain rfl := Option.some.inj hx
        rw [List.filter_cons_of_pos hp, ← hcount]
        rfl
      | succ j =>
        rw [List.take_succ_cons] at hcount
        by_cases hy : p y = true
        · rw [List.countP_cons_of_pos hy] at hcount
          rw [List.filter_cons_of_pos hy, ← hcount]
          exact ih.2 ⟨j, hx, hp, rfl⟩
        · rw [List.countP_cons_of_neg hy] at hcount
          rw [List.filter_cons_of_neg hy]
          exact ih.2 ⟨j, hx, hp, hcount⟩

/-- Where the cluster with the index `i` begins; the end of the line behind the last one. -/
def offsetAt (l : Text) (i : Nat) : Nat :=
  byteSize ((clusters l).take i).flatten

section Offsets

variable {l : Text}

/-- Clusters begin in their order. -/
theorem offsetAt_le {i j : Nat} (hij : i ≤ j) : offsetAt l i ≤ offsetAt l j := by
  have hcut := List.take_append_drop i ((clusters l).take j)
  rw [List.take_take, Nat.min_eq_left hij] at hcut
  rw [offsetAt, offsetAt, ← hcut, List.flatten_append, byteSize_append]
  exact Nat.le_add_right _ _

/-- A cluster ends where the next one begins. -/
theorem offsetAt_succ {i : Nat} {g : Cluster} (hg : (clusters l)[i]? = some g) :
    offsetAt l (i + 1) = offsetAt l i + byteSize g := by
  rw [offsetAt, List.take_add_one, hg, List.flatten_append, byteSize_append]
  simp [offsetAt]

/-- Different clusters begin at different offsets. -/
theorem offsetAt_lt {i j : Nat} (hi : i < (clusters l).length) (hij : i < j) :
    offsetAt l i < offsetAt l j := by
  have hg := List.getElem?_eq_getElem hi
  have hpos := byteSize_pos (clusters_ne_nil (List.mem_of_getElem? hg))
  calc offsetAt l i < offsetAt l (i + 1) := by rw [offsetAt_succ hg]; omega
    _ ≤ offsetAt l j := offsetAt_le hij

/-- Clusters begin inside the line. -/
theorem offsetAt_le_byteSize (l : Text) (i : Nat) : offsetAt l i ≤ byteSize l := by
  have hall := congrArg byteSize (flatten_clusters l)
  rw [← List.take_append_drop i (clusters l), List.flatten_append, byteSize_append] at hall
  exact Nat.le.intro hall

/-- Behind the last cluster is the end of the line. -/
theorem offsetAt_of_length_le {i : Nat} (hi : (clusters l).length ≤ i) :
    offsetAt l i = byteSize l := by
  rw [offsetAt, List.take_of_length_le hi, flatten_clusters]

/-- A cluster that there is begins in front of the end. -/
theorem offsetAt_lt_byteSize {i : Nat} (hi : i < (clusters l).length) :
    offsetAt l i < byteSize l :=
  (offsetAt_lt hi hi).trans_eq (offsetAt_of_length_le (Nat.le_refl _))

/-- The clusters of a line, cut in front of one of them. -/
theorem exists_cut {i : Nat} {g : Cluster} (hg : (clusters l)[i]? = some g) :
    ∃ behind, clusters l = (clusters l).take i ++ g :: behind := by
  obtain ⟨hi, rfl⟩ := List.getElem?_eq_some_iff.1 hg
  exact ⟨(clusters l).drop (i + 1), by rw [← List.drop_eq_getElem_cons hi, List.take_append_drop]⟩

/-- The boundary behind a cluster is where the next one begins. -/
theorem nextBoundary_offsetAt {i : Nat} {g : Cluster} (hg : (clusters l)[i]? = some g) :
    nextBoundary l (offsetAt l i) = offsetAt l (i + 1) := by
  obtain ⟨behind, hcut⟩ := exists_cut hg
  have hne := clusters_ne_nil (List.mem_of_getElem? hg)
  rw [nextBoundary, hcut, offsetAt_succ hg]
  exact nextIn_append hne _ _

/-- The boundary in front of a place is where the cluster before it begins. -/
theorem prevBoundary_offsetAt {i : Nat} {g : Cluster} (hg : (clusters l)[i]? = some g) :
    prevBoundary l (offsetAt l (i + 1)) = offsetAt l i := by
  obtain ⟨behind, hcut⟩ := exists_cut hg
  have hne := clusters_ne_nil (List.mem_of_getElem? hg)
  rw [prevBoundary, if_neg (Nat.not_lt.2 (offsetAt_le_byteSize l _)), hcut, offsetAt_succ hg]
  exact prevIn_append hne _ _

/-- The cluster with an index is found at its offset. -/
theorem clusterAt_offsetAt {i : Nat} {g : Cluster} (hg : (clusters l)[i]? = some g) :
    clusterAt l (offsetAt l i) = some g := by
  obtain ⟨behind, hcut⟩ := exists_cut hg
  have hparts : Parts (clusters l) (offsetAt l i) := ⟨_, _, hcut, rfl⟩
  have hboth := hcut.symm.trans (clusters_eq_append hparts)
  have hunique := parts_unique (fun _ hg => clusters_ne_nil (t := l) (by rwa [hcut])) hboth
    (by rw [flatten_clusters, byteSize_takeBytes hparts.isCharBoundary.2, offsetAt])
  rw [clusterAt_of_parts hparts, ← hunique.2, List.head?_cons]

/-- What a cluster begins with is its first character. -/
theorem clusterAtStartsWith_eq {n : Nat} {g : Cluster} (hg : clusterAt l n = some g) (c : Char) :
    clusterAtStartsWith l n c = (g.head? == some c) := by
  rw [clusterAtStartsWith, hg]
  cases g with
  | nil => rfl
  | cons d g => rfl

end Offsets

namespace Find

/-- Does the cluster begin with the character that is looked for? -/
def hits (f : Find) (g : Cluster) : Bool :=
  g.head? == some f.ch

/-- The clusters on the side of the cursor that is searched, for a cursor on the cluster `k`. -/
def side (f : Find) (gs : List Cluster) (k : Nat) : List Cluster :=
  if f.forward then gs.drop (k + 1) else gs.take k

/-- Those of them between the cursor and the cluster `i`. -/
def between (f : Find) (gs : List Cluster) (k i : Nat) : List Cluster :=
  if f.forward then (gs.take i).drop (k + 1) else (gs.take k).drop (i + 1)

/-- The cluster `i` is the `n`-th from the cursor, on the side that is searched, that begins with the
character. -/
structure IsNth (f : Find) (gs : List Cluster) (k n i : Nat) : Prop where
  beyond : if f.forward then k < i else i < k
  hit : ∃ g, gs[i]? = some g ∧ f.hits g = true
  count : (f.between gs k i).countP f.hits + 1 = n

/-- The cluster on which the cursor stops for a hit: the hit itself, or the one short of it. -/
def stopAt (f : Find) (i : Nat) : Nat :=
  if f.till then if f.forward then i - 1 else i + 1 else i

/-- There are `j` clusters between the cursor and the cluster `i`, which is on the side that is
searched. -/
def IsAway (f : Find) (k j i : Nat) : Prop :=
  if f.forward then i = k + 1 + j else i + 1 + j = k

/-! ## The walk of a search -/

/-- From the offset the steps of the walk come to the clusters, one after the other, and then to an end.
-/
def Visits (f : Find) (l : Text) : Nat → List (Nat × Cluster) → Prop
  | col, [] => f.neighbour l col = none
  | col, x :: xs => f.neighbour l col = some x.1 ∧ clusterAt l x.1 = some x.2 ∧ Visits f l x.1 xs

section Walk

variable {f : Find} {l : Text} {col : Nat}

/-- Where no step is possible, the search fails. -/
theorem seekNth_of_none (h : f.neighbour l col = none) (skip : Bool) (n : Nat) :
    f.seekNth l skip (n + 1) col = none := by
  have hseek : f.seek l skip col = none := by
    rw [seek]
    split
    · rfl
    · rw [‹f.neighbour l col = some _›] at h
      cases h
  rw [seekNth, hseek, Option.bind_none]

/-- One step of the loop: it counts a cluster that begins with the character, unless it is skipped. -/
theorem seekNth_of_some {next : Nat} (h : f.neighbour l col = some next) {g : Cluster}
    (hg : clusterAt l next = some g) (skip : Bool) (n : Nat) :
    f.seekNth l skip (n + 1) col =
      if f.hits g && !skip then f.seekNth l false n next else f.seekNth l false (n + 1) next := by
  have hseek : f.seek l skip col =
      if f.hits g && !skip then some next else f.seek l false next := by
    rw [seek]
    split
    · rw [‹f.neighbour l col = none›] at h
      cases h
    · rename_i next' h'
      obtain rfl : next' = next := Option.some.inj (h'.symm.trans h)
      rw [clusterAtStartsWith_eq hg]
      rfl
  rw [seekNth, hseek]
  split
  · rfl
  · rfl

/-- The loop ends at the `n`-th cluster on its way that begins with the character. If it skips, it does
not look at the first cluster on the way. -/
theorem seekNth_of_visits {xs : List (Nat × Cluster)} (h : f.Visits l col xs) (skip : Bool) (n : Nat) :
    f.seekNth l skip (n + 1) col =
      ((xs.drop (if skip then 1 else 0)).filter (f.hits ·.2))[n]?.map (·.1) := by
  induction xs generalizing col skip n with
  | nil => rw [seekNth_of_none h, List.drop_nil, List.filter_nil, List.getElem?_nil, Option.map_none]
  | cons x xs ih =>
    obtain ⟨hnext, hcluster, hlater⟩ := h
    have hgo := ih hlater false
    rw [if_neg Bool.false_ne_true, List.drop_zero] at hgo
    rw [seekNth_of_some hnext hcluster]
    cases skip with
    | true =>
      -- the first cluster is passed, whatever it is
      rw [Bool.not_true, Bool.and_false, if_neg Bool.false_ne_true, if_pos rfl, hgo,
        List.drop_succ_cons, List.drop_zero]
    | false =>
      rw [Bool.not_false, Bool.and_true, if_neg Bool.false_ne_true, List.drop_zero]
      by_cases hhit : f.hits x.2 = true
      · rw [if_pos hhit, List.filter_cons, if_pos hhit]
        cases n with
        | zero => rfl
        | succ n => exact hgo n
      · rw [if_neg hhit, List.filter_cons, if_neg hhit, hgo]

end Walk

/-! ## The clusters that are searched -/

/-- The clusters on the side that is searched from the cluster `k`, nearest first. -/
def candidates (f : Find) (l : Text) (k : Nat) : List (Nat × Cluster) :=
  if f.forward then withOffsets (offsetAt l (k + 1)) ((clusters l).drop (k + 1))
  else (withOffsets 0 ((clusters l).take k)).reverse

/-- With their offsets taken away, the clusters are what they were. -/
theorem map_snd_withOffsets (col : Nat) (gs : List Cluster) :
    (withOffsets col gs).map (·.2) = gs := by
  induction gs generalizing col with
  | nil => rfl
  | cons g gs ih => rw [withOffsets, List.map_cons, ih]

/-- Every cluster has one offset. -/
theorem length_withOffsets (col : Nat) (gs : List Cluster) :
    (withOffsets col gs).length = gs.length := by
  rw [← List.length_map (·.2), map_snd_withOffsets]

/-- The offset of a cluster is the size of those before it. -/
theorem getElem?_withOffsets (col : Nat) (gs : List Cluster) (i : Nat) :
    (withOffsets col gs)[i]? = gs[i]?.map fun g => (col + byteSize (gs.take i).flatten, g) := by
  induction gs generalizing col i with
  | nil => rfl
  | cons g gs ih =>
    cases i with
    | zero => simp [withOffsets]
    | succ i => simp [withOffsets, ih, Nat.add_assoc]

/-- A cluster at the end lies behind all others. -/
theorem withOffsets_concat (col : Nat) (gs : List Cluster) (g : Cluster) :
    withOffsets col (gs ++ [g]) = withOffsets col gs ++ [(col + byteSize gs.flatten, g)] := by
  induction gs generalizing col with
  | nil => rfl
  | cons h gs ih =>
    rw [List.cons_append, withOffsets, ih, withOffsets, List.cons_append, List.flatten_cons,
      byteSize_append, Nat.add_assoc]

section Candidates

variable {l : Text}

/-- The clusters in front of the cursor, with their places in the line. -/
theorem getElem?_withOffsets_take {k i : Nat} (hi : i < k) :
    (withOffsets 0 ((clusters l).take k))[i]? = (clusters l)[i]?.map fun g => (offsetAt l i, g) := by
  rw [getElem?_withOffsets, List.getElem?_take_of_lt hi, List.take_take, Nat.min_eq_left hi.le]
  simp only [Nat.zero_add, offsetAt]

/-- The clusters behind the cursor, with their places in the line. -/
theorem getElem?_withOffsets_drop (k i : Nat) :
    (withOffsets (offsetAt l k) ((clusters l).drop k))[i]? =
      (clusters l)[k + i]?.map fun g => (offsetAt l (k + i), g) := by
  rw [getElem?_withOffsets, List.getElem?_drop]
  simp only [offsetAt, List.take_add, List.flatten_append, byteSize_append]

variable {f : Find} {k : Nat}

/-- A forward search looks at the clusters behind the cursor. -/
theorem candidates_forward (hf : f.forward = true) (k : Nat) :
    f.candidates l k = withOffsets (offsetAt l (k + 1)) ((clusters l).drop (k + 1)) :=
  if_pos hf

/-- A backward search looks at those in front of it, the last one first. -/
theorem candidates_backward (hf : f.forward = false) (k : Nat) :
    f.candidates l k = (withOffsets 0 ((clusters l).take k)).reverse :=
  if_neg (Bool.eq_false_iff.1 hf)

/-- To the right the next cluster is the one with the next index. -/
theorem neighbour_forward (hf : f.forward = true) (hk : k + 1 < (clusters l).length) :
    f.neighbour l (offsetAt l k) = some (offsetAt l (k + 1)) := by
  have hhere := List.getElem?_eq_getElem (Nat.lt_of_succ_lt hk)
  rw [neighbour, if_pos hf, nextBoundary_offsetAt hhere,
    if_neg (Nat.not_le.2 (offsetAt_lt_byteSize hk))]

/-- From the last cluster, and from the end, there is none to the right. -/
theorem neighbour_forward_end (hf : f.forward = true) (hk : (clusters l).length ≤ k + 1) :
    f.neighbour l (offsetAt l k) = none := by
  have hend : byteSize l ≤ nextBoundary l (offsetAt l k) := by
    rcases Nat.lt_or_ge k (clusters l).length with hlast | hbehind
    · rw [nextBoundary_offsetAt (List.getElem?_eq_getElem hlast), offsetAt_of_length_le hk]
    · rw [offsetAt_of_length_le hbehind]
      exact le_nextBoundary (Nat.le_refl _)
  rw [neighbour, if_pos hf, if_pos hend]

/-- To the left the next cluster is the one with the index before. -/
theorem neighbour_backward (hf : f.forward = false) (hk : k < (clusters l).length) :
    f.neighbour l (offsetAt l (k + 1)) = some (offsetAt l k) := by
  have hpos : offsetAt l (k + 1) ≠ 0 :=
    Nat.ne_zero_of_lt (offsetAt_lt hk (Nat.lt_succ_self k))
  rw [neighbour, if_neg (Bool.eq_false_iff.1 hf), if_neg hpos,
    prevBoundary_offsetAt (List.getElem?_eq_getElem hk)]

/-- There is no step back from the beginning of a line. -/
theorem neighbour_backward_zero (hf : f.forward = false) : f.neighbour l (offsetAt l 0) = none := by
  rw [neighbour, if_neg (Bool.eq_false_iff.1 hf), if_pos (by rw [offsetAt]; rfl)]

/-- A forward walk comes to the clusters behind the cursor, by induction on them. -/
theorem visits_forward (hf : f.forward = true) {gs : List Cluster}
    (hgs : (clusters l).drop (k + 1) = gs) :
    f.Visits l (offsetAt l k) (withOffsets (offsetAt l (k + 1)) gs) := by
  induction gs generalizing k with
  | nil => exact neighbour_forward_end hf (List.drop_eq_nil_iff.1 hgs)
  | cons g gs ih =>
    have hg : (clusters l)[k + 1]? = some g := by
      rw [← List.head?_drop, hgs, List.head?_cons]
    have hlater : (clusters l).drop (k + 1 + 1) = gs := by
      rw [← List.tail_drop, hgs, List.tail_cons]
    have hk := (List.getElem?_eq_some_iff.1 hg).1
    rw [withOffsets, ← offsetAt_succ hg]
    exact ⟨neighbour_forward hf hk, clusterAt_offsetAt hg, ih hlater⟩

/-- A backward walk comes to the clusters in front of the cursor, by induction on their number. -/
theorem visits_backward (hf : f.forward = false) (hk : k ≤ (clusters l).length) :
    f.Visits l (offsetAt l k) (withOffsets 0 ((clusters l).take k)).reverse := by
  induction k with
  | zero => exact neighbour_backward_zero hf
  | succ k ih =>
    have hg := List.getElem?_eq_getElem hk
    rw [List.take_add_one, hg, Option.toList_some, withOffsets_concat, List.reverse_concat,
      Nat.zero_add]
    exact ⟨neighbour_backward hf hk, clusterAt_offsetAt hg, ih (Nat.le_of_lt hk)⟩

/-- The walk visits the clusters on its side, nearest first. -/
theorem visits_candidates (f : Find) (hk : k ≤ (clusters l).length) :
    f.Visits l (offsetAt l k) (f.candidates l k) := by
  cases hf : f.forward with
  | true =>
    rw [candidates_forward hf]
    exact visits_forward hf rfl
  | false =>
    rw [candidates_backward hf]
    exact visits_backward hf hk

/-- What a search finds among the clusters on its side. -/
theorem target_eq (f : Find) (hk : k ≤ (clusters l).length) (n : Nat) (repeated : Bool) :
    f.target l (offsetAt l k) (n + 1) repeated =
      (((f.candidates l k).drop (if repeated && f.till && n + 1 == 1 then 1 else 0)).filter
        (f.hits ·.2))[n]?.map (·.1) :=
  seekNth_of_visits (visits_candidates f hk) _ n

/-- The candidates are the clusters on the side that is searched, nearest first. -/
theorem getElem?_candidates (hk : k ≤ (clusters l).length) {j : Nat} {x : Nat × Cluster} :
    (f.candidates l k)[j]? = some x ↔
      ∃ i g, f.IsAway k j i ∧ (clusters l)[i]? = some g ∧ x = (offsetAt l i, g) := by
  cases hf : f.forward with
  | true =>
    simp only [candidates_forward hf, getElem?_withOffsets_drop, IsAway, hf, if_true,
      Option.map_eq_some_iff]
    constructor
    · rintro ⟨g, hg, rfl⟩
      exact ⟨_, g, rfl, hg, rfl⟩
    · rintro ⟨i, g, rfl, hg, rfl⟩
      exact ⟨g, hg, rfl⟩
  | false =>
    have hlength : (withOffsets 0 ((clusters l).take k)).length = k := by
      rw [length_withOffsets, List.length_take, Nat.min_eq_left hk]
    simp only [candidates_backward hf, IsAway, hf, Bool.false_eq_true, if_false]
    constructor
    -- the list is read from its end, so the index counts from the cursor
    · intro h
      have hj := (List.getElem?_eq_some_iff.1 h).1
      rw [List.length_reverse, hlength] at hj
      rw [List.getElem?_reverse (by omega), hlength, getElem?_withOffsets_take (by omega)] at h
      obtain ⟨g, hg, rfl⟩ := Option.map_eq_some_iff.1 h
      exact ⟨_, g, by omega, hg, rfl⟩
    · rintro ⟨i, g, haway, hg, rfl⟩
      rw [List.getElem?_reverse (by omega), hlength, getElem?_withOffsets_take (by omega),
        show k - 1 - j = i by omega, hg]
      rfl

/-- The candidates are the clusters on the side that is searched, in the order of the walk. -/
theorem map_snd_candidates (f : Find) (l : Text) (k : Nat) :
    (f.candidates l k).map (·.2) =
      if f.forward then f.side (clusters l) k else (f.side (clusters l) k).reverse := by
  cases hf : f.forward with
  | true => simp [candidates_forward hf, map_snd_withOffsets, side, hf]
  | false => simp [candidates_backward hf, map_snd_withOffsets, side, hf]

/-- The hits that come before a cluster. -/
theorem countP_take_candidates (hk : k ≤ (clusters l).length) {j i : Nat} (h : f.IsAway k j i) :
    ((f.candidates l k).take j).countP (f.hits ·.2) =
      (f.between (clusters l) k i).countP f.hits := by
  have hmap : ((f.candidates l k).take j).countP (f.hits ·.2) =
      (((f.candidates l k).map (·.2)).take j).countP f.hits := by
    rw [← List.map_take, List.countP_map]
    rfl
  rw [hmap, map_snd_candidates]
  cases hf : f.forward with
  | true =>
    obtain rfl : i = k + 1 + j := by simpa [IsAway, hf] using h
    simp [side, between, hf, List.drop_take]
  | false =>
    obtain rfl : i + 1 + j = k := by simpa [IsAway, hf] using h
    simp [side, between, hf, List.take_reverse, hk]

/-- The side that is searched is where the clusters at some distance are. -/
theorem beyond_iff {i : Nat} :
    (if f.forward then k < i else i < k) ↔ ∃ j, f.IsAway k j i := by
  cases hf : f.forward with
  | true =>
    simp only [IsAway, hf, if_true]
    exact ⟨fun h => ⟨i - (k + 1), by omega⟩, fun ⟨j, h⟩ => by omega⟩
  | false =>
    simp only [IsAway, hf, Bool.false_eq_true, if_false]
    exact ⟨fun h => ⟨k - (i + 1), by omega⟩, fun ⟨j, h⟩ => by omega⟩

/-! ## What a search finds -/

/-- The search comes to the cluster that is the `n`-th hit on its side, and to no other. -/
theorem target_eq_some_iff (hk : k ≤ (clusters l).length) {n col : Nat} :
    f.target l (offsetAt l k) (n + 1) false = some col ↔
      ∃ i, f.IsNth (clusters l) k (n + 1) i ∧ col = offsetAt l i := by
  simp only [target_eq f hk, Bool.false_and, Bool.false_eq_true, if_false, List.drop_zero,
    Option.map_eq_some_iff, getElem?_filter_iff]
  constructor
  · rintro ⟨x, ⟨j, hx, hhit, hcount⟩, rfl⟩
    obtain ⟨i, g, haway, hg, rfl⟩ := (getElem?_candidates hk).1 hx
    rw [countP_take_candidates hk haway] at hcount
    exact ⟨i, ⟨beyond_iff.2 ⟨j, haway⟩, ⟨g, hg, hhit⟩, by rw [hcount]⟩, rfl⟩
  · rintro ⟨i, ⟨hbeyond, ⟨g, hg, hhit⟩, hcount⟩, rfl⟩
    obtain ⟨j, haway⟩ := beyond_iff.1 hbeyond
    refine ⟨_, ⟨j, (getElem?_candidates hk).2 ⟨i, g, haway, hg, rfl⟩, hhit, ?_⟩, rfl⟩
    rw [countP_take_candidates hk haway]
    exact Nat.succ.inj hcount

/-- The search fails if there are too few hits on its side. -/
theorem target_eq_none_iff (f : Find) (hk : k ≤ (clusters l).length) (n : Nat) :
    f.target l (offsetAt l k) (n + 1) false = none ↔
      (f.side (clusters l) k).countP f.hits < n + 1 := by
  have hcount : ((f.candidates l k).filter (f.hits ·.2)).length =
      (f.side (clusters l) k).countP f.hits := by
    have hmap : (f.candidates l k).countP (f.hits ·.2) =
        ((f.candidates l k).map (·.2)).countP f.hits := by
      rw [List.countP_map]
      rfl
    rw [← List.countP_eq_length_filter, hmap, map_snd_candidates]
    split
    · rfl
    · exact List.countP_reverse
  simp only [target_eq f hk, Bool.false_and, Bool.false_eq_true, if_false, List.drop_zero,
    Option.map_eq_none_iff, List.getElem?_eq_none_iff, hcount]
  omega

/-- A repeated search that stops short of a cluster does not find the neighbour of the cursor: for one
cluster it does not look at it, and for more it goes further. -/
theorem exists_of_target_repeated (hk : k ≤ (clusters l).length) {n col : Nat}
    (h : f.target l (offsetAt l k) (n + 1) true = some col) :
    ∃ i j, f.IsAway k j i ∧ i < (clusters l).length ∧ col = offsetAt l i ∧
      (f.till = true → 0 < j) := by
  simp only [target_eq f hk, Option.map_eq_some_iff, getElem?_filter_iff, Bool.true_and] at h
  obtain ⟨x, ⟨j, hx, -, hcount⟩, rfl⟩ := h
  rw [List.getElem?_drop] at hx
  obtain ⟨i, g, haway, hg, rfl⟩ := (getElem?_candidates hk).1 hx
  refine ⟨i, _, haway, (List.getElem?_eq_some_iff.1 hg).1, rfl, fun htill => ?_⟩
  have hmany : n ≤ j := by
    rw [← hcount]
    exact List.countP_le_length.trans (List.length_take_le _ _)
  cases n with
  | zero => simp [htill, Nat.add_comm 1 j]
  | succ n => omega

/-- From a cluster on the side that is searched the cursor is brought to where it stops. -/
theorem offsetAt_stopAt {i : Nat} (hi : i < (clusters l).length)
    (hbeyond : if f.forward then k < i else i < k) :
    (if f.till then
      if f.forward then prevBoundary l (offsetAt l i) else nextBoundary l (offsetAt l i)
    else offsetAt l i) = offsetAt l (f.stopAt i) := by
  cases htill : f.till with
  | false => simp [stopAt, htill]
  | true =>
    cases hf : f.forward with
    | false =>
      simp only [stopAt, htill, hf, if_true, Bool.false_eq_true, if_false]
      exact nextBoundary_offsetAt (List.getElem?_eq_getElem hi)
    | true =>
      rw [hf, if_pos rfl] at hbeyond
      obtain ⟨m, rfl⟩ := Nat.exists_eq_add_one_of_ne_zero (Nat.ne_zero_of_lt hbeyond)
      simp only [stopAt, htill, hf, if_true, Nat.add_sub_cancel]
      exact prevBoundary_offsetAt (List.getElem?_eq_getElem (Nat.lt_of_succ_lt hi))

/-- The search stops on the hit, or on the cluster short of it. -/
theorem stop_eq_some_iff (hk : k ≤ (clusters l).length) {n col : Nat} :
    f.stop l (offsetAt l k) (n + 1) false = some col ↔
      ∃ i, f.IsNth (clusters l) k (n + 1) i ∧ col = offsetAt l (f.stopAt i) := by
  rw [stop, Option.map_eq_some_iff]
  constructor
  · rintro ⟨at_, htarget, rfl⟩
    obtain ⟨i, hnth, rfl⟩ := (target_eq_some_iff hk).1 htarget
    obtain ⟨g, hg, -⟩ := hnth.hit
    exact ⟨i, hnth, offsetAt_stopAt (List.getElem?_eq_some_iff.1 hg).1 hnth.beyond⟩
  · rintro ⟨i, hnth, rfl⟩
    obtain ⟨g, hg, -⟩ := hnth.hit
    exact ⟨_, (target_eq_some_iff hk).2 ⟨i, hnth, rfl⟩,
      offsetAt_stopAt (List.getElem?_eq_some_iff.1 hg).1 hnth.beyond⟩

/-- Where a search stops makes no difference to whether it finds anything. -/
theorem stop_eq_none_iff (f : Find) (hk : k ≤ (clusters l).length) (n : Nat) :
    f.stop l (offsetAt l k) (n + 1) false = none ↔
      (f.side (clusters l) k).countP f.hits < n + 1 := by
  rw [stop, Option.map_eq_none_iff, target_eq_none_iff f hk]

/-- The cursor stops beyond the place where it was, unless it stops short of its neighbour. -/
theorem IsAway.beyond_stopAt {i j : Nat} (h : f.IsAway k j i) (hfar : f.till = true → 0 < j) :
    if f.forward then k < f.stopAt i else f.stopAt i < k := by
  cases hf : f.forward with
  | true =>
    obtain rfl : i = k + 1 + j := by simpa [IsAway, hf] using h
    simp only [stopAt, hf, if_true]
    split
    · have hpos := hfar ‹_›
      omega
    · omega
  | false =>
    obtain rfl : i + 1 + j = k := by simpa [IsAway, hf] using h
    simp only [stopAt, hf, Bool.false_eq_true, if_false]
    split
    · have hpos := hfar ‹_›
      omega
    · omega

/-- A search that is repeated leaves the place where it started, in its direction. -/
theorem stop_repeated (hk : k ≤ (clusters l).length) {n col : Nat}
    (h : f.stop l (offsetAt l k) (n + 1) true = some col) :
    if f.forward then offsetAt l k < col else col < offsetAt l k := by
  rw [stop, Option.map_eq_some_iff] at h
  obtain ⟨at_, htarget, rfl⟩ := h
  obtain ⟨i, j, haway, hi, rfl, hfar⟩ := exists_of_target_repeated hk htarget
  have hbeyond := beyond_iff.2 ⟨j, haway⟩
  have hstop := haway.beyond_stopAt hfar
  rw [offsetAt_stopAt hi hbeyond]
  cases hf : f.forward with
  | true =>
    rw [hf, if_pos rfl] at hbeyond hstop
    exact offsetAt_lt (hbeyond.trans hi) hstop
  | false =>
    rw [hf, if_neg Bool.false_ne_true] at hstop
    exact offsetAt_lt (hstop.trans_le hk) hstop

end Candidates

end Find

namespace Buffer

variable {b : Buffer} {p : Position} {k n : Nat}
  (hk : k ≤ (clusters (b.line p.row)).length) (hcol : p.col = offsetAt (b.line p.row) k)
  (hn : 0 < n)
include hk hcol hn

/-- A search from a cluster of the line fails if there are too few hits. -/
theorem find_eq_none_iff (f : Find) :
    b.find p f n false = none ↔ (f.side (clusters (b.line p.row)) k).countP f.hits < n := by
  obtain ⟨n, rfl⟩ := Nat.exists_eq_add_one_of_ne_zero hn.ne'
  rw [find, Option.map_eq_none_iff, hcol, Find.stop_eq_none_iff f hk]

/-- A search from a cluster of the line finds a place on its row. -/
theorem find_eq_some_iff {f : Find} {q : Position} :
    b.find p f n false = some q ↔
      ∃ i, f.IsNth (clusters (b.line p.row)) k n i ∧
        q = ⟨p.row, offsetAt (b.line p.row) (f.stopAt i)⟩ := by
  obtain ⟨n, rfl⟩ := Nat.exists_eq_add_one_of_ne_zero hn.ne'
  simp only [find, Option.map_eq_some_iff, hcol, Find.stop_eq_some_iff hk]
  constructor
  · rintro ⟨col, ⟨i, hnth, rfl⟩, rfl⟩
    exact ⟨i, hnth, rfl⟩
  · rintro ⟨i, hnth, rfl⟩
    exact ⟨_, ⟨i, hnth, rfl⟩, rfl⟩

/-- A repeated search moves the cursor, since it skips a hit beside the cursor. -/
theorem find_repeated {f : Find} {q : Position} (h : b.find p f n true = some q) :
    q.row = p.row ∧ if f.forward then p.col < q.col else q.col < p.col := by
  obtain ⟨n, rfl⟩ := Nat.exists_eq_add_one_of_ne_zero hn.ne'
  rw [find, Option.map_eq_some_iff] at h
  obtain ⟨col, hstop, rfl⟩ := h
  rw [hcol] at hstop ⊢
  exact ⟨rfl, Find.stop_repeated hk hstop⟩

end Buffer

namespace Motion

/-- A motion that fails leaves the document as it was. -/
theorem dispatch_of_error {e : Editor} {m : Motion} {count : Option Nat} {reason : EditorError}
    (h : ∀ lastFind, m.land e.document count lastFind false = .error reason) :
    (e.dispatch (.motion m count)).1.document = e.document := by
  have hmove : EditorM.Ensures (EditorM.perform (.motion m count)) e
      (fun _ e' => e'.document = e.document) (fun e' => e'.document = e.document) := by
    refine EditorM.ensures_bind.2 (EditorM.ensures_noteFind m fun lastFind => ?_)
    refine EditorM.ensures_bind.2 (EditorM.ensures_get.2 (EditorM.ensures_bind.2
      (EditorM.ensures_ofExcept.2 ?_)))
    rw [h lastFind]
  rcases Editor.dispatch_cases hmove with ⟨-, hsame⟩ | ⟨-, hsame⟩
  · exact hsame
  · exact hsame

/-- **Searches in the line.** From a cursor on a cluster of its line, or at the end, a search for the
`n`-th cluster that begins with a character lands on the `n`-th such cluster to the right or to the left
of the cursor, or one short of it. It fails exactly when there are fewer, and then the document is left
as it was, the cursor with it. A repetition of a search that lands somewhere, whatever its count, leaves
the place of the cursor in the direction of the search that it stands for. -/
theorem land_find {d : Document} {k : Nat}
    (hk : k ≤ (clusters (d.buffer.line d.cursor.row)).length)
    (hcol : d.cursor.col = offsetAt (d.buffer.line d.cursor.row) k) (f : Find) (count : Option Nat)
    (lastFind : Option Find) (reachEnd : Bool) :
    let l := d.buffer.line d.cursor.row
    let n := max (count.getD 1) 1
    (∀ landing, (Motion.find f).land d count lastFind reachEnd = .ok landing ↔
        ∃ i, f.IsNth (clusters l) k n i ∧
          landing = { place := ⟨d.cursor.row, offsetAt l (f.stopAt i)⟩ }) ∧
      ((Motion.find f).land d count lastFind reachEnd = .error .motionFailed ↔
        (f.side (clusters l) k).countP f.hits < n) ∧
      (∀ e : Editor, e.document = d → (f.side (clusters l) k).countP f.hits < n →
        (e.dispatch (.motion (.find f) count)).1.document = d) ∧
      ∀ reversed landing, again lastFind reversed = some f →
        (Motion.repeatFind reversed).land d count lastFind reachEnd = .ok landing →
        landing.place.row = d.cursor.row ∧
          if f.forward then d.cursor.col < landing.place.col
          else landing.place.col < d.cursor.col := by
  intro l n
  have hn : 0 < n := Nat.lt_of_lt_of_le Nat.zero_lt_one (Nat.le_max_right _ _)
  -- the failure does not depend on the searches before
  have hfails (lastFind : Option Find) (reachEnd : Bool) :
      (Motion.find f).land d count lastFind reachEnd = .error .motionFailed ↔
        (f.side (clusters l) k).countP f.hits < n :=
    landAt_eq_error_iff.trans (Buffer.find_eq_none_iff hk hcol hn f)
  refine ⟨fun landing => ?_, hfails lastFind reachEnd, ?_, fun reversed landing hagain h => ?_⟩
  · refine landAt_eq_ok_iff.trans ?_
    constructor
    · rintro ⟨p, hp, rfl⟩
      obtain ⟨i, hnth, rfl⟩ := (Buffer.find_eq_some_iff hk hcol hn).1 hp
      exact ⟨i, hnth, rfl⟩
    · rintro ⟨i, hnth, rfl⟩
      exact ⟨_, (Buffer.find_eq_some_iff hk hcol hn).2 ⟨i, hnth, rfl⟩, rfl⟩
  -- a motion that fails leaves the document to which it was sent
  · rintro e rfl hfew
    exact dispatch_of_error fun lastFind => (hfails lastFind false).2 hfew
  -- a repetition is the search that it stands for, with a hit beside the cursor skipped
  · have hplace : landAt none ((again lastFind reversed).bind (d.buffer.find d.cursor · n true)) =
        .ok landing := h
    rw [hagain, Option.bind_some] at hplace
    obtain ⟨p, hp, rfl⟩ := landAt_eq_ok_iff.1 hplace
    exact Buffer.find_repeated hk hcol hn hp

/-- A search to the right that stops one short of the second comma, from in front of the first one: it
lands in front of the comma, and so does its repetition, which passes the first comma. There are no four
commas. -/
theorem land_find_commas :
    let d : Document := { buffer := .ofText ['a', ',', 'b', ',', ',', 'c'] }
    let f : Find := { ch := ',', forward := true, till := true }
    let l := d.buffer.line 0
    0 ≤ (clusters l).length ∧ d.cursor.col = offsetAt l 0 ∧
      (Motion.find f).land d (some 2) none false = .ok { place := ⟨0, 2⟩ } ∧
      (∃ i, f.IsNth (clusters l) 0 2 i ∧
        ({ place := ⟨0, 2⟩ } : Landing) = { place := ⟨0, offsetAt l (f.stopAt i)⟩ }) ∧
      (repeatFind false).land d none (some f) false = .ok { place := ⟨0, 2⟩ } ∧
      d.cursor.col < 2 ∧ (f.side (clusters l) 0).countP f.hits < 4 := by
  intro d f l
  have hk : 0 ≤ (clusters l).length := Nat.zero_le _
  have hcol : d.cursor.col = offsetAt l 0 := by decide +kernel
  have hland : (Motion.find f).land d (some 2) none false = .ok { place := ⟨0, 2⟩ } := by
    decide +kernel
  have hagain : (repeatFind false).land d none (some f) false = .ok { place := ⟨0, 2⟩ } := by
    decide +kernel
  have hfails : (Motion.find f).land d (some 4) none false = .error .motionFailed := by
    decide +kernel
  exact ⟨hk, hcol, hland, ((land_find hk hcol f (some 2) none false).1 _).1 hland, hagain,
    ((land_find hk hcol f none (some f) false).2.2.2 false _ rfl hagain).2,
    (land_find hk hcol f (some 4) none false).2.1.1 hfails⟩

end Motion

end ModalEditor
