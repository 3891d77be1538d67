import ModalEditor.Proofs.Motion.Slot
import ModalEditor.Proofs.Text.Cluster

/-!
# Writing over a line

A line of which the cluster at an offset is written over, and what the line is once that is taken back:
the cluster before the cursor is replaced by the one that was written over. Both steps remove a part of
the line and put text in at the cluster boundary that is then next (`rewriteLine`).

The two steps come out even if and only if the text can be read back in its place (`ReadsBack`): the
line without the old cluster is still parted there, and in the new line the text is one cluster, or the
text is the old cluster itself (`takeBack_writeOver_iff`). In all other cases they do not:

* text of several clusters, of which only the last is taken back;
* a mark that joins the cluster before it;
* clusters that join when the one between them is removed.
-/

namespace ModalEditor

open Unicode

/-! ## Boundaries of texts that are put together -/

/-- The boundary in front of an offset is between clusters. -/
theorem parts_prevIn (gs : List Cluster) (n : Nat) : Parts gs (prevIn gs n) := by
  induction gs generalizing n with
  | nil => exact parts_zero []
  | cons g gs ih =>
    rw [prevIn]
    split
    · exact parts_zero (g :: gs)
    · exact (ih _).cons g

/-- It does not lie behind the offset. -/
theorem prevIn_le (gs : List Cluster) (n : Nat) : prevIn gs n ≤ n := by
  induction gs generalizing n with
  | nil => exact Nat.zero_le n
  | cons g gs ih =>
    have hgs := ih (n - byteSize g)
    rw [prevIn]
    split <;> omega

/-- The boundary before the end of a cluster is where it begins. -/
theorem prevIn_append {g : Cluster} (hg : g ≠ []) (before behind : List Cluster) :
    prevIn (before ++ g :: behind) (byteSize before.flatten + byteSize g) =
      byteSize before.flatten := by
  have hpos := byteSize_pos hg
  induction before with
  | nil =>
    rw [List.nil_append, prevIn, if_pos (by simp)]
    rfl
  | cons b before ih =>
    rw [List.flatten_cons, byteSize_append, List.cons_append, prevIn, if_neg (by omega),
      Nat.add_assoc, Nat.add_sub_cancel_left, ih]

/-- The boundary in front of an offset is between clusters of the line. -/
theorem parts_prevBoundary (l : Text) (n : Nat) : Parts (clusters l) (prevBoundary l n) := by
  unfold prevBoundary
  split
  · exact parts_zero _
  · exact parts_prevIn _ _

/-- It does not lie behind the offset, also if the offset is beyond the line. -/
theorem prevBoundary_le (l : Text) (n : Nat) : prevBoundary l n ≤ n := by
  unfold prevBoundary
  split
  · exact Nat.zero_le n
  · exact prevIn_le _ _

/-- The boundary behind an offset is between clusters. -/
theorem parts_nextIn (gs : List Cluster) (n : Nat) : Parts gs (nextIn gs n) := by
  induction gs generalizing n with
  | nil => exact parts_zero []
  | cons g gs ih =>
    rw [nextIn]
    split
    · exact ⟨[g], gs, rfl, by rw [List.flatten_singleton]⟩
    · exact (ih _).cons g

/-- It does not lie in front of the offset, if that is inside the clusters. -/
theorem le_nextIn {gs : List Cluster} {n : Nat} (hn : n ≤ byteSize gs.flatten) :
    n ≤ nextIn gs n := by
  induction gs generalizing n with
  | nil => exact hn
  | cons g gs ih =>
    rw [List.flatten_cons, byteSize_append] at hn
    have hgs := @ih (n - byteSize g)
    rw [nextIn]
    split <;> omega

/-- The boundary behind the beginning of a cluster is where it ends. -/
theorem nextIn_append {g : Cluster} (hg : g ≠ []) (before behind : List Cluster) :
    nextIn (before ++ g :: behind) (byteSize before.flatten) =
      byteSize before.flatten + byteSize g := by
  have hpos := byteSize_pos hg
  induction before with
  | nil =>
    rw [List.nil_append, nextIn, if_pos (by simpa using hpos), List.flatten_nil, byteSize_nil,
      Nat.zero_add]
  | cons b before ih =>
    rw [List.flatten_cons, byteSize_append, List.cons_append, nextIn, if_neg (by omega),
      Nat.add_sub_cancel_left, ih, Nat.add_assoc]

/-- The boundary behind an offset is between clusters of the line. -/
theorem parts_nextBoundary (l : Text) (n : Nat) : Parts (clusters l) (nextBoundary l n) :=
  parts_nextIn _ _

/-- It does not lie in front of the offset, if that is in the line. -/
theorem le_nextBoundary {l : Text} {n : Nat} (hn : n ≤ byteSize l) : n ≤ nextBoundary l n :=
  le_nextIn (by rwa [flatten_clusters])

/-- A place between clusters is in front of the first, or between the others. -/
theorem Parts.of_cons {g : Cluster} {gs : List Cluster} {n : Nat} (h : Parts (g :: gs) n) :
    n = 0 ∨ ∃ m, n = byteSize g + m ∧ Parts gs m := by
  obtain ⟨before, behind, heq, rfl⟩ := h
  cases before with
  | nil => exact .inl rfl
  | cons b before =>
    rw [List.cons_append, List.cons.injEq] at heq
    obtain ⟨rfl, rfl⟩ := heq
    exact .inr ⟨_, by rw [List.flatten_cons, byteSize_append], before, behind, rfl, rfl⟩

/-- A boundary in front of an offset is not behind the greatest one there. -/
theorem le_prevIn {gs : List Cluster} {m n : Nat} (hm : Parts gs m) (hlt : m < n) :
    m ≤ prevIn gs n := by
  induction gs generalizing m n with
  | nil =>
    obtain ⟨before, behind, heq, rfl⟩ := hm
    rw [(List.append_eq_nil_iff.1 heq.symm).1]
    exact Nat.zero_le _
  | cons g gs ih =>
    rcases hm.of_cons with rfl | ⟨m, rfl, hlater⟩
    · exact Nat.zero_le _
    · rw [prevIn, if_neg (by omega)]
      exact Nat.add_le_add_left (ih hlater (by omega)) _

/-- The boundary behind the one before a boundary is that boundary. -/
theorem nextBoundary_prevBoundary {l : Text} {n : Nat} (hn : Parts (clusters l) n) (hpos : 0 < n) :
    nextBoundary l (prevBoundary l n) = n ∧ prevBoundary l n < n := by
  have hinside : ¬ byteSize l < n := Nat.not_lt.2 hn.isCharBoundary.1
  obtain ⟨before, behind, hgs, rfl⟩ := hn
  -- the cluster between the two
  obtain ⟨front, g, rfl⟩ : ∃ front g, before = front ++ [g] := by
    have hne : before ≠ [] := by
      rintro rfl
      exact Nat.lt_irrefl 0 hpos
    exact ⟨_, _, (List.dropLast_concat_getLast hne).symm⟩
  rw [List.append_assoc, List.singleton_append] at hgs
  have hg : g ≠ [] := clusters_ne_nil (t := l) (by rw [hgs]; simp)
  have hsize : byteSize (front ++ [g]).flatten = byteSize front.flatten + byteSize g := by
    rw [List.flatten_append, List.flatten_singleton, byteSize_append]
  have hprev : prevBoundary l (byteSize (front ++ [g]).flatten) = byteSize front.flatten := by
    rw [prevBoundary, if_neg hinside, hgs, hsize, prevIn_append hg]
  rw [hprev, nextBoundary, hgs, nextIn_append hg, hsize]
  exact ⟨rfl, Nat.lt_add_of_pos_right (byteSize_pos hg)⟩

/-- The boundary in front of an offset is the last that there is. -/
theorem le_prevBoundary {l : Text} {m n : Nat} (hm : Parts (clusters l) m) (hlt : m < n)
    (hn : n ≤ byteSize l) : m ≤ prevBoundary l n := by
  rw [prevBoundary, if_neg (Nat.not_lt.2 hn)]
  exact le_prevIn hm hlt

/-- The parts of a text that is cut between clusters are divided on their own. -/
theorem clusters_eq_append {l : Text} {n : Nat} (hn : Parts (clusters l) n) :
    clusters l = clusters (takeBytes l n) ++ clusters (dropBytes l n) := by
  have hsize := byteSize_takeBytes hn.isCharBoundary.2
  have hcut := takeBytes_append_dropBytes l n
  have hparts : Parts (clusters (takeBytes l n ++ dropBytes l n)) (byteSize (takeBytes l n)) := by
    rwa [hcut, hsize]
  have hall := parts_append_iff.1 hparts
  rwa [hcut] at hall

/-- The clusters from one of them on are those of what they are put together. -/
theorem clusters_of_cons {v : Text} {g : Cluster} {gs : List Cluster} (h : clusters v = g :: gs) :
    v = g ++ gs.flatten ∧ clusters gs.flatten = gs := by
  have hv : v = g ++ gs.flatten := by
    rw [← flatten_clusters v, h, List.flatten_cons]
  have hparts : Parts (clusters (g ++ gs.flatten)) (byteSize g) :=
    ⟨[g], gs, by rw [← hv, h]; rfl, by rw [List.flatten_singleton]⟩
  have hall := parts_append_iff.1 hparts
  have hboth : [g] ++ gs = clusters g ++ clusters gs.flatten := by
    rw [← hall, ← hv, h]
    rfl
  have hunique := parts_unique (fun _ hg => clusters_ne_nil (t := v) (h ▸ hg)) hboth
    (by rw [flatten_clusters, List.flatten_singleton])
  exact ⟨hv, hunique.2.symm⟩

/-- The clusters before the last one are those of what they are put together. -/
theorem clusters_eq_concat {l : Text} {gs : List Cluster} {g : Cluster}
    (h : clusters l = gs ++ [g]) : l = gs.flatten ++ g ∧ clusters gs.flatten = gs := by
  have hl : l = gs.flatten ++ g := by
    rw [← flatten_clusters l, h, List.flatten_append, List.flatten_singleton]
  have hparts : Parts (clusters (gs.flatten ++ g)) (byteSize gs.flatten) :=
    ⟨gs, [g], by rw [← hl, h], rfl⟩
  have hboth := h.symm.trans ((congrArg clusters hl).trans (parts_append_iff.1 hparts))
  have hunique := parts_unique (fun _ hg => clusters_ne_nil (t := l) (by rwa [h])) hboth
    (by rw [flatten_clusters])
  exact ⟨hl, hunique.1.symm⟩

/-- A text that ends between clusters, and that is all from the boundary before, is one cluster. -/
theorem prevBoundary_eq_iff {u t v : Text} (ht : t ≠ []) :
    (Parts (clusters (u ++ t ++ v)) (byteSize u + byteSize t) ∧
        prevBoundary (u ++ t ++ v) (byteSize u + byteSize t) = byteSize u) ↔
      clusters (u ++ t ++ v) = clusters u ++ t :: clusters v := by
  have hinside : ¬ byteSize (u ++ t ++ v) < byteSize u + byteSize t := by
    rw [byteSize_append, byteSize_append]
    omega
  rw [prevBoundary, if_neg hinside]
  constructor
  · rintro ⟨hparts, hprev⟩
    rw [← byteSize_append] at hparts
    have hall := parts_append_iff.1 hparts
    -- the text that ends at the place has a last cluster, and the boundary before is in front of it
    obtain ⟨front, last, hfront⟩ : ∃ front last, clusters (u ++ t) = front ++ [last] := by
      have hsome : clusters (u ++ t) ≠ [] := fun hnil => by
        have hflat := flatten_clusters (u ++ t)
        rw [hnil] at hflat
        exact ht (List.append_eq_nil_iff.1 hflat.symm).2
      exact ⟨_, _, (List.dropLast_concat_getLast hsome).symm⟩
    have hlast : last ≠ [] := clusters_ne_nil (t := u ++ t) (by rw [hfront]; simp)
    have hsize : byteSize u + byteSize t = byteSize front.flatten + byteSize last := by
      rw [← byteSize_append, ← flatten_clusters (u ++ t), hfront, List.flatten_append,
        List.flatten_singleton, byteSize_append]
    rw [hall, hfront, List.append_assoc, List.singleton_append, hsize, prevIn_append hlast] at hprev
    -- so `u` ends between clusters as well, and `t` is that last cluster
    have hseam := (parts_append_iff (u := u) (v := t)).1 ⟨front, [last], hfront, hprev⟩
    obtain ⟨rfl, hone⟩ := parts_unique
      (fun _ hg => clusters_ne_nil (t := u ++ t) (by rwa [hfront])) (hfront.symm.trans hseam)
      (by rw [hprev, flatten_clusters])
    have htext : t = last := by
      rw [← flatten_clusters t, ← hone, List.flatten_singleton]
    rw [hall, hfront, htext, List.append_assoc, List.singleton_append]
  · intro hall
    have hflat : byteSize u = byteSize (clusters u).flatten := by rw [flatten_clusters]
    refine ⟨⟨clusters u ++ [t], clusters v, ?_, ?_⟩, ?_⟩
    · rw [hall, List.append_assoc, List.singleton_append]
    · rw [List.flatten_append, byteSize_append, flatten_clusters, List.flatten_singleton]
    · rw [hall, hflat, prevIn_append ht]

/-! ## Replacing a part of a line -/

/-- A line with text in the place of what stands between two offsets, and the offset behind the text.
What is there is removed first, so the text goes to the cluster boundary that is then next. -/
def rewriteLine (l : Text) (first past : Nat) (t : Text) : Text × Nat :=
  if sliceBytes l first past = t then (l, first + byteSize t)
  else
    let rest := takeBytes l first ++ dropBytes l past
    let place := floorBoundary rest first
    (takeBytes rest place ++ t ++ dropBytes rest place, place + byteSize t)

/-- A part of a text is cut out between the sizes of what is before and behind. -/
theorem sliceBytes_append (u s v : Text) :
    sliceBytes (u ++ s ++ v) (byteSize u) (byteSize u + byteSize s) = s := by
  rw [sliceBytes, List.append_assoc, dropBytes_append_byteSize, Nat.add_sub_cancel_left,
    takeBytes_append_byteSize]

/-- What is behind a part of a text. -/
theorem dropBytes_append_append (u s v : Text) :
    dropBytes (u ++ s ++ v) (byteSize u + byteSize s) = v := by
  rw [← byteSize_append, dropBytes_append_byteSize]

/-- Replacing a part by itself leaves the line, and ends behind the part. -/
theorem rewriteLine_self (u s v : Text) :
    rewriteLine (u ++ s ++ v) (byteSize u) (byteSize u + byteSize s) s =
      (u ++ s ++ v, byteSize u + byteSize s) :=
  if_pos (sliceBytes_append u s v)

/-- Replacing a part by another text puts that text where the line is cut, which is a boundary of what
is left. -/
theorem rewriteLine_of_ne {s t : Text} (h : s ≠ t) (u v : Text) :
    rewriteLine (u ++ s ++ v) (byteSize u) (byteSize u + byteSize s) t =
      (takeBytes (u ++ v) (floorBoundary (u ++ v) (byteSize u)) ++ t ++
          dropBytes (u ++ v) (floorBoundary (u ++ v) (byteSize u)),
        floorBoundary (u ++ v) (byteSize u) + byteSize t) := by
  have hdifferent : ¬ sliceBytes (u ++ s ++ v) (byteSize u) (byteSize u + byteSize s) = t := by
    rwa [sliceBytes_append]
  have hfront : takeBytes (u ++ s ++ v) (byteSize u) = u := by
    rw [List.append_assoc, takeBytes_append_byteSize]
  rw [rewriteLine, if_neg hdifferent, hfront, dropBytes_append_append]

/-- A part is replaced in its place if the line without it is parted there. -/
theorem rewriteLine_append {u v : Text} (h : clusters (u ++ v) = clusters u ++ clusters v)
    (s t : Text) :
    rewriteLine (u ++ s ++ v) (byteSize u) (byteSize u + byteSize s) t =
      (u ++ t ++ v, byteSize u + byteSize t) := by
  by_cases hsame : s = t
  · rw [← hsame, rewriteLine_self]
  · have hplace : floorBoundary (u ++ v) (byteSize u) = byteSize u :=
      floorBoundary_of_parts (parts_append_iff.2 h)
    rw [rewriteLine_of_ne hsame, hplace, takeBytes_append_byteSize, dropBytes_append_byteSize]

/-- Replacing a part changes the size of the line by the difference of the texts, wherever the text is
put. -/
theorem byteSize_rewriteLine {l : Text} {first past : Nat} (hfirst : isCharBoundary l first = true)
    (hpast : isCharBoundary l past = true) (hle : first ≤ past) (t : Text) :
    byteSize (rewriteLine l first past t).1 + (past - first) = byteSize l + byteSize t := by
  have hcut := congrArg byteSize (eq_take_slice_drop hfirst hle)
  have hpastCut := congrArg byteSize (takeBytes_append_dropBytes l past)
  rw [byteSize_append, byteSize_append, byteSize_takeBytes hfirst] at hcut
  rw [byteSize_append, byteSize_takeBytes hpast] at hpastCut
  rw [rewriteLine]
  split
  · rename_i hsame
    rw [hsame] at hcut
    dsimp only
    omega
  · dsimp only
    -- the text is put at a boundary of what is left, which need not be the old place
    generalize hrest : takeBytes l first ++ dropBytes l past = rest
    have hsize := congrArg byteSize hrest
    have hwhole := congrArg byteSize
      (takeBytes_append_dropBytes rest (floorBoundary rest first))
    rw [byteSize_append, byteSize_takeBytes hfirst] at hsize
    rw [byteSize_append] at hwhole
    rw [byteSize_append, byteSize_append]
    omega

/-- Texts without line breaks have none together. -/
theorem isLine_append {s t : Text} (hs : IsLine s) (ht : IsLine t) : IsLine (s ++ t) := fun h =>
  (List.mem_append.1 h).elim hs ht

/-- The beginning of a line is a line. -/
theorem isLine_takeBytes {l : Text} (hl : IsLine l) (n : Nat) : IsLine (takeBytes l n) := fun h =>
  hl (mem_of_mem_takeBytes h)

/-- The end of a line is a line. -/
theorem isLine_dropBytes {l : Text} (hl : IsLine l) (n : Nat) : IsLine (dropBytes l n) := fun h =>
  hl (mem_of_mem_dropBytes h)

/-- No characters come from anywhere but the line and the text. -/
theorem mem_rewriteLine {l t : Text} {first past : Nat} {c : Char}
    (h : c ∈ (rewriteLine l first past t).1) : c ∈ l ∨ c ∈ t := by
  rw [rewriteLine] at h
  split at h
  · exact .inl h
  · have hrest (hc : c ∈ takeBytes l first ++ dropBytes l past) : c ∈ l :=
      (List.mem_append.1 hc).elim mem_of_mem_takeBytes mem_of_mem_dropBytes
    rcases List.mem_append.1 h with h | h
    · exact (List.mem_append.1 h).imp_left fun h => hrest (mem_of_mem_takeBytes h)
    · exact .inl (hrest (mem_of_mem_dropBytes h))

/-! ## Writing over and taking back -/

/-- The line and the cursor after text was written over the cluster at an offset, or added where there
is none. -/
def writeOver (l : Text) (n : Nat) (t : Text) : Text × Nat :=
  match clusterAt l n with
  | some old =>
    let new := rewriteLine l n (n + byteSize old) t
    (new.1, floorBoundary new.1 new.2)
  | none => (takeBytes l n ++ t ++ dropBytes l n, n + byteSize t)

/-- The line and the cursor after that is taken back: the cluster that was written over is put in the
place of the one before the cursor, and one that was added is taken out. -/
def takeBack (l : Text) (n : Nat) : Option Cluster → Text × Nat
  | some old =>
    let new := (rewriteLine l (prevBoundary l n) n old).1
    (new, floorBoundary new (prevBoundary l n))
  | none =>
    let new := takeBytes l (prevBoundary l n) ++ dropBytes l n
    (new, floorBoundary new (prevBoundary l n))

/-- Text that is written over the cluster at an offset of a line can be taken back: it is that cluster
itself, or it is one cluster of the new line, and the line is parted there without it. -/
def ReadsBack (l : Text) (n : Nat) (t : Text) : Prop :=
  let before := takeBytes l n
  let under := clusters (dropBytes l n)
  under.head? = some t ∨
    clusters (before ++ under.tail.flatten) = clusters before ++ under.tail ∧
      clusters (before ++ t ++ under.tail.flatten) = clusters before ++ t :: under.tail

instance (l : Text) (n : Nat) (t : Text) : Decidable (ReadsBack l n t) :=
  inferInstanceAs (Decidable (_ ∨ _ ∧ _))

/-- On a cluster the text takes its place, and the cursor is brought to a boundary. -/
theorem writeOver_of_some {l : Text} {n : Nat} {old : Cluster} (h : clusterAt l n = some old)
    (t : Text) :
    writeOver l n t = ((rewriteLine l n (n + byteSize old) t).1,
      floorBoundary (rewriteLine l n (n + byteSize old) t).1
        (rewriteLine l n (n + byteSize old) t).2) := by
  rw [writeOver, h]

/-- Behind the line the text is added. -/
theorem writeOver_of_none {l : Text} {n : Nat} (h : clusterAt l n = none) (t : Text) :
    writeOver l n t = (takeBytes l n ++ t ++ dropBytes l n, n + byteSize t) := by
  rw [writeOver, h]

/-- Writing over takes characters from the line and the text. -/
theorem mem_writeOver {l t : Text} {n : Nat} {c : Char} (h : c ∈ (writeOver l n t).1) :
    c ∈ l ∨ c ∈ t := by
  cases hat : clusterAt l n with
  | some old =>
    rw [writeOver_of_some hat] at h
    exact mem_rewriteLine h
  | none =>
    rw [writeOver_of_none hat] at h
    rcases List.mem_append.1 h with h | h
    · exact (List.mem_append.1 h).imp_left mem_of_mem_takeBytes
    · exact .inl (mem_of_mem_dropBytes h)

/-- Writing over leaves a line. -/
theorem isLine_writeOver {l t : Text} (hl : IsLine l) (ht : IsLine t) (n : Nat) :
    IsLine (writeOver l n t).1 :=
  fun h => (mem_writeOver h).elim hl ht

/-- Taking back leaves a line. -/
theorem isLine_takeBack {l : Text} (hl : IsLine l) (n : Nat) {old : Option Cluster}
    (hold : ∀ s ∈ old, IsLine s) : IsLine (takeBack l n old).1 := by
  cases old with
  | some s => exact fun h => (mem_rewriteLine h).elim hl (hold s rfl)
  | none => exact isLine_append (isLine_takeBytes hl _) (isLine_dropBytes hl n)

/-- The cluster at a place between clusters is the first of the rest. -/
theorem clusterAt_of_parts {l : Text} {n : Nat} (hn : Parts (clusters l) n) :
    clusterAt l n = (clusters (dropBytes l n)).head? :=
  if_pos hn.isCharBoundary.2

/-- The end of the cluster that begins between clusters is between clusters too. -/
theorem Parts.add_clusterAt {l : Text} {n : Nat} (hn : Parts (clusters l) n) {old : Cluster}
    (hold : clusterAt l n = some old) : Parts (clusters l) (n + byteSize old) := by
  rw [clusterAt_of_parts hn] at hold
  obtain ⟨gs, hgs⟩ := List.head?_eq_some_iff.1 hold
  refine ⟨clusters (takeBytes l n) ++ [old], gs, ?_, ?_⟩
  · rw [clusters_eq_append hn, hgs, List.append_assoc, List.singleton_append]
  · rw [List.flatten_append, byteSize_append, flatten_clusters, List.flatten_singleton,
      byteSize_takeBytes hn.isCharBoundary.2]

/-- A cluster of a line is a line. -/
theorem isLine_of_clusterAt {l : Text} (hl : IsLine l) {n : Nat} {old : Cluster}
    (hold : clusterAt l n = some old) : IsLine old := by
  unfold clusterAt at hold
  split at hold
  · intro hbreak
    have hmem := List.mem_flatten_of_mem (List.mem_of_mem_head? hold) hbreak
    rw [flatten_clusters] at hmem
    exact isLine_dropBytes hl n hmem
  · cases hold

/-- The cursor is between clusters afterwards. -/
theorem parts_writeOver {l : Text} {n : Nat} (hn : Parts (clusters l) n) (t : Text) :
    Parts (clusters (writeOver l n t).1) (writeOver l n t).2 := by
  cases hat : clusterAt l n with
  | some old =>
    rw [writeOver_of_some hat]
    exact parts_floorIn _ _
  | none =>
    have hbehind : dropBytes l n = [] := by
      rw [clusterAt_of_parts hn, List.head?_eq_none_iff] at hat
      rw [← flatten_clusters (dropBytes l n), hat]
      rfl
    rw [writeOver_of_none hat, hbehind, List.append_nil]
    refine ⟨clusters (takeBytes l n ++ t), [], (List.append_nil _).symm, ?_⟩
    rw [flatten_clusters, byteSize_append, byteSize_takeBytes hn.isCharBoundary.2]

/-- Text at the end of a line is taken back if it is one cluster there. -/
theorem takeBack_append_iff {u t : Text} (ht : t ≠ []) :
    takeBack (u ++ t) (byteSize u + byteSize t) none = (u, byteSize u) ↔
      clusters (u ++ t) = clusters u ++ [t] := by
  have hend : Parts (clusters (u ++ t)) (byteSize u + byteSize t) := by
    rw [← byteSize_append]
    exact parts_byteSize _
  have hcluster := prevBoundary_eq_iff (u := u) (v := []) ht
  rw [List.append_nil, and_iff_right hend] at hcluster
  have hbehind : dropBytes (u ++ t) (byteSize u + byteSize t) = [] := by
    have hall := dropBytes_append_byteSize (u ++ t) []
    rwa [List.append_nil, byteSize_append] at hall
  rw [takeBack, hbehind, List.append_nil]
  refine Iff.trans ⟨fun heq => ?_, fun hprev => ?_⟩ hcluster
  · have hline := congrArg (byteSize ·.1) heq
    dsimp only at hline
    rwa [byteSize_takeBytes (parts_prevBoundary _ _).isCharBoundary.2] at hline
  · rw [hprev, takeBytes_append_byteSize, floorBoundary_of_parts (parts_byteSize u)]

section

variable {u s t v : Text} (hs : s ≠ []) (ht : t ≠ [])

include ht in
/-- A cluster is put back in its place where the line without it is parted. -/
theorem takeBack_append (hseam : clusters (u ++ v) = clusters u ++ clusters v)
    (hl : clusters (u ++ s ++ v) = clusters u ++ s :: clusters v)
    (hnew : clusters (u ++ t ++ v) = clusters u ++ t :: clusters v) :
    takeBack (u ++ t ++ v) (floorBoundary (u ++ t ++ v) (byteSize u + byteSize t)) (some s) =
      (u ++ s ++ v, byteSize u) := by
  obtain ⟨hparts, hprev⟩ := (prevBoundary_eq_iff ht).2 hnew
  have hstart : floorBoundary (u ++ s ++ v) (byteSize u) = byteSize u :=
    floorBoundary_of_parts ⟨clusters u, s :: clusters v, hl, by rw [flatten_clusters]⟩
  rw [takeBack, floorBoundary_of_parts hparts, hprev, rewriteLine_append hseam]
  dsimp only
  rw [hstart]

include ht in
/-- By the sizes of the line and of the cursor, what is taken back is what was put in, and it was put
in at the cursor. -/
theorem place_eq_of_takeBack {place : Nat} (hle : place ≤ byteSize u) {new : Text}
    (hsize : byteSize new = byteSize u + byteSize v + byteSize t)
    (hback : takeBack new (floorBoundary new (place + byteSize t)) (some s) =
      (u ++ s ++ v, byteSize u)) :
    place = byteSize u ∧ floorBoundary new (place + byteSize t) = byteSize u + byteSize t ∧
      prevBoundary new (byteSize u + byteSize t) = byteSize u := by
  have hpos := byteSize_pos ht
  have hpast : Parts (clusters new) (floorBoundary new (place + byteSize t)) := parts_floorIn _ _
  have hpastLe : floorBoundary new (place + byteSize t) ≤ place + byteSize t := floorIn_le _ _
  -- nothing is used of the place that was come to but that it is a boundary
  generalize floorBoundary new (place + byteSize t) = past at *
  have hprev := parts_prevBoundary new past
  have hprevLe := prevBoundary_le new past
  obtain ⟨hline, hcol⟩ := Prod.mk.inj hback
  have hcolLe : byteSize u ≤ prevBoundary new past := by
    rw [← hcol]
    exact floorIn_le _ _
  -- taking back replaces as much as it puts back, so the sizes tell where it began
  have hbalance := byteSize_rewriteLine hprev.isCharBoundary.2 hpast.isCharBoundary.2 hprevLe s
  rw [hline, hsize, byteSize_append, byteSize_append] at hbalance
  have hpastEq : past = byteSize u + byteSize t := by omega
  refine ⟨by omega, hpastEq, ?_⟩
  rw [← hpastEq]
  omega

include hs in
/-- A cluster that was written over by itself is taken back. -/
theorem takeBack_rewriteLine_self
    (hl : clusters (u ++ s ++ v) = clusters u ++ s :: clusters v) :
    let new := rewriteLine (u ++ s ++ v) (byteSize u) (byteSize u + byteSize s) s
    takeBack new.1 (floorBoundary new.1 new.2) (some s) = (u ++ s ++ v, byteSize u) := by
  intro new
  have hnew : new = (u ++ s ++ v, byteSize u + byteSize s) := rewriteLine_self u s v
  have hstart : floorBoundary (u ++ s ++ v) (byteSize u) = byteSize u :=
    floorBoundary_of_parts ⟨clusters u, s :: clusters v, hl, by rw [flatten_clusters]⟩
  obtain ⟨hparts, hprev⟩ := (prevBoundary_eq_iff hs).2 hl
  rw [hnew, takeBack, floorBoundary_of_parts hparts, hprev, rewriteLine_self]
  dsimp only
  rw [hstart]

include ht in
/-- Another cluster is taken back only if it is one of the new line, and if the line without it is
parted there. -/
theorem clusters_of_takeBack_rewriteLine (hother : s ≠ t) :
    let new := rewriteLine (u ++ s ++ v) (byteSize u) (byteSize u + byteSize s) t
    takeBack new.1 (floorBoundary new.1 new.2) (some s) = (u ++ s ++ v, byteSize u) →
      clusters (u ++ v) = clusters u ++ clusters v ∧
        clusters (u ++ t ++ v) = clusters u ++ t :: clusters v := by
  intro new hback
  have hnew : new = _ := rewriteLine_of_ne hother u v
  have hle : floorBoundary (u ++ v) (byteSize u) ≤ byteSize u := floorIn_le _ _
  have hseam : Parts (clusters (u ++ v)) (floorBoundary (u ++ v) (byteSize u)) := parts_floorIn _ _
  -- the text was put at `place`, in front of the old one or at it
  generalize floorBoundary (u ++ v) (byteSize u) = place at hnew hle hseam
  have hsize : byteSize new.1 = byteSize u + byteSize v + byteSize t := by
    have hwhole := congrArg byteSize (takeBytes_append_dropBytes (u ++ v) place)
    rw [byteSize_append, byteSize_append] at hwhole
    rw [hnew, byteSize_append, byteSize_append]
    omega
  have hpast : new.2 = place + byteSize t := by rw [hnew]
  rw [hpast] at hback
  obtain ⟨hplace, hend, hprev⟩ := place_eq_of_takeBack ht hle hsize hback
  have hparts := parts_floorIn (clusters new.1) (place + byteSize t)
  have hline : new.1 = u ++ t ++ v := by
    rw [hnew, hplace, takeBytes_append_byteSize, dropBytes_append_byteSize]
  -- taking back ended where the line was changed, so `place` is the old place
  rw [hplace] at hseam
  refine ⟨parts_append_iff.1 hseam, (prevBoundary_eq_iff ht).1 ⟨?_, ?_⟩⟩
  · rw [← hline, ← hend]
    exact hparts
  · rw [← hline, hprev]

include hs ht in
/-- What was written over a cluster is taken back if it was that cluster, or if it is a cluster of the
new line and the line without it is parted there. -/
theorem takeBack_rewriteLine_iff (hl : clusters (u ++ s ++ v) = clusters u ++ s :: clusters v) :
    let new := rewriteLine (u ++ s ++ v) (byteSize u) (byteSize u + byteSize s) t
    takeBack new.1 (floorBoundary new.1 new.2) (some s) = (u ++ s ++ v, byteSize u) ↔
      s = t ∨ clusters (u ++ v) = clusters u ++ clusters v ∧
        clusters (u ++ t ++ v) = clusters u ++ t :: clusters v := by
  intro new
  by_cases hsame : s = t
  · subst hsame
    exact iff_of_true (takeBack_rewriteLine_self hs hl) (.inl rfl)
  · rw [or_iff_right hsame]
    refine ⟨clusters_of_takeBack_rewriteLine ht hsame, fun ⟨hseam, hcluster⟩ => ?_⟩
    have hnew : new = _ := rewriteLine_append hseam s t
    rw [hnew]
    exact takeBack_append ht hseam hl hcluster

end

/-- Text that is written over a line is taken back if and only if it reads back there. -/
theorem takeBack_writeOver_iff {l : Text} {n : Nat} (hn : Parts (clusters l) n) {t : Text}
    (ht : t ≠ []) :
    takeBack (writeOver l n t).1 (writeOver l n t).2 (clusterAt l n) = (l, n) ↔
      ReadsBack l n t := by
  obtain ⟨u, r, hl, hu, hr⟩ : ∃ u r, l = u ++ r ∧ takeBytes l n = u ∧ dropBytes l n = r :=
    ⟨_, _, (takeBytes_append_dropBytes l n).symm, rfl, rfl⟩
  have hsize : n = byteSize u := by rw [← hu, byteSize_takeBytes hn.isCharBoundary.2]
  have hclusters : clusters l = clusters u ++ clusters r := by
    rw [← hu, ← hr]
    exact clusters_eq_append hn
  have hat : clusterAt l n = (clusters r).head? := by rw [clusterAt_of_parts hn, hr]
  rw [ReadsBack, hu, hr]
  -- behind the last cluster the text was added; elsewhere it took the place of a cluster
  cases hunder : clusters r with
  | nil =>
    obtain rfl : r = [] := by rw [← flatten_clusters r, hunder]; rfl
    rw [List.append_nil] at hl
    have hnew : writeOver l n t = (u ++ t, byteSize u + byteSize t) := by
      rw [hunder] at hat
      rw [writeOver_of_none hat, hu, hr, List.append_nil, ← hsize]
    have hparts : clusters (u ++ ([] : Text)) = clusters u ++ [] := by
      rw [List.append_nil, List.append_nil]
    have hback := takeBack_append_iff (u := u) ht
    rw [hnew, hat, hunder, hl, hsize]
    simp only [List.head?_nil, reduceCtorEq, false_or, List.tail_nil, List.flatten_nil, hparts,
      true_and]
    rw [List.append_nil]
    exact hback
  | cons s gs =>
    obtain ⟨hrest, hgs⟩ := clusters_of_cons hunder
    have hs : s ≠ [] := clusters_ne_nil (t := r) (by rw [hunder]; exact List.mem_cons_self)
    have hline : l = u ++ s ++ gs.flatten := by rw [hl, hrest, List.append_assoc]
    have hall : clusters (u ++ s ++ gs.flatten) = clusters u ++ s :: clusters gs.flatten := by
      rw [← hline, hclusters, hunder, hgs]
    have hback := takeBack_rewriteLine_iff hs ht hall
    rw [hgs] at hback
    rw [hunder] at hat
    rw [writeOver_of_some hat, hat, hline, hsize]
    simp only [List.head?_cons, Option.some.injEq, List.tail_cons]
    exact hback

/-! ## Characters that stand alone -/

/-- Text that reads back is a cluster of a line. -/
theorem ReadsBack.mem_clusters {l t : Text} {n : Nat} (h : ReadsBack l n t) :
    ∃ new, t ∈ clusters new := by
  rcases h with hsame | ⟨-, hnew⟩
  · exact ⟨_, List.mem_of_mem_head? hsame⟩
  · exact ⟨_, by rw [hnew]; simp⟩

/-- On a line of characters that stand alone every such character reads back. -/
theorem readsBack_of_alone {l : Text} (hl : Alone l) (n : Nat) {c : Char}
    (hc : (graphemeBreak c).isAlone = true) : ReadsBack l n [c] := by
  have hbefore : Alone (takeBytes l n) := fun d hd => hl d (mem_of_mem_takeBytes hd)
  have hunder : Alone (dropBytes l n) := fun d hd => hl d (mem_of_mem_dropBytes hd)
  have htail : Alone (dropBytes l n).tail := fun d hd => hunder d (List.mem_of_mem_tail hd)
  have hone : Alone [c] := fun d hd => List.mem_singleton.1 hd ▸ hc
  have hgs : (clusters (dropBytes l n)).tail = clusters (dropBytes l n).tail := by
    rw [clusters_of_alone hunder, clusters_of_alone htail, List.map_tail]
  refine .inr ?_
  rw [hgs, flatten_clusters, clusters_of_alone (List.forall_mem_append.2 ⟨hbefore, htail⟩),
    clusters_of_alone (List.forall_mem_append.2
      ⟨List.forall_mem_append.2 ⟨hbefore, hone⟩, htail⟩),
    clusters_of_alone hbefore, clusters_of_alone htail]
  simp only [List.map_append, List.append_assoc, List.map_cons, List.singleton_append,
    and_self]

end ModalEditor
