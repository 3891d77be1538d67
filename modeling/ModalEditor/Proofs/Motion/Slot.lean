import Mathlib.Data.List.Range
import ModalEditor.Motion.Word
import ModalEditor.Proofs.Document.Cut

/-!
# The slots of a document

A slot parts the clusters of a row in two (`Slot.between`), and a document has one slot for every way
to do so (`mem_slots_iff`). Two neighbours stand on either side of a cluster or of a line break
(`Buffer.Adjacent`, `isChain_slots`). So the slots ascend from the beginning of the document to its
end, and those in front of one of them are the slots with an earlier place (`takeWhile_slots`,
`dropWhile_slots`).
-/

namespace ModalEditor

/-! ## Parting the clusters of a line -/

/-- A line has clusters if it has characters. -/
theorem isEmpty_clusters (l : Text) : (clusters l).isEmpty = l.isEmpty := by
  have hflat := flatten_clusters l
  cases hgs : clusters l with
  | nil =>
    rw [hgs] at hflat
    rw [← hflat]
    rfl
  | cons g gs =>
    obtain ⟨c, cs, rfl⟩ := List.exists_cons_of_ne_nil (clusters_ne_nil (hgs ▸ List.mem_cons_self))
    rw [hgs] at hflat
    rw [← hflat]
    rfl

/-- The clusters are parted in one way only where the first part has a given size. -/
theorem parts_unique {before behind before' behind' : List Cluster}
    (hne : ∀ g ∈ before ++ behind, g ≠ []) (heq : before ++ behind = before' ++ behind')
    (hsize : byteSize before.flatten = byteSize before'.flatten) :
    before = before' ∧ behind = behind' := by
  -- no cluster is empty, so the sizes of two beginnings tell them apart; by induction on one of them
  induction before generalizing before' with
  | nil =>
    cases before' with
    | nil => exact ⟨rfl, heq⟩
    | cons g' before' =>
      have hpos := byteSize_pos (hne g' (heq ▸ List.mem_cons_self))
      rw [List.flatten_cons, byteSize_append, List.flatten_nil, byteSize_nil] at hsize
      omega
  | cons g before ih =>
    cases before' with
    | nil =>
      have hpos := byteSize_pos (hne g List.mem_cons_self)
      rw [List.flatten_cons, byteSize_append, List.flatten_nil, byteSize_nil] at hsize
      omega
    | cons g' before' =>
      obtain ⟨rfl, hlater⟩ := List.cons.inj heq
      rw [List.flatten_cons, List.flatten_cons, byteSize_append, byteSize_append,
        Nat.add_left_cancel_iff] at hsize
      obtain ⟨rfl, hbehind⟩ := ih (fun h hh => hne h (List.mem_cons_of_mem _ hh)) hlater hsize
      exact ⟨rfl, hbehind⟩

namespace Slot

variable (big : Bool)

/-- The class of the first of the clusters; the end of a line is blank. -/
def headClass : List Cluster → WordClass
  | [] => .blank
  | g :: _ => classify big g

/-- The slot of a row between two parts of its clusters. -/
def between (row : Nat) (before behind : List Cluster) : Slot :=
  ⟨⟨row, byteSize before.flatten⟩, headClass big behind, (before ++ behind).isEmpty⟩

/-- The slots of a row, from the beginning of its clusters to their end. -/
def ofRow (row : Nat) (gs : List Cluster) : List Slot :=
  (List.range (gs.length + 1)).map fun i => between big row (gs.take i) (gs.drop i)

/-- The slots of a row, one in front of each cluster and one behind the last. -/
theorem ofClusters_eq (row : Nat) (before behind : List Cluster) :
    ofClusters big row (before ++ behind).isEmpty (byteSize before.flatten) behind =
      (List.range (behind.length + 1)).map fun i =>
        between big row (before ++ behind.take i) (behind.drop i) := by
  induction behind generalizing before with
  | nil => simp [ofClusters, between, headClass]
  | cons g behind ih =>
    have hnext := ih (before ++ [g])
    rw [List.append_assoc, List.singleton_append, List.flatten_append, byteSize_append,
      List.flatten_singleton] at hnext
    rw [List.length_cons, List.range_succ_eq_map, List.map_cons, List.map_map, ofClusters]
    have hsome : (before ++ g :: behind).isEmpty = false := by simp
    rw [hsome] at hnext ⊢
    rw [hnext]
    simp [between, headClass, Function.comp_def]

/-- They are the slots of the line as a whole. -/
theorem ofClusters_eq_ofRow (row : Nat) (l : Text) :
    ofClusters big row l.isEmpty 0 (clusters l) = ofRow big row (clusters l) := by
  rw [← isEmpty_clusters]
  exact ofClusters_eq big row [] (clusters l)

/-- A slot of a row parts its clusters. -/
theorem mem_ofRow {row : Nat} {gs : List Cluster} {s : Slot} :
    s ∈ ofRow big row gs ↔
      ∃ before behind, gs = before ++ behind ∧ s = between big row before behind := by
  rw [ofRow, List.mem_map]
  constructor
  · rintro ⟨i, -, rfl⟩
    exact ⟨gs.take i, gs.drop i, (List.take_append_drop i gs).symm, rfl⟩
  · rintro ⟨before, behind, rfl, rfl⟩
    refine ⟨before.length, ?_, ?_⟩
    · rw [List.mem_range, List.length_append]
      omega
    · rw [List.take_left, List.drop_left]

/-- The first slot of a row is in front of all its clusters. -/
theorem head?_ofRow (row : Nat) (gs : List Cluster) :
    (ofRow big row gs).head? = some (between big row [] gs) := by
  rw [ofRow, List.range_succ_eq_map, List.map_cons, List.head?_cons, List.take_zero, List.drop_zero]

/-- The last slot of a row is behind all its clusters. -/
theorem getLast?_ofRow (row : Nat) (gs : List Cluster) :
    (ofRow big row gs).getLast? = some (between big row gs []) := by
  rw [ofRow, List.range_succ, List.map_append, List.map_singleton, List.getLast?_concat,
    List.take_length, List.drop_length]

end Slot

namespace Buffer

open Slot

/-- The second slot is directly behind the first: there is a cluster between them, or the break
between two lines. -/
inductive Adjacent (b : Buffer) (big : Bool) : Slot → Slot → Prop
  | cluster {row : Nat} {l : Text} {before behind : List Cluster} {g : Cluster}
      (hl : b.line? row = some l) (hgs : clusters l = before ++ g :: behind) :
      Adjacent b big (between big row before (g :: behind)) (between big row (before ++ [g]) behind)
  | lineBreak {row : Nat} {l m : Text} (hl : b.line? row = some l)
      (hm : b.line? (row + 1) = some m) :
      Adjacent b big (between big row (clusters l) []) (between big (row + 1) [] (clusters m))

variable {b : Buffer} {big : Bool}

/-- The slots of a row are next to each other. -/
theorem isChain_ofRow {row : Nat} {l : Text} (hl : b.line? row = some l) :
    (ofRow big row (clusters l)).IsChain (b.Adjacent big) := by
  rw [ofRow, List.isChain_map, List.isChain_range_succ]
  intro i hi
  rw [List.drop_eq_getElem_cons hi, ← List.take_append_getElem hi]
  refine .cluster hl ?_
  rw [← List.drop_eq_getElem_cons hi, List.take_append_drop]

/-- The slots of the lines from a row on: neighbours are adjacent, the first is at the beginning of
the row, and the last at the end of the document. -/
theorem isChain_ofLines {row : Nat} {l : Text} {ls : List Text}
    (hlines : b.lines.drop row = l :: ls) :
    (Slot.ofLines big row (l :: ls)).IsChain (b.Adjacent big) ∧
      (Slot.ofLines big row (l :: ls)).head? = some (between big row [] (clusters l)) ∧
      ∃ last, b.line? b.lastRow = some last ∧
        (Slot.ofLines big row (l :: ls)).getLast? =
          some (between big b.lastRow (clusters last) []) := by
  have hl : b.line? row = some l := by
    rw [line?, ← List.head?_drop, hlines, List.head?_cons]
  have hrow : (ofRow big row (clusters l)).IsChain (b.Adjacent big) := isChain_ofRow hl
  have hhead := head?_ofRow big row (clusters l)
  have hlast := getLast?_ofRow big row (clusters l)
  have hlater : b.lines.drop (row + 1) = ls := by
    rw [← List.drop_drop, hlines, List.drop_one, List.tail_cons]
  rw [Slot.ofLines, ofClusters_eq_ofRow]
  -- the rows from here on: this one alone, or with its line break in front of the others
  cases ls with
  | nil =>
    have hlength := congrArg List.length hlines
    rw [List.length_drop, List.length_singleton] at hlength
    obtain rfl : row = b.lastRow := by
      rw [lastRow, lineCount]
      omega
    rw [Slot.ofLines, List.append_nil]
    exact ⟨hrow, hhead, l, hl, hlast⟩
  | cons m ls =>
    obtain ⟨hchain, hfirst, last, hlastRow, hend⟩ := isChain_ofLines hlater
    have hm : b.line? (row + 1) = some m := by
      rw [line?, ← List.head?_drop, hlater, List.head?_cons]
    refine ⟨hrow.append hchain fun s hs t ht => ?_, ?_, last, hlastRow, ?_⟩
    · rw [hlast] at hs
      rw [hfirst] at ht
      obtain ⟨rfl, rfl⟩ : between big row (clusters l) [] = s ∧
          between big (row + 1) [] (clusters m) = t := ⟨Option.some.inj hs, Option.some.inj ht⟩
      exact .lineBreak hl hm
    · rw [List.head?_append, hhead, Option.some_or]
    · rw [List.getLast?_append, hend, Option.some_or]

variable (b big)

/-- Neighbours among the slots are adjacent; the first slot is at the beginning of the document, and
the last at its end. -/
theorem isChain_slots :
    (b.slots big).IsChain (b.Adjacent big) ∧
      (∃ l, b.line? 0 = some l ∧ (b.slots big).head? = some (between big 0 [] (clusters l))) ∧
      ∃ l, b.line? b.lastRow = some l ∧
        (b.slots big).getLast? = some (between big b.lastRow (clusters l) []) := by
  obtain ⟨l, ls, hlines⟩ := List.exists_cons_of_ne_nil b.lines_ne_nil
  have hdrop : b.lines.drop 0 = l :: ls := hlines
  obtain ⟨hchain, hfirst, hlast⟩ := isChain_ofLines hdrop
  rw [slots, hlines]
  refine ⟨hchain, ⟨l, ?_, hfirst⟩, hlast⟩
  rw [line?, hlines, List.getElem?_cons_zero]

variable {b big}

/-- A slot of some rows is a slot of one of them. -/
theorem mem_ofLines {row : Nat} {ls : List Text} {s : Slot} :
    s ∈ Slot.ofLines big row ls ↔
      ∃ i l, ls[i]? = some l ∧ s ∈ ofRow big (row + i) (clusters l) := by
  induction ls generalizing row with
  | nil => simp [Slot.ofLines]
  | cons l ls ih =>
    rw [Slot.ofLines, List.mem_append, ofClusters_eq_ofRow, ih]
    constructor
    · rintro (hs | ⟨i, m, hm, hs⟩)
      · exact ⟨0, l, rfl, hs⟩
      · exact ⟨i + 1, m, hm, by rwa [← Nat.add_assoc, Nat.add_right_comm]⟩
    · rintro ⟨i, m, hm, hs⟩
      cases i with
      | zero =>
        obtain rfl : l = m := Option.some.inj hm
        exact .inl hs
      | succ i => exact .inr ⟨i, m, hm, by rwa [Nat.add_right_comm, Nat.add_assoc]⟩

/-- There is a slot for every way to part the clusters of a row. -/
theorem mem_slots_iff {s : Slot} :
    s ∈ b.slots big ↔ ∃ row l before behind, b.line? row = some l ∧
      clusters l = before ++ behind ∧ s = between big row before behind := by
  simp only [slots, mem_ofLines, mem_ofRow, Nat.zero_add, line?]
  constructor
  · rintro ⟨row, l, hl, before, behind, hgs, hs⟩
    exact ⟨row, l, before, behind, hl, hgs, hs⟩
  · rintro ⟨row, l, before, behind, hl, hgs, hs⟩
    exact ⟨row, l, hl, before, behind, hgs, hs⟩

/-! ## Places -/

/-- Of two slots next to each other the first has the smaller place. -/
theorem Adjacent.place_lt {s t : Slot} (h : b.Adjacent big s t) : s.place < t.place := by
  cases h with
  | @cluster row l before behind g hl hgs =>
    have hg : g ∈ clusters l := by
      rw [hgs]
      exact List.mem_append_right _ List.mem_cons_self
    have hpos : 0 < byteSize g := byteSize_pos (clusters_ne_nil hg)
    refine .inr ⟨rfl, ?_⟩
    show byteSize before.flatten < byteSize (before ++ [g]).flatten
    rw [List.flatten_append, byteSize_append, List.flatten_singleton]
    omega
  | @lineBreak row l m hl hm => exact .inl (Nat.lt_succ_self row)

/-- So the slots of a buffer are in the order of their places. -/
theorem pairwise_slots (b : Buffer) (big : Bool) :
    (b.slots big).Pairwise fun s t => s.place < t.place := by
  have : Trans (fun s t : Slot => s.place < t.place) (fun s t : Slot => s.place < t.place)
      (fun s t : Slot => s.place < t.place) := ⟨Position.lt_trans⟩
  exact ((b.isChain_slots big).1.imp fun _ _ h => h.place_lt).pairwise

/-- The nearest place of a place on a cluster boundary of its row is that place. -/
theorem clamp_eq_self_iff {p : Position} :
    b.clamp p = p ↔ ∃ l, b.line? p.row = some l ∧ Parts (clusters l) p.col := by
  constructor
  · intro hp
    obtain ⟨hrow, hparts⟩ := parts_of_clamp hp
    exact ⟨_, getElem?_lines hrow, hparts⟩
  · rintro ⟨l, hl, hparts⟩
    have hrow : p.row < b.lineCount := (List.getElem?_eq_some_iff.1 hl).1
    have hline : b.line p.row = l := by rw [line, hl, Option.getD_some]
    exact clamp_of_parts hrow (hline ▸ hparts)

/-- The places of the slots are the cluster boundaries. -/
theorem exists_slot_iff {p : Position} :
    (∃ s ∈ b.slots big, s.place = p) ↔ b.clamp p = p := by
  rw [clamp_eq_self_iff]
  constructor
  · rintro ⟨s, hs, rfl⟩
    obtain ⟨row, l, before, behind, hl, hgs, rfl⟩ := mem_slots_iff.1 hs
    exact ⟨l, hl, before, behind, hgs, rfl⟩
  · rintro ⟨l, hl, before, behind, hgs, hsize⟩
    refine ⟨between big p.row before behind, mem_slots_iff.2 ⟨_, l, before, behind, hl, hgs, rfl⟩,
      ?_⟩
    rw [between, hsize]

section Around

variable {before later : List Slot} {s : Slot} (hslots : b.slots big = before ++ s :: later)
include hslots

/-- The slots in front of one have smaller places. -/
theorem place_lt_of_mem_before {t : Slot} (ht : t ∈ before) : t.place < s.place := by
  have hpairs := b.pairwise_slots big
  rw [hslots] at hpairs
  exact (List.pairwise_append.1 hpairs).2.2 t ht s List.mem_cons_self

/-- The slots before a place, and those from there on. -/
theorem dropWhile_slots : (b.slots big).dropWhile (·.place < s.place) = s :: later := by
  rw [hslots, List.dropWhile_append_of_pos fun t ht =>
    decide_eq_true (place_lt_of_mem_before hslots ht)]
  exact List.dropWhile_cons_of_neg (by simp [Position.lt_irrefl])

/-- They are all that have. -/
theorem takeWhile_slots : (b.slots big).takeWhile (·.place < s.place) = before := by
  rw [hslots, List.takeWhile_append_of_pos fun t ht =>
    decide_eq_true (place_lt_of_mem_before hslots ht)]
  rw [List.takeWhile_cons_of_neg (by simp [Position.lt_irrefl]), List.append_nil]

end Around

end Buffer

end ModalEditor
