import ModalEditor.Proofs.Text.Restart

/-!
# What is known of clusters

The rules for clusters and the table of widths follow tables of Unicode, and the rest of the library
does not look into them. All that it takes from them is that clusters put together are the text
(`flatten_clusters`), that none is empty (`clusters_ne_nil`) or without a width (`clusterWidth_pos`),
which stand beside the definitions, and the facts of this module:

* `parts_append_iff`: a text may be cut at a place between clusters, and its parts be divided on their
  own;
* `clusters_of_alone` and `ne_cons_cons_of_isAlone`: characters that join no other are clusters, and no
  cluster begins with two of them;
* `graphemeBreak_of_printable` and `clusterWidth_of_printable`: a printable ASCII character is one of
  those, and takes one column.

Most characters join with marks and the like, but not with one another. A sequence that goes on over
such characters would need a joiner or a linker in it, which are marks (`holds_after_eq_false`).
-/

namespace ModalEditor

open Unicode

/-! ## Cutting a text -/

/-- **Clusters begin anew.** A place is between clusters of a text if and only if the clusters are those
of the text in front of it and those of the text behind it. -/
theorem parts_append_iff {u v : Text} :
    Parts (clusters (u ++ v)) (byteSize u) ↔ clusters (u ++ v) = clusters u ++ clusters v := by
  constructor
  · rintro ⟨before, behind, heq, hsize⟩
    cases v with
    | nil => rw [List.append_nil]; exact (List.append_nil _).symm
    -- the characters behind the cut decide: if the memory at the cut holds the first of them, no
    -- cluster ends there
    | cons c v =>
      cases hc : (BreakMemory.run {} u).holds c with
      | true =>
        have hstart : (clustersAfter {} (u ++ c :: v)).1 = [] := clustersAfter_start _
        have hends : EndsIn (clustersAfter {} (u ++ c :: v)) (byteSize u) :=
          ⟨before, behind, heq, by rw [hstart, byteSize_nil, Nat.zero_add, hsize]⟩
        exact absurd hends (not_endsIn_of_holds v hc)
      | false => exact congrArg Prod.snd (clustersAfter_append BreakMemory.coherent_start v hc)
  · intro heq
    exact ⟨clusters u, clusters v, heq, by rw [flatten_clusters]⟩

/-! ## Characters that stand alone -/

/-- The classes of which no character joins another. -/
def Unicode.GraphemeBreak.isAlone : GraphemeBreak → Bool
  | .other | .control => true
  | _ => false

/-- Every character of the text is of a class that does not join. -/
def Alone (t : Text) : Prop :=
  ∀ c ∈ t, (graphemeBreak c).isAlone = true

instance (t : Text) : Decidable (Alone t) :=
  List.decidableBAll _ t

/-- A line break is no such character. -/
theorem Alone.isLine {t : Text} (h : Alone t) : IsLine t := fun hbreak => by
  have hclass : (graphemeBreak '\n').isAlone = false := by decide
  rw [h '\n' hbreak] at hclass
  cases hclass

variable {c d : Char}

theorem conjunctPart_of_isAlone (h : (graphemeBreak c).isAlone = true) :
    conjunctPart c = .outside ∨ conjunctPart c = .consonant := by
  rcases conjunctPart_cases c with houtside | ⟨hconsonant, -⟩ | hmark
  · exact .inl houtside
  · exact .inr hconsonant
  · exfalso
    revert h hmark
    cases graphemeBreak c <;> decide

/-- No sequence is about to go on behind a character that stands alone. -/
theorem after_of_isAlone (m : BreakMemory) (h : (graphemeBreak c).isAlone = true) :
    (m.after c).emoji ≠ .joiner ∧ (m.after c).conjunct ≠ .linked := by
  rw [BreakMemory.after]
  dsimp only
  refine ⟨?_, ?_⟩
  · split
    · decide
    · revert h
      cases m.emoji <;> cases graphemeBreak c <;> decide
  · rcases conjunctPart_of_isAlone h with hpart | hpart <;> rw [hpart] <;>
      cases m.conjunct <;> decide

theorem holds_after_eq_false (m : BreakMemory) (hc : (graphemeBreak c).isAlone = true)
    (hd : (graphemeBreak d).isAlone = true) : (m.after c).holds d = false := by
  obtain ⟨hemoji, hconjunct⟩ := after_of_isAlone m hc
  have hlast : (m.after c).last = some (graphemeBreak c) := rfl
  rw [BreakMemory.holds, hlast, beq_false_of_ne hemoji, beq_false_of_ne hconjunct]
  revert hc hd
  cases graphemeBreak c <;> cases graphemeBreak d <;> simp [GraphemeBreak.isAlone]

theorem clustersAfter_of_alone (m : BreakMemory) (hc : (graphemeBreak c).isAlone = true) {t : Text}
    (ht : Alone t) : clustersAfter (m.after c) t = ([], t.map fun d => [d]) := by
  induction t generalizing m c with
  | nil => rfl
  | cons d t ih =>
    obtain ⟨hd, hlater⟩ := List.forall_mem_cons.1 ht
    have hno : ¬ (m.after c).holds d = true := by
      rw [holds_after_eq_false m hc hd]
      exact Bool.false_ne_true
    rw [clustersAfter, if_neg hno, ih _ hd hlater]
    rfl

/-- Characters that stand alone are clusters. -/
theorem clusters_of_alone {t : Text} (ht : Alone t) : clusters t = t.map fun c => [c] := by
  cases t with
  | nil => rfl
  | cons c t =>
    obtain ⟨hc, hlater⟩ := List.forall_mem_cons.1 ht
    have hno : ¬ BreakMemory.holds {} c = true := Bool.false_ne_true
    rw [clusters, clustersAfter, if_neg hno, clustersAfter_of_alone _ hc hlater]
    rfl

/-- No cluster begins with two characters that stand alone. -/
theorem ne_cons_cons_of_isAlone (hc : (graphemeBreak c).isAlone = true)
    (hd : (graphemeBreak d).isAlone = true) {m : BreakMemory} {t : Text} {g : Cluster}
    (h : g ∈ (clustersAfter m t).2) (s : Text) : g ≠ c :: d :: s := by
  induction t generalizing m with
  | nil => cases h
  | cons b t ih =>
    rw [clustersAfter] at h
    -- a cluster that begins with the pair needs the second to be held after the first, which it is not
    split at h
    · exact ih h
    · rcases List.mem_cons.1 h with rfl | h
      · intro heq
        obtain ⟨rfl, hrest⟩ := List.cons.inj heq
        cases t with
        | nil => cases hrest
        | cons b' t =>
          rw [clustersAfter] at hrest
          split at hrest
          · rename_i hholds
            obtain ⟨rfl, -⟩ := List.cons.inj hrest
            rw [holds_after_eq_false m hc hd] at hholds
            cases hholds
          · cases hrest
      · exact ih h

/-! ## Printable characters -/

section Char

variable {c : Char} (hc : ' ' ≤ c ∧ c ≤ '~')
include hc

theorem toNat_of_printable : 0x20 ≤ c.toNat ∧ c.toNat ≤ 0x7E := hc

theorem utf8Size_of_printable : c.utf8Size = 1 :=
  Char.utf8Size_eq_one_iff.2 (UInt32.le_trans hc.2 (by decide))

theorem graphemeBreak_of_printable : graphemeBreak c = .other := by
  obtain ⟨hge, hle⟩ := toNat_of_printable hc
  rw [graphemeBreak, if_neg (by omega), if_neg (by omega), if_neg (by omega), if_pos (by omega)]

theorem clusterWidth_of_printable : clusterWidth [c] = 1 := by
  obtain ⟨-, hle⟩ := toNat_of_printable hc
  have hcell : cellWidth c = 1 := if_pos (by omega)
  have hselectors : ¬ c.toNat = 0xFE0F ∧ ¬ c.toNat = 0xFE0E := by omega
  have hcells : (cellsFrom [c]).1 = 1 := by
    simp only [cellsFrom, placeBefore, if_neg hselectors.1, if_neg hselectors.2, placeJoining,
      placeAlone, hcell]
  rw [clusterWidth, hcells]
  rfl

end Char

end ModalEditor
