import ModalEditor.Proofs.Text.Boundary

/-!
# Clusters begin anew

Where a character does not belong to the cluster before it, the clusters of the rest are those of the
rest alone (`clustersAfter_append`): the rules that look further back than one character ask for a
sequence in which no cluster ends.

The memory of the rules remembers such a sequence only behind a character that may go on with it
(`BreakMemory.Coherent`), which takes that the tables of character classes fit together
(`isControl_of_isPictograph`, `conjunctPart_cases`). Where a character does not belong to the cluster
before, the memory after it is therefore the same as at the start of a text
(`BreakMemory.Coherent.after_of_holds_eq_false`).
-/

namespace ModalEditor

namespace Unicode

/-! ## Tables that fit together -/

/-- No code point is in ranges of both lists. -/
def Ranges.Disjoint (r s : Ranges) : Prop :=
  ∀ p ∈ r, ∀ q ∈ s, p.2 < q.1 ∨ q.2 < p.1

instance (r s : Ranges) : Decidable (r.Disjoint s) :=
  inferInstanceAs (Decidable (∀ p ∈ r, ∀ q ∈ s, p.2 < q.1 ∨ q.2 < p.1))

theorem Ranges.Disjoint.contains_eq_false {r s : Ranges} (h : r.Disjoint s) {n : Nat}
    (hr : r.contains n = true) : s.contains n = false := by
  refine Bool.eq_false_iff.2 fun hs => ?_
  obtain ⟨p, hp, hpn⟩ := exists_of_contains hr
  obtain ⟨q, hq, hqn⟩ := exists_of_contains hs
  have hapart := h p hp q hq
  omega

/-- The classes that no cluster goes on behind, but for a line feed behind a carriage return. -/
def GraphemeBreak.isControl : GraphemeBreak → Bool
  | .control | .carriageReturn | .lineFeed => true
  | _ => false

/-- The classes of marks, which belong to the cluster before unless that is a control. -/
def GraphemeBreak.isMark : GraphemeBreak → Bool
  | .extend | .zeroWidthJoiner => true
  | _ => false

theorem isControl_eq_false {c : Char} (hc : controlRanges.contains c.toNat = false)
    (hn : 0x80 ≤ c.toNat) : (graphemeBreak c).isControl = false := by
  have hcr : c.toNat ≠ 0x0D := by omega
  have hlf : c.toNat ≠ 0x0A := by omega
  have hlow : ¬ c.toNat < 0x20 := by omega
  have hascii : ¬ c.toNat < 0x7F := by omega
  have hcontrol : ¬ controlRanges.contains c.toNat = true := Bool.eq_false_iff.1 hc
  rw [graphemeBreak, if_neg hcr, if_neg hlf, if_neg hlow, if_neg hascii, if_neg hcontrol]
  simp only [apply_ite GraphemeBreak.isControl]
  simp only [GraphemeBreak.isControl, ite_self]

/-- The marks lie apart from what is told before them. -/
theorem extendRanges_apart : ∀ p ∈ extendRanges, 0x80 ≤ p.1 ∧ (p.2 < 0xAC00 ∨ 0xD7A3 < p.1) ∧
    (p.2 < 0x1F1E6 ∨ 0x1F1FF < p.1) := by
  decide +kernel

theorem isMark_of_contains_extendRanges {c : Char} (h : extendRanges.contains c.toNat = true) :
    (graphemeBreak c).isMark = true := by
  obtain ⟨p, hp, hpn⟩ := Ranges.exists_of_contains h
  obtain ⟨hlow, hhangul, hflags⟩ := extendRanges_apart p hp
  have hcr : c.toNat ≠ 0x0D := by omega
  have hlf : c.toNat ≠ 0x0A := by omega
  have hspace : ¬ c.toNat < 0x20 := by omega
  have hascii : ¬ c.toNat < 0x7F := by omega
  rw [graphemeBreak, if_neg hcr, if_neg hlf, if_neg hspace, if_neg hascii]
  by_cases hjoiner : c.toNat = 0x200D
  · rw [if_pos hjoiner]
    rfl
  · rw [if_neg hjoiner, if_neg (by omega), if_neg (by omega), if_pos h]
    rfl

theorem isControl_of_isPictograph {c : Char} (h : isPictograph c = true) :
    (graphemeBreak c).isControl = false := by
  rw [isPictograph, Bool.and_eq_true, decide_eq_true_iff] at h
  have hdisjoint : Ranges.Disjoint pictographRanges controlRanges := by decide +kernel
  exact isControl_eq_false (hdisjoint.contains_eq_false h.2) h.1

/-- A character that plays a part in a conjunct is a consonant, and no control, or a mark. -/
theorem conjunctPart_cases (c : Char) :
    conjunctPart c = .outside ∨
      conjunctPart c = .consonant ∧ (graphemeBreak c).isControl = false ∨
      (graphemeBreak c).isMark = true := by
  have hlinkers : ∀ p ∈ conjunctLinkerRanges, p.1 = p.2 ∧ extendRanges.contains p.1 = true := by
    decide +kernel
  have hconsonants : Ranges.Disjoint conjunctConsonantRanges controlRanges := by decide +kernel
  unfold conjunctPart
  -- the cases follow the definition: outside, linker, consonant, extending
  dsimp only
  split
  · exact .inl rfl
  split
  · rename_i hlinker
    obtain ⟨p, hp, hpn⟩ := Ranges.exists_of_contains hlinker
    obtain ⟨hone, hmark⟩ := hlinkers p hp
    have hn : p.1 = c.toNat := by omega
    rw [hn] at hmark
    exact .inr (.inr (isMark_of_contains_extendRanges hmark))
  split
  · rename_i hconsonant
    have hapart := hconsonants.contains_eq_false hconsonant
    exact .inr (.inl ⟨rfl, isControl_eq_false hapart (by omega)⟩)
  split
  · rename_i hextend
    refine .inr (.inr ?_)
    rcases hextend with hjoiner | ⟨-, hmark⟩
    · rw [graphemeBreak, hjoiner]
      rfl
    · exact isMark_of_contains_extendRanges hmark
  · exact .inl rfl

end Unicode

open Unicode

namespace BreakMemory

/-! ## What is remembered -/

/-- A sequence is remembered only behind a character that it may go on behind, and half a flag only
behind a regional indicator. -/
structure Coherent (m : BreakMemory) : Prop where
  sequence : m.emoji ≠ .none ∨ m.conjunct ≠ .none →
    ∃ last, m.last = some last ∧ last.isControl = false
  halfFlag : m.halfFlag = true → m.last = some .regionalIndicator

theorem coherent_start : Coherent {} where
  sequence := by rintro (h | h) <;> exact absurd rfl h
  halfFlag := nofun

variable {m : BreakMemory} {c : Char}

/-- A control ends every sequence. -/
theorem sequence_after (h : (m.after c).emoji ≠ .none ∨ (m.after c).conjunct ≠ .none) :
    (graphemeBreak c).isControl = false := by
  refine Bool.eq_false_iff.2 fun hcontrol => ?_
  have hmark : (graphemeBreak c).isMark = false := by
    revert hcontrol
    cases graphemeBreak c <;> decide
  have hpictograph : isPictograph c = false := Bool.eq_false_iff.2 fun hp => by
    rw [isControl_of_isPictograph hp] at hcontrol
    cases hcontrol
  have houtside : conjunctPart c = .outside := by
    rcases conjunctPart_cases c with houtside | ⟨-, hno⟩ | hyes
    · exact houtside
    · rw [hno] at hcontrol
      cases hcontrol
    · rw [hyes] at hmark
      cases hmark
  -- a control character resets both sequences
  rcases h with hemoji | hconjunct
  · refine hemoji ?_
    rw [after, hpictograph]
    revert hmark
    cases m.emoji <;> cases graphemeBreak c <;> intro h <;> first | rfl | cases h
  · refine hconjunct ?_
    rw [after, houtside]
    cases m.conjunct <;> rfl

theorem coherent_after (m : BreakMemory) (c : Char) : (m.after c).Coherent where
  sequence h := ⟨_, rfl, sequence_after h⟩
  halfFlag h := by
    have hflag : (graphemeBreak c == .regionalIndicator) = true := (Bool.and_eq_true_iff.1 h).1
    exact congrArg some (eq_of_beq hflag)

/-- The memory after the characters of a text. -/
def run (m : BreakMemory) (t : Text) : BreakMemory :=
  t.foldl BreakMemory.after m

/-- A mark belongs to the cluster before, unless that is a control. -/
theorem holds_of_isMark {last : GraphemeBreak} (hlast : m.last = some last)
    (hcontrol : last.isControl = false) (hc : (graphemeBreak c).isMark = true) :
    m.holds c = true := by
  rw [holds, hlast]
  revert hcontrol hc
  cases last <;> cases graphemeBreak c <;> simp [GraphemeBreak.isControl, GraphemeBreak.isMark]

/-- A mark that does not belong to the cluster before finds no sequence that could go on. -/
theorem Coherent.no_sequence (h : m.Coherent) (hc : m.holds c = false)
    (hmark : (graphemeBreak c).isMark = true) : m.emoji = .none ∧ m.conjunct = .none := by
  have hnone : ¬(m.emoji ≠ .none ∨ m.conjunct ≠ .none) := fun hsome => by
    obtain ⟨last, hlast, hcontrol⟩ := h.sequence hsome
    rw [holds_of_isMark hlast hcontrol hmark] at hc
    cases hc
  exact ⟨Decidable.byContradiction fun h => hnone (.inl h),
    Decidable.byContradiction fun h => hnone (.inr h)⟩

/-- Half a flag that does not belong to the cluster before is the first half. -/
theorem Coherent.halfFlag_eq_false (h : m.Coherent) (hc : m.holds c = false)
    (hregional : graphemeBreak c = .regionalIndicator) : m.halfFlag = false := by
  refine Bool.eq_false_iff.2 fun hhalf => ?_
  rw [holds, h.halfFlag hhalf, hregional] at hc
  exact Bool.false_ne_true (hc.symm.trans hhalf)

/-- Where a character does not belong to the cluster before, nothing is remembered beyond it. -/
theorem Coherent.after_of_holds_eq_false (h : m.Coherent) (hc : m.holds c = false) :
    m.after c = BreakMemory.after {} c := by
  -- each part of the memory forgets what stood before a boundary
  have hemoji : (m.after c).emoji = (BreakMemory.after {} c).emoji := by
    rw [after, after]
    dsimp only
    split
    · rfl
    · cases hmark : (graphemeBreak c).isMark with
      | true => rw [(h.no_sequence hc hmark).1]
      | false =>
        revert hmark
        cases m.emoji <;> cases graphemeBreak c <;> intro h <;> first | rfl | cases h
  have hconjunct : (m.after c).conjunct = (BreakMemory.after {} c).conjunct := by
    rw [after, after]
    dsimp only
    rcases conjunctPart_cases c with houtside | ⟨hconsonant, -⟩ | hmark
    · rw [houtside]
      cases m.conjunct <;> rfl
    · rw [hconsonant]
    · rw [(h.no_sequence hc hmark).2]
  have hhalf : (m.after c).halfFlag = (BreakMemory.after {} c).halfFlag := by
    rw [after, after]
    dsimp only
    by_cases hregional : graphemeBreak c = .regionalIndicator
    · rw [h.halfFlag_eq_false hc hregional]
    · rw [beq_false_of_ne hregional, Bool.false_and, Bool.false_and]
  cases hm : m.after c with
  | mk last emoji conjunct halfFlag =>
    rw [hm] at hemoji hconjunct hhalf
    have hlast : last = some (graphemeBreak c) := (congrArg BreakMemory.last hm).symm
    dsimp only at hemoji hconjunct hhalf
    rw [hlast, hemoji, hconjunct, hhalf]
    rfl

end BreakMemory

/-! ## Texts that are put together -/

open BreakMemory

/-- A place of a text, counted from the start of a cluster that goes on: it is the end of that cluster
or of one behind it. -/
def EndsIn (gs : Cluster × List Cluster) (n : Nat) : Prop :=
  ∃ before behind, gs.2 = before ++ behind ∧ byteSize gs.1 + byteSize before.flatten = n

/-- A character that belongs to the cluster before is not the first of a cluster. -/
theorem not_endsIn_of_holds {m : BreakMemory} {u : Text} {c : Char} (v : Text)
    (hc : (m.run u).holds c = true) : ¬ EndsIn (clustersAfter m (u ++ c :: v)) (byteSize u) := by
  induction u generalizing m with
  | nil =>
    rintro ⟨before, behind, -, hsize⟩
    have hpos := c.utf8Size_pos
    have hfirst : m.holds c = true := hc
    rw [List.nil_append, clustersAfter, if_pos hfirst, byteSize_cons, byteSize_nil] at hsize
    omega
  | cons d u ih =>
    rintro ⟨before, behind, heq, hsize⟩
    have hpos := d.utf8Size_pos
    have hlater := ih (m := m.after d) hc
    rw [List.cons_append, clustersAfter] at heq hsize
    split at heq
    · rename_i hd
      rw [if_pos hd, byteSize_cons, byteSize_cons] at hsize
      exact hlater ⟨before, behind, heq, by omega⟩
    -- a cluster closed here is the first one, so the cut is at its end or behind it
    · rename_i hd
      rw [if_neg hd, byteSize_nil, byteSize_cons] at hsize
      cases before with
      | nil =>
        rw [List.flatten_nil, byteSize_nil] at hsize
        omega
      | cons g before =>
        obtain ⟨rfl, hbefore⟩ := List.cons.inj heq
        rw [List.flatten_cons, byteSize_append, byteSize_cons] at hsize
        exact hlater ⟨before, behind, hbefore, by omega⟩

/-- A character that does not belong to the cluster before begins the clusters of the rest anew. -/
theorem clustersAfter_append {m : BreakMemory} (hm : m.Coherent) {u : Text} {c : Char} (v : Text)
    (hc : (m.run u).holds c = false) :
    clustersAfter m (u ++ c :: v) =
      ((clustersAfter m u).1, (clustersAfter m u).2 ++ clusters (c :: v)) := by
  induction u generalizing m with
  | nil =>
    have hno : ¬ m.holds c = true := Bool.eq_false_iff.1 hc
    have hstart : ¬ BreakMemory.holds {} c = true := Bool.false_ne_true
    have hhere : clustersAfter m (c :: v) =
        ([], (c :: (clustersAfter (BreakMemory.after {} c) v).1) ::
          (clustersAfter (BreakMemory.after {} c) v).2) := by
      rw [clustersAfter, if_neg hno, hm.after_of_holds_eq_false hc]
    have hfresh : clusters (c :: v) =
        (c :: (clustersAfter (BreakMemory.after {} c) v).1) ::
          (clustersAfter (BreakMemory.after {} c) v).2 := by
      rw [clusters, clustersAfter, if_neg hstart]
    rw [List.nil_append, hhere, hfresh]
    rfl
  | cons d u ih =>
    have hlater := ih (coherent_after m d) hc
    rw [List.cons_append, clustersAfter, clustersAfter, hlater]
    split <;> rfl

end ModalEditor
