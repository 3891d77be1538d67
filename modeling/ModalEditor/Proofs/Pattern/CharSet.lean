import ModalEditor.Pattern.CharSet

/-!
# Sets that disregard case

A set up to case holds the characters that are the same up to case as a member of the set
(`CharSet.mem_upToCase_iff`). It is decided by going through the variants of a character, and these are
the characters with its folding (`Unicode.mem_caseVariants_iff`).

Folding is read from runs of code points, and the variants are found by reading the runs backwards. So
this takes facts on the table: each run folds to characters, and what it folds to is in no run
(`foldRuns_apart`), that is, folding is done once and for all (`Unicode.foldCase_foldCase`).
-/

namespace ModalEditor

namespace Unicode

/-! ## The table of runs -/

namespace FoldRun

/-- Is the code point in the run? -/
def has (r : FoldRun) (n : Nat) : Bool :=
  r.first ≤ n && n ≤ r.last && (n - r.first) % r.step == 0

/-- What the first code point of the run folds to. -/
def image (r : FoldRun) : Nat :=
  (r.first + r.offset).toNat

/-- What the first run folds to is not in the second: it lies in front of it, or behind it, or, where
both go in steps of two, between its code points. -/
def apart (r r' : FoldRun) : Bool :=
  Nat.blt (r.image + (r.last - r.first)) r'.first || Nat.blt r'.last r.image ||
    ((Nat.beq r.step 2 || Nat.beq r.first r.last) && Nat.beq r'.step 2 &&
      Nat.beq ((r.image + r'.first) % 2) 1)

/-- What is asked of a run on its own: it lies above ASCII, and folds to characters that are above ASCII as
well or to one that is no capital. -/
structure Sound (r : FoldRun) : Prop where
  first : 0x80 ≤ r.first
  image : 0 ≤ r.first + r.offset
  valid : r.image + (r.last - r.first) < 0xD800 ∨
    0xDFFF < r.image ∧ r.image + (r.last - r.first) < 0x110000
  small : 0x80 ≤ r.image ∨ r.first = r.last ∧ (Char.ofNat r.image).toLower = Char.ofNat r.image

instance (r : FoldRun) : Decidable r.Sound :=
  decidable_of_iff (0x80 ≤ r.first ∧ 0 ≤ r.first + r.offset ∧
    (r.image + (r.last - r.first) < 0xD800 ∨
      0xDFFF < r.image ∧ r.image + (r.last - r.first) < 0x110000) ∧
    (0x80 ≤ r.image ∨ r.first = r.last ∧ (Char.ofNat r.image).toLower = Char.ofNat r.image))
    ⟨fun ⟨h, h', h'', h'''⟩ => ⟨h, h', h'', h'''⟩, fun h => ⟨h.first, h.image, h.valid, h.small⟩⟩

end FoldRun

/-- Every run of the table passes the check. -/
theorem foldRuns_sound : ∀ r ∈ foldRuns, r.Sound := by
  decide +kernel

/-- No run folds to a code point of a run. -/
theorem foldRuns_apart : (foldRuns.all fun r => foldRuns.all r.apart) = true := by
  decide +kernel

namespace FoldRun

variable {r r' : FoldRun} {n : Nat}

/-- The members of a run, by number. -/
theorem has_iff : r.has n = true ↔ r.first ≤ n ∧ n ≤ r.last ∧ (n - r.first) % r.step = 0 := by
  simp only [has, Bool.and_eq_true, decide_eq_true_eq, beq_iff_eq, and_assoc]

/-- A run moves its code points by one offset. -/
theorem Sound.toNat_add_offset (h : r.Sound) (hn : r.has n = true) :
    (n + r.offset).toNat = r.image + (n - r.first) := by
  have hfirst := h.image
  have hle := (has_iff.1 hn).1
  simp only [FoldRun.image]
  omega

/-- The image of a member is a character. -/
theorem Sound.isValidChar (h : r.Sound) (hn : r.has n = true) :
    (r.image + (n - r.first)).isValidChar := by
  have hvalid := h.valid
  have hle := (has_iff.1 hn).2.1
  rw [Nat.isValidChar]
  omega

/-- The image of a member is in no run that the check calls apart. -/
theorem has_eq_false (hapart : r.apart r' = true) (hn : r.has n = true) :
    r'.has (r.image + (n - r.first)) = false := by
  obtain ⟨hfirst, hlast, hstep⟩ := has_iff.1 hn
  refine Bool.eq_false_iff.2 fun hhas => ?_
  obtain ⟨hfirst', hlast', hstep'⟩ := has_iff.1 hhas
  simp only [apart, Nat.blt_eq, Bool.or_eq_true, Bool.and_eq_true, Nat.beq_eq] at hapart
  rcases hapart with (hfront | hbehind) | ⟨⟨htwo, htwo'⟩, hparity⟩
  · omega
  · omega
  · rw [htwo'] at hstep'
    rcases htwo with htwo | hone
    · rw [htwo] at hstep
      omega
    · omega

end FoldRun

/-! ## Folding -/

/-- The letters of ASCII fold within ASCII, and back by the capital. -/
theorem toLower_ascii : ∀ n < 0x80, (Char.ofNat n).toLower.toNat < 0x80 ∧
    (Char.ofNat n).toLower.toLower = (Char.ofNat n).toLower ∧
    ((Char.ofNat n).toLower = Char.ofNat n ∨
      (Char.ofNat n).toLower.toUpper = Char.ofNat n) := by
  decide +kernel

/-- Among the ASCII characters, folding is lowercasing. -/
theorem toLower_of_lt {c : Char} (hc : c.toNat < 0x80) : c.toLower.toNat < 0x80 ∧
    c.toLower.toLower = c.toLower ∧ (c.toLower = c ∨ c.toLower.toUpper = c) := by
  have h := toLower_ascii c.toNat hc
  rwa [Char.ofNat_toNat] at h

/-- How a character folds: as a letter of ASCII, by its run, or not at all. -/
theorem foldCase_cases (c : Char) :
    c.toNat < 0x80 ∧ foldCase c = c.toLower ∨
      (∃ r ∈ foldRuns, 0x80 ≤ c.toNat ∧ r.has c.toNat = true ∧
        foldCase c = Char.ofNat (r.image + (c.toNat - r.first))) ∨
      foldCase c = c := by
  rw [foldCase]
  split
  · exact .inl ⟨‹_›, rfl⟩
  · refine .inr ?_
    split
    · rename_i hlarge _ r hr
      have hmem := List.mem_of_find?_eq_some hr
      have hhas : r.has c.toNat = true := (List.find?_some hr :)
      refine .inl ⟨r, hmem, Nat.not_lt.1 hlarge, hhas, ?_⟩
      rw [(foldRuns_sound r hmem).toNat_add_offset hhas]
    · exact .inr rfl

/-- A valid number is that of its character. -/
theorem toNat_ofNat_of_valid {n : Nat} (h : n.isValidChar) : (Char.ofNat n).toNat = n := by
  rw [Char.ofNat, dif_pos h]
  rfl

/-- An ASCII character folds to its lower case. -/
theorem foldCase_of_lt {c : Char} (hc : c.toNat < 0x80) : foldCase c = c.toLower :=
  if_pos hc

/-- A character in no run folds to itself. -/
theorem foldCase_of_not_has {c : Char} (hc : 0x80 ≤ c.toNat)
    (h : ∀ r ∈ foldRuns, r.has c.toNat = false) : foldCase c = c := by
  rcases foldCase_cases c with ⟨hlt, -⟩ | ⟨r, hr, -, hhas, -⟩ | hsame
  · omega
  · rw [h r hr] at hhas
    cases hhas
  · exact hsame

/-- What a run folds to folds to itself. -/
theorem foldCase_ofNat {r : FoldRun} (hr : r ∈ foldRuns) {n : Nat} (hn : r.has n = true) :
    foldCase (Char.ofNat (r.image + (n - r.first))) = Char.ofNat (r.image + (n - r.first)) := by
  have hsound := foldRuns_sound r hr
  have htoNat := toNat_ofNat_of_valid (hsound.isValidChar hn)
  rcases Nat.lt_or_ge (r.image + (n - r.first)) 0x80 with hsmall | hlarge
  · -- only a run of one code point folds to ASCII
    obtain ⟨hone, hlower⟩ := hsound.small.resolve_left (by omega)
    obtain ⟨hfirst, hlast, -⟩ := FoldRun.has_iff.1 hn
    have himage : r.image + (n - r.first) = r.image := by omega
    rw [himage] at htoNat hsmall ⊢
    rw [foldCase_of_lt (by rwa [htoNat]), hlower]
  · refine foldCase_of_not_has (by rwa [htoNat]) fun r' hr' => ?_
    have hapart := List.all_eq_true.1 (List.all_eq_true.1 foldRuns_apart r hr) r' hr'
    rw [htoNat]
    exact FoldRun.has_eq_false hapart hn

/-- Folding is done once and for all. -/
theorem foldCase_foldCase (c : Char) : foldCase (foldCase c) = foldCase c := by
  rcases foldCase_cases c with ⟨hlt, hlower⟩ | ⟨r, hr, -, hhas, hrun⟩ | hsame
  · obtain ⟨hsmall, htwice, -⟩ := toLower_of_lt hlt
    rw [hlower, foldCase_of_lt hsmall, htwice]
  · rw [hrun, foldCase_ofNat hr hhas]
  · rw [hsame, hsame]

/-! ## Variants -/

/-- A run is read backwards from what its code points fold to. -/
theorem unfold_eq_some {r : FoldRun} (hr : r ∈ foldRuns) {n : Nat} (hn : r.has n = true) :
    r.unfold (r.image + (n - r.first)) = some n := by
  have hmove := (foldRuns_sound r hr).toNat_add_offset hn
  have hback : ((r.image + (n - r.first) : Nat) - r.offset).toNat = n := by
    have himage := (foldRuns_sound r hr).image
    have hle := (FoldRun.has_iff.1 hn).1
    rw [← hmove]
    omega
  rw [FoldRun.unfold, hback, if_pos (FoldRun.has_iff.1 hn)]

/-- **Variants.** The variants of a character are the characters that fold as it does. -/
theorem mem_caseVariants_iff {c d : Char} : d ∈ caseVariants c ↔ foldCase d = foldCase c := by
  rw [caseVariants, List.mem_cons, List.mem_filter, Bool.and_eq_true, bne_iff_ne, beq_iff_eq]
  constructor
  · rintro (rfl | ⟨-, -, hsame⟩)
    · exact foldCase_foldCase c
    · exact hsame
  · intro hsame
    by_cases hd : d = foldCase c
    · exact .inl hd
    · refine .inr ⟨?_, hd, hsame⟩
      rw [List.mem_cons, List.mem_filterMap, ← hsame]
      -- back from the folded form: the ASCII case, a run that can be undone, or a character that folds
      -- to itself
      rcases foldCase_cases d with ⟨hlt, hlower⟩ | ⟨r, hr, -, hhas, hrun⟩ | hself
      · obtain ⟨-, -, hself | hupper⟩ := toLower_of_lt hlt
        · exact absurd (hself.symm.trans (hlower.symm.trans hsame)) hd
        · exact .inl (by rw [hlower, hupper])
      · refine .inr ⟨r, hr, ?_⟩
        have hvalid := (foldRuns_sound r hr).isValidChar hhas
        rw [hrun, toNat_ofNat_of_valid hvalid, unfold_eq_some hr hhas, Option.map_some,
          Char.ofNat_toNat]
      · exact absurd (hself.symm.trans hsame) hd

/-- A decimal digit is a word character. -/
theorem isWordChar_of_isDecimal {c : Char} (h : isDecimal c = true) : isWordChar c = true := by
  rw [isDecimal] at h
  rw [isWordChar]
  split at h
  · rw [if_pos ‹_›, Char.isAlphanum, h, Bool.or_true, Bool.true_or]
  · rw [if_neg ‹_›, h, Bool.or_true, Bool.true_or]

end Unicode

namespace CharSet

/-- The set of one character has that character alone. -/
theorem mem_singleton_iff {c d : Char} : (singleton c).mem d = true ↔ d = c := by
  rw [singleton, mem, Bool.and_eq_true, decide_eq_true_iff, decide_eq_true_iff]
  exact ⟨fun h => Char.le_antisymm h.2 h.1, fun h => h ▸ ⟨Char.le_refl d, Char.le_refl d⟩⟩

/-- **Sets up to case.** A set up to case holds what is the same up to case as a member of the set. -/
theorem mem_upToCase_iff {s : CharSet} {c : Char} :
    (upToCase s).mem c = true ↔ ∃ d, Unicode.sameUpToCase c d = true ∧ s.mem d = true := by
  rw [mem, List.any_eq_true]
  refine exists_congr fun d => and_congr_left fun _ => ?_
  rw [Unicode.mem_caseVariants_iff, Unicode.sameUpToCase, beq_iff_eq, eq_comm]

end CharSet

end ModalEditor
