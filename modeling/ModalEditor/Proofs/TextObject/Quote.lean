import Mathlib.Data.List.DropRight
import ModalEditor.Proofs.Text.Cut
import ModalEditor.TextObject.Resolve

/-!
# Quoted objects

The marks of a line are read from the left, with a flag that says whether the next character is
escaped. The flag is the parity of the backslashes in front (`escapesNext_concat`), so the offsets that
are found are those of the marks in front of which the number of backslashes is even
(`mem_quoteOffsets`).

They are paired by their number. The first pair that is not closed before the cursor is the object,
whether the cursor is on one of its marks, between them or in front of both
(`TextObject.resolve_quote`).
-/

namespace ModalEditor

/-! ## Marks that are not escaped -/

/-- Is what follows the text escaped? It is if an odd number of backslashes stands in front of it. -/
def escapesNext (t : Text) : Bool :=
  (t.rtakeWhile (· == '\x5c')).length % 2 == 1

/-- A backslash escapes what comes next, unless it is escaped itself. -/
theorem escapesNext_concat (t : Text) (c : Char) :
    escapesNext (t ++ [c]) = (c == '\x5c' && !escapesNext t) := by
  by_cases hc : (c == '\x5c') = true
  · rw [escapesNext, escapesNext, List.rtakeWhile_concat_pos (· == '\x5c') t c hc,
      List.length_append, List.length_singleton, hc, Bool.true_and, Nat.add_mod]
    rcases Nat.mod_two_eq_zero_or_one (t.rtakeWhile (· == '\x5c')).length with heven | hodd
    · rw [heven]
      rfl
    · rw [hodd]
      rfl
  · rw [escapesNext, List.rtakeWhile_concat_neg (· == '\x5c') t c hc, Bool.eq_false_iff.2 hc]
    rfl

/-- The mark stands at the offset, and is not escaped. -/
def IsMark (mark : Char) (l : Text) (at_ : Nat) : Prop :=
  ∃ before behind, l = before ++ mark :: behind ∧ byteSize before = at_ ∧ escapesNext before = false

/-- The flag says of each character whether it is escaped, so the offsets are those of the marks that
are not. -/
theorem mem_quoteOffsets_iff {mark : Char} {t : Text} {at_ : Nat} (before : Text) :
    at_ ∈ quoteOffsets mark (escapesNext before) (byteSize before) t ↔
      ∃ u v, t = u ++ mark :: v ∧ byteSize (before ++ u) = at_ ∧
        escapesNext (before ++ u) = false := by
  induction t generalizing before with
  | nil => exact iff_of_false List.not_mem_nil fun ⟨u, v, h, _⟩ => by simp at h
  | cons c t ih =>
    -- by induction on what is behind, with what was read put in front
    have hlater := ih (before ++ [c])
    rw [escapesNext_concat, byteSize_append, byteSize_cons, byteSize_nil, Nat.add_zero] at hlater
    have hmem : at_ ∈ quoteOffsets mark (escapesNext before) (byteSize before) (c :: t) ↔
        (c = mark ∧ escapesNext before = false) ∧ at_ = byteSize before ∨
          ∃ u v, t = u ++ mark :: v ∧ byteSize (before ++ [c] ++ u) = at_ ∧
            escapesNext (before ++ [c] ++ u) = false := by
      rw [quoteOffsets, ← hlater]
      split
      · rename_i hquote
        rw [List.mem_cons, and_iff_right hquote]
      · rename_i hno
        rw [or_iff_right fun h => hno h.1]
    rw [hmem]
    -- a mark is at the place itself, or at a later one
    constructor
    · rintro (⟨⟨rfl, hescape⟩, rfl⟩ | ⟨u, v, rfl, hsize, hescape⟩)
      · exact ⟨[], t, rfl, by rw [List.append_nil], by rwa [List.append_nil]⟩
      · rw [List.append_assoc] at hsize hescape
        exact ⟨c :: u, v, rfl, hsize, hescape⟩
    · rintro ⟨u, v, heq, hsize, hescape⟩
      cases u with
      | nil =>
        rw [List.append_nil] at hsize hescape
        obtain ⟨rfl, -⟩ := List.cons.inj heq
        exact .inl ⟨⟨rfl, hescape⟩, hsize.symm⟩
      | cons c' u =>
        obtain ⟨rfl, rfl⟩ := List.cons.inj heq
        refine .inr ⟨u, v, rfl, ?_, ?_⟩
        · rw [List.append_assoc]
          exact hsize
        · rw [List.append_assoc]
          exact hescape

/-- The offsets are those of the marks that are not escaped. -/
theorem mem_quoteOffsets {mark : Char} {l : Text} {at_ : Nat} :
    at_ ∈ quoteOffsets mark false 0 l ↔ IsMark mark l at_ :=
  mem_quoteOffsets_iff []

/-- Marks lie behind the place where the search begins. -/
theorem le_of_mem_quoteOffsets {mark : Char} {escaped : Bool} {first at_ : Nat} {t : Text}
    (h : at_ ∈ quoteOffsets mark escaped first t) : first ≤ at_ := by
  induction t generalizing escaped first with
  | nil => exact absurd h List.not_mem_nil
  | cons c t ih =>
    have hlater (h : at_ ∈ quoteOffsets mark (c == '\x5c' && !escaped) (first + c.utf8Size) t) :
        first ≤ at_ :=
      Nat.le_trans (Nat.le_add_right _ _) (ih h)
    rw [quoteOffsets] at h
    split at h
    · rcases List.mem_cons.1 h with rfl | h
      · exact Nat.le_refl _
      · exact hlater h
    · exact hlater h

/-- The marks are counted from the left. -/
theorem pairwise_quoteOffsets (mark : Char) (escaped : Bool) (first : Nat) (t : Text) :
    (quoteOffsets mark escaped first t).Pairwise (· < ·) := by
  induction t generalizing escaped first with
  | nil => exact List.Pairwise.nil
  | cons c t ih =>
    rw [quoteOffsets]
    split
    · refine List.pairwise_cons.2 ⟨fun at_ h => ?_, ih _ _⟩
      exact Nat.lt_of_lt_of_le (Nat.lt_add_of_pos_right c.utf8Size_pos) (le_of_mem_quoteOffsets h)
    · exact ih _ _

/-! ## Pairs of marks -/

/-- The offsets are those of the pair with the index `k`: the first mark and the second are one, the
third and the fourth the next, and so on. -/
def IsPair (offsets : List Nat) (k opening closing : Nat) : Prop :=
  offsets[2 * k]? = some opening ∧ offsets[2 * k + 1]? = some closing

/-- The offsets are those of the first pair that is not closed before the column. -/
def IsPairFrom (col : Nat) (offsets : List Nat) (opening closing : Nat) : Prop :=
  ∃ k, IsPair offsets k opening closing ∧ col ≤ closing ∧
    ∀ j < k, ∀ o c, IsPair offsets j o c → c < col

section Pairs

variable {col opening closing : Nat} {offsets : List Nat}

/-- Two offsets are taken if both are there. -/
theorem twoOf_eq_some_iff {i j : Nat} : twoOf offsets i j = some (opening, closing) ↔
    offsets[i]? = some opening ∧ offsets[j]? = some closing := by
  simp [twoOf, Option.bind_eq_some_iff]

/-- The marks in front of the column are the first ones. -/
theorem lt_countP_iff (col : Nat) (hsorted : offsets.Pairwise (· < ·)) {i at_ : Nat}
    (hi : offsets[i]? = some at_) : i < offsets.countP (· < col) ↔ at_ < col := by
  induction offsets generalizing i with
  | nil => exact nomatch hi
  | cons first offsets ih =>
    obtain ⟨hfirst, hsorted⟩ := List.pairwise_cons.1 hsorted
    rcases Nat.lt_or_ge first col with hlt | hge
    · rw [List.countP_cons_of_pos (by simpa using hlt)]
      cases i with
      | zero =>
        obtain rfl := Option.some.inj hi
        exact iff_of_true (Nat.succ_pos _) hlt
      | succ i => exact Nat.succ_lt_succ_iff.trans (ih hsorted hi)
    · -- no mark from here on is in front of the column
      have hnone : (first :: offsets).countP (· < col) = 0 := by
        refine List.countP_eq_zero.2 fun later hlater => ?_
        have hle : col ≤ later := by
          rcases List.mem_cons.1 hlater with rfl | hlater
          · exact hge
          · exact hge.trans (hfirst later hlater).le
        simpa using hle
      have hle : first ≤ at_ := by
        rcases List.mem_cons.1 (List.mem_of_getElem? hi) with rfl | hmem
        · exact Nat.le_refl _
        · exact (hfirst at_ hmem).le
      rw [hnone]
      exact iff_of_false (Nat.not_lt_zero i) (Nat.not_lt.2 (hge.trans hle))

/-- So many marks are in front of a mark as its index says. -/
theorem countP_eq_of_findIdx? (hsorted : offsets.Pairwise (· < ·)) {k : Nat}
    (hk : offsets.findIdx? (· == col) = some k) : offsets.countP (· < col) = k := by
  obtain ⟨hlength, hcol, -⟩ := List.findIdx?_eq_some_iff_getElem.1 hk
  have hhere : offsets[k]? = some col := by
    rw [List.getElem?_eq_getElem hlength, beq_iff_eq.1 hcol]
  have hnot : ¬ k < offsets.countP (· < col) := fun hlt =>
    Nat.lt_irrefl col ((lt_countP_iff col hsorted hhere).1 hlt)
  have hfront : ∀ i < k, i < offsets.countP (· < col) := by
    intro i hi
    have hi' := List.getElem?_eq_getElem (hi.trans hlength)
    refine (lt_countP_iff col hsorted hi').2 ?_
    rw [← beq_iff_eq.1 hcol]
    exact List.pairwise_iff_getElem.1 hsorted i k _ hlength hi
  have hle : k ≤ offsets.countP (· < col) := by
    cases k with
    | zero => exact Nat.zero_le _
    | succ k => exact hfront k (Nat.lt_succ_self k)
  exact Nat.le_antisymm (Nat.not_lt.1 hnot) hle

/-- On a mark or not, inside of a pair or not: the pair that is taken is the one with half the index of
the first mark that is not in front of the column. -/
theorem quotePair_eq (hsorted : offsets.Pairwise (· < ·)) :
    quotePair col offsets = twoOf offsets (2 * (offsets.countP (· < col) / 2))
      (2 * (offsets.countP (· < col) / 2) + 1) := by
  have heven {m : Nat} (hm : m % 2 = 0) : 2 * (m / 2) = m := by omega
  have hodd {m : Nat} (hm : m % 2 = 1) : 2 * (m / 2) = m - 1 ∧ m - 1 + 1 = m := by omega
  rw [quotePair]
  split
  next k hk =>
    rw [countP_eq_of_findIdx? hsorted hk]
    split
    next hopens => rw [heven hopens]
    next hcloses =>
      obtain ⟨hhalf, hnext⟩ := hodd (Nat.mod_two_ne_zero.1 hcloses)
      rw [hhalf, hnext]
  next =>
    dsimp only
    split
    next hinside =>
      obtain ⟨hhalf, hnext⟩ := hodd hinside
      rw [hhalf, hnext]
    next houtside => rw [heven (Nat.mod_two_ne_one.1 houtside)]

/-- A pair ends at the cursor or behind it if it is not one of those in front. -/
theorem IsPair.le_iff (hsorted : offsets.Pairwise (· < ·)) {k : Nat}
    (hpair : IsPair offsets k opening closing) :
    col ≤ closing ↔ offsets.countP (· < col) / 2 ≤ k := by
  have hlt := lt_countP_iff col hsorted hpair.2
  omega

/-- The pairs are counted without gaps. -/
theorem IsPair.exists_of_le {j k : Nat} (hpair : IsPair offsets k opening closing) (hj : j ≤ k) :
    ∃ opening closing, IsPair offsets j opening closing := by
  have hlength := (List.getElem?_eq_some_iff.1 hpair.2).1
  exact ⟨_, _, List.getElem?_eq_getElem (by omega), List.getElem?_eq_getElem (by omega)⟩

/-- The pair from the cursor on is the one behind as many pairs as are in front. -/
theorem isPairFrom_iff (hsorted : offsets.Pairwise (· < ·)) :
    IsPairFrom col offsets opening closing ↔
      IsPair offsets (offsets.countP (· < col) / 2) opening closing := by
  constructor
  · rintro ⟨k, hpair, hle, hbefore⟩
    have hk := (hpair.le_iff hsorted).1 hle
    rcases Nat.eq_or_lt_of_le hk with rfl | hlt
    · exact hpair
    · -- the pair in front is not closed before the column either
      obtain ⟨o, c, hfront⟩ := hpair.exists_of_le hk
      exact absurd ((hfront.le_iff hsorted).2 (Nat.le_refl _))
        (Nat.not_le.2 (hbefore _ hlt o c hfront))
  · intro hpair
    refine ⟨_, hpair, (hpair.le_iff hsorted).2 (Nat.le_refl _), fun j hj o c hfront => ?_⟩
    exact Nat.lt_of_not_le fun hle => Nat.not_le.2 hj ((hfront.le_iff hsorted).1 hle)

/-- The offsets that are taken are those of the first pair that does not end in front of the cursor. -/
theorem quotePair_eq_some_iff (hsorted : offsets.Pairwise (· < ·)) :
    quotePair col offsets = some (opening, closing) ↔ IsPairFrom col offsets opening closing := by
  rw [quotePair_eq hsorted, twoOf_eq_some_iff, isPairFrom_iff hsorted]
  rfl

/-- There is no pair if and only if all pairs are closed before the column. -/
theorem quotePair_eq_none_iff (hsorted : offsets.Pairwise (· < ·)) : quotePair col offsets = none ↔
    ∀ k opening closing, IsPair offsets k opening closing → closing < col := by
  rw [Option.eq_none_iff_forall_ne_some, Prod.forall]
  simp only [ne_eq, quotePair_eq_some_iff hsorted, isPairFrom_iff hsorted]
  constructor
  · intro hnone k opening closing hpair
    refine Nat.lt_of_not_le fun hle => ?_
    obtain ⟨o, c, hfirst⟩ := hpair.exists_of_le ((hpair.le_iff hsorted).1 hle)
    exact hnone o c hfirst
  · intro hall opening closing hpair
    exact Nat.not_le.2 (hall _ opening closing hpair) ((hpair.le_iff hsorted).2 (Nat.le_refl _))

end Pairs

/-! ## What a pair selects -/

/-- Blanks and tabs take a byte each. -/
theorem byteSize_of_spaces {t : Text} (h : ∀ c ∈ t, isSpaceOrTab c = true) :
    byteSize t = t.length := by
  induction t with
  | nil => rfl
  | cons c t ih =>
    obtain ⟨hc, ht⟩ := List.forall_mem_cons.1 h
    have hsize : c.utf8Size = 1 := by
      rw [isSpaceOrTab, Bool.or_eq_true, beq_iff_eq, beq_iff_eq] at hc
      rcases hc with rfl | rfl
      · rfl
      · rfl
    rw [byteSize_cons, ih ht, hsize, List.length_cons, Nat.add_comm]

/-- Two marks cut the line. Between `head` and the first stand the blanks `front`, and between the
second and `tail` the blanks `back`; there are no more. -/
structure QuoteCut (mark : Char) (l head front between back tail : Text) : Prop where
  line : l = head ++ front ++ mark :: (between ++ mark :: (back ++ tail))
  front : ∀ c ∈ front, isSpaceOrTab c = true
  head : ∀ c ∈ head.getLast?, isSpaceOrTab c = false
  back : ∀ c ∈ back, isSpaceOrTab c = true
  tail : ∀ c ∈ tail.head?, isSpaceOrTab c = false

/-- A line with two marks is cut in front of the blanks before and behind the blanks after. -/
theorem exists_quoteCut (mark : Char) (before between behind : Text) :
    QuoteCut mark (before ++ mark :: (between ++ mark :: behind)) (before.rdropWhile isSpaceOrTab)
      (before.rtakeWhile isSpaceOrTab) between (behind.takeWhile isSpaceOrTab)
      (behind.dropWhile isSpaceOrTab) where
  line := by rw [List.rdropWhile_append_rtakeWhile, List.takeWhile_append_dropWhile]
  front _ hc := List.mem_rtakeWhile_imp hc
  head c hc := by
    obtain ⟨hne, rfl⟩ := List.mem_getLast?_eq_getLast hc
    exact Bool.eq_false_iff.2 (List.rdropWhile_last_not _ _ hne)
  back _ hc := List.mem_takeWhile_imp hc
  tail c hc := by
    have hnot := List.head?_dropWhile_not isSpaceOrTab behind
    rw [Option.mem_def.1 hc] at hnot
    exact hnot

/-- Two marks, the first before the second. -/
theorem exists_between {mark : Char} {l : Text} {opening closing : Nat}
    (hopening : IsMark mark l opening) (hclosing : IsMark mark l closing) (hlt : opening < closing) :
    ∃ before between behind, l = before ++ mark :: (between ++ mark :: behind) ∧
      byteSize before = opening ∧ opening + mark.utf8Size + byteSize between = closing := by
  obtain ⟨before, rest, rfl, rfl, -⟩ := hopening
  obtain ⟨before', behind, heq, rfl, -⟩ := hclosing
  rcases List.append_eq_append_iff.1 heq with ⟨u, rfl, hu⟩ | ⟨u, rfl, -⟩
  · cases u with
    | nil => exact absurd hlt (by rw [List.append_nil]; exact Nat.lt_irrefl _)
    | cons c between =>
      obtain ⟨rfl, rfl⟩ := List.cons.inj hu
      refine ⟨before, between, behind, rfl, rfl, ?_⟩
      rw [byteSize_append, byteSize_cons, Nat.add_assoc]
  · rw [byteSize_append] at hlt
    omega

/-- How many blanks a text begins with, as its size. -/
theorem leadingSpaces_eq (t : Text) :
    leadingSpaces t = byteSize (t.takeWhile isSpaceOrTab) := by
  rw [leadingSpaces, byteSize_of_spaces fun _ hc => List.mem_takeWhile_imp hc]

/-- How many blanks a text ends with, as its size. -/
theorem leadingSpaces_reverse (t : Text) :
    leadingSpaces t.reverse = byteSize (t.rtakeWhile isSpaceOrTab) := by
  rw [leadingSpaces, byteSize_of_spaces fun _ hc => List.mem_rtakeWhile_imp hc, List.rtakeWhile,
    List.length_reverse]

/-- The offsets that a pair of marks of one byte selects. -/
theorem quoteSpan_of_pair {mark : Char} (hmark : mark.utf8Size = 1) {l : Text}
    {col opening closing : Nat}
    (hpair : IsPairFrom col (quoteOffsets mark false 0 l) opening closing) :
    ∃ head front between back tail, QuoteCut mark l head front between back tail ∧
      opening = byteSize (head ++ front) ∧ closing = opening + 1 + byteSize between ∧
      quoteSpan l col mark true = some (opening + 1, closing) ∧
      quoteSpan l col mark false = some (if back = [] then (byteSize head, closing + 1)
        else (opening, closing + 1 + byteSize back)) := by
  have hfound := (quotePair_eq_some_iff (pairwise_quoteOffsets mark false 0 l)).2 hpair
  obtain ⟨k, ⟨hopening, hclosing⟩, -, -⟩ := hpair
  have hlt : opening < closing := by
    obtain ⟨hk, rfl⟩ := List.getElem?_eq_some_iff.1 hopening
    obtain ⟨hk', rfl⟩ := List.getElem?_eq_some_iff.1 hclosing
    exact List.pairwise_iff_getElem.1 (pairwise_quoteOffsets mark false 0 l) _ _ hk hk'
      (Nat.lt_succ_self _)
  -- both marks are in the line, so it can be cut at both
  obtain ⟨before, between, behind, rfl, rfl, hbetween⟩ := exists_between
    (mem_quoteOffsets.1 (List.mem_of_getElem? hopening))
    (mem_quoteOffsets.1 (List.mem_of_getElem? hclosing)) hlt
  rw [hmark] at hbetween
  have hbehind : dropBytes (before ++ mark :: (between ++ mark :: behind)) (closing + 1) = behind := by
    have hfront : byteSize (before ++ mark :: (between ++ [mark])) = closing + 1 := by
      simp only [byteSize_append, byteSize_cons, byteSize_nil, hmark]
      omega
    rw [← hfront, show before ++ mark :: (between ++ mark :: behind) =
      (before ++ mark :: (between ++ [mark])) ++ behind by simp]
    exact dropBytes_append_byteSize _ _
  have hbefore : takeBytes (before ++ mark :: (between ++ mark :: behind)) (byteSize before) = before :=
    takeBytes_append_byteSize _ _
  have hparts : before.rdropWhile isSpaceOrTab ++ before.rtakeWhile isSpaceOrTab = before :=
    List.rdropWhile_append_rtakeWhile
  have hsize := congrArg byteSize hparts
  rw [byteSize_append] at hsize
  refine ⟨_, _, between, _, _, exists_quoteCut mark before between behind, by rw [hparts],
    hbetween.symm, ?_, ?_⟩
  · rw [quoteSpan, hfound]
    rfl
  · rw [quoteSpan, hfound, Option.map_some]
    dsimp only
    rw [if_neg Bool.false_ne_true, hbehind, hbefore, leadingSpaces_eq, leadingSpaces_reverse]
    -- blanks behind the closing mark belong to the pair; if there are none, those in front do
    by_cases hback : behind.takeWhile isSpaceOrTab = []
    · rw [hback, if_pos rfl, byteSize_nil, if_neg (Nat.lt_irrefl 0), ← hsize, Nat.add_sub_cancel]
    · rw [if_neg hback, if_pos (byteSize_pos hback)]

/-- Nothing is selected if every pair ends in front of the cursor. -/
theorem quoteSpan_eq_none_iff {mark : Char} {l : Text} {col : Nat} {inner : Bool} :
    quoteSpan l col mark inner = none ↔ ∀ k opening closing,
      IsPair (quoteOffsets mark false 0 l) k opening closing → closing < col := by
  rw [quoteSpan, Option.map_eq_none_iff,
    quotePair_eq_none_iff (pairwise_quoteOffsets mark false 0 l)]

/-- The marks that a key names have one byte. -/
theorem ObjectKind.utf8Size_of_ofKey? {key mark : Char} (h : ofKey? key = some (.quote mark)) :
    mark.utf8Size = 1 := by
  have hmark : mark = '\x22' ∨ mark = '\x27' ∨ mark = '\x60' := by grind [ofKey?]
  rcases hmark with rfl | rfl | rfl
  · rfl
  · rfl
  · rfl

/-- **Quoted objects.** The marks that are not escaped are counted from the left, and the first and the
second are a pair, the third and the fourth, and so on. There is no object if and only if every pair
is closed before the cursor. Otherwise the inner object of the first pair that is not is what stands
between the marks; the other one has the marks and the blanks behind them, or those in front where
there are none behind. -/
theorem TextObject.resolve_quote {b : Buffer} {cursor : Position} {l : Text}
    (hline : b.line? cursor.row = some l) {key mark : Char}
    (hkey : ObjectKind.ofKey? key = some (.quote mark)) (n : Nat) :
    let offsets := quoteOffsets mark false 0 l
    (offsets.Pairwise (· < ·) ∧ ∀ at_, at_ ∈ offsets ↔ IsMark mark l at_) ∧
      (∀ inner, (TextObject.mk (.quote mark) inner).resolve b cursor n = .error .motionFailed ↔
        ∀ k opening closing, IsPair offsets k opening closing → closing < cursor.col) ∧
      ∀ opening closing, IsPairFrom cursor.col offsets opening closing →
        ∃ head front between back tail, QuoteCut mark l head front between back tail ∧
          opening = byteSize (head ++ front) ∧ closing = opening + 1 + byteSize between ∧
          (TextObject.mk (.quote mark) true).resolve b cursor n =
            .ok (rowRange cursor.row (opening + 1, closing)) ∧
          (TextObject.mk (.quote mark) false).resolve b cursor n =
            .ok (rowRange cursor.row (if back = [] then (byteSize head, closing + 1)
              else (opening, closing + 1 + byteSize back))) := by
  intro offsets
  -- the row of the cursor decides, and the count does not matter
  have hrange (inner : Bool) : (TextObject.mk (.quote mark) inner).range? b cursor n =
      (quoteSpan l cursor.col mark inner).map (rowRange cursor.row) := by
    simp only [TextObject.range?, hline, Option.bind_eq_bind, Option.bind_some]
    exact Option.map_eq_bind.symm
  refine ⟨⟨pairwise_quoteOffsets _ _ _ _, fun _ => mem_quoteOffsets⟩, fun inner => ?_,
    fun opening closing hpair => ?_⟩
  · rw [← quoteSpan_eq_none_iff, TextObject.resolve, hrange]
    cases quoteSpan l cursor.col mark inner with
    | none => exact iff_of_true rfl rfl
    | some offsets => exact iff_of_false nofun nofun
  · obtain ⟨head, front, between, back, tail, hcut, hopening, hclosing, hinner, haround⟩ :=
      quoteSpan_of_pair (ObjectKind.utf8Size_of_ofKey? hkey) hpair
    refine ⟨head, front, between, back, tail, hcut, hopening, hclosing, ?_, ?_⟩
    · rw [TextObject.resolve, hrange, hinner]
      rfl
    · rw [TextObject.resolve, hrange, haround]
      rfl

/-- The cursor is on an escaped mark, which is none. No blanks stand behind the pair, so those in front
of it are taken in. -/
theorem TextObject.resolve_quote_escaped :
    let l := "say  'it\\'s', ok".toList
    let b := Buffer.ofText l
    let cursor : Position := ⟨0, 9⟩
    b.line? 0 = some l ∧ ObjectKind.ofKey? '\x27' = some (.quote '\x27') ∧
      IsPairFrom 9 (quoteOffsets '\x27' false 0 l) 5 11 ∧ ¬ IsMark '\x27' l 9 ∧
      (TextObject.mk (.quote '\x27') true).resolve b cursor 1 = .ok (.chars ⟨0, 6⟩ ⟨0, 11⟩) ∧
      ∃ head front between back tail, QuoteCut '\x27' l head front between back tail ∧
        byteSize head = 3 ∧ back = [] := by
  intro l b cursor
  have hline : b.line? cursor.row = some l := by decide +kernel
  have hkey : ObjectKind.ofKey? '\x27' = some (.quote '\x27') := by decide
  have hoffsets : quoteOffsets '\x27' false 0 l = [5, 11] := by decide +kernel
  obtain ⟨⟨-, hmem⟩, -, hfound⟩ := TextObject.resolve_quote hline hkey 1
  rw [hoffsets] at hmem hfound ⊢
  have hpair : IsPairFrom 9 [5, 11] 5 11 :=
    ⟨0, ⟨rfl, rfl⟩, by decide, fun j hj => absurd hj (Nat.not_lt_zero j)⟩
  obtain ⟨head, front, between, back, tail, hcut, -, -, hinner, haround⟩ := hfound 5 11 hpair
  have haround' : (TextObject.mk (.quote '\x27') false).resolve b cursor 1 =
      .ok (.chars ⟨0, 3⟩ ⟨0, 12⟩) := by decide +kernel
  rw [haround'] at haround
  -- the outer pair begins in front of the two blanks, since nothing is behind the closing mark
  have hblanks : byteSize head = 3 ∧ back = [] := by
    by_cases hback : back = []
    · simp only [if_pos hback, rowRange, Except.ok.injEq, TextRange.chars.injEq,
        Position.mk.injEq] at haround
      exact ⟨haround.1.2.symm, hback⟩
    · simp [hback, rowRange] at haround
  exact ⟨hline, hkey, hpair, fun hmark => absurd ((hmem 9).2 hmark) (by decide), hinner, head, front,
    between, back, tail, hcut, hblanks⟩

end ModalEditor
