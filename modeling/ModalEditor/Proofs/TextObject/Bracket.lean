import Mathlib.Data.List.Induction
import Mathlib.Data.List.TakeWhile
import ModalEditor.TextObject.Resolve

/-!
# Brackets pair as they nest

Read from the beginning of a document, a closing bracket pairs with the latest opening bracket that
is still open (`matchedPairs`); these are the pairs of brackets between which all brackets match
(`mem_matchedPairs_iff`). The object at the cursor is found without this: one scan goes back from the
cursor and one goes on from the bracket at which the first has stopped. The first scan reads the
brackets that are open at the cursor, the innermost first (`findOpening_reverse`), and a bracket is
closed from its own place on where it is closed from the cursor on (`exists_findClosing`). So what is
found are the pairs around the cursor (`getElem?_matchedPairs`), and each of them is inside of those
that follow (`pairwise_matchedPairs`).
-/

namespace ModalEditor

/-- The pair is around the cursor; a bracket under the cursor is one of its pair. -/
def Around (cursor : Position) (pair : Position × Position) : Prop :=
  ¬ cursor < pair.1 ∧ ¬ pair.2 < cursor

instance (cursor : Position) (pair : Position × Position) : Decidable (Around cursor pair) :=
  inferInstanceAs (Decidable (_ ∧ _))

/-! ## Places of characters -/

/-- The characters of a row are on the row, from the column on. -/
theorem mem_placedLine {row col : Nat} {t : Text} {x : Position × Char}
    (hx : x ∈ placedLine row col t) : x.1.row = row ∧ col ≤ x.1.col := by
  induction t generalizing col with
  | nil => cases hx
  | cons c cs ih =>
    rcases List.mem_cons.1 hx with rfl | hx
    · exact ⟨rfl, Nat.le_refl _⟩
    · obtain ⟨hrow, hcol⟩ := ih hx
      exact ⟨hrow, Nat.le_trans (Nat.le_add_right _ _) hcol⟩

/-- The characters of a row are in the order of their places. -/
theorem pairwise_placedLine (row col : Nat) (t : Text) :
    (placedLine row col t).Pairwise fun x y => x.1 < y.1 := by
  induction t generalizing col with
  | nil => exact .nil
  | cons c cs ih =>
    refine (ih _).cons fun x hx => .inr ?_
    obtain ⟨hrow, hcol⟩ := mem_placedLine hx
    exact ⟨hrow.symm, Nat.lt_of_lt_of_le (Nat.lt_add_of_pos_right c.utf8Size_pos) hcol⟩

/-- The characters of some rows are on those rows or below. -/
theorem row_le_of_mem_placedLines {row : Nat} {ls : List Text} {x : Position × Char}
    (hx : x ∈ placedLines row ls) : row ≤ x.1.row := by
  induction ls generalizing row with
  | nil => cases hx
  | cons l ls ih =>
    rcases List.mem_append.1 hx with hx | hx
    · exact Nat.le_of_eq (mem_placedLine hx).1.symm
    · exact Nat.le_of_succ_le (ih hx)

/-- The characters of a document are placed one behind the other. -/
theorem pairwise_placedLines (row : Nat) (ls : List Text) :
    (placedLines row ls).Pairwise fun x y => x.1 < y.1 := by
  induction ls generalizing row with
  | nil => exact .nil
  | cons l ls ih =>
    refine List.pairwise_append.2 ⟨pairwise_placedLine row 0 l, ih (row + 1), fun x hx y hy => ?_⟩
    refine .inl ?_
    rw [(mem_placedLine hx).1]
    exact row_le_of_mem_placedLines hy

/-- What lies behind a place is what comes behind it in order. -/
theorem dropWhile_placed {front behind : List (Position × Char)} {x : Position × Char}
    (hplaced : (front ++ x :: behind).Pairwise fun x y => x.1 < y.1) :
    (front ++ x :: behind).dropWhile (fun y => ¬ x.1 < y.1) = behind := by
  obtain ⟨-, hbehind, hfront⟩ := List.pairwise_append.1 hplaced
  rw [List.dropWhile_append_of_pos fun y hy => decide_eq_true
      (Position.lt_asymm (hfront y hy x List.mem_cons_self)),
    List.dropWhile_cons_of_pos (by simp [Position.lt_irrefl])]
  cases behind with
  | nil => rfl
  | cons y behind =>
    have hlt : x.1 < y.1 := (List.pairwise_cons.1 hbehind).1 y List.mem_cons_self
    exact List.dropWhile_cons_of_neg (by simpa using hlt)

/-! ## Nesting -/

/-- The brackets among the characters match. -/
inductive Balanced (opening closing : Char) : List (Position × Char) → Prop
  | nil : Balanced opening closing []
  | other {p : Position} {c : Char} {later : List (Position × Char)} (hopening : c ≠ opening)
      (hclosing : c ≠ closing) (hlater : Balanced opening closing later) :
      Balanced opening closing ((p, c) :: later)
  | pair {p q : Position} {within later : List (Position × Char)}
      (hwithin : Balanced opening closing within) (hlater : Balanced opening closing later) :
      Balanced opening closing ((p, opening) :: (within ++ (q, closing) :: later))

/-- At the two places stand an opening and a closing bracket, and the brackets between them match. -/
def Matched (opening closing : Char) (placed : List (Position × Char))
    (pair : Position × Position) : Prop :=
  ∃ front within behind, placed = front ++ (pair.1, opening) :: (within ++
    (pair.2, closing) :: behind) ∧ Balanced opening closing within

/-- A bracket of the list is open behind the characters, and behind it the brackets match up to the
one that comes before it in the list. -/
inductive Layered (opening closing : Char) :
    List Position → List (Position × Char) → Prop
  | outside (placed : List (Position × Char)) : Layered opening closing [] placed
  | inside {stack : List Position} {front within : List (Position × Char)} (p : Position)
      (hfront : Layered opening closing stack front) (hwithin : Balanced opening closing within) :
      Layered opening closing (p :: stack) (front ++ (p, opening) :: within)

/-! ## Pairs -/

section Pairs

variable (opening closing : Char)

/-- The pairs of brackets among characters, in the order in which they are closed. The brackets of
`stack` are open before the first character, the innermost first. -/
def matchedPairs : (stack : List Position) → List (Position × Char) → List (Position × Position)
  | _, [] => []
  | stack, (p, c) :: later =>
    if c = opening then matchedPairs (p :: stack) later
    else if c = closing then
      (stack.head?.map (·, p)).toList ++ matchedPairs stack.tail later
    else matchedPairs stack later

/-- The brackets that are open behind the characters, the innermost first. -/
def openBrackets : (stack : List Position) → List (Position × Char) → List Position
  | stack, [] => stack
  | stack, (p, c) :: later =>
    if c = opening then openBrackets (p :: stack) later
    else if c = closing then openBrackets stack.tail later
    else openBrackets stack later

variable {opening closing}

/-- The pairs of two parts are those of the first, and those of the second with what the first left
open. -/
theorem matchedPairs_append (stack : List Position) (front behind : List (Position × Char)) :
    matchedPairs opening closing stack (front ++ behind) =
      matchedPairs opening closing stack front ++
        matchedPairs opening closing (openBrackets opening closing stack front) behind := by
  induction front generalizing stack with
  | nil => rfl
  | cons x front ih =>
    obtain ⟨p, c⟩ := x
    rw [List.cons_append, matchedPairs, matchedPairs, openBrackets]
    split
    · exact ih _
    · split
      · rw [ih, List.append_assoc]
      · exact ih stack

/-- What is open behind two parts is left open by the second, with what the first left open. -/
theorem openBrackets_append (stack : List Position) (front behind : List (Position × Char)) :
    openBrackets opening closing stack (front ++ behind) =
      openBrackets opening closing (openBrackets opening closing stack front) behind := by
  induction front generalizing stack with
  | nil => rfl
  | cons x front ih =>
    obtain ⟨p, c⟩ := x
    rw [List.cons_append, openBrackets, openBrackets]
    split
    · exact ih _
    · split
      · exact ih _
      · exact ih _

/-- Another character opens a bracket, closes the innermost one, or is no bracket. -/
theorem openBrackets_concat (placed : List (Position × Char)) (p : Position) (c : Char) :
    openBrackets opening closing [] (placed ++ [(p, c)]) =
      if c = opening then p :: openBrackets opening closing [] placed
      else if c = closing then (openBrackets opening closing [] placed).tail
      else openBrackets opening closing [] placed := by
  rw [openBrackets_append]
  rfl

/-- A pair begins with a bracket that was open or is read, and ends with one that is read. -/
theorem mem_of_mem_matchedPairs {stack : List Position} {placed : List (Position × Char)}
    {pair : Position × Position} (hpair : pair ∈ matchedPairs opening closing stack placed) :
    (pair.1 ∈ stack ∨ (pair.1, opening) ∈ placed) ∧ (pair.2, closing) ∈ placed := by
  -- by induction on what is read: an opening bracket is put on the stack, a closing one takes it off
  induction placed generalizing stack with
  | nil => cases hpair
  | cons x placed ih =>
    obtain ⟨p, c⟩ := x
    rw [matchedPairs] at hpair
    split at hpair
    · rename_i hc
      obtain ⟨hfirst, hlast⟩ := ih hpair
      refine ⟨?_, List.mem_cons_of_mem _ hlast⟩
      rcases hfirst with hfirst | hfirst
      · rcases List.mem_cons.1 hfirst with hp | hfirst
        · exact .inr (by rw [hp, hc]; exact List.mem_cons_self)
        · exact .inl hfirst
      · exact .inr (List.mem_cons_of_mem _ hfirst)
    · split at hpair
      · rename_i hc
        rcases List.mem_append.1 hpair with hpair | hpair
        · rw [Option.mem_toList, Option.map_eq_some_iff] at hpair
          obtain ⟨q, hq, rfl⟩ := hpair
          exact ⟨.inl (List.mem_of_head? hq), by rw [hc]; exact List.mem_cons_self⟩
        · obtain ⟨hfirst, hlast⟩ := ih hpair
          exact ⟨hfirst.imp List.mem_of_mem_tail (List.mem_cons_of_mem _),
            List.mem_cons_of_mem _ hlast⟩
      · obtain ⟨hfirst, hlast⟩ := ih hpair
        exact ⟨hfirst.imp_right (List.mem_cons_of_mem _), List.mem_cons_of_mem _ hlast⟩

/-- Of two pairs, the one that is closed later is around the other or behind it. -/
theorem pairwise_matchedPairs {stack : List Position} {placed : List (Position × Char)}
    (hstack : stack.Pairwise fun p q => q < p) (hplaced : placed.Pairwise fun x y => x.1 < y.1)
    (hcross : ∀ q ∈ stack, ∀ x ∈ placed, q < x.1) :
    (matchedPairs opening closing stack placed).Pairwise fun a b =>
      a.2 < b.2 ∧ (b.1 < a.1 ∨ a.2 < b.1) := by
  -- by induction on what is read; the stack holds the open brackets, the innermost first
  induction placed generalizing stack with
  | nil => exact .nil
  | cons x placed ih =>
    obtain ⟨p, c⟩ := x
    obtain ⟨hnext, hplaced⟩ := List.pairwise_cons.1 hplaced
    have hlater : ∀ q ∈ stack, ∀ x ∈ placed, q < x.1 := fun q hq x hx =>
      hcross q hq x (List.mem_cons_of_mem _ hx)
    rw [matchedPairs]
    -- an opening bracket lies behind all that are open, and a closing one ends the innermost pair
    split
    · refine ih (hstack.cons fun q hq => hcross q hq _ List.mem_cons_self) hplaced ?_
      exact List.forall_mem_cons.2 ⟨hnext, hlater⟩
    · split
      · cases stack with
        | nil => exact ih .nil hplaced hlater
        | cons q stack =>
          obtain ⟨hinner, hstack⟩ := List.pairwise_cons.1 hstack
          have hrest : ∀ q ∈ stack, ∀ x ∈ placed, q < x.1 := fun q hq =>
            hlater q (List.mem_cons_of_mem _ hq)
          refine (ih hstack hplaced hrest).cons fun pair hpair => ?_
          obtain ⟨hfirst, hlast⟩ := mem_of_mem_matchedPairs hpair
          exact ⟨hnext _ hlast, hfirst.imp (hinner _) (hnext _)⟩
      · exact ih hstack hplaced hlater

/-! ### What stands between the two -/

/-- Balanced texts are balanced together. -/
theorem Balanced.append {front behind : List (Position × Char)}
    (hfront : Balanced opening closing front) (hbehind : Balanced opening closing behind) :
    Balanced opening closing (front ++ behind) := by
  induction hfront with
  | nil => exact hbehind
  | other hopening hclosing _ ih => exact .other hopening hclosing ih
  | pair hwithin _ _ ih =>
    rw [List.cons_append, List.append_assoc, List.cons_append]
    exact .pair hwithin ih

/-- Where the brackets match, the same ones are open behind the characters as in front of them. -/
theorem Balanced.openBrackets_eq (hne : opening ≠ closing) {placed : List (Position × Char)}
    (h : Balanced opening closing placed) (stack : List Position) :
    openBrackets opening closing stack placed = stack := by
  induction h generalizing stack with
  | nil => rfl
  | other hopening hclosing _ ih => rw [openBrackets, if_neg hopening, if_neg hclosing, ih]
  | pair _ _ ihwithin ihlater =>
    rw [openBrackets, if_pos rfl, openBrackets_append, ihwithin, openBrackets,
      if_neg hne.symm, if_pos rfl, List.tail_cons, ihlater]

/-- More characters among which brackets match go to the part behind the innermost open bracket. -/
theorem Layered.append {stack : List Position} {placed more : List (Position × Char)}
    (h : Layered opening closing stack placed) (hmore : Balanced opening closing more) :
    Layered opening closing stack (placed ++ more) := by
  cases h with
  | outside => exact .outside _
  | inside p hfront hwithin =>
    rw [List.append_assoc, List.cons_append]
    exact .inside p hfront (hwithin.append hmore)

/-- Between the brackets that are open the text is balanced. -/
theorem layered_openBrackets (placed : List (Position × Char)) :
    Layered opening closing (openBrackets opening closing [] placed) placed := by
  induction placed using List.reverseRecOn with
  | nil => exact .outside []
  | append_singleton placed x ih =>
    obtain ⟨q, c⟩ := x
    rw [openBrackets_concat]
    generalize openBrackets opening closing [] placed = stack at ih ⊢
    by_cases hopening : c = opening
    · rw [if_pos hopening, hopening]
      exact .inside q ih .nil
    · rw [if_neg hopening]
      by_cases hclosing : c = closing
      · rw [if_pos hclosing, hclosing]
        cases ih with
        | outside => exact .outside _
        | @inside stack front within p hfront hwithin =>
          rw [List.append_assoc, List.cons_append]
          exact hfront.append (.pair hwithin .nil)
      · rw [if_neg hclosing]
        exact ih.append (.other hopening hclosing .nil)

/-- Brackets that match go on to match, whatever is read behind them. -/
theorem Matched.append {placed : List (Position × Char)} {pair : Position × Position}
    (h : Matched opening closing placed pair) (later : List (Position × Char)) :
    Matched opening closing (placed ++ later) pair := by
  obtain ⟨front, within, behind, rfl, hwithin⟩ := h
  refine ⟨front, within, behind ++ later, ?_, hwithin⟩
  simp only [List.append_assoc, List.cons_append]

/-- The pairs are the brackets between which brackets match. -/
theorem mem_matchedPairs_iff (hne : opening ≠ closing) {placed : List (Position × Char)}
    {pair : Position × Position} :
    pair ∈ matchedPairs opening closing [] placed ↔ Matched opening closing placed pair := by
  constructor
  · intro hpair
    induction placed using List.reverseRecOn with
    | nil => cases hpair
    | append_singleton placed x ih =>
      rw [matchedPairs_append, List.mem_append] at hpair
      rcases hpair with hpair | hpair
      · exact (ih hpair).append _
      · -- the last character closes the innermost of the open brackets
        obtain ⟨q, c⟩ := x
        have hlayered : Layered opening closing (openBrackets opening closing [] placed) placed :=
          layered_openBrackets placed
        generalize openBrackets opening closing [] placed = stack at hlayered hpair
        simp only [matchedPairs] at hpair
        split at hpair
        · cases hpair
        · split at hpair
          · rename_i hclosing
            cases hlayered with
            | outside => cases hpair
            | @inside stack front within p hfront hwithin =>
              obtain rfl : pair = (p, q) := List.mem_singleton.1 hpair
              refine ⟨front, within, [], ?_, hwithin⟩
              rw [List.append_assoc, List.cons_append, hclosing]
          · cases hpair
  · rintro ⟨front, within, behind, rfl, hwithin⟩
    rw [matchedPairs_append, matchedPairs, if_pos rfl, matchedPairs_append,
      hwithin.openBrackets_eq hne, matchedPairs, if_neg hne.symm, if_pos rfl]
    refine List.mem_append_right _ (List.mem_append_right _ ?_)
    exact List.mem_append_left _ List.mem_cons_self

/-! ## The scans -/

/-- The scan back from the end of characters reads the brackets that are open there. -/
theorem findOpening_reverse (hne : opening ≠ closing) (level depth : Nat)
    (placed : List (Position × Char)) :
    findOpening opening closing level depth placed.reverse =
      (openBrackets opening closing [] placed)[depth + (level - 1)]? := by
  -- backwards, by induction on what is in front: `depth` brackets are to be passed and `level` to be
  -- found
  induction placed using List.reverseRecOn generalizing level depth with
  | nil => rfl
  | append_singleton placed x ih =>
    obtain ⟨p, c⟩ := x
    rw [List.reverse_concat, openBrackets_concat, findOpening]
    generalize openBrackets opening closing [] placed = stack at ih ⊢
    by_cases hclosing : c = closing
    · have hopening : c ≠ opening := fun h => hne (h.symm.trans hclosing)
      rw [if_pos hclosing, if_neg hopening, if_pos hclosing, ih, List.getElem?_tail,
        Nat.add_right_comm]
    · rw [if_neg hclosing]
      by_cases hopening : c = opening
      · rw [if_pos hopening, if_pos hopening]
        cases depth with
        | zero =>
          rw [if_pos rfl, Nat.zero_add]
          split
          · rename_i hlevel
            rw [Nat.sub_eq_zero_of_le hlevel, List.getElem?_cons_zero]
          · rename_i hlevel
            obtain ⟨level, rfl⟩ : ∃ k, level = k + 2 := ⟨level - 2, by omega⟩
            rw [ih, Nat.zero_add]
            rfl
        | succ depth =>
          rw [if_neg (Nat.succ_ne_zero depth), ih, Nat.add_right_comm, List.getElem?_cons_succ]
          rfl
      · rw [if_neg hopening, if_neg hopening, if_neg hclosing, ih]

/-- A bracket that is open behind characters is one of them, and it is closed by the same bracket
that closes it, with those inside of it, from there on. -/
theorem exists_findClosing {placed : List (Position × Char)} {k : Nat} {p : Position}
    (hp : (openBrackets opening closing [] placed)[k]? = some p) :
    ∃ front behind, placed = front ++ (p, opening) :: behind ∧
      ∀ later, findClosing opening closing 0 (behind ++ later) =
        findClosing opening closing k later := by
  induction placed using List.reverseRecOn generalizing k with
  | nil => cases hp
  | append_singleton placed x ih =>
    obtain ⟨q, c⟩ := x
    rw [openBrackets_concat] at hp
    -- a bracket of the stack stays at its place, with the character behind it
    have hmore {j : Nat} (hj : (openBrackets opening closing [] placed)[j]? = some p)
        (hc : ∀ later, findClosing opening closing j ((q, c) :: later) =
          findClosing opening closing k later) :
        ∃ front behind, placed ++ [(q, c)] = front ++ (p, opening) :: behind ∧
          ∀ later, findClosing opening closing 0 (behind ++ later) =
            findClosing opening closing k later := by
      obtain ⟨front, behind, rfl, hclosing⟩ := ih hj
      refine ⟨front, behind ++ [(q, c)], ?_, fun later => ?_⟩
      · rw [List.append_assoc, List.cons_append]
      · rw [List.append_assoc, List.singleton_append, hclosing, hc]
    by_cases hopening : c = opening
    · rw [if_pos hopening] at hp
      cases k with
      | zero =>
        obtain rfl : q = p := Option.some.inj hp
        exact ⟨placed, [], by rw [hopening], fun later => rfl⟩
      | succ k => exact hmore hp fun later => by rw [findClosing, if_pos hopening]
    · rw [if_neg hopening] at hp
      by_cases hclosing : c = closing
      · rw [if_pos hclosing, List.getElem?_tail] at hp
        refine hmore hp fun later => ?_
        rw [findClosing, if_neg hopening, if_pos hclosing, if_neg (Nat.succ_ne_zero k),
          Nat.add_sub_cancel]
      · rw [if_neg hclosing] at hp
        exact hmore hp fun later => by rw [findClosing, if_neg hopening, if_neg hclosing]

/-! ## Around the cursor -/

variable {cursor : Position}

/-- The pairs around the cursor are those of the brackets that are open in front of it
(`outer`), each with the place at which it is closed, as long as there is one. The brackets of
`inner` were opened behind the cursor. -/
theorem getElem?_matchedPairs {inner outer : List Position} {later : List (Position × Char)}
    (hinner : ∀ q ∈ inner, cursor < q) (houter : ∀ q ∈ outer, ¬ cursor < q)
    (hlater : ∀ x ∈ later, ¬ x.1 < cursor ∧ (x.2 = opening → cursor < x.1)) (i : Nat) :
    ((matchedPairs opening closing (inner ++ outer) later).filter (Around cursor))[i]? =
      outer[i]?.bind fun q =>
        (findClosing opening closing (inner.length + i) later).map fun p => (q, p) := by
  -- by induction on what is behind the cursor; `inner` was opened behind the cursor and `outer` in
  -- front
  induction later generalizing inner outer i with
  | nil =>
    rw [matchedPairs, List.filter_nil, List.getElem?_nil]
    cases outer[i]? <;> rfl
  | cons x later ih =>
    obtain ⟨p, c⟩ := x
    obtain ⟨⟨hp, hopen⟩, hlater⟩ := List.forall_mem_cons.1 hlater
    rw [matchedPairs, findClosing]
    by_cases hopening : c = opening
    · rw [if_pos hopening, if_pos hopening, ← List.cons_append,
        ih (List.forall_mem_cons.2 ⟨hopen hopening, hinner⟩) houter hlater, List.length_cons,
        Nat.add_right_comm]
    · rw [if_neg hopening, if_neg hopening]
      by_cases hclosing : c = closing
      · rw [if_pos hclosing, if_pos hclosing]
        -- a closing bracket ends the innermost open one: if that is behind the cursor the pair is not
        -- around it
        cases inner with
        | cons t inner =>
          obtain ⟨ht, hinner⟩ := List.forall_mem_cons.1 hinner
          have hnot : ¬ Around cursor (t, p) := fun h => h.1 ht
          rw [List.cons_append, List.head?_cons, Option.map_some, Option.toList_some,
            List.singleton_append, List.tail_cons, List.filter_cons_of_neg (by simpa using hnot),
            ih hinner houter hlater, List.length_cons, Nat.add_right_comm,
            if_neg (Nat.succ_ne_zero _), Nat.add_sub_cancel]
        | nil =>
          cases outer with
          | nil => exact ih hinner houter hlater i
          | cons o outer =>
            obtain ⟨ho, houter⟩ := List.forall_mem_cons.1 houter
            have haround : Around cursor (o, p) := ⟨ho, hp⟩
            have houter' := ih hinner houter hlater
            simp only [List.nil_append, List.length_nil, Nat.zero_add] at houter' ⊢
            rw [List.head?_cons, Option.map_some, Option.toList_some, List.singleton_append,
              List.tail_cons, List.filter_cons_of_pos (by simpa using haround)]
            cases i with
            | zero => rfl
            | succ i => exact houter' i
      · rw [if_neg hclosing, if_neg hclosing, ih hinner houter hlater]

/-- At a cursor the characters part into those up to it and those from it on; a closing bracket
under the cursor is one of the latter. -/
theorem exists_parts (hne : opening ≠ closing) (cursor : Position)
    {placed : List (Position × Char)} (hplaced : placed.Pairwise fun x y => x.1 < y.1) :
    ∃ upto later, placed = upto ++ later ∧
      ((placed.dropWhile (·.1 < cursor)).take 1).filter
          (fun c => c.1 = cursor ∧ c.2 ≠ closing) ++ (placed.takeWhile (·.1 < cursor)).reverse =
        upto.reverse ∧
      (∀ x ∈ upto, ¬ cursor < x.1 ∧ (x.2 = closing → x.1 < cursor)) ∧
      ∀ x ∈ later, ¬ x.1 < cursor ∧ (x.2 = opening → cursor < x.1) := by
  have hsplit := List.takeWhile_append_dropWhile (p := fun x => decide (x.1 < cursor)) (l := placed)
  have hbefore : ∀ x ∈ placed.takeWhile (·.1 < cursor), x.1 < cursor := fun x hx =>
    of_decide_eq_true
      (List.mem_takeWhile_imp (p := fun x : Position × Char => decide (x.1 < cursor)) hx)
  have hfirst := List.head?_dropWhile_not (fun x => decide (x.1 < cursor)) placed
  generalize placed.takeWhile (·.1 < cursor) = before at *
  generalize placed.dropWhile (·.1 < cursor) = rest at *
  subst hsplit
  have hupto : ∀ x ∈ before, ¬ cursor < x.1 ∧ (x.2 = closing → x.1 < cursor) := fun x hx =>
    ⟨Position.lt_asymm (hbefore x hx), fun _ => hbefore x hx⟩
  -- the character at the cursor belongs to the part in front, unless it closes
  cases rest with
  | nil => exact ⟨before, [], rfl, rfl, hupto, nofun⟩
  | cons x rest =>
    have hx : ¬ x.1 < cursor := of_decide_eq_false hfirst
    have hrest : ∀ y ∈ rest, cursor < y.1 := fun y hy =>
      Position.lt_of_not_lt_of_lt hx
        ((List.pairwise_cons.1 (List.pairwise_append.1 hplaced).2.1).1 y hy)
    have hlater : ∀ y ∈ rest, ¬ y.1 < cursor ∧ (y.2 = opening → cursor < y.1) := fun y hy =>
      ⟨Position.lt_asymm (hrest y hy), fun _ => hrest y hy⟩
    by_cases hhere : x.1 = cursor ∧ x.2 ≠ closing
    · refine ⟨before ++ [x], rest, by simp, by simp [hhere], ?_, hlater⟩
      refine List.forall_mem_append.2 ⟨hupto, List.forall_mem_singleton.2 ⟨?_, ?_⟩⟩
      · rw [hhere.1]
        exact Position.lt_irrefl cursor
      · exact fun hclosing => absurd hclosing hhere.2
    · refine ⟨before, x :: rest, rfl, by simp [hhere], hupto, ?_⟩
      refine List.forall_mem_cons.2 ⟨⟨hx, fun hopening => ?_⟩, hlater⟩
      by_contra hnot
      exact hhere ⟨Position.eq_of_not_lt hx hnot, fun h => hne (hopening.symm.trans h)⟩

end Pairs

/-- The matched pairs of brackets around the cursor, the innermost first. -/
def Buffer.pairsAround (b : Buffer) (cursor : Position) (opening closing : Char) :
    List (Position × Position) :=
  (matchedPairs opening closing [] (placedLines 0 b.lines)).filter (Around cursor)

section Object

variable {b : Buffer} {cursor : Position} {opening closing : Char}

/-- The pairs around a place are one inside of the other. -/
theorem pairwise_pairsAround :
    (b.pairsAround cursor opening closing).Pairwise fun inner outer =>
      outer.1 < inner.1 ∧ inner.2 < outer.2 := by
  have hpairs : (matchedPairs opening closing [] (placedLines 0 b.lines)).Pairwise _ :=
    pairwise_matchedPairs .nil (pairwise_placedLines 0 b.lines) nofun
  refine List.pairwise_filter.2 (hpairs.imp fun {x y} hpair hx hy => ?_)
  obtain ⟨hlast, hfirst⟩ := hpair
  refine ⟨hfirst.resolve_right fun hbehind => ?_, hlast⟩
  -- a pair behind another one is not around the same place
  exact (of_decide_eq_true hy).1
    (Position.lt_of_not_lt_of_lt (of_decide_eq_true hx).2 hbehind)

/-- They are the pairs between whose brackets the brackets match. -/
theorem mem_pairsAround_iff (hne : opening ≠ closing) {pair : Position × Position} :
    pair ∈ b.pairsAround cursor opening closing ↔
      Matched opening closing (placedLines 0 b.lines) pair ∧ Around cursor pair := by
  rw [Buffer.pairsAround, List.mem_filter, mem_matchedPairs_iff hne, decide_eq_true_iff]

/-- The two scans find the pair around the cursor that has as many others in it as were passed. -/
theorem bracketPair_eq (hne : opening ≠ closing) (n : Nat) :
    bracketPair b cursor opening closing n = (b.pairsAround cursor opening closing)[n - 1]? := by
  have hplaced := pairwise_placedLines 0 b.lines
  obtain ⟨upto, later, hsplit, hback, hupto, hlater⟩ := exists_parts hne cursor hplaced
  rw [bracketPair, hback, findOpening_reverse hne, Buffer.pairsAround, hsplit,
    matchedPairs_append, List.filter_append]
  rw [hsplit] at hplaced
  -- what is closed in front of the cursor is not around it
  have hclosed : (matchedPairs opening closing [] upto).filter (Around cursor) = [] := by
    refine List.filter_eq_nil_iff.2 fun pair hpair haround => ?_
    exact (of_decide_eq_true haround).2 ((hupto _ (mem_of_mem_matchedPairs hpair).2).2 rfl)
  have houter : ∀ q ∈ openBrackets opening closing [] upto, ¬ cursor < q := by
    intro q hq
    obtain ⟨k, hk⟩ := List.mem_iff_getElem?.1 hq
    obtain ⟨front, behind, rfl, -⟩ := exists_findClosing hk
    exact (hupto (q, opening) (List.mem_append_right _ List.mem_cons_self)).1
  have hpairs : ((matchedPairs opening closing ([] ++ openBrackets opening closing [] upto)
      later).filter (Around cursor))[n - 1]? = _ :=
    getElem?_matchedPairs (List.forall_mem_nil _) houter hlater (n - 1)
  rw [List.nil_append, List.length_nil, Nat.zero_add] at hpairs
  rw [hclosed, List.nil_append, hpairs, Nat.zero_add]
  cases hfirst : (openBrackets opening closing [] upto)[n - 1]? with
  | none => rfl
  | some first =>
    obtain ⟨front, behind, rfl, hclosing⟩ := exists_findClosing hfirst
    rw [List.append_assoc, List.cons_append] at hplaced ⊢
    have hdrop := dropWhile_placed hplaced
    simp only [Option.bind_eq_bind, Option.bind_some, hdrop, hclosing]
    cases findClosing opening closing (n - 1) later <;> rfl

/-- **Brackets pair as they nest.** The pairs around the cursor are the brackets up to it and from it
on between which the brackets match, and they are one inside of the other. A bracketed object is what
belongs to the pair that the count says, from the innermost on, and fails if there are fewer. With
its brackets it goes from the one to behind the other; without them it is made of the rows between
them if the opening bracket ends its row, nothing but blanks is in front of the closing bracket, and
there are such rows. -/
theorem TextObject.resolve_bracket (hne : opening ≠ closing) (b : Buffer) (cursor : Position)
    (n : Nat) (inner : Bool) :
    let pairs := b.pairsAround cursor opening closing
    let o : TextObject := ⟨.bracket opening closing, inner⟩
    (∀ pair, pair ∈ pairs ↔
        Matched opening closing (placedLines 0 b.lines) pair ∧ Around cursor pair) ∧
      pairs.Pairwise (fun p q => q.1 < p.1 ∧ p.2 < q.2) ∧
      (o.resolve b cursor n = .error .motionFailed ↔ pairs.length < max n 1) ∧
      ∀ first last, pairs[max n 1 - 1]? = some (first, last) →
        o.resolve b cursor n = .ok (
          if inner then
            if first.col + 1 = b.lineSize first.row ∧
                (takeBytes (b.line last.row) last.col).all Unicode.isBlank ∧
                first.row + 1 < last.row then
              .lines (first.row + 1) (last.row - 1)
            else .chars ⟨first.row, first.col + 1⟩ last
          else .chars first ⟨last.row, last.col + 1⟩) := by
  intro pairs o
  -- what is selected of a pair does not depend on how it was found
  have hrange : o.range? b cursor n = pairs[max n 1 - 1]?.map fun pair =>
      if inner then
        if pair.1.col + 1 = b.lineSize pair.1.row ∧
            (takeBytes (b.line pair.2.row) pair.2.col).all Unicode.isBlank ∧
            pair.1.row + 1 < pair.2.row then
          .lines (pair.1.row + 1) (pair.2.row - 1)
        else .chars ⟨pair.1.row, pair.1.col + 1⟩ pair.2
      else .chars pair.1 ⟨pair.2.row, pair.2.col + 1⟩ := by
    simp only [o, TextObject.range?, bracketRange, bracketPair_eq hne]
    cases inner <;> rfl
  refine ⟨fun _ => mem_pairsAround_iff hne, pairwise_pairsAround, ?_, fun first last hpair => ?_⟩
  · rw [TextObject.resolve, hrange]
    cases hpair : pairs[max n 1 - 1]? with
    | none =>
      have hfew := List.getElem?_eq_none_iff.1 hpair
      simp only [Option.map_none, true_iff]
      omega
    | some pair =>
      obtain ⟨hmany, -⟩ := List.getElem?_eq_some_iff.1 hpair
      simp only [Option.map_some, reduceCtorEq, false_iff]
      omega
  · rw [TextObject.resolve, hrange, hpair]
    rfl

/-- Around `y` there is the pair that begins behind `f`; the bracket in front of `f` closes nothing,
and the pair around `x` is closed before. -/
theorem TextObject.resolve_bracket_rows :
    let b := Buffer.ofText [')', 'f', '(', '\n', ' ', '(', 'x', ')', ' ', 'y', '\n', ')']
    let o : TextObject := ⟨.bracket '(' ')', true⟩
    b.pairsAround ⟨1, 5⟩ '(' ')' = [(⟨0, 2⟩, ⟨2, 0⟩)] ∧
      o.resolve b ⟨1, 5⟩ 1 = .ok (.lines 1 1) ∧ o.resolve b ⟨1, 5⟩ 2 = .error .motionFailed := by
  intro b o
  have hpairs : b.pairsAround ⟨1, 5⟩ '(' ')' = [(⟨0, 2⟩, ⟨2, 0⟩)] := by decide +kernel
  have hne : '(' ≠ ')' := by decide
  obtain ⟨-, -, -, hfound⟩ := TextObject.resolve_bracket hne b ⟨1, 5⟩ 1 true
  obtain ⟨-, -, hfails, -⟩ := TextObject.resolve_bracket hne b ⟨1, 5⟩ 2 true
  have hsize : b.lineSize 0 = 3 := by decide +kernel
  have hindent : takeBytes (b.line 2) 0 = [] := by decide +kernel
  refine ⟨hpairs, ?_, hfails.2 (by rw [hpairs]; decide)⟩
  rw [hfound ⟨0, 2⟩ ⟨2, 0⟩ (by rw [hpairs]; rfl), if_pos rfl, hsize, hindent,
    if_pos ⟨rfl, rfl, by decide⟩]
  rfl

end Object

end ModalEditor
