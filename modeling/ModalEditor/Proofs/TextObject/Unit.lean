import ModalEditor.Proofs.Document.Row
import ModalEditor.TextObject.Resolve

/-!
# Objects that are made of units

The units of a line, or of the whole buffer, follow on each other without gaps and are none of them
empty (`TextUnit.Tiles`). For words and paragraphs that the pieces of which they are put together have a
size is all that it takes (`tiles_runs`). For sentences each turn of the loop goes on where the one before
stopped (`tiles_sentencesFrom`); that a last sentence which nothing ends is not empty takes that the
character it begins with is not among the blanks at the end of the line (`lt_trimmedSize`). So the cursor
is in exactly one unit.

The inner object is that unit and those behind it. The walk that pairs units with blank ones takes at
least as many (`takePairs_eq_take`), and may only add the unit in front, so the other object holds the
inner one and ends where units end (`ObjectKind.resolve_units`).
-/

namespace ModalEditor

open Unicode

/-- A cursor at rest is on a row of the text. -/
theorem Buffer.row_lt_of_rest {b : Buffer} {p : Position} (hp : b.rest p = p) :
    p.row < b.lineCount :=
  hp ▸ (b.inside_clamp p).row

namespace TextUnit

/-! ## Units without gaps -/

/-- The units cover what is between the offsets, one after the other, and none of them is empty. -/
def Tiles : Nat → List TextUnit → Nat → Prop
  | first, [], past => first = past
  | first, u :: us, past => u.first = first ∧ u.first < u.past ∧ Tiles u.past us past

instance : (first : Nat) → (us : List TextUnit) → (past : Nat) → Decidable (Tiles first us past)
  | first, [], past => inferInstanceAs (Decidable (first = past))
  | first, u :: us, past =>
    have := instDecidableTiles u.past us past
    inferInstanceAs (Decidable (u.first = first ∧ u.first < u.past ∧ Tiles u.past us past))

variable {us vs : List TextUnit} {u : TextUnit} {first past at_ : Nat}

/-- Units begin before they end. -/
theorem Tiles.le (h : Tiles first us past) : first ≤ past := by
  induction us generalizing first with
  | nil => exact Nat.le_of_eq h
  | cons u us ih =>
    obtain ⟨rfl, hlt, hrest⟩ := h
    exact Nat.le_trans (Nat.le_of_lt hlt) (ih hrest)

/-- Units that follow on each other can be cut between any two. -/
theorem tiles_append :
    Tiles first (us ++ vs) past ↔ ∃ between, Tiles first us between ∧ Tiles between vs past := by
  induction us generalizing first with
  | nil => exact ⟨fun h => ⟨first, rfl, h⟩, fun ⟨_, heq, h⟩ => heq ▸ h⟩
  | cons u us ih =>
    simp only [List.cons_append, Tiles, ih]
    exact ⟨fun ⟨hu, hlt, between, h, h'⟩ => ⟨between, ⟨hu, hlt, h⟩, h'⟩,
      fun ⟨between, ⟨hu, hlt, h⟩, h'⟩ => ⟨hu, hlt, between, h, h'⟩⟩

/-- The first units have no gaps either. -/
theorem Tiles.take (h : Tiles first us past) (n : Nat) :
    ∃ between, Tiles first (us.take n) between ∧ between ≤ past := by
  rw [← List.take_append_drop n us] at h
  obtain ⟨between, htake, hdrop⟩ := tiles_append.1 h
  exact ⟨between, htake, hdrop.le⟩

/-- Without any offsets there are no units. -/
theorem Tiles.eq_nil (h : Tiles first us first) : us = [] := by
  cases us with
  | nil => rfl
  | cons u us =>
    obtain ⟨rfl, hlt, hrest⟩ := h
    exact absurd hrest.le (Nat.not_le.2 hlt)

/-- The last unit ends where all of them do. -/
theorem Tiles.getLast (h : Tiles first us past) (hus : us ≠ []) :
    ∃ u, us.getLast? = some u ∧ u.past = past := by
  obtain ⟨front, u, rfl⟩ := (List.eq_nil_or_concat us).resolve_left hus
  rw [List.concat_eq_append] at h ⊢
  obtain ⟨between, -, -, -, hlast⟩ := tiles_append.1 h
  exact ⟨u, List.getLast?_concat, hlast⟩

/-- The last unit begins in front of the end. -/
theorem Tiles.first_le (h : Tiles first us past) (hu : us.getLast? = some u) : u.first ≤ past := by
  obtain ⟨front, rfl⟩ := List.getLast?_eq_some_iff.1 hu
  obtain ⟨between, -, -, hlt, rfl⟩ := tiles_append.1 h
  exact Nat.le_of_lt hlt

/-- From a unit on, all that follow reach to the end. -/
theorem Tiles.spanTo (h : Tiles first us past) (hus : us ≠ []) (u : TextUnit) :
    spanTo u us = (u.first, past) := by
  obtain ⟨last, hlast, hpast⟩ := h.getLast hus
  rw [TextUnit.spanTo, hlast, Option.getD_some, hpast]

/-- Every offset between the ends is in a unit. -/
theorem Tiles.exists_unit (h : Tiles first us past) (hfirst : first ≤ at_) (hpast : at_ < past) :
    ∃ front u later, us = front ++ u :: later ∧ u.first ≤ at_ ∧ at_ < u.past := by
  induction us generalizing first with
  | nil => exact absurd (h ▸ hfirst) (Nat.not_le.2 hpast)
  | cons u us ih =>
    obtain ⟨rfl, hlt, hrest⟩ := h
    rcases Nat.lt_or_ge at_ u.past with hin | hbehind
    · exact ⟨[], u, us, rfl, hfirst, hin⟩
    · obtain ⟨front, v, later, rfl, hv⟩ := ih hrest hbehind
      exact ⟨u :: front, v, later, rfl, hv⟩

/-! ## Dividing into units -/

section Pieces

variable {κ : Type}

/-- The size of all pieces. -/
def sizeOfPieces : List (κ × Nat) → Nat
  | [] => 0
  | piece :: later => piece.2 + sizeOfPieces later

/-- Pieces that have a size make the unit longer, or begin new ones behind it. -/
theorem tiles_runsFrom [DecidableEq κ] (isBlankClass : κ → Bool) {pieces : List (κ × Nat)}
    (hpieces : ∀ piece ∈ pieces, 0 < piece.2) (k : κ) {u : TextUnit} (hu : u.first < u.past) :
    Tiles u.first (runsFrom isBlankClass k u pieces) (u.past + sizeOfPieces pieces) := by
  induction pieces generalizing k u with
  | nil => exact ⟨rfl, hu, rfl⟩
  | cons piece pieces ih =>
    obtain ⟨k', size⟩ := piece
    obtain ⟨hsize, hlater⟩ := List.forall_mem_cons.1 hpieces
    rw [sizeOfPieces, ← Nat.add_assoc, runsFrom]
    split
    · -- the piece joins the unit
      exact ih hlater k (u := ⟨u.first, u.past + size, u.blank⟩) (Nat.lt_add_right size hu)
    · have hnext := ih hlater k' (u := ⟨u.past, u.past + size, isBlankClass k'⟩)
        (Nat.lt_add_of_pos_right hsize)
      exact ⟨rfl, hu, hnext⟩

/-- Pieces that have a size are put together to units without gaps. -/
theorem tiles_runs [DecidableEq κ] (isBlankClass : κ → Bool) {pieces : List (κ × Nat)}
    (hpieces : ∀ piece ∈ pieces, 0 < piece.2) :
    Tiles 0 (runs isBlankClass pieces) (sizeOfPieces pieces) := by
  cases pieces with
  | nil => rfl
  | cons piece pieces =>
    obtain ⟨k, size⟩ := piece
    obtain ⟨hsize, hlater⟩ := List.forall_mem_cons.1 hpieces
    exact tiles_runsFrom isBlankClass hlater k (u := ⟨0, size, isBlankClass k⟩) hsize

/-- The pieces of a line are as large as its clusters. -/
theorem sizeOfPieces_clusters (f : Cluster → κ) (gs : List Cluster) :
    sizeOfPieces (gs.map fun g => (f g, byteSize g)) = byteSize gs.flatten := by
  induction gs with
  | nil => rfl
  | cons g gs ih => rw [List.map_cons, sizeOfPieces, ih, List.flatten_cons, byteSize_append]

/-- The pieces of a buffer are its rows. -/
theorem sizeOfPieces_rows (f : Text → κ) (ls : List Text) :
    sizeOfPieces (ls.map fun l => (f l, 1)) = ls.length := by
  induction ls with
  | nil => rfl
  | cons l ls ih => rw [List.map_cons, sizeOfPieces, ih, List.length_cons, Nat.add_comm]

end Pieces

/-- The words of a line, with what is between them, cover the line without gaps. -/
theorem tiles_words (big : Bool) (l : Text) : Tiles 0 (words big l) (byteSize l) := by
  have hsize := sizeOfPieces_clusters (classify big) (clusters l)
  rw [flatten_clusters] at hsize
  rw [← hsize]
  refine tiles_runs _ fun piece hpiece => ?_
  obtain ⟨g, hg, rfl⟩ := List.mem_map.1 hpiece
  exact byteSize_pos (clusters_ne_nil hg)

/-- The paragraphs of a buffer, with the blank rows between them, cover its rows without gaps. -/
theorem tiles_paragraphs (b : Buffer) : Tiles 0 (paragraphs b) b.lineCount := by
  rw [Buffer.lineCount, ← sizeOfPieces_rows (·.all isBlank) b.lines]
  refine tiles_runs _ fun piece hpiece => ?_
  obtain ⟨l, -, rfl⟩ := List.mem_map.1 hpiece
  exact Nat.one_pos

/-! ## Dividing into sentences -/

/-- The size of a text does not depend on its direction. -/
theorem byteSize_reverse (t : Text) : byteSize t.reverse = byteSize t := by
  induction t with
  | nil => rfl
  | cons c t ih =>
    rw [List.reverse_cons, byteSize_append, ih, byteSize_cons, byteSize_cons, byteSize_nil]
    omega

/-- Trimming does not make a text longer. -/
theorem trimmedSize_le (t : Text) : trimmedSize t ≤ byteSize t := by
  have hparts := congrArg byteSize (List.takeWhile_append_dropWhile (p := isBlank) (l := t.reverse))
  rw [byteSize_append, byteSize_reverse] at hparts
  rw [trimmedSize]
  omega

/-- A character that is not blank is not among the blanks at the end. -/
theorem lt_trimmedSize {c : Char} (hc : ¬ isBlank c = true) (u v : Text) :
    byteSize u < trimmedSize (u ++ c :: v) := by
  obtain ⟨w, hw⟩ : ∃ w, (u ++ c :: v).reverse.dropWhile isBlank = w ++ c :: u.reverse := by
    rw [List.reverse_append, List.reverse_cons, List.append_assoc, List.dropWhile_append]
    split
    · exact ⟨[], List.dropWhile_cons_of_neg hc⟩
    · exact ⟨_, rfl⟩
  have hpos := c.utf8Size_pos
  rw [trimmedSize, hw, byteSize_append, byteSize_cons, byteSize_reverse]
  omega

/-- A sentence either goes on to the end of the text, or ends behind some of it. -/
theorem readSentence_cases (unended at_ : Nat) (t : Text) :
    readSentence unended at_ t = (unended, []) ∨
      ∃ read, read ≠ [] ∧ t = read ++ (readSentence unended at_ t).2 ∧
        (readSentence unended at_ t).1 = at_ + byteSize read := by
  -- the walk over the sentence: at its end, at an end of a sentence with and without a blank behind,
  -- and at another character
  fun_induction readSentence unended at_ t with
  | case1 => exact .inl rfl
  | case2 at_ c cs hends past later hlast =>
    refine .inr ⟨c :: cs.takeWhile closesSentence, List.cons_ne_nil _ _, ?_, ?_⟩
    · rw [List.cons_append, List.takeWhile_append_dropWhile]
    · rw [byteSize_cons, ← Nat.add_assoc]
  | case3 at_ c cs hends past later hlast ih =>
    refine ih.imp_right ?_
    rintro ⟨read, -, hcut, hpast⟩
    refine ⟨c :: cs.takeWhile closesSentence ++ read, List.cons_ne_nil _ _, ?_, ?_⟩
    · rw [List.append_assoc, ← hcut, List.cons_append, List.takeWhile_append_dropWhile]
    · rw [hpast, byteSize_append, byteSize_cons, ← Nat.add_assoc, ← Nat.add_assoc]
  | case4 at_ c cs hends ih =>
    refine ih.imp_right ?_
    rintro ⟨read, -, hcut, hpast⟩
    refine ⟨c :: read, List.cons_ne_nil _ _, ?_, ?_⟩
    · rw [List.cons_append, ← hcut]
    · rw [hpast, byteSize_cons, Nat.add_assoc]

/-- What is between a sentence and the next is one blank unit, or none. -/
theorem tiles_blankBetween {first past : Nat} (h : first ≤ past) :
    Tiles first (blankBetween first past) past := by
  rw [blankBetween]
  split
  · exact ⟨rfl, ‹_›, rfl⟩
  · exact Nat.le_antisymm h (Nat.not_lt.1 ‹_›)

/-- A sentence behind blanks is not empty and ends inside the line. If text is left, that is what stands
behind the end. -/
theorem readSentence_spec {l before t : Text} (hl : l = before ++ t)
    (hrest : t.dropWhile isBlank ≠ []) {start : Nat}
    (hstart : start = byteSize before + byteSize (t.takeWhile isBlank)) :
    let read := readSentence (trimmedSize l) start (t.dropWhile isBlank)
    start < read.1 ∧ read.1 ≤ byteSize l ∧
      (read.2 ≠ [] → ∃ front, l = front ++ read.2 ∧ byteSize front = read.1) := by
  intro read
  rw [← byteSize_append] at hstart
  have hcut : l = (before ++ t.takeWhile isBlank) ++ t.dropWhile isBlank := by
    rw [List.append_assoc, List.takeWhile_append_dropWhile, hl]
  rcases readSentence_cases (trimmedSize l) start (t.dropWhile isBlank) with hunended | hended
  · -- nothing ends the sentence: it goes on to the blanks at the end of the line
    obtain ⟨c, cs, hc⟩ := List.exists_cons_of_ne_nil hrest
    have hnot : ¬ isBlank c = true := by
      have hhead := List.head?_dropWhile_not isBlank t
      rw [hc] at hhead
      exact Bool.eq_false_iff.1 hhead
    have hread : read = (trimmedSize l, []) := hunended
    rw [hread]
    refine ⟨?_, trimmedSize_le l, fun hne => absurd rfl hne⟩
    rw [hcut, hc, hstart]
    exact lt_trimmedSize hnot _ cs
  · obtain ⟨sentence, hne, hsentence, hpast⟩ := hended
    have hsize := byteSize_pos hne
    have hfront : l = (before ++ t.takeWhile isBlank ++ sentence) ++ read.2 := by
      rw [List.append_assoc _ sentence, ← hsentence, ← hcut]
    have hread : byteSize (before ++ t.takeWhile isBlank ++ sentence) = read.1 := by
      rw [byteSize_append, ← hstart, ← hpast]
    refine ⟨Nat.lt_of_lt_of_eq (Nat.lt_add_of_pos_right hsize) hpast.symm, ?_,
      fun _ => ⟨_, hfront, hread⟩⟩
    have hall := congrArg byteSize hfront
    rw [byteSize_append, hread] at hall
    exact hall ▸ Nat.le_add_right _ _

/-- The units that are read from an offset on have no gaps, whatever the line was in front of it. -/
theorem tiles_sentencesFrom {l before t : Text} (hl : l = before ++ t) :
    Tiles (byteSize before) (sentencesFrom l (byteSize before) t) (byteSize l) := by
  generalize hat : byteSize before = at_
  fun_induction sentencesFrom l at_ t generalizing before with
  | case1 at_ =>
    rw [← hat, hl, List.append_nil]
    rfl
  | case2 at_ c cs _ =>
    -- nothing but blanks is left
    refine ⟨rfl, ?_, rfl⟩
    have hpos := byteSize_pos (List.cons_ne_nil c cs)
    rw [← hat, hl, byteSize_append]
    exact Nat.lt_add_of_pos_right hpos
  | case3 at_ c cs rest start hrest gap read hlt =>
    have hstart : start = byteSize before + byteSize ((c :: cs).takeWhile isBlank) := by rw [hat]
    obtain ⟨hsize, hinside, -⟩ := readSentence_spec hl hrest hstart
    have hpast : max read.1 start = read.1 := Nat.max_eq_left (Nat.le_of_lt hsize)
    rw [hpast]
    exact tiles_append.2 ⟨start, tiles_blankBetween (Nat.le_add_right _ _), rfl, hsize,
      tiles_blankBetween hinside⟩
  | case4 at_ c cs rest start hrest gap read hlt hmore =>
    rename_i ih
    have hstart : start = byteSize before + byteSize ((c :: cs).takeWhile isBlank) := by rw [hat]
    obtain ⟨hsize, -, hfront⟩ := readSentence_spec hl hrest hstart
    obtain ⟨front, hfront, hread⟩ := hfront hmore
    exact tiles_append.2 ⟨start, tiles_blankBetween (Nat.le_add_right _ _), rfl, hsize,
      ih hfront hread⟩

/-- The sentences of a line, with the blanks between them, cover the line without gaps. -/
theorem tiles_sentences (l : Text) : Tiles 0 (sentences l) (byteSize l) :=
  tiles_sentencesFrom (show l = [] ++ l from rfl)

/-- A mark inside a word ends no sentence, and blanks at the end of the line belong to none. -/
example : Tiles 0 [⟨0, 4, false⟩, ⟨4, 5, true⟩, ⟨5, 8, false⟩, ⟨8, 10, true⟩] 10 ∧
    sentences "a.b! c.d  ".toList =
      [⟨0, 4, false⟩, ⟨4, 5, true⟩, ⟨5, 8, false⟩, ⟨8, 10, true⟩] := by
  decide +kernel

/-! ## Choosing units -/

/-- A pair is a unit, or two of them. -/
theorem takePair_cons (fromBlank : Bool) (u : TextUnit) (us : List TextUnit) :
    takePair fromBlank (u :: us) = ([u], us) ∨
      ∃ v later, us = v :: later ∧ takePair fromBlank (u :: us) = ([u, v], later) := by
  cases us with
  | nil => exact .inl rfl
  | cons v later =>
    by_cases hpair : (if fromBlank then u.blank else v.blank) = true
    · exact .inr ⟨v, later, rfl, if_pos hpair⟩
    · exact .inl (if_neg hpair)

/-- So many pairs are at least as many units, if there are as many. -/
theorem takePairs_eq_take (fromBlank : Bool) (n : Nat) (us : List TextUnit) :
    ∃ m, n ≤ m ∧ takePairs fromBlank n us = us.take m := by
  induction n generalizing us with
  | zero => exact ⟨0, Nat.le_refl 0, rfl⟩
  | succ n ih =>
    cases us with
    | nil => exact ⟨n + 1, Nat.le_refl _, rfl⟩
    | cons u us =>
      rcases takePair_cons fromBlank u us with hone | ⟨v, later, rfl, htwo⟩
      · obtain ⟨m, hm, htake⟩ := ih us
        refine ⟨m + 1, Nat.succ_le_succ hm, ?_⟩
        rw [takePairs, hone, List.take_succ_cons, ← htake]
        rfl
      · obtain ⟨m, hm, htake⟩ := ih later
        refine ⟨m + 2, by omega, ?_⟩
        rw [takePairs, htwo, List.take_succ_cons, List.take_succ_cons, ← htake]
        rfl

/-- Goes to the unit that holds the offset. -/
theorem spanIn_eq {front later : List TextUnit} (htiles : Tiles first (front ++ u :: later) past)
    (hfirst : u.first ≤ at_) (hpast : at_ < u.past) (n : Nat) (inner : Bool)
    (before : Option TextUnit) :
    spanIn at_ n inner before (front ++ u :: later) =
      some (spanFrom (front.getLast?.or before) u later n inner) := by
  induction front generalizing first before with
  | nil =>
    cases later with
    | nil => rfl
    | cons v later => exact if_pos ⟨hfirst, hpast⟩
  | cons w front ih =>
    obtain ⟨-, -, hrest⟩ := htiles
    -- the unit in front ends before the one that holds the offset
    have hbefore : w.past ≤ u.first := by
      obtain ⟨between, hfront, rfl, -⟩ := tiles_append.1 hrest
      exact hfront.le
    have hnot : ¬ (w.first ≤ at_ ∧ at_ < w.past) := by omega
    obtain ⟨v, vs, hvs⟩ := List.exists_cons_of_ne_nil
      (List.append_ne_nil_of_right_ne_nil front (List.cons_ne_nil u later))
    have hnext := ih hrest (some w)
    rw [List.cons_append]
    rw [hvs] at hnext ⊢
    rw [spanIn, if_neg hnot, hnext, List.getLast?_cons]
    cases front.getLast? with
    | none => rfl
    | some x => rfl

/-- The object with what parts it from its neighbours begins with its own unit or with the one in
front. -/
theorem spanFrom_around (before : Option TextUnit) (u : TextUnit) (later : List TextUnit) (n : Nat) :
    ∃ v, (v = u ∨ before = some v) ∧
      spanFrom before u later n false = spanTo v (takePairs u.blank n (u :: later)) := by
  rw [spanFrom, if_neg Bool.false_ne_true]
  cases before with
  | none => exact ⟨u, .inl rfl, rfl⟩
  | some b =>
    cases hlast : (takePairs u.blank n (u :: later)).getLast? with
    | none => exact ⟨u, .inl rfl, by simp only [hlast]⟩
    | some last =>
      simp only [hlast]
      split
      · exact ⟨b, .inr rfl, rfl⟩
      · exact ⟨u, .inl rfl, rfl⟩

/-- The units from the one that holds the offset on, `n` of them or as many as there are, cover the
inner offsets. The offsets around them begin and end where units do. -/
structure Spans (us : List TextUnit) (at_ n : Nat) (inner around : Nat × Nat) : Prop where
  chosen : ∃ front u later, us = front ++ u :: later ∧ u.first ≤ at_ ∧ at_ < u.past ∧
    Tiles inner.1 ((u :: later).take n) inner.2
  holds : inner.1 ≤ at_ ∧ at_ < inner.2
  contains : around.1 ≤ inner.1 ∧ inner.2 ≤ around.2
  begins : ∃ u ∈ us, u.first = around.1
  ends : ∃ u ∈ us, u.past = around.2

/-- Where the units hold the offset there are both objects. -/
theorem exists_spans (htiles : Tiles first us past) (hfirst : first ≤ at_) (hpast : at_ < past)
    {n : Nat} (hn : 1 ≤ n) :
    ∃ inner around, span us at_ n true = some inner ∧ span us at_ n false = some around ∧
      Spans us at_ n inner around := by
  obtain ⟨front, u, later, rfl, hu, hu'⟩ := htiles.exists_unit hfirst hpast
  obtain ⟨m, hm, htaken⟩ := takePairs_eq_take u.blank n (u :: later)
  obtain ⟨_, hfront, hfrom⟩ := tiles_append.1 htiles
  obtain rfl := hfrom.1
  -- what is taken of the units begins with those that are chosen
  obtain ⟨around, haround, -⟩ := hfrom.take m
  obtain ⟨inner, hinner, hle⟩ := haround.take n
  rw [List.take_take, Nat.min_eq_left hm] at hinner
  have htake {k : Nat} (hk : n ≤ k) : (u :: later).take k = u :: later.take (k - 1) := by
    rw [← List.take_succ_cons, Nat.sub_add_cancel (Nat.le_trans hn hk)]
  have hholds : at_ < inner := by
    rw [htake (Nat.le_refl n)] at hinner
    exact Nat.lt_of_lt_of_le hu' hinner.2.2.le
  have hspanInner : spanTo u ((u :: later).take n) = (u.first, inner) :=
    hinner.spanTo (htake (Nat.le_refl n) ▸ List.cons_ne_nil _ _) u
  have hne : (u :: later).take m ≠ [] := htake hm ▸ List.cons_ne_nil _ _
  obtain ⟨v, hv, hspanAround⟩ := spanFrom_around (front.getLast?.or none) u later n
  rw [htaken, haround.spanTo hne] at hspanAround
  have hbegins : v ∈ front ++ u :: later ∧ v.first ≤ u.first := by
    rcases hv with rfl | hbefore
    · exact ⟨List.mem_append_right _ List.mem_cons_self, Nat.le_refl _⟩
    · rw [Option.or_none] at hbefore
      exact ⟨List.mem_append_left _ (List.mem_of_getLast? hbefore), hfront.first_le hbefore⟩
  obtain ⟨w, hw, hends⟩ := haround.getLast hne
  refine ⟨(u.first, inner), (v.first, around), ?_, ?_, ⟨front, u, later, rfl, hu, hu', hinner⟩,
    ⟨hu, hholds⟩, ⟨hbegins.2, hle⟩, ⟨v, hbegins.1, rfl⟩, w, ?_, hends⟩
  · rw [span, spanIn_eq htiles hu hu', spanFrom, if_pos rfl, hspanInner]
  · rw [span, spanIn_eq htiles hu hu', hspanAround]
  · exact List.mem_append_right _ (List.mem_of_mem_take (List.mem_of_getLast? hw))

end TextUnit

/-! ## Objects -/

namespace ObjectKind

/-- The units of the cursor line, or of the buffer, if the object is made of units. -/
def units? (b : Buffer) (row : Nat) : ObjectKind → Option (List TextUnit)
  | .word big => some (TextUnit.words big (b.line row))
  | .sentence => some (TextUnit.sentences (b.line row))
  | .paragraph => some (TextUnit.paragraphs b)
  | .quote _ | .bracket .. => none

/-- Where the last unit ends. -/
def extent (b : Buffer) (row : Nat) : ObjectKind → Nat
  | .paragraph => b.lineCount
  | _ => b.lineSize row

/-- Where the cursor is among the units. -/
def offset (cursor : Position) : ObjectKind → Nat
  | .paragraph => cursor.row
  | _ => cursor.col

/-- The range of units between two offsets. -/
def stretch (row : Nat) (offsets : Nat × Nat) : ObjectKind → TextRange
  | .paragraph => .lines offsets.1 (offsets.2 - 1)
  | _ => rowRange row offsets

variable {kind : ObjectKind} {b : Buffer} {cursor : Position} {us : List TextUnit}

/-- For each kind of object the units cover the row, or all rows, without gaps. -/
theorem tiles_units (hunits : kind.units? b cursor.row = some us) :
    TextUnit.Tiles 0 us (kind.extent b cursor.row) := by
  cases kind with
  | word big => cases hunits; exact TextUnit.tiles_words big _
  | sentence => cases hunits; exact TextUnit.tiles_sentences _
  | paragraph => cases hunits; exact TextUnit.tiles_paragraphs b
  | quote mark => cases hunits
  | bracket opening closing => cases hunits

/-- An object that is made of units is looked for among them. -/
theorem range?_of_units (hrow : cursor.row < b.lineCount)
    (hunits : kind.units? b cursor.row = some us) {n : Nat} (hn : 1 ≤ n) (inner : Bool) :
    (TextObject.mk kind inner).range? b cursor n =
      (TextUnit.span us (kind.offset cursor) n inner).map (kind.stretch cursor.row) := by
  have hline : b.line? cursor.row = some (b.line cursor.row) := Buffer.getElem?_lines hrow
  have hmax : max n 1 = n := Nat.max_eq_left hn
  cases kind with
  | word big =>
    cases hunits
    simp only [TextObject.range?, hline, hmax, Option.bind_eq_bind, Option.bind_some]
    exact Option.map_eq_bind.symm
  | sentence =>
    cases hunits
    simp only [TextObject.range?, hline, hmax, Option.bind_eq_bind, Option.bind_some]
    exact Option.map_eq_bind.symm
  | paragraph =>
    cases hunits
    simp only [TextObject.range?, hmax, Option.bind_eq_bind]
    exact Option.map_eq_bind.symm
  | quote mark => cases hunits
  | bracket opening closing => cases hunits

/-- Words and sentences are found on the row of the cursor. -/
theorem extent_of_ne (hkind : kind ≠ .paragraph) (b : Buffer) (row : Nat) :
    kind.extent b row = b.lineSize row := by
  cases kind with
  | paragraph => exact absurd rfl hkind
  | _ => rfl

/-- They are found at the offset of the cursor. -/
theorem offset_of_ne (hkind : kind ≠ .paragraph) (cursor : Position) :
    kind.offset cursor = cursor.col := by
  cases kind with
  | paragraph => exact absurd rfl hkind
  | _ => rfl

/-- A cursor at rest is at a unit, unless the line is empty. -/
theorem offset_lt_extent (hrow : cursor.row < b.lineCount) (hcursor : b.rest cursor = cursor)
    (hline : ¬ (kind ≠ .paragraph ∧ b.line cursor.row = [])) :
    kind.offset cursor < kind.extent b cursor.row := by
  by_cases hkind : kind = .paragraph
  · subst hkind
    exact hrow
  · have hstarts := b.startsCluster_rest cursor
    rw [hcursor] at hstarts
    rw [extent_of_ne hkind, offset_of_ne hkind]
    rcases hstarts with ⟨hempty, -⟩ | hstarts
    · exact absurd ⟨hkind, hempty⟩ hline
    · exact hstarts.lt

/-- **Objects that are made of units.** The units of the cursor line, or of the buffer for paragraphs,
cover it without gaps and none of them is empty. There is no object if and only if the line is empty.
Where there is one, the inner object is the unit at the cursor with those behind it, as many as were
asked for or as there are; the other one holds it, and ends where units end. -/
theorem resolve_units (hcursor : b.rest cursor = cursor)
    (hunits : kind.units? b cursor.row = some us) {n : Nat} (hn : 1 ≤ n) :
    TextUnit.Tiles 0 us (kind.extent b cursor.row) ∧
      (∀ inner, (TextObject.mk kind inner).resolve b cursor n = .error .motionFailed ↔
        kind ≠ .paragraph ∧ b.line cursor.row = []) ∧
      (¬ (kind ≠ .paragraph ∧ b.line cursor.row = []) → ∃ inner around,
        (TextObject.mk kind true).resolve b cursor n = .ok (kind.stretch cursor.row inner) ∧
        (TextObject.mk kind false).resolve b cursor n = .ok (kind.stretch cursor.row around) ∧
        TextUnit.Spans us (kind.offset cursor) n inner around) := by
  have hrow := Buffer.row_lt_of_rest hcursor
  have htiles := tiles_units hunits
  have hrange := range?_of_units hrow hunits hn
  -- an empty line has no words and no sentences; everything else has units, and the cursor is on one
  by_cases hline : kind ≠ .paragraph ∧ b.line cursor.row = []
  · have hextent : kind.extent b cursor.row = 0 := by
      rw [extent_of_ne hline.1, Buffer.lineSize, hline.2]
      rfl
    have hnone : us = [] := (hextent ▸ htiles).eq_nil
    refine ⟨htiles, fun i => iff_of_true ?_ hline, fun h => absurd hline h⟩
    rw [TextObject.resolve, hrange, hnone]
    rfl
  -- the units cover the row and the cursor is in it, so one of them holds the cursor
  · obtain ⟨inner, around, hinner, haround, hspans⟩ := TextUnit.exists_spans htiles (Nat.zero_le _)
      (offset_lt_extent hrow hcursor hline) hn
    have hfound : (TextObject.mk kind true).resolve b cursor n =
        .ok (kind.stretch cursor.row inner) := by
      rw [TextObject.resolve, hrange, hinner]
      rfl
    have hfound' : (TextObject.mk kind false).resolve b cursor n =
        .ok (kind.stretch cursor.row around) := by
      rw [TextObject.resolve, hrange, haround]
      rfl
    refine ⟨htiles, fun i => iff_of_false (fun hfails => ?_) hline,
      fun _ => ⟨inner, around, hfound, hfound', hspans⟩⟩
    cases i with
    | true => rw [hfound] at hfails; cases hfails
    | false => rw [hfound'] at hfails; cases hfails

/-- Two units from the second of three sentences on. The last sentence has no blanks behind it, so
those in front of the second are taken in. -/
theorem resolve_units_sentence :
    let b := Buffer.ofText "Go. (No?) x".toList
    let us : List TextUnit :=
      [⟨0, 3, false⟩, ⟨3, 4, true⟩, ⟨4, 9, false⟩, ⟨9, 10, true⟩, ⟨10, 11, false⟩]
    b.rest ⟨0, 4⟩ = ⟨0, 4⟩ ∧ sentence.units? b 0 = some us ∧
      (TextObject.mk .sentence true).resolve b ⟨0, 4⟩ 2 = .ok (.chars ⟨0, 4⟩ ⟨0, 10⟩) ∧
      (TextObject.mk .sentence false).resolve b ⟨0, 4⟩ 2 = .ok (.chars ⟨0, 3⟩ ⟨0, 11⟩) ∧
      TextUnit.Spans us 4 2 (4, 10) (3, 11) := by
  intro b us
  have hcursor : b.rest ⟨0, 4⟩ = ⟨0, 4⟩ := by decide +kernel
  have hunits : sentence.units? b 0 = some us := by decide +kernel
  have hline : ¬ (sentence ≠ .paragraph ∧ b.line 0 = []) := by decide +kernel
  obtain ⟨-, -, hfound⟩ := resolve_units hcursor hunits (Nat.le_succ 1)
  obtain ⟨⟨_, _⟩, ⟨_, _⟩, hinner, haround, hspans⟩ := hfound hline
  have hinner' : (TextObject.mk .sentence true).resolve b ⟨0, 4⟩ 2 =
      .ok (.chars ⟨0, 4⟩ ⟨0, 10⟩) := by decide +kernel
  have haround' : (TextObject.mk .sentence false).resolve b ⟨0, 4⟩ 2 =
      .ok (.chars ⟨0, 3⟩ ⟨0, 11⟩) := by decide +kernel
  cases hinner'.symm.trans hinner
  cases haround'.symm.trans haround
  exact ⟨hcursor, hunits, hinner', haround', hspans⟩

end ObjectKind

end ModalEditor
