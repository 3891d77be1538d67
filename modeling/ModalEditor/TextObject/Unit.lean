import ModalEditor.Selection

/-!
# Units of text

Words, sentences and paragraphs are objects of one sort. The cursor line, or the whole buffer for
paragraphs, is divided into units that follow on each other without gaps, blank ones and others. The
inner object is the unit at the cursor and those behind it, as many as were asked for. The other
object pairs each unit with the blank unit behind it, or, where the last has none, takes the blank
unit in front; if the cursor is on a blank unit, each blank unit is paired with what follows it.
-/

namespace ModalEditor

open Unicode

/-- A stretch of offsets, or of rows. -/
structure TextUnit where
  first : Nat
  past : Nat
  /-- The unit parts others. -/
  blank : Bool
  deriving DecidableEq, Repr

namespace TextUnit

/-! ## Choosing units -/

/-- Takes one pair of units: if the walk began on a blank unit, a blank one and the one behind it;
otherwise the next one and a blank one behind it. -/
def takePair (fromBlank : Bool) : List TextUnit → List TextUnit × List TextUnit
  | [] => ([], [])
  | [u] => ([u], [])
  | u :: v :: later =>
    if (if fromBlank then u.blank else v.blank) then ([u, v], later) else ([u], v :: later)

/-- Takes `n` pairs of units, or as many as there are. -/
def takePairs (fromBlank : Bool) : Nat → List TextUnit → List TextUnit
  | 0, _ => []
  | n + 1, us =>
    match takePair fromBlank us with
    | ([], _) => []
    | (pair, later) => pair ++ takePairs fromBlank n later

/-- The offsets from the beginning of `u` to the end of the last of `us`. -/
def spanTo (u : TextUnit) (us : List TextUnit) : Nat × Nat :=
  (u.first, ((us.getLast?).getD u).past)

/-- The offsets of the object that begins with the unit `u`, where `before` is the unit in front of
it and `later` are those behind it. -/
def spanFrom (before : Option TextUnit) (u : TextUnit) (later : List TextUnit) (n : Nat)
    (inner : Bool) : Nat × Nat :=
  if inner then spanTo u ((u :: later).take n)
  else
    let taken := takePairs u.blank n (u :: later)
    match before, taken.getLast? with
    | some b, some last =>
      if !u.blank && !last.blank && b.blank then spanTo b taken else spanTo u taken
    | _, _ => spanTo u taken

/-- Goes to the unit at an offset, or to the last unit, and gives the offsets of the object there.
-/
def spanIn (at_ n : Nat) (inner : Bool) (before : Option TextUnit) :
    List TextUnit → Option (Nat × Nat)
  | [] => none
  | [u] => some (spanFrom before u [] n inner)
  | u :: v :: later =>
    if u.first ≤ at_ ∧ at_ < u.past then some (spanFrom before u (v :: later) n inner)
    else spanIn at_ n inner (some u) (v :: later)

/-- The offsets of the object at an offset. There is none if there are no units. -/
def span (us : List TextUnit) (at_ n : Nat) (inner : Bool) : Option (Nat × Nat) :=
  spanIn at_ n inner none us

/-! ## Dividing into units -/

/-- Goes on with the unit `u`, whose class is `k`: a piece of that class makes it longer, another one ends
it and begins the next. Pieces are given by their class and their size. -/
def runsFrom {κ : Type} [DecidableEq κ] (isBlankClass : κ → Bool) :
    κ → TextUnit → List (κ × Nat) → List TextUnit
  | _, u, [] => [u]
  | k, u, (k', size) :: later =>
    if k' = k then runsFrom isBlankClass k { u with past := u.past + size } later
    else u :: runsFrom isBlankClass k' ⟨u.past, u.past + size, isBlankClass k'⟩ later

/-- Units from pieces that are given by their class and their size: neighbours of one class are one
unit. -/
def runs {κ : Type} [DecidableEq κ] (isBlankClass : κ → Bool) : List (κ × Nat) → List TextUnit
  | [] => []
  | (k, size) :: later => runsFrom isBlankClass k ⟨0, size, isBlankClass k⟩ later

/-- The words of a line, and what stands between them. -/
def words (big : Bool) (l : Text) : List TextUnit :=
  runs (· == WordClass.blank) ((clusters l).map fun g => (classify big g, byteSize g))

/-- The paragraphs of a buffer, and the blank rows between them. -/
def paragraphs (b : Buffer) : List TextUnit :=
  runs id (b.lines.map fun l => (l.all isBlank, 1))

/-! ## Sentences -/

/-- Does the character end a sentence? -/
def endsSentence (c : Char) : Bool :=
  c == '.' || c == '!' || c == '?'

/-- Can the character follow the end of a sentence and still belong to it? -/
def closesSentence (c : Char) : Bool :=
  c == ')' || c == ']' || c == '\x22' || c == '\x27'

/-- The size of a text without the blanks at its end. -/
def trimmedSize (t : Text) : Nat :=
  byteSize (t.reverse.dropWhile isBlank)

/-- Reads on in a sentence from the offset `at_`. It ends behind a mark and what closes it if a blank
follows or nothing does. Gives the offset where it ends and what is left of the text; for a sentence
that does not end the offset is `unended`, and nothing is left. -/
def readSentence (unended at_ : Nat) (t : Text) : Nat × Text :=
  match t with
  | [] => (unended, [])
  | c :: cs =>
    if endsSentence c then
      let past := at_ + c.utf8Size + byteSize (cs.takeWhile closesSentence)
      let later := cs.dropWhile closesSentence
      if later.head?.all isBlank then (past, later) else readSentence unended past later
    else readSentence unended (at_ + c.utf8Size) cs
termination_by t.length
decreasing_by
  · exact Nat.lt_succ_of_le (List.dropWhile_sublist closesSentence).length_le
  · exact Nat.lt_succ_self cs.length

/-- Reading a sentence uses up its first character. -/
theorem length_readSentence_lt (unended at_ : Nat) {t : Text} (ht : t ≠ []) :
    (readSentence unended at_ t).2.length < t.length := by
  fun_induction readSentence unended at_ t with
  | case1 => exact absurd rfl ht
  | case2 at_ c cs hends past later hlast =>
    exact Nat.lt_succ_of_le (List.dropWhile_sublist closesSentence).length_le
  | case3 at_ c cs hends past later hlast ih =>
    have hlater : later ≠ [] := fun hnil => hlast (by rw [hnil]; rfl)
    refine Nat.lt_trans (ih hlater) (Nat.lt_succ_of_le ?_)
    exact (List.dropWhile_sublist closesSentence).length_le
  | case4 at_ c cs hends ih =>
    by_cases hcs : cs = []
    · rw [hcs, readSentence]
      exact Nat.succ_pos _
    · exact Nat.lt_trans (ih hcs) (Nat.lt_succ_self _)

/-- The blank unit between two offsets, if there is anything between them. -/
def blankBetween (first past : Nat) : List TextUnit :=
  if first < past then [⟨first, past, true⟩] else []

/-- The sentences of the line `l`, and the blanks between them, from the offset `at_` on, where `t` is
what is left. -/
def sentencesFrom (l : Text) (at_ : Nat) (t : Text) : List TextUnit :=
  match t with
  | [] => []
  | c :: cs =>
    let rest := (c :: cs).dropWhile isBlank
    let start := at_ + byteSize ((c :: cs).takeWhile isBlank)
    if hrest : rest = [] then [⟨at_, byteSize l, true⟩]
    else
      let gap := blankBetween at_ start
      let read := readSentence (trimmedSize l) start rest
      have : read.2.length < (c :: cs).length :=
        Nat.lt_of_lt_of_le (length_readSentence_lt _ _ hrest)
          (List.dropWhile_sublist isBlank).length_le
      if read.2 = [] then
        gap ++ ⟨start, max read.1 start, false⟩ :: blankBetween (max read.1 start) (byteSize l)
      else gap ++ ⟨start, read.1, false⟩ :: sentencesFrom l read.1 read.2
termination_by t.length
decreasing_by exact this

/-- The sentences of a line, and the blanks between them. -/
def sentences (l : Text) : List TextUnit :=
  sentencesFrom l 0 l

end TextUnit

end ModalEditor
