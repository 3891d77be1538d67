import ModalEditor.Text.Basic
import ModalEditor.Unicode.Blank
import ModalEditor.Unicode.Alphanumeric
import ModalEditor.Unicode.GraphemeBreak
import ModalEditor.Unicode.Emoji
import ModalEditor.Unicode.CellWidth

/-!
# Grapheme clusters

A cluster is what a reader takes for one character: a letter with its marks, a pair of regional
indicators, a family of emoji. Text is divided by the rules for extended grapheme clusters of
Unicode Standard Annex 29. Each rule looks at the characters before the place in question only, so
one pass with a small memory decides every place. The width of a cluster in cells of a terminal and its
class for the word motions are in this module as well. Main statements, which are all that the other
definitions of the library take from the rules and the tables:

* `flatten_clusters`: the clusters put together are the text;
* `clusters_ne_nil`: no cluster is empty;
* `clusterWidth_pos`: every cluster has a width.
-/

namespace ModalEditor

open Unicode

/-- The characters of one grapheme cluster. -/
abbrev Cluster := Text

/-! ## Segmentation -/

/-- What an emoji sequence has come to. -/
inductive EmojiProgress where
  | none
  /-- A pictograph, with marks after it. -/
  | pictograph
  /-- A pictograph and a joiner. -/
  | joiner
  deriving DecidableEq, Repr

/-- What a conjunct of Indic consonants has come to. -/
inductive ConjunctProgress where
  | none
  /-- A consonant, with marks after it. -/
  | consonant
  /-- A consonant and a linker. -/
  | linked
  deriving DecidableEq, Repr

/-- What the boundary rules have to know of the text before a place. -/
structure BreakMemory where
  /-- The class of the last character; nothing at the start of the text. -/
  last : Option GraphemeBreak := none
  emoji : EmojiProgress := .none
  conjunct : ConjunctProgress := .none
  /-- An odd number of regional indicators stands before the place. -/
  halfFlag : Bool := false
  deriving Repr

namespace BreakMemory

/-- The memory after one more character. -/
def after (m : BreakMemory) (c : Char) : BreakMemory where
  last := some (graphemeBreak c)
  emoji :=
    if isPictograph c then .pictograph
    else match m.emoji, graphemeBreak c with
      | .pictograph, .extend => .pictograph
      | .pictograph, .zeroWidthJoiner => .joiner
      | _, _ => .none
  conjunct := match m.conjunct, conjunctPart c with
    | _, .consonant => .consonant
    | .none, _ => .none
    | _, .linker => .linked
    | progress, .extend => progress
    | _, .outside => .none
  halfFlag := graphemeBreak c == .regionalIndicator && !m.halfFlag

/-- Does the character belong to the cluster of the character before it? The rules are tried in
their order: line breaks and controls, Hangul syllables, marks, signs that lean on the next
character, conjuncts, emoji sequences and flags. -/
def holds (m : BreakMemory) (c : Char) : Bool :=
  match m.last with
  | none => false
  | some last =>
    match last, graphemeBreak c with
    | .carriageReturn, .lineFeed => true
    | .control, _ | .carriageReturn, _ | .lineFeed, _ => false
    | _, .control | _, .carriageReturn | _, .lineFeed => false
    | .leadingJamo, .leadingJamo | .leadingJamo, .vowelJamo
    | .leadingJamo, .hangulOpen | .leadingJamo, .hangulClosed => true
    | .hangulOpen, .vowelJamo | .hangulOpen, .trailingJamo
    | .vowelJamo, .vowelJamo | .vowelJamo, .trailingJamo => true
    | .hangulClosed, .trailingJamo | .trailingJamo, .trailingJamo => true
    | _, .extend | _, .zeroWidthJoiner | _, .spacingMark => true
    | .prepend, _ => true
    | .regionalIndicator, .regionalIndicator => m.halfFlag
    | _, _ =>
      (m.conjunct == .linked && conjunctPart c == .consonant) ||
        (m.emoji == .joiner && isPictograph c)

end BreakMemory

/-- The rest of the cluster that the memory stands in, and the clusters after it. -/
def clustersAfter (m : BreakMemory) : Text → Cluster × List Cluster
  | [] => ([], [])
  | c :: cs =>
    let rest := clustersAfter (m.after c) cs
    if m.holds c then (c :: rest.1, rest.2) else ([], (c :: rest.1) :: rest.2)

/-- The grapheme clusters of a text, in order. -/
def clusters (t : Text) : List Cluster :=
  (clustersAfter {} t).2

/-! ### What is known of the segmentation -/

/-- From any memory, the rest of the open cluster and the clusters after it are the text. -/
theorem flatten_clustersAfter (m : BreakMemory) (t : Text) :
    (clustersAfter m t).1 ++ (clustersAfter m t).2.flatten = t := by
  induction t generalizing m with
  | nil => rfl
  | cons c cs ih =>
    simp only [clustersAfter]
    split <;> simp [ih]

/-- At the start of a text no cluster is open. -/
theorem clustersAfter_start (t : Text) : (clustersAfter {} t).1 = [] := by
  cases t <;> simp [clustersAfter, BreakMemory.holds]

/-- The clusters put together are the text. -/
@[simp] theorem flatten_clusters (t : Text) : (clusters t).flatten = t := by
  have h := flatten_clustersAfter {} t
  rwa [clustersAfter_start, List.nil_append] at h

/-- A cluster after the open one begins with the character that did not belong to the one before. -/
theorem ne_nil_of_mem_clustersAfter {m : BreakMemory} {t : Text} {g : Cluster}
    (h : g ∈ (clustersAfter m t).2) : g ≠ [] := by
  induction t generalizing m with
  | nil => simp [clustersAfter] at h
  | cons c cs ih =>
    simp only [clustersAfter] at h
    split at h
    · exact ih h
    · rcases List.mem_cons.1 h with rfl | h
      · simp
      · exact ih h

/-- No cluster is empty. -/
theorem clusters_ne_nil {t : Text} {g : Cluster} (h : g ∈ clusters t) : g ≠ [] :=
  ne_nil_of_mem_clustersAfter h

/-! ## Display width -/

/-- What the characters to the right of a place begin with, as far as the character before the
place can join with it. -/
inductive Following where
  | plain
  /-- An emoji in its two cells. -/
  | emoji
  /-- A skin tone in its two cells. -/
  | skinTone
  /-- A joiner and an emoji. -/
  | joiner
  /-- The emoji selector, and whether a joiner and an emoji come after it. -/
  | emojiSelector (joined : Bool)
  /-- The text selector. -/
  | textSelector
  /-- A Khmer letter that coeng places below the line. -/
  | coengLetter
  deriving DecidableEq, Repr

/-- The character stands by itself, in front of `cells` cells. -/
def placeAlone (c : Char) (cells : Nat) : Nat × Following :=
  (cells + cellWidth c,
    if isEmoji c then .emoji
    else if isSkinTone c then .skinTone
    else if isCoengLetter c then .coengLetter
    else .plain)

/-- The character in front of `cells` cells, where only a joiner or an emoji sequence can join. -/
def placeJoining (c : Char) (cells : Nat) : Following → Nat × Following
  | .emoji => if c.toNat = 0x200D then (cells, .joiner) else placeAlone c cells
  | .skinTone =>
    if isModifierBase c then (cells, .emoji)
    else if c.toNat = 0x200D then (cells, .joiner)
    else placeAlone c cells
  | .joiner =>
    if isEmoji c then (cells, .emoji)
    else if isSkinTone c then (cells, .skinTone)
    else if 0xE0020 ≤ c.toNat ∧ c.toNat ≤ 0xE007F then (cells, .joiner)
    else placeAlone c cells
  | .coengLetter => if c.toNat = 0x17D2 then (cells - 1, .plain) else placeAlone c cells
  | _ => placeAlone c cells

/-- The cells that are taken once the character is put in front of `cells` cells. -/
def placeBefore (c : Char) (cells : Nat) (following : Following) : Nat × Following :=
  if c.toNat = 0xFE0F then (cells, .emojiSelector (following == .joiner))
  else if c.toNat = 0xFE0E then (cells, .textSelector)
  else match following with
    | .emojiSelector joined =>
      if takesEmojiSelector c then (if joined then cells else cells + 2, .emoji)
      else placeJoining c cells (if joined then .joiner else .plain)
    | .textSelector =>
      if takesTextSelector c then (cells + 1, .plain) else placeAlone c cells
    | other => placeJoining c cells other

/-- The cells of a text, and what it begins with. -/
def cellsFrom : Text → Nat × Following
  | [] => (0, .plain)
  | c :: cs => let rest := cellsFrom cs; placeBefore c rest.1 rest.2

/-- The number of terminal cells of a cluster. A cluster that would take none takes one, so that the
cursor can be seen on it. -/
def clusterWidth (g : Cluster) : Nat :=
  if g.isEmpty then 0 else max 1 (cellsFrom g).1

/-- A cluster takes a cell at least, so every display column belongs to one cluster at most. -/
theorem clusterWidth_pos {g : Cluster} (h : g ≠ []) : 0 < clusterWidth g := by
  cases g with
  | nil => exact absurd rfl h
  | cons c cs => simp only [clusterWidth, List.isEmpty_cons, Bool.false_eq_true, if_false]; omega

/-! ## Word classes -/

/-- What a cluster is to the word motions. -/
inductive WordClass where
  | blank | punctuation | word
  deriving DecidableEq, Repr

/-- The class of a cluster, by its first character. With `big` every cluster that is not blank
belongs to one class. -/
def classify (big : Bool) : Cluster → WordClass
  | [] => .blank
  | c :: _ =>
    if isBlank c then .blank
    else if big || c == '_' || isAlphanumeric c then .word
    else .punctuation

end ModalEditor
