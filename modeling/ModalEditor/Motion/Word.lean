import ModalEditor.Buffer.Basic

/-!
# Word motions

To a word motion a document is one row of slots: the clusters of each line, and behind them one slot
for the end of the line. The end of a line is blank, so words never run across lines. An empty line
has the end slot alone, and that slot is a stop of its own.

Each motion is a walk over the slots on one side of the cursor, nearest first. With `big` every run
of clusters that are not blank is one word.
-/

namespace ModalEditor

/-- A place where the cursor can stand, with its class. -/
structure Slot where
  place : Position
  cls : WordClass
  /-- The slot is the only one of an empty line. -/
  emptyLine : Bool
  deriving Repr

namespace Slot

/-- Is the slot blank and not an empty line? Words are parted by such slots. -/
def isGap (s : Slot) : Bool :=
  s.cls == .blank && !s.emptyLine

/-- The slots of a line from the offset `col` on, where `gs` are its remaining clusters. -/
def ofClusters (big : Bool) (row : Nat) (isEmpty : Bool) : Nat → List Cluster → List Slot
  | col, [] => [⟨⟨row, col⟩, .blank, isEmpty⟩]
  | col, g :: gs =>
    ⟨⟨row, col⟩, classify big g, false⟩ :: ofClusters big row isEmpty (col + byteSize g) gs

/-- The slots of lines whose first has index `row`. -/
def ofLines (big : Bool) : Nat → List Text → List Slot
  | _, [] => []
  | row, l :: ls => ofClusters big row l.isEmpty 0 (clusters l) ++ ofLines big (row + 1) ls

/-- Goes on from slot `s` over the slots `later` while `p` holds. Says where it comes to stand, what
is left, and whether it stopped at a slot without `p`; otherwise the slots ran out. -/
def advanceWhile (p : Slot → Bool) : Slot → List Slot → Slot × List Slot × Bool
  | s, [] => (s, [], !p s)
  | s, t :: later => if p s then advanceWhile p t later else (s, t :: later, true)

/-- Goes on from slot `s` to the last slot of its class before another class begins. -/
def runEnd : Slot → List Slot → Slot × List Slot
  | s, [] => (s, [])
  | s, t :: later => if t.cls = s.cls then runEnd t later else (s, t :: later)

/-- The start of the `n`-th word ahead of `s`. Empty lines count as words. A walk that runs out of
slots ends on the last of them. -/
def wordStart : Nat → Slot → List Slot → Slot
  | 0, s, _ => s
  | _ + 1, s, [] => s
  | n + 1, s, t :: later =>
    let own := if s.cls = .blank then (t, later, true) else advanceWhile (·.cls == s.cls) t later
    if own.2.2 then
      let gap := advanceWhile isGap own.1 own.2.1
      if gap.2.2 then wordStart n gap.1 gap.2.1 else gap.1
    else own.1

/-- The end of the `n`-th word ahead of `s`, passing over empty lines. Where there is no further
word the walk stays on the last word end. -/
def wordEnd : Nat → Slot → List Slot → Slot
  | 0, s, _ => s
  | _ + 1, s, [] => s
  | n + 1, s, t :: later =>
    let gap := advanceWhile (·.cls == .blank) t later
    if gap.2.2 then
      let word := runEnd gap.1 gap.2.1
      wordEnd n word.1 word.2
    else s

/-- The far end of the `n`-th word, where `later` leads away from the end of the document: this is
the start of that word. Empty lines count as words. -/
def wordBack : Nat → Slot → List Slot → Slot
  | 0, s, _ => s
  | _ + 1, s, [] => s
  | n + 1, _, t :: later =>
    let gap := advanceWhile isGap t later
    if gap.2.2 then
      let word := if gap.1.cls = .blank then (gap.1, gap.2.1) else runEnd gap.1 gap.2.1
      wordBack n word.1 word.2
    else gap.1

end Slot

namespace Buffer

/-- All slots of the document. -/
def slots (b : Buffer) (big : Bool) : List Slot :=
  Slot.ofLines big 0 b.lines

/-- Walks from the slot of the clamped position to the end of the document. -/
def walkForward (b : Buffer) (p : Position) (big : Bool) (walk : Slot → List Slot → Slot) :
    Position :=
  let p := b.clamp p
  match (b.slots big).dropWhile (·.place < p) with
  | [] => p
  | s :: later => (walk s later).place

/-- Forward to the start of the `n`-th word; the end of the document if there are fewer. -/
def wordForward (b : Buffer) (p : Position) (n : Nat) (big : Bool) : Position :=
  b.walkForward p big (Slot.wordStart n)

/-- Forward to the end of the `n`-th word, counting the word under the cursor unless the cursor is
already at its end. -/
def wordEndForward (b : Buffer) (p : Position) (n : Nat) (big : Bool) : Position :=
  b.walkForward p big (Slot.wordEnd n)

/-- Backward to the start of the `n`-th word, counting the word under the cursor unless the cursor
is already at its start. -/
def wordBackward (b : Buffer) (p : Position) (n : Nat) (big : Bool) : Position :=
  let p := b.clamp p
  match (b.slots big).dropWhile (·.place < p) with
  | [] => p
  | s :: _ => (Slot.wordBack n s ((b.slots big).takeWhile (·.place < p)).reverse).place

end Buffer

end ModalEditor
