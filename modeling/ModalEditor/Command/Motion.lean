import ModalEditor.Document.Basic
import ModalEditor.Motion.Find
import ModalEditor.Motion.Paragraph
import ModalEditor.Motion.Word

/-!
# Motions as commands

The motions that keys name, and where each of them leads in a document. Landing does not change the
document: the same landing moves the cursor or bounds the range of an operator.
-/

namespace ModalEditor

/-- A motion. Where there is `big`, words are runs of clusters that are not blank. -/
inductive Motion where
  | left | right | up | down
  | lineStart | firstText | lineEnd
  | wordForward (big : Bool)
  | wordBackward (big : Bool)
  | wordEnd (big : Bool)
  /-- To the first row; a count names another row. -/
  | fileStart
  /-- To the last row; a count names another row. -/
  | fileEnd
  | paragraphForward | paragraphBackward
  | find (f : Find)
  /-- The latest find again, or the same to the other side. -/
  | repeatFind (reversed : Bool)
  /-- To the place of a mark. -/
  | markExact (name : Char)
  /-- To the first text of the line of a mark. -/
  | markLine (name : Char)
  deriving DecidableEq, Repr

/-- What a motion means for the range of an operator. -/
inductive MotionClass where
  /-- The range ends before the place where the motion lands. -/
  | exclusive
  /-- The cluster on which the motion lands belongs to the range. -/
  | inclusive
  /-- The range is made of whole lines. -/
  | linewise
  deriving DecidableEq, Repr

/-- A search to the right takes in what it finds, one to the left does not. -/
def Find.motionClass (f : Find) : MotionClass :=
  if f.forward then .inclusive else .exclusive

/-- Where a motion lands, and the sticky column that the cursor keeps there. -/
structure Landing where
  place : Position
  sticky : Option WantedColumn := none
  deriving DecidableEq, Repr

namespace Motion

/-- The search that a repetition stands for. -/
def again (lastFind : Option Find) (reversed : Bool) : Option Find :=
  lastFind.map fun f => if reversed then f.reversed else f

/-- The class of a motion. A repeated find has the class of the find. -/
def motionClass (lastFind : Option Find) : Motion → MotionClass
  | .up | .down | .fileStart | .fileEnd | .markLine _ => .linewise
  | .wordEnd _ | .lineEnd => .inclusive
  | .find f => f.motionClass
  | .repeatFind reversed => ((again lastFind reversed).map Find.motionClass).getD .exclusive
  | _ => .exclusive

/-- Does the motion record the place that it leaves in the jump list? -/
def isJump : Motion → Bool
  | .fileStart | .fileEnd | .paragraphForward | .paragraphBackward | .markExact _ | .markLine _ =>
    true
  | _ => false

/-- Does the motion go forward over words? -/
def isWordForward : Motion → Bool
  | .wordForward _ => true
  | _ => false

/-- A landing, if the place is not where the motion started. -/
def landIfMoved (start place : Position) : Except EditorError Landing :=
  if place = start then .error .motionFailed else .ok { place }

/-- A landing, if there is a place. -/
def landAt (sticky : Option WantedColumn) : Option Position → Except EditorError Landing
  | some place => .ok { place, sticky }
  | none => .error .motionFailed

/-- Where the motion lands from the cursor. With `reachEnd`, stepping to the right may reach the end
of the line, so that an operator can take the last cluster. -/
def land (m : Motion) (d : Document) (count : Option Nat) (lastFind : Option Find)
    (reachEnd : Bool) : Except EditorError Landing :=
  let b := d.buffer
  let p := d.cursor
  let n := max (count.getD 1) 1
  match m with
  | .left => landIfMoved p (b.left p n)
  | .right => landIfMoved p (b.right p n reachEnd)
  | .up => landAt (some d.wantedColumn) (b.up p n d.wantedColumn false)
  | .down => landAt (some d.wantedColumn) (b.down p n d.wantedColumn false)
  | .lineStart => .ok { place := ⟨p.row, 0⟩ }
  | .firstText => .ok { place := b.firstText p }
  | .lineEnd =>
    .ok { place := b.lineEnd ⟨min (p.row + n - 1) b.lastRow, p.col⟩ false, sticky := some .lineEnd }
  | .wordForward big => landIfMoved (b.clamp p) (b.wordForward p n big)
  | .wordBackward big => landIfMoved (b.clamp p) (b.wordBackward p n big)
  | .wordEnd big => landIfMoved (b.clamp p) (b.wordEndForward p n big)
  | .fileStart => .ok { place := b.startOfRow ((count.map (· - 1)).getD 0) }
  | .fileEnd => .ok { place := b.startOfRow ((count.map (· - 1)).getD b.lastRow) }
  | .paragraphForward => landIfMoved p (b.paragraphForward p n)
  | .paragraphBackward => landIfMoved p (b.paragraphBackward p n)
  | .find f => landAt none (b.find p f n false)
  | .repeatFind reversed => landAt none ((again lastFind reversed).bind (b.find p · n true))
  | .markExact name => (d.mark name).map fun place => { place }
  | .markLine name => (d.mark name).map fun place => { place := b.firstText place }

end Motion

end ModalEditor
