import ModalEditor.Command.Action
import ModalEditor.Key.Basic
import ModalEditor.Register.Basic

/-!
# Reading keys into actions

A command is typed key by key: a register, a count, an operator, another count, and what the
operator acts on. The reader keeps what was typed so far, and gives an action as soon as a command
is complete. A key that cannot go on with the command drops it, and the action says so.

While text is typed, and on the command line, every key is a command of its own.

Counts are natural numbers, so nothing overflows; digits beyond the bound of the reader leave a count at
the bound.
-/

namespace ModalEditor

/-- What the next character completes. -/
inductive Awaiting where
  /-- The name of a register. -/
  | register
  /-- The character to find. -/
  | find (forward till : Bool)
  /-- The name of a mark to set. -/
  | setMark
  /-- The name of a mark to go to. -/
  | mark (linewise : Bool)
  /-- The second key of a command that begins with `g`. -/
  | afterG
  /-- The kind of a text object. -/
  | object (inner : Bool)
  /-- The character to put in the place of a selection. -/
  | visualReplace
  deriving DecidableEq, Repr

/-- The key after which the character is awaited. -/
def Awaiting.lead : Awaiting → Char
  | .register => '\x22'
  | .find true false => 'f'
  | .find true true => 't'
  | .find false false => 'F'
  | .find false true => 'T'
  | .setMark => 'm'
  | .mark true => '\x27'
  | .mark false => '\x60'
  | .afterG => 'g'
  | .object true => 'i'
  | .object false => 'a'
  | .visualReplace => 'r'

/-- A command that is being typed. -/
structure Pending where
  /-- The count in front. -/
  count : Option Nat := none
  operator : Option Operator := none
  /-- The count behind the operator. -/
  operatorCount : Option Nat := none
  register : Option Char := none
  awaiting : Option Awaiting := none
  deriving DecidableEq, Repr

/-- What a key makes of the command that is being typed. -/
inductive KeyStep where
  /-- The command goes on. -/
  | wait (p : Pending)
  /-- The command is complete. -/
  | done (a : Action)
  /-- The command is dropped. -/
  | dropped
  deriving DecidableEq, Repr

namespace Pending

/-- Nothing is being typed. -/
def isIdle (p : Pending) : Bool :=
  p = {}

/-- Does a digit continue a count? -/
def isCounting (p : Pending) : Bool :=
  if p.operator.isSome then p.operatorCount.isSome else p.count.isSome

/-- A count with one more digit, and no greater than `bound`. -/
def addDigit (bound : Nat) (count : Option Nat) (c : Char) : Nat :=
  min (count.getD 0 * 10 + (c.toNat - '0'.toNat)) bound

/-- The command with one more digit. -/
def pushDigit (bound : Nat) (p : Pending) (c : Char) : Pending :=
  if p.operator.isSome then { p with operatorCount := some (addDigit bound p.operatorCount c) }
  else { p with count := some (addDigit bound p.count c) }

/-- The count of a command without an operator. -/
def countOrOne (p : Pending) : Nat :=
  p.count.getD 1

/-- The product of the counts on both sides of the operator, if one was typed. -/
def totalCount (bound : Nat) (p : Pending) : Option Nat :=
  if p.count.isNone && p.operatorCount.isNone then none
  else some (min (p.count.getD 1 * p.operatorCount.getD 1) bound)

/-- The action of an operator. -/
def operate (bound : Nat) (p : Pending) (op : Operator) (target : OperatorTarget) : KeyStep :=
  .done (.operate op target (p.totalCount bound) p.register)

/-- The action of a motion, or of the operator that waited for it. -/
def finishMotion (bound : Nat) (p : Pending) (m : Motion) : KeyStep :=
  match p.operator with
  | some op => p.operate bound op (.motion m)
  | none => .done (.motion m p.count)

/-- Drops the command. That is reported if there is an operator, or a lead key, to name. -/
def reject (p : Pending) (lead : Option Char) (k : Key) : KeyStep :=
  match (p.operator.map Operator.key).or lead with
  | some c => .done (.rejected (.unresolvedOperator c (String.ofList k.display)))
  | none => .dropped

/-- Waits for one more character. -/
def await (p : Pending) (a : Awaiting) : KeyStep :=
  .wait { p with awaiting := some a }

end Pending

/-! ## Motions -/

/-- The motion that a single key names. -/
def Motion.ofKey? : Char → Option Motion
  | 'h' => some .left
  | 'l' | ' ' => some .right
  | 'j' => some .down
  | 'k' => some .up
  | '0' => some .lineStart
  | '^' => some .firstText
  | '$' => some .lineEnd
  | 'w' => some (.wordForward false)
  | 'W' => some (.wordForward true)
  | 'b' => some (.wordBackward false)
  | 'B' => some (.wordBackward true)
  | 'e' => some (.wordEnd false)
  | 'E' => some (.wordEnd true)
  | 'G' => some .fileEnd
  | '{' => some .paragraphBackward
  | '}' => some .paragraphForward
  | ';' => some (.repeatFind false)
  | ',' => some (.repeatFind true)
  | _ => none

/-- What a key awaits that begins a motion. -/
def Awaiting.ofMotionKey? : Char → Option Awaiting
  | 'f' => some (.find true false)
  | 'F' => some (.find false false)
  | 't' => some (.find true true)
  | 'T' => some (.find false true)
  | '\x60' => some (.mark false)
  | '\x27' => some (.mark true)
  | 'g' => some .afterG
  | _ => none

namespace Pending

/-- A key that names a motion or begins one. -/
def motionKey (bound : Nat) (p : Pending) (c : Char) (k : Key) : KeyStep :=
  match Motion.ofKey? c, Awaiting.ofMotionKey? c with
  | some m, _ => p.finishMotion bound m
  | none, some a => p.await a
  | none, none => p.reject none k

/-! ## Keys behind an operator, in normal mode and in visual mode -/

/-- A key behind an operator: the operator again for whole lines, an object, or a motion. -/
def operatorKey (bound : Nat) (p : Pending) (op : Operator) (c : Char) (k : Key) : KeyStep :=
  if c = op.key then p.operate bound op .lines
  else if c = 'i' then p.await (.object true)
  else if c = 'a' then p.await (.object false)
  else p.motionKey bound c k

/-- A key in normal mode. -/
def normalKey (bound : Nat) (p : Pending) (c : Char) (k : Key) : KeyStep :=
  let n := p.countOrOne
  match c with
  | 'd' => .wait { p with operator := some .delete, operatorCount := none }
  | 'c' => .wait { p with operator := some .change, operatorCount := none }
  | 'y' => .wait { p with operator := some .yank, operatorCount := none }
  | 'x' => p.operate bound .delete (.motion .right)
  | 'X' => p.operate bound .delete (.motion .left)
  | 'D' => p.operate bound .delete (.motion .lineEnd)
  | 'C' => p.operate bound .change (.motion .lineEnd)
  | 's' => p.operate bound .change (.motion .right)
  | 'S' => p.operate bound .change .lines
  | 'Y' => p.operate bound .yank .lines
  | 'p' => .done (.put .after n p.register)
  | 'P' => .done (.put .before n p.register)
  | 'J' => .done (.join n true)
  | 'r' => .done .beginReplaceSingle
  | 'i' => .done (.enterInsert .insert n)
  | 'a' => .done (.enterInsert .append n)
  | 'I' => .done (.enterInsert .insertAtFirstText n)
  | 'A' => .done (.enterInsert .appendAtLineEnd n)
  | 'o' => .done (.enterInsert .openBelow n)
  | 'O' => .done (.enterInsert .openAbove n)
  | 'R' => .done (.enterReplace n)
  | 'v' => .done (.enterVisual .char)
  | 'V' => .done (.enterVisual .line)
  | 'u' => .done (.undo n)
  | '.' => .done (.repeatLast p.count)
  | 'm' => p.await .setMark
  | ':' => .done (.commandStart p.count)
  | _ => p.motionKey bound c k

/-- A key in visual mode. -/
def visualKey (bound : Nat) (p : Pending) (c : Char) (k : Key) : KeyStep :=
  let operate op extent := KeyStep.done (.visualOperate op extent p.register)
  match c with
  | 'd' | 'x' => operate .delete .selection
  | 'y' => operate .yank .selection
  | 'c' | 's' => operate .change .selection
  | 'X' => operate .delete .lines
  | 'Y' => operate .yank .lines
  | 'S' | 'R' => operate .change .lines
  | 'D' => operate .delete .toLineEnd
  | 'C' => operate .change .toLineEnd
  | 'o' => .done .visualSwap
  | 'J' => .done (.visualJoin true)
  | 'p' | 'P' => .done (.visualPut p.countOrOne p.register)
  | 'v' => .done (.enterVisual .char)
  | 'V' => .done (.enterVisual .line)
  | 'i' => p.await (.object true)
  | 'a' => p.await (.object false)
  | 'r' => p.await .visualReplace
  | _ => p.motionKey bound c k

/-- A key with control held. -/
def ctrlKey (visual : Bool) (p : Pending) (k : Key) : KeyStep :=
  match k.code, p.operator with
  | .char c, none =>
    match c.toLower, visual with
    | 'r', false => .done (.redo p.countOrOne)
    | 'o', false => .done (.jumpBack p.countOrOne)
    | 'i', false => .done (.jumpForward p.countOrOne)
    | 'v', _ => .done (.enterVisual .block)
    | _, _ => p.reject none k
  | _, _ => p.reject none k

/-! ## Awaited characters -/

/-- The character that a key gives to what awaits one. -/
def awaitedChar (a : Awaiting) (k : Key) : Option Char :=
  if a = .visualReplace ∧ k.code = .tab then some '\t' else k.printable

/-- The second key of a command that begins with `g`. -/
def keyAfterG (bound : Nat) (visual : Bool) (p : Pending) (c : Char) (k : Key) : KeyStep :=
  if c = 'g' then p.finishMotion bound .fileStart
  else if c = 'J' ∧ p.operator = none then
    .done (if visual then .visualJoin false else .join p.countOrOne false)
  else p.reject (some Awaiting.afterG.lead) k

/-- The kind of a text object, for an operator or for the selection. -/
def objectKey (bound : Nat) (p : Pending) (inner : Bool) (c : Char) (k : Key) : KeyStep :=
  match ObjectKind.ofKey? c, p.operator with
  | some kind, some op => p.operate bound op (.object ⟨kind, inner⟩)
  | some kind, none => .done (.visualObject ⟨kind, inner⟩ p.countOrOne)
  | none, _ => p.reject (some (Awaiting.object inner).lead) k

/-- The awaited character has come; `p` awaits no other. -/
def complete (bound : Nat) (visual : Bool) (p : Pending) (a : Awaiting) (k : Key) : KeyStep :=
  match awaitedChar a k with
  | none => p.reject (some a.lead) k
  | some c =>
    match a with
    | .register =>
      if RegisterName.isValid c then .wait { p with register := some c }
      else .done (.rejected (.invalidRegister c))
    | .find forward till => p.finishMotion bound (.find ⟨c, forward, till⟩)
    | .mark linewise =>
      if Marks.isValid c then
        p.finishMotion bound (if linewise then .markLine c else .markExact c)
      else p.reject (some a.lead) k
    | .setMark =>
      if 'a' ≤ c ∧ c ≤ 'z' then .done (.setMark c) else p.reject (some a.lead) k
    | .afterG => p.keyAfterG bound visual c k
    | .object inner => p.objectKey bound inner c k
    | .visualReplace => .done (.visualReplace c)

/-! ## All keys of a command -/

/-- The character that a key stands for in a command. The arrow keys and those that delete stand for
the letters that do the same. -/
def commandChar? : KeyCode → Option Char
  | .char c => some c
  | .left | .backspace => some 'h'
  | .right => some 'l'
  | .up => some 'k'
  | .down => some 'j'
  | .delete => some 'x'
  | _ => none

/-- A character of a command that is not awaited. -/
def charKey (bound : Nat) (visual : Bool) (p : Pending) (c : Char) (k : Key) : KeyStep :=
  if c.isDigit && (c != '0' || p.isCounting) then .wait (p.pushDigit bound c)
  else if c = '\x22' then
    if p.operator.isSome || p.register.isSome then p.reject none k else p.await .register
  else
    match p.operator with
    | some op => p.operatorKey bound op c k
    | none => if visual then p.visualKey bound c k else p.normalKey bound c k

/-- A key of a command. Escape drops what was typed, and is an action of its own when there is
nothing to drop. -/
def step (bound : Nat) (visual : Bool) (p : Pending) (k : Key) : KeyStep :=
  if k.code = .escape then if p.isIdle then .done .escape else .dropped
  else
    match p.awaiting with
    | some a => { p with awaiting := none }.complete bound visual a k
    | none =>
      if k.ctrl then p.ctrlKey visual k
      else
        match commandChar? k.code with
        | some c => p.charKey bound visual c k
        | none =>
          if k.code = .tab ∧ visual = false ∧ p.operator = none then
            .done (.jumpForward p.countOrOne)
          else p.reject none k

end Pending

/-! ## Keys in the other modes -/

/-- The action of a key while text is typed. -/
def Action.ofTypedKey? (k : Key) : Option Action :=
  if k.ctrl then none
  else
    match k.code with
    | .char c => some (.edit (.insertChar c))
    | .enter => some (.edit .newline)
    | .tab => some (.edit .tab)
    | .backspace => some (.edit .backspace)
    | .delete => some (.edit .deleteUnder)
    | .left => some (.edit (.move .left))
    | .right => some (.edit (.move .right))
    | .up => some (.edit (.move .up))
    | .down => some (.edit (.move .down))
    | .escape => some .escape

/-- The action of a key on the command line. -/
def Action.ofCommandLineKey? (k : Key) : Option Action :=
  match k.code with
  | .escape => some .escape
  | .enter => some .commandSubmit
  | .backspace => some .commandBackspace
  | .tab => some (.commandChar '\t')
  | _ => k.printable.map .commandChar

/-- The action of the key that names the character to replace with. -/
def Action.ofReplaceKey (k : Key) (count : Nat) : Action :=
  match k.code with
  | .enter => .replaceChar '\n' count
  | .tab => .replaceChar '\t' count
  | _ =>
    match k.printable with
    | some c => .replaceChar c count
    | none => .escape

/-! ## The reader -/

/-- A reader of keys. -/
structure KeyReader where
  pending : Pending := {}
  /-- The count of a replacement whose character is yet to come. -/
  replaceCount : Nat := 1
  /-- The keys of the command so far. -/
  typed : Text := []
  /-- Counts grow no further than this. -/
  bound : Nat := 999999
  deriving DecidableEq, Repr

namespace KeyReader

/-- A reader whose counts grow no further than `bound`, which is at least one. -/
def withBound (bound : Nat) : KeyReader :=
  { bound := max bound 1 }

/-- The reader without the command that was being typed. -/
def reset (r : KeyReader) : KeyReader :=
  { r with pending := {}, typed := [] }

/-- Is no command being typed? -/
def isIdle (r : KeyReader) : Bool :=
  r.pending.isIdle

/-- Reads a key of a command. -/
def readCommand (r : KeyReader) (visual : Bool) (k : Key) : KeyReader × Option Action :=
  match r.pending.step r.bound visual k with
  | .wait p => ({ r with pending := p, typed := r.typed ++ k.display }, none)
  | .dropped => (r.reset, none)
  | .done .beginReplaceSingle =>
    ({ r.reset with replaceCount := r.pending.countOrOne }, some .beginReplaceSingle)
  | .done a => (r.reset, some a)

/-- Reads a key. -/
def read (r : KeyReader) (mode : Mode) (k : Key) : KeyReader × Option Action :=
  match mode with
  | .insert _ | .replace => (r, Action.ofTypedKey? k)
  | .commandLine => (r, Action.ofCommandLineKey? k)
  | .replaceSingle => ({ r with replaceCount := 1 }, some (Action.ofReplaceKey k r.replaceCount))
  | .normal => r.readCommand false k
  | .visual _ => r.readCommand true k

end KeyReader

end ModalEditor
