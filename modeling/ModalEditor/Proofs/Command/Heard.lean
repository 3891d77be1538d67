import ModalEditor.Proofs.Command.Grammar
import ModalEditor.Proofs.Command.Reader

/-!
# When a command is dropped without a word

Every key but escape goes on with the command that is being typed, or there is an action for it: the
command, or the report that the key does not fit. The exception are keys that follow nothing but a
register and a count. Such a key is heard only if it would be on its own, and a second register is
not (`hears_iff`).

The report names an operator or the key that awaited a character, and `reject` says nothing where
there is neither. So the cases are an operator (`operatorKey_heard` and `reject_heard`), an awaited
character (`complete_heard`), and a command with neither, of which the answer to a key does not
depend on the register or the count (`step_heard_iff`).
-/

namespace ModalEditor

/-- The command goes on, or there is an action. -/
def KeyStep.Heard : KeyStep → Prop
  | .wait p => p ≠ {}
  | .done _ => True
  | .dropped => False

/-- After the key a command is being typed, or there is an action. -/
def KeyReader.Hears (r : KeyReader) (mode : Mode) (k : Key) : Prop :=
  (r.read mode k).1.isIdle = false ∨ (r.read mode k).2.isSome = true

instance (r : KeyReader) (mode : Mode) (k : Key) : Decidable (r.Hears mode k) :=
  inferInstanceAs (Decidable (_ ∨ _))

namespace Pending

variable {bound : Nat} {visual : Bool} {p q : Pending} {c : Char} {k : Key}

/-! ## The ways in which a command goes on -/

/-- A rejection is heard of when there is an operator or a first key to report. -/
theorem reject_heard {lead : Option Char} :
    (p.reject lead k).Heard ↔ p.operator ≠ none ∨ lead ≠ none := by
  unfold reject
  cases p.operator <;> cases lead <;> simp [KeyStep.Heard]

/-- A key that awaits another is heard of. -/
theorem await_heard (a : Awaiting) : (p.await a).Heard :=
  fun hidle => nomatch congrArg Pending.awaiting hidle

/-- A finished motion is heard of. -/
theorem finishMotion_heard (m : Motion) : (p.finishMotion bound m).Heard := by
  unfold finishMotion
  split <;> trivial

/-- A digit is heard of. -/
theorem pushDigit_heard : (KeyStep.wait (p.pushDigit bound c)).Heard := by
  unfold pushDigit
  split
  · exact fun hidle => nomatch congrArg Pending.operatorCount hidle
  · exact fun hidle => nomatch congrArg Pending.count hidle

/-! ## Awaited characters -/

/-- The report of a character that was not awaited names the key in front of it. -/
theorem complete_heard (a : Awaiting) : (p.complete bound visual a k).Heard := by
  have hlead (lead : Char) : (p.reject (some lead) k).Heard := reject_heard.2 (.inr nofun)
  unfold complete
  split
  · exact hlead _
  · cases a with
    | register =>
      simp only
      split
      · exact fun hidle => nomatch congrArg Pending.register hidle
      · trivial
    | find forward till => exact finishMotion_heard _
    | mark linewise =>
      simp only
      split
      · exact finishMotion_heard _
      · exact hlead _
    | setMark =>
      simp only
      split
      · trivial
      · exact hlead _
    | afterG =>
      simp only [keyAfterG]
      split
      · exact finishMotion_heard _
      · split
        · trivial
        · exact hlead _
    | object inner =>
      simp only [objectKey]
      split
      · trivial
      · trivial
      · exact hlead _
    | visualReplace => trivial

/-! ## Keys behind an operator -/

/-- Behind an operator, a motion key is heard of. -/
theorem motionKey_heard (hop : p.operator ≠ none) : (p.motionKey bound c k).Heard := by
  unfold motionKey
  split
  · exact finishMotion_heard _
  · exact await_heard _
  · exact reject_heard.2 (.inl hop)

/-- Behind an operator, every key is heard of. -/
theorem operatorKey_heard {op : Operator} (hop : p.operator = some op) :
    (p.operatorKey bound op c k).Heard := by
  have hne : p.operator ≠ none := by rw [hop]; exact nofun
  unfold operatorKey
  split
  · trivial
  · split
    · exact await_heard _
    · split
      · exact await_heard _
      · exact motionKey_heard hne

/-- Behind an operator, whatever key comes next is heard of. -/
theorem step_heard_of_operator (hk : k.code ≠ .escape) (hp : p.awaiting = none)
    (hop : p.operator ≠ none) : (p.step bound visual k).Heard := by
  obtain ⟨op, hop'⟩ := Option.ne_none_iff_exists'.1 hop
  have hreject : (p.reject none k).Heard := reject_heard.2 (.inl hop)
  simp only [step, if_neg hk, hp]
  split
  · unfold ctrlKey
    split
    · rename_i hnone; exact absurd hnone hop
    · exact hreject
  · split
    · unfold charKey
      split
      · exact pushDigit_heard
      · rw [hop']
        split
        · simpa using hreject
        · exact operatorKey_heard hop'
    · simpa only [hop', reduceCtorEq, and_false, if_false] using hreject

/-! ## Keys behind a register and a count -/

section NoOperator

variable (hp : p.operator = none) (hq : q.operator = none)
include hp hq

/-- Without operators, a rejection is heard of alike. -/
theorem reject_heard_congr : (p.reject none k).Heard ↔ (q.reject none k).Heard := by
  rw [reject_heard, reject_heard, hp, hq]

/-- Without operators, a motion key is heard of alike. -/
theorem motionKey_heard_congr :
    (p.motionKey bound c k).Heard ↔ (q.motionKey bound c k).Heard := by
  unfold motionKey
  split
  · exact iff_of_true (finishMotion_heard _) (finishMotion_heard _)
  · exact iff_of_true (await_heard _) (await_heard _)
  · exact reject_heard_congr hp hq

/-- Without operators, a key of Normal mode is heard of alike. -/
theorem normalKey_heard_congr :
    (p.normalKey bound c k).Heard ↔ (q.normalKey bound c k).Heard := by
  have hoperator (r : Pending) (op : Operator) :
      (KeyStep.wait { r with operator := some op, operatorCount := none }).Heard :=
    fun hidle => nomatch congrArg Pending.operator hidle
  unfold normalKey
  split
  -- a motion, an operator, a key that awaits another one, or a command of its own
  all_goals first
    | exact motionKey_heard_congr hp hq
    | exact iff_of_true (hoperator p _) (hoperator q _)
    | exact iff_of_true (await_heard _) (await_heard _)
    | exact Iff.rfl

/-- Without operators, a key of the Visual modes is heard of alike. -/
theorem visualKey_heard_congr :
    (p.visualKey bound c k).Heard ↔ (q.visualKey bound c k).Heard := by
  unfold visualKey
  simp only
  split
  all_goals first
    | exact motionKey_heard_congr hp hq
    | exact iff_of_true (await_heard _) (await_heard _)
    | exact Iff.rfl

/-- Without operators, a control key is heard of alike. -/
theorem ctrlKey_heard_congr :
    (p.ctrlKey visual k).Heard ↔ (q.ctrlKey visual k).Heard := by
  have hreject := reject_heard_congr (k := k) hp hq
  unfold ctrlKey
  rw [hp, hq]
  split
  · split
    all_goals first
      | exact hreject
      | exact Iff.rfl
  · exact hreject

end NoOperator

/-- A digit goes on with a count, or is a motion. -/
theorem charKey_heard_of_isDigit (hp : p.operator = none) (hdigit : c.isDigit = true) :
    (p.charKey bound visual c k).Heard := by
  unfold charKey
  split
  · exact pushDigit_heard
  · rename_i hcount
    have hzero : c = '0' := by
      by_contra hne
      exact hcount (by simp [hdigit, hne])
    rw [if_neg (by rw [hzero]; decide), hp, hzero]
    cases visual <;> exact finishMotion_heard .lineStart

/-- What the key means without a register and a count decides, but for a second register. -/
theorem charKey_heard_iff (hp : p.operator = none) : (p.charKey bound visual c k).Heard ↔
    (({} : Pending).charKey bound visual c k).Heard ∧ ¬(c = '\x22' ∧ p.register ≠ none) := by
  cases hdigit : c.isDigit with
  | true =>
    have hquote : c ≠ '\x22' := by rintro rfl; cases hdigit
    exact iff_of_true (charKey_heard_of_isDigit hp hdigit)
      ⟨charKey_heard_of_isDigit rfl hdigit, fun h => hquote h.1⟩
  | false =>
    simp only [charKey, hdigit, Bool.false_and, Bool.false_eq_true, if_false, hp]
    by_cases hquote : c = '\x22'
    · have hfirst : (({} : Pending).await .register).Heard := await_heard _
      cases hregister : p.register with
      | none => simpa [hquote, hregister, hfirst] using await_heard _
      | some name => simp [hquote, reject_heard, hp]
    · simp only [hquote, if_false, false_and, not_false_iff, and_true]
      cases visual with
      | true => exact visualKey_heard_congr hp rfl
      | false => exact normalKey_heard_congr hp rfl

/-- A key behind nothing but a register and a count is heard if it is without them, but for a second
register. -/
theorem step_heard_iff (hk : k.code ≠ .escape) (hp : p.operator = none)
    (hawaiting : p.awaiting = none) :
    (p.step bound visual k).Heard ↔ (({} : Pending).step bound visual k).Heard ∧
      ¬(k.StandsFor '\x22' ∧ p.register ≠ none) := by
  simp only [step, if_neg hk, hawaiting]
  cases hctrl : k.ctrl with
  | true => simpa [Key.StandsFor, hctrl] using ctrlKey_heard_congr hp rfl
  | false =>
    simp only [Bool.false_eq_true, if_false, Key.StandsFor, hctrl, true_and]
    cases commandChar? k.code with
    | some c => simpa using charKey_heard_iff hp
    | none =>
      simp only [hp, and_true, reduceCtorEq, false_and, not_false_iff]
      split
      · exact Iff.rfl
      · exact reject_heard_congr hp rfl

end Pending

/-! ## The reader -/

namespace KeyReader

theorem hears_iff_step {mode : Mode} (hmode : mode = .normal ∨ mode.isVisual = true)
    (r : KeyReader) (k : Key) :
    r.Hears mode k ↔ (r.pending.step r.bound mode.isVisual k).Heard := by
  rw [Hears, read_of_command hmode]
  unfold readCommand
  split
  · rename_i p heq
    simp [heq, KeyStep.Heard, isIdle, Pending.isIdle]
  · rename_i heq
    simp [heq, KeyStep.Heard, isIdle, Pending.isIdle, reset]
  · rename_i heq
    simp [heq, KeyStep.Heard]
  · rename_i heq
    simp [heq, KeyStep.Heard]

/-- **What is heard.** In the normal and the visual mode, every key but escape that follows an
operator, or comes where a character is awaited, goes on with the command or gives an action. A key
that follows nothing but a register and a count does so if and only if it would without them, and is
not the key of a second register. -/
theorem hears_iff {mode : Mode} (hmode : mode = .normal ∨ mode.isVisual = true) {k : Key}
    (hk : k.code ≠ .escape) (r : KeyReader) :
    r.Hears mode k ↔ r.pending.operator ≠ none ∨ r.pending.awaiting ≠ none ∨
      r.reset.Hears mode k ∧
        ¬(k.StandsFor Awaiting.register.lead ∧ r.pending.register ≠ none) := by
  rw [hears_iff_step hmode, hears_iff_step hmode]
  cases hawaiting : r.pending.awaiting with
  | some a =>
    refine iff_of_true ?_ (.inr (.inl nofun))
    simpa only [Pending.step, if_neg hk, hawaiting] using Pending.complete_heard a
  | none =>
    by_cases hop : r.pending.operator = none
    · rw [Pending.step_heard_iff hk hop hawaiting]
      simp [hop, reset, Awaiting.lead]
    · exact iff_of_true (Pending.step_heard_of_operator hk hawaiting hop) (.inl hop)

/-- The keys `2dq` are reported. -/
theorem hears_iff_operator :
    ((KeyReader.withBound 20).readAll .normal (['2', 'd'].map Key.ofChar)).1.Hears .normal
      (Key.ofChar 'q') :=
  (hears_iff (.inl rfl) (by decide) _).2 (.inl (by decide))

/-- The last of the keys `"a"` drops the register without a word. -/
theorem not_hears_secondRegister :
    let r := ((KeyReader.withBound 20).readAll .normal (['\x22', 'a'].map Key.ofChar)).1
    r.isIdle = false ∧ ¬ r.Hears .normal (Key.ofChar '\x22') := by
  decide

end KeyReader

end ModalEditor
