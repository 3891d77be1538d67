import ModalEditor.Engine
import ModalEditor.Proofs.Editor.Dispatch
import ModalEditor.Proofs.Key.Script

/-!
# Keys mean actions of their mode

What a reader has read so far belongs to the mode in which it was read (`KeyReader.Fits`): no
operator waits in visual mode, and in every mode but the normal and the visual one nothing waits at
all. Whatever key comes next, the action that it completes fits the mode, and the reader is idle
when it gives one (`read_fits`).
-/

namespace ModalEditor

/-- The command that is being typed belongs to the mode. -/
structure Pending.Fits (mode : Mode) (p : Pending) : Prop where
  operator : mode.isVisual = true → p.operator = none
  setMark : mode.isVisual = true → p.awaiting ≠ some .setMark
  object : mode = .normal → ∀ inner, p.awaiting = some (.object inner) → p.operator ≠ none
  visualReplace : mode = .normal → p.awaiting ≠ some .visualReplace

/-- What a key makes of a command belongs to the mode, and is something. -/
def KeyStep.Fits (mode : Mode) : KeyStep → Prop
  | .wait p => p.Fits mode ∧ p ≠ {}
  | .done a => a.fits mode = true
  | .dropped => True

namespace Pending

/-- A reader that has read nothing fits every mode. -/
theorem fits_idle (mode : Mode) : ({} : Pending).Fits mode :=
  ⟨fun _ => rfl, nofun, nofun, nofun⟩

/-- A command that awaits nothing belongs to the mode unless its operator does not. -/
theorem fits_of_awaiting {mode : Mode} {p : Pending} (hp : p.awaiting = none)
    (hop : mode.isVisual = true → p.operator = none) : p.Fits mode := by
  refine ⟨hop, fun _ => ?_, fun _ inner h => ?_, fun _ => ?_⟩
  · rw [hp]; exact nofun
  · rw [hp] at h; cases h
  · rw [hp]; exact nofun

section Steps

variable {mode : Mode} {bound : Nat} {p : Pending}

/-! ## The ways in which a command goes on -/

/-- A key that is rejected is reported or ignored, and the reader begins anew. -/
theorem reject_fits (lead : Option Char) (k : Key) : (p.reject lead k).Fits mode := by
  unfold reject
  split
  · exact rfl
  · trivial

/-- An operator with its target is a command of normal mode. -/
theorem operate_fits (hmode : mode = .normal) (op : Operator) (target : OperatorTarget) :
    (p.operate bound op target).Fits mode := by
  subst hmode; rfl

/-- A motion is a command by itself, or the target of an operator. -/
theorem finishMotion_fits (hmode : mode = .normal ∨ ∃ kind, mode = .visual kind)
    (hop : mode.isVisual = true → p.operator = none) (m : Motion) :
    (p.finishMotion bound m).Fits mode := by
  unfold finishMotion
  split
  · rename_i op hsome
    rcases hmode with rfl | ⟨kind, rfl⟩
    · rfl
    · rw [hop rfl] at hsome; cases hsome
  · rcases hmode with rfl | ⟨kind, rfl⟩ <;> rfl

/-- Awaiting a character that both modes know. -/
theorem await_fits (hop : mode.isVisual = true → p.operator = none) {a : Awaiting}
    (hset : mode.isVisual = true → a ≠ .setMark)
    (hobject : mode = .normal → ∀ inner, a = .object inner → p.operator ≠ none)
    (hreplace : mode = .normal → a ≠ .visualReplace) : (p.await a).Fits mode := by
  refine ⟨⟨hop, fun hv heq => hset hv (Option.some.inj heq), fun hn inner heq =>
    hobject hn inner (Option.some.inj heq), fun hn heq => hreplace hn (Option.some.inj heq)⟩, ?_⟩
  intro hidle
  have hawaiting := congrArg Pending.awaiting hidle
  cases hawaiting

/-- A key that begins a motion completes it or awaits a character. -/
theorem motionKey_fits (hmode : mode = .normal ∨ ∃ kind, mode = .visual kind)
    (hop : mode.isVisual = true → p.operator = none) (c : Char) (k : Key) :
    (p.motionKey bound c k).Fits mode := by
  unfold motionKey
  split
  · exact finishMotion_fits hmode hop _
  · rename_i a _ ha
    -- a key that begins a motion awaits neither a mark to set, nor an object, nor a replacement
    have hkinds : a ≠ .setMark ∧ (∀ inner, a ≠ .object inner) ∧ a ≠ .visualReplace := by
      unfold Awaiting.ofMotionKey? at ha
      split at ha <;> first | (cases ha; exact ⟨nofun, nofun, nofun⟩) | cases ha
    exact await_fits hop (fun _ => hkinds.1) (fun _ inner h => absurd h (hkinds.2.1 inner))
      fun _ => hkinds.2.2
  · exact reject_fits none k

/-- A key of normal mode completes a command, goes on with it, or is rejected. -/
theorem normalKey_fits (hp : p.awaiting = none) (c : Char) (k : Key) :
    (p.normalKey bound c k).Fits .normal := by
  have hoperator (op : Operator) :
      ({ p with operator := some op, operatorCount := none } : Pending).Fits .normal ∧
        ({ p with operator := some op, operatorCount := none } : Pending) ≠ {} :=
    ⟨fits_of_awaiting hp nofun, fun hidle => by cases congrArg Pending.operator hidle⟩
  have hop : Mode.normal.isVisual = true → p.operator = none := nofun
  have hset (a : Awaiting) : Mode.normal.isVisual = true → a ≠ .setMark := nofun
  unfold normalKey
  split
  case h_1 => exact hoperator .delete
  case h_2 => exact hoperator .change
  case h_3 => exact hoperator .yank
  all_goals first
    | exact rfl
    | exact await_fits hop (hset _) (fun _ _ h => nomatch h) nofun
    | exact motionKey_fits (.inl rfl) nofun c k

/-- A key of visual mode completes a command, goes on with it, or is rejected. -/
theorem visualKey_fits (hop : p.operator = none) {kind : VisualKind} (c : Char) (k : Key) :
    (p.visualKey bound c k).Fits (.visual kind) := by
  unfold visualKey
  simp only
  split
  all_goals first
    | exact rfl
    | exact await_fits (fun _ => hop) nofun (fun h => nomatch h) nofun
    | exact motionKey_fits (.inr ⟨kind, rfl⟩) (fun _ => hop) c k

/-- Behind an operator a key completes the command, goes on with it, or is rejected. -/
theorem operatorKey_fits {op : Operator} (hop : p.operator = some op) (c : Char) (k : Key) :
    (p.operatorKey bound op c k).Fits .normal := by
  have hne : p.operator ≠ none := by rw [hop]; exact nofun
  have hvisual : Mode.normal.isVisual = true → p.operator = none := nofun
  have hset (a : Awaiting) : Mode.normal.isVisual = true → a ≠ .setMark := nofun
  unfold operatorKey
  split
  · exact operate_fits rfl _ _
  · split
    · exact await_fits hvisual (hset _) (fun _ _ _ => hne) nofun
    · split
      · exact await_fits hvisual (hset _) (fun _ _ _ => hne) nofun
      · exact motionKey_fits (.inl rfl) nofun c k

/-- A key with Control is a command by itself, or is rejected. -/
theorem ctrlKey_fits (hmode : mode = .normal ∨ ∃ kind, mode = .visual kind) (k : Key) :
    (p.ctrlKey mode.isVisual k).Fits mode := by
  unfold ctrlKey
  rcases hmode with rfl | ⟨kind, rfl⟩
  · split
    · split <;> first | exact rfl | exact reject_fits none k
    · exact reject_fits none k
  · split
    · split <;> first | exact rfl | exact reject_fits none k | (rename_i h; cases h)
    · exact reject_fits none k

/-! ## A key of a command -/

/-- The awaited character completes the command, or is rejected, or goes on with it. -/
theorem complete_fits (hmode : mode = .normal ∨ ∃ kind, mode = .visual kind) (hp : p.Fits mode)
    {a : Awaiting} (ha : p.awaiting = some a) (k : Key) :
    (({ p with awaiting := none } : Pending).complete bound mode.isVisual a k).Fits mode := by
  have hop := hp.operator
  unfold complete
  split
  · exact reject_fits _ k
  · rename_i c _
    -- what is awaited fits the mode already, so it tells which command can be complete
    cases a with
    | register =>
      simp only
      split
      · exact ⟨fits_of_awaiting rfl hop, fun hidle => by cases congrArg Pending.register hidle⟩
      · exact rfl
    | find forward till => exact finishMotion_fits hmode hop _
    | mark linewise =>
      simp only
      split
      · exact finishMotion_fits hmode hop _
      · exact reject_fits _ k
    | setMark =>
      simp only
      rcases hmode with rfl | ⟨kind, rfl⟩
      · split
        · rfl
        · exact reject_fits _ k
      · exact absurd ha (hp.setMark rfl)
    | afterG =>
      simp only [keyAfterG]
      split
      · exact finishMotion_fits hmode hop _
      · split
        · rcases hmode with rfl | ⟨kind, rfl⟩ <;> rfl
        · exact reject_fits _ k
    | object inner =>
      simp only [objectKey]
      rcases hmode with rfl | ⟨kind, rfl⟩
      · have hne := hp.object rfl inner ha
        split
        · rfl
        · rename_i hnone; exact absurd hnone hne
        · exact reject_fits _ k
      · split
        · rename_i hsome; rw [hop rfl] at hsome; cases hsome
        · rfl
        · exact reject_fits _ k
    | visualReplace =>
      rcases hmode with rfl | ⟨kind, rfl⟩
      · exact absurd ha (hp.visualReplace rfl)
      · rfl

/-- A digit goes on with a command that awaits nothing. -/
theorem pushDigit_fits (hp : p.awaiting = none) (hop : mode.isVisual = true → p.operator = none)
    (c : Char) : (KeyStep.wait (p.pushDigit bound c)).Fits mode := by
  unfold pushDigit
  split
  · exact ⟨fits_of_awaiting hp hop, fun hidle => by cases congrArg Pending.operatorCount hidle⟩
  · exact ⟨fits_of_awaiting hp hop, fun hidle => by cases congrArg Pending.count hidle⟩

/-- A character is a digit, or belongs to the operator, the mode, or a register. -/
theorem charKey_fits (hmode : mode = .normal ∨ ∃ kind, mode = .visual kind)
    (hp : p.awaiting = none) (hop : mode.isVisual = true → p.operator = none) (c : Char) (k : Key) :
    (p.charKey bound mode.isVisual c k).Fits mode := by
  unfold charKey
  split
  · exact pushDigit_fits hp hop c
  · split
    · split
      · exact reject_fits none k
      · exact await_fits hop nofun (fun _ _ h => nomatch h) nofun
    · rcases hmode with rfl | ⟨kind, rfl⟩
      · cases hoperator : p.operator with
        | some op => exact operatorKey_fits hoperator c k
        | none => exact normalKey_fits hp c k
      · rw [hop rfl]
        exact visualKey_fits (hop rfl) c k

/-- A key is awaited, has Control, or is a character. -/
theorem step_fits (hmode : mode = .normal ∨ ∃ kind, mode = .visual kind) (hp : p.Fits mode)
    (k : Key) : (p.step bound mode.isVisual k).Fits mode := by
  unfold step
  split
  · split
    · exact rfl
    · trivial
  · split
    · rename_i a ha
      exact complete_fits hmode hp ha k
    · rename_i ha
      split
      · exact ctrlKey_fits hmode k
      · split
        · exact charKey_fits hmode ha hp.operator _ k
        · split
          · rename_i hfree
            rcases hmode with rfl | ⟨kind, rfl⟩
            · rfl
            · exact absurd hfree.2.1 nofun
          · exact reject_fits none k

end Steps

end Pending

/-! ## Keys that are actions by themselves -/

namespace Action

/-- Where text is typed, a key is an edit or ends the session. -/
theorem fits_of_typedKey {mode : Mode} (hmode : mode.isTyping = true) {k : Key} {a : Action}
    (ha : ofTypedKey? k = some a) : a.fits mode = true := by
  unfold ofTypedKey? at ha
  split at ha
  · cases ha
  · split at ha
    case h_10 => cases ha; rfl
    all_goals cases ha; exact hmode

/-- On the command line, a key belongs to the line, submits it or leaves it. -/
theorem fits_of_commandLineKey {k : Key} {a : Action} (ha : ofCommandLineKey? k = some a) :
    a.fits .commandLine = true := by
  unfold ofCommandLineKey? at ha
  split at ha
  case h_5 =>
    obtain ⟨c, -, rfl⟩ := Option.map_eq_some_iff.1 ha
    rfl
  all_goals
    cases ha
    rfl

/-- The key that names the character to replace with does so, or leaves the mode. -/
theorem fits_ofReplaceKey (k : Key) (count : Nat) :
    (ofReplaceKey k count).fits .replaceSingle = true := by
  unfold ofReplaceKey
  split
  · rfl
  · rfl
  · split <;> rfl

end Action

/-! ## The reader -/

/-- What was read so far belongs to the mode, and the keys are kept as long as there is something.
-/
structure KeyReader.Fits (mode : Mode) (r : KeyReader) : Prop where
  pending : r.pending.Fits mode
  idle : mode ≠ .normal → mode.isVisual = false → r.pending = {}
  typed : r.typed = [] ↔ r.pending = {}

namespace KeyReader

/-- A reader is idle if it has read nothing. -/
theorem isIdle_iff (r : KeyReader) : r.isIdle = true ↔ r.pending = {} :=
  decide_eq_true_iff

/-- A reader that has read nothing fits every mode. -/
theorem fits_of_idle {mode : Mode} {r : KeyReader} (hp : r.pending = {}) (ht : r.typed = []) :
    r.Fits mode :=
  ⟨hp ▸ Pending.fits_idle mode, fun _ _ => hp, ⟨fun _ => hp, fun _ => ht⟩⟩

/-- A reader that begins anew fits every mode. -/
theorem fits_reset {mode : Mode} (r : KeyReader) : r.reset.Fits mode :=
  fits_of_idle rfl rfl

/-- A key completes an action of the mode, or leaves what was read so far in the mode. -/
theorem readCommand_fits {mode : Mode} (hmode : mode = .normal ∨ ∃ kind, mode = .visual kind)
    {r : KeyReader} (hr : r.Fits mode) (k : Key) :
    (∀ a, (r.readCommand mode.isVisual k).2 = some a →
      a.fits mode = true ∧ (r.readCommand mode.isVisual k).1.pending = {} ∧
        (r.readCommand mode.isVisual k).1.typed = []) ∧
      ((r.readCommand mode.isVisual k).2 = none → (r.readCommand mode.isVisual k).1.Fits mode) := by
  have hstep : (r.pending.step r.bound mode.isVisual k).Fits mode :=
    Pending.step_fits hmode hr.pending k
  -- an action that was completed is the one that the step gave
  have hsome {a a' : Action} (h : some a = some a') (ha : a.fits mode = true) :
      a'.fits mode = true := Option.some.inj h ▸ ha
  have hnone {a : Action} : none ≠ some a := (Option.some_ne_none a).symm
  unfold readCommand
  split
  · rename_i p heq
    rw [heq] at hstep
    refine ⟨fun a ha => absurd ha hnone, fun _ => ⟨hstep.1, fun hnormal hvisual => ?_,
      fun hnil => ?_, fun hidle => ?_⟩⟩
    · rcases hmode with h | ⟨kind, h⟩
      · exact absurd h hnormal
      · rw [h] at hvisual; cases hvisual
    · exact absurd (List.append_eq_nil_iff.1 hnil).2 k.display_ne_nil
    · exact absurd hidle hstep.2
  · exact ⟨fun a ha => absurd ha hnone, fun _ => fits_reset r⟩
  · rename_i heq
    rw [heq] at hstep
    exact ⟨fun a ha => ⟨hsome ha hstep, rfl, rfl⟩, fun ha => absurd ha.symm hnone⟩
  · rename_i a _ heq
    rw [heq] at hstep
    exact ⟨fun a' ha => ⟨hsome ha hstep, rfl, rfl⟩, fun ha => absurd ha.symm hnone⟩

/-- Where each key is an action by itself nothing was read before, and nothing is left. -/
theorem fits_of_keyAction {mode : Mode} {r : KeyReader} (hr : r.Fits mode) (hnormal : mode ≠ .normal)
    (hvisual : mode.isVisual = false) {action : Option Action}
    (haction : ∀ a, action = some a → a.fits mode = true) :
    (∀ a, action = some a → a.fits mode = true ∧ r.pending = {} ∧ r.typed = []) ∧
      (action = none → r.Fits mode) := by
  have hidle := hr.idle hnormal hvisual
  exact ⟨fun a ha => ⟨haction a ha, hidle, hr.typed.2 hidle⟩, fun _ => hr⟩

/-- A key completes an action of the mode and leaves nothing read, or leaves what was read so far in
the mode. -/
theorem read_fits {mode : Mode} {r : KeyReader} (hr : r.Fits mode) (k : Key) :
    (∀ a, (r.read mode k).2 = some a →
      a.fits mode = true ∧ (r.read mode k).1.pending = {} ∧ (r.read mode k).1.typed = []) ∧
      ((r.read mode k).2 = none → (r.read mode k).1.Fits mode) := by
  cases mode with
  | normal => exact readCommand_fits (.inl rfl) hr k
  | visual kind => exact readCommand_fits (.inr ⟨kind, rfl⟩) hr k
  | insert variant => exact fits_of_keyAction hr nofun rfl fun a ha => Action.fits_of_typedKey rfl ha
  | replace => exact fits_of_keyAction hr nofun rfl fun a ha => Action.fits_of_typedKey rfl ha
  | commandLine => exact fits_of_keyAction hr nofun rfl fun a ha => Action.fits_of_commandLineKey ha
  | replaceSingle =>
    have hreset : ({ r with replaceCount := 1 } : KeyReader).Fits .replaceSingle :=
      ⟨hr.pending, hr.idle, hr.typed⟩
    exact fits_of_keyAction hreset nofun rfl fun a ha =>
      Option.some.inj ha ▸ Action.fits_ofReplaceKey k r.replaceCount

end KeyReader

end ModalEditor
