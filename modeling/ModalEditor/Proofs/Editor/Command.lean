import ModalEditor.Editor.Ex

/-!
# What a command ensures

`Ensures act e ok failed` says how a command that is run from an editor may end: with a value and an
editor as `ok` says, or with a failure and an editor as `failed` says. The rules for the primitive
commands are equivalences, so that rewriting with them walks through a command from its beginning.
-/

namespace ModalEditor

namespace EditorM

variable {α β : Type}

/-- Run from `e`, the command gives a value and an editor as `ok` says, or fails with an editor as
`failed` says. -/
def Ensures (act : EditorM α) (e : Editor) (ok : α → Editor → Prop) (failed : Editor → Prop) :
    Prop :=
  match act e with
  | .ok a e' => ok a e'
  | .error _ e' => failed e'

/-- No editor: the command does not fail. -/
abbrev Never : Editor → Prop := fun _ => False

section Rules

variable {e : Editor} {ok : α → Editor → Prop} {failed : Editor → Prop}

/-- An empty command leaves the editor alone. -/
theorem ensures_pure {a : α} : Ensures (pure a) e ok failed ↔ ok a e := Iff.rfl

/-- A refusal ends where it started. -/
theorem ensures_throw {reason : EditorError} :
    Ensures (throw reason : EditorM α) e ok failed ↔ failed e := Iff.rfl

/-- Reading the state changes nothing. -/
theorem ensures_get {ok : Editor → Editor → Prop} : Ensures get e ok failed ↔ ok e e := Iff.rfl

/-- Setting the state ends in the state set. -/
theorem ensures_set {e' : Editor} {ok : PUnit → Editor → Prop} :
    Ensures (set e') e ok failed ↔ ok ⟨⟩ e' := Iff.rfl

/-- Modifying the state ends in the state modified. -/
theorem ensures_modify {f : Editor → Editor} {ok : PUnit → Editor → Prop} :
    Ensures (modify f) e ok failed ↔ ok ⟨⟩ (f e) := Iff.rfl

/-- Two commands in a row: the second starts where the first ended, and a failure of either ends the
whole. -/
theorem ensures_bind {act : EditorM β} {f : β → EditorM α} :
    Ensures (act >>= f) e ok failed ↔
      Ensures act e (fun b e' => Ensures (f b) e' ok failed) failed := by
  show Ensures (EStateM.bind act f) e ok failed ↔ _
  unfold Ensures EStateM.bind
  cases act e with
  | ok b e' => exact Iff.rfl
  | error reason e' => exact Iff.rfl

/-- A command that reads the state first. -/
theorem get_bind_apply {f : Editor → EditorM α} : (get >>= f) e = f e e := rfl

/-- An outcome computed outside ends where it started, well or badly. -/
theorem ensures_ofExcept {result : Except EditorError α} :
    Ensures (ofExcept result) e ok failed ↔
      match result with
      | .ok a => ok a e
      | .error _ => failed e := by
  cases result with
  | ok a => exact Iff.rfl
  | error reason => exact Iff.rfl

/-- What a command ensures may be weakened on both exits. -/
theorem Ensures.mono {act : EditorM α} {ok' : α → Editor → Prop} {failed' : Editor → Prop}
    (h : Ensures act e ok failed) (hok : ∀ a e', ok a e' → ok' a e')
    (hfailed : ∀ e', failed e' → failed' e') : Ensures act e ok' failed' := by
  unfold Ensures at h ⊢
  cases hact : act e with
  | ok a e' => rw [hact] at h; exact hok a e' h
  | error reason e' => rw [hact] at h; exact hfailed e' h

/-- What is ensured down to the last detail is the result. -/
theorem Ensures.eq_ok {act : EditorM α} {a : α} {e' : Editor}
    (h : Ensures act e (fun b e'' => b = a ∧ e'' = e') Never) : act e = .ok a e' := by
  unfold Ensures at h
  cases hact : act e with
  | ok b e'' => rw [hact] at h; rw [h.1, h.2]
  | error reason e'' => rw [hact] at h; exact h.elim

/-- A command that does not fail gives a result. -/
theorem Ensures.exists_ok {act : EditorM α} (h : Ensures act e ok Never) :
    ∃ a e', act e = .ok a e' ∧ ok a e' := by
  unfold Ensures at h
  cases hact : act e with
  | ok a e' => rw [hact] at h; exact ⟨a, e', rfl, h⟩
  | error reason e' => rw [hact] at h; exact h.elim

/-- A command goes on from what the one before it ensures. -/
theorem Ensures.bind {act : EditorM β} {f : β → EditorM α} {mid : β → Editor → Prop}
    {failed' : Editor → Prop} (h : Ensures act e mid failed')
    (hf : ∀ b e', mid b e' → Ensures (f b) e' ok failed) (hfailed : ∀ e', failed' e' → failed e') :
    Ensures (act >>= f) e ok failed :=
  ensures_bind.2 (h.mono hf hfailed)

/-- A command as a single change of the document begins inside it and ends the change however it
ends itself. -/
theorem ensures_asOneChange {act : EditorM α} :
    Ensures (asOneChange act) e ok failed ↔
      Ensures act (e.mapDocument .beginChange)
        (fun a e' => ok a (e'.mapDocument fun d => d.endChange.1))
        (fun e' => failed (e'.mapDocument fun d => d.endChange.1)) := by
  unfold Ensures asOneChange
  cases act (e.mapDocument .beginChange) with
  | ok a e' => exact Iff.rfl
  | error reason e' => exact Iff.rfl

/-- A command whose repeats go unrecorded runs with recording off, and recording is on again after
either exit. -/
theorem ensures_unrecorded {act : EditorM α} :
    Ensures (unrecorded act) e ok failed ↔
      Ensures act { e with replaying := true } (fun a e' => ok a { e' with replaying := false })
        (fun e' => failed { e' with replaying := false }) := by
  unfold Ensures unrecorded
  cases act { e with replaying := true } with
  | ok a e' => exact Iff.rfl
  | error reason e' => exact Iff.rfl

end Rules

/-! ## Transitions -/

/-- A transition that leads somewhere changes the mode alone. -/
theorem ensures_transition {e : Editor} {event : ModeEvent} {mode : Mode}
    {ok : PUnit → Editor → Prop} {failed : Editor → Prop} (hnext : e.mode.next event = .ok mode)
    (hok : ok ⟨⟩ { e with modes := { e.modes with mode, history := e.modes.remember } }) :
    Ensures (transition event) e ok failed := by
  have happly : e.modes.apply event = .ok { e.modes with mode, history := e.modes.remember } := by
    unfold Modes.apply
    rw [show e.modes.mode.next event = .ok mode from hnext]
  refine ensures_bind.2 (ensures_get.2 (ensures_bind.2 (ensures_ofExcept.2 ?_)))
  rw [happly]
  exact hok

/-! ## What a command preserves -/

/-- However the command ends, the editor has the property that it had before. -/
def Preserves (P : Editor → Prop) (act : EditorM α) : Prop :=
  ∀ e, P e → Ensures act e (fun _ e' => P e') P

section Preserves

variable {P : Editor → Prop}

/-- An empty command preserves anything. -/
theorem preserves_pure (a : α) : Preserves P (pure a : EditorM α) := fun _ h => h

/-- A refusal preserves anything. -/
theorem preserves_throw (reason : EditorError) : Preserves P (throw reason : EditorM α) :=
  fun _ h => h

/-- An outcome computed outside preserves anything. -/
theorem preserves_ofExcept (result : Except EditorError α) : Preserves P (ofExcept result) := by
  intro e h
  cases result with
  | ok a => exact h
  | error reason => exact h

/-- A modification preserves what its function preserves. -/
theorem preserves_modify {f : Editor → Editor} (hf : ∀ e, P e → P (f e)) :
    Preserves P (modify f) :=
  hf

/-- Two commands in a row preserve what each of them preserves. -/
theorem Preserves.bind {act : EditorM α} {f : α → EditorM β} (hact : Preserves P act)
    (hf : ∀ a, Preserves P (f a)) : Preserves P (act >>= f) :=
  fun e h => (hact e h).bind (fun a e' h' => hf a e' h') fun _ h' => h'

/-- What is read of an editor is no more than what any editor could give. -/
theorem preserves_get_bind {f : Editor → EditorM β} (hf : ∀ e, Preserves P (f e)) :
    Preserves P (get >>= f) :=
  fun e h => ensures_bind.2 (hf e e h)

/-- A change of mode preserves what does not depend on the mode. -/
theorem preserves_transition (hmodes : ∀ e modes, P e → P { e with modes }) (event : ModeEvent) :
    Preserves P (transition event) :=
  preserves_get_bind fun _ => (preserves_ofExcept _).bind fun _ =>
    preserves_modify fun e h => hmodes e _ h

/-- Commands grouped into one change preserve what opening and closing a change preserve. -/
theorem Preserves.asOneChange {act : EditorM α} (hact : Preserves P act)
    (hbegins : ∀ e, P e → P (e.mapDocument .beginChange))
    (hends : ∀ e, P e → P (e.mapDocument fun d => d.endChange.1)) :
    Preserves P (asOneChange act) :=
  fun e h => ensures_asOneChange.2 ((hact _ (hbegins e h)).mono (fun _ e' => hends e') hends)

end Preserves

/-! ## Outcomes -/

/-- There is a notice if and only if the command failed. -/
theorem observe_cases {act : EditorM Unit} {e : Editor} {ok failed : Editor → Prop}
    (h : Ensures act e (fun _ e' => ok e') failed) :
    (act.observe e).2.notice = none ∧ ok (act.observe e).1 ∨
      (act.observe e).2.notice ≠ none ∧ failed (act.observe e).1 := by
  unfold Ensures at h
  unfold EditorM.observe
  cases hact : act e with
  | ok a e' => rw [hact] at h; exact .inl ⟨rfl, h⟩
  | error reason e' => rw [hact] at h; exact .inr ⟨nofun, h⟩

/-- A command is seen to change something exactly when the revision moved. -/
theorem observe_changed (act : EditorM Unit) (e : Editor) :
    (act.observe e).2.changed = (e.document.revision != (act.observe e).1.document.revision) := rfl

end EditorM

namespace Editor

/-- What is ensured of the command of an action is so of the action. -/
theorem dispatch_cases {e : Editor} {a : Action} {ok failed : Editor → Prop}
    (h : EditorM.Ensures (EditorM.perform a) e (fun _ e' => ok e') failed) :
    (e.dispatch a).2.notice = none ∧ ok (e.dispatch a).1 ∨
      (e.dispatch a).2.notice ≠ none ∧ failed (e.dispatch a).1 :=
  EditorM.observe_cases h

/-- An action whose command cannot fail gives no notice. -/
theorem dispatch_of_ensures {e : Editor} {a : Action} {ok : Editor → Prop}
    (h : EditorM.Ensures (EditorM.perform a) e (fun _ e' => ok e') EditorM.Never) :
    (e.dispatch a).2.notice = none ∧ ok (e.dispatch a).1 :=
  (dispatch_cases h).resolve_right fun hfailed => hfailed.2

/-- A dispatch that succeeds shows no notice. -/
theorem dispatch_of_ok {e e' : Editor} {a : Action} (h : EditorM.perform a e = .ok () e') :
    (e.dispatch a).1 = e' ∧ (e.dispatch a).2.notice = none := by
  simp only [dispatch, EditorM.observe, h, and_self]

/-- An action without a notice succeeded. -/
theorem perform_of_notice {e : Editor} {a : Action} (h : (e.dispatch a).2.notice = none) :
    EditorM.perform a e = .ok () (e.dispatch a).1 := by
  cases hact : EditorM.perform a e with
  | ok u e' => rw [(dispatch_of_ok hact).1]
  | error reason e' =>
    simp only [dispatch, EditorM.observe, hact] at h
    cases h

end Editor

end ModalEditor
