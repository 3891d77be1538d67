import ModalEditor.Proofs.Editor.Quiet

/-!
# Every action in its mode

The commands that edit, each in the mode that its action belongs to, and all actions together:
`perform_stepped` for those that stay in the change that is being made, `perform_healthy` for all.
-/

namespace ModalEditor.EditorM

open Document (Kept InUnit Settled IsEdit)
open Editor

variable {e : Editor}

/-! ## A selection is used up -/

/-- The editor is ready, and otherwise as before. -/
structure Taken (e e' : Editor) : Prop where
  ready : e'.Ready
  kept : Kept e.document e'.document
  group : e'.document.group = e.document.group
  marks : e'.document.marks = e.document.marks
  registers : e'.registers = e.registers
  commandLine : e'.commandLine = e.commandLine
  replaying : e'.replaying = e.replaying

section Taken

variable {e₁ e' : Editor}

/-- With the selection taken the editor is as it is in normal mode. -/
theorem Taken.healthy (h : Taken e e₁) (he : e.Healthy) (hs : e.session = none)
    (hline : e.commandLine.isActive = false) : e₁.Healthy := by
  refine ⟨(inPhase_normal h.ready.mode).2 ⟨h.ready.selection, h.ready.session,
    h.group.trans (he.group_eq_none hs), h.ready.rests⟩, ?_, h.replaying.trans he.replaying,
    h.kept.history ▸ he.sound⟩
  rw [h.commandLine, hline, h.ready.mode]
  exact ⟨nofun, nofun⟩

/-- A step from there is a step from the editor with its selection. -/
theorem Taken.stepped (h : Taken e e₁) (hs : e.session = none)
    (h' : Stepped e₁ e') (he₁ : e₁.Healthy) : Stepped e e' := by
  -- the selection is gone and the text is the same: what follows starts from there
  have hsince := h'.follows.unit e.document
    (since_of_none h.ready.session ⟨he₁.group_eq_none h.ready.session, .inl h.kept⟩)
  exact ⟨h'.healthy, Follows.of_none hs (hsince fun _ => h.kept) fun hs' =>
    (h'.follows.ends hs').imp_right fun hk => h.kept.trans hk.2⟩

/-- A failure there loses the selection, and nothing else. -/
theorem Taken.failed (h : Taken e e₁) (hs : e.session = none)
    (h' : Failed e₁ e') (he₁ : e₁.Healthy) : Failed e e' :=
  ⟨h.stepped hs h'.stepped he₁,
    SameContent.trans ⟨h.kept.buffer, h.kept.revision, h.kept.history, h.registers, h.marks⟩
      h'.content⟩

end Taken

/-- What is done, begun or refused once the editor is ready makes the step. -/
theorem Taken.ensures {e₁ : Editor} (h : Taken e e₁) (he : e.Healthy) (hs : e.session = none)
    (hline : e.commandLine.isActive = false) {α : Type} {act : EditorM α}
    (hact : Ensures act e₁ (fun _ e' => Done e₁ e' ∨ Begun e₁ e') (Refused e₁)) :
    Ensures act e₁ (fun _ e' => Stepped e e') (Failed e) := by
  have he₁ := h.healthy he hs hline
  refine hact.mono (fun _ e' hend => ?_) fun e' hend => h.failed hs (hend.failed he₁) he₁
  rcases hend with hend | hend
  · exact h.stepped hs (hend.stepped he₁ h.ready.mode) he₁
  · exact h.stepped hs (hend.stepped he₁ h.ready.mode) he₁

/-- In visual mode there is a selection to take. -/
theorem ensures_takeSelection (he : e.Healthy) {kind : VisualKind} (hm : e.mode = .visual kind)
    {ok : TextRange → Editor → Prop} {failed : Editor → Prop}
    (hok : ∀ range e₁, Taken e e₁ → ok range e₁) : Ensures takeSelection e ok failed := by
  obtain ⟨⟨s, hs, -, -⟩, hsession, hgroup⟩ := he.selecting hm
  have hnext : e.mode.next .operatorApplied = .ok .normal := by rw [hm]; rfl
  refine ensures_bind.2 (ensures_get.2 ?_)
  rw [hs]
  refine ensures_bind.2 (ensures_transition hnext (ensures_bind.2 (ensures_modify.2 ?_)))
  exact hok _ _ ⟨⟨rfl, rfl, hsession, Document.rests_setCursor _ _⟩, ⟨rfl, rfl, rfl⟩, rfl, rfl, rfl,
    rfl, rfl⟩

/-- An operator is done, or has begun to type, or is refused. -/
theorem operateOn_ends (he : e.Ready) (hd : e.document.group = none) (op : Operator)
    (range : TextRange) (register : Option Char) (change : Change) :
    Ensures (operateOn op range register change) e (fun _ e' => Done e e' ∨ Begun e e')
      (Refused e) := by
  cases op with
  | yank => exact (yankRange_done he range register).mono (fun _ _ h => .inl h) fun _ h => h
  | delete =>
    refine (deleteRange_done he range register).bind (fun _ e₁ h => ?_) fun _ h => h
    exact ensures_record _ (.inl (h.record _))
  | change =>
    exact (changeRange_begun he (.inl hd) range register change).mono (fun _ _ h => .inr h)
      fun _ h => h

/-- An operator takes the selection, and works on it as on another range. -/
theorem operateSelection_stepped (he : e.Healthy) {kind : VisualKind} (hm : e.mode = .visual kind)
    (op : Operator) (extent : VisualExtent) (register : Option Char) :
    Ensures (operateSelection op extent register) e (fun _ e' => Stepped e e') (Failed e) := by
  obtain ⟨-, hsession, hgroup⟩ := he.selecting hm
  refine ensures_bind.2 (ensures_takeSelection he hm fun range e₁ h => ?_)
  refine ensures_bind.2 (ensures_get.2 ?_)
  exact h.ensures he hsession (he.closed hm nofun)
    (operateOn_ends h.ready (h.group.trans hgroup) op _ register _)

/-- An edit takes the selection, works on it and is recorded. -/
theorem editSelection_stepped (he : e.Healthy) {kind : VisualKind} (hm : e.mode = .visual kind)
    (edit : VisualEdit) (register : Option Char) {act : TextRange → EditorM Unit}
    (hact : ∀ range {e₁ : Editor}, e₁.Ready →
      Ensures (act range) e₁ (fun _ e' => Done e₁ e') (Refused e₁)) :
    Ensures (editSelection edit register act) e (fun _ e' => Stepped e e') (Failed e) := by
  obtain ⟨-, hsession, hgroup⟩ := he.selecting hm
  refine ensures_bind.2 (ensures_takeSelection he hm fun range e₁ h => ?_)
  refine ensures_bind.2 (ensures_get.2 ?_)
  refine h.ensures he hsession (he.closed hm nofun) ?_
  refine (hact range h.ready).bind (fun _ e₂ h₂ => ?_) fun _ h₂ => h₂
  exact ensures_record _ (.inl (h₂.record _))

/-- The character that was awaited replaces, or nothing is replaced; either way normal mode is back. -/
theorem replaceChar_stepped (he : e.Healthy) (hm : e.mode = .replaceSingle) (c : Char)
    (count : Nat) :
    Ensures (replaceChar c count) e (fun _ e' => Stepped e e') (Failed e) := by
  have hphase := he.phase
  rw [InPhase, hm] at hphase
  obtain ⟨hselection, hsession, hgroup, hrests⟩ := hphase
  refine ensures_replaceChar hm c count ?_
  -- with the mode for one character left, the editor is ready
  have htaken : Taken e { e with modes := { e.modes with mode := .normal
                                                         history := e.modes.remember } } :=
    ⟨⟨rfl, hselection, hsession, hrests⟩, Kept.refl _, rfl, rfl, rfl, rfl, rfl⟩
  exact htaken.ensures he hsession (he.closed hm (by decide))
    ((replaceUnder_done htaken.ready c count).mono (fun _ _ h => .inl h) fun _ h => h)

/-! ## Typing -/

/-- The session of a healthy editor in a mode for typing. -/
theorem session_of_typing (he : e.Healthy) (hm : e.mode.isTyping = true) : e.InSession :=
  (inPhase_typing hm).1 he.phase

/-- While text is typed the command line is closed. -/
theorem closed_of_typing (he : e.Healthy) (hm : e.mode.isTyping = true) :
    e.commandLine.isActive = false :=
  he.isActive_eq_false fun hmode => by rw [hmode] at hm; cases hm

/-- While text is typed a key is typed. -/
theorem ensures_type (hm : e.mode.isTyping = true) (k : Edit) {ok : Unit → Editor → Prop}
    {failed : Editor → Prop} (hok : ok () (e.typeEdit k)) : Ensures (type k) e ok failed := by
  refine ensures_modify.2 ?_
  cases hmode : e.mode with
  | insert variant => exact hok
  | replace => exact hok
  | _ => rw [hmode] at hm; cases hm

/-- A typed key is an edit in the change that is being made. -/
theorem type_stepped (he : e.Healthy) (hm : e.mode.isTyping = true) {k : Edit}
    (hk : k.isMove = false) {failed : Editor → Prop} :
    Ensures (type k) e (fun _ e' => Stepped e e') failed := by
  refine ensures_type hm k ?_
  obtain ⟨htyping, d₀, hd₀, hunit⟩ := session_of_typing he hm
  have hplain : Edit.Plain [k] := fun k' hk' => (List.mem_singleton.1 hk') ▸ hk
  have hkeys := afterKeys_typeEdit e hk
  have htyping' := hkeys.typing hplain htyping
  have hedit : IsEdit fun d => (typeEdit { e with document := d } k).document :=
    isEdit_of_related e fun hR _ _ _ h => h.typeEdit hR hk
  obtain ⟨d, g, heq⟩ := hkeys
  obtain ⟨s, hs, -⟩ := htyping.session
  obtain ⟨s', hs', -⟩ := htyping'.session
  have hclosed := closed_of_typing he hm
  have hline : (e.typeEdit k).commandLine.isActive = false := by rw [heq]; exact hclosed
  have hreplaying : (e.typeEdit k).replaying = false := by rw [heq]; exact he.replaying
  refine ⟨healthy_of_inUnit htyping' hd₀ (hedit.inUnit hunit) hline hreplaying,
    fun d₁ hsince _ => since_of_some hs' (hedit.inUnit ?_), hedit.revision_le hunit.openAt,
    fun hnone => by rw [hs'] at hnone; cases hnone⟩
  rwa [Since, hs] at hsince

/-- An arrow ends the change that is being made and begins another one. -/
theorem moveTyping_healthy (he : e.Healthy) (hm : e.mode.isTyping = true)
    (direction : Direction) {failed : Editor → Prop} :
    Ensures (type (.move direction)) e (fun _ e' => e'.Healthy) failed := by
  refine ensures_type hm _ ?_
  obtain ⟨htyping, d₀, hd₀, hunit⟩ := session_of_typing he hm
  obtain ⟨s, hs, -⟩ := htyping.session
  have hmoved : InUnit d₀ 0 (e.document.move direction 1 .insert).1 := by
    cases direction <;> exact (Document.editInvariant_inUnit d₀).place _ _ hunit
  -- the cursor moves in the old change, which ends there, and the new one begins with nothing
  have hsettled := hmoved.settled
  have hclosed := closed_of_typing he hm
  obtain ⟨origin, hkey⟩ : ∃ origin, e.typeEdit (.move direction) =
      { e with
        document := (e.document.move direction 1 .insert).1.endChange.1.beginChange
        session := some (.start origin 1) } := by
    simp only [typeEdit, applyEdit, moveTyping, rememberEdit, mapDocument, hs]
    exact ⟨_, rfl⟩
  rw [hkey]
  exact healthy_of_inUnit ⟨hm, htyping.selection, _, rfl, List.forall_mem_nil _⟩
    (hsettled.sound hd₀) (Document.inUnit_beginChange hsettled.1) hclosed he.replaying

/-- The end of a session ends its change. -/
theorem finishSession_stepped (he : e.Healthy) (hm : e.mode.isTyping = true)
    {failed : Editor → Prop} :
    Ensures finishSession e (fun _ e' => Stepped e e') failed := by
  obtain ⟨htyping, d₀, hd₀, hunit⟩ := session_of_typing he hm
  obtain ⟨s, hs, -⟩ := htyping.session
  refine (finishSession_finished htyping).mono (fun _ e' h => ?_) fun _ h => h
  obtain ⟨f, hf, hdoc⟩ := h.document
  have hsettled (d₁ : Document) (h₁ : InUnit d₁ 0 e.document) : Settled d₁ e'.document :=
    hdoc ▸ (hf.inUnit h₁).settled
  refine ⟨⟨(inPhase_normal h.ready.mode).2 ⟨h.ready.selection, h.ready.session,
    (hsettled d₀ hunit).1, h.ready.rests⟩, ?_, h.replaying.trans he.replaying,
    (hsettled d₀ hunit).sound hd₀⟩, fun d₁ hsince _ => ?_, ?_, fun _ => .inl h.ready.mode⟩
  · rw [h.commandLine, closed_of_typing he hm, h.ready.mode]
    exact ⟨nofun, nofun⟩
  · rw [Since, hs] at hsince
    exact since_of_none h.ready.session (hsettled d₁ hsince)
  · rw [hdoc, Document.endChange_revision]
    exact hf.revision_le hunit.openAt

/-! ## The escape key -/

/-- The escape key ends what the mode is about. -/
theorem escape_stepped (he : e.Healthy) {failed : Editor → Prop} :
    Ensures escape e (fun _ e' => Stepped e e') failed := by
  have hphase := he.phase
  refine ensures_bind.2 (ensures_get.2 ?_)
  -- each mode gives up its own part of the editor, and the part decides what is to be shown
  cases hm : e.mode with
  | normal =>
    exact ensures_pure.2 (stepped_of_kept he (Kept.refl _) rfl rfl hphase he.commandLine rfl)
  | insert variant => exact finishSession_stepped he (by rw [hm]; rfl)
  | replace => exact finishSession_stepped he (by rw [hm]; rfl)
  | visual kind =>
    have hnext : e.mode.next .escape = .ok .normal := by rw [hm]; rfl
    refine ensures_bind.2 (ensures_transition hnext (ensures_modify.2 ?_))
    exact leaveVisual_stepped he hm _ rfl
  | commandLine =>
    have hnext : e.mode.next .escape = .ok .normal := by rw [hm]; rfl
    refine ensures_bind.2 (ensures_transition hnext (ensures_modify.2 ?_))
    exact closed_stepped he hm _ rfl
  | replaceSingle =>
    have hnext : e.mode.next .escape = .ok .normal := by rw [hm]; rfl
    rw [InPhase, hm] at hphase
    refine ensures_transition hnext ?_
    exact stepped_of_resting he (Kept.refl _) rfl rfl rfl
      ⟨hphase.selection, hphase.session, hphase.group, hphase.rests⟩ (he.closed hm (by decide)) rfl

/-! ## Undo and redo -/

/-- A walk through the history starts and ends without a change being made. -/
theorem travel_healthy (he : e.Healthy) (hm : e.mode = .normal)
    {step : History → Snapshot → Option (History × Snapshot)} (hstep : Document.KeepsSound step)
    (n : Nat) (reason : EditorError) :
    Ensures (attempt (·.travel step n) reason) e (fun _ e' => e'.Healthy) (Failed e) := by
  obtain ⟨hselection, hsession, hgroup, hrests⟩ := he.resting hm
  refine ensures_attempt _ _ (fun _ => ?_) fun hnone => ?_
  · have hmode : Editor.mode { e with document := (e.document.travel step n).1 } = .normal := hm
    exact ⟨(inPhase_normal hmode).2 ⟨hselection, hsession, Document.travel_group _ n,
      Document.travel_rests hrests n⟩, he.commandLine, he.replaying,
      Document.travel_sound hstep n he.sound⟩
  · -- only a walk of no step at all is refused
    rcases Document.travel_cases step e.document n with ⟨hdoc, -⟩ | ⟨d', done, -, -, hdone⟩
    · refine Refused.failed ?_ he
      rw [hdoc, Refused, core]
      simp only [core, hgroup]
    · rw [hdone] at hnone; cases hnone

/-! ## All actions -/

/-- A mode that is visual is so in one of its kinds. -/
theorem exists_kind {mode : Mode} (h : mode.isVisual = true) : ∃ kind, mode = .visual kind := by
  cases mode with
  | visual kind => exact ⟨kind, rfl⟩
  | _ => cases h

/-- What fits normal and visual mode fits one of the two. -/
theorem normal_or_visual {mode : Mode} (h : (mode == .normal || mode.isVisual) = true) :
    mode = .normal ∨ ∃ kind, mode = .visual kind :=
  (Bool.or_eq_true_iff.1 h).imp (fun h => beq_iff_eq.1 h) exists_kind

/-- An action that edits makes a change, or begins one, or is refused. -/
theorem perform_edits (he : e.Healthy) (hm : e.mode = .normal)
    (hplain : ∀ c, e.lastChange = some c → c.Plain) {a : Action} (hedits : a.edits = true) :
    Ensures (perform a) e (fun _ e' => Done e e' ∨ Begun e e') (Refused e) := by
  have hready := he.ready hm
  have hnested : e.document.Nested := .inl (he.group_eq_none hready.session)
  cases a with
  | operate op target count register =>
    -- a change goes on to typing, and the other operators are done
    by_cases hop : op = .change
    · subst hop
      exact (operate_begun hready hnested target count register).mono (fun _ _ h => .inr h)
        fun _ h => h
    · exact (operate_done hready hop target count register).mono (fun _ _ h => .inl h)
        fun _ h => h
  | put placement count register =>
    exact (put_done hready placement count register).mono (fun _ _ h => .inl h) fun _ h => h
  | join count spaced =>
    refine (join_done hready e.document.cursor.row count spaced).bind (fun _ e₁ h => ?_)
      fun _ h => h
    exact ensures_record _ (.inl (h.record _))
  | enterInsert variant count =>
    exact (enterInsert_begun hready variant count).mono (fun _ _ h => .inr h) fun _ h => h
  | enterReplace count =>
    exact (enterReplace_begun hready count).mono (fun _ _ h => .inr h) fun _ h => h
  | repeatLast count =>
    exact (repeatLast_done hready hnested he.replaying hplain count).mono (fun _ _ h => .inl h)
      fun _ h => h
  | _ => cases hedits

/-- An action that stays in the change that is being made. -/
theorem perform_stepped (he : e.Healthy) (hplain : ∀ c, e.lastChange = some c → c.Plain)
    {a : Action} (hfits : a.fits e.mode = true) (hstays : a.staysInChange = true) :
    Ensures (perform a) e (fun _ e' => Stepped e e') (Failed e) := by
  by_cases hedits : a.edits = true
  · have hm := Action.mode_of_edits hedits hfits
    exact (perform_edits he hm hplain hedits).mono
      (fun _ _ h => h.elim (·.stepped he hm) (·.stepped he hm)) fun _ h => h.failed he
  -- what is left moves the cursor, works on a selection, or belongs to a mode of its own
  cases a with
  | motion m count => exact move_stepped he (normal_or_visual hfits) m count
  | beginReplaceSingle => exact beginReplaceSingle_stepped he (beq_iff_eq.1 hfits)
  | replaceChar c count => exact replaceChar_stepped he (beq_iff_eq.1 hfits) c count
  | enterVisual kind => exact toggleVisual_stepped he (normal_or_visual hfits) kind
  | undo count => cases hstays
  | redo count => cases hstays
  | setMark name => exact setMark_stepped he (beq_iff_eq.1 hfits) name
  | jumpBack count =>
    exact landJump_stepped he (beq_iff_eq.1 hfits) fun d => d.jumps.back d.cursor (max count 1)
  | jumpForward count =>
    exact landJump_stepped he (beq_iff_eq.1 hfits) fun d => d.jumps.forward (max count 1)
  | commandStart count => exact startCommandLine_stepped he (beq_iff_eq.1 hfits) count
  | commandChar c => exact typeCommand_stepped he (beq_iff_eq.1 hfits) c
  | commandBackspace => exact eraseCommand_stepped he (beq_iff_eq.1 hfits)
  | commandSubmit => exact submitCommand_stepped he (beq_iff_eq.1 hfits)
  | visualSwap =>
    obtain ⟨kind, hm⟩ := exists_kind hfits
    exact swapSelection_stepped he hm
  | visualObject o count =>
    obtain ⟨kind, hm⟩ := exists_kind hfits
    exact selectObject_stepped he hm o count
  | visualOperate op extent register =>
    obtain ⟨kind, hm⟩ := exists_kind hfits
    exact operateSelection_stepped he hm op extent register
  | visualJoin spaced =>
    obtain ⟨kind, hm⟩ := exists_kind hfits
    exact editSelection_stepped he hm _ none fun range _ h => join_done h _ _ spaced
  | visualReplace c =>
    obtain ⟨kind, hm⟩ := exists_kind hfits
    exact editSelection_stepped he hm _ none fun range _ h => fillRange_done h c range
  | visualPut count register =>
    obtain ⟨kind, hm⟩ := exists_kind hfits
    exact editSelection_stepped he hm _ register fun range _ h =>
      putOverRange_done h count register range
  | edit k =>
    refine type_stepped he hfits ?_
    cases k with
    | move direction => cases hstays
    | _ => rfl
  | escape => exact escape_stepped he
  | rejected reason => exact ensures_throw.2 (Refused.failed rfl he)
  | _ => exact absurd rfl hedits

/-- Every action leaves the editor healthy; one that fails leaves the text alone as well. -/
theorem perform_healthy (he : e.Healthy) (hplain : ∀ c, e.lastChange = some c → c.Plain)
    {a : Action} (hfits : a.fits e.mode = true) :
    Ensures (perform a) e (fun _ e' => e'.Healthy) (Failed e) := by
  by_cases hstays : a.staysInChange = true
  · exact (perform_stepped he hplain hfits hstays).mono (fun _ _ h => h.healthy) fun _ h => h
  · cases a with
    | undo count =>
      exact travel_healthy he (beq_iff_eq.1 hfits) Document.keepsSound_undo count _
    | redo count =>
      exact travel_healthy he (beq_iff_eq.1 hfits) Document.keepsSound_redo count _
    | edit k =>
      cases k with
      | move direction => exact moveTyping_healthy he hfits direction
      | _ => exact absurd rfl hstays
    | _ => exact absurd rfl hstays

/-- A command on a range is a step, in whatever mode. -/
theorem runEx_stepped (he : e.Healthy) (command : ExCommand) :
    Ensures (runEx command) e (fun _ e' => Stepped e e') (Failed e) := by
  by_cases hm : e.mode = .normal
  · have hready := he.ready hm
    exact (runEx_done hready (.inl (he.group_eq_none hready.session)) command).mono
      (fun _ _ h => h.stepped he hm) fun _ h => h.failed he
  · exact (runEx_refused hm command).mono (fun _ _ h => h) fun _ h => h.failed he

end ModalEditor.EditorM
