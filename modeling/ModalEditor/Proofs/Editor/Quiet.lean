import ModalEditor.Proofs.Editor.Step

/-!
# Commands that leave the text alone

Motions, marks, jumps, the command line and the selection. None of them touches the text, so all
that is to be said is that the parts of the editor that belong to the mode are there afterwards.
-/

namespace ModalEditor.EditorM

open Document (Kept)
open Editor

variable {e : Editor}

/-! ## Motions -/

/-- Landing moves the cursor and records a jump, but nothing of a change. -/
theorem landOn_kept (e : Editor) (m : Motion) (landing : Landing) :
    Kept e.document (e.landOn m landing).document ∧
      (e.landOn m landing).document.group = e.document.group := by
  simp only [landOn]
  split <;> split <;> exact ⟨⟨rfl, rfl, rfl⟩, rfl⟩

/-- A motion puts the cursor where it may rest. -/
theorem landOn_rests (e : Editor) (m : Motion) (landing : Landing) :
    (e.landOn m landing).document.Rests := by
  simp only [landOn]
  split
  · exact Document.rests_setCursor _ landing.place
  · exact Document.rests_setCursor _ landing.place

/-- A selection reaches to the cursor. -/
theorem landOn_selection {e : Editor} {s : Selection} (hs : e.selection = some s) (m : Motion)
    (landing : Landing) :
    (e.landOn m landing).selection = some (s.extend (e.landOn m landing).document.cursor) := by
  show e.selection.map (·.extend (e.landOn m landing).document.cursor) = _
  rw [hs]
  rfl

/-- A motion that fails leaves the editor but for the last search; one that lands moves the cursor, and
the selection with it. -/
theorem move_stepped (he : e.Healthy) (hfits : e.mode = .normal ∨ ∃ kind, e.mode = .visual kind)
    (m : Motion) (count : Option Nat) :
    Ensures (move m count) e (fun _ e' => Stepped e e') (Failed e) := by
  refine ensures_bind.2 (ensures_noteFind m fun lastFind => ?_)
  refine ensures_bind.2 (ensures_get.2 (ensures_bind.2 (ensures_ofExcept.2 ?_)))
  split
  · rename_i landing _
    refine ensures_set.2 ?_
    obtain ⟨hkept, hgroup⟩ := landOn_kept { e with lastFind } m landing
    have hrests := landOn_rests { e with lastFind } m landing
    rcases hfits with hm | ⟨kind, hm⟩
    · obtain ⟨hselection, hsession, hnone, -⟩ := he.resting hm
      exact stepped_of_resting he hkept hgroup rfl hm
        ⟨congrArg (Option.map _) hselection, hsession, hgroup.trans hnone, hrests⟩
        (he.closed hm nofun) rfl
    · obtain ⟨⟨s, hs, hkind, -⟩, hsession, hnone⟩ := he.selecting hm
      have hreach : (Editor.landOn { e with lastFind } m landing).selection = _ :=
        landOn_selection hs m landing
      exact stepped_of_selecting he hkept hgroup rfl hm
        ⟨⟨_, hreach, hkind, hrests.symm⟩, hsession, hgroup.trans hnone⟩ (he.closed hm nofun) rfl
  · exact Refused.failed rfl he

/-! ## Marks and jumps -/

/-- Setting a mark changes the marks only. -/
theorem setMark_stepped (he : e.Healthy) (hm : e.mode = .normal) (name : Char) :
    Ensures (setMark name) e (fun _ e' => Stepped e e') (Failed e) := by
  refine ensures_bind.2 (ensures_get.2 (ensures_bind.2 (ensures_get.2 ?_)))
  cases hset : e.document.setMark? name e.document.cursor with
  | none => exact ensures_throw.2 (Refused.failed rfl he)
  | some document =>
    obtain ⟨marks, -, rfl⟩ := Option.map_eq_some_iff.1 hset
    obtain ⟨hselection, hsession, hnone, hrests⟩ := he.resting hm
    exact stepped_of_resting he ⟨rfl, rfl, rfl⟩ rfl rfl hm ⟨hselection, hsession, hnone, hrests⟩
      (he.closed hm nofun) rfl

/-- A walk through the jump list moves the cursor at most, and does not even that if it fails. -/
theorem landJump_stepped (he : e.Healthy) (hm : e.mode = .normal)
    (walk : Document → JumpList × Option Position) :
    Ensures (attempt (fun d => d.landJump (walk d)) .jumpListExhausted) e
      (fun _ e' => Stepped e e') (Failed e) := by
  refine ensures_attempt _ _ (fun hsome => ?_) fun hnone => ?_
  · cases hwalk : (walk e.document).2 with
    | none => simp only [Document.landJump, hwalk] at hsome; cases hsome
    | some p =>
      obtain ⟨hselection, hsession, hgroup, -⟩ := he.resting hm
      simp only [Document.landJump, hwalk]
      exact stepped_of_resting he ⟨rfl, rfl, rfl⟩ rfl rfl hm
        ⟨hselection, hsession, hgroup, Document.rests_setCursor _ p⟩ (he.closed hm nofun) rfl
  · cases hwalk : (walk e.document).2 with
    | none =>
      simp only [Document.landJump, hwalk]
      exact Refused.failed rfl he
    | some p => simp only [Document.landJump, hwalk] at hnone; cases hnone

/-! ## The command line -/

/-- The command line opens empty, or with the range of its count. -/
theorem startCommandLine_stepped (he : e.Healthy) (hm : e.mode = .normal) (count : Option Nat)
    {failed : Editor → Prop} :
    Ensures (startCommandLine count) e (fun _ e' => Stepped e e') failed := by
  have hnext : e.mode.next .enterCommandLine = .ok .commandLine := by rw [hm]; rfl
  obtain ⟨hselection, hsession, hgroup, hrests⟩ := he.resting hm
  refine ensures_bind.2 (ensures_transition hnext (ensures_modify.2 ?_))
  exact stepped_of_kept he (Kept.refl _) rfl rfl
    (show Resting _ from ⟨hselection, hsession, hgroup, hrests⟩) ⟨fun _ => rfl, fun _ => rfl⟩ rfl

/-- The resting editor of a command line. -/
theorem resting_of_commandLine (he : e.Healthy) (hm : e.mode = .commandLine) : e.Resting := by
  have hphase := he.phase
  rw [InPhase, hm] at hphase
  exact hphase

/-- A character is put behind the cursor of the command line. -/
theorem typeCommand_stepped (he : e.Healthy) (hm : e.mode = .commandLine) (c : Char)
    {failed : Editor → Prop} :
    Ensures (typeCommand c) e (fun _ e' => Stepped e e') failed := by
  obtain ⟨hselection, hsession, hgroup, hrests⟩ := resting_of_commandLine he hm
  refine ensures_modify.2 (stepped_of_kept he (Kept.refl _) rfl rfl ?_ ?_ rfl)
  · have hmode : Editor.mode { e with commandLine := e.commandLine.push c } = .commandLine := hm
    rw [InPhase, hmode]
    exact ⟨hselection, hsession, hgroup, hrests⟩
  · refine ⟨fun _ => hm, fun _ => ?_⟩
    have hactive := he.commandLine.2 hm
    unfold CommandLine.isActive at hactive ⊢
    cases htext : e.commandLine.text with
    | nil => rw [htext] at hactive; cases hactive
    | cons a rest =>
      rw [htext] at hactive
      simp only [CommandLine.push, htext]
      exact hactive

/-- Closing the command line, by whatever event, leads back to normal mode. -/
theorem closed_stepped (he : e.Healthy) (hm : e.mode = .commandLine) (modes : Modes)
    (hmodes : modes.mode = .normal) : Stepped e { e with modes, commandLine := .closed } := by
  obtain ⟨hselection, hsession, hgroup, hrests⟩ := resting_of_commandLine he hm
  exact stepped_of_resting he (Kept.refl _) rfl rfl hmodes ⟨hselection, hsession, hgroup, hrests⟩
    rfl rfl

/-- Erasing from an empty command line leaves it, and otherwise takes a character. -/
theorem eraseCommand_stepped (he : e.Healthy) (hm : e.mode = .commandLine)
    {failed : Editor → Prop} :
    Ensures eraseCommand e (fun _ e' => Stepped e e') failed := by
  refine ensures_bind.2 (ensures_get.2 ?_)
  cases hback : e.commandLine.backspace? with
  | none =>
    have hnext (commandLine : CommandLine) :
        (Editor.mode { e with commandLine }).next .escape = .ok .normal := by
      rw [show Editor.mode { e with commandLine } = .commandLine from hm]; rfl
    refine ensures_bind.2 (ensures_modify.2 (ensures_transition (hnext _) ?_))
    exact closed_stepped he hm _ rfl
  | some commandLine =>
    obtain ⟨hselection, hsession, hgroup, hrests⟩ := resting_of_commandLine he hm
    refine ensures_modify.2 (stepped_of_kept he (Kept.refl _) rfl rfl ?_ ?_ rfl)
    · rw [InPhase, show Editor.mode { e with commandLine } = .commandLine from hm]
      exact ⟨hselection, hsession, hgroup, hrests⟩
    · refine ⟨fun _ => hm, fun _ => ?_⟩
      -- the colon is the last character to go, and it closes the command line
      have hactive := he.commandLine.2 hm
      unfold CommandLine.backspace? at hback
      split at hback
      · rename_i hsize
        cases hback
        unfold CommandLine.isActive at hactive ⊢
        cases htext : e.commandLine.text with
        | nil => rw [htext] at hactive; cases hactive
        | cons a rest =>
          rw [htext] at hactive hsize
          cases rest with
          | nil =>
            rw [show a = ':' by simpa using hactive] at hsize
            exact absurd hsize (by decide)
          | cons b rest => exact hactive
      · cases hback

/-- Submitting leaves the command line, and gives its text. -/
theorem submitCommand_stepped (he : e.Healthy) (hm : e.mode = .commandLine)
    {failed : Editor → Prop} :
    Ensures submitCommand e (fun _ e' => Stepped e e') failed := by
  have hnext : e.mode.next .submit = .ok .normal := by rw [hm]; rfl
  refine ensures_bind.2 (ensures_transition hnext (ensures_modify.2 ?_))
  exact closed_stepped he hm _ rfl

/-! ## The selection -/

/-- A cursor that is brought to where it may rest rests there. -/
theorem rests_clampCursor (d : Document) : (d.clampCursor .normal).Rests :=
  Document.rests_setCursor d d.cursor

/-- Leaving visual mode drops the selection and brings the cursor to rest. -/
theorem leaveVisual_stepped (he : e.Healthy) {kind : VisualKind} (hm : e.mode = .visual kind)
    (modes : Modes) (hmodes : modes.mode = .normal) :
    Stepped e { ({ e with modes } : Editor).mapDocument (·.clampCursor .normal) with
      selection := none } := by
  obtain ⟨-, hsession, hgroup⟩ := he.selecting hm
  exact stepped_of_resting he ⟨rfl, rfl, rfl⟩ rfl rfl hmodes
    ⟨rfl, hsession, hgroup, rests_clampCursor _⟩ (he.closed hm nofun) rfl

/-- Selecting begins, ends or changes its kind, by the mode that it finds. -/
theorem toggleVisual_stepped (he : e.Healthy)
    (hfits : e.mode = .normal ∨ ∃ kind, e.mode = .visual kind) (kind : VisualKind)
    {failed : Editor → Prop} :
    Ensures (toggleVisual kind) e (fun _ e' => Stepped e e') failed := by
  rcases hfits with hm | ⟨current, hm⟩
  · have hnext : e.mode.next (.enterVisual kind) = .ok (.visual kind) := by rw [hm]; rfl
    obtain ⟨hselection, hsession, hgroup, hrests⟩ := he.resting hm
    refine ensures_bind.2 (ensures_transition hnext (ensures_modify.2 ?_))
    simp only [Editor.mode, hselection]
    exact stepped_of_selecting he (Kept.refl _) rfl rfl rfl
      ⟨⟨_, rfl, rfl, hrests.symm⟩, hsession, hgroup⟩ (he.closed hm nofun) rfl
  · obtain ⟨⟨s, hs, -, hcursor⟩, hsession, hgroup⟩ := he.selecting hm
    -- the key of its own kind ends the selection, and another changes the kind
    by_cases hkind : current = kind
    · have hnext : e.mode.next (.enterVisual kind) = .ok .normal := by
        rw [hm, Mode.next, if_pos hkind]
      refine ensures_bind.2 (ensures_transition hnext (ensures_modify.2 ?_))
      exact leaveVisual_stepped he hm _ rfl
    · have hnext : e.mode.next (.enterVisual kind) = .ok (.visual kind) := by
        rw [hm, Mode.next, if_neg hkind]
      refine ensures_bind.2 (ensures_transition hnext (ensures_modify.2 ?_))
      simp only [Editor.mode, hs]
      exact stepped_of_selecting he (Kept.refl _) rfl rfl rfl
        ⟨⟨_, rfl, rfl, hcursor⟩, hsession, hgroup⟩ (he.closed hm nofun) rfl

/-- Swapping the ends moves the cursor to the anchor and the anchor to the cursor. -/
theorem swapSelection_stepped (he : e.Healthy) {kind : VisualKind} (hm : e.mode = .visual kind)
    {failed : Editor → Prop} :
    Ensures swapSelection e (fun _ e' => Stepped e e') failed := by
  obtain ⟨⟨s, hs, hkind, -⟩, hsession, hgroup⟩ := he.selecting hm
  refine ensures_bind.2 (ensures_get.2 ?_)
  rw [hs]
  refine ensures_modify.2 ?_
  exact stepped_of_selecting he ⟨rfl, rfl, rfl⟩ rfl rfl hm
    ⟨⟨_, rfl, hkind, rfl⟩, hsession, hgroup⟩ (he.closed hm nofun) rfl

/-- In visual mode both ends of an object are selected. -/
theorem selectEnds_of_visual (anchor cursor : Position) {kind : VisualKind}
    (hm : e.mode = .visual kind) :
    e.selectEnds anchor cursor =
      { e.setCursor cursor .normal with selection := some ⟨kind, anchor, cursor⟩ } := by
  simp only [selectEnds, hm]

/-- Whole lines are selected line by line, so the mode may change before the selection is made:
the editor may differ from the first one in its mode. -/
theorem selectEnds_stepped (he : e.Healthy) {kind₀ : VisualKind} (hm : e.mode = .visual kind₀)
    {e₁ : Editor} (hdoc : e₁.document = e.document) (hses : e₁.session = e.session)
    (hline : e₁.commandLine = e.commandLine) (hrep : e₁.replaying = e.replaying)
    {kind : VisualKind} (hm₁ : e₁.mode = .visual kind) (anchor cursor : Position) :
    Stepped e (e₁.selectEnds anchor cursor) := by
  obtain ⟨-, hsession, hgroup⟩ := he.selecting hm
  rw [selectEnds_of_visual _ _ hm₁]
  have hdoc' : (e₁.setCursor cursor .normal).document = e.document.setCursor cursor .normal :=
    congrArg (·.setCursor cursor .normal) hdoc
  refine stepped_of_selecting he ?_ ?_ hses hm₁ ⟨⟨_, rfl, rfl, ?_⟩, hses.trans hsession, ?_⟩
    ((congrArg CommandLine.isActive hline).trans (he.closed hm nofun)) hrep
  · show Kept e.document (e₁.setCursor cursor .normal).document
    rw [hdoc']; exact ⟨rfl, rfl, rfl⟩
  · show (e₁.setCursor cursor .normal).document.group = _
    rw [hdoc']; rfl
  · rfl
  · show (e₁.setCursor cursor .normal).document.group = none
    rw [hdoc']; exact hgroup

/-- An object is selected with both ends, in whole lines if it is made of them; without such an object
nothing changes. -/
theorem selectObject_stepped (he : e.Healthy) {kind : VisualKind} (hm : e.mode = .visual kind)
    (o : TextObject) (count : Nat) :
    Ensures (selectObject o count) e (fun _ e' => Stepped e e') (Failed e) := by
  refine ensures_bind.2 (ensures_get.2 (ensures_bind.2 (ensures_ofExcept.2 ?_)))
  split
  · rename_i range _
    cases hends : e.document.objectEnds range with
    | none =>
      -- the object has no places to select between, and nothing changes
      exact stepped_of_kept he (Kept.refl _) rfl rfl he.phase he.commandLine rfl
    | some ends =>
      have hstay : Ensures (modify (·.selectEnds ends.1 ends.2)) e (fun _ e' => Stepped e e')
          (Failed e) :=
        ensures_modify.2 (selectEnds_stepped he hm rfl rfl rfl rfl hm ends.1 ends.2)
      refine ensures_bind.2 (ensures_get.2 ?_)
      by_cases hline : kind = .line
      · have hmode : (e.mode != .visual .line) = false := by rw [hm, hline]; rfl
        simp only [hmode, Bool.and_false, Bool.false_eq_true, if_false]
        exact hstay
      · have hmode : (e.mode != .visual .line) = true := by
          rw [hm, bne_iff_ne]
          exact fun heq => hline (Mode.visual.inj heq)
        have hnext : e.mode.next (.enterVisual .line) = .ok (.visual .line) := by
          rw [hm, Mode.next, if_neg hline]
        cases range with
        | lines first last =>
          simp only [hmode, Bool.and_true, if_true]
          refine ensures_bind.2 (ensures_transition hnext (ensures_modify.2 ?_))
          apply selectEnds_stepped he hm <;> rfl
        | chars first past => exact hstay
        | block top bottom left right => exact hstay
  · exact Refused.failed rfl he

/-! ## Waiting for a character -/

/-- A single replacement waits for its character. -/
theorem beginReplaceSingle_stepped (he : e.Healthy) (hm : e.mode = .normal)
    {failed : Editor → Prop} :
    Ensures beginReplaceSingle e (fun _ e' => Stepped e e') failed := by
  have hnext : e.mode.next .enterReplaceSingle = .ok .replaceSingle := by rw [hm]; rfl
  obtain ⟨hselection, hsession, hgroup, hrests⟩ := he.resting hm
  refine ensures_transition hnext ?_
  refine stepped_of_kept he (Kept.refl _) rfl rfl
    (show Resting _ from ⟨hselection, hsession, hgroup, hrests⟩) ?_ rfl
  rw [he.closed hm nofun]
  exact ⟨nofun, nofun⟩

end ModalEditor.EditorM
