import ModalEditor.Proofs.Editor.Enclosed
import ModalEditor.Proofs.Editor.Record

/-!
# Repeating is typing again

A repetition runs the commands of the recorded change inside another change and types the recorded
keys itself. It leaves the editor as the actions that typed the change would
(`Made.repeatLast_eq_retype`), but for the record: a repetition records what was repeated with the
count that was given, also where typing it would record nothing, or no count of zero.
-/

namespace ModalEditor

/-- The actions that type a change. An edit on a selection is not typed without one. -/
def Change.retype : Change → List Action
  | .operate op target count register typed =>
    .operate op target count register ::
      if op = .change then typed.map .edit ++ [.escape] else []
  | .visual .. => []
  | .insert variant count typed => .enterInsert variant count :: (typed.map .edit ++ [.escape])
  | .replace count typed => .enterReplace count :: (typed.map .edit ++ [.escape])
  | .put placement count register => [.put placement count register]
  | .join count spaced => [.join count spaced]
  | .replaceChar c count => [.replaceChar c count]

/-- The change with the count that is given, if there is one. -/
def Change.recounted (count : Option Nat) (c : Change) : Change :=
  match count with
  | some n => c.withCount n
  | none => c

/-- The change as it is recorded when it is typed: text is put in once at least. -/
def Change.asTyped : Change → Change
  | .insert variant count typed => .insert variant (max count 1) typed
  | .replace count typed => .replace (max count 1) typed
  | c => c

/-- Another count leaves the form of a change. -/
theorem Change.WellFormed.recounted {c : Change} (h : c.WellFormed) (count : Option Nat) :
    (c.recounted count).WellFormed := by
  cases count with
  | none => exact h
  | some n => exact h.withCount n

/-- Another count does not make a change one of a selection. -/
theorem Change.isVisual_recounted (count : Option Nat) (c : Change) :
    (c.recounted count).isVisual = c.isVisual := by
  cases count with
  | none => rfl
  | some n => cases c <;> rfl

namespace Editor

/-- Does one action after the other. -/
def dispatchAll (e : Editor) (as : List Action) : Editor :=
  as.foldl (fun e a => (e.dispatch a).1) e

/-- Is there nothing to put? -/
def putsNothing (e : Editor) : Change → Bool
  | .put _ _ register =>
    match e.registers.get register with
    | .ok content => content.isEmpty
    | .error _ => false
  | _ => false

/-- Unless a change is being repeated, what is recorded stays. -/
theorem lastChange_record {e : Editor} (h : e.replaying = false) (c : Change) :
    (e.record c).lastChange = some c := by
  rw [record, if_neg (by rw [h]; exact nofun)]

/-- The actions after the first go on from where it ends. -/
theorem dispatchAll_cons (e : Editor) (a : Action) (as : List Action) :
    e.dispatchAll (a :: as) = (e.dispatch a).1.dispatchAll as := rfl

/-- Actions after actions. -/
theorem dispatchAll_append (e : Editor) (as bs : List Action) :
    e.dispatchAll (as ++ bs) = (e.dispatchAll as).dispatchAll bs :=
  List.foldl_append

end Editor

namespace EditorM

open Document (Entered Leaves)
open Editor

variable {e : Editor}

/-! ## Typing -/

/-- Typing has begun. -/
structure Started (origin : SessionOrigin) (count : Nat) (e e' : Editor) : Prop where
  mode : e'.mode.isTyping = true
  session : e'.session = some (.start origin count)
  replaying : e'.replaying = e.replaying

/-- A session has started once insert mode is entered. -/
theorem startInsert_started (hmode : e.mode = .normal) (variant : InsertVariant) (count : Nat)
    (origin : SessionOrigin) {failed : Editor → Prop} :
    Ensures (startInsert variant count origin) e (fun _ e' => Started origin count e e')
      failed :=
  ensures_startInsert variant count origin hmode fun modes hmodes => by
    refine ⟨?_, rfl, rfl⟩
    show modes.mode.isTyping = true
    rw [hmodes]
    rfl

/-- A session has started once replace mode is entered. -/
theorem enterReplace_started (hmode : e.mode = .normal) (count : Nat) {failed : Editor → Prop} :
    Ensures (enterReplace count) e (fun _ e' => Started .replace count e e') failed := by
  have hnext : e.mode.next .enterReplace = .ok .replace := by rw [hmode]; rfl
  exact ensures_bind.2 (ensures_transition hnext (ensures_modify.2 ⟨rfl, rfl, rfl⟩))

/-- A change of a target starts a session, or fails. -/
theorem operate_change_started (hmode : e.mode = .normal) (target : OperatorTarget)
    (count : Option Nat) (register : Option Char) :
    Ensures (operate .change target count register) e
      (fun _ e' => Started (.change (.operate .change target count register [])) 1 e e')
      fun _ => True := by
  refine ensures_bind.2 (ensures_resolveTarget .change target count (fun range lastFind => ?_)
    fun _ => trivial)
  have hstarted {x : Editor} (hx : x.mode = .normal) (hreplaying : x.replaying = e.replaying) :
      Ensures (startInsert .change 1 (.change (.operate .change target count register []))) x
        (fun _ e' => Started (.change (.operate .change target count register [])) 1 e
          (e'.mapDocument fun d => d.endChange.1)) fun _ => True :=
    (startInsert_started hx .change 1 _).mono
      (fun _ _ h => ⟨h.mode, h.session, h.replaying.trans hreplaying⟩) fun _ h => h
  refine ensures_asOneChange.2 (ensures_bind.2 (ensures_deleteRange range register true ?_
    (fun registers => ?_) trivial))
  · exact hstarted hmode rfl
  · exact hstarted hmode rfl

/-- Keys that are given as actions are typed one after the other. -/
theorem dispatchAll_edits (hmode : e.mode.isTyping = true) {typed : List Edit}
    (htyped : Edit.Plain typed) : e.dispatchAll (typed.map .edit) = typed.foldl typeEdit e := by
  induction typed generalizing e with
  | nil => rfl
  | cons k typed ih =>
    -- no key that is remembered moves the cursor, so the mode and the session last
    have hperform : perform (.edit k) e = .ok () (e.typeEdit k) :=
      Ensures.eq_ok (ensures_type hmode k ⟨rfl, rfl⟩)
    have hmode' : (e.typeEdit k).mode.isTyping = true := by
      obtain ⟨d, g, hafter⟩ := afterKeys_typeEdit e (htyped k (List.mem_cons_self ..))
      rw [hafter]
      exact hmode
    rw [List.map_cons, dispatchAll_cons, (dispatch_of_ok hperform).1,
      ih hmode' fun k' hk' => htyped k' (List.mem_cons_of_mem _ hk')]
    rfl

/-- While text is typed the escape key ends the session. -/
theorem escape_of_typing (hmode : e.mode.isTyping = true) :
    perform .escape e = finishSession e := by
  show escape e = finishSession e
  rw [escape, get_bind_apply]
  cases hm : e.mode with
  | insert variant => rfl
  | replace => rfl
  | _ => rw [hm] at hmode; cases hmode

/-- The session that began with nothing typed ends with the keys that were typed in it. -/
theorem Started.session_afterKeys {origin : SessionOrigin} {count : Nat} {e' e'' : Editor}
    (h : Started origin count e e') {typed : List Edit} (hkeys : AfterKeys typed e' e'') :
    ∃ overwritten, e''.session = some { Session.start origin count with typed, overwritten } := by
  obtain ⟨d, g, rfl⟩ := hkeys
  refine ⟨g (.start origin count), ?_⟩
  show e'.session.map _ = _
  rw [h.session]
  rfl

/-- Keys and an escape, as actions, do what a repetition does with the keys. -/
theorem Started.finishWith {origin : SessionOrigin} {count : Nat} {e' : Editor}
    (h : Started origin count e e') (hreplaying : e.replaying = false) {typed : List Edit}
    (htyped : Edit.Plain typed) :
    EditorM.finishWith typed e' = .ok () (e'.dispatchAll (typed.map .edit ++ [.escape])) ∧
      (e'.dispatchAll (typed.map .edit ++ [.escape])).lastChange =
        some { Session.start origin count with typed }.toChange := by
  -- the keys leave the session with its origin and its count, and add themselves to it
  have hkeys := afterKeys_foldl_typeEdit e' htyped
  obtain ⟨overwritten, hsession⟩ := h.session_afterKeys hkeys
  have hmode : (typed.foldl typeEdit e').mode.isTyping = true := by
    obtain ⟨d, g, hafter⟩ := hkeys
    rw [hafter]
    exact h.mode
  -- the end of the session records it, since the recording is not suspended
  have hfinish : Ensures finishSession (typed.foldl typeEdit e')
      (fun _ x => x.lastChange = some { Session.start origin count with typed }.toChange)
      Never := by
    refine ensures_finishSession hsession htyped hmode (lastChange_record ?_ _)
    obtain ⟨d, g, hafter⟩ := hkeys
    obtain ⟨d', g', hrepeated⟩ := afterKeys_repeat_again (typed.foldl typeEdit e')
      (s := { Session.start origin count with typed, overwritten }) htyped (max count 1 - 1)
    show (repeated _ _).replaying = false
    rw [show repeated { Session.start origin count with typed, overwritten }
      (typed.foldl typeEdit e') = _ from hrepeated, hafter]
    exact h.replaying.trans hreplaying
  obtain ⟨_, x, hx, hlast⟩ := hfinish.exists_ok
  have hescape : perform .escape (typed.foldl typeEdit e') = .ok () x :=
    (escape_of_typing hmode).trans hx
  -- what the escape key comes to is what the repeated change comes to
  have hall : e'.dispatchAll (typed.map .edit ++ [.escape]) = x := by
    rw [dispatchAll_append, dispatchAll_edits h.mode htyped, dispatchAll_cons,
      (dispatch_of_ok hescape).1]
    rfl
  rw [hall]
  exact ⟨hx, hlast⟩

/-! ## Typing a change again -/

/-- What a change that is typed records. -/
def recordOf (e : Editor) (c : Change) : Option Change :=
  if e.putsNothing c then e.lastChange else some c.asTyped

/-- Outside a repetition a change is recorded as it is. -/
theorem record_lastChange {x : Editor} (hreplaying : x.replaying = false) (c : Change)
    {failed : Editor → Prop} :
    Ensures (record c) x (fun _ y => y.lastChange = some c) failed :=
  ensures_record c (lastChange_record hreplaying c)

/-- A change in one stroke. -/
theorem replay_of_stroke {c : Change} {first : Action} (hreplay : replay c e = perform first e)
    (hlast : Ensures (perform first) e (fun _ x => x.lastChange = recordOf e c) fun _ => True)
    (hfirst : (e.dispatch first).2.notice = none) :
    replay c e = .ok () (e.dispatchAll [first]) ∧
      (e.dispatchAll [first]).lastChange = recordOf e c := by
  have hperform := perform_of_notice hfirst
  unfold Ensures at hlast
  rw [hperform] at hlast
  exact ⟨hreplay.trans hperform, hlast⟩

/-- A change that text is typed for. -/
theorem replay_of_session {origin : SessionOrigin} {count : Nat} (first : Action)
    (hreplaying : e.replaying = false)
    (hstarted : Ensures (perform first) e (fun _ x => Started origin count e x) fun _ => True)
    (hfirst : (e.dispatch first).2.notice = none) {typed : List Edit} (htyped : Edit.Plain typed) :
    (perform first >>= fun _ => finishWith typed) e =
        .ok () (e.dispatchAll (first :: (typed.map .edit ++ [.escape]))) ∧
      (e.dispatchAll (first :: (typed.map .edit ++ [.escape]))).lastChange =
        some { Session.start origin count with typed }.toChange := by
  have hperform := perform_of_notice hfirst
  unfold Ensures at hstarted
  rw [hperform] at hstarted
  obtain ⟨hfinish, hlast⟩ := hstarted.finishWith hreplaying htyped
  refine ⟨?_, hlast⟩
  show EStateM.bind (perform first) _ e = _
  rw [EStateM.bind, hperform]
  exact hfinish

/-- A put is recorded, unless it had nothing to put. -/
theorem put_lastChange (hreplaying : e.replaying = false) (placement : Placement) (count : Nat)
    (register : Option Char) :
    Ensures (put placement count register) e
      (fun _ x => x.lastChange = recordOf e (.put placement count register)) fun _ => True := by
  refine ensures_bind.2 (ensures_bind.2 (ensures_get.2 (ensures_bind.2 (ensures_ofExcept.2 ?_))))
  cases hget : e.registers.get register with
  | error reason => trivial
  | ok content =>
    have hputs : e.putsNothing (.put placement count register) = content.isEmpty := by
      rw [putsNothing, hget]
    rw [recordOf, hputs]
    by_cases hc : content.isEmpty = true
    · -- with nothing to put, the unnamed register is passed over and any other is refused
      simp only [if_pos hc]
      split
      · split
        · exact rfl
        · trivial
      · exact rfl
    · simp only [if_neg hc]
      refine ensures_bind.2 (ensures_modifyDocument? _ (fun document _ => ?_) trivial)
      refine record_lastChange ?_ _
      exact hreplaying

/-- A change that is made as it was recorded does what its actions do, if the first of them
succeeds. -/
theorem replay_eq_retype (hmode : e.mode = .normal) (hreplaying : e.replaying = false) {c : Change}
    (hform : c.WellFormed) {first : Action} {rest : List Action}
    (hretype : c.retype = first :: rest) (hfirst : (e.dispatch first).2.notice = none) :
    replay c e = .ok () (e.dispatchAll c.retype) ∧
      (e.dispatchAll c.retype).lastChange = recordOf e c := by
  cases c with
  | operate op target count register typed =>
    obtain ⟨hop, hdelete, htyped⟩ := hform
    obtain ⟨rfl, -⟩ := List.cons_eq_cons.1 hretype
    cases op with
    | yank => exact absurd rfl hop
    | delete =>
      rw [hdelete rfl] at hretype ⊢
      refine replay_of_stroke ?_ ?_ hfirst
      · -- nothing is typed after a deletion
        show EStateM.bind (operate .delete target count register) _ e =
          operate .delete target count register e
        unfold EStateM.bind
        cases operate .delete target count register e with
        | ok u x => rfl
        | error reason x => rfl
      · refine ensures_bind.2 (ensures_resolveTarget .delete target count (fun range lastFind => ?_)
          fun _ => trivial)
        refine ensures_bind.2 (ensures_deleteRange range register false ?_ (fun registers => ?_)
          trivial)
        · refine record_lastChange ?_ _
          exact hreplaying
        · refine record_lastChange ?_ _
          exact hreplaying
    | change =>
      have hstarted := operate_change_started hmode target count register
      exact replay_of_session (.operate .change target count register) hreplaying hstarted hfirst
        htyped
  | visual edit shape register typed => cases hretype
  | insert variant count typed =>
    obtain ⟨rfl, -⟩ := List.cons_eq_cons.1 hretype
    exact replay_of_session (.enterInsert variant count) hreplaying
      (startInsert_started hmode variant count _) hfirst hform
  | replace count typed =>
    obtain ⟨rfl, -⟩ := List.cons_eq_cons.1 hretype
    exact replay_of_session (.enterReplace count) hreplaying (enterReplace_started hmode count)
      hfirst hform
  | put placement count register =>
    obtain ⟨rfl, -⟩ := List.cons_eq_cons.1 hretype
    exact replay_of_stroke rfl (put_lastChange hreplaying placement count register) hfirst
  | join count spaced =>
    obtain ⟨rfl, -⟩ := List.cons_eq_cons.1 hretype
    refine replay_of_stroke rfl ?_ hfirst
    refine ensures_bind.2 (ensures_modifyDocument? _ (fun document _ => ?_) trivial)
    refine record_lastChange ?_ _
    exact hreplaying
  | replaceChar c count =>
    obtain ⟨rfl, -⟩ := List.cons_eq_cons.1 hretype
    refine replay_of_stroke rfl (ensures_bind.2 (ensures_get.2 ?_)) hfirst
    rw [if_neg (by rw [hmode]; exact nofun)]
    refine ensures_bind.2 (ensures_modifyDocument? _ (fun document _ => ?_) trivial)
    refine record_lastChange ?_ _
    exact hreplaying

/-- A change that is repeated leaves what it leaves on its own, and the record with the count that
was given. -/
theorem repeatLast_eq (hgroup : e.document.group = none) {c : Change}
    (hlast : e.lastChange = some c) (hform : c.WellFormed) (hvisual : c.isVisual = false)
    (count : Option Nat) {x : Editor} (hreplay : replay (c.recounted count) e = .ok () x)
    (hx : x.replaying = false) :
    repeatLast count e = .ok () { x with lastChange := some (c.recounted count) } := by
  have hentered : Related Entered e ({ e with replaying := true }.mapDocument .beginChange) :=
    ⟨⟨rfl, hgroup⟩, rfl⟩
  have halike := replay_alike hentered (hform.recounted count).plain
    ((Change.isVisual_recounted count c).trans hvisual)
  rw [hreplay] at halike
  generalize hinner : replay (c.recounted count) _ = r at halike
  cases halike with
  | ok hleaves =>
    rename_i y
    -- ending the change around it leaves the document that the change makes on its own
    have hended : unrecorded (asOneChange (replay (c.recounted count))) e =
        .ok () { y with document := y.document.endChange.1, replaying := false } := by
      unfold unrecorded asOneChange
      rw [hinner]
      rfl
    have hy : ({ y with document := y.document.endChange.1, replaying := false } : Editor) =
        { x with lastChange := y.lastChange } := by
      rw [hleaves.document, hleaves.rest, ← hx]
    rw [hy] at hended
    have hrecorded : Editor.record (c.recounted count) { x with lastChange := y.lastChange } =
        { x with lastChange := some (c.recounted count) } := by
      have hfree : ¬({ x with lastChange := y.lastChange } : Editor).replaying = true := by
        rw [hx]
        exact nofun
      rw [Editor.record, if_neg hfree]
    have hall : Ensures (do
          unrecorded (asOneChange (replay (c.recounted count)))
          record (c.recounted count)) e
        (fun u z => u = () ∧ z = { x with lastChange := some (c.recounted count) }) Never := by
      refine ensures_bind.2 ?_
      unfold Ensures
      rw [hended]
      exact ⟨rfl, hrecorded⟩
    refine Ensures.eq_ok (ensures_bind.2 (ensures_get.2 ?_))
    rw [hlast]
    exact hall

end EditorM

namespace Editor

/-- An editor that comes about: it began with a buffer, was given actions and commands on ranges,
and had its open parts set to anything between them. -/
inductive Made : Editor → Prop
  | ofBuffer (b : Buffer) (settings : Settings) : Made (.ofBuffer b settings)
  | dispatch {e : Editor} (h : Made e) (a : Action) : Made (e.dispatch a).1
  | execute {e : Editor} (h : Made e) (command : ExCommand) : Made (e.execute command).1
  | set {e : Editor} (h : Made e) (document : Document) (registers : Registers) (modes : Modes)
    (selection : Option Selection) (commandLine : CommandLine) (settings : Settings) :
    Made { e with document, registers, modes, selection, commandLine, settings }

/-- Whatever was done, the record has the right form, and nothing is being repeated. -/
theorem Made.wellFormed {e : Editor} (h : e.Made) : e.WellFormed false := by
  induction h with
  | ofBuffer b settings => exact ⟨nofun, nofun, rfl⟩
  | dispatch _ a ih =>
    exact (dispatch_cases (EditorM.perform_keeps a _ ih)).elim (·.2) (·.2)
  | execute _ command ih =>
    exact (EditorM.observe_cases (EditorM.runEx_keeps command _ ih)).elim (·.2) (·.2)
  | set _ document registers modes selection commandLine settings ih => exact ih.congr rfl

/-- What actions make of an editor that was made by actions was made by actions. -/
theorem Made.dispatchAll {e : Editor} (h : e.Made) (as : List Action) :
    (e.dispatchAll as).Made := by
  induction as generalizing e with
  | nil => exact h
  | cons a as ih => exact ih (h.dispatch a)

/-- A repetition succeeds when the first action of the change does, and leaves what the actions
leave; what is recorded is the change that was repeated. The actions record that change as it is
typed, unless there is nothing to put. -/
theorem Made.repeatLast_eq_retype {e : Editor} (h : e.Made) (hmode : e.mode = .normal)
    (hgroup : e.document.group = none) {c : Change} (hlast : e.lastChange = some c)
    (hvisual : c.isVisual = false) (count : Option Nat) {first : Action} {rest : List Action}
    (hretype : (c.recounted count).retype = first :: rest)
    (hfirst : (e.dispatch first).2.notice = none) :
    (e.dispatch (.repeatLast count)).2.notice = none ∧
      (e.dispatch (.repeatLast count)).1 =
        { e.dispatchAll (c.recounted count).retype with
          lastChange := some (c.recounted count) } ∧
      (e.dispatchAll (c.recounted count).retype).lastChange =
        if e.putsNothing (c.recounted count) then some c else some (c.recounted count).asTyped := by
  obtain ⟨hrecord, -, hreplaying⟩ := h.wellFormed
  have hform : (c.recounted count).WellFormed := Change.WellFormed.recounted (hrecord hlast) count
  obtain ⟨hreplay, hretyped⟩ :=
    EditorM.replay_eq_retype hmode hreplaying hform hretype hfirst
  -- a repetition keeps what holds of every editor, in particular that the recording is not suspended
  have hkept := EditorM.keeps_replay hform e h.wellFormed
  unfold EditorM.Ensures at hkept
  rw [hreplay] at hkept
  have hrepeat : EditorM.perform (.repeatLast count) e = _ :=
    EditorM.repeatLast_eq hgroup hlast (hrecord hlast) hvisual count hreplay
      hkept.replaying
  obtain ⟨hafter, hnotice⟩ := dispatch_of_ok hrepeat
  refine ⟨hnotice, hafter, ?_⟩
  rw [hretyped, EditorM.recordOf, hlast]

/-- A change of a word, repeated on the next line with a count. -/
theorem repeatLast_eq_retype_change :
    let c := Change.operate .change (.motion (.wordForward false)) (some 2) none [.insertChar 'x']
    let e := (ofBuffer (.ofText "ab\ncd ef g".toList) {}).dispatchAll
      [.operate .change (.motion (.wordForward false)) none none, .edit (.insertChar 'x'), .escape,
        .motion .down none]
    (e.dispatch (.repeatLast (some 2))).1.document.buffer.lines = ["x".toList, "x g".toList] ∧
      (e.dispatch (.repeatLast (some 2))).1 =
        { e.dispatchAll c.retype with lastChange := some c } := by
  intro c e
  have hmade : e.Made := (Made.ofBuffer _ _).dispatchAll _
  have hlast : e.lastChange =
      some (.operate .change (.motion (.wordForward false)) none none [.insertChar 'x']) := by
    decide +kernel
  obtain ⟨-, hrepeat, -⟩ := Made.repeatLast_eq_retype hmade (by decide +kernel) (by decide +kernel)
    hlast rfl (some 2) rfl (by decide +kernel)
  refine ⟨?_, hrepeat⟩
  decide +kernel

/-- The record need not be what the actions record: with nothing to put a repetition records its
count, and a count of zero that a repetition was given stays. -/
theorem repeatLast_lastChange_ne :
    let e := (ofBuffer (.ofText "a\n".toList) {}).dispatchAll
      [.operate .yank .lines none none, .put .after 1 none, .motion .fileEnd none,
        .enterVisual .block, .visualOperate .yank .selection none]
    let e₀ := (ofBuffer (.ofText []) {}).dispatchAll
      [.enterInsert .insert 1, .escape, .repeatLast (some 0)]
    (e.mode = .normal ∧ e.session = none ∧ e.document.group = none ∧
        e.lastChange = some (.put .after 1 none) ∧
        (e.dispatch (.put .after 3 none)).2.notice = none ∧
        (e.dispatch (.repeatLast (some 3))).1.lastChange ≠
          (e.dispatchAll (Change.put .after 3 none).retype).lastChange) ∧
      e₀.mode = .normal ∧ e₀.session = none ∧ e₀.document.group = none ∧
        e₀.lastChange = some (.insert .insert 0 []) ∧
        (e₀.dispatch (.enterInsert .insert 0)).2.notice = none ∧
        (e₀.dispatch (.repeatLast none)).1.lastChange ≠
          (e₀.dispatchAll (Change.insert .insert 0 []).retype).lastChange := by
  decide +kernel

end Editor

end ModalEditor
