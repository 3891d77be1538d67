import ModalEditor.Proofs.Editor.Session

/-!
# A change inside another one

A change that is made inside another one does what it does on its own. Two runs of the same command
are compared, one of them in an editor whose document is inside one more change: both give the same
value, and what the second leaves becomes what the first leaves when the change around it ends
(`replay_alike`).

While text is typed the inner document is at each moment the outer one with one more change begun
(`Document.Enclosed`).
-/

namespace ModalEditor

/-- Is the change an edit on a selection? -/
def Change.isVisual : Change → Bool
  | .visual .. => true
  | _ => false

namespace Document

/-- No change is being made; the other document is the same with a change begun. -/
def Entered (d d' : Document) : Prop :=
  d' = d.beginChange ∧ d.group = none

/-- A change is being made, with `n` others around it; the other document is the same inside one
more. -/
def Enclosed (n : Nat) (d d' : Document) : Prop :=
  d' = d.beginChange ∧ d.OpenAt n

/-- One more change around is what edits keep. -/
theorem editRelation_enclosed : EditRelation Enclosed :=
  editRelation_beginChange

/-- The document is what the other one becomes when the change around it ends. -/
def Leaves (d d' : Document) : Prop :=
  d'.endChange.1 = d

variable {d d' : Document}

/-- Documents of which one is the other with a change begun look the same. -/
theorem exists_group_of_beginChange (h : d' = d.beginChange) : ∃ group, d' = { d with group } := by
  rw [h, beginChange]
  split
  · exact ⟨_, rfl⟩
  · exact ⟨_, rfl⟩

/-- A unit does the same in both, and ends its change in one of them. -/
theorem Entered.unit (h : Entered d d') {f : Document → Document} (hf : IsUnit f) :
    Leaves (f d) (f d') := by
  rw [h.1]
  exact hf.begun h.2

/-- A change that begins in both is enclosed in one of them. -/
theorem Entered.begin (h : Entered d d') : Enclosed 0 d.beginChange d'.beginChange := by
  rw [h.1]
  exact ⟨rfl, openAt_beginChange_of_none h.2⟩

/-- The end of a session ends the inner change in both. -/
theorem Enclosed.finishInsert (h : Enclosed 0 d d') : Leaves d.finishInsert d'.finishInsert := by
  obtain ⟨rfl, hopen⟩ := h
  have hset (p : Position) : IsEdit (·.setCursor p .normal) := ⟨fun hR h => hR.setCursor h p _⟩
  simp only [Document.finishInsert, line, beginChange_buffer, beginChange_cursor, Leaves]
  rw [(hset _).beginChange hopen, ((hset _).openAt hopen).endChange_beginChange]

end Document

namespace EditorM

open Document (Entered Enclosed Leaves IsEdit IsUnit)
open Editor

variable {α β : Type}

/-- Both runs of a command give the same value and editors that belong together, or both fail. -/
inductive Alike (post : α → Editor → Editor → Prop) :
    EStateM.Result EditorError Editor α → EStateM.Result EditorError Editor α → Prop
  | ok {a : α} {e e' : Editor} : post a e e' → Alike post (.ok a e) (.ok a e')
  | error {reason reason' : EditorError} {e e' : Editor} :
    Alike post (.error reason e) (.error reason' e')

section Rules

variable {post : α → Editor → Editor → Prop} {e e' : Editor}

/-- Commands that come to the same go on to commands that come to the same. -/
theorem Alike.bind {mid : β → Editor → Editor → Prop} {act act' : EditorM β} {f f' : β → EditorM α}
    (h : Alike mid (act e) (act' e'))
    (hf : ∀ {b : β} {x y : Editor}, mid b x y → Alike post (f b x) (f' b y)) :
    Alike post ((act >>= f) e) ((act' >>= f') e') := by
  show Alike post (EStateM.bind act f e) (EStateM.bind act' f' e')
  unfold EStateM.bind
  generalize act e = r at h ⊢
  generalize act' e' = r' at h ⊢
  cases h with
  | ok hmid => exact hf hmid
  | error => exact .error

/-- Each of the two reads its own editor. -/
theorem alike_get_bind {f f' : Editor → EditorM α} (h : Alike post (f e e) (f' e' e')) :
    Alike post ((get >>= f) e) ((get >>= f') e') := h

/-- A result that both are given is an error for both, or none. -/
theorem alike_ofExcept_bind {result : Except EditorError β} {f f' : β → EditorM α}
    (h : ∀ b, Alike post (f b e) (f' b e')) :
    Alike post ((ofExcept result >>= f) e) ((ofExcept result >>= f') e') := by
  cases result with
  | ok b => exact h b
  | error reason => exact .error

/-- A result that both are given leaves them as they were. -/
theorem alike_ofExcept {result : Except EditorError α} (h : ∀ a, post a e e') :
    Alike post (ofExcept result e) (ofExcept result e') := by
  cases result with
  | ok a => exact .ok (h a)
  | error reason => exact .error

/-- Each of the two does its own step. -/
theorem alike_modify {post : PUnit → Editor → Editor → Prop} {f f' : Editor → Editor}
    (h : post ⟨⟩ (f e) (f' e')) :
    Alike post ((modify f : EditorM PUnit) e) ((modify f' : EditorM PUnit) e') :=
  .ok h

/-- A step of each, and what comes behind. -/
theorem alike_modify_bind {f f' : Editor → Editor} {act act' : PUnit → EditorM α}
    (h : Alike post (act ⟨⟩ (f e)) (act' ⟨⟩ (f' e'))) :
    Alike post (((modify f : EditorM PUnit) >>= act) e)
      (((modify f' : EditorM PUnit) >>= act') e') := h

/-- An action as one change in both, with what holds in between and at the end. -/
theorem alike_asOneChange {mid : α → Editor → Editor → Prop} {act act' : EditorM α}
    (h : Alike mid (act (e.mapDocument .beginChange)) (act' (e'.mapDocument .beginChange)))
    (hmid : ∀ {a : α} {x y : Editor}, mid a x y →
      post a (x.mapDocument fun d => d.endChange.1) (y.mapDocument fun d => d.endChange.1)) :
    Alike post (asOneChange act e) (asOneChange act' e') := by
  unfold asOneChange
  generalize act (e.mapDocument .beginChange) = r at h ⊢
  generalize act' (e'.mapDocument .beginChange) = r' at h ⊢
  cases h with
  | ok h => exact .ok (hmid h)
  | error => exact .error

end Rules

section Commands

variable {R : Document → Document → Prop} {e e' : Editor}

/-! ## Commands that leave the document alone -/

/-- What is recorded does not matter. -/
theorem related_record (h : Related R e e') (c : Change) :
    Related R (e.record c) (e'.record c) := by
  have hlast (x : Editor) : ∃ lastChange, x.record c = { x with lastChange } := by
    unfold Editor.record
    split
    · exact ⟨x.lastChange, rfl⟩
    · exact ⟨some c, rfl⟩
  obtain ⟨last, hx⟩ := hlast e
  obtain ⟨last', hy⟩ := hlast e'
  rw [hx, hy]
  exact ⟨h.document, by rw [h.rest]⟩

/-- A change is recorded in both or in neither, and the documents do not tell. -/
theorem alike_record (h : Related R e e') (c : Change) :
    Alike (fun _ => Related R) (record c e) (record c e') :=
  alike_modify (related_record h c)

/-- The mode is the same in both, so both go on or both fail. -/
theorem alike_transition (h : Related R e e') (event : ModeEvent) :
    Alike (fun _ => Related R) (transition event e) (transition event e') := by
  have hmodes : e'.modes = e.modes := by rw [h.rest]
  refine alike_get_bind ?_
  rw [hmodes]
  refine alike_ofExcept_bind fun modes => alike_modify ?_
  exact ⟨h.document, by rw [h.rest]⟩

/-- The last search is remembered in both. -/
theorem alike_noteFind (h : Related R e e') (m : Motion) :
    Alike (fun _ => Related R) (noteFind m e) (noteFind m e') := by
  unfold noteFind
  split
  · exact alike_modify ⟨h.document, by rw [h.rest]⟩
  · exact .ok h

/-- The range is found by what can be seen of the document. -/
theorem alike_resolveTarget (h : Related Entered e e') (op : Operator) (target : OperatorTarget)
    (count : Option Nat) :
    Alike (fun _ => Related Entered) (resolveTarget op target count e)
      (resolveTarget op target count e') := by
  cases target with
  | motion m =>
    refine Alike.bind (alike_noteFind h m) fun {_ x y} hxy => alike_get_bind ?_
    obtain ⟨group, hgroup⟩ := Document.exists_group_of_beginChange hxy.document.1
    have hfind : y.lastFind = x.lastFind := by rw [hxy.rest]
    rw [hgroup, hfind]
    exact alike_ofExcept fun _ => hxy
  | lines =>
    refine alike_get_bind ?_
    obtain ⟨group, hgroup⟩ := Document.exists_group_of_beginChange h.document.1
    rw [hgroup]
    exact .ok h
  | object o =>
    refine alike_get_bind ?_
    obtain ⟨group, hgroup⟩ := Document.exists_group_of_beginChange h.document.1
    rw [hgroup]
    exact alike_ofExcept fun _ => h

/-! ## Commands that make one unit -/

/-- What a register would keep of a range can be seen. -/
theorem capture_of_beginChange {d d' : Document} (h : d' = d.beginChange) (range : TextRange) :
    d'.capture range = d.capture range := by
  obtain ⟨group, hgroup⟩ := Document.exists_group_of_beginChange h
  rw [hgroup]
  rfl

/-- A yank reads the same text, and places the cursor in both. -/
theorem alike_yankRange (h : Related Entered e e') (range : TextRange) (register : Option Char) :
    Alike (fun _ => Related Leaves) (yankRange range register e) (yankRange range register e') := by
  obtain ⟨group, hgroup⟩ := Document.exists_group_of_beginChange h.document.1
  have hregisters : e'.registers = e.registers := by rw [h.rest]
  have horigin : e'.document.yankOrigin range = e.document.yankOrigin range := by rw [hgroup]; rfl
  unfold yankRange
  split
  · exact .ok ⟨h.document.unit Document.isUnit_id, h.rest⟩
  · refine alike_get_bind ?_
    rw [hregisters, capture_of_beginChange h.document.1, horigin]
    refine alike_ofExcept_bind fun registers => .ok ⟨?_, ?_⟩
    · exact h.document.unit (Document.isUnit_setCursor (e.document.yankOrigin range) .normal)
    · rw [h.rest]; rfl

/-- A deletion reads the same text and cuts the same range in both. -/
theorem alike_deleteRange {R' : Document → Document → Prop} (h : Related R e e')
    (hbegun : e'.document = e.document.beginChange) (range : TextRange) (register : Option Char)
    (change : Bool) (hkept : R' e.document e'.document)
    (hcut : R' (e.document.cut change range) (e'.document.cut change range)) :
    Alike (fun _ => Related R') (deleteRange range register change e)
      (deleteRange range register change e') := by
  have hregisters : e'.registers = e.registers := by rw [h.rest]
  unfold deleteRange
  split
  · exact .ok ⟨hkept, h.rest⟩
  · refine alike_get_bind ?_
    rw [hregisters, capture_of_beginChange hbegun]
    exact alike_ofExcept_bind fun registers => .ok ⟨hcut, by rw [h.rest]⟩

/-- Something that is done to the document if it is possible. -/
theorem alike_modifyDocument? (h : Related Entered e e') {act : Document → Option Document}
    (hact : (act e.document.beginChange).map (·.endChange.1) = act e.document) :
    Alike (fun _ => Related Leaves) (modifyDocument? act e) (modifyDocument? act e') := by
  refine alike_get_bind ?_
  rw [h.document.1, ← hact]
  cases act e.document.beginChange with
  | none => exact .error
  | some d => exact alike_modify ⟨rfl, by rw [h.rest]⟩

/-- The register is the same in both, so both put or neither does. -/
theorem alike_contentToPut (h : Related R e e') (register : Option Char) :
    Alike (fun _ => Related R) (contentToPut register e) (contentToPut register e') := by
  have hregisters : e'.registers = e.registers := by rw [h.rest]
  refine alike_get_bind ?_
  rw [hregisters]
  refine alike_ofExcept_bind fun content => ?_
  split
  · split
    · split
      · exact .ok h
      · exact .error
    · exact .ok h
  · exact .ok h

/-- A put is a unit. -/
theorem alike_put (h : Related Entered e e') (placement : Placement) (count : Nat)
    (register : Option Char) :
    Alike (fun _ => Related Leaves) (put placement count register e)
      (put placement count register e') := by
  refine Alike.bind (alike_contentToPut h register) fun {content x y} hxy => ?_
  cases content with
  | none => exact .ok ⟨hxy.document.unit Document.isUnit_id, hxy.rest⟩
  | some content =>
    have hput := Document.put_begun hxy.document.2 content placement count
    exact Alike.bind (alike_modifyDocument? hxy hput) fun hdone => alike_record hdone _

/-- A join is a unit, or fails in both. -/
theorem alike_join (h : Related Entered e e') (count : Nat) (spaced : Bool) :
    Alike (fun _ => Related Leaves) (join count spaced e) (join count spaced e') := by
  have hjoin := Document.joinLines_begun h.document.2 e.document.cursor.row count spaced
  refine Alike.bind (alike_modifyDocument? h ?_) fun hdone => alike_record hdone _
  rw [Document.beginChange_cursor]
  exact hjoin

/-- A replacement is a unit, or fails in both. -/
theorem alike_replaceChar (h : Related Entered e e') (c : Char) (count : Nat) :
    Alike (fun _ => Related Leaves) (replaceChar c count e) (replaceChar c count e') := by
  have hmode : e'.mode = e.mode := by rw [h.rest]; rfl
  have hreplace {x y : Editor} (hxy : Related Entered x y) :
      Alike (fun _ => Related Leaves)
        ((do modifyDocument? (·.replaceUnder c count); record (.replaceChar c count)) x)
        ((do modifyDocument? (·.replaceUnder c count); record (.replaceChar c count)) y) :=
    Alike.bind (alike_modifyDocument? hxy (Document.replaceUnder_begun hxy.document.2 c count))
      fun hdone => alike_record hdone _
  refine alike_get_bind ?_
  rw [hmode]
  split
  · exact Alike.bind (alike_transition h _) fun hxy => hreplace hxy
  · exact hreplace h

/-! ## Sessions -/

/-- A change that is begun in both documents encloses one. -/
def Begins (n : Nat) (d d' : Document) : Prop :=
  Enclosed n d.beginChange d'.beginChange

/-- Typing has begun in both editors, as a change inside another one and as that inside one more. -/
def Opened (n : Nat) (e e' : Editor) : Prop :=
  Related (Enclosed n) e e' ∧ ∃ s, e.session = some s ∧ s.typed = []

/-- A session begins in both, with a change that is enclosed in one of them. -/
theorem alike_startInsert {n : Nat} (h : Related (Begins n) e e') (variant : InsertVariant)
    (count : Nat) (origin : SessionOrigin) :
    Alike (fun _ => Opened n) (startInsert variant count origin e)
      (startInsert variant count origin e') := by
  refine Alike.bind (alike_transition h _) fun hxy => alike_modify ⟨⟨?_, ?_⟩, _, rfl, rfl⟩
  · exact Document.editRelation_enclosed.startInsert hxy.document variant
  · rw [hxy.rest]
    rfl

/-- So does replace mode. -/
theorem alike_enterReplace {n : Nat} (h : Related (Begins n) e e') (count : Nat) :
    Alike (fun _ => Opened n) (enterReplace count e) (enterReplace count e') := by
  refine Alike.bind (alike_transition h _) fun hxy => alike_modify ⟨⟨hxy.document, ?_⟩, _, rfl, rfl⟩
  rw [hxy.rest]
  rfl

/-- The change that a range is deleted in goes on as the session. -/
theorem alike_changeRange (h : Related Entered e e') (range : TextRange) (register : Option Char)
    (change : Change) :
    Alike (fun _ => Opened 0) (changeRange range register change e)
      (changeRange range register change e') := by
  have hR := Document.editRelation_enclosed
  have hbegun :
      Related (Enclosed 0) (e.mapDocument .beginChange) (e'.mapDocument .beginChange) := by
    refine ⟨h.document.begin, ?_⟩
    rw [h.rest]
    rfl
  -- with the change around the cut, one run is a change deep and the other two
  have hcut := (Document.isUnit_cut true range).isEdit.relates hR hbegun.document
  have hbegins {x y : Editor} (hxy : Related (Enclosed 0) x y) : Related (Begins 1) x y :=
    ⟨hR.begins hxy.document, hxy.rest⟩
  have hact : Alike (fun _ => Opened 1)
      ((do deleteRange range register true; startInsert .change 1 (.change change))
        (e.mapDocument .beginChange))
      ((do deleteRange range register true; startInsert .change 1 (.change change))
        (e'.mapDocument .beginChange)) :=
    Alike.bind (alike_deleteRange hbegun hbegun.document.1 range register true hbegun.document hcut)
      fun hxy => alike_startInsert (hbegins hxy) .change 1 _
  refine alike_asOneChange hact fun hxy => ?_
  obtain ⟨hrelated, s, hs, htyped⟩ := hxy
  refine ⟨⟨hR.ends hrelated.document, ?_⟩, s, hs, htyped⟩
  rw [hrelated.rest]
  rfl

/-- What was typed goes to a register in both. -/
theorem related_setLastInsert (h : Related R e e') (t : Text) :
    Related R { e with registers := e.registers.setLastInsert t }
      { e' with registers := e'.registers.setLastInsert t } :=
  ⟨h.document, by rw [h.rest]⟩

/-- The end of a session ends its change in both, which is the outermost in one of them. -/
theorem alike_finishSession (h : Related (Enclosed 0) e e')
    (hplain : ∀ s, e.session = some s → Edit.Plain s.typed) :
    Alike (fun _ => Related Leaves) (finishSession e) (finishSession e') := by
  have hR := Document.editRelation_enclosed
  have hsession : e'.session = e.session := by rw [h.rest]
  refine alike_get_bind ?_
  rw [hsession]
  refine alike_modify_bind (alike_modify_bind (alike_get_bind ?_))
  cases hs : e.session with
  | none =>
    refine Alike.bind (alike_transition (related_setLastInsert h _) _) fun hxy => alike_modify ?_
    exact ⟨h.document.finishInsert, by rw [hxy.rest]⟩
  | some s =>
    -- the text is put in again while both changes are open, and only then does one of them end
    have hagain := h.repeat_again hR (hplain s hs) (s.count - 1)
    have hclosed : Related (Enclosed 0)
        { Nat.repeat s.again (s.count - 1) e with session := none }
        { Nat.repeat s.again (s.count - 1) e' with session := none } :=
      ⟨hagain.document, by rw [hagain.rest]⟩
    refine Alike.bind (alike_transition (related_setLastInsert hclosed _) _) fun hxy =>
      alike_modify (related_record ?_ _)
    exact ⟨hagain.document.finishInsert, by rw [hxy.rest]⟩

/-- The typed keys of a repeated change are typed in both sessions, and both end. -/
theorem alike_finishWith (h : Opened 0 e e') {typed : List Edit} (htyped : Edit.Plain typed) :
    Alike (fun _ => Related Leaves) (finishWith typed e) (finishWith typed e') := by
  obtain ⟨hrelated, s, hs, hnil⟩ := h
  have hkeys := hrelated.foldl_typeEdit Document.editRelation_enclosed htyped
  obtain ⟨document, overwritten, hafter⟩ := afterKeys_foldl_typeEdit e htyped
  refine alike_modify_bind (alike_finishSession hkeys fun s' hs' => ?_)
  rw [hafter] at hs'
  obtain ⟨s₀, hs₀, rfl⟩ := Option.map_eq_some_iff.1 hs'
  -- nothing was typed before, so all that is put in again are these keys
  have hnil₀ : s₀.typed = [] := by
    rw [hs] at hs₀
    exact Option.some.inj hs₀ ▸ hnil
  show Edit.Plain (s₀.typed ++ typed)
  rw [hnil₀]
  exact htyped

/-! ## Operators -/

/-- The operators that make a unit make the same in both. -/
theorem alike_operate (h : Related Entered e e') {op : Operator} (hop : op ≠ .change)
    (target : OperatorTarget) (count : Option Nat) (register : Option Char) :
    Alike (fun _ => Related Leaves) (operate op target count register e)
      (operate op target count register e') := by
  refine Alike.bind (alike_resolveTarget h op target count) fun {range x y} hxy => ?_
  cases op with
  | yank => exact alike_yankRange hxy range register
  | delete =>
    have hkept := hxy.document.unit Document.isUnit_id
    have hcut := hxy.document.unit (Document.isUnit_cut false range)
    exact Alike.bind (alike_deleteRange hxy hxy.document.1 range register false hkept hcut)
      fun hdone => alike_record hdone _
  | change => exact absurd rfl hop

/-- A change begins a session in both. -/
theorem alike_operate_change (h : Related Entered e e') (target : OperatorTarget)
    (count : Option Nat) (register : Option Char) :
    Alike (fun _ => Opened 0) (operate .change target count register e)
      (operate .change target count register e') :=
  Alike.bind (alike_resolveTarget h .change target count) fun {range _ _} hxy =>
    alike_changeRange hxy range register _

/-! ## Changes that can be repeated -/

/-- A change does inside another one what it does on its own. -/
theorem replay_alike (h : Related Entered e e') {c : Change} (hplain : c.Plain)
    (hvisual : c.isVisual = false) :
    Alike (fun _ => Related Leaves) (replay c e) (replay c e') := by
  have hbegins : Related (Begins 0) e e' := ⟨h.document.begin, h.rest⟩
  cases c with
  | operate op target count register typed =>
    -- a change goes on to its typed keys, which the other operators do not have
    by_cases hop : op = .change
    · subst hop
      exact Alike.bind (alike_operate_change h target count register) fun hxy =>
        alike_finishWith hxy hplain
    · refine Alike.bind (alike_operate h hop target count register) fun hxy => ?_
      rw [if_neg hop]
      exact .ok hxy
  -- a change of a selection is left out, and treated on its own
  | visual edit shape register typed => cases hvisual
  | insert variant count typed =>
    exact Alike.bind (alike_startInsert hbegins variant count _) fun hxy =>
      alike_finishWith hxy hplain
  | replace count typed =>
    exact Alike.bind (alike_enterReplace hbegins count) fun hxy => alike_finishWith hxy hplain
  | put placement count register => exact alike_put h placement count register
  | join count spaced => exact alike_join h count spaced
  | replaceChar c count => exact alike_replaceChar h c count

end Commands

end EditorM

end ModalEditor
