import ModalEditor.Proofs.Command.Grammar
import ModalEditor.Proofs.Editor.PutOver
import ModalEditor.Proofs.Engine.Typed

/-!
# Deleted lines are put back

Lines are deleted as `dd` with a count deletes them, and the cursor then stands on the row that came
up in their place, or on the last row if none did. Putting in front of that row, or behind it, brings
the lines back (`Document.putOrKeep_cut_lines`). Nothing of this depends on how the lines were kept
meanwhile, other than that the unnamed register gives them back line by line.

In the second half the two commands are typed. Keys that complete nothing leave the editor alone
(`Engine.run_of_leads`), so what counts of a command is its last key (`Engine.run_command`).
-/

namespace ModalEditor

open Grammar (Front Numeral Spells)

/-! ## The document -/

namespace Buffer

/-- Behind the last row there is nothing. -/
theorem drop_lines_eq_nil {b : Buffer} {row : Nat} (hrow : b.lastRow < row) :
    b.lines.drop row = [] := by
  refine List.drop_eq_nil_of_le ?_
  rw [lastRow, lineCount] at hrow
  omega

/-- A range of rows in the text has a row. -/
theorem rows_ne_nil {b : Buffer} {first last : Nat} (hle : first ≤ last)
    (hlast : last ≤ b.lastRow) : b.rows first last ≠ [] := by
  have hlength : (b.rows first last).length = last + 1 - first := by
    rw [rows, List.length_drop, length_take_lines (lt_lineCount.2 hlast)]
  refine List.length_pos_iff.1 ?_
  rw [hlength]
  exact Nat.sub_pos_of_lt (Nat.lt_succ_of_le hle)

end Buffer

namespace Document

variable {d : Document} {first last : Nat}

/-- A register takes whole rows with all their text. -/
theorem capture_lines (hlast : last ≤ d.lastRow) :
    d.capture (.lines first last) = .ofLines (d.buffer.rows first last) := by
  rw [capture, Nat.min_eq_left hlast]

/-- Without some of its rows, a document holds the others, and the cursor is where the first of the
rows was or on the last row. -/
theorem cut_lines (hle : first ≤ last) (hlast : last ≤ d.lastRow)
    (hkept : ¬(first = 0 ∧ last = d.lastRow)) :
    let d' := d.cut false (.lines first last)
    d'.buffer.lines = d.buffer.lines.take first ++ d.buffer.lines.drop (last + 1) ∧
      d'.cursor.row = min first d'.lastRow := by
  intro d'
  -- the ends of the change touch neither text nor cursor, so the cut alone is looked at
  have hcut : d'.buffer.lines =
      (d.beginChange.cutRange false (.lines first last)).buffer.lines :=
    congrArg Buffer.lines (endChange_buffer _)
  have hsame : d.beginChange.lastRow = d.lastRow := congrArg Buffer.lastRow (beginChange_buffer d)
  -- if a row is left, no empty row takes the place of what was cut
  have hsome : d.buffer.lines.take first ++ d.buffer.lines.drop (last + 1) ≠ [] :=
    fun hnone => hkept ((Buffer.kept_eq_nil_iff hlast).1 hnone)
  refine ⟨?_, ?_⟩
  · rw [hcut, cutRange_lines_delete (hsame ▸ hle.trans hlast) hle, hsame, Nat.min_eq_left hlast,
      beginChange_buffer, if_neg hsome]
  · have hrow : d'.cursor.row =
        (d.beginChange.cutRange false (.lines first last)).cursor.row :=
      congrArg Position.row (endChange_cursor _)
    have hend : d'.lastRow = (d.beginChange.cutRange false (.lines first last)).lastRow :=
      congrArg Buffer.lastRow (endChange_buffer _)
    rw [hrow, hend]
    show min (min first _) _ = min first _
    exact min_eq_left (Nat.min_le_right _ _)

/-- Rows that were taken out come back when they are put in front of the cursor, or behind it if they
were the last ones. -/
theorem putOrKeep_cut_lines (hle : first ≤ last) {placement : Placement}
    (hplacement : placement = .before ∧ last < d.lastRow ∨
      placement = .after ∧ last = d.lastRow ∧ first ≠ 0) :
    ((d.cut false (.lines first last)).putOrKeep (d.capture (.lines first last)) placement
      1).buffer = d.buffer := by
  have hlast : last ≤ d.lastRow := by
    rcases hplacement with ⟨-, h⟩ | ⟨-, h, -⟩
    · exact Nat.le_of_lt h
    · exact Nat.le_of_eq h
  have hfirst : first < d.buffer.lineCount := Buffer.lt_lineCount.2 (hle.trans hlast)
  obtain ⟨hlines, hcursor⟩ := cut_lines hle hlast (by rintro ⟨rfl, rfl⟩; simp at hplacement)
  generalize d.cut false (.lines first last) = kept at *
  -- the rows as the register keeps them
  have hne : d.buffer.rows first last ≠ [] := Buffer.rows_ne_nil hle hlast
  have hrows : (RegisterContent.ofLines (d.buffer.rows first last)).rows =
      d.buffer.rows first last :=
    RegisterContent.rows_ofLines hne fun l hl =>
      d.buffer.isLine l (List.mem_of_mem_take (List.mem_of_mem_drop hl))
  -- the row where they are put is the one where they were
  have hlength : (d.buffer.lines.take first).length = first :=
    Buffer.length_take_lines (Nat.le_of_lt hfirst)
  have hcount : kept.lastRow + (last + 1 - first) = d.lastRow := by
    have hkept := congrArg List.length hlines
    rw [List.length_append, hlength, List.length_drop] at hkept
    have hpos := kept.buffer.lineCount_pos
    simp only [lastRow, Buffer.lastRow, Buffer.lineCount] at hlast hpos ⊢
    omega
  have hrow : (if placement = .after then kept.cursor.row + 1 else kept.cursor.row) = first := by
    rcases hplacement with ⟨rfl, hlt⟩ | ⟨rfl, hend, hne⟩
    · rw [if_neg (by decide), hcursor]
      omega
    · rw [if_pos rfl, hcursor]
      omega
  refine Buffer.ext ?_
  rw [capture_lines hlast, putOrKeep_lines rfl (RegisterContent.isEmpty_ofLines hne), hrow, hrows,
    hlines, List.take_left' hlength, List.drop_left' hlength]
  simp only [Nat.max_self, List.replicate_one, List.flatten_cons, List.flatten_nil,
    List.append_nil]
  exact (d.buffer.lines_eq_rows (Nat.le_succ_of_le hle)).symm

end Document

/-! ## The editor -/

namespace EditorM

/-- Deleting lines cuts them out, and the unnamed register keeps them. -/
theorem operate_delete_lines (e : Editor) (count : Option Nat) :
    let d := e.document
    let range : TextRange :=
      .lines d.cursor.row (min (d.cursor.row + max (count.getD 1) 1 - 1) d.lastRow)
    ∃ registers, registers.get none = .ok (d.capture range) ∧
      operate .delete .lines count none e =
        .ok () ({ e with registers, document := d.cut false range }.record
          (.operate .delete .lines count none [])) := by
  intro d range
  have hsome : range.isEmpty = false := rfl
  obtain ⟨registers, -, hget, hoperate⟩ :=
    operateOn_delete e hsome (.operate .delete .lines count none [])
  exact ⟨registers, hget, hoperate⟩

/-- What the unnamed register holds is put beside the cursor. -/
theorem put_of_get {e : Editor} {content : RegisterContent}
    (hget : e.registers.get none = .ok content) (hne : content.isEmpty = false)
    (placement : Placement) (count : Nat) :
    put placement count none e =
      .ok () ({ e with document := e.document.putOrKeep content placement count }.record
        (.put placement count none)) := by
  have hput : e.document.put content placement count =
      some (e.document.putOrKeep content placement count) := by
    simp only [Document.putOrKeep, Document.put, hne, Bool.false_eq_true, if_false,
      Option.getD_some]
  refine Ensures.eq_ok (ensures_bind.2 (ensures_contentToPut_of_get hget hne ?_))
  refine ensures_bind.2 (ensures_bind.2 (ensures_get.2 ?_))
  simp only [hput]
  exact ⟨trivial, rfl⟩

end EditorM

/-- Deleting lines and putting back what the unnamed register holds, as actions. -/
theorem Editor.dispatch_delete_put {e : Editor} (count : Option Nat) {placement : Placement}
    (hcursor : e.document.cursor.row ≤ e.document.lastRow) :
    let b := e.document.buffer
    let row := e.document.cursor.row
    let n := max (count.getD 1) 1
    let deleted := (e.dispatch (.operate .delete .lines count none)).1
    placement = .before ∧ row + n ≤ b.lastRow ∨
        placement = .after ∧ b.lastRow < row + n ∧ row ≠ 0 →
      deleted.mode = e.mode ∧
        deleted.document.buffer.lines = b.lines.take row ++ b.lines.drop (row + n) ∧
        (deleted.dispatch (.put placement 1 none)).1.document.buffer = b := by
  intro b row n deleted hplacement
  -- what is deleted ends at the last row at most, whatever the count
  let last := min (row + n - 1) b.lastRow
  have hle : row ≤ last := Nat.le_min.2 ⟨by omega, hcursor⟩
  have hlast : last ≤ b.lastRow := Nat.min_le_right _ _
  have hreach : placement = .before ∧ last < b.lastRow ∨
      placement = .after ∧ last = b.lastRow ∧ row ≠ 0 :=
    hplacement.imp (fun h => ⟨h.1, by omega⟩) fun h => ⟨h.1, by omega, h.2.2⟩
  -- behind the end of the text it is of no matter how far the count goes
  have hdrop : b.lines.drop (last + 1) = b.lines.drop (row + n) := by
    rcases Nat.lt_or_ge b.lastRow (row + n) with hbehind | hbefore
    · rw [Buffer.drop_lines_eq_nil hbehind, Buffer.drop_lines_eq_nil (by omega)]
    · exact congrArg (b.lines.drop ·) (by omega)
  obtain ⟨registers, hget, hoperate⟩ := EditorM.operate_delete_lines e count
  have hdeleted : deleted = _ :=
    (dispatch_of_ok (a := .operate .delete .lines count none) hoperate).1
  have hdocument : deleted.document = e.document.cut false (.lines row last) := by
    rw [hdeleted, record_document]
    rfl
  have hregister : deleted.registers.get none = .ok (e.document.capture (.lines row last)) := by
    rw [hdeleted, record_registers]
    exact hget
  have hcontent : (e.document.capture (.lines row last)).isEmpty = false := by
    rw [Document.capture_lines hlast]
    exact RegisterContent.isEmpty_ofLines (Buffer.rows_ne_nil hle hlast)
  -- the three parts: the mode stays, the rows are gone, and putting them restores the text
  refine ⟨by rw [hdeleted, record_mode]; rfl, ?_, ?_⟩
  · rw [hdocument, ← hdrop]
    refine (Document.cut_lines hle hlast ?_).1
    rintro ⟨hrow, hend⟩
    rcases hreach with ⟨-, h⟩ | ⟨-, -, h⟩
    -- the rows that are left are some, in front of what was deleted or behind it
    · exact absurd hend (Nat.ne_of_lt h)
    · exact h hrow
  · have hput := EditorM.put_of_get hregister hcontent placement 1
    rw [(dispatch_of_ok (a := .put placement 1 none) hput).1, record_document, hdocument]
    exact Document.putOrKeep_cut_lines hle hreach

/-! ## The keys -/

/-- A key that completes a command other than a replacement leaves the reader idle. -/
theorem KeyReader.readCommand_of_done {r : KeyReader} {visual : Bool} {k : Key} {a : Action}
    (hstep : r.pending.step r.bound visual k = .done a) (ha : a ≠ .beginReplaceSingle) :
    r.readCommand visual k = (r.reset, some a) := by
  rw [readCommand, hstep]
  cases a with
  | beginReplaceSingle => exact absurd rfl ha
  | _ => rfl

/-- The keys that put beside the cursor. -/
theorem Pending.step_put {bound : Nat} {k : Key} {c : Char} {placement : Placement}
    (hk : k.StandsFor c)
    (hc : c = 'P' ∧ placement = .before ∨ c = 'p' ∧ placement = .after) :
    ({} : Pending).step bound false k = .done (.put placement 1 none) := by
  rw [step_of_standsFor rfl hk]
  rcases hc with ⟨rfl, rfl⟩ | ⟨rfl, rfl⟩
  · rfl
  · rfl

namespace Engine

variable {engine : Engine}

/-- Keys that complete nothing leave the editor as it is. -/
theorem run_of_leads (hmode : engine.editor.mode = .normal) {keys : List Key} {q : Pending}
    (hleads : Pending.Leads engine.reader.bound engine.reader.pending keys q) :
    ∃ typed, (engine.run (keys.map .key)).1 =
      { engine with reader := { engine.reader with pending := q, typed } } := by
  induction keys generalizing engine with
  | nil =>
    cases hleads
    exact ⟨engine.reader.typed, rfl⟩
  | cons k keys ih =>
    obtain ⟨p, hstep, hleads⟩ := hleads
    let r : KeyReader :=
      { engine.reader with pending := p, typed := engine.reader.typed ++ k.display }
    have hread : engine.reader.read engine.editor.mode k = (r, none) := by
      rw [hmode, KeyReader.read, KeyReader.readCommand, hstep]
    have hfed : (engine.feed (.key k)).1 = { engine with reader := r } := by
      simp only [feed, handleKey, hread]
    obtain ⟨typed, hrun⟩ := @ih { engine with reader := r } hmode hleads
    refine ⟨typed, ?_⟩
    show ((engine.feed (.key k)).1.run (keys.map .key)).1 = _
    rw [hfed, hrun]

/-- The last key of a command does what the command says. -/
theorem run_command (hmode : engine.editor.mode = .normal) {keys : List Key} {q : Pending}
    (hleads : Pending.Leads engine.reader.bound engine.reader.pending keys q) {k : Key}
    {a : Action} (hstep : q.step engine.reader.bound false k = .done a)
    (ha : a ≠ .beginReplaceSingle) :
    (engine.run ((keys ++ [k]).map .key)).1 =
      { editor := (engine.editor.dispatch a).1, reader := engine.reader.reset } := by
  obtain ⟨typed, hrun⟩ := run_of_leads hmode hleads
  have hread : ({ engine.reader with pending := q, typed } : KeyReader).read .normal k =
      (engine.reader.reset, some a) :=
    KeyReader.readCommand_of_done hstep ha
  rw [List.map_append, run_append, hrun]
  rw [← hmode] at hread
  exact handleKey_of_read hread

/-- The keys `dd`, with counts, delete lines. -/
theorem run_delete_lines (hmode : engine.editor.mode = .normal)
    (hidle : engine.reader.isIdle = true) {front digits : List Key} {n₁ n₂ : Numeral}
    {d again : Key} (hfront : Front front none n₁) (hd : d.StandsFor 'd')
    (hdigits : Spells digits n₂.digits) (hagain : again.StandsFor 'd') :
    let deleted := (engine.run ((front ++ d :: digits ++ [again]).map .key)).1
    deleted.editor = (engine.editor.dispatch (.operate .delete .lines
        (Numeral.product engine.reader.bound n₁ n₂) none)).1 ∧
      deleted.reader.pending = {} := by
  intro deleted
  have hempty : engine.reader.pending = {} := decide_eq_true_iff.1 hidle
  have hop : d.StandsFor Operator.delete.key := hd
  -- everything in front of the second `d` leads on, and that completes the command
  have hleads := Pending.leads_operating engine.reader.bound hfront hop hdigits
  have hcount : (Pending.operating engine.reader.bound none .delete n₁ n₂).totalCount
      engine.reader.bound = Numeral.product engine.reader.bound n₁ n₂ :=
    Pending.totalCount_kept rfl rfl
  have hstep : (Pending.operating engine.reader.bound none .delete n₁ n₂).step
      engine.reader.bound false again = .done (.operate .delete .lines
        (Numeral.product engine.reader.bound n₁ n₂) none) := by
    rw [Pending.step_again rfl rfl hagain, Pending.operate, hcount]
    rfl
  have hrun : deleted = _ := run_command hmode (hempty ▸ hleads) hstep (by rintro ⟨⟩)
  rw [hrun]
  exact ⟨rfl, rfl⟩

/-- The keys for putting put what was deleted, as an action by itself. -/
theorem feed_put (hmode : engine.editor.mode = .normal) (hempty : engine.reader.pending = {})
    {k : Key} {c : Char} {placement : Placement} (hk : k.StandsFor c)
    (hc : c = 'P' ∧ placement = .before ∨ c = 'p' ∧ placement = .after) :
    (engine.feed (.key k)).1.editor = (engine.editor.dispatch (.put placement 1 none)).1 := by
  have hleads : Pending.Leads engine.reader.bound engine.reader.pending [] {} := hempty
  exact congrArg Engine.editor (run_command hmode hleads (Pending.step_put hk hc) (by rintro ⟨⟩))

/-- **Deleted lines are put back.** Where no key waits, lines are deleted by the keys `dd` with a
count. If they do not reach the last line, the key `P` brings them back, and if they reach it but do
not begin with the first line, the key `p` does. -/
theorem run_delete_put (hmode : engine.editor.mode = .normal) (hidle : engine.reader.isIdle = true)
    (hcursor : engine.editor.document.cursor.row ≤ engine.editor.document.lastRow)
    {front digits : List Key} {n₁ n₂ : Numeral} {d again : Key} (hfront : Front front none n₁)
    (hd : d.StandsFor 'd') (hdigits : Spells digits n₂.digits) (hagain : again.StandsFor 'd') :
    let b := engine.editor.document.buffer
    let row := engine.editor.document.cursor.row
    let n := max ((Numeral.product engine.reader.bound n₁ n₂).getD 1) 1
    let deleted := (engine.run ((front ++ d :: digits ++ [again]).map .key)).1
    let put (k : Key) := (deleted.feed (.key k)).1.editor.document.buffer
    (row + n ≤ b.lastRow →
      deleted.editor.document.buffer.lines = b.lines.take row ++ b.lines.drop (row + n) ∧
        ∀ k : Key, k.StandsFor 'P' → put k = b) ∧
    (b.lastRow < row + n → row ≠ 0 →
      deleted.editor.document.buffer.lines = b.lines.take row ∧
        ∀ k : Key, k.StandsFor 'p' → put k = b) := by
  intro b row n deleted put
  obtain ⟨heditor, hempty⟩ := run_delete_lines hmode hidle hfront hd hdigits hagain
  have hback {placement : Placement} (hplacement : placement = .before ∧ row + n ≤ b.lastRow ∨
      placement = .after ∧ b.lastRow < row + n ∧ row ≠ 0) :=
    Editor.dispatch_delete_put (Numeral.product engine.reader.bound n₁ n₂) hcursor hplacement
  refine ⟨fun hbefore => ?_, fun hbehind hrow => ?_⟩
  -- rows are left behind, so the cursor is on the first of them and the rows go in front
  · obtain ⟨hkept, hleft, hput⟩ := hback (.inl ⟨rfl, hbefore⟩)
    rw [← heditor] at hkept hleft hput
    refine ⟨hleft, fun k hk => ?_⟩
    have hfed := feed_put (hkept.trans hmode) hempty hk (.inl ⟨rfl, rfl⟩)
    exact (congrArg (·.document.buffer) hfed).trans hput
  -- no rows are left behind, so the cursor is on the last row and the rows go behind it
  · obtain ⟨hkept, hleft, hput⟩ := hback (.inr ⟨rfl, hbehind, hrow⟩)
    rw [← heditor] at hkept hleft hput
    rw [Buffer.drop_lines_eq_nil hbehind, List.append_nil] at hleft
    refine ⟨hleft, fun k hk => ?_⟩
    have hfed := feed_put (hkept.trans hmode) hempty hk (.inr ⟨rfl, rfl⟩)
    exact (congrArg (·.document.buffer) hfed).trans hput

/-- Two lines in the middle of four, one of them empty, and three lines at the end. -/
theorem run_delete_put_ends :
    let b := Buffer.ofText ['a', '\n', '\n', 'c', '\n', 'd']
    let engine := ((ofBuffer b {}).run [.key (.ofChar 'j')]).1
    let two := (engine.run ([.ofChar '2', .ofChar 'd', .ofChar 'd'].map .key)).1
    let all := (engine.run ([.ofChar '9', .ofChar 'd', .ofChar 'd'].map .key)).1
    two.editor.document.buffer.lines = [['a'], ['d']] ∧
      (two.feed (.key (.ofChar 'P'))).1.editor.document.buffer = b ∧
      all.editor.document.buffer.lines = [['a']] ∧
      (all.feed (.key (.ofChar 'p'))).1.editor.document.buffer = b := by
  intro b engine two all
  let one : Numeral := ⟨[], nofun, nofun⟩
  let second : Numeral := ⟨['2'], List.all_eq_true.1 rfl, by decide⟩
  let ninth : Numeral := ⟨['9'], List.all_eq_true.1 rfl, by decide⟩
  have hmode : engine.editor.mode = .normal := by decide +kernel
  have hidle : engine.reader.isIdle = true := by decide +kernel
  have hcursor : engine.editor.document.cursor.row ≤ engine.editor.document.lastRow := by
    decide +kernel
  have hd : (Key.ofChar 'd').StandsFor 'd' := ⟨rfl, rfl⟩
  have hnone : Spells [] one.digits := .nil
  have htwo : Front [.ofChar '2'] none second := .count (.cons ⟨rfl, rfl⟩ .nil)
  have hnine : Front [.ofChar '9'] none ninth := .count (.cons ⟨rfl, rfl⟩ .nil)
  have hinside := run_delete_put hmode hidle hcursor htwo hd hnone hd
  have hreach := run_delete_put hmode hidle hcursor hnine hd hnone hd
  have hrow : engine.editor.document.cursor.row = 1 := by decide +kernel
  have hbuffer : engine.editor.document.buffer = b := by decide +kernel
  have hbound : engine.reader.bound = 999999 := by decide +kernel
  simp only [hrow, hbuffer, hbound] at hinside hreach
  obtain ⟨hleft, hP⟩ := hinside.1 (by decide)
  obtain ⟨hfirst, hp⟩ := hreach.2 (by decide) (by decide)
  have htwo : two = (engine.run
      (([Key.ofChar '2'] ++ Key.ofChar 'd' :: [] ++ [Key.ofChar 'd']).map .key)).1 := rfl
  have hall : all = (engine.run
      (([Key.ofChar '9'] ++ Key.ofChar 'd' :: [] ++ [Key.ofChar 'd']).map .key)).1 := rfl
  rw [htwo, hall]
  refine ⟨hleft.trans ?_, hP _ ⟨rfl, rfl⟩, hfirst, hp _ ⟨rfl, rfl⟩⟩
  decide +kernel

end Engine

end ModalEditor
