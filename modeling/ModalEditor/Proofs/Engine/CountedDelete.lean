import ModalEditor.Proofs.Editor.Overwrite
import ModalEditor.Proofs.Engine.PutBack
import ModalEditor.Proofs.Text.Printable

/-!
# Deleting characters with a count

On a printable line, deleting `n` characters behind the cursor leaves the cursor where it is, or on
the last character that is left (`Snapshot.withoutBehind`). As long as there are more characters to
delete the cursor has not moved, so deleting some of them and then the others is the same as deleting
all at once (`Snapshot.HasBehind.withoutBehind_add`). The key `x` deletes one character and a numeral
in front of it that many (`Engine.run_delete`), and that is why a count is as good as a repetition
(`Engine.run_counted_delete`).
-/

namespace ModalEditor

open Grammar (Front Numeral Spells)

/-! ## Printable lines of a buffer -/

namespace Buffer

variable {b : Buffer} {p : Position} (hrow : p.row < b.lineCount) (hl : Printable (b.line p.row))
include hrow hl

/-- Steps to the right that may go behind the last character. -/
theorem right_of_printable {n : Nat} (hfits : p.col + n ≤ (b.line p.row).length) :
    b.right p n true = ⟨p.row, p.col + n⟩ := by
  have hline : b.line? p.row = some (b.line p.row) := getElem?_lines hrow
  have hsteps : rightOf (b.line p.row) (b.line p.row).length n p.col = p.col + n :=
    rightOf_of_printable hl hfits
  simp only [right, hline, restLimit, if_true, byteSize_of_printable hl, hsteps]

/-- The cursor rests on the last character if it would be behind it. -/
theorem rest_of_printable : b.rest p = ⟨p.row, min p.col ((b.line p.row).length - 1)⟩ := by
  rw [rest, clamp_row hrow]
  dsimp only
  rw [floorBoundary_of_printable hl, lastBoundary_of_printable hl]
  refine congrArg (Position.mk p.row) ?_
  omega

end Buffer

/-! ## Text and cursor -/

namespace Snapshot

/-- The line of the cursor without the `n` characters behind it. -/
def lineWithout (s : Snapshot) (n : Nat) : Text :=
  s.line.take s.cursor.col ++ s.line.drop (s.cursor.col + n)

/-- The state without the `n` characters behind the cursor, on a printable line. The cursor steps back
if there are no others. -/
def withoutBehind (s : Snapshot) (n : Nat) : Snapshot :=
  s.withLine (s.lineWithout n, min s.cursor.col ((s.lineWithout n).length - 1))

/-- The line of the cursor is printable, and `n` of its characters are behind the cursor. -/
structure HasBehind (s : Snapshot) (n : Nat) : Prop where
  printable : Printable s.line
  fits : s.cursor.col + n ≤ s.line.length

namespace HasBehind

variable {s : Snapshot} {m n : Nat}

/-- Fewer characters are behind the cursor if more are. -/
theorem mono (h : s.HasBehind n) (hle : m ≤ n) : s.HasBehind m :=
  ⟨h.printable, Nat.le_trans (Nat.add_le_add_left hle _) h.fits⟩

/-- Where there is a character there is a row. -/
theorem row_lt (h : s.HasBehind n) (hn : 1 ≤ n) : s.cursor.row < s.buffer.lineCount := by
  have hfits := h.fits
  refine Nat.lt_of_not_le fun hpast => ?_
  have hnone : s.line = [] := by
    rw [line, Buffer.line, Buffer.line?, List.getElem?_eq_none hpast, Option.getD_none]
  rw [hnone, List.length_nil] at hfits
  omega

/-- What is left of a printable line is printable. -/
theorem printable_lineWithout (h : s.HasBehind n) : Printable (s.lineWithout n) :=
  (h.printable.take _).append (h.printable.drop _)

/-- The cursor is inside the line, so as many characters are in front of it. -/
theorem length_take (h : s.HasBehind n) : (s.line.take s.cursor.col).length = s.cursor.col :=
  List.length_take_of_le (Nat.le_of_add_right_le h.fits)

/-- As many characters are missing as were taken. -/
theorem length_lineWithout (h : s.HasBehind n) :
    (s.lineWithout n).length = s.line.length - n := by
  have hfits := h.fits
  rw [lineWithout, List.length_append, h.length_take, List.length_drop]
  omega

/-- The line is written with what is left of it. -/
theorem line_withoutBehind (h : s.HasBehind n) (hrow : s.cursor.row < s.buffer.lineCount) :
    (s.withoutBehind n).line = s.lineWithout n :=
  Buffer.line_setLine hrow h.printable_lineWithout.isLine

/-- As long as there are more characters the cursor stays. -/
theorem cursor_withoutBehind (h : s.HasBehind (m + n)) (hn : 1 ≤ n) :
    (s.withoutBehind m).cursor = s.cursor := by
  have hlength := (h.mono (Nat.le_add_right m n)).length_lineWithout
  have hfits := h.fits
  exact congrArg (Position.mk s.cursor.row) (Nat.min_eq_left (by omega))

/-- To delete characters one part after the other is to delete them all. -/
theorem withoutBehind_add (h : s.HasBehind (m + n)) (hn : 1 ≤ n) :
    (s.withoutBehind m).HasBehind n ∧
      (s.withoutBehind m).withoutBehind n = s.withoutBehind (m + n) := by
  have hfirst : s.HasBehind m := h.mono (Nat.le_add_right m n)
  have hcursor := h.cursor_withoutBehind hn
  have hline := hfirst.line_withoutBehind (h.row_lt (Nat.le_add_left_of_le hn))
  have hboth : (s.withoutBehind m).lineWithout n = s.lineWithout (m + n) := by
    rw [lineWithout, hcursor, hline, lineWithout, List.take_left' h.length_take, ← List.drop_drop,
      List.drop_left' h.length_take, List.drop_drop, Nat.add_assoc]
    rfl
  refine ⟨⟨hline ▸ hfirst.printable_lineWithout, ?_⟩, ?_⟩
  · have hfits := h.fits
    rw [hcursor, hline, hfirst.length_lineWithout]
    omega
  · rw [withoutBehind, hboth, hcursor]
    exact withLine_withLine hfirst.printable_lineWithout.isLine h.printable_lineWithout.isLine

end HasBehind

end Snapshot

/-! ## The range and the cut -/

/-- The characters behind the cursor are between it and a later place on its line. -/
theorem Span.between_right (d : Document) (count : Option Nat) (lastFind : Option Find) (n : Nat) :
    Span.between d .right count lastFind ⟨d.cursor.row, d.cursor.col + n⟩ =
      .ok (.chars d.cursor ⟨d.cursor.row, d.cursor.col + n⟩) := by
  have horder : ¬ (⟨d.cursor.row, d.cursor.col + n⟩ : Position) < d.cursor := by
    rw [Position.lt_def]
    rintro (hrow | ⟨-, hcol⟩)
    · exact Nat.lt_irrefl _ hrow
    · exact Nat.not_lt.2 (Nat.le_add_right _ _) hcol
  have hfirst : min d.cursor ⟨d.cursor.row, d.cursor.col + n⟩ = d.cursor := if_neg horder
  have hlast : max d.cursor ⟨d.cursor.row, d.cursor.col + n⟩ =
      ⟨d.cursor.row, d.cursor.col + n⟩ := if_neg horder
  have hword : ¬ (Motion.right.isWordForward = true ∧
      d.cursor.row < (max d.cursor ⟨d.cursor.row, d.cursor.col + n⟩).row) :=
    fun hforward => Bool.false_ne_true hforward.1
  have hrange : Span.exclusive d.buffer d.cursor ⟨d.cursor.row, d.cursor.col + n⟩ =
      .chars d.cursor ⟨d.cursor.row, d.cursor.col + n⟩ :=
    if_neg fun hlater => Nat.lt_irrefl _ hlater.1
  rw [Span.between]
  refine (if_neg hword).trans ?_
  rw [hfirst, hlast, hrange]

namespace Document

variable {d : Document} {n : Nat} (h : d.snapshot.HasBehind n) (hn : 1 ≤ n)
include h hn

/-- A step to the right under an operator takes the characters behind the cursor. -/
theorem resolve_right {count : Option Nat} (hcount : max (count.getD 1) 1 = n)
    (lastFind : Option Find) :
    Span.resolve d .delete .right count lastFind =
      .ok (.chars d.cursor ⟨d.cursor.row, d.cursor.col + n⟩) := by
  have hright : d.buffer.right d.cursor n true = ⟨d.cursor.row, d.cursor.col + n⟩ :=
    Buffer.right_of_printable (h.row_lt hn) h.printable h.fits
  have hmoved : (⟨d.cursor.row, d.cursor.col + n⟩ : Position) ≠ d.cursor := fun heq => by
    have hcol : d.cursor.col + n = d.cursor.col := congrArg Position.col heq
    omega
  have hland : Motion.right.land d count lastFind true =
      .ok { place := ⟨d.cursor.row, d.cursor.col + n⟩ } := by
    simp only [Motion.land, hcount, hright, Motion.landIfMoved, if_neg hmoved]
  simp only [Span.resolve, hland, Span.between_right]

/-- What cutting the characters behind the cursor leaves. -/
theorem snapshot_cut_behind :
    (d.cut false (.chars d.cursor ⟨d.cursor.row, d.cursor.col + n⟩)).snapshot =
      d.snapshot.withoutBehind n := by
  have hrow : d.cursor.row < d.buffer.lineCount := h.row_lt hn
  have hprintable : Printable (d.buffer.line d.cursor.row) := h.printable
  have hfits : d.cursor.col + n ≤ (d.buffer.line d.cursor.row).length := h.fits
  have hcol : d.cursor.col ≤ d.cursor.col + n := Nat.le_add_right _ _
  have hbuffer : (d.beginChange.deleteRange d.cursor ⟨d.cursor.row, d.cursor.col + n⟩).1.buffer =
      (d.snapshot.withoutBehind n).buffer := by
    rw [deleteRange_buffer, beginChange_buffer]
    refine (Buffer.remove_row hrow (parts_of_printable hprintable (hcol.trans hfits))
      (parts_of_printable hprintable hfits) hcol).trans ?_
    rw [takeBytes_of_printable hprintable, dropBytes_of_printable hprintable]
    rfl
  -- the line on which the cursor comes to rest
  have hleft : (d.snapshot.withoutBehind n).buffer.line d.cursor.row = d.snapshot.lineWithout n :=
    h.line_withoutBehind hrow
  have hrow' : d.cursor.row < (d.snapshot.withoutBehind n).buffer.lineCount :=
    (Buffer.lineCount_setLine _ _ h.printable_lineWithout.isLine).symm ▸ hrow
  have hrest : (d.snapshot.withoutBehind n).buffer.rest d.cursor =
      (d.snapshot.withoutBehind n).cursor := by
    rw [Buffer.rest_of_printable hrow' (hleft ▸ h.printable_lineWithout), hleft]
    rfl
  refine congrArg₂ Snapshot.mk ((endChange_buffer _).trans hbuffer) ((endChange_cursor _).trans ?_)
  show Buffer.rest (deleteRange _ _ _).1.buffer d.cursor = _
  rw [hbuffer]
  exact hrest

end Document

/-! ## The command -/

/-- Deleting to the right cuts the characters behind the cursor out. -/
theorem Editor.dispatch_delete_right {e : Editor} {n : Nat} {count : Option Nat}
    (h : e.document.snapshot.HasBehind n) (hn : 1 ≤ n) (hcount : max (count.getD 1) 1 = n) :
    let deleted := (e.dispatch (.operate .delete (.motion .right) count none)).1
    deleted.mode = e.mode ∧ deleted.document.snapshot = e.document.snapshot.withoutBehind n := by
  intro deleted
  let range : TextRange := .chars e.document.cursor ⟨e.document.cursor.row, e.document.cursor.col + n⟩
  have horder : e.document.cursor < ⟨e.document.cursor.row, e.document.cursor.col + n⟩ :=
    .inr ⟨rfl, Nat.lt_add_of_pos_right hn⟩
  -- the range holds a character at least, so the deletion goes through
  have hsome : range.isEmpty = false := by
    simp only [range, TextRange.isEmpty, horder, decide_true, Bool.not_true]
  obtain ⟨registers, -, -, hoperate⟩ :=
    EditorM.operateOn_delete e hsome (.operate .delete (.motion .right) count none [])
  -- the motion to the right reaches as far as the count says, since the line is long enough
  have hresolve : EditorM.resolveTarget .delete (.motion .right) count e = .ok range e := by
    refine EditorM.Ensures.eq_ok (EditorM.ensures_bind.2 ?_)
    refine EditorM.ensures_bind.2 (EditorM.ensures_get.2 (EditorM.ensures_ofExcept.2 ?_))
    rw [Document.resolve_right h hn hcount]
    exact ⟨rfl, rfl⟩
  have hperform : EditorM.perform (.operate .delete (.motion .right) count none) e =
      EditorM.operateOn .delete range none (.operate .delete (.motion .right) count none []) e := by
    show EStateM.bind (EditorM.resolveTarget .delete (.motion .right) count) _ e = _
    rw [EStateM.bind, hresolve]
  have hdeleted : deleted = _ := (dispatch_of_ok (hperform.trans hoperate)).1
  rw [hdeleted, record_mode, record_document]
  exact ⟨rfl, Document.snapshot_cut_behind h hn⟩

/-! ## The keys -/

/-- Behind a numeral, or alone, the key `x` deletes to the right. -/
theorem Pending.step_delete {bound : Nat} {p : Pending} (hp : p.awaiting = none)
    (hop : p.operator = none) (hregister : p.register = none) {x : Key} (hx : x.StandsFor 'x') :
    p.step bound false x = .done (.operate .delete (.motion .right) (p.totalCount bound) none) := by
  rw [step_of_standsFor hp hx, charKey_other (.inl (by decide)) (by decide), hop]
  show p.operate bound .delete (.motion .right) = _
  rw [operate, hregister]

namespace Engine

variable {engine : Engine} {n : Nat}

/-- An idle engine in normal mode with these characters, the next to be deleted behind the cursor. -/
structure Deleted (before after : Engine) (n : Nat) : Prop where
  mode : after.editor.mode = .normal
  idle : after.reader.pending = {}
  bound : after.reader.bound = before.reader.bound
  snapshot : after.editor.document.snapshot = before.editor.document.snapshot.withoutBehind n

/-- A numeral and the key `x` delete as many characters. -/
theorem run_delete (hmode : engine.editor.mode = .normal) (hempty : engine.reader.pending = {})
    {n : Numeral} (hn : 1 ≤ n.valueOrOne) (hbound : n.valueOrOne ≤ engine.reader.bound)
    (hbehind : engine.editor.document.snapshot.HasBehind n.valueOrOne) {digits : List Key}
    (hdigits : Spells digits n.digits) {x : Key} (hx : x.StandsFor 'x') :
    engine.Deleted (engine.run ((digits ++ [x]).map .key)).1 n.valueOrOne := by
  let p := Pending.front engine.reader.bound none n
  have hleads : Pending.Leads engine.reader.bound engine.reader.pending digits p :=
    hempty ▸ Pending.leads_front (.count hdigits)
  have hstep : p.step engine.reader.bound false x =
      .done (.operate .delete (.motion .right) (p.totalCount engine.reader.bound) none) :=
    Pending.step_delete rfl rfl rfl hx
  -- without a second numeral the count is the first, which the bound does not cut off
  have hcount : max ((p.totalCount engine.reader.bound).getD 1) 1 = n.valueOrOne := by
    let one : Numeral := ⟨[], nofun, nofun⟩
    have hone : one.valueOrOne = 1 := rfl
    have hproduct : p.totalCount engine.reader.bound = Numeral.product engine.reader.bound n one :=
      Pending.totalCount_kept rfl rfl
    rw [hproduct, Numeral.product, hone, Nat.mul_one, Nat.min_eq_right hbound]
    split
    · rename_i hnone
      rw [Numeral.valueOrOne, if_pos hnone.1]
      rfl
    · exact Nat.max_eq_left hn
  obtain ⟨hsame, hdeleted⟩ := Editor.dispatch_delete_right hbehind hn hcount
  rw [run_command hmode hleads hstep (by rintro ⟨⟩)]
  exact ⟨hsame.trans hmode, rfl, rfl, hdeleted⟩

/-- As many keys `x` delete one character each. -/
theorem run_deletes (hmode : engine.editor.mode = .normal) (hempty : engine.reader.pending = {})
    (hbound : 1 ≤ engine.reader.bound) {keys : List Key} (hne : keys ≠ [])
    (hkeys : ∀ x ∈ keys, x.StandsFor 'x')
    (hbehind : engine.editor.document.snapshot.HasBehind keys.length) :
    engine.Deleted (engine.run (keys.map .key)).1 keys.length := by
  -- by induction on the keys: the first deletes one character, and the others are behind the cursor
  -- then
  induction keys generalizing engine with
  | nil => exact absurd rfl hne
  | cons x keys ih =>
    let one : Numeral := ⟨[], nofun, nofun⟩
    rw [List.length_cons, Nat.add_comm] at hbehind
    have hfirst : engine.Deleted (engine.feed (.key x)).1 1 :=
      run_delete (n := one) hmode hempty (Nat.le_refl 1) hbound
        (hbehind.mono (Nat.le_add_right 1 _)) .nil (hkeys x List.mem_cons_self)
    -- the last character of the line may be gone, but then no key is left
    rcases Nat.eq_zero_or_pos keys.length with hnone | hsome
    · rw [List.length_eq_zero_iff.1 hnone]
      exact hfirst
    · obtain ⟨hrest, hboth⟩ := hbehind.withoutBehind_add hsome
      rw [← hfirst.snapshot] at hrest hboth
      have hlater := ih hfirst.mode hfirst.idle (hfirst.bound ▸ hbound)
        (List.length_pos_iff.1 hsome) (fun y hy => hkeys y (List.mem_cons_of_mem x hy)) hrest
      refine ⟨hlater.mode, hlater.idle, hlater.bound.trans hfirst.bound, ?_⟩
      rw [List.length_cons, Nat.add_comm, ← hboth]
      exact hlater.snapshot

/-- **A count of the key `x`.** In normal mode, where no key waits, with the cursor on a printable line
that has at least `n` characters from the cursor on: a numeral `n` within the bound for counts and the
key `x` leave the same lines and the same cursor as `n` keys `x`. Both take the characters out of the
line, and the cursor is where it was, or on the last character if it is behind that. -/
theorem run_counted_delete (hmode : engine.editor.mode = .normal)
    (hidle : engine.reader.isIdle = true) {n : Numeral} (hn : 1 ≤ n.valueOrOne)
    (hbound : n.valueOrOne ≤ engine.reader.bound)
    (hline : Printable (engine.editor.document.line engine.editor.document.cursor.row))
    (hfits : engine.editor.document.cursor.col + n.valueOrOne ≤
      (engine.editor.document.line engine.editor.document.cursor.row).length)
    {digits : List Key} (hdigits : Spells digits n.digits) {x : Key} (hx : x.StandsFor 'x')
    {keys : List Key} (hkeys : Spells keys (List.replicate n.valueOrOne 'x')) :
    let b := engine.editor.document.buffer
    let p := engine.editor.document.cursor
    let counted := (engine.run ((digits ++ [x]).map .key)).1.editor.document
    let repeated := (engine.run (keys.map .key)).1.editor.document
    (counted.buffer.lines = repeated.buffer.lines ∧ counted.cursor = repeated.cursor) ∧
      repeated.buffer.lines = b.lines.set p.row
        ((b.line p.row).take p.col ++ (b.line p.row).drop (p.col + n.valueOrOne)) ∧
      repeated.cursor = ⟨p.row, min p.col ((b.line p.row).length - n.valueOrOne - 1)⟩ := by
  intro b p counted repeated
  have hempty : engine.reader.pending = {} := decide_eq_true_iff.1 hidle
  have hbehind : engine.editor.document.snapshot.HasBehind n.valueOrOne := ⟨hline, hfits⟩
  have hlength : keys.length = n.valueOrOne := hkeys.length_eq.trans List.length_replicate
  have hall : ∀ y ∈ keys, y.StandsFor 'x' := by
    intro y hy
    obtain ⟨i, hi, rfl⟩ := List.getElem_of_mem hy
    have hi' : i < (List.replicate n.valueOrOne 'x').length := hkeys.length_eq ▸ hi
    have hread := List.Forall₂.get hkeys hi hi'
    rwa [List.get_eq_getElem, List.get_eq_getElem, List.getElem_replicate] at hread
  -- both ways delete as many characters, and so both leave the same line and cursor
  have hcounted := (run_delete hmode hempty hn hbound hbehind hdigits hx).snapshot
  have hrepeated := (run_deletes hmode hempty (hn.trans hbound)
    (List.length_pos_iff.1 (hlength ▸ hn)) hall (hlength ▸ hbehind)).snapshot
  rw [hlength] at hrepeated
  have hsame : counted.snapshot = repeated.snapshot := hcounted.trans hrepeated.symm
  refine ⟨⟨congrArg (·.buffer.lines) hsame, congrArg (·.cursor) hsame⟩, ?_, ?_⟩
  · have hlines := congrArg (·.buffer.lines) hrepeated
    exact hlines.trans (Buffer.lines_setLine _ _ hbehind.printable_lineWithout.isLine)
  · have hcursor := congrArg (·.cursor) hrepeated
    have hlast : (engine.editor.document.snapshot.lineWithout n.valueOrOne).length =
        (b.line p.row).length - n.valueOrOne := hbehind.length_lineWithout
    rw [← hlast]
    exact hcursor

/-- Three characters up to the end of a line, where the cursor steps back. -/
theorem run_counted_delete_tail :
    let b := Buffer.ofText ['a', 'b', ' ', 'c', 'd', '\n', 'e']
    let engine := ((ofBuffer b {}).run ([.ofChar 'l', .ofChar 'l'].map .key)).1
    let counted := (engine.run ([.ofChar '3', .ofChar 'x'].map .key)).1
    let repeated := (engine.run ([.ofChar 'x', .ofChar 'x', .ofChar 'x'].map .key)).1
    engine.editor.document.cursor = ⟨0, 2⟩ ∧
      (counted.editor.document.buffer.lines = repeated.editor.document.buffer.lines ∧
        counted.editor.document.cursor = repeated.editor.document.cursor) ∧
      repeated.editor.document.buffer.lines = [['a', 'b'], ['e']] ∧
      repeated.editor.document.cursor = ⟨0, 1⟩ := by
  intro b engine counted repeated
  let three : Numeral := ⟨['3'], List.all_eq_true.1 rfl, by decide⟩
  have hmode : engine.editor.mode = .normal := by decide +kernel
  have hidle : engine.reader.isIdle = true := by decide +kernel
  have hbound : three.valueOrOne ≤ engine.reader.bound := by decide +kernel
  have hline : Printable (engine.editor.document.line engine.editor.document.cursor.row) := by
    decide +kernel
  have hfits : engine.editor.document.cursor.col + three.valueOrOne ≤
      (engine.editor.document.line engine.editor.document.cursor.row).length := by
    decide +kernel
  have hthree : Spells [.ofChar '3'] three.digits := .cons ⟨rfl, rfl⟩ .nil
  have hx : (Key.ofChar 'x').StandsFor 'x' := ⟨rfl, rfl⟩
  have hthrice : Spells [.ofChar 'x', .ofChar 'x', .ofChar 'x']
      (List.replicate three.valueOrOne 'x') := .cons hx (.cons hx (.cons hx .nil))
  have hall := run_counted_delete hmode hidle (by decide) hbound hline hfits hthree hx hthrice
  have hcursor : engine.editor.document.cursor = ⟨0, 2⟩ := by decide +kernel
  have hbuffer : engine.editor.document.buffer = b := by decide +kernel
  simp only [hcursor, hbuffer] at hall
  obtain ⟨hsame, hlines, hrest⟩ := hall
  have hcounted : counted =
      (engine.run (([Key.ofChar '3'] ++ [Key.ofChar 'x']).map .key)).1 := rfl
  have hrepeated : repeated =
      (engine.run ([Key.ofChar 'x', Key.ofChar 'x', Key.ofChar 'x'].map .key)).1 := rfl
  rw [hcounted, hrepeated]
  refine ⟨hcursor, hsame, hlines.trans ?_, hrest.trans ?_⟩
  · decide +kernel
  · decide +kernel

end Engine

end ModalEditor
