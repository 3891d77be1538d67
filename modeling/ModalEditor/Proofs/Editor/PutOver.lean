import ModalEditor.Proofs.Editor.Delete

/-!
# Putting over whole lines

What is put over whole lines takes their place: they are taken out, and the lines of the register are
put in front of the row on which the first of them was, or behind the last row if that row is gone
(`Document.putRange_lines`). A buffer that loses all of its lines is left with an empty one, and
that line stays below what is put in.
-/

namespace ModalEditor

namespace RegisterContent

theorem isEmpty_ofLines {ls : List Text} (hne : ls ≠ []) : (ofLines ls).isEmpty = false := by
  rw [isEmpty, ofLines, flatMap_break hne]
  simp

end RegisterContent

namespace Buffer

/-- Nothing is left of a buffer without its rows from `first` to `last` if those are all. -/
theorem kept_eq_nil_iff {b : Buffer} {first last : Nat} (hlast : last ≤ b.lastRow) :
    b.lines.take first ++ b.lines.drop (last + 1) = [] ↔ first = 0 ∧ last = b.lastRow := by
  have hcount := b.lineCount_pos
  rw [List.append_eq_nil_iff, List.take_eq_nil_iff, List.drop_eq_nil_iff]
  rw [or_iff_left b.lines_ne_nil]
  refine and_congr_right fun _ => ?_
  rw [lastRow] at hlast ⊢
  show b.lineCount ≤ last + 1 ↔ _
  omega

end Buffer

namespace Document

variable {d : Document}

/-- Putting whole lines puts them in front of the row of the cursor, or behind it. -/
theorem putOrKeep_lines {content : RegisterContent} (hkind : content.kind = .lines)
    (hne : content.isEmpty = false) (placement : Placement) (n : Nat) :
    let row := if placement = .after then d.cursor.row + 1 else d.cursor.row
    (d.putOrKeep content placement n).buffer.lines =
      d.buffer.lines.take row ++ (List.replicate (max n 1) content.rows).flatten ++
        d.buffer.lines.drop row := by
  intro row
  have hput : (d.putOrKeep content placement n).buffer =
      d.buffer.insertLines row (List.replicate (max n 1) content.rows).flatten := by
    simp only [putOrKeep, put, hne, Bool.false_eq_true, if_false, Option.getD_some,
      endChange_buffer, hkind, putLines, setCursor, insertLines_buffer, beginChange_buffer,
      beginChange_cursor]
    rfl
  rw [hput]
  refine Buffer.lines_insertLines fun l hl => ?_
  obtain ⟨rows, hrows, hl⟩ := List.mem_flatten.1 hl
  exact content.isLine_of_mem_rows (List.eq_of_mem_replicate hrows ▸ hl)

/-- What is left without the rows from `first` to `last`, in front of and from the row on which the
first of them was. -/
theorem deleteLines_parts {first last : Nat} (hle : first ≤ last) (hlast : last ≤ d.lastRow) :
    let kept := (d.deleteLines first last).1.buffer
    first ≤ kept.lineCount ∧ kept.lines.take first = d.buffer.lines.take first ∧
      kept.lines.drop first =
        if first = 0 ∧ last = d.lastRow then [[]] else d.buffer.lines.drop (last + 1) := by
  rw [lastRow] at hlast ⊢
  have hfirst : first ≤ d.buffer.lastRow := Nat.le_trans hle hlast
  have hlength : (d.buffer.lines.take first).length = first :=
    Buffer.length_take_lines (Nat.le_of_lt (Buffer.lt_lineCount.2 hfirst))
  have hkept : (d.deleteLines first last).1.buffer.lines =
      if first = 0 ∧ last = d.buffer.lastRow then [[]]
      else d.buffer.lines.take first ++ d.buffer.lines.drop (last + 1) := by
    rw [deleteLines_buffer, Buffer.lines_removeLines hfirst hle, Nat.min_eq_left hlast]
    exact if_congr (Buffer.kept_eq_nil_iff hlast) rfl rfl
  intro kept
  rw [Buffer.lineCount, hkept]
  split
  · rename_i hall
    rw [hall.1]
    exact ⟨Nat.zero_le _, rfl, rfl⟩
  · rw [List.length_append, hlength, List.take_left' hlength, List.drop_left' hlength]
    exact ⟨Nat.le_add_right _ _, rfl, rfl⟩

/-- What is put over rows takes their place; below it is an empty line if those were all rows. -/
theorem putRange_lines {content : RegisterContent} (hne : content.isEmpty = false) (n : Nat)
    {first last : Nat} (hle : first ≤ last) (hlast : last ≤ d.lastRow) :
    (d.putRange content n (.lines first last)).buffer.lines =
      d.buffer.lines.take first ++ (List.replicate (max n 1) content.rows).flatten ++
        if first = 0 ∧ last = d.lastRow then [[]] else d.buffer.lines.drop (last + 1) := by
  obtain ⟨hcount, htake, hdrop⟩ := deleteLines_parts hle hlast
  -- the content as whole lines
  have hwhole : ∃ rows : RegisterContent,
      (if content.kind = .lines then content else .ofLines content.rows) = rows ∧
        rows.kind = .lines ∧ rows.isEmpty = false ∧ rows.rows = content.rows := by
    refine ⟨_, rfl, ?_⟩
    split
    · rename_i hkind
      exact ⟨hkind, hne, rfl⟩
    · exact ⟨rfl, RegisterContent.isEmpty_ofLines content.rows_ne_nil,
        RegisterContent.rows_ofLines content.rows_ne_nil fun _ => content.isLine_of_mem_rows⟩
  obtain ⟨rows, hrows, hkind, hne, hsame⟩ := hwhole
  simp only [putRange, hrows]
  rw [← hsame, ← htake, ← hdrop]
  generalize (d.deleteLines first last).1 = kept at *
  split
  · -- the first of the rows was behind the last row that is left
    rename_i hbehind
    have hpos := kept.buffer.lineCount_pos
    have hrow : (kept.setCursor ⟨kept.lastRow, 0⟩ .normal).cursor.row + 1 = first := by
      show min kept.lastRow kept.buffer.lastRow + 1 = first
      simp only [lastRow, Buffer.lastRow] at hbehind ⊢
      omega
    rw [putOrKeep_lines hkind hne, if_pos rfl, hrow]
    rfl
  · rename_i hthere
    have hrow : (kept.setCursor ⟨first, 0⟩ .normal).cursor.row = first :=
      Nat.min_eq_left (Nat.not_lt.1 hthere)
    rw [putOrKeep_lines hkind hne, if_neg (by decide), hrow]
    rfl

end Document

namespace EditorM

/-- Using up a selection gives its range, and leaves text and registers alone. -/
theorem ensures_takeSelection_of_selection {e : Editor} {s : Selection} {kind : VisualKind}
    (hmode : e.mode = .visual kind) (hselection : e.selection = some s)
    {ok : TextRange → Editor → Prop} {failed : Editor → Prop}
    (hok : ∀ e', e'.mode = .normal → e'.document.buffer = e.document.buffer →
      e'.registers = e.registers → ok (s.resolve e.document.buffer) e') :
    Ensures takeSelection e ok failed := by
  have hnext : e.mode.next .operatorApplied = .ok .normal := by rw [hmode]; rfl
  refine ensures_bind.2 (ensures_get.2 ?_)
  rw [hselection]
  refine ensures_bind.2 (ensures_transition hnext ?_)
  exact ensures_bind.2 (ensures_modify.2 (hok _ rfl rfl rfl))

theorem ensures_contentToPut_of_get {e : Editor} {register : Option Char}
    {content : RegisterContent} (hget : e.registers.get register = .ok content)
    (hne : content.isEmpty = false) {ok : Option RegisterContent → Editor → Prop}
    {failed : Editor → Prop} (hok : ok (some content) e) :
    Ensures (contentToPut register) e ok failed := by
  refine ensures_bind.2 (ensures_get.2 (ensures_bind.2 (ensures_ofExcept.2 ?_)))
  rw [hget]
  simp only [hne, Bool.false_eq_true, if_false]
  exact hok

/-- What is put over a selection of whole rows takes the place of the selection, and the text that
was there is read from the unnamed register. -/
theorem ensures_putOverSelection {e : Editor} {s : Selection} {content : RegisterContent}
    {register : Option Char} {kind : VisualKind} (hmode : e.mode = .visual kind)
    (hselection : e.selection = some s) (hkind : s.kind = .line)
    (hget : e.registers.get register = .ok content) (hne : content.isEmpty = false)
    (count : Nat) :
    let range : TextRange := .lines s.bounds.1.row s.bounds.2.row
    Ensures (putOverSelection count register) e
      (fun _ e' => (∃ d : Document, d.buffer = e.document.buffer ∧
          e'.document.buffer = (d.putRange content count range).buffer) ∧
        e'.registers.get none = .ok (e.document.capture range)) Never := by
  intro range
  have hrange : s.resolve e.document.buffer = range := by
    simp only [Selection.resolve, hkind]
    rfl
  refine ensures_bind.2 (ensures_takeSelection_of_selection hmode hselection
    fun e₁ _ hbuffer hregisters => ?_)
  rw [hrange]
  rw [← hregisters] at hget
  have hcapture : e₁.document.capture range = e.document.capture range :=
    Document.capture_congr hbuffer range
  obtain ⟨registers, hdelete, hread⟩ := e₁.registers.get_delete_none (e.document.capture range)
  refine ensures_bind.2 (ensures_get.2 (ensures_bind.2 ?_))
  refine ensures_bind.2 (ensures_contentToPut_of_get hget hne ?_)
  refine ensures_bind.2 (ensures_get.2 (ensures_bind.2 (ensures_modify.2 ?_)))
  refine ensures_bind.2 (ensures_get.2 (ensures_bind.2 (ensures_ofExcept.2 ?_)))
  rw [hcapture]
  simp only [Editor.mapDocument, hdelete]
  refine ensures_modify.2 (ensures_record _ ?_)
  rw [Editor.record_document, Editor.record_registers]
  refine ⟨⟨e₁.document.beginChange, ?_, ?_⟩, hread⟩
  · rw [Document.beginChange_buffer, hbuffer]
  · rw [Document.putOver, Document.endChange_buffer]

/-- **Putting over whole lines.** Putting what a register holds over a selection of whole lines puts
the lines of the register in their place, as often as the count says, and the unnamed register then
holds the lines that were there. If those were all lines of the buffer an empty line is left below. -/
theorem putOverSelection_lines {e : Editor} {s : Selection} {content : RegisterContent}
    {register : Option Char} (hmode : e.mode = .visual .line) (hselection : e.selection = some s)
    (hkind : s.kind = .line) (hlast : s.bounds.2.row ≤ e.document.lastRow)
    (hget : e.registers.get register = .ok content) (hne : content.isEmpty = false)
    (count : Nat) :
    let b := e.document.buffer
    let first := s.bounds.1.row
    let last := s.bounds.2.row
    let due := b.lines.take first ++ (List.replicate (max count 1) content.rows).flatten ++
      b.lines.drop (last + 1)
    ∃ e', putOverSelection count register e = .ok () e' ∧
      e'.document.buffer.lines =
        (if first = 0 ∧ last = b.lastRow then due ++ [[]] else due) ∧
      e'.registers.get none = .ok (.ofLines (b.rows first last)) := by
  intro b first last due
  obtain ⟨⟨⟩, e', hrun, ⟨d, hbuffer, hput⟩, hread⟩ :=
    (ensures_putOverSelection hmode hselection hkind hget hne count).exists_ok
  refine ⟨e', hrun, ?_, ?_⟩
  · have hlast' : last ≤ d.lastRow := by rwa [Document.lastRow, hbuffer]
    rw [hput, Document.putRange_lines hne count s.bounds_row hlast', Document.lastRow, hbuffer]
    split
    · rename_i hall
      have hnone : b.lines.drop (last + 1) = [] :=
        (List.append_eq_nil_iff.1 ((Buffer.kept_eq_nil_iff hlast).2 hall)).2
      simp only [due, hnone, List.append_nil]
      rfl
    · rfl
  · rw [hread, Document.capture, Nat.min_eq_left hlast]

/-- A run of characters over the last two of three lines, twice. -/
theorem putOverSelection_lines_chars :
    let e : Editor := { Editor.ofBuffer (.ofText ['a', '\n', 'b', '\n', 'c']) {} with
      modes := { mode := .visual .line }
      selection := some ⟨.line, ⟨2, 0⟩, ⟨1, 0⟩⟩
      registers := { unnamed := some (.ofChars ['p', '\n', 'q']) } }
    ∃ e', putOverSelection 2 none e = .ok () e' ∧
      e'.document.buffer.lines = [['a'], ['p'], ['q'], ['p'], ['q']] ∧
      e'.registers.get none = .ok (.ofLines [['b'], ['c']]) := by
  intro e
  have hget : e.registers.get none = .ok (.ofChars ['p', '\n', 'q']) := rfl
  exact putOverSelection_lines rfl rfl rfl (by decide) hget rfl 2

/-- Over both lines of a buffer a line is put, and there are two lines again. -/
theorem putOverSelection_lines_ne :
    ¬ ∀ (e : Editor) (s : Selection) (content : RegisterContent) (register : Option Char)
      (count : Nat), e.mode = .visual .line → e.selection = some s → s.kind = .line →
      s.bounds.2.row ≤ e.document.lastRow → e.registers.get register = .ok content →
      content.isEmpty = false →
      let b := e.document.buffer
      ∃ e', putOverSelection count register e = .ok () e' ∧
        e'.document.buffer.lines =
          b.lines.take s.bounds.1.row ++ (List.replicate (max count 1) content.rows).flatten ++
            b.lines.drop (s.bounds.2.row + 1) := by
  intro h
  let e : Editor := { Editor.ofBuffer (.ofText ['a', '\n', 'b']) {} with
    modes := { mode := .visual .line }
    selection := some ⟨.line, ⟨0, 0⟩, ⟨1, 0⟩⟩
    registers := { unnamed := some (.ofLines [['p']]) } }
  obtain ⟨e', hrun, hlines⟩ := h e ⟨.line, ⟨0, 0⟩, ⟨1, 0⟩⟩ (.ofLines [['p']]) none 1 rfl rfl rfl
    (by decide) rfl rfl
  have hleft : Ensures (putOverSelection 1 none) e
      (fun _ e' => e'.document.buffer.lines = [['p'], []]) Never := by rfl
  rw [Ensures, hrun] at hleft
  exact absurd (hleft.symm.trans hlines) (by decide +kernel)

end EditorM

end ModalEditor
