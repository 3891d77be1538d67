import ModalEditor.Proofs.Command.Span

/-!
# No deleted text is lost

What is deleted without naming a register is in the unnamed one afterwards, all of it and nothing
else (`deleteRange_restores`). A deletion captures the range before it cuts it, which are two
computations on the same buffer; that they agree is a matter of the document (`restores_cut`).
-/

namespace ModalEditor

/-- What is deleted without naming a register can be read from the unnamed one. -/
theorem Registers.get_delete_none (r : Registers) (content : RegisterContent) :
    ∃ r', r.delete none content = .ok r' ∧ r'.get none = .ok content := by
  have hdelete : r.delete none content =
      if content.isSmall then .ok (r.storeUnnamed .smallDeletion content)
      else .ok (r.pushDeletion content) := rfl
  rw [hdelete]
  split
  · exact ⟨_, rfl, rfl⟩
  · exact ⟨_, rfl, rfl⟩

namespace EditorM

/-- Deleting a range that is not empty, with no register named, cuts it out, and the unnamed register
keeps it. -/
theorem deleteRange_none (e : Editor) {range : TextRange} (hrange : range.isEmpty = false)
    (change : Bool) :
    ∃ registers, e.registers.delete none (e.document.capture range) = .ok registers ∧
      registers.get none = .ok (e.document.capture range) ∧
      deleteRange range none change e =
        .ok () { e with registers, document := e.document.cut change range } := by
  obtain ⟨registers, hdelete, hget⟩ := e.registers.get_delete_none (e.document.capture range)
  refine ⟨registers, hdelete, hget, Ensures.eq_ok ?_⟩
  rw [deleteRange, if_neg (by rw [hrange]; exact Bool.false_ne_true)]
  refine ensures_bind.2 (ensures_get.2 (ensures_bind.2 (ensures_ofExcept.2 ?_)))
  rw [hdelete]
  exact ⟨rfl, rfl⟩

/-- **No deleted text is lost.** For every range that an operator or a selection stands for in the
buffer of the editor, unless there is nothing in it, deleting it without naming a register succeeds,
whether or not other text is to take its place, and the unnamed register then holds what was taken
out of the buffer. -/
theorem deleteRange_restores {e : Editor} {range : TextRange}
    (hresolves : e.document.buffer.Resolves range) (hrange : range.isEmpty = false)
    (change : Bool) :
    ∃ e' content, deleteRange range none change e = .ok () e' ∧
      e'.registers.get none = .ok content ∧
      content.Restores change e'.document.buffer e.document.buffer range := by
  obtain ⟨registers, -, hget, hcut⟩ := deleteRange_none e hrange change
  exact ⟨_, e.document.capture range, hcut, hget,
    e.document.restores_cut change hresolves.inOrder⟩

/-- A rectangle of which the first row holds a wide cluster and the second row nothing. -/
theorem deleteRange_restores_block :
    let b := Buffer.ofText ['a', '世', 'b', '\n', '\n', 'a', 'b', 'c', 'd']
    let s : Selection := ⟨.block, ⟨0, 1⟩, ⟨2, 2⟩⟩
    s.resolve b = .block 0 2 1 3 ∧
      ∃ e' content,
        deleteRange (.block 0 2 1 3) none false (Editor.ofBuffer b {}) = .ok () e' ∧
          e'.registers.get none = .ok content ∧
          content.Restores false e'.document.buffer b (.block 0 2 1 3) := by
  intro b s
  have hrange : s.resolve b = .block 0 2 1 3 := by decide +kernel
  have hbuffer : (Editor.ofBuffer b {}).document.buffer = b := rfl
  have hresolves : b.Resolves ((s.resolve b).widen (Editor.ofBuffer b {}).document .selection) :=
    .selection hbuffer s .selection
  rw [hrange] at hresolves
  exact ⟨hrange, deleteRange_restores (e := Editor.ofBuffer b {}) hresolves rfl false⟩

end EditorM

/-! ## The operator -/

namespace Editor

@[simp] theorem record_document (e : Editor) (c : Change) : (e.record c).document = e.document := by
  unfold record; split <;> rfl

@[simp] theorem record_registers (e : Editor) (c : Change) :
    (e.record c).registers = e.registers := by
  unfold record; split <;> rfl

@[simp] theorem record_mode (e : Editor) (c : Change) : (e.record c).mode = e.mode := by
  unfold record; split <;> rfl

end Editor

namespace EditorM

/-- The operator deletes the range and is recorded. -/
theorem operateOn_delete (e : Editor) {range : TextRange} (hrange : range.isEmpty = false)
    (c : Change) :
    ∃ registers, e.registers.delete none (e.document.capture range) = .ok registers ∧
      registers.get none = .ok (e.document.capture range) ∧
      operateOn .delete range none c e =
        .ok () ({ e with registers, document := e.document.cut false range }.record c) := by
  obtain ⟨registers, hdelete, hget, hcut⟩ := deleteRange_none e hrange false
  refine ⟨registers, hdelete, hget, Ensures.eq_ok (ensures_bind.2 ?_)⟩
  rw [Ensures, hcut]
  exact ⟨rfl, rfl⟩

end EditorM

end ModalEditor
