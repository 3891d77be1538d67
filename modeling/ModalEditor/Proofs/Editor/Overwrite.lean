import ModalEditor.Proofs.Document.Row
import ModalEditor.Proofs.Editor.Typing

/-!
# Writing over and taking back

Text that replace mode writes, and the backspace key behind it. What the text does to the line of the
cursor is `writeOver`, and what the backspace key does to it is `takeBack`, as long as there is no line
break in the text (`Editor.snapshot_overwrite`, `Document.snapshot_unwrite`). So the text is taken back
if and only if it reads back where it was written (`Editor.snapshot_unwrite_overwrite_iff`). A line
break in the place of a cluster is not taken back (`Editor.snapshot_unwrite_break_ne`), but one that
broke the line is (`Document.snapshot_unwrite_insertBreak`).
-/

namespace ModalEditor

namespace Snapshot

/-- The line of the cursor. -/
def line (s : Snapshot) : Text :=
  s.buffer.line s.cursor.row

/-- The cursor is between clusters. -/
def Parted (s : Snapshot) : Prop :=
  s.buffer.clamp s.cursor = s.cursor

/-- Every character of every line stands alone. -/
def Alone (s : Snapshot) : Prop :=
  ∀ l ∈ s.buffer.lines, ModalEditor.Alone l

/-- The state with this text in the line of the cursor, and with the cursor in this column of it. -/
def withLine (s : Snapshot) (new : Text × Nat) : Snapshot :=
  ⟨s.buffer.setLine s.cursor.row new.1, ⟨s.cursor.row, new.2⟩⟩

variable {s : Snapshot}

/-- A cursor between clusters is on a row of the text. -/
theorem Parted.row (h : s.Parted) : s.cursor.row < s.buffer.lineCount :=
  (h ▸ s.buffer.inside_clamp s.cursor).row

/-- It is between clusters of its line. -/
theorem Parted.parts (h : s.Parted) : Parts (clusters s.line) s.cursor.col := by
  obtain ⟨l, hl, hparts⟩ := Buffer.clamp_eq_self_iff.1 h
  rwa [line, Buffer.line, hl]

/-- Only what was written last remains of the line. -/
theorem withLine_withLine {new later : Text × Nat} (hnew : IsLine new.1) (hlater : IsLine later.1) :
    (s.withLine new).withLine later = s.withLine later := by
  simp only [withLine, Buffer.setLine_setLine _ _ hnew hlater]

/-- The line is what was written. -/
theorem line_withLine (h : s.Parted) {new : Text × Nat} (hnew : IsLine new.1) :
    (s.withLine new).line = new.1 :=
  Buffer.line_setLine h.row hnew

/-- The line of the cursor holds such characters only, if the buffer does. -/
theorem Alone.line (h : s.Alone) : ModalEditor.Alone s.line := by
  rw [Snapshot.line]
  rcases s.buffer.line_mem_or_eq_nil s.cursor.row with hmem | hnil
  · exact h _ hmem
  · rw [hnil]
    exact nofun

/-- A line of such characters may be written. -/
theorem Alone.withLine (h : s.Alone) {new : Text × Nat} (hline : IsLine new.1)
    (hnew : ModalEditor.Alone new.1) : (s.withLine new).Alone := fun l hl => by
  have hlines := Buffer.lines_setLine s.buffer s.cursor.row hline
  rw [show (s.withLine new).buffer.lines = _ from hlines] at hl
  rcases List.mem_or_eq_of_mem_set hl with hl | rfl
  · exact h l hl
  · exact hnew

/-- A cursor between clusters of the written line is between clusters. -/
theorem parted_withLine (h : s.Parted) {new : Text × Nat} (hnew : IsLine new.1)
    (hcol : Parts (clusters new.1) new.2) : (s.withLine new).Parted := by
  have hrow : s.cursor.row < (s.buffer.setLine s.cursor.row new.1).lineCount := by
    rw [Buffer.lineCount_setLine _ _ hnew]
    exact h.row
  refine Buffer.clamp_of_parts hrow ?_
  rwa [Buffer.line_setLine h.row hnew]

/-- A line is as before if both its text and the cursor are. -/
theorem withLine_eq_self_iff (h : s.Parted) {new : Text × Nat} (hnew : IsLine new.1) :
    s.withLine new = s ↔ new = (s.line, s.cursor.col) := by
  constructor
  · intro heq
    have hline := line_withLine h hnew
    rw [heq] at hline
    rw [hline]
    exact congrArg (fun s => (new.1, s.cursor.col)) heq
  · rintro rfl
    rw [withLine, line, Buffer.setLine_line h.row]

end Snapshot

/-- What replace mode remembers of text that was written over a cluster, or added where there was
none. -/
def Overwritten.ofCluster? : Option Cluster → Overwritten
  | some old => .replaced old
  | none => .appended

/-! ## Text on a line -/

namespace Document

variable {d : Document}

/-- Inserting text puts the cursor behind it. -/
theorem snapshot_insertText (d : Document) {t : Text} (ht : t ≠ []) :
    (d.insertText t).snapshot = ⟨(d.buffer.insert d.cursor t).1, (d.buffer.insert d.cursor t).2⟩ := by
  have hsome : ¬ t.isEmpty = true := fun hempty => ht (List.isEmpty_iff.1 hempty)
  rw [insertText, insertAt, if_neg hsome]
  rfl

/-- The cursor is brought to a cluster boundary of the text that is now in its row. -/
theorem snapshot_setCursor {b : Buffer} {row : Nat} (hrow : row < b.lineCount) {l : Text}
    (hl : IsLine l) (hd : d.buffer = b.setLine row l) (col : Nat) :
    (d.setCursor ⟨row, col⟩ .insert).snapshot = ⟨b.setLine row l, ⟨row, floorBoundary l col⟩⟩ := by
  have hrow' : row < (b.setLine row l).lineCount := by rwa [Buffer.lineCount_setLine _ _ hl]
  show (⟨d.buffer, d.buffer.clamp ⟨row, col⟩⟩ : Snapshot) = _
  rw [hd, Buffer.clamp_row hrow', Buffer.line_setLine hrow hl]

/-- Taking back a character restores the line and the cursor. -/
theorem snapshot_unwrite (h : d.snapshot.Parted) {old : Option Cluster}
    (hold : ∀ s ∈ old, IsLine s) :
    (d.unwrite (some (.ofCluster? old))).snapshot =
      d.snapshot.withLine (takeBack d.snapshot.line d.cursor.col old) := by
  have hprev := parts_prevBoundary d.snapshot.line d.cursor.col
  have hle := prevBoundary_le d.snapshot.line d.cursor.col
  have hnew := isLine_takeBack (d.buffer.isLine_line d.cursor.row) d.cursor.col hold
  cases old with
  | some s =>
    have hreplaced := (replaceRange_row h.row hprev h.parts hle (hold s rfl)).1
    exact snapshot_setCursor h.row hnew hreplaced _
  | none =>
    have hremoved := (deleteRange_buffer d _ _).trans (Buffer.remove_row h.row hprev h.parts hle)
    exact snapshot_setCursor h.row hnew hremoved _

/-- Taking back a character leaves the number of rows. -/
theorem lineCount_unwrite (h : d.snapshot.Parted) {old : Option Cluster}
    (hold : ∀ s ∈ old, IsLine s) :
    (d.unwrite (some (.ofCluster? old))).buffer.lineCount = d.buffer.lineCount := by
  have hline : IsLine d.snapshot.line := d.buffer.isLine_line _
  have hback := congrArg (·.buffer.lineCount) (snapshot_unwrite h hold)
  exact hback.trans (Buffer.lineCount_setLine _ _ (isLine_takeBack hline _ hold))

/-- Text takes the place of a part of the row behind the cursor, and the cursor goes behind it. -/
theorem snapshot_replaceRange (h : d.snapshot.Parted) {past : Nat}
    (hpast : Parts (clusters d.snapshot.line) past) (hle : d.cursor.col ≤ past) {t : Text}
    (ht : IsLine t) :
    let replaced := d.replaceRange d.cursor ⟨d.cursor.row, past⟩ t
    let new := rewriteLine d.snapshot.line d.cursor.col past t
    (replaced.1.setCursor replaced.2 .insert).snapshot =
      d.snapshot.withLine (new.1, floorBoundary new.1 new.2) := by
  intro replaced new
  obtain ⟨hbuffer, hplace⟩ := replaceRange_row h.row h.parts hpast hle ht
  have hcursor : replaced.2 = ⟨d.cursor.row, new.2⟩ := hplace
  have hnew : IsLine new.1 := fun hmem =>
    (mem_rewriteLine hmem).elim (d.buffer.isLine_line d.cursor.row) ht
  rw [hcursor]
  exact snapshot_setCursor h.row hnew hbuffer _

/-- Text without breaks is inserted in the line of the cursor. -/
theorem snapshot_insertLine (h : d.snapshot.Parted) {t : Text} (ht : IsLine t) (hne : t ≠ []) :
    (d.insertText t).snapshot =
      d.snapshot.withLine (takeBytes d.snapshot.line d.cursor.col ++ t ++
        dropBytes d.snapshot.line d.cursor.col, d.cursor.col + byteSize t) := by
  have hrow : d.cursor.row < d.buffer.lineCount := h.row
  have hplace : floorBoundary (d.buffer.line d.cursor.row) d.cursor.col = d.cursor.col :=
    floorBoundary_of_parts h.parts
  have hbuffer := Buffer.insert_row hrow d.cursor.col t
  have hcursor := Buffer.insert_row_snd hrow d.cursor.col ht
  rw [hplace] at hbuffer hcursor
  exact (snapshot_insertText d hne).trans (congrArg₂ Snapshot.mk hbuffer hcursor)

/-! ## Line breaks -/

/-- Erasing a range puts the cursor where it began. -/
theorem snapshot_erase (d : Document) (first past : Position) :
    (d.erase first past).snapshot =
      ⟨(d.buffer.remove first past).1, (d.buffer.remove first past).1.clamp first⟩ := by
  rw [← deleteRange_buffer]
  rfl

/-- A line break in the place of a part of a row adds a row. -/
theorem lineCount_replaceRange_break (h : d.snapshot.Parted) {past : Nat}
    (hpast : Parts (clusters d.snapshot.line) past) (hle : d.cursor.col ≤ past) :
    (d.replaceRange d.cursor ⟨d.cursor.row, past⟩ ['\n']).1.buffer.lineCount =
      d.buffer.lineCount + 1 := by
  have hline : IsLine d.snapshot.line := d.buffer.isLine_line _
  have hslice : d.buffer.slice d.cursor ⟨d.cursor.row, past⟩ =
      sliceBytes d.snapshot.line d.cursor.col past := Buffer.slice_row h.row h.parts hpast hle
  have hdifferent : d.buffer.slice d.cursor ⟨d.cursor.row, past⟩ ≠ ['\n'] := fun hsame => by
    rw [hslice] at hsame
    exact isLine_sliceBytes hline _ _ (hsame ▸ List.mem_singleton_self _)
  have hremoved : (d.buffer.remove d.cursor ⟨d.cursor.row, past⟩).1.lineCount =
      d.buffer.lineCount := by
    refine (congrArg Buffer.lineCount (Buffer.remove_row h.row h.parts hpast hle)).trans ?_
    exact Buffer.lineCount_setLine _ _
      (isLine_append (isLine_takeBytes hline _) (isLine_dropBytes hline _))
  have hinserted := Buffer.lineCount_insert (d.buffer.remove d.cursor ⟨d.cursor.row, past⟩).1
    d.cursor ['\n']
  rw [hremoved] at hinserted
  have hplace : d.buffer.clamp d.cursor = d.cursor := h
  rw [replaceRange_buffer hplace, if_neg hdifferent]
  exact Nat.succ.inj hinserted

/-- A line break puts the cursor at the beginning of the next row. -/
theorem snapshot_insertBreak (h : d.snapshot.Parted) :
    (d.insertText ['\n']).snapshot =
      ⟨(d.buffer.insert d.cursor ['\n']).1, ⟨d.cursor.row + 1, 0⟩⟩ :=
  (snapshot_insertText d (List.cons_ne_nil _ _)).trans
    (congrArg (Snapshot.mk _) (Buffer.insert_break h.row h.parts).2)

/-- It adds a row. -/
theorem lineCount_insertBreak (h : d.snapshot.Parted) :
    (d.insertText ['\n']).buffer.lineCount = d.buffer.lineCount + 1 :=
  (congrArg (·.buffer.lineCount) (snapshot_insertBreak h)).trans
    (Nat.succ.inj (Buffer.lineCount_insert d.buffer d.cursor ['\n']))

/-- The cursor is between clusters there. -/
theorem parted_insertBreak (h : d.snapshot.Parted) : (d.insertText ['\n']).snapshot.Parted := by
  have hrow : d.cursor.row + 1 < (d.insertText ['\n']).buffer.lineCount := by
    rw [lineCount_insertBreak h]
    exact Nat.succ_lt_succ h.row
  have hcursor : (d.insertText ['\n']).cursor = ⟨d.cursor.row + 1, 0⟩ :=
    congrArg (·.cursor) (snapshot_insertBreak h)
  show (d.insertText ['\n']).buffer.clamp (d.insertText ['\n']).cursor = _
  rw [snapshot, hcursor]
  exact Buffer.clamp_of_parts hrow (parts_zero _)

/-- The two halves of the line hold such characters only. -/
theorem alone_insertBreak (h : d.snapshot.Parted) (halone : d.snapshot.Alone) :
    (d.insertText ['\n']).snapshot.Alone := fun l hl => by
  have hlines := (Buffer.insert_break h.row h.parts).1
  rw [snapshot_insertBreak h, show (d.buffer.insert d.cursor ['\n']).1.lines = _ from hlines] at hl
  rcases List.mem_append.1 hl with hl | hl
  · exact halone l (List.mem_of_mem_take hl)
  rcases List.mem_cons.1 hl with rfl | hl
  · exact fun c hc => halone.line c (mem_of_mem_takeBytes hc)
  rcases List.mem_cons.1 hl with rfl | hl
  · exact fun c hc => halone.line c (mem_of_mem_dropBytes hc)
  · exact halone l (List.mem_of_mem_drop hl)

/-- A broken line is joined again. -/
theorem snapshot_unwrite_insertBreak (h : d.snapshot.Parted) :
    ((d.insertText ['\n']).unwrite (some .lineBreak)).snapshot = d.snapshot := by
  have hplace : d.buffer.clamp d.cursor = d.cursor := h
  have hjoined : (d.buffer.insert d.cursor ['\n']).1.lineSize d.cursor.row = d.cursor.col ∧
      ((d.buffer.insert d.cursor ['\n']).1.remove
        ⟨d.cursor.row, (d.buffer.insert d.cursor ['\n']).1.lineSize d.cursor.row⟩
        ⟨d.cursor.row + 1, 0⟩).1 = d.buffer := Buffer.remove_insert_break h.row h.parts
  have hbuffer : (d.insertText ['\n']).buffer = (d.buffer.insert d.cursor ['\n']).1 :=
    congrArg (·.buffer) (snapshot_insertBreak h)
  have hcursor : (d.insertText ['\n']).cursor = ⟨d.cursor.row + 1, 0⟩ :=
    congrArg (·.cursor) (snapshot_insertBreak h)
  rw [unwrite, hcursor, if_pos (Nat.succ_pos _), eraseBreakBefore, snapshot_erase, hbuffer,
    Nat.add_sub_cancel, hjoined.2, hjoined.1]
  exact congrArg (Snapshot.mk d.buffer) hplace

/-! ## What taking back looks at -/

/-- Replacing a range leaves a text and a cursor that depend on text and range alone. -/
theorem snapshot_replaceRange_setCursor (d : Document) (first past p : Position) (t : Text) :
    ((d.replaceRange first past t).1.setCursor p .insert).snapshot =
      let b := if d.buffer.slice (d.buffer.clamp first) past = t then d.buffer
        else ((d.buffer.remove (d.buffer.clamp first) past).1.insert (d.buffer.clamp first) t).1
      ⟨b, b.clamp p⟩ := by
  simp only [replaceRange]
  split <;> rfl

/-- Taking back looks at the text and at the cursor only. -/
theorem snapshot_unwrite_congr {d d' : Document} (h : d.snapshot = d'.snapshot)
    (entry : Option Overwritten) : (d.unwrite entry).snapshot = (d'.unwrite entry).snapshot := by
  obtain ⟨hbuffer, hcursor⟩ : d.buffer = d'.buffer ∧ d.cursor = d'.cursor := Snapshot.mk.inj h
  have hback : (d.setCursor d.positionBefore .insert).snapshot =
      (d'.setCursor d'.positionBefore .insert).snapshot := by
    simp only [snapshot, setCursor, clamp, positionBefore, line, hbuffer, hcursor]
  cases entry with
  | none => exact hback
  | some entry =>
    cases entry with
    | replaced old =>
      simp only [unwrite, snapshot_replaceRange_setCursor, positionBefore, line, hbuffer, hcursor]
    | appended => simp only [unwrite, snapshot_erase, positionBefore, line, hbuffer, hcursor]
    | lineBreak =>
      rw [unwrite, unwrite, hcursor]
      split
      · simp only [eraseBreakBefore, snapshot_erase, hbuffer]
      · exact hback

/-- A cursor that is placed is between clusters. -/
theorem parted_setCursor (d : Document) (p : Position) : (d.setCursor p .insert).snapshot.Parted :=
  Buffer.clamp_clamp d.buffer p

/-- Taking back ends by placing the cursor. -/
theorem parted_unwrite (d : Document) (entry : Option Overwritten) :
    (d.unwrite entry).snapshot.Parted := by
  cases entry with
  | none => exact parted_setCursor _ _
  | some entry =>
    cases entry with
    | replaced old => exact parted_setCursor _ _
    | appended => exact parted_setCursor _ _
    | lineBreak =>
      rw [unwrite]
      split
      · exact parted_setCursor _ _
      · exact parted_setCursor _ _

end Document

/-! ## What a key writes -/

namespace Editor

/-- The cluster under the cursor. -/
def clusterUnder (e : Editor) : Option Cluster :=
  clusterAt (e.document.line e.document.cursor.row) e.document.cursor.col

/-- What replace mode remembers, the latest first. -/
def overwritten (e : Editor) : List Overwritten :=
  (e.session.map (·.overwritten)).getD []

/-- What was written over is remembered first, the latest in front. -/
theorem overwritten_rememberOverwritten {e : Editor} (h : e.session.isSome)
    (entry : Overwritten) : (e.rememberOverwritten entry).overwritten = entry :: e.overwritten := by
  obtain ⟨s, hs⟩ := Option.isSome_iff_exists.1 h
  rw [rememberOverwritten, mapSession, overwritten, overwritten, hs]
  rfl

/-- The cluster under the cursor is remembered. -/
theorem overwritten_overwrite {e : Editor} (h : e.session.isSome) (t : Text) :
    (e.overwrite t).overwritten = .ofCluster? e.clusterUnder :: e.overwritten := by
  rw [overwrite, clusterUnder]
  cases clusterAt (e.document.line e.document.cursor.row) e.document.cursor.col with
  | some old => exact overwritten_rememberOverwritten h _
  | none => exact overwritten_rememberOverwritten h _

/-- Writing over changes the line of the cursor as it changes the line alone. -/
theorem snapshot_overwrite {e : Editor} (h : e.document.snapshot.Parted) {t : Text} (ht : IsLine t)
    (hne : t ≠ []) :
    (e.overwrite t).document.snapshot =
      e.document.snapshot.withLine (writeOver e.document.snapshot.line e.document.cursor.col t) := by
  cases hat : clusterAt (e.document.line e.document.cursor.row) e.document.cursor.col with
  | some old =>
    have hpast : ModalEditor.Parts (clusters e.document.snapshot.line)
      (e.document.cursor.col + byteSize old) := h.parts.add_clusterAt hat
    have hwritten := writeOver_of_some hat t
    rw [overwrite, hat]
    exact (Document.snapshot_replaceRange h hpast (Nat.le_add_right _ _) ht).trans
      (congrArg _ hwritten.symm)
  | none =>
    have hwritten := writeOver_of_none hat t
    rw [overwrite, hat]
    exact (Document.snapshot_insertLine h ht hne).trans (congrArg _ hwritten.symm)

/-- The cluster under the cursor holds no line break. -/
theorem isLine_of_clusterUnder {e : Editor} : ∀ s ∈ e.clusterUnder, IsLine s := fun _ h =>
  isLine_of_clusterAt (e.document.buffer.isLine_line _) h

/-- Writing over leaves the cursor between clusters, since it places it. -/
theorem parted_overwrite {e : Editor} (h : e.document.snapshot.Parted) {t : Text} (ht : IsLine t)
    (hne : t ≠ []) : (e.overwrite t).document.snapshot.Parted := by
  have hline : IsLine e.document.snapshot.line := e.document.buffer.isLine_line _
  rw [snapshot_overwrite h ht hne]
  exact Snapshot.parted_withLine h (isLine_writeOver hline ht _) (parts_writeOver h.parts t)

/-- Characters that stand alone are left when others that do are written over them. -/
theorem alone_overwrite {e : Editor} (h : e.document.snapshot.Parted)
    (halone : e.document.snapshot.Alone) {t : Text} (ht : Alone t) (hne : t ≠ []) :
    (e.overwrite t).document.snapshot.Alone := by
  have hline : IsLine e.document.snapshot.line := e.document.buffer.isLine_line _
  rw [snapshot_overwrite h ht.isLine hne]
  exact halone.withLine (isLine_writeOver hline ht.isLine _) fun c hc =>
    (mem_writeOver hc).elim (halone.line c) (ht c)

/-- Text without line breaks is taken back if and only if it reads back. -/
theorem snapshot_unwrite_overwrite_iff {e : Editor} (h : e.document.snapshot.Parted) {t : Text}
    (ht : IsLine t) (hne : t ≠ []) :
    ((e.overwrite t).document.unwrite (some (.ofCluster? e.clusterUnder))).snapshot =
        e.document.snapshot ↔
      ReadsBack e.document.snapshot.line e.document.cursor.col t := by
  have hline : IsLine e.document.snapshot.line := e.document.buffer.isLine_line _
  have hwritten := isLine_writeOver hline ht e.document.cursor.col
  have hover := snapshot_overwrite h ht hne
  have hparted := parted_overwrite h ht hne
  have hback := Document.snapshot_unwrite hparted (isLine_of_clusterUnder (e := e))
  have hcol : (e.overwrite t).document.cursor.col =
      (writeOver e.document.snapshot.line e.document.cursor.col t).2 :=
    congrArg (·.cursor.col) hover
  rw [hcol, hover, Snapshot.line_withLine h hwritten] at hback
  have htaken := isLine_takeBack hwritten
    (writeOver e.document.snapshot.line e.document.cursor.col t).2
    (isLine_of_clusterUnder (e := e))
  rw [hback, Snapshot.withLine_withLine hwritten htaken, Snapshot.withLine_eq_self_iff h htaken]
  exact takeBack_writeOver_iff h.parts hne

/-- The cursor is between clusters after a line break too, and there is one row more. -/
theorem parted_overwrite_break {e : Editor} (h : e.document.snapshot.Parted) :
    (e.overwrite ['\n']).document.snapshot.Parted ∧
      (e.overwrite ['\n']).document.buffer.lineCount = e.document.buffer.lineCount + 1 := by
  cases hat : clusterAt (e.document.line e.document.cursor.row) e.document.cursor.col with
  | some old =>
    rw [overwrite, hat]
    refine ⟨Document.parted_setCursor _ _, ?_⟩
    exact Document.lineCount_replaceRange_break h (h.parts.add_clusterAt hat) (Nat.le_add_right _ _)
  | none =>
    rw [overwrite, hat]
    exact ⟨Document.parted_insertBreak h, Document.lineCount_insertBreak h⟩

/-- A line break that is written over a cluster stays when it is taken back. -/
theorem snapshot_unwrite_break_ne {e : Editor} (h : e.document.snapshot.Parted) :
    ((e.overwrite ['\n']).document.unwrite (some (.ofCluster? e.clusterUnder))).snapshot ≠
      e.document.snapshot := by
  obtain ⟨hparted, hcount⟩ := parted_overwrite_break h
  intro hback
  have hsame := congrArg (·.buffer.lineCount) hback
  have hkept := Document.lineCount_unwrite hparted (isLine_of_clusterUnder (e := e))
  rw [hcount] at hkept
  exact absurd (hkept.symm.trans hsame) (Nat.succ_ne_self _)

end Editor

end ModalEditor
