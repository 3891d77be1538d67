import Mathlib.Data.List.DropRight
import ModalEditor.Proofs.Editor.Backspace

/-!
# What typed keys leave

Keys that are typed in insert mode on an empty line leave a text of their own (`Edit.left`): behind it
is the cursor, and around it the text is as before (`Editor.typed_foldl`). The register `.` is to hold
that text, but it is made of the keys alone (`Edit.typedText`). The two are the same as long as every
key does to the end of the text what the register takes it for (`Edit.Mirrored`): a tab has to be
written as one character, and the cluster that a backspace key takes back has to be one. The first key
for which that fails parts them (`Edit.leave_eq_note_iff`).
-/

namespace ModalEditor

/-! ## The end of a text -/

/-- The line that a text ends in. -/
def lastLine (t : Text) : Text :=
  (splitLines t).getLastD []

/-- What the backspace key takes back of a text: the last cluster of its last line, or the line break
before a last line that is empty. -/
def backspaced (t : Text) : Text :=
  (clusters (lastLine t)).getLastD ['\n']

section Rows

variable {t l : Text} {front : List Text} (h : splitLines t = front ++ [l])
include h

/-- The last line of a text is the last of its lines. -/
theorem lastLine_eq : lastLine t = l := by
  rw [lastLine, h, List.getLastD_concat]

/-- Text without breaks goes on with the last line. -/
theorem splitLines_append_line {s : Text} (hs : IsLine s) :
    splitLines (t ++ s) = front ++ [l ++ s] := by
  obtain ⟨hfront, hl, rfl⟩ := splitLines_eq_concat_iff.1 h
  exact splitLines_eq_concat_iff.2 ⟨hfront, isLine_append hl hs, List.append_assoc _ _ _⟩

end Rows

/-- The lines of a text from which the end of the last one is taken. -/
theorem splitLines_rdrop {t u s : Text} {front : List Text} (h : splitLines t = front ++ [u ++ s]) :
    splitLines (t.rdrop s.length) = front ++ [u] ∧ t.rdrop s.length ++ s = t := by
  obtain ⟨hfront, hl, rfl⟩ := splitLines_eq_concat_iff.1 h
  rw [← List.append_assoc, List.rdrop_append_length]
  exact ⟨splitLines_eq_concat_iff.2 ⟨hfront, fun hm => hl (List.mem_append_left _ hm), rfl⟩, rfl⟩

/-- The lines of a text from which the last line break is taken. -/
theorem splitLines_rdrop_break {t m : Text} {front : List Text}
    (h : splitLines t = front ++ [m] ++ [[]]) :
    splitLines (t.rdrop 1) = front ++ [m] ∧ t.rdrop 1 ++ ['\n'] = t := by
  obtain ⟨hfront, -, rfl⟩ := splitLines_eq_concat_iff.1 h
  have hend : (front ++ [m]).flatMap (· ++ ['\n']) ++ [] =
      front.flatMap (· ++ ['\n']) ++ m ++ ['\n'] := by
    rw [List.append_nil, List.flatMap_append, List.flatMap_singleton, List.append_assoc]
  rw [hend, show 1 = ['\n'].length from rfl, List.rdrop_append_length]
  exact ⟨splitLines_eq_concat_iff.2 ⟨fun l hl => hfront l (List.mem_append_left _ hl),
    hfront m (by simp), rfl⟩, rfl⟩

/-- What the backspace key takes back behind a text is a cluster of the last line, or the line break
before it. -/
theorem backspaced_cases {t : Text} (ht : t ≠ []) :
    (∃ front u s, splitLines t = front ++ [u ++ s] ∧ clusters (u ++ s) = clusters u ++ [s] ∧
        backspaced t = s) ∨
      ∃ front m, splitLines t = front ++ [m] ++ [[]] ∧ backspaced t = ['\n'] := by
  obtain ⟨front, l, hrows⟩ := exists_splitLines_eq t
  rw [backspaced, lastLine_eq hrows]
  rcases List.eq_nil_or_concat (clusters l) with hnone | ⟨gs, g, hgs⟩
  · have hl : l = [] := by rw [← flatten_clusters l, hnone, List.flatten_nil]
    subst hl
    rcases List.eq_nil_or_concat front with rfl | ⟨before, m, rfl⟩
    · have hempty := (splitLines_eq_concat_iff.1 hrows).2.2
      exact absurd hempty ht
    · exact .inr ⟨before, m, by rw [hrows, List.concat_eq_append], rfl⟩
  · rw [List.concat_eq_append] at hgs
    obtain ⟨rfl, hfront⟩ := clusters_eq_concat hgs
    refine .inl ⟨front, gs.flatten, g, hrows, by rw [hfront, hgs], ?_⟩
    rw [hgs, List.getLastD_concat]

/-- What is taken back is the end of the text. -/
theorem rdrop_backspaced {t : Text} (ht : t ≠ []) :
    t.rdrop (backspaced t).length ++ backspaced t = t := by
  rcases backspaced_cases ht with ⟨front, u, s, hrows, -, hback⟩ | ⟨front, m, hrows, hback⟩
  · rw [hback]
    exact (splitLines_rdrop hrows).2
  · rw [hback]
    exact (splitLines_rdrop_break hrows).2

/-! ## The text and the register -/

/-- The text of the tab key behind so many display columns. -/
def Settings.tabBehind (settings : Settings) (column : Nat) : Text :=
  if settings.expandTab then
    spaces (max settings.tabWidth 1 - column % max settings.tabWidth 1)
  else ['\t']

namespace Edit

variable {settings : Settings} {t : Text} {k : Edit}

/-- The text that a key of insert mode leaves behind a text with the cursor at its end. -/
def leave (settings : Settings) (t : Text) : Edit → Text
  | .insertChar c => t ++ [c]
  | .newline => t ++ ['\n']
  | .tab => t ++ settings.tabBehind (lineWidth (lastLine t))
  | .backspace => t.rdrop (backspaced t).length
  | .deleteUnder | .move _ => t

/-- The text that keys leave on an empty line. -/
def left (settings : Settings) (typed : List Edit) : Text :=
  typed.foldl (leave settings) []

/-- What the register takes a key for. -/
def note (t : Text) : Edit → Text
  | .insertChar c => t ++ [c]
  | .newline => t ++ ['\n']
  | .tab => t ++ ['\t']
  | .backspace => t.dropLast
  | .deleteUnder | .move _ => t

/-- The key writes text, or takes back some of it. -/
def Fits (t : Text) (k : Edit) : Prop :=
  k.writes = true ∨ k = .backspace ∧ t ≠ []

/-- A key does what the register takes it for: a tab is written as such, and one character is taken
back. -/
def Mirrored (settings : Settings) (t : Text) : Edit → Prop
  | .tab => settings.expandTab = false
  | .backspace => (backspaced t).length = 1
  | _ => True

/-- Each of the keys has the property behind the text that the ones before it leave. -/
def Each (settings : Settings) (p : Text → Edit → Prop) : Text → List Edit → Prop
  | _, [] => True
  | t, k :: typed => p t k ∧ Each settings p (leave settings t k) typed

instance (t : Text) (k : Edit) : Decidable (Fits t k) :=
  inferInstanceAs (Decidable (_ ∨ _ ∧ _))

instance (settings : Settings) (t : Text) : (k : Edit) → Decidable (Mirrored settings t k)
  | .tab => inferInstanceAs (Decidable (_ = _))
  | .backspace => inferInstanceAs (Decidable (_ = _))
  | .insertChar _ | .newline | .deleteUnder | .move _ => inferInstanceAs (Decidable True)

instance Each.decidable (settings : Settings) (p : Text → Edit → Prop)
    [∀ t k, Decidable (p t k)] :
    (t : Text) → (typed : List Edit) → Decidable (Each settings p t typed)
  | _, [] => inferInstanceAs (Decidable True)
  | t, k :: typed =>
    have := Each.decidable settings p (leave settings t k) typed
    inferInstanceAs (Decidable (_ ∧ _))

/-- The typed text is what the keys leave, noted one after the other. -/
theorem typedText_eq_foldl (typed : List Edit) : typedText typed = typed.foldl note [] :=
  rfl

/-- Something is asked of each key if it is asked of each of the first and each of the others. -/
theorem each_append {p : Text → Edit → Prop} {typed later : List Edit} :
    Each settings p t (typed ++ later) ↔
      Each settings p t typed ∧ Each settings p (typed.foldl (leave settings) t) later := by
  induction typed generalizing t with
  | nil => exact (and_iff_right trivial).symm
  | cons k typed ih => exact (and_congr_right fun _ => ih).trans and_assoc.symm

/-- A key that fits is a character, a line break, a tab, or a backspace with something to take back. -/
theorem Fits.cases (h : Fits t k) :
    (∃ c, k = .insertChar c) ∨ k = .newline ∨ k = .tab ∨ k = .backspace ∧ t ≠ [] := by
  rcases h with h | h
  · cases k with
    | insertChar c => exact .inl ⟨c, rfl⟩
    | newline => exact .inr (.inl rfl)
    | tab => exact .inr (.inr (.inl rfl))
    | _ => cases h
  · exact .inr (.inr (.inr h))

/-- A key that fits is no arrow. -/
theorem Fits.isMove (h : Fits t k) : k.isMove = false := by
  obtain ⟨c, rfl⟩ | rfl | rfl | ⟨rfl, -⟩ := h.cases <;> rfl

/-- Keys that fit are no arrows. -/
theorem Each.plain {typed : List Edit} (h : Each settings Fits t typed) : Plain typed := by
  induction typed generalizing t with
  | nil => exact nofun
  | cons k typed ih => exact List.forall_mem_cons.2 ⟨h.1.isMove, ih h.2⟩

/-- A tab stays a tab unless it is expanded, which never gives a single tab. -/
theorem tabBehind_eq_iff (column : Nat) :
    settings.tabBehind column = ['\t'] ↔ settings.expandTab = false := by
  rw [Settings.tabBehind]
  constructor
  · intro h
    by_contra hexpand
    rw [Bool.not_eq_false] at hexpand
    rw [if_pos hexpand] at h
    -- a tab is not among spaces
    have htab : '\t' ∈ spaces (max settings.tabWidth 1 - column % max settings.tabWidth 1) := by
      rw [h]
      exact List.mem_singleton_self _
    exact absurd (List.eq_of_mem_replicate htab) (by decide)
  · intro h
    rw [h]
    rfl

/-- A key leaves what the register takes it for if and only if it does what the register takes it
for. -/
theorem leave_eq_note_iff (hk : Fits t k) :
    leave settings t k = note t k ↔ Mirrored settings t k := by
  obtain ⟨c, rfl⟩ | rfl | rfl | ⟨rfl, ht⟩ := hk.cases
  · exact iff_of_true rfl trivial
  · exact iff_of_true rfl trivial
  · show t ++ _ = t ++ _ ↔ settings.expandTab = false
    rw [List.append_cancel_left_eq]
    exact tabBehind_eq_iff _
  · have hlength := congrArg List.length (rdrop_backspaced ht)
    have hpos := List.length_pos_iff.2 ht
    rw [List.length_append] at hlength
    show t.rdrop _ = t.dropLast ↔ (backspaced t).length = 1
    constructor
    · intro heq
      rw [heq, List.length_dropLast] at hlength
      omega
    · intro hone
      rw [hone, List.rdrop, List.dropLast_eq_take]

/-- Keys that all do what the register takes them for leave what the register holds. -/
theorem Each.left_eq {typed : List Edit} (hfits : Each settings Fits t typed)
    (hmirrored : Each settings (Mirrored settings) t typed) :
    typed.foldl (leave settings) t = typed.foldl note t := by
  induction typed generalizing t with
  | nil => rfl
  | cons k typed ih =>
    have hk := (leave_eq_note_iff hfits.1).2 hmirrored.1
    have hlater := ih hfits.2 hmirrored.2
    rw [List.foldl_cons, List.foldl_cons, hlater, hk]

/-! ### Characters that stand alone -/

/-- Every character stands alone or is a line break. -/
def Loose (t : Text) : Prop :=
  ∀ c ∈ t, c ≠ '\n' → (Unicode.graphemeBreak c).isAlone = true

/-- The last line holds such characters only. -/
theorem Loose.lastLine (h : Loose t) : Alone (lastLine t) := by
  obtain ⟨front, l, hrows⟩ := exists_splitLines_eq t
  obtain ⟨-, hl, rfl⟩ := splitLines_eq_concat_iff.1 hrows
  rw [lastLine_eq hrows]
  exact fun c hc => h c (List.mem_append_right _ hc) fun hbreak => hl (hbreak ▸ hc)

/-- Texts of such characters have them together. -/
theorem Loose.append {s : Text} (h : Loose t) (hs : Loose s) : Loose (t ++ s) := fun c hc =>
  (List.mem_append.1 hc).elim (h c) (hs c)

/-- A key that types such characters leaves a text of them. -/
theorem Loose.leave (h : Loose t) (hexpand : settings.expandTab = false)
    (hk : ∀ c, k = .insertChar c → (Unicode.graphemeBreak c).isAlone = true) :
    Loose (leave settings t k) := by
  cases k with
  | insertChar c => exact h.append fun d hd _ => List.mem_singleton.1 hd ▸ hk c rfl
  | newline => exact h.append fun d hd hbreak => absurd (List.mem_singleton.1 hd) hbreak
  | tab =>
    refine h.append fun d hd _ => ?_
    rw [Settings.tabBehind, if_neg (by rw [hexpand]; decide)] at hd
    rw [List.mem_singleton.1 hd]
    decide
  | backspace => exact fun c hc => h c (List.mem_of_mem_take hc)
  | deleteUnder => exact h
  | move direction => exact h

/-- Characters that stand alone are taken back one by one. -/
theorem Loose.mirrored (h : Loose t) (hexpand : settings.expandTab = false) :
    Mirrored settings t k := by
  cases k with
  | tab => exact hexpand
  | backspace =>
    show (backspaced t).length = 1
    rw [backspaced, clusters_of_alone h.lastLine]
    rcases List.eq_nil_or_concat (ModalEditor.lastLine t) with hnil | ⟨l, c, hconcat⟩
    · rw [hnil]
      rfl
    · rw [hconcat, List.concat_eq_append, List.map_append, List.map_singleton, List.getLastD_concat]
      rfl
  | _ => trivial

/-- Where tabs are typed as such and characters stand alone, every key does what the register takes
it for. -/
theorem Loose.each_mirrored (h : Loose t) (hexpand : settings.expandTab = false) {typed : List Edit}
    (htyped : ∀ c, .insertChar c ∈ typed → (Unicode.graphemeBreak c).isAlone = true) :
    Each settings (Mirrored settings) t typed := by
  induction typed generalizing t with
  | nil => trivial
  | cons k typed ih =>
    have hnext := h.leave hexpand fun c hk => htyped c (hk ▸ List.mem_cons_self)
    exact ⟨h.mirrored hexpand, ih hnext fun c hc => htyped c (List.mem_cons_of_mem _ hc)⟩

end Edit

/-! ## The document -/

namespace Snapshot

/-- The cursor is at the end of the line `l`, between the lines `before` and `behind`. -/
structure AtLineEnd (s : Snapshot) (before : List Text) (l : Text) (behind : List Text) : Prop where
  lines : s.buffer.lines = before ++ l :: behind
  cursor : s.cursor = ⟨before.length, byteSize l⟩

/-- A text is typed behind the lines `above`, and the cursor is at its end. -/
def Typed (s : Snapshot) (above : List Text) (t : Text) (below : List Text) : Prop :=
  ∃ front l, splitLines t = front ++ [l] ∧ s.AtLineEnd (above ++ front) l below

namespace AtLineEnd

variable {s : Snapshot} {before behind : List Text} {l : Text} (h : s.AtLineEnd before l behind)
include h

/-- The line of the cursor is the one that the text ends with. -/
theorem line : s.line = l := by
  rw [Snapshot.line, h.cursor]
  exact Buffer.line_eq_of_lines h.lines

/-- It is a line. -/
theorem isLine : IsLine l :=
  s.buffer.isLine l (by rw [h.lines]; simp)

/-- The cursor is on a row of the text. -/
theorem row : s.cursor.row < s.buffer.lineCount := by
  rw [h.cursor, Buffer.lineCount, h.lines, List.length_append, List.length_cons]
  exact Nat.lt_add_of_pos_right (Nat.succ_pos _)

/-- The cursor is between clusters, at the end of its line. -/
theorem parted : s.Parted := by
  have hend : Parts (clusters s.line) s.cursor.col := by
    rw [h.line, h.cursor]
    exact parts_byteSize l
  exact Buffer.clamp_of_parts h.row hend

/-- Another line may be written, with the cursor at its end. -/
theorem withLine {new : Text} (hnew : IsLine new) :
    (s.withLine (new, byteSize new)).AtLineEnd before new behind := by
  refine ⟨?_, ?_⟩
  · show (s.buffer.setLine s.cursor.row new).lines = _
    rw [Buffer.lines_setLine _ _ hnew, h.lines, h.cursor]
    simp
  · show (⟨s.cursor.row, byteSize new⟩ : Position) = _
    rw [h.cursor]

end AtLineEnd

end Snapshot

namespace Document

variable {d : Document} {before behind : List Text}

/-- Text without breaks goes on with the line. -/
theorem atLineEnd_insertLine {l s : Text} (h : d.snapshot.AtLineEnd before l behind)
    (hs : IsLine s) (hne : s ≠ []) :
    (d.insertText s).snapshot.AtLineEnd before (l ++ s) behind := by
  have hcol : d.cursor.col = byteSize l := congrArg (·.col) h.cursor
  rw [snapshot_insertLine h.parted hs hne, h.line, hcol, takeBytes_byteSize, dropBytes_byteSize,
    List.append_nil, ← byteSize_append]
  exact h.withLine (isLine_append h.isLine hs)

/-- A line break ends the line, and the next one begins empty. -/
theorem atLineEnd_insertBreak {l : Text} (h : d.snapshot.AtLineEnd before l behind) :
    (d.insertText ['\n']).snapshot.AtLineEnd (before ++ [l]) [] behind := by
  have hcursor : d.cursor = ⟨before.length, byteSize l⟩ := h.cursor
  have hrows : d.buffer.lines = before ++ l :: behind := h.lines
  have hline : d.buffer.line before.length = l := Buffer.line_eq_of_lines hrows
  have hrow : before.length < d.buffer.lineCount := by
    have hinside := h.row
    rwa [h.cursor] at hinside
  have hend : Parts (clusters (d.buffer.line before.length)) (byteSize l) := by
    rw [hline]
    exact parts_byteSize l
  obtain ⟨hlines, hplace⟩ := Buffer.insert_break hrow hend
  rw [hline, takeBytes_byteSize, dropBytes_byteSize, hrows] at hlines
  rw [snapshot_insertText d (List.cons_ne_nil _ _), hcursor, hplace]
  refine ⟨hlines.trans ?_, ?_⟩
  · simp
  · rw [List.length_append]
    rfl

/-- A cluster at the end is erased. -/
theorem atLineEnd_eraseBackward {u s : Text} (h : d.snapshot.AtLineEnd before (u ++ s) behind)
    (hs : clusters (u ++ s) = clusters u ++ [s]) :
    d.eraseBackward.snapshot.AtLineEnd before u behind := by
  have hcol : d.cursor.col = byteSize (u ++ s) := congrArg (·.col) h.cursor
  have hne : s ≠ [] := clusters_ne_nil (t := u ++ s) (by rw [hs]; simp)
  have hpos : 0 < d.cursor.col := by
    have hsize := byteSize_pos hne
    rw [hcol, byteSize_append]
    omega
  have hback := (takeBack_append_iff hne).2 hs
  rw [← byteSize_append] at hback
  have hadded : ∀ old ∈ (none : Option Cluster), IsLine old := nofun
  have hunwrite := snapshot_unwrite h.parted hadded
  rw [eraseBackward, if_pos hpos]
  refine hunwrite ▸ ?_
  rw [h.line, hcol, hback]
  exact h.withLine fun hm => h.isLine (List.mem_append_left _ hm)

/-- A break at the end is erased, and the line before goes on. -/
theorem atLineEnd_eraseBackward_break {m : Text}
    (h : d.snapshot.AtLineEnd (before ++ [m]) [] behind) :
    d.eraseBackward.snapshot.AtLineEnd before m behind := by
  have hcursor : d.cursor = ⟨before.length + 1, 0⟩ := by
    have hplace := h.cursor
    rwa [List.length_append] at hplace
  have hlines : d.buffer.lines = before ++ m :: [] :: behind :=
    h.lines.trans (List.append_assoc _ _ _)
  have hsize : d.buffer.lineSize before.length = byteSize m := by
    rw [Buffer.lineSize, Buffer.line_eq_of_lines hlines]
  have hjoined := Buffer.remove_break hlines
  rw [List.append_nil] at hjoined
  rw [eraseBackward, hcursor, if_neg (Nat.lt_irrefl 0), if_pos (Nat.succ_pos _), eraseBreakBefore,
    snapshot_erase, Nat.add_sub_cancel]
  -- the cursor goes to the end of the line before, which has not changed
  have hrow : before.length < (d.buffer.remove ⟨before.length, d.buffer.lineSize before.length⟩
      ⟨before.length + 1, 0⟩).1.lineCount := by
    rw [Buffer.lineCount, hjoined, List.length_append]
    exact Nat.lt_add_of_pos_right (Nat.succ_pos _)
  refine ⟨hjoined, (Buffer.clamp_of_parts hrow ?_).trans (by rw [hsize])⟩
  rw [Buffer.line_eq_of_lines hjoined, hsize]
  exact parts_byteSize m

end Document

namespace Snapshot

variable {d : Document} {above below : List Text} {t : Text}

/-- Typing begins on an empty line. -/
theorem typed_of_empty {d : Document} (h : d.Placed) (hempty : d.line d.cursor.row = []) :
    d.snapshot.Typed (d.buffer.lines.take d.cursor.row) []
      (d.buffer.lines.drop (d.cursor.row + 1)) := by
  have hlines := Buffer.lines_eq_append h.row
  have hline : d.buffer.line d.cursor.row = [] := hempty
  have hcol : d.cursor.col ≤ 0 := by
    have hle := h.col
    rwa [Buffer.lineSize, hline] at hle
  rw [hline] at hlines
  refine ⟨[], [], rfl, ?_, ?_⟩
  · rw [List.append_nil]
    exact hlines
  · rw [List.append_nil, List.length_take_of_le (Nat.le_of_lt h.row)]
    exact congrArg (Position.mk d.cursor.row) (Nat.le_zero.1 hcol)

/-- Text without breaks goes on with what was typed. -/
theorem Typed.insertLine (h : d.snapshot.Typed above t below) {s : Text} (hs : IsLine s)
    (hne : s ≠ []) : (d.insertText s).snapshot.Typed above (t ++ s) below := by
  obtain ⟨front, l, hrows, hend⟩ := h
  exact ⟨front, l ++ s, splitLines_append_line hrows hs, Document.atLineEnd_insertLine hend hs hne⟩

/-- A line break goes on with what was typed. -/
theorem Typed.insertBreak (h : d.snapshot.Typed above t below) :
    (d.insertText ['\n']).snapshot.Typed above (t ++ ['\n']) below := by
  obtain ⟨front, l, hrows, hend⟩ := h
  refine ⟨front ++ [l], [], ?_, ?_⟩
  · rw [splitLines_append_cons_break, hrows]
    rfl
  · rw [← List.append_assoc]
    exact Document.atLineEnd_insertBreak hend

/-- The backspace takes back the last cluster, or the last break, of what was typed. -/
theorem Typed.eraseBackward (h : d.snapshot.Typed above t below) (ht : t ≠ []) :
    d.eraseBackward.snapshot.Typed above (t.rdrop (backspaced t).length) below := by
  obtain ⟨front, l, hrows, hend⟩ := h
  rcases backspaced_cases ht with ⟨front', u, s, hrows', hs, hback⟩ | ⟨front', m, hrows', hback⟩
  · obtain ⟨rfl, hl⟩ := List.append_inj' (hrows.symm.trans hrows') rfl
    obtain rfl := List.head_eq_of_cons_eq hl
    rw [hback]
    exact ⟨front, u, (splitLines_rdrop hrows).1, Document.atLineEnd_eraseBackward hend hs⟩
  · obtain ⟨rfl, hl⟩ := List.append_inj' (hrows.symm.trans hrows') rfl
    obtain rfl := List.head_eq_of_cons_eq hl
    rw [hback]
    rw [← List.append_assoc] at hend
    exact ⟨front', m, (splitLines_rdrop_break hrows).1, Document.atLineEnd_eraseBackward_break hend⟩

/-- The cursor is between clusters behind what was typed. -/
theorem Typed.parted {s : Snapshot} (h : s.Typed above t below) : s.Parted := by
  obtain ⟨front, l, -, hend⟩ := h
  exact hend.parted

/-- The text that is typed stands in the text of the document, and the cursor is behind it. -/
theorem Typed.standsAt (h : d.snapshot.Typed above t below) :
    d.StandsAt (above.flatMap (· ++ ['\n']) ++ t ++ joinLines ([] :: below))
      ((above.flatMap (· ++ ['\n'])).length + t.length) := by
  obtain ⟨front, l, hrows, hend⟩ := h
  have hlines : d.buffer.lines = above ++ splitLines t ++ below := by
    rw [hrows, ← List.append_assoc, List.append_assoc]
    exact hend.lines
  have hcursor : d.cursor = ⟨(above ++ front).length, byteSize l⟩ := hend.cursor
  refine ⟨?_, ?_, ?_⟩
  · rw [Buffer.text, hlines, joinLines_splitLines_append]
  · have hparted : d.buffer.clamp d.cursor = d.cursor := hend.parted
    have hinside := d.buffer.inside_clamp d.cursor
    rwa [hparted] at hinside
  · have hlast : d.buffer.line (above ++ front).length = l := Buffer.line_eq_of_lines hend.lines
    have hbefore : d.buffer.lines.take (above ++ front).length = above ++ front := by
      rw [show d.buffer.lines = _ from hend.lines, List.take_left]
    rw [hcursor, Buffer.textBefore, Buffer.lineBefore, hlast, hbefore, takeBytes_byteSize,
      (splitLines_eq_concat_iff.1 hrows).2.2, List.flatMap_append, List.append_assoc,
      List.length_append]

end Snapshot

/-! ## Keys that are typed -/

namespace Editor

variable {e : Editor} {above below : List Text} {t : Text}

/-- How wide a tab is depends on the line in front of it. -/
theorem tabText_eq {l : Text} {before behind : List Text}
    (h : e.document.snapshot.AtLineEnd before l behind) :
    e.tabText = e.settings.tabBehind (lineWidth l) := by
  have hcol : e.document.cursor.col = byteSize l := congrArg (·.col) h.cursor
  have hline : e.document.line e.document.cursor.row = l := h.line
  rw [lineWidth, ← hcol, ← hline]
  rfl

/-- One key. -/
theorem typed_typeEdit (hmode : e.mode ≠ .replace) (h : e.document.snapshot.Typed above t below)
    {k : Edit} (hk : k.Fits t) :
    (e.typeEdit k).document.snapshot.Typed above (k.leave e.settings t) below := by
  have htext (s : Text) : (e.typeText s).document = e.document.insertText s := by
    rw [typeText, if_neg hmode]
    rfl
  rw [document_typeEdit]
  -- one case for each kind of key that fits, with the operation that it stands for
  obtain ⟨c, rfl⟩ | rfl | rfl | ⟨rfl, ht⟩ := hk.cases
  · rw [show e.applyEdit (.insertChar c) = e.typeText [c] from rfl, htext]
    by_cases hc : c = '\n'
    · subst hc
      exact h.insertBreak
    · exact h.insertLine (fun hm => hc (List.mem_singleton.1 hm).symm) (List.cons_ne_nil c [])
  · have hbreak : (e.applyEdit .newline).document = e.document.insertText ['\n'] := by
      show e.breakLine.document = _
      rw [breakLine]
      exact congrArg Editor.document (if_neg hmode)
    rw [hbreak]
    exact h.insertBreak
  · rw [show e.applyEdit .tab = e.typeText e.tabText from rfl, htext]
    -- the line in front of the tab is the last one of the text
    obtain ⟨front, l, hrows, hend⟩ := id h
    rw [Edit.leave, lastLine_eq hrows, ← tabText_eq hend]
    exact h.insertLine e.alone_tabText.isLine e.tabText_ne_nil
  · have hback : (e.applyEdit .backspace).document = e.document.eraseBackward := by
      show e.backspace.document = _
      rw [backspace, if_neg hmode]
      rfl
    rw [hback]
    exact h.eraseBackward ht

/-- All keys, one after the other. -/
theorem typed_foldl (hmode : e.mode ≠ .replace) (h : e.document.snapshot.Typed above t below)
    {typed : List Edit} (hfits : Edit.Each e.settings Edit.Fits t typed) :
    (typed.foldl typeEdit e).document.snapshot.Typed above
      (typed.foldl (Edit.leave e.settings) t) below := by
  induction typed generalizing e t with
  | nil => exact h
  | cons k typed ih =>
    obtain ⟨hk, hlater⟩ := hfits
    have hnext := typed_typeEdit hmode h hk
    obtain ⟨d, g, hafter⟩ := afterKeys_typeEdit e hk.isMove
    have hmode' : (e.typeEdit k).mode ≠ .replace := by rwa [hafter]
    have hsettings : (e.typeEdit k).settings = e.settings := by rw [hafter]
    rw [← hsettings] at hnext hlater
    have hrun := ih hmode' hnext hlater
    rwa [hsettings] at hrun

end Editor

end ModalEditor
