import ModalEditor.Proofs.Document.Cut
import ModalEditor.Proofs.Editor.Effect
import ModalEditor.Proofs.TextObject.Unit

/-!
# The rows of a range are in order

Whole rows that an operator or a selection stands for run from one row to that row or to a later
one, or begin below the text (`Resolves.inOrder`). A motion and a selection bound them by two places
in order. A paragraph is made of units that follow on each other, each with a row at least, so
that what is taken of them ends behind the row on which it begins (`spanIn_lt`).
-/

namespace ModalEditor

/-! ## Units -/

namespace TextUnit

/-- The units are not empty, and each ends behind the beginning of those in front of it. -/
structure Ascending (us : List TextUnit) : Prop where
  unit : ∀ u ∈ us, u.first < u.past
  pairwise : us.Pairwise fun u v => u.first < v.past

/-- No units, nothing to order. -/
theorem ascending_nil : Ascending [] :=
  ⟨nofun, .nil⟩

/-- A unit before others that all end after it starts. -/
theorem Ascending.cons {u : TextUnit} {us : List TextUnit} (hus : Ascending us)
    (hu : u.first < u.past) (hlater : ∀ v ∈ us, u.first < v.past) : Ascending (u :: us) :=
  ⟨List.forall_mem_cons.2 ⟨hu, hus.unit⟩, List.pairwise_cons.2 ⟨hlater, hus.pairwise⟩⟩

/-- What follows the first unit is in order as well. -/
theorem Ascending.tail {u : TextUnit} {us : List TextUnit} (h : Ascending (u :: us)) :
    Ascending us :=
  ⟨(List.forall_mem_cons.1 h.unit).2, (List.pairwise_cons.1 h.pairwise).2⟩

/-- The first unit starts before any of them ends. -/
theorem Ascending.first_lt {u v : TextUnit} {us : List TextUnit} (h : Ascending (u :: us))
    (hv : v ∈ u :: us) : u.first < v.past := by
  rcases List.mem_cons.1 hv with rfl | hv
  · exact h.unit v List.mem_cons_self
  · exact (List.pairwise_cons.1 h.pairwise).1 v hv

/-! ### Choosing units -/

/-- A pair taken and what is left are the units again. -/
theorem takePair_append (fromBlank : Bool) (us : List TextUnit) :
    (takePair fromBlank us).1 ++ (takePair fromBlank us).2 = us := by
  match us with
  | [] => rfl
  | [u] => rfl
  | u :: v :: later =>
    rw [takePair]
    generalize (if fromBlank then u.blank else v.blank) = paired
    cases paired <;> rfl

/-- Pairs taken from units are made of these units. -/
theorem mem_of_mem_takePairs {fromBlank : Bool} {n : Nat} {us : List TextUnit} {v : TextUnit}
    (hv : v ∈ takePairs fromBlank n us) : v ∈ us := by
  induction n generalizing us with
  | zero => cases hv
  | succ n ih =>
    rw [← takePair_append fromBlank us]
    rw [takePairs] at hv
    split at hv
    · cases hv
    · rename_i pair later _ heq
      rw [heq]
      exact (List.mem_append.1 hv).elim (List.mem_append_left _) fun hv =>
        List.mem_append_right _ (ih hv)

/-- What begins with a unit ends behind its beginning, whichever of the units it takes in. -/
theorem spanTo_lt {u : TextUnit} {us taken : List TextUnit} (h : Ascending (u :: us))
    (htaken : ∀ v ∈ taken, v ∈ u :: us) : (spanTo u taken).1 < (spanTo u taken).2 := by
  have hlast : taken.getLast?.getD u ∈ u :: us := by
    cases hl : taken.getLast? with
    | none => exact List.mem_cons_self
    | some v => exact htaken v (List.mem_of_getLast? hl)
  exact h.first_lt hlast

/-- Whatever is chosen from a unit on, the span is not empty. -/
theorem spanFrom_lt {before : Option TextUnit} {u : TextUnit} {later : List TextUnit}
    (h : Ascending (before.toList ++ u :: later)) (n : Nat) (inner : Bool) :
    (spanFrom before u later n inner).1 < (spanFrom before u later n inner).2 := by
  have hunits : Ascending (u :: later) := by
    cases before with
    | none => exact h
    | some b => exact h.tail
  unfold spanFrom
  split
  · exact spanTo_lt hunits fun v hv => List.mem_of_mem_take hv
  · have htaken : ∀ v ∈ takePairs u.blank n (u :: later), v ∈ u :: later :=
      fun v hv => mem_of_mem_takePairs hv
    simp only
    split
    · split
      · exact spanTo_lt h fun v hv => List.mem_cons_of_mem _ (htaken v hv)
      · exact spanTo_lt hunits htaken
    · exact spanTo_lt hunits htaken

/-- The unit under the cursor is looked for from the left; the units passed stay available as the one
before. -/
theorem spanIn_lt {at_ n : Nat} {inner : Bool} {before : Option TextUnit} {us : List TextUnit}
    (h : Ascending (before.toList ++ us)) {span : Nat × Nat}
    (hspan : spanIn at_ n inner before us = some span) : span.1 < span.2 := by
  induction us generalizing before with
  | nil => cases hspan
  | cons u us ih =>
    cases us with
    | nil => exact Option.some.inj hspan ▸ spanFrom_lt h n inner
    | cons v later =>
      rw [spanIn] at hspan
      split at hspan
      · exact Option.some.inj hspan ▸ spanFrom_lt h n inner
      · refine ih ?_ hspan
        cases before with
        | none => exact h
        | some b => exact h.tail

/-! ### Units without gaps -/

/-- A unit begins where those in front of it end, or later. -/
theorem Tiles.le_first {first past : Nat} {us : List TextUnit} (h : Tiles first us past)
    {u : TextUnit} (hu : u ∈ us) : first ≤ u.first ∧ u.first < u.past := by
  induction us generalizing first with
  | nil => exact absurd hu List.not_mem_nil
  | cons v us ih =>
    obtain ⟨rfl, hlt, hrest⟩ := h
    rcases List.mem_cons.1 hu with rfl | hu
    · exact ⟨Nat.le_refl _, hlt⟩
    · obtain ⟨hle, hunit⟩ := ih hrest hu
      exact ⟨Nat.le_trans (Nat.le_of_lt hlt) hle, hunit⟩

/-- Units that tile a stretch are in ascending order. -/
theorem Tiles.ascending {first past : Nat} {us : List TextUnit} (h : Tiles first us past) :
    Ascending us := by
  induction us generalizing first with
  | nil => exact ascending_nil
  | cons u us ih =>
    obtain ⟨-, hlt, hrest⟩ := h
    refine (ih hrest).cons hlt fun v hv => ?_
    obtain ⟨hle, hunit⟩ := hrest.le_first hv
    omega

/-- A paragraph has a row at least. -/
theorem span_paragraphs_lt {b : Buffer} {at_ n : Nat} {inner : Bool} {span : Nat × Nat}
    (hspan : TextUnit.span (paragraphs b) at_ n inner = some span) : span.1 < span.2 := by
  have hunits : Ascending (paragraphs b) := (tiles_paragraphs b).ascending
  have hin : spanIn at_ n inner none (paragraphs b) = some span := hspan
  exact spanIn_lt hunits hin

end TextUnit

/-! ## Text objects -/

/-- An object is a run of characters, or it is made of rows that are in order. -/
theorem TextObject.range?_cases {o : TextObject} {b : Buffer} {cursor : Position} {n : Nat}
    {range : TextRange} (hrange : o.range? b cursor n = some range) :
    (∃ first past, range = .chars first past) ∨
      ∃ first last, range = .lines first last ∧ first ≤ last := by
  -- what is found in one row is not made of rows
  have hrow {find : Text → Option (Nat × Nat)} (h : (do
      let l ← b.line? cursor.row
      return rowRange cursor.row (← find l)) = some range) :
      ∃ first past, range = .chars first past := by
    simp only [Option.bind_eq_bind, Option.bind_eq_some_iff] at h
    obtain ⟨l, -, offsets, -, h⟩ := h
    cases h
    exact ⟨_, _, rfl⟩
  obtain ⟨kind, inner⟩ := o
  cases kind with
  | word big => exact .inl (hrow hrange)
  | sentence => exact .inl (hrow hrange)
  | paragraph =>
    simp only [range?, Option.bind_eq_bind, Option.bind_eq_some_iff] at hrange
    obtain ⟨⟨first, past⟩, hspan, hrange⟩ := hrange
    cases hrange
    have hlt : first < past := TextUnit.span_paragraphs_lt hspan
    exact .inr ⟨_, _, rfl, Nat.le_sub_one_of_lt hlt⟩
  | quote mark => exact .inl (hrow hrange)
  | bracket opening closing =>
    obtain ⟨⟨first, last⟩, -, rfl⟩ := Option.map_eq_some_iff.1 hrange
    simp only
    split
    · exact .inl ⟨_, _, rfl⟩
    · split
      · rename_i hrows
        exact .inr ⟨_, _, rfl, Nat.le_sub_one_of_lt hrows.2.2⟩
      · exact .inl ⟨_, _, rfl⟩

/-- Resolving a text object fails in the one way there is: it covers nothing. -/
theorem TextObject.resolve_eq_ok_iff {o : TextObject} {b : Buffer} {cursor : Position} {n : Nat}
    {range : TextRange} : o.resolve b cursor n = .ok range ↔ o.range? b cursor n = some range := by
  unfold resolve
  cases o.range? b cursor n with
  | some range => simp only [Except.ok.injEq, Option.some.injEq]
  | none => exact iff_of_false (by rintro ⟨⟩) (by rintro ⟨⟩)

/-- What a text object covers runs forward. -/
theorem TextObject.inOrder_resolve {o : TextObject} {b : Buffer} {cursor : Position} {n : Nat}
    {range : TextRange} (hrange : o.resolve b cursor n = .ok range) : range.InOrder b := by
  rcases range?_cases (resolve_eq_ok_iff.1 hrange) with ⟨_, _, rfl⟩ | ⟨_, _, rfl, hle⟩
  · trivial
  · exact .inl hle

/-! ## Motions -/

namespace Span

/-- An exclusive span runs forward whatever its two ends are. -/
theorem inOrder_exclusive (b : Buffer) (first past : Position) :
    (exclusive b first past).InOrder b := by
  unfold exclusive
  split
  · rename_i hbreak
    split
    · exact .inl (by omega)
    · trivial
  · trivial

/-- The span of `cw` runs forward. -/
theorem inOrder_changeWords {b : Buffer} {p : Position} {n : Nat} {big : Bool} {range : TextRange}
    (hrange : changeWords b p n big = some range) : range.InOrder b := by
  simp only [changeWords] at hrange
  split at hrange
  · cases hrange
  · cases hrange
  · cases hrange; trivial

/-- The rows of two places in order. -/
theorem min_row_le_max_row (p q : Position) : (min p q).row ≤ (max p q).row := by
  show (if q < p then q else p).row ≤ (if q < p then p else q).row
  split
  · rename_i hlt
    exact Position.row_le_of_lt hlt
  · rename_i hnot
    exact Position.row_le_of_not_lt hnot

/-- Whatever lies between the cursor and a place runs forward, for each shape of motion. -/
theorem inOrder_between {d : Document} {m : Motion} {count : Option Nat} {lastFind : Option Find}
    {place : Position} {range : TextRange}
    (hrange : between d m count lastFind place = .ok range) : range.InOrder d.buffer := by
  simp only [between] at hrange
  split at hrange
  -- linewise
  · cases hrange
    exact .inl (min_row_le_max_row d.cursor place)
  -- inclusive
  · cases hrange
    trivial
  -- exclusive, with the rule for the last of several words
  · split at hrange
    · cases hstop : wordStop d m count lastFind with
      | error reason => rw [hstop] at hrange; cases hrange
      | ok past =>
        rw [hstop] at hrange
        cases hrange
        exact inOrder_exclusive _ _ _
    · cases hrange
      exact inOrder_exclusive _ _ _

/-- The range of an operator with a motion runs forward. -/
theorem inOrder_resolve {d : Document} {op : Operator} {m : Motion} {count : Option Nat}
    {lastFind : Option Find} {range : TextRange}
    (hrange : resolve d op m count lastFind = .ok range) : range.InOrder d.buffer := by
  simp only [resolve] at hrange
  split at hrange
  · rename_i range' hchanged
    cases hrange
    split at hchanged
    · exact inOrder_changeWords hchanged
    · cases hchanged
  · split at hrange
    · exact inOrder_between hrange
    · cases hrange

end Span

/-! ## Selections -/

namespace Selection

/-- A selection's first row is not after its last. -/
theorem bounds_row (s : Selection) : s.bounds.1.row ≤ s.bounds.2.row := by
  unfold bounds
  split
  · rename_i hlt
    exact Position.row_le_of_lt hlt
  · rename_i hnot
    exact Position.row_le_of_not_lt hnot

/-- A resolved selection covers rows in order. -/
theorem resolve_rows (s : Selection) (b : Buffer) :
    (s.resolve b).rows.1 ≤ (s.resolve b).rows.2 := by
  have hrow := s.bounds_row
  unfold resolve
  cases s.kind with
  | line => exact hrow
  | char =>
    have hclamp : (b.clamp s.bounds.1).row ≤ (b.clamp s.bounds.2).row := by
      simp only [Buffer.clamp]
      omega
    simp only
    split
    · exact Nat.le_succ_of_le hclamp
    · exact hclamp
  | block => exact hrow

end Selection

/-- A range whose rows are in order runs forward. -/
theorem TextRange.inOrder_of_rows {b : Buffer} {range : TextRange}
    (h : range.rows.1 ≤ range.rows.2) : range.InOrder b := by
  cases range with
  | lines first last => exact .inl h
  | chars first past => trivial
  | block top bottom left right => trivial

/-- Widening a selection keeps its rows in order. -/
theorem TextRange.inOrder_widen {b : Buffer} {range : TextRange}
    (h : range.rows.1 ≤ range.rows.2) (d : Document) (extent : VisualExtent) :
    (range.widen d extent).InOrder b := by
  cases extent with
  | selection => exact inOrder_of_rows h
  | lines => exact .inl h
  | toLineEnd =>
    cases range with
    | lines first last => exact .inl h
    | chars first past => exact .inl h
    | block top bottom left right => trivial

/-! ## Operators -/

/-- A range of the buffer that an operator acts on, with its target or with a selection. -/
inductive Buffer.Resolves (b : Buffer) : TextRange → Prop
  /-- The target of an operator, in some editor. -/
  | target {e e' : Editor} {op : Operator} {target : OperatorTarget} {count : Option Nat}
      {range : TextRange} (hbuffer : e.document.buffer = b)
      (hrange : EditorM.resolveTarget op target count e = .ok range e') : Resolves b range
  /-- A selection, or as far beyond it as the operator reaches. -/
  | selection {d : Document} (hbuffer : d.buffer = b) (s : Selection) (extent : VisualExtent) :
      Resolves b ((s.resolve b).widen d extent)

namespace EditorM

/-- Whatever an operator resolves to runs forward in the buffer it was resolved in. -/
theorem ensures_resolveTarget_inOrder (op : Operator) (target : OperatorTarget)
    (count : Option Nat) (e : Editor) :
    Ensures (resolveTarget op target count) e
      (fun range _ => range.InOrder e.document.buffer) fun _ => True := by
  cases target with
  | motion m =>
    refine ensures_bind.2 (ensures_noteFind m fun lastFind => ?_)
    refine ensures_bind.2 (ensures_get.2 (ensures_ofExcept.2 ?_))
    split
    · rename_i range heq; exact Span.inOrder_resolve heq
    · trivial
  | lines =>
    -- below the last row the lines that are asked for are none
    show e.document.cursor.row ≤
        min (e.document.cursor.row + max (count.getD 1) 1 - 1) e.document.buffer.lastRow ∨
      e.document.buffer.lastRow < e.document.cursor.row
    omega
  | object o =>
    refine ensures_bind.2 (ensures_get.2 (ensures_ofExcept.2 ?_))
    split
    · rename_i range heq; exact TextObject.inOrder_resolve heq
    · trivial

end EditorM

/-- A range that resolves runs forward. -/
theorem Buffer.Resolves.inOrder {b : Buffer} {range : TextRange} (h : b.Resolves range) :
    range.InOrder b := by
  cases h with
  | @target e e' op target count _ hbuffer hrange =>
    have hensures := EditorM.ensures_resolveTarget_inOrder op target count e
    rw [EditorM.Ensures, hrange, hbuffer] at hensures
    exact hensures
  | selection hbuffer s extent => exact TextRange.inOrder_widen (s.resolve_rows b) _ extent

end ModalEditor
