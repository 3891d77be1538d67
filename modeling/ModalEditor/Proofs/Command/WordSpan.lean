import Mathlib.Data.Set.Card
import ModalEditor.Command.Span
import ModalEditor.Proofs.Motion.Word

/-!
# Words under an operator

An operator over words takes the words up to where the motion lands, or up to the end of a row
(`Span.rowStop`). The words behind the cursor are counted by the places at which they begin
(`Buffer.wordsBehind`): as long as there are enough of them, `n` steps go over `n` of them
(`Buffer.lastStep_wordForward`), and in front of the place where a step lands there are the words of
the steps before it (`Buffer.LastStep.count_lt_last`). So the range of an operator takes as many
words as the count says, unless the last step stays in a row that the steps before it have reached
(`Span.resolve_wordForward`).
-/

namespace ModalEditor

namespace Buffer

variable {b : Buffer} {big : Bool} {p : Position}

/-- The places behind `p` at which a word begins. -/
def wordsBehind (b : Buffer) (big : Bool) (p : Position) : Set Position :=
  {r | b.IsWordStart big r ∧ p < r}

/-- A word begins before the end of its row, unless the row is empty. -/
theorem IsWordStart.col_lt (h : b.IsWordStart big p) :
    p.col < b.lineSize p.row ∨ b.lineSize p.row = 0 ∧ p.col = 0 := by
  obtain ⟨l, hl, hbegins⟩ := h
  have hline : b.line p.row = l := by rw [line, hl, Option.getD_some]
  rw [lineSize, hline]
  rcases hbegins with ⟨before, g, behind, hgs, hsize, -⟩ | ⟨rfl, hcol⟩
  · exact .inl (Starts.lt ⟨before, g, behind, hgs, hsize⟩)
  · exact .inr ⟨byteSize_nil, hcol⟩

/-- A motion by words lands in the text. -/
theorem clamp_wordForward (hp : b.clamp p = p) (big : Bool) (n : Nat) :
    b.clamp (b.wordForward p n big) = b.wordForward p n big := by
  rw [wordForward_iterate hp]
  induction n with
  | zero => exact hp
  | succ n ih =>
    rw [Function.iterate_succ_apply']
    exact clamp_of_nearest (wordForward_lands ih big).1 (fun _ h => h.clamp) b.clamp_endPosition

/-- One more word is one more step. -/
theorem wordForward_succ (hp : b.clamp p = p) (big : Bool) (n : Nat) :
    b.wordForward p (n + 1) big = b.wordForward (b.wordForward p n big) 1 big := by
  rw [wordForward_iterate hp, Function.iterate_succ_apply', ← wordForward_iterate hp]

/-- Where there is a further word, the next step goes on to the first of them. -/
theorem wordForward_succ_lands (hp : b.clamp p = p) (n : Nat)
    (hfurther : ∃ r, b.IsWordStart big r ∧ b.wordForward p n big < r) :
    b.IsWordStart big (b.wordForward p (n + 1) big) ∧
      b.wordForward p n big < b.wordForward p (n + 1) big ∧
      ∀ r, b.IsWordStart big r → b.wordForward p n big < r →
        ¬ r < b.wordForward p (n + 1) big := by
  rw [wordForward_succ hp]
  obtain ⟨r, hr, hlt⟩ := hfurther
  rcases (wordForward_lands (clamp_wordForward hp big n) big).1 with hlands | ⟨-, hnone⟩
  · exact hlands
  · exact absurd hlt (hnone r hr)

/-- Where fewer words are passed than there are, there is a further one. -/
theorem exists_wordsBehind_beyond {q : Position} {n : Nat}
    (hcount : {r ∈ b.wordsBehind big p | ¬ q < r}.encard = n)
    (hn : ((n + 1 : ℕ) : ℕ∞) ≤ (b.wordsBehind big p).encard) :
    ∃ r, b.IsWordStart big r ∧ q < r := by
  by_contra hnone
  have hall : {r ∈ b.wordsBehind big p | ¬ q < r} = b.wordsBehind big p :=
    Set.sep_eq_self_iff_mem_true.2 fun r hr hlt => hnone ⟨r, hr.1, hlt⟩
  rw [← hall, hcount, Nat.cast_le] at hn
  omega

/-- The last one of `n + 1` steps over words from `p` on leads from `before` to `last`: the `n` steps
in front of it went over `n` words, and it goes on to the next one. -/
structure LastStep (b : Buffer) (big : Bool) (p before last : Position) (n : Nat) : Prop where
  start : n = 0 ∧ before = p ∨ before ∈ b.wordsBehind big p
  lands : last ∈ b.wordsBehind big p
  lt : before < last
  least : ∀ r, b.IsWordStart big r → before < r → ¬ r < last
  count : {r ∈ b.wordsBehind big p | ¬ before < r}.encard = n

namespace LastStep

variable {before last : Position} {n : Nat} (h : LastStep b big p before last n)
include h

/-- The steps before the last lead to the row of the cursor or to a later one. -/
theorem row_le : p.row ≤ before.row := by
  rcases h.start with ⟨-, hstays⟩ | hbefore
  · rw [hstays]
  · exact Position.row_le_of_lt hbefore.2

/-- In front of the place where the step lands there are the words of the steps before it. -/
theorem count_lt_last : {r ∈ b.wordsBehind big p | r < last}.encard = n := by
  rw [← h.count]
  congr 1
  ext r
  refine and_congr_right fun hr => ⟨fun hlt hbeyond => h.least r hr.1 hbeyond hlt, fun hnot => ?_⟩
  by_contra hge
  -- `r` would be at `last` or behind it, but it is not behind `before`
  by_cases hlt : last < r
  · exact hnot (Position.lt_trans h.lt hlt)
  · exact hnot (Position.eq_of_not_lt hge hlt ▸ h.lt)

/-- With the place where the step lands it is one word more. -/
theorem count_last : {r ∈ b.wordsBehind big p | ¬ last < r}.encard = (n + 1 : ℕ) := by
  have hinsert : {r ∈ b.wordsBehind big p | ¬ last < r} =
      Insert.insert last {r ∈ b.wordsBehind big p | r < last} := by
    ext r
    rw [Set.mem_insert_iff]
    constructor
    · rintro ⟨hr, hnot⟩
      by_cases hlt : r < last
      · exact .inr ⟨hr, hlt⟩
      · exact .inl (Position.eq_of_not_lt hlt hnot)
    · rintro (rfl | ⟨hr, hlt⟩)
      · exact ⟨h.lands, Position.lt_irrefl r⟩
      · exact ⟨hr, Position.lt_asymm hlt⟩
  rw [hinsert, Set.encard_insert_of_notMem fun hmem => Position.lt_irrefl last hmem.2,
    h.count_lt_last, Nat.cast_succ]

end LastStep

/-- As long as there is a further word, one more step can be made. -/
theorem lastStep_of_count (hp : b.clamp p = p) {n : Nat}
    (hstart : n = 0 ∧ b.wordForward p n big = p ∨ b.wordForward p n big ∈ b.wordsBehind big p)
    (hcount : {r ∈ b.wordsBehind big p | ¬ b.wordForward p n big < r}.encard = n)
    (hn : ((n + 1 : ℕ) : ℕ∞) ≤ (b.wordsBehind big p).encard) :
    LastStep b big p (b.wordForward p n big) (b.wordForward p (n + 1) big) n := by
  obtain ⟨hword, hlt, hleast⟩ :=
    wordForward_succ_lands hp n (exists_wordsBehind_beyond hcount hn)
  refine ⟨hstart, ⟨hword, ?_⟩, hlt, hleast, hcount⟩
  rcases hstart with ⟨-, hstays⟩ | hbefore
  · rwa [hstays] at hlt
  · exact Position.lt_trans hbefore.2 hlt

/-- Steps over as many words as there are, at most, go over one word each. -/
theorem lastStep_wordForward (hp : b.clamp p = p) (n : Nat)
    (hn : ((n + 1 : ℕ) : ℕ∞) ≤ (b.wordsBehind big p).encard) :
    LastStep b big p (b.wordForward p n big) (b.wordForward p (n + 1) big) n := by
  induction n with
  | zero =>
    have hstays : b.wordForward p 0 big = p := wordForward_iterate hp big 0
    refine lastStep_of_count hp (.inl ⟨rfl, hstays⟩) ?_ hn
    rw [hstays, Nat.cast_zero, Set.encard_eq_zero, Set.eq_empty_iff_forall_notMem]
    exact fun r hr => hr.2 hr.1.2
  | succ n ih =>
    have h := ih (le_trans (Nat.cast_le.2 (n + 1).le_succ) hn)
    exact lastStep_of_count hp (.inr h.lands) h.count_last hn

end Buffer

namespace Span

open Buffer

/-- The end of a row, or behind the line break of an empty row. -/
def rowStop (b : Buffer) (row : Nat) : Position :=
  if b.lineSize row = 0 then ⟨row + 1, 0⟩ else ⟨row, b.lineSize row⟩

/-- In front of the end of a row are the words that begin in that row or in an earlier one. -/
theorem lt_rowStop_iff {b : Buffer} {big : Bool} {r : Position} (hr : b.IsWordStart big r)
    (row : Nat) : r < rowStop b row ↔ r.row ≤ row := by
  have hcol := hr.col_lt
  rw [rowStop]
  split
  · simp only [Position.lt_def]
    omega
  · rename_i hsize
    simp only [Position.lt_def]
    constructor
    · omega
    · intro hle
      rcases Nat.lt_or_eq_of_le hle with hlt | rfl
      · exact .inl hlt
      · exact .inr ⟨rfl, hcol.resolve_right fun h => hsize h.1⟩

section Range

variable {d : Document} {op : Operator} {big : Bool} {count : Option Nat}
  {lastFind : Option Find}

/-- A motion that moves the cursor lands where the words lead. -/
theorem land_wordForward {n : Nat} (hn : max (count.getD 1) 1 = n)
    (hcursor : d.buffer.clamp d.cursor = d.cursor)
    (hmoved : d.cursor < d.buffer.wordForward d.cursor n big) :
    (Motion.wordForward big).land d count lastFind true =
      .ok { place := d.buffer.wordForward d.cursor n big } := by
  have hne : d.buffer.wordForward d.cursor n big ≠ d.cursor := fun h =>
    Position.lt_irrefl d.cursor (by rwa [h] at hmoved)
  simp only [Motion.land, Motion.landIfMoved, hcursor, hn, if_neg hne]

/-- Across rows an operator takes the words up to the stop, and in a row up to where they lead. -/
theorem between_wordForward {place : Position} (hmoved : d.cursor < place) :
    between d (.wordForward big) count lastFind place =
      if d.cursor.row < place.row then
        (wordStop d (.wordForward big) count lastFind).map (exclusive d.buffer d.cursor)
      else .ok (exclusive d.buffer d.cursor place) := by
  have hmin : min d.cursor place = d.cursor := if_neg (Position.lt_asymm hmoved)
  have hmax : max d.cursor place = place := if_neg (Position.lt_asymm hmoved)
  show (if true = true ∧ d.cursor.row < (max d.cursor place).row then
      (wordStop d (.wordForward big) count lastFind).map
        (exclusive d.buffer (min d.cursor place))
    else .ok (exclusive d.buffer (min d.cursor place) (max d.cursor place))) = _
  rw [hmin, hmax]
  exact if_congr (and_iff_right rfl) rfl rfl

/-- The range of an operator over words ends where the motion lands if that is in the row of the
cursor, and otherwise at the end of the row that the step before the last one has reached. -/
theorem resolve_wordForward_eq (hop : op ≠ .change)
    (hcursor : d.buffer.clamp d.cursor = d.cursor) {n : Nat}
    (hn : max (count.getD 1) 1 = n + 1)
    (h : LastStep d.buffer big d.cursor (d.buffer.wordForward d.cursor n big)
      (d.buffer.wordForward d.cursor (n + 1) big) n) :
    resolve d op (.wordForward big) count lastFind = .ok (exclusive d.buffer d.cursor
      (if d.cursor.row < (d.buffer.wordForward d.cursor (n + 1) big).row then
        rowStop d.buffer (d.buffer.wordForward d.cursor n big).row
      else d.buffer.wordForward d.cursor (n + 1) big)) := by
  have hmoved := h.lands.2
  have hland : (Motion.wordForward big).land d count lastFind true = _ :=
    land_wordForward hn hcursor hmoved
  have hstop : wordStop d (.wordForward big) count lastFind =
      .ok (rowStop d.buffer (d.buffer.wordForward d.cursor n big).row) := by
    -- one word is read from the cursor, and more from where the words before lead
    rw [wordStop, hn]
    cases n with
    | zero =>
      rw [show d.buffer.wordForward d.cursor 0 big = d.cursor from wordForward_iterate hcursor big 0]
      rfl
    | succ n =>
      have hfirst := (h.start.resolve_left fun hzero => Nat.succ_ne_zero n hzero.1).2
      have hbefore : max ((some (n + 1)).getD 1) 1 = n + 1 := Nat.max_eq_left (Nat.succ_pos n)
      -- the words before move the cursor, since a word begins behind it
      simp only [Nat.add_sub_cancel, land_wordForward hbefore hcursor hfirst]
      rfl
  rw [resolve, hland]
  · show between d _ count lastFind (d.buffer.wordForward d.cursor (n + 1) big) = _
    rw [between_wordForward hmoved, hstop]
    split
    · rfl
    · rfl
  · exact fun _ hchange => absurd hchange hop

/-! ## The words that are taken -/

section LastStep

variable {b : Buffer} {p before last : Position} {n : Nat} (h : LastStep b big p before last n)
include h

/-- If the last step crosses into a later row, the words of the steps before it are in front of the
end of the row that it comes from. -/
theorem count_lt_rowStop (hrow : before.row < last.row) :
    {r ∈ b.wordsBehind big p | r < rowStop b before.row}.encard = n := by
  rw [← h.count_lt_last]
  congr 1
  ext r
  refine and_congr_right fun hr => ?_
  rw [lt_rowStop_iff hr.1]
  constructor
  · intro hle
    exact .inl (Nat.lt_of_le_of_lt hle hrow)
  · intro hlt
    exact Position.row_le_of_not_lt fun hbeyond => h.least r hr.1 hbeyond hlt

/-- The word on which it lands is in front of the end of its own row. -/
theorem count_lt_rowStop_last :
    {r ∈ b.wordsBehind big p | r < rowStop b last.row}.encard ≠ n := by
  have hmore : {r ∈ b.wordsBehind big p | ¬ last < r} ⊆
      {r ∈ b.wordsBehind big p | r < rowStop b last.row} := fun r hr =>
    ⟨hr.1, (lt_rowStop_iff hr.1.1 _).2 (Position.row_le_of_not_lt hr.2)⟩
  have hlarger := Set.encard_le_encard hmore
  intro hsame
  rw [h.count_last, hsame, Nat.cast_le] at hlarger
  omega

/-- If it stays in its row, the range up to the end of the row is another one. -/
theorem exclusive_rowStop_ne (hrow : before.row = last.row) :
    exclusive b p (rowStop b last.row) ≠ exclusive b p last := by
  have hcol := h.lands.1.col_lt
  have hpos : before.col < last.col := by
    have hlt := h.lt
    rw [Position.lt_def] at hlt
    omega
  have hsize : b.lineSize last.row ≠ 0 := by omega
  have hlastCol : last.col ≠ 0 := by omega
  simp only [rowStop, exclusive, hsize, hlastCol, and_false, if_false]
  intro heq
  have hend := congrArg Position.col (TextRange.chars.inj heq).2
  simp only at hend
  omega

end LastStep

/-- **Words under an operator.** Let as many words begin behind the cursor as the count says, let
`before` be where all steps but the last one lead, and `last` where all of them do. Of a last step
that crosses into a later row the range should take what belongs to the row it comes from, and
otherwise it should end where the step lands (`due`). It does, and takes in as many words as the
count says, unless the steps before the last one have left the row of the cursor and the last one
stays in its row (`overrun`). -/
theorem resolve_wordForward (hop : op ≠ .change) (hcursor : d.buffer.clamp d.cursor = d.cursor)
    (hwords : ((max (count.getD 1) 1 : ℕ) : ℕ∞) ≤ (d.buffer.wordsBehind big d.cursor).encard)
    (lastFind : Option Find) :
    let n := max (count.getD 1) 1
    let before := d.buffer.wordForward d.cursor (n - 1) big
    let last := d.buffer.wordForward d.cursor n big
    let due := if before.row < last.row then rowStop d.buffer before.row else last
    let stop := if d.cursor.row < last.row then rowStop d.buffer before.row else last
    let overrun := d.cursor.row < before.row ∧ before.row = last.row
    resolve d op (.wordForward big) count lastFind = .ok (exclusive d.buffer d.cursor stop) ∧
      (exclusive d.buffer d.cursor stop = exclusive d.buffer d.cursor due ↔ ¬ overrun) ∧
      ({r ∈ d.buffer.wordsBehind big d.cursor | r < stop}.encard = (n - 1 : ℕ) ↔ ¬ overrun) := by
  obtain ⟨n, hn⟩ : ∃ n, max (count.getD 1) 1 = n + 1 := Nat.exists_eq_add_one.2 (by omega)
  rw [hn] at hwords
  have h := lastStep_wordForward hcursor n hwords
  have hresolve : resolve d op (.wordForward big) count lastFind = _ :=
    resolve_wordForward_eq hop hcursor hn h
  simp only [hn, Nat.add_sub_cancel, hresolve, true_and]
  generalize d.buffer.wordForward d.cursor n big = before at h ⊢
  generalize d.buffer.wordForward d.cursor (n + 1) big = last at h ⊢
  have hstart := h.row_le
  rcases Nat.lt_or_eq_of_le (Position.row_le_of_lt h.lt) with hrow | hrow
  · -- the last step crosses into a later row
    have hnot : ¬ (d.cursor.row < before.row ∧ before.row = last.row) := by omega
    have hlater : d.cursor.row < last.row := by omega
    simp only [if_pos hrow, if_pos hlater, hnot, not_false_eq_true, iff_true, true_and]
    exact count_lt_rowStop h hrow
  · rw [if_neg (Nat.not_lt.2 hrow.ge)]
    by_cases hlater : d.cursor.row < last.row
    · -- the row of the cursor was left before
      simp only [hrow, hlater, and_self, not_true_eq_false, iff_false]
      exact ⟨exclusive_rowStop_ne h hrow, count_lt_rowStop_last h⟩
    · have hnot : ¬ (d.cursor.row < before.row ∧ before.row = last.row) := by omega
      simp only [if_neg hlater, hnot, not_false_eq_true, iff_true, true_and]
      exact h.count_lt_last

/-- Two places at which words begin are two words. -/
theorem two_le_wordsBehind {b : Buffer} {p q r : Position} (hq : q ∈ b.wordsBehind big p)
    (hr : r ∈ b.wordsBehind big p) (hne : q ≠ r) :
    ((2 : ℕ) : ℕ∞) ≤ (b.wordsBehind big p).encard := by
  have hpair := Set.encard_le_encard (Set.insert_subset hq (Set.singleton_subset_iff.2 hr))
  rwa [Set.encard_pair hne] at hpair

/-- From `b` on, over an empty line: the line break of the empty line belongs to the range. -/
theorem resolve_wordForward_emptyLine :
    let d : Document := { buffer := .ofText ['a', ' ', 'b', '\n', '\n', 'c'], cursor := ⟨0, 2⟩ }
    resolve d .delete (.wordForward false) (some 2) none = .ok (.chars ⟨0, 2⟩ ⟨1, 0⟩) ∧
      {r ∈ d.buffer.wordsBehind false d.cursor | r < ⟨2, 0⟩}.encard = 1 := by
  intro d
  have hempty : (⟨1, 0⟩ : Position) ∈ d.buffer.wordsBehind false d.cursor :=
    ⟨⟨_, rfl, .inr ⟨rfl, rfl⟩⟩, by decide⟩
  have hc : (⟨2, 0⟩ : Position) ∈ d.buffer.wordsBehind false d.cursor := by
    refine ⟨⟨['c'], rfl, .inl ⟨[], ['c'], [], by decide +kernel, rfl, by decide +kernel, nofun⟩⟩,
      by decide⟩
  have htwo : ((max ((some 2).getD 1) 1 : ℕ) : ℕ∞) ≤
      (d.buffer.wordsBehind false d.cursor).encard := two_le_wordsBehind hempty hc (by decide)
  have hn : max ((some 2).getD 1) 1 = 2 := rfl
  have hbefore : d.buffer.wordForward d.cursor 1 false = ⟨1, 0⟩ := by decide +kernel
  have hlast : d.buffer.wordForward d.cursor 2 false = ⟨2, 0⟩ := by decide +kernel
  have hstop : rowStop d.buffer 1 = ⟨2, 0⟩ := by decide +kernel
  obtain ⟨hresolve, -, hcount⟩ :=
    resolve_wordForward (by decide : Operator.delete ≠ .change) (by decide +kernel) htwo none
  simp only [hn, Nat.reduceSub, hbefore, hlast, hstop] at hresolve hcount
  exact ⟨hresolve.trans (by decide +kernel), hcount.2 (by decide)⟩

/-- Two words from `b` on are `b` and `c`, but the operator takes the whole of the next row: the
step to `c` left the row of the cursor, and the step from there to `d` stays in its row. -/
theorem resolve_wordForward_ne :
    ¬ ∀ (d : Document) (op : Operator) (big : Bool) (count : Option Nat), op ≠ .change →
      d.buffer.clamp d.cursor = d.cursor →
      ((max (count.getD 1) 1 : ℕ) : ℕ∞) ≤ (d.buffer.wordsBehind big d.cursor).encard →
      let n := max (count.getD 1) 1
      let before := d.buffer.wordForward d.cursor (n - 1) big
      let last := d.buffer.wordForward d.cursor n big
      resolve d op (.wordForward big) count none = .ok (exclusive d.buffer d.cursor
        (if before.row < last.row then rowStop d.buffer before.row else last)) := by
  intro h
  let d : Document :=
    { buffer := .ofText ['a', ' ', 'b', '\n', 'c', ' ', 'd', ' ', 'e'], cursor := ⟨0, 2⟩ }
  have hrow : clusters ['c', ' ', 'd', ' ', 'e'] = [['c'], [' '], ['d'], [' '], ['e']] := by
    decide +kernel
  have hc : (⟨1, 0⟩ : Position) ∈ d.buffer.wordsBehind false d.cursor :=
    ⟨⟨_, rfl, .inl ⟨[], ['c'], [[' '], ['d'], [' '], ['e']], hrow, rfl, by decide +kernel, nofun⟩⟩,
      by decide⟩
  have hd : (⟨1, 2⟩ : Position) ∈ d.buffer.wordsBehind false d.cursor :=
    ⟨⟨_, rfl, .inl ⟨[['c'], [' ']], ['d'], [[' '], ['e']], hrow, rfl, by decide +kernel,
      by decide +kernel⟩⟩, by decide⟩
  have hwrong := h d .delete false (some 2) (by decide) (by decide +kernel)
    (two_le_wordsBehind hc hd (by decide))
  have htaken : resolve d .delete (.wordForward false) (some 2) none =
      .ok (.chars ⟨0, 2⟩ ⟨1, 5⟩) := by rfl
  -- the last word begins on the row where it ends, so the range should end there and not at the end of
  -- the row
  rw [htaken] at hwrong
  exact absurd (Except.ok.inj hwrong) (by decide +kernel)

end Range

end Span

end ModalEditor
