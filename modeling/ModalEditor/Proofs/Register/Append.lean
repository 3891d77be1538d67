import ModalEditor.Proofs.Register.Recall
import ModalEditor.Proofs.Text.Cut

/-!
# What appending keeps

The rows of a register after a text was appended to it (`Registers.get_append_rows`). The rows of what
the register held come first, and the new rows behind them, where nothing is lost on the way
(`RegisterContent.KeepsRows`). A rectangle loses the empty rows at the end of what follows it
(`RegisterContent.rows_append_of_block`), since every line break there is taken off and not only the
one that ends a line.
-/

namespace ModalEditor

/-! ## Rows of a text -/

/-- The rows without the empty ones at the end. The first row stays. -/
def dropEmptyEnd : List Text → List Text
  | [] => []
  | l :: ls => l :: ls.rdropWhile List.isEmpty

/-- An empty row at the end is dropped. -/
theorem dropEmptyEnd_concat_nil {ls : List Text} (h : ls ≠ []) :
    dropEmptyEnd (ls ++ [[]]) = dropEmptyEnd ls := by
  obtain ⟨l, rest, rfl⟩ := List.exists_cons_of_ne_nil h
  rw [List.cons_append, dropEmptyEnd, dropEmptyEnd, List.rdropWhile_concat_pos _ _ _ (by rfl)]

/-- Another row at the end stays. -/
theorem dropEmptyEnd_concat (ls : List Text) {l : Text} (h : l ≠ []) :
    dropEmptyEnd (ls ++ [l]) = ls ++ [l] := by
  cases ls with
  | nil => rfl
  | cons first rest =>
    rw [List.cons_append, dropEmptyEnd, List.rdropWhile_concat_neg _ _ _ (by simpa using h)]

/-- Nothing is dropped of a single row, or of rows that end in one that is not empty. -/
theorem dropEmptyEnd_eq_self_iff {ls : List Text} (h : ls ≠ []) :
    dropEmptyEnd ls = ls ↔ ls.length = 1 ∨ ls.getLast? ≠ some [] := by
  induction ls using List.reverseRecOn with
  | nil => exact absurd rfl h
  | append_singleton ls l _ =>
    rw [List.getLast?_concat, Ne, Option.some_inj]
    by_cases hl : l = []
    · subst hl
      cases ls with
      | nil => exact iff_of_true rfl (.inl rfl)
      | cons first rest =>
        have hshorter : (rest.rdropWhile List.isEmpty).length ≤ rest.length :=
          (List.rdropWhile_prefix _ _).length_le
        refine iff_of_false (fun heq => ?_) (by simp)
        have hlength := congrArg List.length heq
        rw [dropEmptyEnd_concat_nil (List.cons_ne_nil _ _), dropEmptyEnd, List.length_append,
          List.length_cons, List.length_cons, List.length_singleton] at hlength
        omega
    · exact iff_of_true (dropEmptyEnd_concat ls hl) (.inr hl)

namespace RegisterContent

/-- Of the breaks at the end, one more is dropped. -/
theorem dropFinalBreaks_concat_break (t : Text) :
    dropFinalBreaks (t ++ ['\n']) = dropFinalBreaks t :=
  List.rdropWhile_concat_pos _ _ _ (by rfl)

/-- Without the line breaks at its end, a text has no empty rows at the end. -/
theorem splitLines_dropFinalBreaks (t : Text) :
    splitLines (dropFinalBreaks t) = dropEmptyEnd (splitLines t) := by
  induction t using List.reverseRecOn with
  | nil => rfl
  | append_singleton t c ih =>
    by_cases hc : c = '\n'
    · subst hc
      rw [dropFinalBreaks_concat_break, ih, splitLines_append_cons_break, splitLines,
        dropEmptyEnd_concat_nil (splitLines_ne_nil t)]
    · have hkept : dropFinalBreaks (t ++ [c]) = t ++ [c] :=
        List.rdropWhile_concat_neg _ _ _ (by simpa using hc)
      obtain ⟨front, last, first, rest, -, hfirst, hrows⟩ := splitLines_append t [c]
      obtain ⟨rfl, rfl⟩ : first = [c] ∧ rest = [] := by
        rw [splitLines_of_isLine (by simpa [IsLine] using Ne.symm hc)] at hfirst
        exact ⟨(List.cons.inj hfirst).1.symm, (List.cons.inj hfirst).2.symm⟩
      rw [hkept, hrows, dropEmptyEnd_concat _ (by simp)]

/-- One break at the end is dropped. -/
theorem dropFinalBreak_concat_break (t : Text) : dropFinalBreak (t ++ ['\n']) = t := by
  rw [dropFinalBreak, if_pos List.getLast?_concat, List.dropLast_concat]

/-- The end of a text decides whether a break is dropped. -/
theorem dropFinalBreak_append (s : Text) {t : Text} (h : t ≠ []) :
    dropFinalBreak (s ++ t) = s ++ dropFinalBreak t := by
  rw [dropFinalBreak, dropFinalBreak, List.getLast?_append_of_ne_nil _ h,
    List.dropLast_append_of_ne_nil h]
  split <;> rfl

/-- With all breaks at the end dropped, it is of no matter that one was dropped before. -/
theorem dropFinalBreaks_dropFinalBreak (t : Text) :
    dropFinalBreaks (dropFinalBreak t) = dropFinalBreaks t := by
  rw [dropFinalBreak]
  split
  · rename_i hlast
    obtain ⟨front, rfl⟩ := List.getLast?_eq_some_iff.1 hlast
    rw [List.dropLast_concat, dropFinalBreaks_concat_break]
  · rfl

/-! ## Rows of a content -/

/-- The text whose rows are those of the content. -/
def body (c : RegisterContent) : Text :=
  match c.kind with
  | .lines => dropFinalBreak c.text
  | _ => c.text

/-- The rows of a content are the lines of its text, without the break that ends them. -/
theorem rows_eq (c : RegisterContent) : c.rows = splitLines c.body := by
  rcases c with ⟨text, kind⟩
  cases kind <;> rfl

/-- Which breaks are at the end of that text is told from the whole. -/
theorem dropFinalBreaks_body (c : RegisterContent) :
    dropFinalBreaks c.body = dropFinalBreaks c.text := by
  rw [body]
  split
  · exact dropFinalBreaks_dropFinalBreak _
  · rfl

/-- All rows are there when `d` is put behind `c`. Lines must have the line break behind the last of
them, lines that follow must have a text, and a rectangle must not be followed by empty rows at the
end. -/
def KeepsRows (c d : RegisterContent) : Prop :=
  match c.kind with
  | .chars => d.kind = .lines → d.text ≠ []
  | .lines => c.text.getLast? = some '\n' ∧ (d.kind = .lines → d.text ≠ [])
  | .block _ => d.rows.length = 1 ∨ d.rows.getLast? ≠ some []

variable {c d : RegisterContent}

/-- Behind a rectangle, the empty rows at the end are lost. -/
theorem rows_append_of_block {width : Nat} (hc : c.kind = .block width) :
    (c.append d).rows = c.rows ++ dropEmptyEnd d.rows := by
  have htext : (c.append d).body = c.body ++ '\n' :: dropFinalBreaks d.text := by
    rcases c with ⟨text, kind⟩
    subst hc
    rw [append]
    cases d.kind <;> rfl
  rw [rows_eq, htext, splitLines_append_cons_break, ← dropFinalBreaks_body,
    splitLines_dropFinalBreaks, ← rows_eq, ← rows_eq]

/-- What follows characters begins on a row of its own, unless it is a run of characters too. -/
theorem body_append_of_chars (hc : c.kind = .chars) (hd : d.kind ≠ .chars)
    (hsome : d.kind = .lines → d.text ≠ []) :
    (c.append d).body = c.body ++ '\n' :: d.body := by
  rcases c with ⟨text, kind⟩
  subst hc
  rw [append]
  cases hkind : d.kind with
  | chars => exact absurd hkind hd
  | block width => rw [body, body, body, hkind]
  | lines =>
    have hbreak : dropFinalBreak ('\n' :: d.text) = '\n' :: dropFinalBreak d.text :=
      dropFinalBreak_append ['\n'] (hsome hkind)
    rw [body, body, body, hkind]
    dsimp only
    rw [dropFinalBreak_append _ (List.cons_ne_nil _ _), hbreak]

/-- Behind whole rows, other content begins on a row of its own. -/
theorem body_append_of_lines (hc : c.kind = .lines) (hsome : d.kind = .lines → d.text ≠ []) :
    (c.append d).body = c.text ++ d.body := by
  rcases c with ⟨text, kind⟩
  subst hc
  rw [append]
  cases hkind : d.kind with
  | chars => rw [body, body, hkind]; exact dropFinalBreak_concat_break _
  | block width => rw [body, body, hkind]; exact dropFinalBreak_concat_break _
  | lines => rw [body, body, hkind]; exact dropFinalBreak_append _ (hsome hkind)

/-- Lines without a text add no row. -/
theorem rows_append_of_empty (hc : c.kind = .chars ∨ c.kind = .lines) (hd : d.kind = .lines)
    (hempty : d.text = []) : (c.append d).rows = c.rows := by
  rcases c with ⟨text, kind⟩
  rcases d with ⟨text', kind'⟩
  dsimp only at hc hd hempty
  subst hd hempty
  rcases hc with rfl | rfl
  · exact congrArg splitLines (dropFinalBreak_concat_break text)
  · exact congrArg (fun t => splitLines (dropFinalBreak t)) (List.append_nil text)

/-- The rows of both contents are those of the first and of the second one if and only if none is lost
on the way. -/
theorem rows_append_eq_iff (hkinds : ¬(c.kind = .chars ∧ d.kind = .chars)) :
    (c.append d).rows = c.rows ++ d.rows ↔ c.KeepsRows d := by
  -- lines without a text have a row all the same, which is missing behind characters and lines
  have hmissing (hc : c.kind = .chars ∨ c.kind = .lines) (hd : d.kind = .lines)
      (hempty : d.text = []) : (c.append d).rows ≠ c.rows ++ d.rows := by
    rw [rows_append_of_empty hc hd hempty]
    exact fun heq => d.rows_ne_nil (List.self_eq_append_right.1 heq)
  rw [KeepsRows]
  cases hc : c.kind with
  | block width =>
    rw [rows_append_of_block hc, List.append_cancel_left_eq]
    exact dropEmptyEnd_eq_self_iff d.rows_ne_nil
  | chars =>
    refine ⟨fun heq hd hempty => hmissing (.inl hc) hd hempty heq, fun hsome => ?_⟩
    have hd : d.kind ≠ .chars := fun hd => hkinds ⟨hc, hd⟩
    rw [rows_eq, body_append_of_chars hc hd hsome, splitLines_append_cons_break, ← rows_eq, ← rows_eq]
  | lines =>
    constructor
    · intro heq
      have hsome (hd : d.kind = .lines) : d.text ≠ [] := fun hempty =>
        hmissing (.inr hc) hd hempty heq
      refine ⟨?_, hsome⟩
      by_contra hlast
      -- without the line break, the last row goes on in the first one of `d`
      have hbody : c.text = c.body := by
        rw [body, hc]
        exact (if_neg hlast).symm
      have hlength := length_splitLines_append c.body d.body
      rw [← hbody, ← body_append_of_lines hc hsome, hbody, ← rows_eq, ← rows_eq, ← rows_eq, heq,
        List.length_append] at hlength
      omega
    · rintro ⟨hlast, hsome⟩
      obtain ⟨front, htext⟩ := List.getLast?_eq_some_iff.1 hlast
      have hbody : c.body = front := by
        rw [body, hc]
        dsimp only
        rw [htext, dropFinalBreak_concat_break]
      rw [rows_eq, body_append_of_lines hc hsome, htext, List.append_assoc, List.singleton_append,
        splitLines_append_cons_break, ← hbody, ← rows_eq, ← rows_eq]

end RegisterContent

namespace Registers

/-- An upper case letter is a letter. -/
theorem isAlpha_of_isUpper {name : Char} (h : name.isUpper = true) : name.isAlpha = true := by
  show (name.isUpper || name.isLower) = true
  rw [h, Bool.true_or]

/-- What is put behind the text of a letter, and what every register that shows it holds then. -/
theorem yank_append {r : Registers} {name : Char} {a : RegisterContent} (hname : name.isUpper = true)
    (hget : r.get (some name) = .ok a) (ha : a.text ≠ []) (b : RegisterContent) :
    ∃ r', r.yank (some name) b = .ok r' ∧ r.delete (some name) b = .ok r' ∧
      r'.get (some name) = .ok (a.append b) ∧ r'.get none = .ok (a.append b) := by
  have hletter := RegisterName.mapM_ofChar (RegisterName.ofChar?_isAlpha (isAlpha_of_isUpper hname))
  -- the register holds something, so the letter does
  have hheld : r.letters.get? name.toLower = some a := by
    rw [get, hletter] at hget
    have heq : (r.letters.get? name.toLower).getD .empty = a := Except.ok.inj hget
    cases hletters : r.letters.get? name.toLower with
    | some held => rw [hletters] at heq; exact congrArg some heq
    | none =>
      rw [hletters] at heq
      exact absurd (congrArg RegisterContent.text heq).symm ha
  -- as an upper case letter appends, what is stored is both contents together
  have hmerged : r.mergeLetter name.toLower true b = a.append b := by
    rw [mergeLetter_eq, if_pos rfl, hheld, appendTo]
    exact if_neg ha
  refine ⟨r.storeUnnamed (.letter name.toLower true) b, ?_, ?_, ?_, ?_⟩
  · rw [yank, hletter, hname]
    rfl
  · rw [delete, hletter, hname]
    rfl
  · have hput := Named.get?_put_self r.letters name.toLower (a.append b)
    rw [get, hletter, storeUnnamed, store, hmerged]
    exact congrArg (fun held => Except.ok (held.getD RegisterContent.empty)) hput
  · rw [storeUnnamed, store, hmerged]
    rfl

/-- **What appending keeps.** A yank or a deletion that names a letter in upper case puts its text
behind what the letter holds, and the unnamed register holds the same. If not both texts are runs of
characters, the rows are those of the one followed by those of the other if and only if the two keep
their rows. Behind a rectangle, exactly the empty rows at the end are lost. -/
theorem get_append_rows {r : Registers} {name : Char} {a b : RegisterContent}
    (hname : name.isUpper = true) (hget : r.get (some name) = .ok a) (ha : a.text ≠ [])
    (hkinds : ¬(a.kind = .chars ∧ b.kind = .chars)) :
    ∃ r' merged, r.yank (some name) b = .ok r' ∧ r.delete (some name) b = .ok r' ∧
      r'.get (some name) = .ok merged ∧ r'.get none = .ok merged ∧
      (merged.rows = a.rows ++ b.rows ↔ a.KeepsRows b) ∧
      ∀ width, a.kind = .block width → merged.rows = a.rows ++ dropEmptyEnd b.rows := by
  obtain ⟨r', hyank, hdelete, hnamed, hunnamed⟩ := yank_append hname hget ha b
  exact ⟨r', a.append b, hyank, hdelete, hnamed, hunnamed,
    RegisterContent.rows_append_eq_iff hkinds, fun _ hblock =>
      RegisterContent.rows_append_of_block hblock⟩

/-- A rectangle with an empty row at its end is appended to a rectangle: the row is lost. -/
theorem get_append_rows_block :
    let a := RegisterContent.ofBlock [['x']] 1
    let b := RegisterContent.ofBlock [['y'], []] 1
    let r : Registers := storeUnnamed {} (.letter 'q' false) a
    'Q'.isUpper = true ∧ r.get (some 'Q') = .ok a ∧ a.text ≠ [] ∧
      ¬(a.kind = .chars ∧ b.kind = .chars) ∧ ¬ a.KeepsRows b ∧
      ∃ r' merged, r.yank (some 'Q') b = .ok r' ∧ r'.get none = .ok merged ∧
        merged.rows = [['x'], ['y']] := by
  intro a b r
  have hname : 'Q'.isUpper = true := by decide
  have hget : r.get (some 'Q') = .ok a := rfl
  have hkinds : ¬(a.kind = .chars ∧ b.kind = .chars) := by decide
  obtain ⟨r', merged, hyank, -, -, hunnamed, hkeeps, hrows⟩ :=
    get_append_rows hname hget (by decide : a.text ≠ []) hkinds
  have hmerged : merged.rows = [['x'], ['y']] := (hrows 1 rfl).trans (by decide)
  refine ⟨hname, hget, by decide, hkinds, fun hkept => ?_, r', merged, hyank, hunnamed, hmerged⟩
  exact absurd (hmerged.symm.trans (hkeeps.2 hkept)) (by decide)

/-- The empty row at the end of a rectangle that is appended to another one is lost. -/
theorem get_append_rows_ne :
    ¬ ∀ (calls : List Call) (r r' : Registers) (name : Char) (a b merged : RegisterContent),
      runCalls calls {} = .ok r → name.isUpper = true → r.get (some name) = .ok a → a.text ≠ [] →
      ¬(a.kind = .chars ∧ b.kind = .chars) → r.yank (some name) b = .ok r' →
      r'.get (some name) = .ok merged → merged.rows = a.rows ++ b.rows := by
  intro h
  have hrows := h [.yank (some 'a') (.ofBlock [['x']] 1)] _ _ 'A' _ (.ofBlock [['y'], []] 1) _
    rfl (by decide) rfl (by decide) (by decide) rfl rfl
  exact absurd hrows (by decide)

end Registers

end ModalEditor
