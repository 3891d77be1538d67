import ModalEditor.Pattern.Parser
import ModalEditor.Proofs.Pattern.CharSet
import ModalEditor.Proofs.Pattern.Match

/-!
# Patterns that stand for themselves

A text without any of the characters that mean something else than themselves is a pattern, and it matches
itself and nothing else (`Pattern.parse?_plain`). The reader takes such a text character by character: none
of the things that it looks for before each part is there (`PatternReader.expression_cons`), so each
character becomes a part of its own.
-/

namespace ModalEditor

namespace PatternReader

/-- The characters that mean something else than themselves. -/
def signs : Text :=
  ['\\', '.', '^', '$', '[', '*', '+', '?', '\x7b', '|', '(', ')']

/-! ## Reading one character -/

section Steps

variable {α β : Type} {s : PatternState} {c d : Char} {cs : Text}

/-- Two readers in a row. -/
theorem run_bind (x : PatternReader α) (f : α → PatternReader β) (s : PatternState) :
    (x >>= f) s = (x s).bind fun p => f p.1 p.2 :=
  rfl

/-- A reader whose result is mapped. -/
theorem run_map (f : α → β) (x : PatternReader α) (s : PatternState) :
    (f <$> x) s = (x s).map fun p => (f p.1, p.2) := by
  show ((x s).bind fun p => some (f p.1, p.2)) = _
  cases x s <;> rfl

/-- Reading the state. -/
theorem run_get (s : PatternState) : (get : PatternReader PatternState) s = some (s, s) :=
  rfl

/-- A sign that is not what follows is not accepted, and nothing is read. -/
theorem accept_of_ne (hrest : s.rest = c :: cs) {t : String} (ht : t.toList = [d]) (hne : d ≠ c) :
    accept t s = some (false, s) := by
  have hprefix : ¬ t.toList.isPrefixOf s.rest = true := by
    rw [hrest, ht, List.isPrefixOf, beq_false_of_ne hne, Bool.false_and]
    exact Bool.false_ne_true
  simp only [accept, run_bind, run_get, Option.bind_some, if_neg hprefix]
  rfl

/-- The next character is the first of those left. -/
theorem next_cons (hrest : s.rest = c :: cs) : next s = some (c, { s with rest := cs }) := by
  simp only [next, run_bind, run_get, Option.bind_some, hrest]
  rfl

/-- Without flags, a set is taken as it is written. -/
theorem foldSet_of_flags (hflags : s.flags = {}) (k : CharSet) : foldSet k s = some (k, s) := by
  simp only [foldSet, run_bind, run_get, Option.bind_some, hflags]
  rfl

/-- A character that is no sign stands for itself. -/
theorem simplePart_cons (hrest : s.rest = c :: cs) (hflags : s.flags = {}) (hc : c ∉ signs) :
    simplePart s = some (.char (.singleton c), { s with rest := cs }) := by
  simp only [simplePart, run_bind, run_get, Option.bind_some, next_cons hrest]
  split
  case h_6 =>
    rw [run_map, foldSet_of_flags (s := { s with rest := cs }) hflags]
    rfl
  -- the character is none of the signs that are looked for
  all_goals exact absurd (by decide) hc

/-- A character that is no sign opens no bounds. -/
theorem bounds?_cons (hrest : s.rest = c :: cs) (hc : c ∉ signs) : bounds? s = some (none, s) := by
  have hno {d : Char} (hd : d ∈ signs) {t : String} (ht : t.toList = [d]) :
      accept t s = some (false, s) :=
    accept_of_ne hrest ht fun heq => hc (heq ▸ hd)
  have hstar : accept "*" s = some (false, s) := hno (d := '*') (by decide) rfl
  have hplus : accept "+" s = some (false, s) := hno (d := '+') (by decide) rfl
  have hmark : accept "?" s = some (false, s) := hno (d := '?') (by decide) rfl
  have hbrace : accept "\x7b" s = some (false, s) := hno (d := '\x7b') (by decide) rfl
  simp [bounds?, run_bind, hstar, hplus, hmark, hbrace]
  rfl

/-- A character that is no sign becomes a part of its own. -/
theorem expression_cons (hrest : s.rest = c :: cs) (hflags : s.flags = {}) (hc : c ∉ signs) (n : Nat)
    (o : OpenRegex) :
    expression (n + 1) o s =
      expression n (o.push (.char (.singleton c))) { s with rest := cs } := by
  have hne {d : Char} (hd : d ∈ signs) : d ≠ c := fun heq => hc (heq ▸ hd)
  have hbar : accept "|" s = some (false, s) :=
    accept_of_ne (d := '|') hrest rfl (hne (by decide))
  have hopening : accept "(" s = some (false, s) :=
    accept_of_ne (d := '(') hrest rfl (hne (by decide))
  have hclosing : c ≠ ')' := (hne (by decide)).symm
  simp [expression, run_bind, run_get, hrest, hclosing, hbar, hopening, bounds?_cons hrest hc,
    simplePart_cons hrest hflags hc]

end Steps

/-! ## Reading a text -/

/-- The expression whose parts are the characters of a text. -/
def literal : Text → Regex
  | [] => .empty
  | [c] => .char (.singleton c)
  | c :: d :: cs => .seq (.char (.singleton c)) (literal (d :: cs))

/-- The parts that are read from the characters of a text are put together to its expression. -/
theorem regex_foldl_push (t : Text) :
    (t.foldl (fun (o : OpenRegex) c => o.push (.char (.singleton c))) {}).regex = literal t := by
  have hparts (t : Text) (o : OpenRegex) :
      t.foldl (fun (o : OpenRegex) c => o.push (.char (.singleton c))) o =
        { o with parts := (t.reverse.map fun c => some (.char (.singleton c))) ++ o.parts } := by
    induction t generalizing o with
    | nil => rfl
    | cons c t ih =>
      rw [List.foldl_cons, ih, List.reverse_cons, List.map_append, List.append_assoc]
      rfl
  -- the last part is the innermost
  have hseq (t : Text) (c : Char) : literal (t ++ [c]) =
      t.foldr (fun d later => .seq (.char (.singleton d)) later) (.char (.singleton c)) := by
    induction t with
    | nil => rfl
    | cons d t ih =>
      rw [List.foldr_cons, ← ih]
      cases t <;> rfl
  have hsome (t : Text) : (t.map fun c => some (Regex.char (.singleton c))).filterMap id =
      t.map fun c => .char (.singleton c) := by
    rw [List.filterMap_map]
    exact congrFun List.filterMap_eq_map t
  rw [hparts, List.append_nil, OpenRegex.regex, OpenRegex.current]
  rcases List.eq_nil_or_concat t with rfl | ⟨front, c, rfl⟩
  · rfl
  · rw [hsome, List.concat_eq_append, hseq, List.reverse_concat, List.map_cons]
    dsimp only [List.foldl_nil]
    rw [List.foldl_map, List.foldl_reverse]

/-- A text without signs is read character by character. -/
theorem expression_of_plain {t : Text} (ht : ∀ c ∈ t, c ∉ signs) {s : PatternState}
    (hrest : s.rest = t) (hflags : s.flags = {}) {n : Nat} (hn : t.length < n) (o : OpenRegex) :
    expression n o s = some ((t.foldl (fun (o : OpenRegex) c => o.push (.char (.singleton c))) o).regex,
      { s with rest := [] }) := by
  induction t generalizing s n o with
  | nil =>
    obtain ⟨n, rfl⟩ := Nat.exists_eq_add_one_of_ne_zero (Nat.ne_zero_of_lt hn)
    have hend : { s with rest := [] } = s := by rw [← hrest]
    simp only [expression, run_bind, run_get, Option.bind_some, hrest, hend]
    rfl
  | cons c t ih =>
    obtain ⟨n, rfl⟩ := Nat.exists_eq_add_one_of_ne_zero (Nat.ne_zero_of_lt hn)
    obtain ⟨hc, ht⟩ := List.forall_mem_cons.1 ht
    rw [expression_cons hrest hflags hc, List.foldl_cons]
    exact ih ht (s := { s with rest := t }) rfl hflags (Nat.lt_of_succ_lt_succ hn) _

end PatternReader

open PatternReader Regex

namespace Regex

/-- A single character matches itself and moves on by one. -/
theorem matches_singleton {c : Char} {s u : Spot} : (char (.singleton c)).Matches s u ↔
    s.rest = c :: u.rest ∧ u.before = some c ∧ u.groups = s.groups := by
  constructor
  · rintro ⟨d, rest, hrest, hd, rfl⟩
    obtain rfl := CharSet.mem_singleton_iff.1 hd
    exact ⟨hrest, rfl, rfl⟩
  · rintro ⟨hrest, hbefore, hgroups⟩
    refine ⟨c, u.rest, hrest, CharSet.mem_singleton_iff.2 rfl, ?_⟩
    rw [← hbefore, ← hgroups]

/-- The expression of a text matches the text, and remembers nothing. -/
theorem matches_literal {t : Text} {s u : Spot} : (literal t).Matches s u ↔
    s.rest = t ++ u.rest ∧ u.before = t.getLast?.or s.before ∧ u.groups = s.groups := by
  induction t generalizing s with
  | nil =>
    constructor
    · rintro rfl
      exact ⟨rfl, rfl, rfl⟩
    · rintro ⟨hrest, hbefore, hgroups⟩
      obtain ⟨before, rest, groups⟩ := s
      obtain ⟨before', rest', groups'⟩ := u
      obtain rfl : before' = before := hbefore
      obtain rfl : rest = rest' := hrest
      obtain rfl : groups' = groups := hgroups
      rfl
  | cons c t ih =>
    cases t with
    | nil => exact matches_singleton
    | cons d t =>
      -- the last character is one of the rest
      have hlast (before : Option Char) :
          (c :: d :: t).getLast?.or before = (d :: t).getLast?.or (some c) := by
        rw [List.getLast?_cons_cons, List.getLast?_cons]
        rfl
      rw [hlast]
      constructor
      · rintro ⟨v, hfirst, hlater⟩
        obtain ⟨hrest, hbefore, hgroups⟩ := matches_singleton.1 hfirst
        obtain ⟨hrest', hbefore', hgroups'⟩ := ih.1 hlater
        exact ⟨by rw [hrest, hrest']; rfl, hbefore ▸ hbefore', hgroups'.trans hgroups⟩
      · rintro ⟨hrest, hbefore, hgroups⟩
        exact ⟨⟨some c, d :: t ++ u.rest, s.groups⟩, matches_singleton.2 ⟨hrest, rfl, rfl⟩,
          ih.2 ⟨rfl, hbefore, hgroups⟩⟩

end Regex

/-- **Plain texts.** A text without signs is a pattern, and it matches where the text stands and nowhere
else. -/
theorem Pattern.parse?_plain {t : Text} (ht : ∀ c ∈ t, c ∉ signs) :
    ∃ p, Pattern.parse? t = some p ∧ ∀ s, (∃ u, p.regex.Matches s u) ↔ t <+: s.rest := by
  have hread := expression_of_plain ht (s := { rest := t }) rfl rfl (Nat.lt_succ_self _) {}
  refine ⟨⟨literal t, []⟩, ?_, fun s => ?_⟩
  · have hrun : (expression (t.length + 1) {}).run { rest := t } =
        some (literal t, { rest := [] }) := by
      rw [← regex_foldl_push t]
      exact hread
    rw [Pattern.parse?, hrun]
    rfl
  · constructor
    · rintro ⟨u, hu⟩
      exact ⟨u.rest, (Regex.matches_literal.1 hu).1.symm⟩
    · rintro ⟨rest, hrest⟩
      exact ⟨⟨t.getLast?.or s.before, rest, s.groups⟩,
        Regex.matches_literal.2 ⟨hrest.symm, rfl, rfl⟩⟩

end ModalEditor
