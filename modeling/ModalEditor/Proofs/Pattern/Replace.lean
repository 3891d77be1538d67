import ModalEditor.Pattern.Replace
import ModalEditor.Proofs.Pattern.Match

/-!
# What replacing changes

A replacement changes the matches only. A text is a sequence of pieces, some of which are matches, and
what the replacement makes of it are the same pieces with the template in the place of every match;
which pieces they are does not depend on the template (`Pattern.exists_pieces`). So a template that
stands for the whole match leaves every text as it is (`Pattern.replace_whole`), and so does every
template where there is no match (`Pattern.replace_of_no_match`).

Replacing every match is done in steps that are counted. A step takes text, or it is the one behind which
an empty match does not count; so there are enough of them (`Pattern.replaceFrom_eq`).
-/

namespace ModalEditor

open Regex

namespace Pattern

/-- A piece of a text that is searched: what lies between matches, or a match. -/
inductive Piece where
  | kept (t : Text)
  | found (f : Found)

namespace Piece

/-- The text of the piece. -/
def text : Piece → Text
  | .kept t => t
  | .found f => f.text

/-- What a replacement makes of the piece. -/
def replaced (p : Pattern) (template : List TemplatePart) : Piece → Text
  | .kept t => t
  | .found f => p.expand f template

end Piece

/-- The pieces are those of the text, and their matches are matches of the pattern. -/
structure Cuts (p : Pattern) (t : Text) (pieces : List Piece) : Prop where
  text : pieces.flatMap Piece.text = t
  found : ∀ f, .found f ∈ pieces → p.regex.Matches f.first f.past

variable {p : Pattern} {t : Text} {pieces : List Piece} {f : Found} {before : Option Char}

theorem cuts_kept (p : Pattern) (t : Text) : p.Cuts t [.kept t] where
  text := List.append_nil t
  found f hf := by cases List.mem_singleton.1 hf

theorem Cuts.cons_kept (h : p.Cuts t pieces) (front : Text) :
    p.Cuts (front ++ t) (.kept front :: pieces) where
  text := by rw [List.flatMap_cons, h.text]; rfl
  found f hf := h.found f ((List.mem_cons.1 hf).resolve_left nofun)

theorem Cuts.cons_found (h : p.Cuts f.past.rest pieces) {skipped : Text}
    (hf : p.regex.Leftmost before t f) (hskipped : f.skipped = skipped) :
    p.Cuts t (.kept skipped :: .found f :: pieces) where
  text := by
    rw [List.flatMap_cons, List.flatMap_cons, h.text, ← List.append_assoc, hf.cut, hskipped]
    rfl
  found g hg := by
    rcases List.mem_cons.1 ((List.mem_cons.1 hg).resolve_left nofun) with heq | hlater
    · cases heq
      exact hf.found
    · exact h.found g hlater

/-- A search that finds a match finds the first one. -/
theorem leftmost_of_find (h : p.regex.find before t = some f) : p.regex.Leftmost before t f := by
  rcases find_spec p.regex before t with ⟨g, hg, hleft⟩ | ⟨hnone, -⟩
  · exact Option.some.inj (hg.symm.trans h) ▸ hleft
  · rw [hnone] at h
    cases h

theorem replace_true (p : Pattern) (replacement t : Text) :
    p.replace replacement true t =
      p.replaceFrom (Template.parse replacement) (2 * t.length + 2) none false t :=
  rfl

theorem replace_false (p : Pattern) (replacement t : Text) :
    p.replace replacement false t = p.replaceFirst (Template.parse replacement) t :=
  rfl

/-! ## Pieces -/

/-- The steps of a replacement cut the text, and put the template in the place of the matches. -/
theorem exists_pieces_from (p : Pattern) (n : Nat) (before : Option Char) (behindMatch : Bool)
    (t : Text) : ∃ pieces, p.Cuts t pieces ∧ ∀ template,
      p.replaceFrom template n before behindMatch t = pieces.flatMap (Piece.replaced p template) := by
  induction n generalizing before behindMatch t with
  | zero => exact ⟨[.kept t], cuts_kept p t, fun template => (List.append_nil t).symm⟩
  | succ n ih =>
    cases hfind : p.regex.find before t with
    | none =>
      refine ⟨[.kept t], cuts_kept p t, fun template => ?_⟩
      simp only [replaceFrom, hfind]
      exact (List.append_nil t).symm
    | some f =>
      by_cases hbehind : behindMatch ∧ f.skipped = [] ∧ f.text = []
      · -- an empty match right behind another one: the next character is kept
        cases t with
        | nil =>
          refine ⟨[], ⟨rfl, fun f hf => absurd hf List.not_mem_nil⟩, fun template => ?_⟩
          simp only [replaceFrom, hfind, if_pos hbehind, List.flatMap_nil]
        | cons c t =>
          obtain ⟨pieces, hcuts, hreplaced⟩ := ih (some c) false t
          refine ⟨.kept [c] :: pieces, hcuts.cons_kept [c], fun template => ?_⟩
          simp only [replaceFrom, hfind, if_pos hbehind, hreplaced, List.flatMap_cons]
          rfl
      · obtain ⟨pieces, hcuts, hreplaced⟩ := ih f.past.before true f.past.rest
        refine ⟨_, hcuts.cons_found (leftmost_of_find hfind) rfl, fun template => ?_⟩
        simp only [replaceFrom, hfind, if_neg hbehind, hreplaced, List.flatMap_cons,
          List.append_assoc]
        rfl

/-- **What replacing changes.** The text is a sequence of pieces, some of which are matches, and every
replacement puts its template in the place of those and keeps the others. -/
theorem exists_pieces (p : Pattern) (all : Bool) (t : Text) : ∃ pieces, p.Cuts t pieces ∧
    ∀ replacement, p.replace replacement all t =
      pieces.flatMap (Piece.replaced p (Template.parse replacement)) := by
  cases all with
  | true =>
    obtain ⟨pieces, hcuts, hreplaced⟩ := exists_pieces_from p (2 * t.length + 2) none false t
    exact ⟨pieces, hcuts, fun replacement => hreplaced _⟩
  | false =>
    cases hfind : p.regex.find none t with
    | none =>
      refine ⟨[.kept t], cuts_kept p t, fun replacement => ?_⟩
      rw [replace_false, replaceFirst, hfind]
      exact (List.append_nil t).symm
    | some f =>
      refine ⟨_, (cuts_kept p f.past.rest).cons_found (leftmost_of_find hfind) rfl,
        fun replacement => ?_⟩
      rw [replace_false, replaceFirst, hfind, List.flatMap_cons, List.flatMap_cons,
        List.flatMap_singleton]
      exact List.append_assoc _ _ _

/-- The whole match in the place of every match leaves the text as it is. -/
theorem replace_whole (p : Pattern) (all : Bool) (t : Text) : p.replace "$0".toList all t = t := by
  obtain ⟨pieces, hcuts, hreplaced⟩ := p.exists_pieces all t
  have htemplate : Template.parse "$0".toList = [.group 0] := by decide
  have hsame : Piece.replaced p [.group 0] = Piece.text := by
    funext piece
    cases piece with
    | kept t => rfl
    | found f => exact List.append_nil f.text
  rw [hreplaced, htemplate, hsame, hcuts.text]

/-- Where there is no match a replacement leaves the text as it is. -/
theorem replace_of_no_match (replacement : Text) (all : Bool)
    (h : ∀ front rest, t = front ++ rest →
      ¬ ∃ past, p.regex.Matches (spotBehind none front rest) past) :
    p.replace replacement all t = t := by
  have hnone : p.regex.find none t = none := by
    rcases find_spec p.regex none t with ⟨f, -, hleft⟩ | ⟨hnone, -⟩
    · exact absurd ⟨f.past, hleft.first ▸ hleft.found⟩ (h f.skipped f.first.rest hleft.text)
    · exact hnone
  cases all with
  | true => simp only [replace_true, replaceFrom, hnone]
  | false => simp only [replace_false, replaceFirst, hnone]

/-! ## Enough steps -/

/-- How many steps are enough: two for each character, and one for an empty match. -/
def stepsFor (behindMatch : Bool) (t : Text) : Nat :=
  2 * t.length + if behindMatch then 0 else 1

/-- Every step leaves fewer of them. -/
theorem stepsFor_lt (hf : p.regex.Leftmost before t f) {behindMatch : Bool}
    (hcounts : ¬ (behindMatch ∧ f.skipped = [] ∧ f.text = [])) :
    stepsFor true f.past.rest < stepsFor behindMatch t := by
  have hlength := congrArg List.length hf.cut
  rw [List.length_append, List.length_append] at hlength
  rw [stepsFor, stepsFor, if_pos rfl]
  cases behindMatch with
  | false =>
    rw [if_neg Bool.false_ne_true]
    omega
  | true =>
    have htaken : f.skipped.length + f.text.length ≠ 0 := by
      intro hzero
      exact hcounts ⟨rfl, List.eq_nil_of_length_eq_zero (by omega),
        List.eq_nil_of_length_eq_zero (by omega)⟩
    rw [if_pos rfl]
    omega

/-- More steps than are enough make no difference. -/
theorem replaceFrom_eq (p : Pattern) (template : List TemplatePart) {n m : Nat}
    {before : Option Char} {behindMatch : Bool} {t : Text} (hn : stepsFor behindMatch t < n)
    (hm : stepsFor behindMatch t < m) :
    p.replaceFrom template n before behindMatch t =
      p.replaceFrom template m before behindMatch t := by
  induction n generalizing m before behindMatch t with
  | zero => exact absurd hn (Nat.not_lt_zero _)
  | succ n ih =>
    obtain ⟨m, rfl⟩ := Nat.exists_eq_add_one_of_ne_zero (Nat.ne_zero_of_lt hm)
    cases hfind : p.regex.find before t with
    | none => simp only [replaceFrom, hfind]
    | some f =>
      by_cases hbehind : behindMatch ∧ f.skipped = [] ∧ f.text = []
      -- an empty match right behind a match does not count: one character is passed; otherwise the
      -- search goes on behind the match
      · cases t with
        | nil => simp only [replaceFrom, hfind, if_pos hbehind]
        | cons c t =>
          have hsteps : stepsFor false t < stepsFor behindMatch (c :: t) := by
            rw [stepsFor, stepsFor, List.length_cons, if_neg Bool.false_ne_true]
            split <;> omega
          have hlater := @ih m (some c) false t (by omega) (by omega)
          simp only [replaceFrom, hfind, if_pos hbehind, hlater]
      · have hsteps := stepsFor_lt (leftmost_of_find hfind) hbehind
        have hlater := @ih m f.past.before true f.past.rest (by omega) (by omega)
        simp only [replaceFrom, hfind, if_neg hbehind, hlater]

end Pattern

end ModalEditor
