import Mathlib.Logic.Function.Iterate
import ModalEditor.Proofs.Motion.Slot

/-!
# Where word motions land

What begins and what ends a word is said of a place by the clusters around it (`Buffer.IsWordStart`,
`Buffer.IsWordEnd`). Of a slot it can be told from its neighbour (`isWordStart_iff_beginsWord`,
`isWordEnd_iff_endsWord`). Read this way, a word motion is a walk that goes on from slot to slot until
it comes to one of a kind (`wordStart_cons`, `wordBack_cons`, `wordEnd_cons`), so it lands on the
nearest one (`Slot.Passes.lands`), and a count repeats single steps (`Buffer.iterate_of_step`).
-/

namespace ModalEditor

/-! ## Words -/

/-- A word begins at the offset: there is a cluster that is not blank, and in front of it the
beginning of the line or a cluster of another class. -/
def WordBegins (big : Bool) (l : Text) (col : Nat) : Prop :=
  ∃ before g behind, clusters l = before ++ g :: behind ∧ byteSize before.flatten = col ∧
    classify big g ≠ .blank ∧ ∀ h ∈ before.getLast?, classify big h ≠ classify big g

/-- The last cluster of a word begins at the offset: it is not blank, and behind it is the end of
the line or a cluster of another class. -/
def WordEnds (big : Bool) (l : Text) (col : Nat) : Prop :=
  ∃ before g behind, clusters l = before ++ g :: behind ∧ byteSize before.flatten = col ∧
    classify big g ≠ .blank ∧ ∀ h ∈ behind.head?, classify big h ≠ classify big g

namespace Buffer

/-- A word begins at the place, or its line is empty: an empty line is a word to the motions. -/
def IsWordStart (b : Buffer) (big : Bool) (p : Position) : Prop :=
  ∃ l, b.line? p.row = some l ∧ (WordBegins big l p.col ∨ l = [] ∧ p.col = 0)

/-- A word ends at the place. -/
def IsWordEnd (b : Buffer) (big : Bool) (p : Position) : Prop :=
  ∃ l, b.line? p.row = some l ∧ WordEnds big l p.col

end Buffer

/-- `q` is the nearest place of a kind beyond `p`, or it is `limit` if there is no such place. -/
def Nearest (beyond : Position → Position → Prop) (kind : Position → Prop)
    (p limit q : Position) : Prop :=
  (kind q ∧ beyond p q ∧ ∀ r, kind r → beyond p r → ¬ beyond r q) ∨
    (q = limit ∧ ∀ r, kind r → ¬ beyond p r)

namespace Slot

/-- A word begins at the slot, where `front` is the slot in front of it. -/
def BeginsWord (t : Slot) (front : Option Slot) : Prop :=
  t.isGap = false ∧ ∀ s ∈ front, s.cls = .blank ∨ s.cls ≠ t.cls

/-- A word ends at the slot, where `next` is the slot behind it. -/
def EndsWord (t : Slot) (next : Option Slot) : Prop :=
  t.cls ≠ .blank ∧ ∀ u ∈ next, u.cls ≠ t.cls

instance (t : Slot) (front : Option Slot) : Decidable (t.BeginsWord front) :=
  inferInstanceAs (Decidable (_ ∧ _))

instance (t : Slot) (next : Option Slot) : Decidable (t.EndsWord next) :=
  inferInstanceAs (Decidable (_ ∧ _))

/-! ## Walks from slot to slot -/

section Advance

variable {p : Slot → Bool} {s : Slot}

/-- A slot that does not satisfy the condition is where the walk stops. -/
theorem advanceWhile_of_not (hs : p s = false) (later : List Slot) :
    advanceWhile p s later = (s, later, true) := by
  cases later <;> simp [advanceWhile, hs]

/-- A walk may come to the last slot and find no place to stop. -/
theorem advanceWhile_nil (hs : p s = true) : advanceWhile p s [] = (s, [], false) := by
  rw [advanceWhile, hs, Bool.not_true]

/-- A slot that satisfies the condition is passed. -/
theorem advanceWhile_cons (hs : p s = true) (t : Slot) (later : List Slot) :
    advanceWhile p s (t :: later) = advanceWhile p t later :=
  if_pos hs

/-- A gap is a blank cluster or the end of a line that is not empty. -/
theorem cls_of_isGap (hs : s.isGap = true) : s.cls = .blank := by
  rw [isGap, Bool.and_eq_true] at hs
  exact beq_iff_eq.1 hs.1

/-- What is not blank is no gap. -/
theorem not_isGap_of_ne (hs : s.cls ≠ .blank) : s.isGap = false := by
  rw [isGap, beq_eq_false_iff_ne.2 hs, Bool.false_and]

end Advance

variable (n : Nat) (s t : Slot) (later : List Slot)

/-- The walk to the beginning of a word passes over the slots at which none begins. -/
theorem wordStart_cons :
    wordStart (n + 1) s (t :: later) =
      if t.BeginsWord (some s) then wordStart n t later else wordStart (n + 1) t later := by
  by_cases hsame : s.cls ≠ .blank ∧ t.cls = s.cls
  · -- the word that the walk starts from goes on at `t`
    obtain ⟨hs, ht⟩ := hsame
    have hnone : ¬ t.BeginsWord (some s) := fun h => (h.2 s rfl).elim hs fun h => h ht.symm
    have hclass : (t.cls == s.cls) = true := beq_iff_eq.2 ht
    rw [if_neg hnone]
    cases later with
    | nil => simp only [wordStart, if_neg hs, advanceWhile_nil (p := (·.cls == s.cls)) hclass]; rfl
    | cons u later =>
      simp only [wordStart, ht, if_neg hs, advanceWhile_cons (p := (·.cls == s.cls)) hclass]
  · -- it ended in front of `t`
    have hown : (if s.cls = .blank then (t, later, true)
        else advanceWhile (·.cls == s.cls) t later) = (t, later, true) := by
      split
      · rfl
      · rename_i hs
        have hother : (t.cls == s.cls) = false := beq_eq_false_iff_ne.2 fun ht => hsame ⟨hs, ht⟩
        exact advanceWhile_of_not (p := (·.cls == s.cls)) hother later
    rw [wordStart, hown, if_pos rfl]
    cases hgap : t.isGap with
    | false =>
      have hbegins : t.BeginsWord (some s) := by
        refine ⟨hgap, fun u hu => ?_⟩
        obtain rfl : s = u := Option.some.inj hu
        by_cases hs : s.cls = .blank
        · exact .inl hs
        · exact .inr fun h => hsame ⟨hs, h.symm⟩
      rw [if_pos hbegins, advanceWhile_of_not hgap, if_pos rfl]
    | true =>
      have hnone : ¬ t.BeginsWord (some s) := fun h => Bool.false_ne_true (h.1.symm.trans hgap)
      rw [if_neg hnone]
      cases later with
      | nil => rw [advanceWhile_nil hgap]; rfl
      | cons u later => rw [advanceWhile_cons hgap, wordStart, if_pos (cls_of_isGap hgap)]; rfl

/-- The walk back to the beginning of a word passes over the slots at which none begins. -/
theorem wordBack_cons :
    wordBack (n + 1) s (t :: later) =
      if t.BeginsWord later.head? then wordBack n t later else wordBack (n + 1) t later := by
  cases hgap : t.isGap with
  | true =>
    have hnone : ¬ t.BeginsWord later.head? := fun h => Bool.false_ne_true (h.1.symm.trans hgap)
    rw [if_neg hnone, wordBack]
    cases later with
    | nil => rw [advanceWhile_nil hgap]; rfl
    | cons u later => rw [advanceWhile_cons hgap, wordBack]
  | false =>
    rw [wordBack, advanceWhile_of_not hgap, if_pos rfl]
    by_cases ht : t.cls = .blank
    · -- an empty line
      have hbegins : t.BeginsWord later.head? :=
        ⟨hgap, fun u _ => (Decidable.em (u.cls = .blank)).imp_right fun hu h => hu (h.trans ht)⟩
      rw [if_pos hbegins]
      simp only [if_pos ht]
    simp only [if_neg ht]
    cases later with
    | nil =>
      have hbegins : t.BeginsWord none := ⟨hgap, nofun⟩
      exact (if_pos hbegins).symm
    | cons u later =>
      by_cases hu : u.cls = t.cls
      · -- the word goes on at `u`
        have hnone : ¬ t.BeginsWord (some u) := fun h =>
          (h.2 u rfl).elim (fun hblank => ht (hu ▸ hblank)) fun h => h hu
        have hword : u.cls ≠ .blank := hu ▸ ht
        rw [List.head?_cons, if_neg hnone, runEnd, if_pos hu, wordBack,
          advanceWhile_of_not (not_isGap_of_ne hword), if_pos rfl]
        simp only [if_neg hword]
      · have hbegins : t.BeginsWord (some u) := by
          refine ⟨hgap, fun v hv => ?_⟩
          obtain rfl : u = v := Option.some.inj hv
          exact .inr hu
        rw [List.head?_cons, if_pos hbegins, runEnd, if_neg hu]

/-- The walk to the end of a word passes over the slots at which none ends. -/
theorem wordEnd_cons :
    wordEnd (n + 1) s (t :: later) =
      if t.EndsWord later.head? then wordEnd n t later else wordEnd (n + 1) s later := by
  by_cases ht : t.cls = .blank
  · have hblank : (t.cls == .blank) = true := beq_iff_eq.2 ht
    have hnone : ¬ t.EndsWord later.head? := fun h => h.1 ht
    rw [if_neg hnone, wordEnd]
    cases later with
    | nil => rw [advanceWhile_nil (p := (·.cls == .blank)) hblank]; rfl
    | cons u later => rw [advanceWhile_cons (p := (·.cls == .blank)) hblank, wordEnd]
  · have hword : (t.cls == .blank) = false := beq_eq_false_iff_ne.2 ht
    rw [wordEnd, advanceWhile_of_not (p := (·.cls == .blank)) hword, if_pos rfl]
    cases later with
    | nil =>
      have hends : t.EndsWord none := ⟨ht, nofun⟩
      exact (if_pos hends).symm
    | cons u later =>
      by_cases hu : u.cls = t.cls
      · -- the word goes on at `u`
        have hnone : ¬ t.EndsWord (some u) := fun h => h.2 u rfl hu
        have hlater : (u.cls == .blank) = false := beq_eq_false_iff_ne.2 (hu ▸ ht)
        rw [List.head?_cons, if_neg hnone, runEnd, if_pos hu, wordEnd,
          advanceWhile_of_not (p := (·.cls == .blank)) hlater, if_pos rfl]
      · have hends : t.EndsWord (some u) := by
          refine ⟨ht, fun v hv => ?_⟩
          obtain rfl : u = v := Option.some.inj hv
          exact hu
        rw [List.head?_cons, if_pos hends, runEnd, if_neg hu]

end Slot

/-! ## Words and slots -/

section Parted

variable {big : Bool} {l : Text} {before behind : List Cluster}
  (hgs : clusters l = before ++ behind)
include hgs

/-- The clusters around an offset are those around every place where it parts the line. -/
theorem parts_eq {before' behind' : List Cluster} (hgs' : clusters l = before' ++ behind')
    (hsize : byteSize before'.flatten = byteSize before.flatten) :
    before' = before ∧ behind' = behind :=
  parts_unique (fun _ hg => clusters_ne_nil (hgs' ▸ hg)) (hgs'.symm.trans hgs) hsize

/-- A word begins where a cluster is not blank and the one in front is of another class. -/
theorem wordBegins_iff :
    WordBegins big l (byteSize before.flatten) ↔ Slot.headClass big behind ≠ .blank ∧
      ∀ h ∈ before.getLast?, classify big h ≠ Slot.headClass big behind := by
  constructor
  · rintro ⟨before', g, behind', hgs', hsize, hg, hfront⟩
    obtain ⟨rfl, rfl⟩ := parts_eq hgs hgs' hsize
    exact ⟨hg, hfront⟩
  · rintro ⟨hg, hfront⟩
    cases behind with
    | nil => exact absurd rfl hg
    | cons g behind => exact ⟨before, g, behind, hgs, rfl, hg, hfront⟩

/-- A word ends where a cluster is not blank and the one behind is of another class. -/
theorem wordEnds_iff :
    WordEnds big l (byteSize before.flatten) ↔ Slot.headClass big behind ≠ .blank ∧
      ∀ h ∈ behind.tail.head?, classify big h ≠ Slot.headClass big behind := by
  constructor
  · rintro ⟨before', g, behind', hgs', hsize, hg, hnext⟩
    obtain ⟨rfl, rfl⟩ := parts_eq hgs hgs' hsize
    exact ⟨hg, hnext⟩
  · rintro ⟨hg, hnext⟩
    cases behind with
    | nil => exact absurd rfl hg
    | cons g behind => exact ⟨before, g, behind, hgs, rfl, hg, hnext⟩

end Parted

namespace Buffer

open Slot

variable {b : Buffer} {big : Bool}

section Between

variable {row : Nat} {l : Text} {before behind : List Cluster} (hl : b.line? row = some l)
  (hgs : clusters l = before ++ behind)
include hl hgs

/-- A word begins at a slot if the slot is no gap and the cluster in front, if there is one, is of
another class; the slot of an empty line is such a slot. -/
theorem isWordStart_between :
    b.IsWordStart big (between big row before behind).place ↔
      (between big row before behind).isGap = false ∧
        ∀ h ∈ before.getLast?, classify big h ≠ headClass big behind := by
  -- the line of the row is `l`, so the claim is about the offset in it
  have hplace : b.IsWordStart big (between big row before behind).place ↔
      WordBegins big l (byteSize before.flatten) ∨ l = [] ∧ byteSize before.flatten = 0 := by
    constructor
    · rintro ⟨m, hm, h⟩
      obtain rfl : l = m := Option.some.inj (hl.symm.trans hm)
      exact h
    · exact fun h => ⟨l, hl, h⟩
  have hempty : (before ++ behind).isEmpty = true ↔ l = [] := by
    rw [← hgs, isEmpty_clusters, List.isEmpty_iff]
  rw [hplace, wordBegins_iff hgs]
  -- on an empty line the one slot is no gap and has no cluster in front
  by_cases hline : l = []
  · obtain ⟨rfl, rfl⟩ := List.append_eq_nil_iff.1 (List.isEmpty_iff.1 (hempty.2 hline))
    exact iff_of_true (.inr ⟨hline, rfl⟩) ⟨rfl, nofun⟩
  · have hcls : (between big row before behind).isGap = false ↔
        headClass big behind ≠ .blank := by
      have hsome : (before ++ behind).isEmpty = false :=
        Bool.eq_false_iff.2 fun h => hline (hempty.1 h)
      show (headClass big behind == .blank && !(before ++ behind).isEmpty) = false ↔ _
      rw [hsome, Bool.not_false, Bool.and_true, beq_eq_false_iff_ne]
    rw [hcls, or_iff_left fun h => hline h.1]

/-- A word ends at a slot in the same way. -/
theorem isWordEnd_between :
    b.IsWordEnd big (between big row before behind).place ↔
      headClass big behind ≠ .blank ∧
        ∀ h ∈ behind.tail.head?, classify big h ≠ headClass big behind := by
  rw [← wordEnds_iff hgs]
  constructor
  · rintro ⟨m, hm, h⟩
    obtain rfl : l = m := Option.some.inj (hl.symm.trans hm)
    exact h
  · exact fun h => ⟨l, hl, h⟩

end Between

/-- Behind a slot a word begins if the two are of different classes, which also holds across a line
break. -/
theorem Adjacent.isWordStart_iff {s t : Slot} (h : b.Adjacent big s t) :
    b.IsWordStart big t.place ↔ t.BeginsWord (some s) := by
  cases h with
  | @cluster row l before behind g hl hgs =>
    have hsplit : clusters l = (before ++ [g]) ++ behind := by rw [hgs, List.append_cons]
    rw [isWordStart_between hl hsplit, List.getLast?_concat]
    refine and_congr_right fun hgap => ?_
    -- behind a cluster of the line there is no empty line, so `t` is not blank
    have hword : headClass big behind ≠ .blank := by
      intro hblank
      rw [isGap, between, hblank, List.append_assoc] at hgap
      simp at hgap
    constructor
    · rintro hg s hs
      obtain rfl : between big row before (g :: behind) = s := Option.some.inj hs
      exact .inr (hg g rfl)
    · rintro hs h hh
      obtain rfl : g = h := Option.some.inj hh
      exact (hs _ rfl).elim (fun hblank heq => hword (heq ▸ hblank)) fun hne => hne
  | @lineBreak row l m hl hm =>
    rw [isWordStart_between hm (List.nil_append _).symm]
    exact and_congr_right fun _ => iff_of_true (by rintro g ⟨⟩) fun u hu => .inl (by cases hu; rfl)

/-- In front of a slot a word ends if the two are of different classes. -/
theorem Adjacent.isWordEnd_iff {s t : Slot} (h : b.Adjacent big s t) :
    b.IsWordEnd big s.place ↔ s.EndsWord (some t) := by
  cases h with
  | @cluster row l before behind g hl hgs =>
    rw [isWordEnd_between hl hgs]
    refine and_congr_right fun hword => ?_
    rw [List.tail_cons]
    constructor
    · rintro hnext t ht
      obtain rfl : between big row (before ++ [g]) behind = t := Option.some.inj ht
      cases behind with
      | nil => exact hword.symm
      | cons h behind => exact hnext h rfl
    · rintro ht h hh
      obtain ⟨behind, rfl⟩ := List.head?_eq_some_iff.1 hh
      exact ht _ rfl
  | @lineBreak row l m hl hm =>
    rw [isWordEnd_between hl (List.append_nil _).symm]
    exact iff_of_false (fun h => h.1 rfl) fun h => h.1 rfl

section Neighbours

variable {before later : List Slot} {t : Slot} (hslots : b.slots big = before ++ t :: later)
include hslots

/-- Whether a word begins at a slot can be told from the slot in front of it. -/
theorem isWordStart_iff_beginsWord :
    b.IsWordStart big t.place ↔ t.BeginsWord before.getLast? := by
  obtain ⟨hchain, ⟨l, hl, hfirst⟩, -⟩ := b.isChain_slots big
  rw [hslots] at hchain hfirst
  cases hbefore : before.getLast? with
  | some s =>
    obtain ⟨front, rfl⟩ := List.getLast?_eq_some_iff.1 hbefore
    have hadjacent : b.Adjacent big s t := (List.isChain_append.1 hchain).2.2 s hbefore t rfl
    exact hadjacent.isWordStart_iff
  | none =>
    -- it is the first slot of the document
    rw [List.getLast?_eq_none_iff.1 hbefore] at hfirst
    obtain rfl := Option.some.inj hfirst
    rw [isWordStart_between hl (List.nil_append _).symm]
    exact and_congr_right fun _ => iff_of_true nofun nofun

/-- Whether a word ends at a slot can be told from the slot behind it. -/
theorem isWordEnd_iff_endsWord : b.IsWordEnd big t.place ↔ t.EndsWord later.head? := by
  obtain ⟨hchain, -, l, hl, hlast⟩ := b.isChain_slots big
  rw [hslots] at hchain hlast
  cases later with
  | cons u later =>
    have hadjacent : b.Adjacent big t u :=
      (List.isChain_cons_cons.1 (List.isChain_append.1 hchain).2.1).1
    exact hadjacent.isWordEnd_iff
  | nil =>
    -- it is the last slot of the document
    rw [List.getLast?_concat] at hlast
    obtain rfl := Option.some.inj hlast
    rw [isWordEnd_between hl (List.append_nil _).symm]
    exact iff_of_false (fun h => h.1 rfl) fun h => h.1 rfl

end Neighbours

/-- A word begins at a position of the text. -/
theorem IsWordStart.clamp {p : Position} (h : b.IsWordStart big p) : b.clamp p = p := by
  obtain ⟨l, hl, ⟨before, g, behind, hgs, hsize, -⟩ | ⟨rfl, hcol⟩⟩ := h
  · exact clamp_eq_self_iff.2 ⟨l, hl, before, g :: behind, hgs, hsize⟩
  · exact clamp_eq_self_iff.2 ⟨[], hl, hcol ▸ parts_zero _⟩

/-- A word ends at a position of the text. -/
theorem IsWordEnd.clamp {p : Position} (h : b.IsWordEnd big p) : b.clamp p = p := by
  obtain ⟨l, hl, before, g, behind, hgs, hsize, -⟩ := h
  exact clamp_eq_self_iff.2 ⟨l, hl, before, g :: behind, hgs, hsize⟩

end Buffer

/-! ## Walks to slots of a kind -/

namespace Slot

/-- A walk that passes over slots until it comes to one of a kind. Behind a slot that it passes it
goes on from `onward`, and `fits` is what is known of the slots that it has before it. -/
structure Passes (walk : Nat → Slot → List Slot → Slot) (onward : Slot → Slot → Slot)
    (kind : Position → Prop) (fits : Slot → List Slot → Prop) : Prop where
  zero : ∀ s later, walk 0 s later = s
  nil : ∀ n s, walk (n + 1) s [] = s
  stop : ∀ n s t later, fits s (t :: later) → kind t.place →
    walk (n + 1) s (t :: later) = walk n t later
  pass : ∀ n s t later, fits s (t :: later) → ¬ kind t.place →
    walk (n + 1) s (t :: later) = walk (n + 1) (onward s t) later
  pass_fits : ∀ s t later, fits s (t :: later) → fits (onward s t) later

/-- The slots in the order in which a motion passes them. -/
structure Along (along : List Slot) (beyond : Position → Position → Prop)
    (kind : Position → Prop) : Prop where
  asymm : ∀ p q, beyond p q → ¬ beyond q p
  pairwise : along.Pairwise fun s t => beyond s.place t.place
  covers : ∀ r, kind r → ∃ u ∈ along, u.place = r

section Walk

variable {walk : Nat → Slot → List Slot → Slot} {onward : Slot → Slot → Slot}
  {kind : Position → Prop} {beyond : Position → Position → Prop} {fits : Slot → List Slot → Prop}
  {along later : List Slot} {s : Slot}

/-- The walk comes to the first slot of the kind, or passes all. -/
theorem Passes.cases (h : Passes walk onward kind fits) (hfits : fits s later) :
    (∃ passed t rest, later = passed ++ t :: rest ∧ kind t.place ∧
        (∀ u ∈ passed, ¬ kind u.place) ∧ ∀ n, walk (n + 1) s later = walk n t rest) ∨
      (∀ u ∈ later, ¬ kind u.place) ∧ ∀ n, walk (n + 1) s later = later.foldl onward s := by
  induction later generalizing s with
  | nil => exact .inr ⟨nofun, fun n => h.nil n s⟩
  | cons t later ih =>
    by_cases ht : kind t.place
    · exact .inl ⟨[], t, later, rfl, ht, nofun, fun n => h.stop n s t later hfits ht⟩
    · have hpass n := h.pass n s t later hfits ht
      rcases ih (h.pass_fits s t later hfits) with
        ⟨passed, u, rest, rfl, hu, hnone, hwalk⟩ | ⟨hnone, hwalk⟩
      · refine .inl ⟨t :: passed, u, rest, rfl, hu, List.forall_mem_cons.2 ⟨ht, hnone⟩, fun n => ?_⟩
        rw [hpass, hwalk]
      · refine .inr ⟨List.forall_mem_cons.2 ⟨ht, hnone⟩, fun n => ?_⟩
        rw [hpass, hwalk, List.foldl_cons]

/-- What lies beyond a slot is among the slots behind it. -/
theorem Along.mem_later (h : Along along beyond kind) (hs : s :: later <:+ along) {r : Position}
    (hr : kind r) (hbeyond : beyond s.place r) : ∃ u ∈ later, u.place = r := by
  obtain ⟨before, rfl⟩ := hs
  obtain ⟨u, hu, rfl⟩ := h.covers r hr
  rcases List.mem_append.1 hu with hbefore | hu
  · have hfront := (List.pairwise_append.1 h.pairwise).2.2 u hbefore s List.mem_cons_self
    exact absurd hbeyond (h.asymm _ _ hfront)
  · rcases List.mem_cons.1 hu with rfl | hlater
    · exact absurd hbeyond (h.asymm _ _ hbeyond)
    · exact ⟨u, hlater, rfl⟩

/-- The first slot of the kind is at the nearest place of the kind. -/
theorem Along.nearest (h : Along along beyond kind) {passed rest : List Slot} {t : Slot}
    (hs : s :: (passed ++ t :: rest) <:+ along) (ht : kind t.place)
    (hpassed : ∀ u ∈ passed, ¬ kind u.place) (limit : Position) :
    Nearest beyond kind s.place limit t.place := by
  obtain ⟨hfront, hpairs⟩ := List.pairwise_cons.1 (h.pairwise.sublist hs.sublist)
  refine .inl ⟨ht, hfront t (List.mem_append_right _ List.mem_cons_self),
    fun r hr hbeyond hless => ?_⟩
  obtain ⟨u, hu, rfl⟩ := h.mem_later hs hr hbeyond
  rcases List.mem_append.1 hu with hu | hu
  · exact hpassed u hu hr
  · rcases List.mem_cons.1 hu with rfl | hu
    · exact h.asymm _ _ hless hless
    · have hbehind := (List.pairwise_cons.1 (List.pairwise_append.1 hpairs).2.1).1 u hu
      exact h.asymm _ _ hless hbehind

/-- A motion that is such a walk lands on the nearest place of the kind, and goes on from there for
the rest of its count. Where it comes to if it passes all, it stays. -/
theorem Passes.lands (motion : Position → Nat → Position) (h : Passes walk onward kind fits)
    (halong : Along along beyond kind) (hfits : ∀ s later, s :: later <:+ along → fits s later)
    (hmotion : ∀ n s later, s :: later <:+ along → motion s.place n = (walk n s later).place)
    (hs : s :: later <:+ along) {limit : Position}
    (hlimit : (∀ u ∈ later, ¬ kind u.place) → (later.foldl onward s).place = limit ∧
      ∀ n, motion limit n = limit) :
    Nearest beyond kind s.place limit (motion s.place 1) ∧
      ∀ n, motion s.place (n + 1) = motion (motion s.place 1) n := by
  -- the walk passes slots up to one of the kind, from which the rest of the count goes on, or all of
  -- them
  have hwalk n := hmotion n s later hs
  rcases h.cases (hfits s later hs) with
    ⟨passed, t, rest, rfl, ht, hpassed, hcomes⟩ | ⟨hnone, hcomes⟩
  · have hone : motion s.place 1 = t.place := by rw [hwalk, hcomes, h.zero]
    have hrest : t :: rest <:+ along :=
      ((List.suffix_append passed _).trans (List.suffix_cons s _)).trans hs
    rw [hone]
    refine ⟨halong.nearest hs ht hpassed limit, fun n => ?_⟩
    rw [hwalk, hcomes, hmotion n t rest hrest]
  · obtain ⟨hlast, hstays⟩ := hlimit hnone
    have hall n : motion s.place (n + 1) = limit := by rw [hwalk, hcomes, hlast]
    refine ⟨.inr ⟨hall 0, fun r hr hbeyond => ?_⟩, fun n => ?_⟩
    · obtain ⟨u, hu, rfl⟩ := halong.mem_later hs hr hbeyond
      exact hnone u hu hr
    · rw [hall, hall, hstays]

/-- A walk that goes on from each slot that it passes ends on the last one. -/
theorem exists_concat_foldl (s : Slot) (later : List Slot) :
    ∃ front, s :: later = front ++ [later.foldl (fun _ t => t) s] := by
  induction later generalizing s with
  | nil => exact ⟨[], rfl⟩
  | cons t later ih =>
    obtain ⟨front, heq⟩ := ih t
    exact ⟨s :: front, congrArg (s :: ·) heq⟩

/-- A motion that goes on from each slot that it passes is limited by the last slot. -/
theorem Passes.lands_last (motion : Position → Nat → Position)
    (h : Passes walk (fun _ t => t) kind fits) (halong : Along along beyond kind)
    (hfits : ∀ s later, s :: later <:+ along → fits s later)
    (hmotion : ∀ n s later, s :: later <:+ along → motion s.place n = (walk n s later).place)
    (hs : s :: later <:+ along) {limit : Position}
    (hlimit : ∀ f ∈ along.getLast?, f.place = limit) :
    Nearest beyond kind s.place limit (motion s.place 1) ∧
      ∀ n, motion s.place (n + 1) = motion (motion s.place 1) n := by
  refine h.lands motion halong hfits hmotion hs fun _ => ?_
  obtain ⟨front, hfront⟩ := exists_concat_foldl s later
  generalize later.foldl (fun _ t => t) s = f at hfront ⊢
  obtain ⟨before, hslots⟩ := hs
  rw [hfront, ← List.append_assoc] at hslots
  have hend : f.place = limit := hlimit f (hslots ▸ List.getLast?_concat)
  refine ⟨hend, fun n => ?_⟩
  rw [← hend, hmotion n f [] ⟨_, hslots⟩]
  cases n with
  | zero => rw [h.zero]
  | succ n => rw [h.nil]

end Walk

end Slot

namespace Buffer

open Slot

variable {b : Buffer} {big : Bool}

/-! ## Word motions -/

section Directions

variable {kind : Position → Prop} (hkind : ∀ r, kind r → b.clamp r = r)
include hkind

/-- Slots lie one behind the other in the text, and every place of the kind is one of theirs. -/
theorem along_slots : Along (b.slots big) (· < ·) kind where
  asymm _ _ h := Position.lt_asymm h
  pairwise := b.pairwise_slots big
  covers r hr := exists_slot_iff.2 (hkind r hr)

/-- The same in the opposite direction. -/
theorem along_reverse : Along (b.slots big).reverse (fun p q => q < p) kind where
  asymm _ _ h := Position.lt_asymm h
  pairwise := List.pairwise_reverse.2 (b.pairwise_slots big)
  covers r hr := by
    simp only [List.mem_reverse]
    exact exists_slot_iff.2 (hkind r hr)

end Directions

/-- What is left of a backward walk is the beginning of the text, read backwards. -/
theorem exists_eq_of_suffix_reverse {l later : List Slot} {t : Slot}
    (h : t :: later <:+ l.reverse) : ∃ behind, l = later.reverse ++ t :: behind := by
  obtain ⟨behind, heq⟩ := h
  refine ⟨behind.reverse, ?_⟩
  rw [← List.reverse_reverse l, ← heq, List.reverse_append, List.reverse_cons, List.append_assoc,
    List.singleton_append]

/-- The walk to the beginning of a word passes the slots at which none begins. -/
theorem passes_wordStart (b : Buffer) (big : Bool) :
    Passes wordStart (fun _ t => t) (b.IsWordStart big) fun s later =>
      s :: later <:+ b.slots big := by
  have hkind {s t : Slot} {later : List Slot} (h : s :: t :: later <:+ b.slots big) :
      b.IsWordStart big t.place ↔ t.BeginsWord (some s) := by
    obtain ⟨before, hslots⟩ := h
    have hsplit : b.slots big = (before ++ [s]) ++ t :: later := by
      rw [← hslots, List.append_assoc, List.singleton_append]
    rw [isWordStart_iff_beginsWord hsplit, List.getLast?_concat]
  refine ⟨fun _ _ => rfl, fun _ _ => rfl, fun n s t later h ht => ?_, fun n s t later h ht => ?_,
    fun s t later h => (List.suffix_cons s _).trans h⟩
  · rw [wordStart_cons, if_pos ((hkind h).1 ht)]
  · rw [wordStart_cons, if_neg fun hbegins => ht ((hkind h).2 hbegins)]

/-- The walk back to the beginning of a word passes the slots at which none begins. -/
theorem passes_wordBack (b : Buffer) (big : Bool) :
    Passes wordBack (fun _ t => t) (b.IsWordStart big) fun _ later =>
      later <:+ (b.slots big).reverse := by
  have hkind {t : Slot} {later : List Slot} (h : t :: later <:+ (b.slots big).reverse) :
      b.IsWordStart big t.place ↔ t.BeginsWord later.head? := by
    obtain ⟨behind, hslots⟩ := exists_eq_of_suffix_reverse h
    rw [isWordStart_iff_beginsWord hslots, List.getLast?_reverse]
  refine ⟨fun _ _ => rfl, fun _ _ => rfl, fun n s t later h ht => ?_, fun n s t later h ht => ?_,
    fun s t later h => (List.suffix_cons t _).trans h⟩
  · rw [wordBack_cons, if_pos ((hkind h).1 ht)]
  · rw [wordBack_cons, if_neg fun hbegins => ht ((hkind h).2 hbegins)]

/-- The walk to the end of a word passes the slots at which none ends, and stays if there is none. -/
theorem passes_wordEnd (b : Buffer) (big : Bool) :
    Passes wordEnd (fun s _ => s) (b.IsWordEnd big) fun _ later => later <:+ b.slots big := by
  have hkind {t : Slot} {later : List Slot} (h : t :: later <:+ b.slots big) :
      b.IsWordEnd big t.place ↔ t.EndsWord later.head? := by
    obtain ⟨before, hslots⟩ := h
    exact isWordEnd_iff_endsWord hslots.symm
  refine ⟨fun _ _ => rfl, fun _ _ => rfl, fun n s t later h ht => ?_, fun n s t later h ht => ?_,
    fun s t later h => (List.suffix_cons t _).trans h⟩
  · rw [wordEnd_cons, if_pos ((hkind h).1 ht)]
  · rw [wordEnd_cons, if_neg fun hends => ht ((hkind h).2 hends)]

section Motions

variable {s : Slot} {later : List Slot}

/-- A slot lies at a position of the text. -/
theorem clamp_place (hs : s ∈ b.slots big) : b.clamp s.place = s.place :=
  exists_slot_iff.1 ⟨s, hs, rfl⟩

/-- A forward motion from a slot walks over the slots behind it. -/
theorem walkForward_place (hs : s :: later <:+ b.slots big) (walk : Slot → List Slot → Slot) :
    b.walkForward s.place big walk = (walk s later).place := by
  obtain ⟨before, hslots⟩ := hs
  have hmem : s ∈ b.slots big := hslots ▸ List.mem_append_right _ List.mem_cons_self
  simp only [walkForward, clamp_place hmem, dropWhile_slots hslots.symm]

/-- A backward motion from a slot walks over the slots in front of it. -/
theorem wordBackward_place (hs : s :: later <:+ (b.slots big).reverse) (n : Nat) :
    b.wordBackward s.place n big = (wordBack n s later).place := by
  obtain ⟨behind, hslots⟩ := exists_eq_of_suffix_reverse hs
  have hmem : s ∈ b.slots big := hslots ▸ List.mem_append_right _ List.mem_cons_self
  simp only [wordBackward, clamp_place hmem, dropWhile_slots hslots, takeWhile_slots hslots,
    List.reverse_reverse]

end Motions

/-- Every position of the text is the place of a slot, with the slots behind it. -/
theorem exists_suffix_slots {p : Position} (hp : b.clamp p = p) (big : Bool) :
    ∃ s later, s.place = p ∧ s :: later <:+ b.slots big := by
  obtain ⟨s, hs, hplace⟩ := exists_slot_iff.2 hp
  obtain ⟨before, later, hslots⟩ := List.append_of_mem hs
  exact ⟨s, later, hplace, before, hslots.symm⟩

/-- Every position of the text is the place of a slot, with the slots in front of it. -/
theorem exists_suffix_reverse {p : Position} (hp : b.clamp p = p) (big : Bool) :
    ∃ s later, s.place = p ∧ s :: later <:+ (b.slots big).reverse := by
  obtain ⟨s, hs, hplace⟩ := exists_slot_iff.2 hp
  obtain ⟨before, later, hslots⟩ := List.append_of_mem (List.mem_reverse.2 hs)
  exact ⟨s, later, hplace, before, hslots.symm⟩

/-- The last slot is at the end of the text. -/
theorem place_of_getLast?_slots {f : Slot} (hf : f ∈ (b.slots big).getLast?) :
    f.place = b.endPosition := by
  obtain ⟨-, -, l, hl, hlast⟩ := b.isChain_slots big
  obtain rfl := Option.some.inj (hlast.symm.trans hf)
  have hline : b.line b.lastRow = l := by rw [line, hl, Option.getD_some]
  rw [between, endPosition, lineSize, hline, flatten_clusters]

/-- The first slot is at the beginning of the text. -/
theorem place_of_head?_slots {f : Slot} (hf : f ∈ (b.slots big).head?) : f.place = .origin := by
  obtain ⟨-, ⟨l, -, hfirst⟩, -⟩ := b.isChain_slots big
  obtain rfl := Option.some.inj (hfirst.symm.trans hf)
  rfl

section Lands

variable {p : Position} (hp : b.clamp p = p) (big : Bool)
include hp

/-- One step forward lands on the next beginning of a word, or at the end of the text; more steps repeat
it. -/
theorem wordForward_lands :
    Nearest (· < ·) (b.IsWordStart big) p b.endPosition (b.wordForward p 1 big) ∧
      ∀ n, b.wordForward p (n + 1) big = b.wordForward (b.wordForward p 1 big) n big := by
  obtain ⟨s, later, rfl, hs⟩ := exists_suffix_slots hp big
  exact (b.passes_wordStart big).lands_last (fun p n => b.wordForward p n big)
    (along_slots fun _ h => h.clamp) (fun _ _ h => h) (fun n _ _ h => walkForward_place h _) hs
    fun _ hf => place_of_getLast?_slots hf

/-- One step back lands on the last beginning of a word before, or at the beginning of the text. -/
theorem wordBackward_lands :
    Nearest (fun p q => q < p) (b.IsWordStart big) p .origin (b.wordBackward p 1 big) ∧
      ∀ n, b.wordBackward p (n + 1) big = b.wordBackward (b.wordBackward p 1 big) n big := by
  obtain ⟨s, later, rfl, hs⟩ := exists_suffix_reverse hp big
  refine (b.passes_wordBack big).lands_last (fun p n => b.wordBackward p n big)
    (along_reverse fun _ h => h.clamp) (fun s _ h => (List.suffix_cons s _).trans h)
    (fun n _ _ h => wordBackward_place h n) hs fun f hf => ?_
  rw [List.getLast?_reverse] at hf
  exact place_of_head?_slots hf

/-- One step to the end of a word lands on the next one, or stays where it is. -/
theorem wordEndForward_lands :
    Nearest (· < ·) (b.IsWordEnd big) p p (b.wordEndForward p 1 big) ∧
      ∀ n, b.wordEndForward p (n + 1) big =
        b.wordEndForward (b.wordEndForward p 1 big) n big := by
  obtain ⟨s, later, rfl, hs⟩ := exists_suffix_slots hp big
  have hpasses := b.passes_wordEnd big
  have hlater : later <:+ b.slots big := (List.suffix_cons s _).trans hs
  refine hpasses.lands (fun p n => b.wordEndForward p n big) (along_slots fun _ h => h.clamp)
    (fun s _ h => (List.suffix_cons s _).trans h) (fun n _ _ h => walkForward_place h _) hs
    fun hnone => ?_
  have hstays : later.foldl (fun s _ => s) s = s := List.foldl_fixed later
  refine ⟨congrArg Slot.place hstays, fun n => ?_⟩
  show b.walkForward s.place big (wordEnd n) = s.place
  rw [walkForward_place hs]
  cases n with
  | zero => rfl
  | succ n =>
    rcases hpasses.cases hlater with ⟨passed, t, rest, rfl, ht, -⟩ | ⟨-, hcomes⟩
    · exact absurd ht (hnone t (List.mem_append_right _ List.mem_cons_self))
    · rw [hcomes, hstays]

end Lands

/-- The end of the text is a position of it. -/
theorem clamp_endPosition (b : Buffer) : b.clamp b.endPosition = b.endPosition := by
  obtain ⟨-, -, l, hl, hlast⟩ := b.isChain_slots true
  rw [← place_of_getLast?_slots hlast]
  exact clamp_place (List.mem_of_getLast? hlast)

/-- The beginning of the text is a position of it. -/
theorem clamp_origin (b : Buffer) : b.clamp .origin = .origin := by
  obtain ⟨-, ⟨l, hl, hfirst⟩, -⟩ := b.isChain_slots true
  rw [← place_of_head?_slots hfirst]
  exact clamp_place (List.mem_of_head? hfirst)

/-- The nearest place is a position of the text, since places of the kind and the limit are. -/
theorem clamp_of_nearest {beyond : Position → Position → Prop} {kind : Position → Prop}
    {p limit q : Position} (h : Nearest beyond kind p limit q)
    (hkind : ∀ r, kind r → b.clamp r = r) (hlimit : b.clamp limit = limit) : b.clamp q = q := by
  rcases h with ⟨hq, -⟩ | ⟨rfl, -⟩
  · exact hkind q hq
  · exact hlimit

/-- A motion that goes on from where it lands for the rest of its count repeats single steps. -/
theorem iterate_of_step (motion : Position → Nat → Position)
    (hzero : ∀ p, b.clamp p = p → motion p 0 = p)
    (hstep : ∀ p, b.clamp p = p → b.clamp (motion p 1) = motion p 1 ∧
      ∀ n, motion p (n + 1) = motion (motion p 1) n)
    {p : Position} (hp : b.clamp p = p) (n : Nat) :
    motion p n = (fun p => motion p 1)^[n] p := by
  induction n generalizing p with
  | zero => exact hzero p hp
  | succ n ih =>
    obtain ⟨hvalid, hsucc⟩ := hstep p hp
    rw [hsucc, ih hvalid, Function.iterate_succ_apply]

section Iterate

variable {p : Position} (hp : b.clamp p = p) (big : Bool) (n : Nat)
include hp

/-- A count of words forward is as many single steps. -/
theorem wordForward_iterate : b.wordForward p n big = (b.wordForward · 1 big)^[n] p := by
  refine iterate_of_step (fun p n => b.wordForward p n big) (fun p hp => ?_) (fun p hp => ?_) hp n
  · obtain ⟨s, later, rfl, hs⟩ := exists_suffix_slots hp big
    exact walkForward_place hs _
  · obtain ⟨hnearest, hsucc⟩ := wordForward_lands hp big
    exact ⟨clamp_of_nearest hnearest (fun _ h => h.clamp) b.clamp_endPosition, hsucc⟩

/-- A count of words back is as many single steps. -/
theorem wordBackward_iterate : b.wordBackward p n big = (b.wordBackward · 1 big)^[n] p := by
  refine iterate_of_step (fun p n => b.wordBackward p n big) (fun p hp => ?_) (fun p hp => ?_) hp n
  · obtain ⟨s, later, rfl, hs⟩ := exists_suffix_reverse hp big
    exact wordBackward_place hs 0
  · obtain ⟨hnearest, hsucc⟩ := wordBackward_lands hp big
    exact ⟨clamp_of_nearest hnearest (fun _ h => h.clamp) b.clamp_origin, hsucc⟩

/-- A count of ends of words is as many single steps. -/
theorem wordEndForward_iterate :
    b.wordEndForward p n big = (b.wordEndForward · 1 big)^[n] p := by
  refine iterate_of_step (fun p n => b.wordEndForward p n big) (fun p hp => ?_) (fun p hp => ?_) hp n
  · obtain ⟨s, later, rfl, hs⟩ := exists_suffix_slots hp big
    exact walkForward_place hs _
  · obtain ⟨hnearest, hsucc⟩ := wordEndForward_lands hp big
    exact ⟨clamp_of_nearest hnearest (fun _ h => h.clamp) hp, hsucc⟩

end Iterate

/-- **Word motions are exact.** From every place of a buffer, for words and for runs of clusters that
are not blank, a step forward lands on the nearest place behind it at which a word begins, or at the
end of the document if there is none; a step backward on the nearest one in front of it, or at the
beginning; and a step to the end of a word on the nearest place behind it at which a word ends, or
nowhere else. A count is as many steps. -/
theorem word_motions_exact {p : Position} (hp : b.clamp p = p) (big : Bool) :
    Nearest (· < ·) (b.IsWordStart big) p b.endPosition (b.wordForward p 1 big) ∧
      Nearest (fun p q => q < p) (b.IsWordStart big) p .origin (b.wordBackward p 1 big) ∧
      Nearest (· < ·) (b.IsWordEnd big) p p (b.wordEndForward p 1 big) ∧
      ∀ n, b.wordForward p n big = (b.wordForward · 1 big)^[n] p ∧
        b.wordBackward p n big = (b.wordBackward · 1 big)^[n] p ∧
        b.wordEndForward p n big = (b.wordEndForward · 1 big)^[n] p :=
  ⟨(wordForward_lands hp big).1, (wordBackward_lands hp big).1, (wordEndForward_lands hp big).1,
    fun n => ⟨wordForward_iterate hp big n, wordBackward_iterate hp big n,
      wordEndForward_iterate hp big n⟩⟩

/-- Behind the dot of `ab.` and an empty line comes a line that begins with a blank. -/
theorem word_motions_exact_emptyLine :
    let b := Buffer.ofText ['a', 'b', '.', '\n', '\n', ' ', 'c']
    let p : Position := ⟨0, 2⟩
    b.clamp p = p ∧
      Nearest (· < ·) (b.IsWordStart false) p ⟨2, 2⟩ ⟨1, 0⟩ ∧
      Nearest (fun p q => q < p) (b.IsWordStart false) p .origin ⟨0, 0⟩ ∧
      Nearest (· < ·) (b.IsWordEnd false) p p ⟨2, 1⟩ := by
  intro b p
  have hp : b.clamp p = p := by decide +kernel
  obtain ⟨hforward, hbackward, hend, -⟩ := word_motions_exact hp false
  rw [show b.wordForward p 1 false = ⟨1, 0⟩ by decide +kernel,
    show b.endPosition = ⟨2, 2⟩ by decide +kernel] at hforward
  rw [show b.wordBackward p 1 false = ⟨0, 0⟩ by decide +kernel] at hbackward
  rw [show b.wordEndForward p 1 false = ⟨2, 1⟩ by decide +kernel] at hend
  exact ⟨hp, hforward, hbackward, hend⟩

end Buffer

end ModalEditor
