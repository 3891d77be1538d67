import ModalEditor.Pattern.Match

/-!
# What an expression matches

`Regex.Matches` says which stretches of a text an expression stands for, without a word on how they are
looked for. The matcher, which tries the choices in an order and hands what is still to be matched from
one part to the next, is measured against it:

* it is sound: what it finds is a match, and what is still to be matched was found behind it
  (`Regex.exists_of_run`);
* it is complete: where there is a match it finds one (`Regex.isSome_matchAt_iff`), although its rounds are
  counted and a round that takes no character is the last one;
* a search finds the first place of the text at which there is a match (`Regex.Leftmost`).

## Shape of the proof

Both are inductions on the expression, with one lemma for each way to repeat a matcher. Completeness asks
of what is still to be matched that it does not look at the groups (`Regex.Agree`): a round that takes no
character may be left out, but it may have been the one that a group remembers. That rounds may be left
out is the heart of it (`Regex.Complete.onceOrMore`): the matcher gives the same answer at the same place,
whatever the groups are (`Regex.Placewise`), so a round that took nothing leads back to where it began.
-/

namespace ModalEditor

namespace Spot

/-! ## Places of a text -/

/-- The two are one place of the text, whatever their groups matched. -/
def SamePlace (s t : Spot) : Prop :=
  s.before = t.before ∧ s.rest = t.rest

/-- The second place is behind the first, or is the same: some of the text has been taken. -/
def Ahead (s t : Spot) : Prop :=
  ∃ taken, s.rest = taken ++ t.rest ∧ t.before = taken.getLast?.or s.before

variable {s t u : Spot}

/-- A place is the same as itself. -/
theorem SamePlace.refl (s : Spot) : s.SamePlace s :=
  ⟨rfl, rfl⟩

/-- Whatever a group remembers, the place is the same. -/
theorem SamePlace.remember (h : s.SamePlace t) (index : Nat) (first first' : Spot) :
    (s.remember index first).SamePlace (t.remember index first') :=
  ⟨h.1, h.2⟩

/-- Anchors ask for the place only. -/
theorem SamePlace.satisfies_eq (h : s.SamePlace t) (a : Anchor) : s.satisfies a = t.satisfies a := by
  obtain ⟨hbefore, hrest⟩ := h
  cases a <;> simp only [satisfies, wordBefore, wordBehind, hbefore, hrest]

/-- An edge of a word is a place where a word begins or one where a word ends. -/
theorem satisfies_wordBoundary (s : Spot) :
    s.satisfies .wordBoundary = (s.satisfies .wordStart || s.satisfies .wordEnd) := by
  simp only [satisfies]
  cases s.wordBefore <;> cases s.wordBehind <;> rfl

/-- A place lies ahead of itself. -/
theorem Ahead.refl (s : Spot) : s.Ahead s :=
  ⟨[], rfl, rfl⟩

/-- Lying ahead is transitive, since texts read one after the other are read together. -/
theorem Ahead.trans (h : s.Ahead t) (h' : t.Ahead u) : s.Ahead u := by
  obtain ⟨taken, hrest, hbefore⟩ := h
  obtain ⟨later, hrest', hbefore'⟩ := h'
  refine ⟨taken ++ later, by rw [hrest, hrest', List.append_assoc], ?_⟩
  rw [hbefore', hbefore, List.getLast?_append, Option.or_assoc]

/-- What lies between two places is the text up to the second. -/
theorem Ahead.textTo_append (h : s.Ahead t) : s.textTo t ++ t.rest = s.rest := by
  obtain ⟨taken, hrest, -⟩ := h
  rw [textTo, hrest, List.length_append, Nat.add_sub_cancel, List.take_left]

/-- A step ahead that leaves as much text as before leads nowhere. -/
theorem Ahead.sameAs_iff (h : s.Ahead t) : t.sameAs s = true ↔ t.SamePlace s := by
  obtain ⟨taken, hrest, hbefore⟩ := h
  rw [sameAs, beq_iff_eq, hrest, List.length_append]
  constructor
  · intro hlength
    obtain rfl : taken = [] := List.eq_nil_of_length_eq_zero (by omega)
    exact ⟨hbefore, hrest.symm⟩
  · rintro ⟨-, hsame⟩
    rw [← List.length_append, ← hrest, hsame]

/-- A step ahead that leads somewhere leaves less text. -/
theorem Ahead.length_lt (h : s.Ahead t) (hsame : ¬ t.sameAs s = true) :
    t.rest.length < s.rest.length := by
  obtain ⟨taken, hrest, -⟩ := h
  rw [sameAs, beq_iff_eq] at hsame
  rw [hrest, List.length_append] at hsame ⊢
  omega

end Spot

namespace Regex

open Spot

/-! ## Matches -/

/-- `n` steps of a relation, one after the other. -/
def Rounds (R : Spot → Spot → Prop) : Nat → Spot → Spot → Prop
  | 0, s, t => s = t
  | n + 1, s, t => ∃ u, R s u ∧ Rounds R n u t

/-- The expression stands for the text between the two places, and the groups of the second are what
they are when it was matched. A repetition that has to go round more often than it may goes round as
often as it has to. -/
def Matches : Regex → Spot → Spot → Prop
  | .empty => fun s t => s = t
  | .char set => fun s t =>
    ∃ c rest, s.rest = c :: rest ∧ set.mem c = true ∧ t = { s with before := some c, rest }
  | .anchor a => fun s t => s.satisfies a = true ∧ s = t
  | .seq r₁ r₂ => fun s t => ∃ u, r₁.Matches s u ∧ r₂.Matches u t
  | .alt r₁ r₂ => fun s t => r₁.Matches s t ∨ r₂.Matches s t
  | .group index r => fun s t => ∃ u, r.Matches s u ∧ t = u.remember index s
  | .repeated r least most _ => fun s t =>
    ∃ n, least ≤ n ∧ (∀ m ∈ most, n ≤ max least m) ∧ Rounds r.Matches n s t

variable {R : Spot → Spot → Prop} {s t u : Spot}

/-- Rounds after rounds are rounds, as many as both together. -/
theorem rounds_add {m n : Nat} (h : Rounds R m s u) (h' : Rounds R n u t) : Rounds R (m + n) s t := by
  induction m generalizing s with
  | zero =>
    cases h
    rwa [Nat.zero_add]
  | succ m ih =>
    obtain ⟨v, hv, hlater⟩ := h
    rw [Nat.add_right_comm]
    exact ⟨v, hv, ih hlater⟩

/-- Rounds can be parted after any number of them. -/
theorem exists_of_rounds_add {m n : Nat} (h : Rounds R (m + n) s t) :
    ∃ u, Rounds R m s u ∧ Rounds R n u t := by
  induction m generalizing s with
  | zero => exact ⟨s, rfl, by rwa [Nat.zero_add] at h⟩
  | succ m ih =>
    rw [Nat.add_right_comm] at h
    obtain ⟨v, hv, hlater⟩ := h
    obtain ⟨u, hfront, hback⟩ := ih hlater
    exact ⟨u, ⟨v, hv, hfront⟩, hback⟩

/-- Rounds lead ahead if each of them does. -/
theorem Rounds.ahead (hR : ∀ s t, R s t → s.Ahead t) {n : Nat} (h : Rounds R n s t) : s.Ahead t := by
  induction n generalizing s with
  | zero => exact h ▸ Ahead.refl s
  | succ n ih =>
    obtain ⟨u, hu, hlater⟩ := h
    exact (hR s u hu).trans (ih hlater)

/-- A match is a stretch of the text. -/
theorem Matches.ahead {r : Regex} (h : r.Matches s t) : s.Ahead t := by
  induction r generalizing s t with
  | empty => exact h ▸ Ahead.refl s
  | char set =>
    obtain ⟨c, rest, hrest, -, rfl⟩ := h
    exact ⟨[c], hrest, rfl⟩
  | anchor a => exact h.2 ▸ Ahead.refl s
  | seq r₁ r₂ ih₁ ih₂ =>
    obtain ⟨u, hu, ht⟩ := h
    exact (ih₁ hu).trans (ih₂ ht)
  | alt r₁ r₂ ih₁ ih₂ => exact h.elim (fun h => ih₁ h) fun h => ih₂ h
  | group index r ih =>
    obtain ⟨u, hu, rfl⟩ := h
    exact (ih hu : s.Ahead u)
  | repeated r least most greedy ih =>
    obtain ⟨n, -, -, hrounds⟩ := h
    exact hrounds.ahead fun s t h => ih h

/-! ## What is found is a match -/

/-- What the matcher finds is in the relation, and what is still to be matched was found behind it. -/
def SoundFor (m : Matcher) (R : Spot → Spot → Prop) : Prop :=
  ∀ s k x, m s k = some x → ∃ t, R s t ∧ k t = some x

variable {m : Matcher}

/-- The first of two answers is taken if there is one. -/
theorem orElse_eq_some {a b : Option Spot} {x : Spot} (h : (a <|> b) = some x) :
    a = some x ∨ b = some x := by
  cases a with
  | none => exact .inr h
  | some y => exact .inl h

/-- Greed decides which answer is tried first, not which answers there are. -/
theorem choose_eq_some {greedy : Bool} {again onward : Unit → Option Spot} {x : Spot}
    (h : choose greedy again onward = some x) : again () = some x ∨ onward () = some x := by
  rw [choose] at h
  split at h
  · exact orElse_eq_some h
  · exact (orElse_eq_some h).symm

/-- Each of the rounds is a match, by induction on their number. -/
theorem SoundFor.exactly (hm : SoundFor m R) (n : Nat) : SoundFor (exactly m n) (Rounds R n) := by
  induction n with
  | zero => exact fun s k x h => ⟨s, rfl, h⟩
  | succ n ih =>
    intro s k x h
    obtain ⟨u, hu, hlater⟩ := hm s _ x h
    obtain ⟨t, ht, hk⟩ := ih u k x hlater
    exact ⟨t, ⟨u, hu, ht⟩, hk⟩

/-- As many rounds as bring an answer are matches, by induction on how many are allowed. -/
theorem SoundFor.atMost (hm : SoundFor m R) (greedy : Bool) (n : Nat) :
    SoundFor (atMost m greedy n) fun s t => ∃ j ≤ n, Rounds R j s t := by
  induction n with
  | zero => exact fun s k x h => ⟨s, ⟨0, Nat.le_refl 0, rfl⟩, h⟩
  | succ n ih =>
    intro s k x h
    rcases choose_eq_some h with hagain | honward
    · obtain ⟨u, hu, hlater⟩ := hm s _ x hagain
      obtain ⟨t, ⟨j, hj, ht⟩, hk⟩ := ih u k x hlater
      exact ⟨t, ⟨j + 1, Nat.succ_le_succ hj, u, hu, ht⟩, hk⟩
    · exact ⟨s, ⟨0, Nat.zero_le _, rfl⟩, honward⟩

/-- The rounds that go on as long as something is read are matches. -/
theorem SoundFor.onceOrMore (hm : SoundFor m R) (greedy : Bool) (n : Nat) :
    SoundFor (onceOrMore m greedy n) fun s t => ∃ j, Rounds R (j + 1) s t := by
  induction n with
  | zero => exact fun s k x h => nomatch h
  | succ n ih =>
    intro s k x h
    obtain ⟨u, hu, hlater⟩ := hm s _ x h
    have hone : Rounds R 1 s u := ⟨u, hu, rfl⟩
    split at hlater
    · exact ⟨u, ⟨0, hone⟩, hlater⟩
    · rcases choose_eq_some hlater with hagain | honward
      · obtain ⟨t, ⟨j, ht⟩, hk⟩ := ih u k x hagain
        exact ⟨t, ⟨j + 1, u, hu, ht⟩, hk⟩
      · exact ⟨u, ⟨0, hone⟩, honward⟩

/-- The rounds that have to come first are matches, and so are those that follow. -/
theorem SoundFor.atLeast (hm : SoundFor m R) (greedy : Bool) (least : Nat) :
    SoundFor (atLeast m greedy least) fun s t => ∃ n, least ≤ n ∧ Rounds R n s t := by
  intro s k x h
  cases least with
  | zero =>
    rw [Regex.atLeast] at h
    rcases choose_eq_some h with hmore | honward
    · obtain ⟨t, ⟨j, ht⟩, hk⟩ := hm.onceOrMore greedy _ s k x hmore
      exact ⟨t, ⟨j + 1, Nat.zero_le _, ht⟩, hk⟩
    · exact ⟨s, ⟨0, Nat.le_refl 0, rfl⟩, honward⟩
  | succ least =>
    obtain ⟨u, hu, hmore⟩ := hm.exactly least s _ x h
    obtain ⟨t, ⟨j, ht⟩, hk⟩ := hm.onceOrMore greedy _ u k x hmore
    exact ⟨t, ⟨least + (j + 1), by omega, rounds_add hu ht⟩, hk⟩

/-- **Soundness.** What the matcher finds is a match, and what is still to be matched was found behind
it. -/
theorem exists_of_run (r : Regex) : SoundFor r.run r.Matches := by
  -- one case for each way to build an expression, with the continuation for what comes behind
  induction r with
  | empty => exact fun s k x h => ⟨s, rfl, h⟩
  | char set =>
    intro s k x h
    simp only [run] at h
    split at h
    · rename_i c rest hrest
      split at h
      · exact ⟨_, ⟨c, rest, hrest, ‹_›, rfl⟩, h⟩
      · exact nomatch h
    · exact nomatch h
  | anchor a =>
    intro s k x h
    simp only [run] at h
    split at h
    · exact ⟨s, ⟨‹_›, rfl⟩, h⟩
    · exact nomatch h
  | seq r₁ r₂ ih₁ ih₂ =>
    intro s k x h
    obtain ⟨u, hu, hlater⟩ := ih₁ s _ x h
    obtain ⟨t, ht, hk⟩ := ih₂ u k x hlater
    exact ⟨t, ⟨u, hu, ht⟩, hk⟩
  | alt r₁ r₂ ih₁ ih₂ =>
    intro s k x h
    rcases orElse_eq_some h with h | h
    · obtain ⟨t, ht, hk⟩ := ih₁ s k x h
      exact ⟨t, .inl ht, hk⟩
    · obtain ⟨t, ht, hk⟩ := ih₂ s k x h
      exact ⟨t, .inr ht, hk⟩
  | group index r ih =>
    intro s k x h
    obtain ⟨u, hu, hk⟩ := ih s _ x h
    exact ⟨_, ⟨u, hu, rfl⟩, hk⟩
  | repeated r least most greedy ih =>
    intro s k x h
    cases most with
    | none =>
      -- an expression that is repeated without a bound
      obtain ⟨t, ⟨n, hn, ht⟩, hk⟩ := ih.atLeast greedy least s k x h
      exact ⟨t, ⟨n, hn, nofun, ht⟩, hk⟩
    | some most =>
      -- the rounds that have to come are told from those that may
      obtain ⟨u, hu, hmore⟩ := ih.exactly least s _ x h
      obtain ⟨t, ⟨j, hj, ht⟩, hk⟩ := ih.atMost greedy (most - least) u k x hmore
      refine ⟨t, ⟨least + j, Nat.le_add_right _ _, fun m hm => ?_, rounds_add hu ht⟩, hk⟩
      obtain rfl := Option.some.inj hm
      omega

/-! ## The answer depends on the place only -/

/-- The two continuations succeed at the same places, whatever the groups are. -/
def Agree (k k' : Continuation) : Prop :=
  ∀ s s' : Spot, s.SamePlace s' → (k s).isSome = (k' s').isSome

/-- Whether the matcher succeeds depends on the place, and on where what is still to be matched
succeeds. -/
def Placewise (m : Matcher) : Prop :=
  ∀ k k', Agree k k' → Agree (m · k) (m · k')

/-- There is an answer if one of the two is there. -/
theorem isSome_orElse (a b : Option Spot) : (a <|> b).isSome = (a.isSome || b.isSome) := by
  cases a <;> rfl

/-- Greed has no influence on whether there is an answer. -/
theorem isSome_choose (greedy : Bool) (again onward : Unit → Option Spot) :
    (choose greedy again onward).isSome = ((again ()).isSome || (onward ()).isSome) := by
  rw [choose]
  cases greedy with
  | false => rw [if_neg Bool.false_ne_true, isSome_orElse, Bool.or_comm]
  | true => rw [if_pos rfl, isSome_orElse]

/-- Whether a number of rounds brings an answer depends on the place only. -/
theorem Placewise.exactly (hm : Placewise m) (n : Nat) : Placewise (exactly m n) := by
  induction n with
  | zero => exact fun k k' hk => hk
  | succ n ih => exact fun k k' hk => hm _ _ (ih k k' hk)

/-- Whether up to a number of rounds bring an answer depends on the place only. -/
theorem Placewise.atMost (hm : Placewise m) (greedy : Bool) (n : Nat) :
    Placewise (atMost m greedy n) := by
  induction n with
  | zero => exact fun k k' hk => hk
  | succ n ih =>
    intro k k' hk s s' hs
    have hround := hm _ _ (ih k k' hk) s s' hs
    simp only [Regex.atMost, isSome_choose, hround, hk s s' hs]

/-- What follows a round that began at `s`, when at most `n` more are allowed. -/
def afterRound (m : Matcher) (greedy : Bool) (n : Nat) (s : Spot) (k : Continuation) : Continuation :=
  fun t =>
    if t.sameAs s then k t else choose greedy (fun _ => onceOrMore m greedy n t k) fun _ => k t

/-- A round, and behind it more of them or the end. -/
theorem onceOrMore_succ (m : Matcher) (greedy : Bool) (n : Nat) (s : Spot) (k : Continuation) :
    onceOrMore m greedy (n + 1) s k = m s (afterRound m greedy n s k) :=
  rfl

/-- Behind a round the place decides as well: whether it moved is told from what is left of the text. -/
theorem agree_afterRound {greedy : Bool} {n : Nat} {k k' : Continuation} (hk : Agree k k')
    (hmore : Agree (onceOrMore m greedy n · k) (onceOrMore m greedy n · k')) {s s' : Spot}
    (hs : s.SamePlace s') : Agree (afterRound m greedy n s k) (afterRound m greedy n s' k') := by
  intro t t' ht
  have hsame : t.sameAs s = t'.sameAs s' := by rw [Spot.sameAs, Spot.sameAs, hs.2, ht.2]
  rw [afterRound, afterRound, hsame]
  split
  · exact hk t t' ht
  · rw [isSome_choose, isSome_choose, hmore t t' ht, hk t t' ht]

/-- Whether rounds as long as something is read bring an answer depends on the place only. -/
theorem Placewise.onceOrMore (hm : Placewise m) (greedy : Bool) (n : Nat) :
    Placewise (onceOrMore m greedy n) := by
  induction n with
  | zero => exact fun k k' hk s s' hs => rfl
  | succ n ih =>
    intro k k' hk s s' hs
    simp only [onceOrMore_succ]
    exact hm _ _ (agree_afterRound hk (ih k k' hk) hs) s s' hs

/-- Whether repeated rounds without a bound bring an answer depends on the place only. -/
theorem Placewise.atLeast (hm : Placewise m) (greedy : Bool) (least : Nat) :
    Placewise (atLeast m greedy least) := by
  intro k k' hk
  have hmore : Agree (fun s => Regex.onceOrMore m greedy (s.rest.length + 1) s k)
      (fun s => Regex.onceOrMore m greedy (s.rest.length + 1) s k') := by
    intro s s' hs
    dsimp only
    rw [hs.2]
    exact hm.onceOrMore greedy _ k k' hk s s' hs
  cases least with
  | zero =>
    intro s s' hs
    simp only [Regex.atLeast, isSome_choose, hmore s s' hs, hk s s' hs]
  | succ least => exact hm.exactly least _ _ hmore

/-- **The memory of groups is of no matter to whether a match is found.** Two runs from the same place,
with continuations that answer alike, answer alike. -/
theorem placewise_run (r : Regex) : Placewise r.run := by
  induction r with
  | empty => exact fun k k' hk => hk
  | char set =>
    intro k k' hk s s' hs
    simp only [run, hs.2]
    split
    · split
      · exact hk _ _ ⟨rfl, rfl⟩
      · rfl
    · rfl
  | anchor a =>
    intro k k' hk s s' hs
    simp only [run, hs.satisfies_eq a]
    split
    · exact hk s s' hs
    · rfl
  | seq r₁ r₂ ih₁ ih₂ => exact fun k k' hk => ih₁ _ _ (ih₂ k k' hk)
  | alt r₁ r₂ ih₁ ih₂ =>
    intro k k' hk s s' hs
    simp only [run, isSome_orElse, ih₁ k k' hk s s' hs, ih₂ k k' hk s s' hs]
  | group index r ih =>
    intro k k' hk s s' hs
    -- the group remembers different things, but the place behind it is the same
    have hremember : Agree (fun t => k (t.remember index s)) fun t => k' (t.remember index s') :=
      fun t t' ht => hk _ _ (ht.remember index s s')
    exact ih _ _ hremember s s' hs
  | repeated r least most greedy ih =>
    cases most with
    | none => exact ih.atLeast greedy least
    | some most => exact fun k k' hk => ih.exactly least _ _ (ih.atMost greedy _ k k' hk)

/-! ## A match is found -/

/-- Where the relation leads to a place at which what is still to be matched succeeds, the matcher
succeeds, if what is still to be matched does not look at the groups. -/
def CompleteFor (m : Matcher) (R : Spot → Spot → Prop) : Prop :=
  ∀ k, Agree k k → ∀ s t, R s t → (k t).isSome → (m s k).isSome

/-- Rounds that are matches are found, by induction on their number. -/
theorem CompleteFor.exactly (hm : CompleteFor m R) (hplace : Placewise m) (n : Nat) :
    CompleteFor (exactly m n) (Rounds R n) := by
  induction n with
  | zero =>
    rintro k - s t rfl hk
    exact hk
  | succ n ih =>
    rintro k hblind s t ⟨u, hu, hlater⟩ hk
    exact hm _ (hplace.exactly n k k hblind) s u hu (ih k hblind u t hlater hk)

/-- Some rounds, up to the bound, are found: those that match if the walk comes to them, or an answer
before. -/
theorem CompleteFor.atMost (hm : CompleteFor m R) (hplace : Placewise m) (greedy : Bool) (n : Nat) :
    CompleteFor (atMost m greedy n) fun s t => ∃ j ≤ n, Rounds R j s t := by
  induction n with
  | zero =>
    rintro k - s t ⟨j, hj, ht⟩ hk
    obtain rfl := Nat.le_zero.1 hj
    exact (show s = t from ht) ▸ hk
  | succ n ih =>
    rintro k hblind s t ⟨j, hj, ht⟩ hk
    rw [Regex.atMost, isSome_choose, Bool.or_eq_true]
    cases j with
    | zero => exact .inr ((show s = t from ht) ▸ hk)
    | succ j =>
      obtain ⟨u, hu, hlater⟩ := ht
      have hrest := ih k hblind u t ⟨j, Nat.le_of_succ_le_succ hj, hlater⟩ hk
      exact .inl (hm _ (hplace.atMost greedy n k k hblind) s u hu hrest)

/-- Rounds that take no character may be left out, so the rounds that are counted are enough. -/
theorem CompleteFor.onceOrMore (hm : CompleteFor m R) (hplace : Placewise m)
    (hahead : ∀ s t, R s t → s.Ahead t) (greedy : Bool) {j n : Nat} {k : Continuation}
    (hblind : Agree k k) {s t : Spot} (hn : s.rest.length < n) (ht : Rounds R (j + 1) s t)
    (hk : (k t).isSome) : (onceOrMore m greedy n s k).isSome := by
  induction j generalizing n s with
  | zero =>
    obtain ⟨u, hu, rfl⟩ := ht
    obtain ⟨n, rfl⟩ := Nat.exists_eq_add_one_of_ne_zero (Nat.ne_zero_of_lt hn)
    have hround := agree_afterRound hblind (hplace.onceOrMore greedy n k k hblind) (.refl s)
    rw [onceOrMore_succ]
    refine hm _ hround s u hu ?_
    rw [afterRound]
    split
    · exact hk
    · rw [isSome_choose, hk, Bool.or_true]
  | succ j ih =>
    obtain ⟨u, hu, hlater⟩ := ht
    have hstep := hahead s u hu
    by_cases hsame : u.sameAs s = true
    · -- the round led back to where it began, so the others can be made from there
      obtain ⟨hbefore, hrest⟩ := hstep.sameAs_iff.1 hsame
      rw [← hplace.onceOrMore greedy n k k hblind u s ⟨hbefore, hrest⟩]
      exact ih (hrest ▸ hn) hlater
    · obtain ⟨n, rfl⟩ := Nat.exists_eq_add_one_of_ne_zero (Nat.ne_zero_of_lt hn)
      have hround := agree_afterRound hblind (hplace.onceOrMore greedy n k k hblind) (.refl s)
      have hless := hstep.length_lt hsame
      rw [onceOrMore_succ]
      refine hm _ hround s u hu ?_
      rw [afterRound, if_neg hsame, isSome_choose, ih (by omega) hlater, Bool.true_or]

/-- Rounds without a bound are found. Rounds that read nothing can be left out, so that the walk does
not need them. -/
theorem CompleteFor.atLeast (hm : CompleteFor m R) (hplace : Placewise m)
    (hahead : ∀ s t, R s t → s.Ahead t) (greedy : Bool) (least : Nat) :
    CompleteFor (atLeast m greedy least) fun s t => ∃ n, least ≤ n ∧ Rounds R n s t := by
  rintro k hblind s t ⟨n, hn, ht⟩ hk
  cases least with
  | zero =>
    rw [Regex.atLeast, isSome_choose, Bool.or_eq_true]
    cases n with
    | zero => exact .inr ((show s = t from ht) ▸ hk)
    | succ n => exact .inl (hm.onceOrMore hplace hahead greedy hblind (Nat.lt_succ_self _) ht hk)
  | succ least =>
    obtain ⟨j, rfl⟩ := Nat.exists_eq_add_of_le hn
    -- the rounds that have to come first are parted from the others
    have hsplit : least + 1 + j = least + (j + 1) := by omega
    obtain ⟨u, hfront, hmore⟩ := exists_of_rounds_add (hsplit ▸ ht)
    -- how often the walk may go on is told from the rest of the text, so from the place
    have hblind' : Agree (fun s => Regex.onceOrMore m greedy (s.rest.length + 1) s k)
        (fun s => Regex.onceOrMore m greedy (s.rest.length + 1) s k) := by
      intro s s' hs
      dsimp only
      rw [hs.2]
      exact hplace.onceOrMore greedy _ k k hblind s s' hs
    exact hm.exactly hplace least _ hblind' s u hfront
      (hm.onceOrMore hplace hahead greedy hblind (Nat.lt_succ_self _) hmore hk)

/-- **Completeness.** Where a match leads to a place at which what is still to be matched succeeds, the
matcher succeeds. -/
theorem completeFor_run (r : Regex) : CompleteFor r.run r.Matches := by
  -- the continuation is asked to answer by the place only, as every part of an expression does
  induction r with
  | empty =>
    rintro k - s t rfl hk
    exact hk
  | char set =>
    rintro k - s t ⟨c, rest, hrest, hc, rfl⟩ hk
    simp only [run, hrest, if_pos hc]
    exact hk
  | anchor a =>
    rintro k - s t ⟨ha, rfl⟩ hk
    simp only [run, if_pos ha]
    exact hk
  | seq r₁ r₂ ih₁ ih₂ =>
    rintro k hblind s t ⟨u, hu, ht⟩ hk
    exact ih₁ _ (placewise_run r₂ k k hblind) s u hu (ih₂ k hblind u t ht hk)
  | alt r₁ r₂ ih₁ ih₂ =>
    rintro k hblind s t h hk
    simp only [run, isSome_orElse, Bool.or_eq_true]
    exact h.imp (fun h => ih₁ k hblind s t h hk) fun h => ih₂ k hblind s t h hk
  | group index r ih =>
    rintro k hblind s t ⟨u, hu, rfl⟩ hk
    have hremember : Agree (fun t => k (t.remember index s)) fun t => k (t.remember index s) :=
      fun t t' ht => hblind _ _ (ht.remember index s s)
    exact ih _ hremember s u hu hk
  | repeated r least most greedy ih =>
    rintro k hblind s t ⟨n, hn, hmost, ht⟩ hk
    have hahead (s t : Spot) (h : r.Matches s t) : s.Ahead t := h.ahead
    cases most with
    | none => exact ih.atLeast (placewise_run r) hahead greedy least k hblind s t ⟨n, hn, ht⟩ hk
    | some most =>
      -- the rounds that match are the ones that have to come and some that may
      have hbound := hmost most rfl
      obtain ⟨j, rfl⟩ := Nat.exists_eq_add_of_le hn
      obtain ⟨u, hfront, hmore⟩ := exists_of_rounds_add ht
      have hrest := ih.atMost (placewise_run r) greedy (most - least) k hblind u t
        ⟨j, by omega, hmore⟩ hk
      exact ih.exactly (placewise_run r) least _
        ((placewise_run r).atMost greedy (most - least) k k hblind) s u hfront hrest

/-! ## A place with a match -/

/-- What is found at a place is a match there. -/
theorem matches_of_matchAt {r : Regex} (h : r.matchAt s = some t) : r.Matches s t := by
  obtain ⟨u, hu, hsome⟩ := exists_of_run r s some t h
  exact Option.some.inj hsome ▸ hu

/-- **The matcher decides.** It finds a match at a place if and only if there is one. -/
theorem isSome_matchAt_iff {r : Regex} : (r.matchAt s).isSome ↔ ∃ t, r.Matches s t := by
  constructor
  · intro h
    obtain ⟨t, ht⟩ := Option.isSome_iff_exists.1 h
    exact ⟨t, matches_of_matchAt ht⟩
  · rintro ⟨t, ht⟩
    exact completeFor_run r some (fun s s' hs => rfl) s t ht rfl

/-- The place in a text behind `front`, if `before` stands in front of the text. -/
def spotBehind (before : Option Char) (front rest : Text) : Spot :=
  { before := front.getLast?.or before, rest }

/-- A match, and none at an earlier place of the text. -/
structure Leftmost (r : Regex) (before : Option Char) (t : Text) (f : Found) : Prop where
  text : t = f.skipped ++ f.first.rest
  first : f.first = spotBehind before f.skipped f.first.rest
  found : r.Matches f.first f.past
  leftmost : ∀ front behind, f.skipped = front ++ behind → behind ≠ [] →
    ¬ ∃ past, r.Matches (spotBehind before front (behind ++ f.first.rest)) past

/-- The place behind a text, read one character at a time. -/
theorem spotBehind_cons (before : Option Char) (c : Char) (front rest : Text) :
    spotBehind before (c :: front) rest = spotBehind (some c) front rest := by
  rw [spotBehind, spotBehind, List.getLast?_cons]
  cases front.getLast? <;> rfl

variable {r : Regex} {before : Option Char} {t : Text} {c : Char}

/-- A match at the beginning of the text is the leftmost. -/
theorem leftmost_of_matchAt {past : Spot} (h : r.matchAt (spotBehind before [] t) = some past) :
    r.Leftmost before t ⟨[], spotBehind before [] t, past⟩ where
  text := rfl
  first := rfl
  found := matches_of_matchAt h
  leftmost _ _ hnil hne := absurd (List.append_eq_nil_iff.1 hnil.symm).2 hne

/-- Where the walk finds nothing there is no match, since it is complete. -/
theorem not_matches_of_matchAt (h : r.matchAt (spotBehind before [] t) = none) :
    ¬ ∃ past, r.Matches (spotBehind before [] t) past := by
  rw [← isSome_matchAt_iff, h]
  exact Bool.false_ne_true

/-- Where there is no match at the beginning the first one is that of the rest. -/
theorem Leftmost.cons {f : Found} (h : r.Leftmost (some c) t f)
    (hnone : ¬ ∃ past, r.Matches (spotBehind before [] (c :: t)) past) :
    r.Leftmost before (c :: t) { f with skipped := c :: f.skipped } where
  text := congrArg (c :: ·) h.text
  first := by rw [spotBehind_cons]; exact h.first
  found := h.found
  leftmost front behind hfront hne := by
    cases front with
    | nil =>
      rw [List.nil_append] at hfront
      rw [← hfront, List.cons_append, ← h.text]
      exact hnone
    | cons d front =>
      obtain ⟨rfl, hlater⟩ := List.cons.inj hfront
      rw [spotBehind_cons]
      exact h.leftmost front behind hlater hne

/-- **A search** finds the first match, or there is none at any place of the text. -/
theorem find_spec (r : Regex) (before : Option Char) (t : Text) :
    (∃ f, r.find before t = some f ∧ r.Leftmost before t f) ∨
      r.find before t = none ∧ ∀ front rest, t = front ++ rest →
        ¬ ∃ past, r.Matches (spotBehind before front rest) past := by
  -- by induction on the text: a match here is the leftmost, or it is looked for one character on
  induction t generalizing before with
  | nil =>
    rw [find]
    cases hmatch : r.matchAt { before, rest := [] } with
    | some past => exact .inl ⟨_, rfl, leftmost_of_matchAt hmatch⟩
    | none =>
      refine .inr ⟨rfl, fun front rest hnil => ?_⟩
      obtain ⟨rfl, rfl⟩ := List.append_eq_nil_iff.1 hnil.symm
      exact not_matches_of_matchAt hmatch
  | cons c t ih =>
    rw [find]
    cases hmatch : r.matchAt { before, rest := c :: t } with
    | some past => exact .inl ⟨_, rfl, leftmost_of_matchAt hmatch⟩
    | none =>
      have hhere := not_matches_of_matchAt hmatch
      dsimp only
      rcases ih (some c) with ⟨f, hfind, hleft⟩ | ⟨hfind, hnone⟩
      · rw [hfind]
        exact .inl ⟨_, rfl, hleft.cons hhere⟩
      · rw [hfind]
        refine .inr ⟨rfl, fun front rest hfront => ?_⟩
        cases front with
        | nil =>
          obtain rfl : rest = c :: t := hfront.symm
          exact hhere
        | cons d front =>
          obtain ⟨rfl, hlater⟩ := List.cons.inj hfront
          rw [spotBehind_cons]
          exact hnone front rest hlater

/-- A match cuts the text into what is in front of it, the match and what is behind it. -/
theorem Leftmost.cut {f : Found} (h : r.Leftmost before t f) :
    t = f.skipped ++ f.text ++ f.past.rest := by
  rw [List.append_assoc, Found.text, h.found.ahead.textTo_append]
  exact h.text

end Regex

end ModalEditor
