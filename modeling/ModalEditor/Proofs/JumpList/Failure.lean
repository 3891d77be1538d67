import ModalEditor.Proofs.JumpList.Walk

/-!
# Walks that fail

A walk forward that fails leaves the jump list alone (`forward_of_none`). A walk back that fails does
so only if one was going on already, or if there is no place to walk to: from a live cursor it has
begun the walk by the time it is found to be too long (`WellFormed.back_of_none`). The list that it
leaves can be told from the one before by what later calls give (`WellFormed.exists_results_ne`), and
a place that is recorded afterwards drops the newest one where the cursor stood on its row
(`WellFormed.startWalk_push`).
-/

namespace ModalEditor.JumpList

/-- The place that a call gives. -/
def Call.result (c : Call) (j : JumpList) : Option Position :=
  match c with
  | .push _ => none
  | .back live n => (j.back live n).2
  | .forward n => (j.forward n).2

/-- The places that calls give, one after the other. -/
def results : List Call → JumpList → List (Option Position)
  | [], _ => []
  | c :: calls, j => c.result j :: results calls (c.apply j)

/-- The list without its newest place, and with a cursor that is live. -/
def dropNewest (j : JumpList) : JumpList :=
  { j with entries := j.entries.dropLast, current := j.entries.dropLast.length }

variable {bound : Nat} {j : JumpList} {live : Position} {n : Nat}

theorem forward_of_none (hforward : (j.forward n).2 = none) : (j.forward n).1 = j := by
  unfold forward at hforward ⊢
  split
  · rfl
  · rename_i hlt
    rw [if_neg hlt] at hforward
    exact absurd (List.getElem?_eq_none_iff.1 hforward) hlt

/-- A list keeps one place at least, whatever it was asked to keep. -/
theorem withBound_max_one (bound : Nat) : withBound (max bound 1) = withBound bound := by
  rw [withBound, withBound, Nat.max_eq_left (Nat.le_max_right bound 1)]

/-- What is recorded depends on the places up to the cursor. -/
theorem push_congr {j' : JumpList} (hbound : j.bound = j'.bound)
    (hkept : j.entries.take j.current = j'.entries.take j'.current) (p : Position) :
    j.push p = j'.push p := by
  simp only [push, hkept, hbound]

namespace WellFormed

variable (h : j.WellFormed bound)
include h

/-- A walk back that fails has begun, unless there was no place to walk to. -/
theorem back_of_none (hback : (j.back live n).2 = none) :
    (j.back live n).1 = if j.entries = [] then j else j.startWalk live := by
  unfold JumpList.back at hback ⊢
  simp only [List.isEmpty_iff] at hback ⊢
  split
  · rfl
  · rename_i hsome
    rw [if_neg hsome] at hback
    split
    · rfl
    · rename_i hnear
      rw [if_neg hnear] at hback
      have hlt := (h.startWalk live).2
      have hout := List.getElem?_eq_none_iff.1 hback
      rw [size] at hlt
      omega

/-- So a walk that begins changes the list. -/
theorem startWalk_ne (hlive : j.IsLive) : j.startWalk live ≠ j := by
  intro hsame
  obtain ⟨-, hlast, -⟩ := h.startWalk_of_live hlive live
  rw [hsame, show j.current = j.size from hlive] at hlast
  omega

/-- A walk back that fails leaves the list alone if and only if the cursor was walking, or there is
no place. -/
theorem back_of_none_eq_iff (hback : (j.back live n).2 = none) :
    (j.back live n).1 = j ↔ ¬ j.IsLive ∨ j.entries = [] := by
  rw [h.back_of_none hback]
  split
  · rename_i hempty
    exact iff_of_true rfl (.inr hempty)
  · rename_i hsome
    rw [or_iff_left hsome]
    constructor
    · exact fun hsame hlive => h.startWalk_ne hlive hsame
    · exact fun hwalking => (h.startWalk_of_not_live hwalking live).1

/-! ## What comes after -/

/-- A cursor that is walking goes on from where it is. -/
theorem back_of_walking (hwalking : ¬ j.IsLive) (live : Position) (n : Nat) :
    j.back live n =
      if j.current < n then (j, none)
      else ({ j with current := j.current - n }, j.entries[j.current - n]?) := by
  obtain ⟨hsame, hlt⟩ := h.startWalk_of_not_live hwalking live
  have hsome : ¬ j.entries.isEmpty = true := fun hempty => by
    rw [size, List.isEmpty_iff.1 hempty] at hlt
    exact Nat.not_lt_zero _ hlt
  rw [JumpList.back, if_neg hsome, hsame]

/-- A walk from a new row to the oldest place, and forward again to where it began. -/
theorem results_toOldest (hlive : j.IsLive) (hsome : j.entries ≠ []) {q : Position}
    (hrow : endsOnRow j.entries q.row = false) :
    results [.back q j.size, .forward j.size] j = [j.entries.head?, some q] := by
  have hstart : j.startWalk q = _ :=
    (h.startWalk_eq hlive _).trans (if_neg (Bool.eq_false_iff.1 hrow))
  have hempty : ¬ j.entries.isEmpty = true := fun he => hsome (List.isEmpty_iff.1 he)
  have hback : j.back q j.size =
      ({ j with entries := j.entries ++ [q], current := 0 }, j.entries.head?) := by
    rw [JumpList.back, if_neg hempty, hstart]
    dsimp only
    rw [if_neg (Nat.lt_irrefl _), Nat.sub_self, ← List.head?_eq_getElem?,
      List.head?_append_of_ne_nil _ hsome]
  have hforward : (JumpList.forward { j with entries := j.entries ++ [q], current := 0 } j.size).2 =
      some q := by
    have hin : ¬ (j.entries ++ [q]).length ≤ 0 + j.size := by
      rw [List.length_append, List.length_singleton, size]
      omega
    rw [JumpList.forward, if_neg hin, Nat.zero_add]
    exact List.getElem?_concat_length
  rw [results, results, results, Call.result, Call.result, Call.apply, hback, hforward]

/-- The list that a failed walk leaves answers the same walk otherwise. -/
theorem results_toOldest_startWalk (hlive : j.IsLive) (hsome : j.entries ≠ []) {q : Position}
    (hq : q ≠ live) :
    results [.back q j.size, .forward j.size] (j.startWalk live) ≠ [j.entries.head?, some q] := by
  have hpos : 0 < j.size := List.length_pos_iff.2 hsome
  obtain ⟨hstarted, hlast, -⟩ := h.startWalk_of_live hlive live
  have hwalking : ¬ (j.startWalk live).IsLive := fun hbehind => by
    rw [show (j.startWalk live).current = (j.startWalk live).size from hbehind] at hlast
    omega
  have hback := hstarted.back_of_walking hwalking q j.size
  rw [results, results, results, Call.result, Call.result, Call.apply, hback, h.startWalk_eq hlive]
  split
  · -- the walk stands one place further back, and does not get that far again
    rw [if_pos (Nat.sub_lt hpos Nat.one_pos), List.head?_eq_getElem?, List.getElem?_eq_getElem hpos]
    intro heq
    cases (List.cons.inj heq).1
  · -- the walk gets as far, and leads forward to where the first one began
    have hin : ¬ (j.entries ++ [live]).length ≤ 0 + j.size := by
      rw [List.length_append, List.length_singleton, size]
      omega
    dsimp only
    rw [if_neg (Nat.lt_irrefl _), Nat.sub_self, JumpList.forward, if_neg hin, Nat.zero_add]
    intro heq
    have hforward := (List.cons.inj (List.cons.inj heq).2).1
    rw [size, List.getElem?_concat_length] at hforward
    exact hq (Option.some.inj hforward).symm

/-- A walk that has begun can be told from a cursor that is live. -/
theorem exists_results_ne (hlive : j.IsLive) (hsome : j.entries ≠ []) (live : Position) :
    ∃ later, results later (j.startWalk live) ≠ results later j := by
  -- a place on a row that is neither that of the newest place nor that of the cursor
  obtain ⟨last, hlast⟩ := List.getLast?_isSome.2 hsome |> Option.isSome_iff_exists.1
  let q : Position := ⟨last.row + live.row + 1, 0⟩
  have hrow : endsOnRow j.entries q.row = false := by
    rw [endsOnRow, hlast]
    exact beq_eq_false_iff_ne.2 (by simp only [q]; omega)
  have hq : q ≠ live := fun heq => by
    have hrows := congrArg Position.row heq
    simp only [q] at hrows
    omega
  refine ⟨[.back q j.size, .forward j.size], ?_⟩
  rw [h.results_toOldest hlive hsome hrow]
  exact h.results_toOldest_startWalk hlive hsome hq

/-- A place that is recorded when a walk has just begun: the newest place is dropped if the walk began
on its row. -/
theorem startWalk_push (hlive : j.IsLive) (live p : Position) :
    (j.startWalk live).push p =
      if endsOnRow j.entries live.row then j.dropNewest.push p else j.push p := by
  have hkept : j.entries.take j.current = j.entries := by
    rw [show j.current = j.size from hlive]
    exact List.take_length
  rw [h.startWalk_eq hlive]
  split
  · have hdropped : j.entries.take (j.size - 1) =
        (j.dropNewest.entries).take j.dropNewest.current := by
      rw [dropNewest, List.take_length, List.dropLast_eq_take, size]
    exact push_congr (by rfl) hdropped p
  · have hsame : (j.entries ++ [live]).take j.size = j.entries.take j.current := by
      rw [hkept]
      exact List.take_left
    exact push_congr (by rfl) hsame p

/-- A list that a failed walk leaves is told from the one before by some later calls, unless it is
that list. -/
theorem back_of_none_results_iff (hback : (j.back live n).2 = none) :
    (∀ later, results later (j.back live n).1 = results later j) ↔ (j.back live n).1 = j := by
  refine ⟨fun hresults => ?_, fun heq _ => by rw [heq]⟩
  by_contra hne
  obtain ⟨hlive, hsome⟩ := not_or.1 (mt (h.back_of_none_eq_iff hback).2 hne)
  obtain ⟨later, htell⟩ := h.exists_results_ne (not_not.1 hlive) hsome live
  rw [h.back_of_none hback, if_neg hsome] at hresults
  exact htell (hresults later)

/-- A place that is recorded after a failed walk. -/
theorem back_of_none_push (hback : (j.back live n).2 = none) (p : Position) :
    (j.back live n).1.push p =
      if j.IsLive ∧ endsOnRow j.entries live.row = true then j.dropNewest.push p else j.push p := by
  by_cases hkept : ¬ j.IsLive ∨ j.entries = []
  · have hneither : ¬(j.IsLive ∧ endsOnRow j.entries live.row = true) := by
      rintro ⟨hlive, hrow⟩
      rcases hkept with hwalking | hempty
      · exact hwalking hlive
      · rw [hempty] at hrow
        cases hrow
    rw [(h.back_of_none_eq_iff hback).2 hkept, if_neg hneither]
  · obtain ⟨hlive, hsome⟩ := not_or.1 hkept
    rw [h.back_of_none hback, if_neg hsome, h.startWalk_push (not_not.1 hlive)]
    simp only [not_not.1 hlive, true_and]

end WellFormed

/-- **What a failed walk leaves behind.** After whatever calls on an empty list, a walk forward that
fails changes nothing. A walk back that fails changes nothing if the cursor was walking already or
there was no place. From a live cursor the walk has begun: the cursor stands at the newest place, which
is its own place unless it shares a row with the one before. Later calls tell such a list from the one
before; a place that is recorded next makes up for it, except that the newest place is lost if the
cursor stood on its row. -/
theorem runCalls_failedWalk (bound : Nat) (calls : List Call) :
    let j := runCalls calls (withBound bound)
    (∀ n, (j.forward n).2 = none → (j.forward n).1 = j) ∧
      ∀ live n, (j.back live n).2 = none →
        let left := (j.back live n).1
        (left = j ↔ ¬ j.IsLive ∨ j.entries = []) ∧
          (j.IsLive → j.entries ≠ [] → left =
            if endsOnRow j.entries live.row then { j with current := j.size - 1 }
            else { j with entries := j.entries ++ [live], current := j.size }) ∧
          ((∀ later, results later left = results later j) ↔ left = j) ∧
          ∀ p, left.push p =
            if j.IsLive ∧ endsOnRow j.entries live.row = true then j.dropNewest.push p
            else j.push p := by
  intro j
  have hstart : (withBound bound).WellFormed (max bound 1) := by
    rw [← withBound_max_one]
    exact wellFormed_withBound (Nat.le_max_right _ _)
  have h : j.WellFormed (max bound 1) := hstart.runCalls calls
  refine ⟨fun n hforward => forward_of_none hforward, fun live n hback => ?_⟩
  intro left
  refine ⟨h.back_of_none_eq_iff hback, fun hlive hsome => ?_, h.back_of_none_results_iff hback,
    h.back_of_none_push hback⟩
  show (j.back live n).1 = _
  rw [h.back_of_none hback, if_neg hsome, h.startWalk_eq hlive]

/-- A cursor on the row of the newest place walks too far back, and a jump from another row is
recorded: the newest place is lost. -/
theorem runCalls_failedWalk_push :
    let j := runCalls [.push ⟨0, 0⟩, .push ⟨4, 0⟩] (withBound 100)
    (j.back ⟨4, 2⟩ 2).2 = none ∧
      ((j.back ⟨4, 2⟩ 2).1.push ⟨7, 0⟩).entries = [⟨0, 0⟩, ⟨7, 0⟩] ∧
      (j.push ⟨7, 0⟩).entries = [⟨0, 0⟩, ⟨4, 0⟩, ⟨7, 0⟩] := by
  intro j
  have hback : (j.back ⟨4, 2⟩ 2).2 = none := by decide
  obtain ⟨-, -, -, hpush⟩ := (runCalls_failedWalk 100
    [.push ⟨0, 0⟩, .push ⟨4, 0⟩]).2 ⟨4, 2⟩ 2 hback
  refine ⟨hback, ?_, by decide⟩
  have hlost := congrArg entries (hpush ⟨7, 0⟩)
  exact hlost.trans (by decide)

/-- A cursor on the row of the only place cannot walk two places back. It then cannot walk back one
place either, from whatever row. -/
theorem runCalls_failedWalk_ne :
    ¬ ∀ (bound : Nat) (calls : List Call) (live : Position) (n : Nat),
      ((runCalls calls (withBound bound)).back live n).2 = none →
      ((runCalls calls (withBound bound)).back live n).1.entries =
          (runCalls calls (withBound bound)).entries ∧
        ((runCalls calls (withBound bound)).back live n).1.current =
          (runCalls calls (withBound bound)).current ∧
        ∀ later, results later ((runCalls calls (withBound bound)).back live n).1 =
          results later (runCalls calls (withBound bound)) := by
  intro h
  obtain ⟨-, -, hresults⟩ := h 100 [.push ⟨0, 0⟩] ⟨0, 0⟩ 2 (by decide)
  exact absurd (hresults [.back ⟨3, 0⟩ 1]) (by decide)

end ModalEditor.JumpList
