import Mathlib.Data.List.Chain
import ModalEditor.JumpList

/-!
# Walking through the jump list

Whatever is recorded and walked, the list of places stays in order (`JumpList.WellFormed`): the cursor
stands at one of them or behind the last, there are no more of them than the bound allows, and no two
neighbours are on the same row. The first step back may keep one place more than the bound, and that
is why the bound is a different one while the cursor walks.

A walk begins with `startWalk`, after which the cursor stands on the row that it came from
(`startWalk_of_live`). As many steps forward as back therefore lead to that row again
(`runCalls_walk`).
-/

namespace ModalEditor.JumpList

/-- The cursor is not walking: it stands behind the last place. -/
def IsLive (j : JumpList) : Prop :=
  j.current = j.size

instance (j : JumpList) : Decidable j.IsLive :=
  inferInstanceAs (Decidable (j.current = j.size))

/-- No two neighbours are on the same row. -/
def RowsDiffer (entries : List Position) : Prop :=
  entries.IsChain fun p q => p.row ≠ q.row

/-- The places of a list with this bound are in order, and so is the one that the cursor walked to. -/
structure WellFormed (bound : Nat) (j : JumpList) : Prop where
  bound_eq : j.bound = bound
  current_le : j.current ≤ j.size
  size_le : j.size ≤ bound + 1
  size_le_of_live : j.IsLive → j.size ≤ bound
  rows : RowsDiffer j.entries

/-- What a client does with a jump list. -/
inductive Call where
  | push (p : Position)
  | back (live : Position) (n : Nat)
  | forward (n : Nat)

/-- The list after a call. -/
def Call.apply (c : Call) (j : JumpList) : JumpList :=
  match c with
  | .push p => j.push p
  | .back live n => (j.back live n).1
  | .forward n => (j.forward n).1

/-- The list after one call after the other. -/
def runCalls (calls : List Call) (j : JumpList) : JumpList :=
  calls.foldl (fun j c => c.apply j) j

/-! ## Adding a place -/

section Adding

variable {entries : List Position} {row : Nat}

/-- Whether the newest entry is on a row. -/
theorem endsOnRow_iff :
    endsOnRow entries row = true ↔ ∃ last, entries.getLast? = some last ∧ last.row = row := by
  unfold endsOnRow
  cases entries.getLast? <;> simp

/-- A place on another row than the newest entry's keeps neighbours apart. -/
theorem RowsDiffer.append {p : Position} (h : RowsDiffer entries)
    (hrow : endsOnRow entries p.row = false) : RowsDiffer (entries ++ [p]) := by
  refine List.isChain_append.2 ⟨h, List.isChain_singleton p, fun last hlast q hq => ?_⟩
  obtain rfl : p = q := Option.some.inj hq
  intro hsame
  exact Bool.false_ne_true (hrow.symm.trans (endsOnRow_iff.2 ⟨last, hlast, hsame⟩))

/-- A place on the row of the last one takes its place. -/
theorem RowsDiffer.replaceLast {p : Position} (h : RowsDiffer entries)
    (hrow : endsOnRow entries p.row = true) : RowsDiffer (entries.dropLast ++ [p]) := by
  obtain ⟨last, hlast, hsame⟩ := endsOnRow_iff.1 hrow
  rw [← List.dropLast_append_getLast? last hlast] at h
  obtain ⟨hbefore, -, hjoint⟩ := List.isChain_append.1 h
  refine List.isChain_append.2 ⟨hbefore, List.isChain_singleton p, fun q hq p' hp' => ?_⟩
  obtain rfl : p = p' := Option.some.inj hp'
  rw [← hsame]
  exact hjoint q hq last rfl

/-- Neighbours stay apart when the oldest entry is dropped. -/
theorem RowsDiffer.addWithin {p : Position} (h : RowsDiffer entries)
    (hrow : endsOnRow entries p.row = false) (limit : Nat) :
    RowsDiffer (addWithin limit entries p) := by
  unfold JumpList.addWithin
  dsimp only
  split
  · exact (h.append hrow).drop 1
  · exact h.append hrow

/-- A place added within a limit keeps to it. -/
theorem length_addWithin_le {limit : Nat} (h : entries.length ≤ limit) (p : Position) :
    (addWithin limit entries p).length ≤ limit := by
  unfold addWithin
  simp only [List.length_append, List.length_singleton]
  split
  · rw [List.length_drop, List.length_append, List.length_singleton]
    omega
  · rw [List.length_append, List.length_singleton]
    omega

end Adding

namespace WellFormed

variable {bound : Nat} {j : JumpList}

/-! ## One call -/

/-- What a walk leaves behind fits into the bound. -/
theorem length_kept_le (h : j.WellFormed bound) : (j.entries.take j.current).length ≤ bound := by
  rw [List.length_take_of_le h.current_le]
  rcases Nat.lt_or_eq_of_le h.current_le with hwalking | hlive
  · have hsize := h.size_le
    omega
  · rw [hlive]
    exact h.size_le_of_live hlive

/-- The cursor walks to one of the places. -/
theorem walkTo (h : j.WellFormed bound) {n : Nat} (hn : n < j.size) :
    WellFormed bound { j with current := n } where
  bound_eq := h.bound_eq
  current_le := Nat.le_of_lt hn
  size_le := h.size_le
  size_le_of_live hlive := absurd hlive (Nat.ne_of_lt hn)
  rows := h.rows

/-- A jump keeps the list well formed. -/
theorem push (h : j.WellFormed bound) (p : Position) : (j.push p).WellFormed bound := by
  have hkept := h.length_kept_le
  have hrows : RowsDiffer (j.entries.take j.current) := h.rows.take j.current
  -- afterwards the cursor is live, so the narrower bound is the one that counts
  suffices hnew : (j.push p).size ≤ bound ∧ RowsDiffer (j.push p).entries from
    ⟨h.bound_eq, Nat.le_refl _, Nat.le_succ_of_le hnew.1, fun _ => hnew.1, hnew.2⟩
  simp only [JumpList.push, size, h.bound_eq]
  split
  · rename_i hrow
    obtain ⟨last, hlast, -⟩ := endsOnRow_iff.1 hrow
    refine ⟨?_, hrows.replaceLast hrow⟩
    rw [← List.dropLast_append_getLast? last hlast, List.length_append] at hkept
    rw [List.length_append]
    exact hkept
  · rename_i hrow
    exact ⟨length_addWithin_le hkept p, hrows.addWithin (Bool.eq_false_iff.2 hrow) bound⟩

/-- A walk from a live cursor begins at the cursor's place, or at the newest one if that shares its
row. -/
theorem startWalk_eq (h : j.WellFormed bound) (hlive : j.IsLive) (live : Position) :
    j.startWalk live =
      if endsOnRow j.entries live.row then { j with current := j.size - 1 }
      else { j with entries := j.entries ++ [live], current := j.size } := by
  have hsize : j.entries.length ≤ bound := h.size_le_of_live hlive
  have hcurrent : j.entries.length ≤ j.current := Nat.le_of_eq hlive.symm
  rw [JumpList.startWalk, if_pos hcurrent, h.bound_eq]
  dsimp only
  split
  · rfl
  · -- one place more than the bound is kept, so none is dropped
    have hroom : ¬ bound + 1 < (j.entries ++ [live]).length := by
      rw [List.length_append, List.length_singleton]
      omega
    rw [addWithin, if_neg hroom, List.length_append, List.length_singleton, Nat.add_sub_cancel]
    rfl

/-- A walk begins on the row of the cursor, at the last place. -/
theorem startWalk_of_live (h : j.WellFormed bound) (hlive : j.IsLive) (live : Position) :
    (j.startWalk live).WellFormed bound ∧
      (j.startWalk live).current + 1 = (j.startWalk live).size ∧
      endsOnRow (j.startWalk live).entries live.row = true := by
  have hsize : j.size ≤ bound := h.size_le_of_live hlive
  rw [h.startWalk_eq hlive live]
  split
  · rename_i hrow
    obtain ⟨last, hlast, -⟩ := endsOnRow_iff.1 hrow
    have hpos : 0 < j.size := List.length_pos_of_mem (List.mem_of_getLast? hlast)
    refine ⟨⟨h.bound_eq, Nat.sub_le _ _, h.size_le, fun _ => hsize, h.rows⟩, ?_, hrow⟩
    exact Nat.sub_add_cancel hpos
  · rename_i hrow
    have hlength : (j.entries ++ [live]).length = j.size + 1 := List.length_append
    refine ⟨⟨h.bound_eq, ?_, ?_, fun hbehind => ?_, h.rows.append (Bool.eq_false_iff.2 hrow)⟩,
      hlength.symm, endsOnRow_iff.2 ⟨live, List.getLast?_concat, rfl⟩⟩
    · exact (Nat.le_succ j.size).trans_eq hlength.symm
    · exact hlength.trans_le (Nat.succ_le_succ hsize)
    · -- the walk has begun, so the cursor is not behind the last place
      have hcurrent : j.size = j.size + 1 := hbehind.trans hlength
      omega

/-- A walk that is going on goes on. -/
theorem startWalk_of_not_live (h : j.WellFormed bound) (hwalking : ¬ j.IsLive) (live : Position) :
    j.startWalk live = j ∧ j.current < j.size := by
  have hlt : j.current < j.size := Nat.lt_of_le_of_ne h.current_le hwalking
  exact ⟨if_neg (Nat.not_le.2 hlt), hlt⟩

/-- The start of a walk keeps the list well formed and leaves it walking. -/
theorem startWalk (h : j.WellFormed bound) (live : Position) :
    (j.startWalk live).WellFormed bound ∧
      (j.startWalk live).current < (j.startWalk live).size := by
  by_cases hlive : j.IsLive
  · obtain ⟨hstarted, hlast, -⟩ := h.startWalk_of_live hlive live
    exact ⟨hstarted, by omega⟩
  · obtain ⟨hsame, hlt⟩ := h.startWalk_of_not_live hlive live
    rw [hsame]
    exact ⟨h, hlt⟩

/-- A step back keeps the list well formed, also where it fails. -/
theorem back (h : j.WellFormed bound) (live : Position) (n : Nat) :
    (j.back live n).1.WellFormed bound := by
  unfold JumpList.back
  split
  · exact h
  · obtain ⟨hstarted, hlt⟩ := h.startWalk live
    dsimp only
    split
    · exact hstarted
    · exact hstarted.walkTo (Nat.lt_of_le_of_lt (Nat.sub_le _ _) hlt)

/-- A step forward keeps the list well formed, also where it fails. -/
theorem forward (h : j.WellFormed bound) (n : Nat) : (j.forward n).1.WellFormed bound := by
  unfold JumpList.forward
  split
  · exact h
  · rename_i hlt
    exact h.walkTo (Nat.not_le.1 hlt)

/-- Every call keeps the list in order. -/
theorem apply (h : j.WellFormed bound) (c : Call) : (c.apply j).WellFormed bound := by
  cases c with
  | push p => exact h.push p
  | back live n => exact h.back live n
  | forward n => exact h.forward n

/-- Any calls keep the list well formed, by induction on the calls. -/
theorem runCalls (h : j.WellFormed bound) (calls : List Call) :
    (runCalls calls j).WellFormed bound := by
  induction calls generalizing j with
  | nil => exact h
  | cons c calls ih => exact ih (h.apply c)

end WellFormed

/-- An empty list is well formed. -/
theorem wellFormed_withBound {bound : Nat} (hbound : 1 ≤ bound) :
    (withBound bound).WellFormed bound where
  bound_eq := Nat.max_eq_left hbound
  current_le := Nat.le_refl 0
  size_le := Nat.zero_le _
  size_le_of_live _ := Nat.zero_le _
  rows := List.isChain_nil

/-! ## Back and forward -/

section Back

variable {j : JumpList} {live p : Position} {n : Nat}

/-- A walk back that succeeds goes `n` places back from where the walk began. -/
theorem back_eq_some (hback : (j.back live n).2 = some p) :
    n ≤ (j.startWalk live).current ∧
      (j.back live n).1 =
        { j.startWalk live with current := (j.startWalk live).current - n } := by
  unfold back at hback ⊢
  split
  · rename_i hempty
    rw [if_pos hempty] at hback
    cases hback
  · rename_i hempty
    rw [if_neg hempty] at hback
    dsimp only at hback ⊢
    split
    · rename_i hfar
      rw [if_pos hfar] at hback
      cases hback
    · rename_i hnear
      exact ⟨Nat.not_lt.1 hnear, rfl⟩

/-- As many steps forward as back lead to where the walk began. -/
theorem WellFormed.forward_back {bound : Nat} (h : j.WellFormed bound)
    (hback : (j.back live n).2 = some p) :
    ((j.back live n).1.forward n).2 =
      (j.startWalk live).entries[(j.startWalk live).current]? := by
  obtain ⟨hle, heq⟩ := back_eq_some hback
  have hsum : (j.startWalk live).current - n + n = (j.startWalk live).current :=
    Nat.sub_add_cancel hle
  rw [heq, JumpList.forward, if_neg (by rw [hsum]; exact Nat.not_le.2 (h.startWalk live).2)]
  dsimp only
  rw [hsum]

end Back

/-- **The jump list keeps its order, and walking back and forth returns.** After whatever calls on an
empty list, the cursor stands at a place or behind the last one, there is at most one place more than
the bound allows, and none while the cursor is not walking, and no two neighbours are on the same
row. A walk back that succeeds can be undone by as many steps forward: they lead to a place on the row
where the walk began or, if a walk was going on already, to the place that it had come to. -/
theorem runCalls_walk {bound : Nat} (hbound : 1 ≤ bound) (calls : List Call) :
    let j := runCalls calls (withBound bound)
    j.current ≤ j.size ∧ j.size ≤ bound + 1 ∧ (j.IsLive → j.size ≤ bound) ∧
      RowsDiffer j.entries ∧
      ∀ live n p, (j.back live n).2 = some p →
        ∃ q, ((j.back live n).1.forward n).2 = some q ∧
          if j.IsLive then q.row = live.row else j.entries[j.current]? = some q := by
  intro j
  have h : j.WellFormed bound := (wellFormed_withBound hbound).runCalls calls
  refine ⟨h.current_le, h.size_le, h.size_le_of_live, h.rows, fun live n p hback => ?_⟩
  have hforward := h.forward_back hback
  split
  · rename_i hlive
    obtain ⟨-, hlast, hends⟩ := h.startWalk_of_live hlive live
    obtain ⟨q, hq, hrow⟩ := endsOnRow_iff.1 hends
    refine ⟨q, ?_, hrow⟩
    have hcurrent : (j.startWalk live).current = (j.startWalk live).entries.length - 1 :=
      Nat.eq_sub_of_add_eq hlast
    rw [hforward, ← hq, List.getLast?_eq_getElem?, hcurrent]
  · rename_i hwalking
    obtain ⟨hsame, hlt⟩ := h.startWalk_of_not_live hwalking live
    rw [hsame] at hforward
    have hplace : j.entries[j.current]? = some j.entries[j.current] :=
      List.getElem?_eq_getElem hlt
    exact ⟨j.entries[j.current], hforward.trans hplace, hplace⟩

/-- A full list: the oldest place gives way to a new one, and the walk keeps one place more. -/
theorem runCalls_walk_full :
    let j := runCalls [.push ⟨0, 0⟩, .push ⟨1, 0⟩, .push ⟨2, 4⟩] (withBound 2)
    1 ≤ 2 ∧ j.IsLive ∧ j.size ≤ 2 ∧ (j.back ⟨5, 3⟩ 2).1.size = 3 ∧
      (j.back ⟨5, 3⟩ 2).2 = some ⟨1, 0⟩ ∧
      ∃ q, ((j.back ⟨5, 3⟩ 2).1.forward 2).2 = some q ∧ q.row = 5 := by
  intro j
  have hlive : j.IsLive := by decide
  have hback : (j.back ⟨5, 3⟩ 2).2 = some ⟨1, 0⟩ := by decide
  obtain ⟨-, -, hsize, -, hreturns⟩ :=
    runCalls_walk (by decide : 1 ≤ 2) [.push ⟨0, 0⟩, .push ⟨1, 0⟩, .push ⟨2, 4⟩]
  obtain ⟨q, hq, hrow⟩ := hreturns ⟨5, 3⟩ 2 ⟨1, 0⟩ hback
  exact ⟨by decide, hlive, hsize hlive, by decide, hback, q, hq, Eq.mp (if_pos hlive) hrow⟩

end ModalEditor.JumpList
