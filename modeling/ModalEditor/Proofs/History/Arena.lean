import Mathlib.Data.List.Basic
import ModalEditor.History

/-!
# The arena of the undo history

Every slot that holds a snapshot is named by one of the two stacks, exactly once, and every other
slot is on the free list. While that is so (`History.Sound`), the history behaves like two lists of
snapshots, the past and the future:

* `push_spec`: a change puts the state before it in front of the past, and drops the future;
* `undo_of_past` and `redo_of_future`: a step takes the first state of one side and puts the current
  state in front of the other.
-/

namespace ModalEditor.History

/-! ## Slots -/

/-- The arena holds snapshots in the slots `ids` and in no others, and the free list names exactly
the empty slots. -/
structure Holds (h : History) (ids : List SlotId) : Prop where
  nodup : ids.Nodup
  isSome_iff : ∀ id, (h.at? id).isSome ↔ id ∈ ids
  free_nodup : h.free.Nodup
  mem_free : ∀ id, id ∈ h.free ↔ id < h.slots.length ∧ h.at? id = none

/-- Only the set of the slots matters. -/
theorem Holds.perm {h : History} {ids ids' : List SlotId} (hh : h.Holds ids) (hp : ids.Perm ids') :
    h.Holds ids' where
  nodup := hp.nodup hh.nodup
  isSome_iff := fun id => (hh.isSome_iff id).trans hp.mem_iff
  free_nodup := hh.free_nodup
  mem_free := hh.mem_free

/-- The stacks are not part of the arena. -/
theorem Holds.withStacks {h : History} {ids : List SlotId} (hh : h.Holds ids)
    (undoStack redoStack : List SlotId) : { h with undoStack, redoStack }.Holds ids :=
  ⟨hh.nodup, hh.isSome_iff, hh.free_nodup, hh.mem_free⟩

/-- A slot holds a snapshot, beyond being in the arena. -/
theorem at?_eq_some {h : History} {id : SlotId} {s : Snapshot} :
    h.at? id = some s ↔ h.slots[id]? = some (some s) := by
  simp only [at?]
  cases h.slots[id]? with
  | none => simp
  | some slot => simp

/-- A slot that holds a snapshot is in the arena. -/
theorem lt_of_at? {h : History} {id : SlotId} {s : Snapshot} (hs : h.at? id = some s) :
    id < h.slots.length :=
  (List.getElem?_eq_some_iff.1 (at?_eq_some.1 hs)).1

/-- Writing into a slot that exists changes that slot alone. -/
theorem join_getElem?_set {slots : List (Option Snapshot)} {id : SlotId} (hid : id < slots.length)
    (v : Option Snapshot) (j : SlotId) :
    ((slots.set id v)[j]?).join = if j = id then v else (slots[j]?).join := by
  rw [List.getElem?_set]
  by_cases hj : j = id
  · subst hj
    simp [hid]
  · rw [if_neg (Ne.symm hj), if_neg hj]

/-- The arena grows by one slot at its end. -/
theorem join_getElem?_append (slots : List (Option Snapshot)) (v : Option Snapshot) (j : SlotId) :
    ((slots ++ [v])[j]?).join = if j = slots.length then v else (slots[j]?).join := by
  rcases Nat.lt_trichotomy j slots.length with hj | hj | hj
  · rw [List.getElem?_append_left hj, if_neg (Nat.ne_of_lt hj)]
  · subst hj
    simp
  · rw [if_neg (Nat.ne_of_gt hj), List.getElem?_eq_none (by simp; omega),
      List.getElem?_eq_none (by omega)]

/-! ## Taking and giving up slots -/

section Alloc

variable {h : History} {ids : List SlotId} (s : Snapshot)

@[simp] theorem alloc_undoStack : (h.alloc s).1.undoStack = h.undoStack := by
  unfold alloc; split <;> rfl

@[simp] theorem alloc_redoStack : (h.alloc s).1.redoStack = h.redoStack := by
  unfold alloc; split <;> rfl

@[simp] theorem alloc_bound : (h.alloc s).1.bound = h.bound := by
  unfold alloc; split <;> rfl

/-- After storing a snapshot its slot holds it, and the other slots hold what they held. -/
theorem Holds.at?_alloc (hh : h.Holds ids) (j : SlotId) :
    (h.alloc s).1.at? j = if j = (h.alloc s).2 then some s else h.at? j := by
  unfold alloc
  split
  · rename_i id free hfree
    have hid := ((hh.mem_free id).1 (by simp [hfree])).1
    exact join_getElem?_set hid (some s) j
  · exact join_getElem?_append h.slots (some s) j

/-- A snapshot is stored in a slot that was empty. -/
theorem Holds.alloc_not_mem (hh : h.Holds ids) : (h.alloc s).2 ∉ ids := by
  intro hmem
  have hsome := (hh.isSome_iff _).2 hmem
  unfold alloc at hsome
  split at hsome
  · rename_i id free hfree
    rw [((hh.mem_free id).1 (by simp [hfree])).2] at hsome
    exact absurd hsome (by simp)
  · simp [at?] at hsome

/-- A slot that is taken holds the snapshot, whether it was free or the arena grew for it. -/
theorem Holds.alloc (hh : h.Holds ids) : (h.alloc s).1.Holds ((h.alloc s).2 :: ids) where
  nodup := List.nodup_cons.2 ⟨hh.alloc_not_mem s, hh.nodup⟩
  isSome_iff := by
    intro j
    rw [hh.at?_alloc s j, List.mem_cons]
    by_cases hj : j = (h.alloc s).2
    · simp [hj]
    · simp [hj, hh.isSome_iff j]
  free_nodup := by
    have hfree := hh.free_nodup
    unfold History.alloc
    split
    · rename_i id free heq
      exact (List.nodup_cons.1 (heq ▸ hfree)).2
    · exact hfree
  mem_free := by
    intro j
    rw [hh.at?_alloc s j]
    have hfree := hh.free_nodup
    have hmem := hh.mem_free j
    unfold History.alloc
    split
    · -- a free slot is used again, and leaves the free list
      rename_i id free heq
      rw [heq] at hfree hmem
      have hid := (List.nodup_cons.1 hfree).1
      by_cases hj : j = id
      · subst hj
        simp [hid]
      · simpa [hj] using hmem
    · -- there is no free slot, and the arena grows by one
      rename_i heq
      rw [heq] at hmem
      by_cases hj : j = h.slots.length
      · subst hj
        simp [heq]
      · simp only [heq, List.not_mem_nil, false_iff, not_and, List.length_append,
          List.length_singleton, hj, if_false] at hmem ⊢
        exact fun hlt => hmem (Nat.lt_of_le_of_ne (Nat.le_of_lt_succ hlt) hj)

end Alloc

section Release

variable {h : History} {ids : List SlotId} {id : SlotId}

@[simp] theorem release_undoStack (id : SlotId) : (h.release id).undoStack = h.undoStack := by
  unfold release; split <;> rfl

@[simp] theorem release_redoStack (id : SlotId) : (h.release id).redoStack = h.redoStack := by
  unfold release; split <;> rfl

@[simp] theorem release_bound (id : SlotId) : (h.release id).bound = h.bound := by
  unfold release; split <;> rfl

/-- After a slot is given up it is empty, and the other slots hold what they held. -/
theorem at?_release (h : History) (id j : SlotId) :
    (h.release id).at? j = if j = id then none else h.at? j := by
  unfold release
  split
  · rename_i s hs
    exact join_getElem?_set (lt_of_at? hs) none j
  · rename_i hs
    by_cases hj : j = id
    · rw [if_pos hj, hj, hs]
    · rw [if_neg hj]

/-- A slot that is given up is empty, and free to be taken. -/
theorem Holds.release (hh : h.Holds (id :: ids)) : (h.release id).Holds ids where
  nodup := (List.nodup_cons.1 hh.nodup).2
  isSome_iff := by
    intro j
    rw [at?_release]
    by_cases hj : j = id
    · subst hj
      simpa using (List.nodup_cons.1 hh.nodup).1
    · rw [if_neg hj, hh.isSome_iff j, List.mem_cons]
      simp [hj]
  free_nodup := by
    -- the slot holds a snapshot until now, so it was not on the free list
    have hid : id ∉ h.free := by
      intro hmem
      have hsome := (hh.isSome_iff id).2 (List.mem_cons_self ..)
      rw [((hh.mem_free id).1 hmem).2] at hsome
      exact absurd hsome (by simp)
    unfold History.release
    split
    · exact List.nodup_cons.2 ⟨hid, hh.free_nodup⟩
    · exact hh.free_nodup
  mem_free := by
    intro j
    obtain ⟨s, hs⟩ := Option.isSome_iff_exists.1 ((hh.isSome_iff id).2 (List.mem_cons_self ..))
    rw [at?_release]
    simp only [History.release, hs, List.mem_cons, List.length_set, hh.mem_free j]
    by_cases hj : j = id
    · subst hj
      simp [lt_of_at? hs]
    · simp [hj]

end Release

/-! ## The two stacks -/

/-- The slots that hold snapshots are those that the stacks name, each of them once, and the stacks
together are within the bound. -/
structure Sound (h : History) : Prop where
  holds : h.Holds (h.undoStack ++ h.redoStack)
  length_le : h.undoStack.length + h.redoStack.length ≤ h.bound
  bound_pos : 0 < h.bound

/-- The snapshots in the given slots. -/
def states (h : History) (ids : List SlotId) : List Snapshot :=
  ids.filterMap h.at?

/-- The older states, the newest first. -/
def past (h : History) : List Snapshot :=
  h.states h.undoStack

/-- The states that were taken back, the latest first. -/
def future (h : History) : List Snapshot :=
  h.states h.redoStack

/-- States are read from their slots alone. -/
theorem states_congr {h h' : History} {ids : List SlotId} (heq : ∀ id ∈ ids, h'.at? id = h.at? id) :
    h'.states ids = h.states ids :=
  List.filterMap_congr heq

/-- The states of a stack, one after the other. -/
theorem states_cons {h : History} {id : SlotId} {s : Snapshot} (hs : h.at? id = some s)
    (ids : List SlotId) : h.states (id :: ids) = s :: h.states ids := by
  rw [states, List.filterMap_cons_some hs, states]

/-- Where every slot holds a snapshot there are as many states as slots. -/
theorem Holds.length_states {h : History} {ids : List SlotId} (hh : h.Holds ids)
    {some_ids : List SlotId} (hsub : ∀ id ∈ some_ids, id ∈ ids) :
    (h.states some_ids).length = some_ids.length := by
  induction some_ids with
  | nil => rfl
  | cons id rest ih =>
    obtain ⟨s, hs⟩ :=
      Option.isSome_iff_exists.1 ((hh.isSome_iff id).2 (hsub id (List.mem_cons_self ..)))
    rw [states_cons hs, List.length_cons, List.length_cons,
      ih fun j hj => hsub j (List.mem_cons_of_mem _ hj)]

/-- A new history is sound: nothing is held. -/
theorem sound_withBound (bound : Nat) : (withBound bound).Sound where
  holds := ⟨List.nodup_nil, by simp [at?, withBound], List.nodup_nil, by simp [withBound]⟩
  length_le := by simp [withBound]
  bound_pos := by simp only [withBound]; omega

/-! ## A change -/

/-- Giving up slots leaves the stack alone. -/
@[simp] theorem foldl_release_undoStack (ids : List SlotId) (h : History) :
    (ids.foldl release h).undoStack = h.undoStack := by
  induction ids generalizing h with
  | nil => rfl
  | cons id ids ih => rw [List.foldl_cons, ih, release_undoStack]

/-- Giving up slots leaves the bound alone. -/
@[simp] theorem foldl_release_bound (ids : List SlotId) (h : History) :
    (ids.foldl release h).bound = h.bound := by
  induction ids generalizing h with
  | nil => rfl
  | cons id ids ih => rw [List.foldl_cons, ih, release_bound]

/-- Giving up slots empties no other slot. -/
theorem at?_foldl_release {ids : List SlotId} {j : SlotId} (hj : j ∉ ids) (h : History) :
    (ids.foldl release h).at? j = h.at? j := by
  induction ids generalizing h with
  | nil => rfl
  | cons id ids ih =>
    rw [List.mem_cons, not_or] at hj
    rw [List.foldl_cons, ih hj.2, at?_release, if_neg hj.1]

/-- Slots are given up one after the other, by induction on them. -/
theorem Holds.foldl_release {ids kept : List SlotId} {h : History} (hh : h.Holds (ids ++ kept)) :
    (ids.foldl History.release h).Holds kept := by
  induction ids generalizing h with
  | nil => exact hh
  | cons id ids ih => exact ih hh.release

/-- No slot is named by both stacks. -/
theorem not_mem_redoStack {h : History} (hh : h.Holds (h.undoStack ++ h.redoStack)) {id : SlotId}
    (hid : id ∈ h.undoStack) : id ∉ h.redoStack := fun hmem =>
  (List.nodup_append.1 hh.nodup).2.2 id hid id hmem rfl

/-- Giving up the states that were taken back leaves the older ones alone. -/
theorem past_clearRedo {h : History} (hh : h.Holds (h.undoStack ++ h.redoStack)) :
    h.clearRedo.past = h.past := by
  unfold past clearRedo
  rw [foldl_release_undoStack]
  refine states_congr fun id hid => at?_foldl_release (fun hmem => ?_) h
  exact not_mem_redoStack hh hid (List.mem_reverse.1 hmem)

/-- With the future given up, the past is all that is held; so what it was sound with is asked of it
only. -/
theorem clearRedo_sound {h : History} (hh : h.Holds (h.undoStack ++ h.redoStack))
    (hle : h.undoStack.length ≤ h.bound) (hpos : 0 < h.bound) : h.clearRedo.Sound where
  holds := by
    have horder : (h.undoStack ++ h.redoStack).Perm (h.redoStack.reverse ++ h.undoStack) :=
      List.perm_append_comm.trans ((List.reverse_perm _).symm.append_right _)
    have hkept := (hh.perm horder).foldl_release
    simp only [clearRedo, foldl_release_undoStack, List.append_nil]
    exact hkept.withStacks _ _
  length_le := by rwa [clearRedo, foldl_release_undoStack, foldl_release_bound]
  bound_pos := by rwa [clearRedo, foldl_release_bound]

/-- Trimming gives up the oldest state where there is one too many. -/
theorem trim_spec {h : History} (hh : h.Holds (h.undoStack ++ h.redoStack))
    (hle : h.undoStack.length ≤ h.bound + 1) :
    h.trim.Holds (h.trim.undoStack ++ h.trim.redoStack) ∧ h.trim.undoStack.length ≤ h.trim.bound ∧
      h.trim.bound = h.bound ∧ h.trim.past = h.past.take h.bound := by
  unfold trim
  split
  · rename_i hlt
    have hne : h.undoStack ≠ [] := by rintro hnil; simp [hnil] at hlt
    have hsplit := List.dropLast_concat_getLast hne
    rw [List.getLast?_eq_some_getLast hne]
    -- the oldest state comes first in the order in which slots are given up
    have hperm : (h.undoStack ++ h.redoStack).Perm
        (h.undoStack.getLast hne :: (h.undoStack.dropLast ++ h.redoStack)) := by
      rw [← List.cons_append]
      refine List.Perm.append_right _ ?_
      conv_lhs => rw [← hsplit]
      exact List.perm_append_singleton _ _
    have hheld := hh.perm hperm
    refine ⟨?_, ?_, by simp, ?_⟩
    · simpa using hheld.release.withStacks h.undoStack.dropLast h.redoStack
    · simp only [List.length_dropLast, release_bound]; omega
    · have hlen : (h.states h.undoStack.dropLast).length = h.bound := by
        rw [hh.length_states fun id hid => List.mem_append_left _ (List.dropLast_subset _ hid),
          List.length_dropLast]
        omega
      have hpast : h.past =
          h.states h.undoStack.dropLast ++ h.states [h.undoStack.getLast hne] := by
        unfold past states
        rw [← List.filterMap_append, hsplit]
      rw [hpast, List.take_append_of_le_length (by omega), List.take_of_length_le (by omega)]
      refine states_congr fun id hid => ?_
      have hid' : id ≠ h.undoStack.getLast hne := by
        rintro rfl
        exact (List.nodup_cons.1 hheld.nodup).1 (List.mem_append_left _ hid)
      exact (at?_release h _ id).trans (if_neg hid')
  · -- nothing is given up, and the bound takes all states
    rename_i hge
    refine ⟨hh, by omega, rfl, ?_⟩
    rw [List.take_of_length_le]
    unfold past
    rw [hh.length_states fun id hid => List.mem_append_left _ hid]
    omega

/-- The history with one more state in front of the older ones. -/
def addPast (h : History) (s : Snapshot) : History :=
  { (h.alloc s).1 with undoStack := (h.alloc s).2 :: (h.alloc s).1.undoStack }

/-- The history with one more state in front of those that were taken back. -/
def addFuture (h : History) (s : Snapshot) : History :=
  { (h.alloc s).1 with redoStack := (h.alloc s).2 :: (h.alloc s).1.redoStack }

section Add

variable {h : History} (hh : h.Holds (h.undoStack ++ h.redoStack)) (s : Snapshot)

include hh

/-- A snapshot is never put in a slot that a stack names. -/
theorem at?_alloc_of_mem {id : SlotId} (hid : id ∈ h.undoStack ++ h.redoStack) :
    (h.alloc s).1.at? id = h.at? id := by
  rw [hh.at?_alloc s, if_neg]
  rintro rfl
  exact hh.alloc_not_mem s hid

/-- The slot that is taken holds the snapshot. -/
theorem at?_alloc_self : (h.alloc s).1.at? (h.alloc s).2 = some s := by
  rw [hh.at?_alloc s, if_pos rfl]

/-- A state that is added to the past is held. -/
theorem addPast_holds :
    (h.addPast s).Holds ((h.addPast s).undoStack ++ (h.addPast s).redoStack) := by
  simpa [addPast] using (hh.alloc s).withStacks ((h.alloc s).2 :: h.undoStack) h.redoStack

/-- It is the newest of the past. -/
theorem past_addPast : (h.addPast s).past = s :: h.past := by
  simp only [past, addPast, alloc_undoStack]
  refine (states_cons (at?_alloc_self hh s) h.undoStack).trans (congrArg (s :: ·) ?_)
  exact states_congr fun id hid => at?_alloc_of_mem hh s (List.mem_append_left _ hid)

/-- The future is as before. -/
theorem future_addPast : (h.addPast s).future = h.future := by
  simp only [future, addPast, alloc_redoStack]
  exact states_congr fun id hid => at?_alloc_of_mem hh s (List.mem_append_right _ hid)

/-- A state that is added to the future is held. -/
theorem addFuture_holds :
    (h.addFuture s).Holds ((h.addFuture s).undoStack ++ (h.addFuture s).redoStack) := by
  have hstored := (hh.alloc s).perm List.perm_middle.symm
  simpa [addFuture] using hstored.withStacks h.undoStack ((h.alloc s).2 :: h.redoStack)

/-- The past is as before. -/
theorem past_addFuture : (h.addFuture s).past = h.past := by
  simp only [past, addFuture, alloc_undoStack]
  exact states_congr fun id hid => at?_alloc_of_mem hh s (List.mem_append_left _ hid)

/-- It is the latest of the future. -/
theorem future_addFuture : (h.addFuture s).future = s :: h.future := by
  simp only [future, addFuture, alloc_redoStack]
  refine (states_cons (at?_alloc_self hh s) h.redoStack).trans (congrArg (s :: ·) ?_)
  exact states_congr fun id hid => at?_alloc_of_mem hh s (List.mem_append_right _ hid)

end Add

section Push

variable {h : History} (hh : h.Sound) (s : Snapshot)

include hh

/-- The text of the newest of the older states decides whether a state is stored again. -/
theorem topHas_eq (b : Buffer) : h.topHas b = (h.past.head?.map (·.buffer) == some b) := by
  unfold topHas past
  cases hu : h.undoStack with
  | nil => rfl
  | cons id rest =>
    obtain ⟨older, holder⟩ :=
      Option.isSome_iff_exists.1 ((hh.holds.isSome_iff id).2 (by simp [hu]))
    simp [states_cons holder, holder]

omit hh in
/-- A change either counts as stored already, or is added, trimmed to the bound, and ends the future. -/
theorem push_eq (h : History) (s : Snapshot) :
    h.push s =
      if h.topHas s.buffer then { h with skipped := h.skipped + 1 }.clearRedo
      else (h.addPast s).trim.clearRedo := rfl

/-- **What a change does.** The state before it is put in front of the past, unless its text is that of
the newest state; the past is cut to the bound, and there is no future. -/
theorem push_spec : (h.push s).Sound ∧ (h.push s).future = [] ∧
    (h.push s).past =
      if h.past.head?.map (·.buffer) = some s.buffer then h.past
      else (s :: h.past).take h.bound := by
  have hlen := hh.length_le
  rw [push_eq, topHas_eq hh]
  by_cases htop : h.past.head?.map (·.buffer) = some s.buffer
  · -- the text is that of the newest state: it is not stored again
    rw [if_pos (by simpa using htop), if_pos htop]
    have hskip : { h with skipped := h.skipped + 1 }.Holds (h.undoStack ++ h.redoStack) :=
      ⟨hh.holds.nodup, hh.holds.isSome_iff, hh.holds.free_nodup, hh.holds.mem_free⟩
    refine ⟨clearRedo_sound hskip ?_ hh.bound_pos, rfl, past_clearRedo hskip⟩
    simp only
    omega
  · rw [if_neg (by simpa using htop), if_neg htop]
    have hlen' : (h.addPast s).undoStack.length ≤ (h.addPast s).bound + 1 := by
      simp only [addPast, alloc_undoStack, alloc_bound, List.length_cons]
      omega
    have hbound' : (h.addPast s).bound = h.bound := by simp [addPast]
    obtain ⟨hheld, hle, hbound, hpast⟩ := trim_spec (addPast_holds hh.holds s) hlen'
    refine ⟨clearRedo_sound hheld hle ?_, rfl, ?_⟩
    · rw [hbound, hbound']
      exact hh.bound_pos
    · rw [past_clearRedo hheld, ← hbound', ← past_addPast hh.holds s]
      exact hpast

/-- A change leaves a state with the text before it in front of the past. -/
theorem head_past_push : ∃ older, (h.push s).past.head? = some older ∧ older.buffer = s.buffer := by
  rw [(push_spec hh s).2.2]
  by_cases htop : h.past.head?.map (·.buffer) = some s.buffer
  · rw [if_pos htop]
    exact Option.map_eq_some_iff.1 htop
  · obtain ⟨n, hn⟩ := Nat.exists_eq_add_one.2 hh.bound_pos
    rw [if_neg htop, hn]
    exact ⟨s, rfl, rfl⟩

/-- Every older state is counted. -/
theorem undoDepth_eq : h.undoDepth = h.past.length :=
  (hh.holds.length_states fun _ hid => List.mem_append_left _ hid).symm

/-- Every state that was taken back is counted. -/
theorem redoDepth_eq : h.redoDepth = h.future.length :=
  (hh.holds.length_states fun _ hid => List.mem_append_right _ hid).symm

/-- A change adds one state at most. -/
theorem undoDepth_push_le : (h.push s).undoDepth ≤ h.undoDepth + 1 := by
  obtain ⟨hsound, -, hpast⟩ := push_spec hh s
  rw [undoDepth_eq hsound, undoDepth_eq hh, hpast]
  split
  · omega
  · rw [List.length_take, List.length_cons]
    omega

end Push

/-! ## Going back and forth -/

/-- The history without the state in a slot. The stacks name the other slots. -/
def without (h : History) (id : SlotId) (undoStack redoStack : List SlotId) : History :=
  { h with undoStack, redoStack }.release id

section Without

variable {h : History} {id : SlotId} {undoStack redoStack : List SlotId}
  (hh : h.Holds (id :: (undoStack ++ redoStack)))

include hh

/-- Once the slot of a state is given up, the two stacks name what is held. -/
theorem without_holds : (h.without id undoStack redoStack).Holds
    ((h.without id undoStack redoStack).undoStack ++
      (h.without id undoStack redoStack).redoStack) := by
  simpa [without] using (hh.withStacks undoStack redoStack).release

/-- The states that stay are those from before. -/
theorem at?_without {j : SlotId} (hj : j ∈ undoStack ++ redoStack) :
    (h.without id undoStack redoStack).at? j = h.at? j := by
  refine (at?_release _ id j).trans (if_neg ?_)
  rintro rfl
  exact (List.nodup_cons.1 hh.nodup).1 hj

/-- The past is what its stack names. -/
theorem past_without : (h.without id undoStack redoStack).past = h.states undoStack := by
  simp only [past, without, release_undoStack]
  exact states_congr fun j hj => at?_without hh (List.mem_append_left _ hj)

/-- The future is what its stack names. -/
theorem future_without : (h.without id undoStack redoStack).future = h.states redoStack := by
  simp only [future, without, release_redoStack]
  exact states_congr fun j hj => at?_without hh (List.mem_append_right _ hj)

end Without

section Travel

variable {h : History} (hh : h.Sound) (current : Snapshot)

include hh

/-- Taking back a change gives the first state of the past. -/
theorem undo_of_past {older : Snapshot} {past : List Snapshot} (hpast : h.past = older :: past) :
    ∃ h', h.undo current = some (h', older) ∧ h'.Sound ∧ h'.past = past ∧
      h'.future = current :: h.future := by
  cases hu : h.undoStack with
  | nil => simp [History.past, states, hu] at hpast
  | cons id rest =>
    have hheld := hh.holds
    have hlen := hh.length_le
    rw [hu, List.cons_append] at hheld
    rw [hu, List.length_cons] at hlen
    obtain ⟨s, hs⟩ := Option.isSome_iff_exists.1 ((hheld.isSome_iff id).2 (List.mem_cons_self ..))
    rw [History.past, hu, states_cons hs, List.cons.injEq] at hpast
    obtain ⟨rfl, rfl⟩ := hpast
    -- its slot is given up first, so the current state may well go to the same one
    have hrest := without_holds hheld
    refine ⟨(h.without id rest h.redoStack).addFuture current, ?_,
      ⟨addFuture_holds hrest current, ?_, ?_⟩, ?_, ?_⟩
    · simp only [undo, hu, hs]
      rfl
    · simp only [addFuture, without, alloc_undoStack, alloc_redoStack, release_undoStack,
        release_redoStack, alloc_bound, release_bound, List.length_cons]
      omega
    · simpa [addFuture, without] using hh.bound_pos
    · rw [past_addFuture hrest, past_without hheld]
    · rw [future_addFuture hrest, future_without hheld, History.future]

/-- Restoring a change gives the first state of the future. -/
theorem redo_of_future {newer : Snapshot} {future : List Snapshot}
    (hfuture : h.future = newer :: future) :
    ∃ h', h.redo current = some (h', newer) ∧ h'.Sound ∧ h'.past = current :: h.past ∧
      h'.future = future := by
  cases hr : h.redoStack with
  | nil => simp [History.future, states, hr] at hfuture
  | cons id rest =>
    have hheld := hh.holds
    have hlen := hh.length_le
    rw [hr] at hheld
    -- the slot of the state comes first, so that it can be given up
    replace hheld := hheld.perm List.perm_middle
    rw [hr, List.length_cons] at hlen
    obtain ⟨s, hs⟩ := Option.isSome_iff_exists.1 ((hheld.isSome_iff id).2 (List.mem_cons_self ..))
    rw [History.future, hr, states_cons hs, List.cons.injEq] at hfuture
    obtain ⟨rfl, rfl⟩ := hfuture
    have hrest := without_holds hheld
    refine ⟨(h.without id h.undoStack rest).addPast current, ?_,
      ⟨addPast_holds hrest current, ?_, ?_⟩, ?_, ?_⟩
    · simp only [redo, hr, hs]
      rfl
    · simp only [addPast, without, alloc_undoStack, alloc_redoStack, release_undoStack,
        release_redoStack, alloc_bound, release_bound, List.length_cons]
      omega
    · simpa [addPast, without] using hh.bound_pos
    · rw [past_addPast hrest, past_without hheld, History.past]
    · rw [future_addPast hrest, future_without hheld]

/-- Without a past there is nothing to take back. -/
theorem undo_of_past_nil (hpast : h.past = []) : h.undo current = none := by
  have hdepth := undoDepth_eq hh
  rw [hpast] at hdepth
  rw [History.undo, List.length_eq_zero_iff.1 hdepth]

/-- Without a future there is nothing to restore. -/
theorem redo_of_future_nil (hfuture : h.future = []) : h.redo current = none := by
  have hdepth := redoDepth_eq hh
  rw [hfuture] at hdepth
  rw [History.redo, List.length_eq_zero_iff.1 hdepth]

/-- A step back keeps the history sound. -/
theorem Sound.undo {older : Snapshot} {h' : History} (hu : h.undo current = some (h', older)) :
    h'.Sound := by
  cases hpast : h.past with
  | nil =>
    rw [undo_of_past_nil hh current hpast] at hu
    cases hu
  | cons s past =>
    obtain ⟨_, hs, hsound, -⟩ := undo_of_past hh current hpast
    rw [hu] at hs
    cases hs
    exact hsound

/-- A step forward keeps the history sound. -/
theorem Sound.redo {newer : Snapshot} {h' : History} (hr : h.redo current = some (h', newer)) :
    h'.Sound := by
  cases hfuture : h.future with
  | nil =>
    rw [redo_of_future_nil hh current hfuture] at hr
    cases hr
  | cons s future =>
    obtain ⟨_, hs, hsound, -⟩ := redo_of_future hh current hfuture
    rw [hr] at hs
    cases hs
    exact hsound

end Travel

end ModalEditor.History
