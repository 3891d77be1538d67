import ModalEditor.Proofs.History.Zipper

/-!
# The size of the arena

The slots of the arena are those that hold snapshots and those on the free list
(`Holds.length_add_free`), so a snapshot that is stored makes the arena grow only if as many slots as
there are hold snapshots already (`Holds.capacity_alloc`). A change stores a state before the oldest
one is given up, and that is why there may be one slot more than states are kept. A step through the
history gives up a slot first, and the arena stays as it is. Together with what is known of the stacks
this bounds the arena, whatever calls are made (`runCalls_arena`).
-/

namespace ModalEditor.History

/-! ## Counting slots -/

section Holds

variable {h : History} {ids : List SlotId} (hh : h.Holds ids)
include hh

/-- A slot that holds a snapshot is in the arena. -/
theorem Holds.lt_capacity {id : SlotId} (hid : id ∈ ids) : id < h.capacity := by
  obtain ⟨s, hs⟩ := Option.isSome_iff_exists.1 ((hh.isSome_iff id).2 hid)
  exact lt_of_at? hs

/-- Every slot is either named or free. -/
theorem Holds.perm_range : (ids ++ h.free).Perm (List.range h.capacity) := by
  have hdisjoint : ∀ id ∈ ids, ∀ free ∈ h.free, id ≠ free := by
    rintro id hid _ hfree rfl
    have hsome := (hh.isSome_iff id).2 hid
    rw [((hh.mem_free id).1 hfree).2] at hsome
    cases hsome
  refine (List.perm_ext_iff_of_nodup ?_ List.nodup_range).2 fun id => ?_
  · exact List.nodup_append.2 ⟨hh.nodup, hh.free_nodup, hdisjoint⟩
  rw [List.mem_append, List.mem_range]
  constructor
  · rintro (hid | hfree)
    · exact hh.lt_capacity hid
    · exact ((hh.mem_free id).1 hfree).1
  · intro hlt
    cases hs : h.at? id with
    | none => exact .inr ((hh.mem_free id).2 ⟨hlt, hs⟩)
    | some s => exact .inl ((hh.isSome_iff id).1 (by rw [hs]; rfl))

/-- Slots that hold snapshots and free slots are all the slots. -/
theorem Holds.length_add_free : ids.length + h.free.length = h.capacity := by
  rw [← List.length_append, hh.perm_range.length_eq, List.length_range]

/-- The slots that hold snapshots are as many as are named. -/
theorem Holds.liveCount_eq : h.liveCount = ids.length := by
  have hslots : h.slots = (List.range h.capacity).map h.at? := by
    refine List.ext_getElem (by simp [capacity]) fun id hid _ => ?_
    rw [List.getElem_map, List.getElem_range, at?, List.getElem?_eq_getElem hid]
    rfl
  have hnamed : ids.countP (fun id => (h.at? id).isSome) = ids.length :=
    List.countP_eq_length.2 fun id hid => (hh.isSome_iff id).2 hid
  have hempty : h.free.countP (fun id => (h.at? id).isSome) = 0 :=
    List.countP_eq_zero.2 fun id hid => by rw [((hh.mem_free id).1 hid).2]; exact Bool.false_ne_true
  calc h.liveCount
      = (List.range h.capacity).countP fun id => (h.at? id).isSome := by
        rw [liveCount, hslots, List.countP_map]
        rfl
    _ = (ids ++ h.free).countP fun id => (h.at? id).isSome := (hh.perm_range.countP_eq _).symm
    _ = ids.length := by rw [List.countP_append, hnamed, hempty, Nat.add_zero]

/-- The arena grows only if there is no free slot. -/
theorem Holds.capacity_alloc (s : Snapshot) :
    (h.alloc s).1.capacity = max h.capacity (ids.length + 1) := by
  have hcount := hh.length_add_free
  unfold History.alloc
  split
  · rename_i id free hfree
    rw [hfree, List.length_cons] at hcount
    rw [Nat.max_eq_left (by omega)]
    exact List.length_set
  · rename_i hfree
    rw [hfree, List.length_nil, Nat.add_zero] at hcount
    rw [hcount, Nat.max_eq_right (Nat.le_succ _)]
    exact List.length_append

end Holds

/-! ## Giving up slots keeps them -/

/-- A slot that is given up stays in the arena. -/
@[simp] theorem capacity_release (h : History) (id : SlotId) :
    (h.release id).capacity = h.capacity := by
  unfold release
  split
  · exact List.length_set
  · rfl

/-- So do several slots. -/
@[simp] theorem capacity_foldl_release (ids : List SlotId) (h : History) :
    (ids.foldl release h).capacity = h.capacity := by
  induction ids generalizing h with
  | nil => rfl
  | cons id ids ih => rw [List.foldl_cons, ih, capacity_release]

/-- Giving up the future leaves the size of the arena. -/
theorem capacity_clearRedo (h : History) : h.clearRedo.capacity = h.capacity :=
  capacity_foldl_release h.redoStack.reverse h

/-- So does giving up the oldest state. -/
theorem capacity_trim (h : History) : h.trim.capacity = h.capacity := by
  unfold trim
  split
  · split
    · exact capacity_release h _
    · rfl
  · rfl

/-! ## One call -/

/-- The history is sound, and the arena has at most one slot more than states are kept. -/
structure Compact (h : History) : Prop where
  sound : h.Sound
  capacity_le : h.capacity ≤ h.bound + 1

section Step

variable {h : History} (hh : h.Compact) (s : Snapshot)
include hh

/-- The state is stored before the oldest one is given up. -/
theorem Compact.push : (h.push s).Compact := by
  refine ⟨(push_spec hh.sound s).1, ?_⟩
  have hle := hh.capacity_le
  rw [push_bound, push_eq]
  split
  · rwa [capacity_clearRedo]
  · have hgrown := hh.sound.holds.capacity_alloc s
    have hlen := hh.sound.length_le
    rw [List.length_append] at hgrown
    rw [capacity_clearRedo, capacity_trim]
    show (h.alloc s).1.capacity ≤ h.bound + 1
    omega

/-- A slot is given up before the current state is stored, so there is one that is free. -/
theorem capacity_alloc_without {id : SlotId} {undoStack redoStack : List SlotId}
    (hids : (h.undoStack ++ h.redoStack).Perm (id :: (undoStack ++ redoStack))) :
    ((h.without id undoStack redoStack).alloc s).1.capacity = h.capacity := by
  have hheld := hh.sound.holds.perm hids
  have hcount := hheld.length_add_free
  have hcapacity : (h.without id undoStack redoStack).capacity = h.capacity :=
    capacity_release _ id
  have hrest : (h.without id undoStack redoStack).Holds (undoStack ++ redoStack) :=
    (hheld.withStacks undoStack redoStack).release
  rw [List.length_cons] at hcount
  rw [hrest.capacity_alloc, hcapacity, Nat.max_eq_left (by omega)]

/-- A step back takes the slot that it gave up, so the arena does not grow. -/
theorem Compact.undo {h' : History} {older : Snapshot} (hu : h.undo s = some (h', older)) :
    h'.Compact := by
  refine ⟨hh.sound.undo s hu, ?_⟩
  rw [undo_bound hu]
  unfold History.undo at hu
  split at hu
  · cases hu
  · rename_i id undoStack hstack
    obtain ⟨_, -, heq⟩ := Option.map_eq_some_iff.1 hu
    have hperm : (h.undoStack ++ h.redoStack).Perm (id :: (undoStack ++ h.redoStack)) := by
      rw [hstack, List.cons_append]
    have hsame := capacity_alloc_without hh s hperm
    rw [← (Prod.mk.inj heq).1]
    exact Nat.le_trans (Nat.le_of_eq hsame) hh.capacity_le

/-- Neither does it with a step forward. -/
theorem Compact.redo {h' : History} {newer : Snapshot} (hr : h.redo s = some (h', newer)) :
    h'.Compact := by
  refine ⟨hh.sound.redo s hr, ?_⟩
  rw [redo_bound hr]
  unfold History.redo at hr
  split at hr
  · cases hr
  · rename_i id redoStack hstack
    obtain ⟨_, -, heq⟩ := Option.map_eq_some_iff.1 hr
    have hperm : (h.undoStack ++ h.redoStack).Perm (id :: (h.undoStack ++ redoStack)) := by
      rw [hstack]
      exact List.perm_middle
    have hsame := capacity_alloc_without hh s hperm
    rw [← (Prod.mk.inj heq).1]
    exact Nat.le_trans (Nat.le_of_eq hsame) hh.capacity_le

/-- No call makes the arena larger than one slot beyond the bound. -/
theorem Compact.apply (c : Call) : (c.apply h s).1.1.Compact := by
  cases c with
  | change s' => exact hh
  | push => exact hh.push s
  | undo =>
    rw [Call.apply]
    split
    · rename_i found hfound
      exact hh.undo s hfound
    · exact hh
  | redo =>
    rw [Call.apply]
    split
    · rename_i found hfound
      exact hh.redo s hfound
    · exact hh

end Step

/-! ## A run of calls -/

/-- A run of calls keeps that, by induction on the calls. -/
theorem Compact.runCalls {h : History} (hh : h.Compact) (calls : List Call) (s : Snapshot) :
    (runCalls calls h s).1.1.Compact ∧ (History.runCalls calls h s).1.1.bound = h.bound := by
  induction calls generalizing h s with
  | nil => exact ⟨hh, rfl⟩
  | cons c calls ih =>
    obtain ⟨hcompact, hbound⟩ := ih (hh.apply s c) (c.apply h s).1.2
    exact ⟨hcompact, hbound.trans (apply_eq hh.sound s c).2.1⟩

/-- A new history has no slots. -/
theorem compact_withBound (bound : Nat) : (withBound bound).Compact :=
  ⟨sound_withBound bound, Nat.zero_le _⟩

/-- **The arena of the undo history.** After any pushes, undos and redos, with any changes of the
current state in between, of a history that keeps `bound` states: the stacks name occupied slots, and
no slot twice; the free list names the empty slots, and no slot twice; there are at most `bound` states
on the two stacks together, the slots that hold a snapshot are as many, and the arena has at most one
slot more than the bound. -/
theorem runCalls_arena {bound : Nat} (hbound : 1 ≤ bound) (calls : List Call) (s : Snapshot) :
    let h := (runCalls calls (withBound bound) s).1.1
    (∀ id ∈ h.undoStack ++ h.redoStack, ∃ older, h.slots[id]? = some (some older)) ∧
      (h.undoStack ++ h.redoStack).Nodup ∧
      (∀ id, id ∈ h.free ↔ h.slots[id]? = some none) ∧ h.free.Nodup ∧
      h.undoDepth + h.redoDepth ≤ bound ∧ h.liveCount = h.undoDepth + h.redoDepth ∧
      h.capacity ≤ bound + 1 := by
  intro h
  obtain ⟨hcompact, hkept⟩ := (compact_withBound bound).runCalls calls s
  -- the bound is never changed, so it is the one that the history began with
  have hkept' : h.bound = bound := hkept.trans (Nat.max_eq_left hbound)
  have hholds := hcompact.sound.holds
  have hdepth := hcompact.sound.length_le
  have hcapacity := hcompact.capacity_le
  have hlive := hholds.liveCount_eq
  change h.capacity ≤ h.bound + 1 at hcapacity
  refine ⟨fun id hid => ?_, hholds.nodup, fun id => ?_, hholds.free_nodup, hkept' ▸ hdepth, ?_,
    hkept' ▸ hcapacity⟩
  · obtain ⟨older, holder⟩ := Option.isSome_iff_exists.1 ((hholds.isSome_iff id).2 hid)
    exact ⟨older, at?_eq_some.1 holder⟩
  · rw [hholds.mem_free id, at?]
    cases hslot : h.slots[id]? with
    | none => simpa using hslot
    | some slot =>
      have hlt := (List.getElem?_eq_some_iff.1 hslot).1
      simpa using fun _ => hlt
  · rw [hlive, List.length_append]
    rfl

/-- Four states are recorded where two are kept, then both are taken back and one is restored. The
arena has as many slots as it may have, and one of them is free. -/
theorem runCalls_arena_full :
    let states : List Snapshot := ["a", "b", "c", "d"].map fun t => ⟨.ofText t.toList, .origin⟩
    let calls : List Call := states.flatMap (fun s => [.change s, .push]) ++ [.undo, .undo, .redo]
    let h := (runCalls calls (withBound 2) ⟨.ofText [], .origin⟩).1.1
    1 ≤ 2 ∧ h.undoStack = [2] ∧ h.redoStack = [0] ∧ h.free = [1] ∧ h.capacity = 3 ∧
      h.liveCount = h.undoDepth + h.redoDepth ∧ h.capacity ≤ 2 + 1 := by
  intro states calls h
  have hbound : 1 ≤ 2 := by decide
  obtain ⟨-, -, -, -, -, hlive, hcapacity⟩ :=
    runCalls_arena hbound calls ⟨.ofText [], .origin⟩
  exact ⟨hbound, by decide +kernel, by decide +kernel, by decide +kernel, by decide +kernel, hlive,
    hcapacity⟩

end ModalEditor.History
