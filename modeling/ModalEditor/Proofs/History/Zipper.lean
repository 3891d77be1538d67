import ModalEditor.Proofs.History.Arena

/-!
# The history is a bounded zipper

A zipper holds the past states, the current one and the future ones as plain lists. The history keeps
the same states in slots that are given up and used again, and the stacks only name slots. No client
can tell the two apart: whatever calls are made, and however the current state changes in between,
both give the same states and refuse the same calls (`run_eq`).
-/

namespace ModalEditor

/-- A state with those before it and those behind it. Both lists begin next to the current state. -/
structure Zipper where
  past : List Snapshot
  current : Snapshot
  future : List Snapshot

namespace Zipper

/-- The current state goes to the past, unless the latest one there has the same text. The oldest one
beyond the bound is dropped, and so is the future. -/
def push (bound : Nat) (z : Zipper) : Zipper :=
  if z.past.head?.map (·.buffer) = some z.current.buffer then { z with future := [] }
  else { z with past := (z.current :: z.past).take bound, future := [] }

/-- Goes back by one state, if there is one. -/
def undo (z : Zipper) : Option Zipper :=
  match z.past with
  | [] => none
  | older :: past => some ⟨past, older, z.current :: z.future⟩

/-- Goes forward by one state, if there is one. -/
def redo (z : Zipper) : Option Zipper :=
  match z.future with
  | [] => none
  | newer :: future => some ⟨z.current :: z.past, newer, future⟩

end Zipper

namespace History

/-- What a client does with a history and the current state. -/
inductive Call where
  /-- The current state changes to another one. -/
  | change (s : Snapshot)
  /-- The current state is recorded. -/
  | push
  | undo
  | redo

/-- A call on a history. Says whether it was carried out; otherwise nothing changes. -/
def Call.apply (c : Call) (h : History) (current : Snapshot) : (History × Snapshot) × Bool :=
  match c with
  | .change s => ((h, s), true)
  | .push => ((h.push current, current), true)
  | .undo =>
    match h.undo current with
    | some found => (found, true)
    | none => ((h, current), false)
  | .redo =>
    match h.redo current with
    | some found => (found, true)
    | none => ((h, current), false)

/-- The same call on a zipper. -/
def Call.applyZipper (bound : Nat) (c : Call) (z : Zipper) : Zipper × Bool :=
  match c with
  | .change s => ({ z with current := s }, true)
  | .push => (z.push bound, true)
  | .undo =>
    match z.undo with
    | some z' => (z', true)
    | none => (z, false)
  | .redo =>
    match z.redo with
    | some z' => (z', true)
    | none => (z, false)

/-- One call after the other, with what each of them said. -/
def runCalls : List Call → History → Snapshot → (History × Snapshot) × List Bool
  | [], h, s => ((h, s), [])
  | c :: calls, h, s =>
    let done := c.apply h s
    let rest := runCalls calls done.1.1 done.1.2
    (rest.1, done.2 :: rest.2)

/-- The same calls on a zipper. -/
def runZipper (bound : Nat) : List Call → Zipper → Zipper × List Bool
  | [], z => (z, [])
  | c :: calls, z =>
    let done := c.applyZipper bound z
    let rest := runZipper bound calls done.1
    (rest.1, done.2 :: rest.2)

/-- The zipper that a history and the current state stand for. -/
def zipper (h : History) (current : Snapshot) : Zipper :=
  ⟨h.past, current, h.future⟩

/-! ## The bound never changes -/

/-- Dropping what could be redone keeps the bound. -/
theorem clearRedo_bound (h : History) : h.clearRedo.bound = h.bound :=
  foldl_release_bound h.redoStack.reverse h

/-- Trimming keeps the bound. -/
theorem trim_bound (h : History) : h.trim.bound = h.bound := by
  unfold trim
  split
  · split
    · exact release_bound _
    · rfl
  · rfl

/-- A snapshot taken keeps the bound. -/
theorem push_bound (h : History) (s : Snapshot) : (h.push s).bound = h.bound := by
  rw [push_eq]
  split
  · exact clearRedo_bound _
  · rw [clearRedo_bound, trim_bound, addPast]
    exact alloc_bound s

/-- An undo keeps the bound. -/
theorem undo_bound {h h' : History} {s older : Snapshot} (hu : h.undo s = some (h', older)) :
    h'.bound = h.bound := by
  unfold undo at hu
  split at hu
  · cases hu
  · obtain ⟨s', -, heq⟩ := Option.map_eq_some_iff.1 hu
    rw [← (Prod.mk.inj heq).1]
    exact (alloc_bound s).trans (release_bound _)

/-- A redo keeps the bound. -/
theorem redo_bound {h h' : History} {s newer : Snapshot} (hr : h.redo s = some (h', newer)) :
    h'.bound = h.bound := by
  unfold redo at hr
  split at hr
  · cases hr
  · obtain ⟨s', -, heq⟩ := Option.map_eq_some_iff.1 hr
    rw [← (Prod.mk.inj heq).1]
    exact (alloc_bound s).trans (release_bound _)

/-! ## One call -/

section Step

variable {h : History} (hh : h.Sound) (current : Snapshot)
include hh

/-- A snapshot taken is one taken by the zipper. -/
theorem zipper_push : (h.push current).zipper current = (h.zipper current).push h.bound := by
  obtain ⟨-, hfuture, hpast⟩ := push_spec hh current
  by_cases hsame : h.past.head?.map (·.buffer) = some current.buffer
  · have hpush : (h.zipper current).push h.bound = ⟨h.past, current, []⟩ := if_pos hsame
    rw [hpush, zipper, hfuture, hpast, if_pos hsame]
  · have hpush : (h.zipper current).push h.bound =
        ⟨(current :: h.past).take h.bound, current, []⟩ := if_neg hsame
    rw [hpush, zipper, hfuture, hpast, if_neg hsame]

/-- Both undo, to the same states, or neither does. -/
theorem zipper_undo :
    ((h.undo current).map fun found => found.1.zipper found.2) = (h.zipper current).undo := by
  cases hpast : h.past with
  | nil =>
    rw [undo_of_past_nil hh current hpast]
    simp only [zipper, Zipper.undo, hpast, Option.map_none]
  | cons older past =>
    obtain ⟨h', hundo, -, hpast', hfuture'⟩ := undo_of_past hh current hpast
    simp only [hundo, zipper, Zipper.undo, hpast, Option.map_some, hpast', hfuture']

/-- Both redo, to the same states, or neither does. -/
theorem zipper_redo :
    ((h.redo current).map fun found => found.1.zipper found.2) = (h.zipper current).redo := by
  cases hfuture : h.future with
  | nil =>
    rw [redo_of_future_nil hh current hfuture]
    simp only [zipper, Zipper.redo, hfuture, Option.map_none]
  | cons newer future =>
    obtain ⟨h', hredo, -, hpast', hfuture'⟩ := redo_of_future hh current hfuture
    simp only [hredo, zipper, Zipper.redo, hfuture, Option.map_some, hpast', hfuture']

/-- A call does the same to both, and keeps the history sound. -/
theorem apply_eq (c : Call) :
    (c.apply h current).1.1.Sound ∧ (c.apply h current).1.1.bound = h.bound ∧
      c.applyZipper h.bound (h.zipper current) =
        ((c.apply h current).1.1.zipper (c.apply h current).1.2, (c.apply h current).2) := by
  cases c with
  | change s => exact ⟨hh, rfl, rfl⟩
  | push =>
    refine ⟨(push_spec hh current).1, push_bound h current, ?_⟩
    rw [Call.applyZipper, ← zipper_push hh]
    rfl
  | undo =>
    have hboth := zipper_undo hh current
    simp only [Call.apply, Call.applyZipper, ← hboth]
    cases hu : h.undo current with
    | none => exact ⟨hh, rfl, rfl⟩
    | some found => exact ⟨hh.undo current hu, undo_bound hu, rfl⟩
  | redo =>
    have hboth := zipper_redo hh current
    simp only [Call.apply, Call.applyZipper, ← hboth]
    cases hr : h.redo current with
    | none => exact ⟨hh, rfl, rfl⟩
    | some found => exact ⟨hh.redo current hr, redo_bound hr, rfl⟩

end Step

/-! ## A run of calls -/

/-- Any calls are the same calls on the zipper, by induction on them. -/
theorem run_eq {h : History} (hh : h.Sound) (current : Snapshot) (calls : List Call) :
    (runCalls calls h current).1.1.Sound ∧
      runZipper h.bound calls (h.zipper current) =
        ((runCalls calls h current).1.1.zipper (runCalls calls h current).1.2,
          (runCalls calls h current).2) := by
  induction calls generalizing h current with
  | nil => exact ⟨hh, rfl⟩
  | cons c calls ih =>
    obtain ⟨hsound, hbound, heq⟩ := apply_eq hh current c
    obtain ⟨hrest, hzipper⟩ := ih hsound (c.apply h current).1.2
    refine ⟨hrest, ?_⟩
    rw [runZipper, heq, ← hbound, hzipper]
    rfl

end History

end ModalEditor
