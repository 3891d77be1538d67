import Mathlib.Logic.Function.Iterate
import ModalEditor.Proofs.Document.Travel
import ModalEditor.Proofs.History.Zipper

/-!
# The timeline of a document

The texts of the past, the text of the document and the texts to come stand in one line. Going back
and forth moves along that line and changes nothing on it (`Along`), so the text is known from how
many states lie behind it. Several undos at once lead to the same state as single ones, and as many
redos lead back (`runCalls_timeline`, together with what the history is as a zipper).
-/

namespace ModalEditor.Document

/-- The texts before that of the document, that text, and those to come. -/
def timeline (d : Document) : List Buffer :=
  (d.history.past.map (·.buffer)).reverse ++ d.buffer :: d.history.future.map (·.buffer)

/-- How many texts stand before that of the document. -/
def position (d : Document) : Nat :=
  d.history.past.length

/-- The buffer stands in the timeline at the position. -/
theorem timeline_position (d : Document) : d.timeline[d.position]? = some d.buffer := by
  simp [timeline, position]

/-- The timeline's length, by what lies behind and ahead. -/
theorem length_timeline (d : Document) :
    d.timeline.length = d.position + 1 + d.history.future.length := by
  simp [timeline, position]
  omega

/-- The document has gone along its timeline. -/
structure Along (d d' : Document) : Prop where
  sound : d'.history.Sound
  timeline : d'.timeline = d.timeline

namespace Along

/-- Two walks along a timeline are one. -/
theorem trans {d d' d'' : Document} (h : Along d d') (h' : Along d' d'') : Along d d'' :=
  ⟨h'.sound, h'.timeline.trans h.timeline⟩

/-- The text of the document is known from the position. -/
theorem buffer_eq {d d' : Document} (h : Along d d') (hpos : d'.position = d.position) :
    d'.buffer = d.buffer := by
  have hfound := timeline_position d'
  rw [h.timeline, hpos, timeline_position d] at hfound
  exact (Option.some.inj hfound).symm

/-- So is how many texts are to come. -/
theorem future_length_eq {d d' : Document} (h : Along d d') (hpos : d'.position = d.position) :
    d'.history.future.length = d.history.future.length := by
  have hlength := congrArg List.length h.timeline
  rw [length_timeline, length_timeline, hpos] at hlength
  omega

end Along

/-- The same text, cursor, and number of states on both sides. -/
structure SameState (d d' : Document) : Prop where
  buffer : d.buffer = d'.buffer
  cursor : d.cursor = d'.cursor
  undoDepth : d.history.undoDepth = d'.history.undoDepth
  redoDepth : d.history.redoDepth = d'.history.redoDepth

/-- On one timeline, the position and the cursor tell the state. -/
theorem SameState.of_along {d₀ d d' : Document} (h : Along d₀ d) (h' : Along d₀ d')
    (hpos : d.position = d'.position) (hcursor : d.cursor = d'.cursor) : SameState d d' := by
  have hboth : Along d' d := ⟨h.sound, h.timeline.trans h'.timeline.symm⟩
  refine ⟨hboth.buffer_eq hpos, hcursor, ?_, ?_⟩
  · rw [History.undoDepth_eq h.sound, History.undoDepth_eq h'.sound]
    exact hpos
  · rw [History.redoDepth_eq h.sound, History.redoDepth_eq h'.sound]
    exact hboth.future_length_eq hpos

/-! ## Walking -/

section Walk

variable {d : Document} (hd : d.history.Sound)
include hd

/-- One step back. -/
theorem restore_undo {older : Snapshot} {past : List Snapshot}
    (hpast : d.history.past = older :: past) :
    ∃ found, d.history.undo d.snapshot = some found ∧ Along d (d.restore found) ∧
      (d.restore found).history.past = past ∧ (d.restore found).snapshot = older := by
  obtain ⟨h', hundo, hsound, hpast', hfuture'⟩ := History.undo_of_past hd d.snapshot hpast
  refine ⟨(h', older), hundo, ⟨hsound, ?_⟩, hpast', rfl⟩
  simp only [timeline, restore, hpast', hfuture', hpast, List.map_cons, List.reverse_cons,
    List.append_assoc, List.singleton_append, snapshot]

/-- One step forth. -/
theorem restore_redo {newer : Snapshot} {future : List Snapshot}
    (hfuture : d.history.future = newer :: future) :
    ∃ found, d.history.redo d.snapshot = some found ∧ Along d (d.restore found) ∧
      (d.restore found).position = d.position + 1 ∧
      (d.restore found).history.future = future := by
  obtain ⟨h', hredo, hsound, hpast', hfuture'⟩ := History.redo_of_future hd d.snapshot hfuture
  refine ⟨(h', newer), hredo, ⟨hsound, ?_⟩, ?_, hfuture'⟩
  · simp only [timeline, restore, hpast', hfuture', hfuture, List.map_cons, List.reverse_cons,
      List.append_assoc, List.singleton_append, snapshot]
  · simp only [position, restore, hpast', List.length_cons]

/-- Walking back takes states off the past, and ends in the last of those. -/
theorem walkHistory_undo (n : Nat) :
    Along d (walkHistory History.undo n d).1 ∧
      (walkHistory History.undo n d).1.history.past = d.history.past.drop n ∧
      (walkHistory History.undo n d).1.snapshot =
        (d.history.past.take n).getLast?.getD d.snapshot ∧
      (walkHistory History.undo n d).2 = min n d.history.past.length := by
  induction n generalizing d with
  | zero => exact ⟨⟨hd, rfl⟩, rfl, rfl, (Nat.zero_min _).symm⟩
  | succ n ih =>
    cases hpast : d.history.past with
    | nil =>
      simp only [walkHistory, History.undo_of_past_nil hd d.snapshot hpast, hpast]
      exact ⟨⟨hd, rfl⟩, rfl, rfl, rfl⟩
    | cons older past =>
      -- one step back, then the others from there: the cursor taken up is the last one passed
      obtain ⟨found, hundo, halong, hpast', hsnapshot⟩ := restore_undo hd hpast
      obtain ⟨hrest, hdrop, hlast, hcount⟩ := ih halong.sound
      simp only [walkHistory, hundo]
      refine ⟨halong.trans hrest, ?_, ?_, ?_⟩
      · rw [hdrop, hpast', List.drop_succ_cons]
      · rw [hlast, hpast', hsnapshot, List.take_succ_cons, List.getLast?_cons, Option.getD_some]
      · rw [hcount, hpast', List.length_cons, Nat.succ_min_succ]

/-- Walking forth counts the states. -/
theorem walkHistory_redo (n : Nat) :
    Along d (walkHistory History.redo n d).1 ∧
      (walkHistory History.redo n d).1.position = d.position + min n d.history.future.length ∧
      (walkHistory History.redo n d).2 = min n d.history.future.length := by
  induction n generalizing d with
  | zero => exact ⟨⟨hd, rfl⟩, by rw [Nat.zero_min]; rfl, (Nat.zero_min _).symm⟩
  | succ n ih =>
    cases hfuture : d.history.future with
    | nil =>
      simp only [walkHistory, History.redo_of_future_nil hd d.snapshot hfuture]
      exact ⟨⟨hd, rfl⟩, rfl, rfl⟩
    | cons newer future =>
      obtain ⟨found, hredo, halong, hpos, hfuture'⟩ := restore_redo hd hfuture
      obtain ⟨hrest, hposition, hcount⟩ := ih halong.sound
      simp only [walkHistory, hredo]
      rw [hfuture'] at hposition hcount
      rw [hpos] at hposition
      refine ⟨halong.trans hrest, ?_, ?_⟩
      · rw [hposition, List.length_cons]
        omega
      · rw [hcount, List.length_cons]
        omega

/-! ## Undo and redo -/

/-- Where the cursor comes to rest behind an undo of several states: where it was in the last of
them. -/
def landing (d : Document) (n : Nat) : Position :=
  ((d.history.past.take n).getLast?.map fun s => s.buffer.rest s.cursor).getD d.cursor

/-- An undo walks back along the timeline, and lands on the oldest cursor passed. -/
theorem undo_spec (n : Nat) :
    Along d (d.undo n).1 ∧ (d.undo n).1.history.past = d.history.past.drop (max n 1) ∧
      (d.undo n).1.cursor = d.landing (max n 1) := by
  obtain ⟨halong, hpast, hsnapshot, hcount⟩ :=
    walkHistory_undo (d := { d with group := none }) hd (max n 1)
  replace hcount : _ = min (max n 1) d.history.past.length := hcount
  rcases travel_cases History.undo d n with ⟨hundo, -, hzero⟩ | ⟨d', done, hwalk, hundo, -⟩
  · -- nothing lies behind the document
    have hnone : d.history.past = [] := by
      rw [← List.length_eq_zero_iff]
      have hpos : 1 ≤ max n 1 := Nat.le_max_right n 1
      omega
    rw [undo, hundo, landing, hnone, List.drop_nil, List.take_nil]
    exact ⟨⟨hd, rfl⟩, rfl, rfl⟩
  · rw [hwalk] at halong hpast hsnapshot hcount
    have htaken : d.history.past.take (max n 1) ≠ [] := by
      intro htake
      rw [← List.length_eq_zero_iff, List.length_take] at htake
      replace hcount : done + 1 = _ := hcount
      omega
    rw [undo, hundo, landing, List.getLast?_eq_some_getLast htaken]
    refine ⟨⟨halong.sound, halong.timeline⟩, hpast, ?_⟩
    replace hsnapshot : d'.snapshot = (d.history.past.take (max n 1)).getLast?.getD _ := hsnapshot
    rw [List.getLast?_eq_some_getLast htaken, Option.getD_some] at hsnapshot
    rw [← hsnapshot]
    rfl

/-- A redo walks forward along the timeline. -/
theorem redo_spec (n : Nat) :
    Along d (d.redo n).1 ∧
      (d.redo n).1.position = d.position + min (max n 1) d.history.future.length := by
  obtain ⟨halong, hposition, hcount⟩ :=
    walkHistory_redo (d := { d with group := none }) hd (max n 1)
  rcases travel_cases History.redo d n with ⟨hredo, -, hzero⟩ | ⟨d', done, hwalk, hredo, -⟩
  · rw [redo, hredo]
    rw [hzero] at hcount
    refine ⟨⟨hd, rfl⟩, ?_⟩
    rw [← hcount]
    rfl
  · rw [hwalk] at halong hposition
    rw [redo, hredo]
    exact ⟨⟨halong.sound, halong.timeline⟩, hposition⟩

/-! ## One at a time -/

/-- So many single undos. -/
def undos (n : Nat) (d : Document) : Document :=
  (fun d : Document => (d.undo 1).1)^[n] d

/-- So many single redos. -/
def redos (n : Nat) (d : Document) : Document :=
  (fun d : Document => (d.redo 1).1)^[n] d

omit hd in
/-- The last of several undos comes at their end. -/
theorem undos_succ (n : Nat) : undos (n + 1) d = ((undos n d).undo 1).1 :=
  Function.iterate_succ_apply' _ n d

omit hd in
/-- The last of several redos comes at their end. -/
theorem redos_succ (n : Nat) : redos (n + 1) d = ((redos n d).redo 1).1 :=
  Function.iterate_succ_apply' _ n d

/-- Undos one at a time walk as one undo of as many. -/
theorem undos_spec {n : Nat} (hn : n ≤ d.position) :
    Along d (undos n d) ∧ (undos n d).history.past = d.history.past.drop n ∧
      (undos n d).cursor = d.landing n := by
  induction n with
  | zero => exact ⟨⟨hd, rfl⟩, rfl, rfl⟩
  | succ n ih =>
    obtain ⟨halong, hpast, -⟩ := ih (by omega)
    obtain ⟨hlast, hdrop, hcursor⟩ := undo_spec halong.sound 1
    rw [Nat.max_self, hpast] at hdrop
    have hlt : n < d.history.past.length := hn
    rw [undos_succ]
    refine ⟨halong.trans hlast, hdrop.trans List.drop_drop, ?_⟩
    rw [hcursor, Nat.max_self, landing, landing, hpast, List.drop_eq_getElem_cons hlt,
      List.take_succ_cons, List.take_zero, List.take_succ_eq_append_getElem hlt,
      List.getLast?_concat]
    rfl

/-- Redos one at a time walk as one redo of as many. -/
theorem redos_spec {n : Nat} (hn : n ≤ d.history.future.length) :
    Along d (redos n d) ∧ (redos n d).position = d.position + n := by
  induction n with
  | zero => exact ⟨⟨hd, rfl⟩, rfl⟩
  | succ n ih =>
    obtain ⟨halong, hposition⟩ := ih (by omega)
    obtain ⟨hlast, hnext⟩ := redo_spec halong.sound 1
    have hlength := length_timeline (redos n d)
    rw [halong.timeline, length_timeline, hposition] at hlength
    rw [redos_succ]
    refine ⟨halong.trans hlast, ?_⟩
    rw [hnext, hposition]
    omega

/-- Several undos at once lead to the same state as single ones. -/
theorem undo_eq_undos {n : Nat} (hn : 1 ≤ n) :
    SameState (d.undo n).1 (undos (min n d.position) d) := by
  obtain ⟨halong, hpast, hcursor⟩ := undo_spec hd n
  obtain ⟨halong', hpast', hcursor'⟩ := undos_spec hd (Nat.min_le_right n d.position)
  rw [Nat.max_eq_left hn] at hpast hcursor
  refine .of_along halong halong' ?_ ?_
  · rw [position, position, hpast, hpast', List.length_drop, List.length_drop, position]
    omega
  · rw [hcursor, hcursor', landing, landing, position, List.take_eq_take_min]

/-- As many redos as undos give back the text. -/
theorem redos_undos {n : Nat} (hn : n ≤ d.position) : (redos n (undos n d)).buffer = d.buffer := by
  obtain ⟨halong, hpast, -⟩ := undos_spec hd hn
  have hposition : (undos n d).position = d.position - n := by
    rw [position, hpast, List.length_drop, position]
  have hlength := length_timeline (undos n d)
  rw [halong.timeline, length_timeline, hposition] at hlength
  obtain ⟨halong', hposition'⟩ := redos_spec (n := n) halong.sound (by omega)
  refine (halong.trans halong').buffer_eq ?_
  omega

/-- So they do at once. -/
theorem redo_undo {n : Nat} (hn : 1 ≤ n) (hdepth : 1 ≤ d.position) :
    ((d.undo n).1.redo (min n d.position)).1.buffer = d.buffer := by
  obtain ⟨halong, hpast, -⟩ := undo_spec hd n
  have hposition : (d.undo n).1.position = d.position - n := by
    rw [position, hpast, List.length_drop, position, Nat.max_eq_left hn]
  have hlength := length_timeline (d.undo n).1
  rw [halong.timeline, length_timeline, hposition] at hlength
  obtain ⟨halong', hposition'⟩ := redo_spec halong.sound (min n d.position)
  refine (halong.trans halong').buffer_eq ?_
  omega

end Walk

/-- **The history is a bounded zipper.** Whatever is recorded, undone and redone, and however the
current state changes in between, a history holds the states that a zipper holds, and refuses what a
zipper refuses. With such a history, undoing up to `n` changes leads where as many single undos lead,
as far as there are states, and as many redos give back the text. -/
theorem runCalls_timeline (bound : Nat) (s : Snapshot) (calls : List History.Call) :
    let arena := History.runCalls calls (History.withBound bound) s
    let zipper := History.runZipper (max bound 1) calls ⟨[], s, []⟩
    arena.2 = zipper.2 ∧ arena.1.1.zipper arena.1.2 = zipper.1 ∧
      arena.1.1.undoDepth = zipper.1.past.length ∧
      arena.1.1.redoDepth = zipper.1.future.length ∧
      ∀ d : Document, d.history = arena.1.1 → ∀ n, 1 ≤ n → 1 ≤ d.history.undoDepth →
        let k := min n d.history.undoDepth
        SameState (d.undo n).1 (undos k d) ∧ (redos k (undos k d)).buffer = d.buffer ∧
          ((d.undo n).1.redo k).1.buffer = d.buffer := by
  intro arena zipper
  obtain ⟨hsound, heq⟩ := History.run_eq (History.sound_withBound bound) s calls
  have hzipper : zipper = (arena.1.1.zipper arena.1.2, arena.2) := heq
  rw [hzipper]
  refine ⟨rfl, rfl, History.undoDepth_eq hsound, History.redoDepth_eq hsound, ?_⟩
  intro d hd n hn hdepth k
  have hd' : d.history.Sound := hd ▸ hsound
  have hposition : d.history.undoDepth = d.position := History.undoDepth_eq hd'
  have hk : k = min n d.position := congrArg (min n) hposition
  rw [hk]
  exact ⟨undo_eq_undos hd' hn, redos_undos hd' (Nat.min_le_right n d.position),
    redo_undo hd' hn (hposition ▸ hdepth)⟩

/-- Three states under a bound of two, and a document that goes back by five changes. -/
theorem runCalls_timeline_trimmed :
    let state (s : String) : Snapshot := ⟨.ofText s.toList, .origin⟩
    let calls : List History.Call :=
      [.push, .change (state "b"), .push, .change (state "c"), .push, .change (state "d"),
        .undo, .redo]
    let history := (History.runCalls calls (History.withBound 2) (state "a")).1.1
    let d : Document := { buffer := .ofText "e".toList, history }
    1 ≤ 5 ∧ 1 ≤ d.history.undoDepth ∧ SameState (d.undo 5).1 (undos 2 d) ∧
      (redos 2 (undos 2 d)).buffer = d.buffer ∧ ((d.undo 5).1.redo 2).1.buffer = d.buffer := by
  intro state calls history d
  have hdepth : d.history.undoDepth = 2 := by decide +kernel
  have hpos : 1 ≤ d.history.undoDepth := by omega
  have hhistory :
      d.history = (History.runCalls calls (History.withBound 2) (state "a")).1.1 := by
    with_reducible rfl
  obtain ⟨-, -, -, -, hback⟩ := runCalls_timeline 2 (state "a") calls
  clear_value d
  have hfive := hback d hhistory 5 (by decide) hpos
  rw [hdepth] at hfive
  exact ⟨by decide, hpos, hfive⟩

end ModalEditor.Document
