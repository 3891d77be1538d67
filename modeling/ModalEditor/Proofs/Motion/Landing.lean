import ModalEditor.Command.Motion

/-!
# Where motions land

A motion lands on a place that it must have moved to, on a place that may not exist, or on one computed
from another. What a successful motion of each sort says of its landing is one equivalence
(`Motion.landIfMoved_eq_ok_iff`, `Motion.landAt_eq_ok_iff`, `Motion.map_eq_ok_iff`), and a vertical one
lands on the offset of its column in another row (`Buffer.up_eq_some`, `Buffer.down_eq_some`).
-/

namespace ModalEditor

namespace Buffer

variable {b : Buffer} {p q : Position} {n : Nat} {wanted : WantedColumn} {pastEnd : Bool}

/-- A motion up lands `n` rows above, or on the first row. -/
theorem up_eq_some (h : b.up p n wanted pastEnd = some q) :
    q = ⟨p.row - n, b.offsetOfWanted (p.row - n) wanted pastEnd⟩ := by
  unfold up at h
  split at h
  · cases h
  · exact (Option.some.inj h).symm

/-- A motion down lands `n` rows below, or on the last row. -/
theorem down_eq_some (h : b.down p n wanted pastEnd = some q) :
    q = ⟨min (p.row + n) b.lastRow,
      b.offsetOfWanted (min (p.row + n) b.lastRow) wanted pastEnd⟩ := by
  unfold down at h
  split at h
  · cases h
  · exact (Option.some.inj h).symm

end Buffer

namespace Motion

variable {start : Position} {place : Option Position} {sticky : Option WantedColumn}
  {landing : Landing}

/-- A motion that has to move lands on another place, and forgets the column. -/
theorem landIfMoved_eq_ok_iff {place : Position} :
    landIfMoved start place = .ok landing ↔ place ≠ start ∧ landing = { place } := by
  rw [landIfMoved]
  split
  · rename_i hstays
    exact iff_of_false nofun fun hmoved => hmoved.1 hstays
  · rename_i hmoved
    exact ⟨fun heq => ⟨hmoved, (Except.ok.inj heq).symm⟩, fun heq => congrArg Except.ok heq.2.symm⟩

/-- A motion lands on the place that there is, with the column that it was given. -/
theorem landAt_eq_ok_iff :
    landAt sticky place = .ok landing ↔ ∃ p, place = some p ∧ landing = { place := p, sticky } := by
  cases place with
  | none => simp [landAt]
  | some p => simp [landAt, eq_comm]

/-- A motion fails if it has no place to land on. -/
theorem landAt_eq_error_iff : landAt sticky place = .error .motionFailed ↔ place = none := by
  cases place with
  | none => simp [landAt]
  | some p => simp [landAt]

/-- A motion to a mark lands where the mark leads, and forgets the column. -/
theorem map_eq_ok_iff {result : Except EditorError Position} {f : Position → Position} :
    (result.map fun p => ({ place := f p } : Landing)) = .ok landing ↔
      ∃ p, result = .ok p ∧ landing = { place := f p } := by
  cases result with
  | error reason => simp [Except.map]
  | ok p => simp [Except.map, eq_comm]

end Motion

end ModalEditor
