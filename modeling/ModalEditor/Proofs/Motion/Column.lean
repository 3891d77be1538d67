import ModalEditor.Motion.Line
import ModalEditor.Proofs.Document.Row
import ModalEditor.Proofs.Text.Column
import ModalEditor.Proofs.Text.Overwrite

/-!
# Wanted columns and the offsets that they lead to

A vertical motion keeps to a display column, and lands on the cluster that covers this column. The
place to which a wanted column leads on a row is one where the cursor may be
(`clamp_offsetOfWanted`, `rest_offsetOfWanted`), and a cursor that is there already stays where its
own column leads (`offsetOfWanted_columnOf`).
-/

namespace ModalEditor

theorem Parts.min {gs : List Cluster} {n m : Nat} (hn : Parts gs n) (hm : Parts gs m) :
    Parts gs (min n m) := by
  rcases Nat.le_total n m with hle | hle
  · rwa [Nat.min_eq_left hle]
  · rwa [Nat.min_eq_right hle]

namespace Buffer

theorem parts_restLimit (l : Text) (pastEnd : Bool) : Parts (clusters l) (restLimit l pastEnd) := by
  cases pastEnd with
  | true => exact parts_byteSize l
  | false => exact parts_prevBoundary l (byteSize l)

variable {b : Buffer}

theorem parts_offsetOfWanted (b : Buffer) (row : Nat) (wanted : WantedColumn) (pastEnd : Bool) :
    Parts (clusters (b.line row)) (b.offsetOfWanted row wanted pastEnd) := by
  cases wanted with
  | lineEnd => exact parts_restLimit _ pastEnd
  | column n => exact (parts_startOfColumn _ n).min (parts_restLimit _ pastEnd)

theorem offsetOfWanted_le (b : Buffer) (row : Nat) (wanted : WantedColumn) (pastEnd : Bool) :
    b.offsetOfWanted row wanted pastEnd ≤ restLimit (b.line row) pastEnd := by
  cases wanted with
  | lineEnd => exact Nat.le_refl _
  | column n => exact Nat.min_le_right _ _

theorem clamp_offsetOfWanted {row : Nat} (hrow : row < b.lineCount) (wanted : WantedColumn)
    (pastEnd : Bool) : b.clamp ⟨row, b.offsetOfWanted row wanted pastEnd⟩ =
      ⟨row, b.offsetOfWanted row wanted pastEnd⟩ :=
  clamp_of_parts hrow (b.parts_offsetOfWanted row wanted pastEnd)

theorem rest_offsetOfWanted {row : Nat} (hrow : row < b.lineCount) (wanted : WantedColumn) :
    b.rest ⟨row, b.offsetOfWanted row wanted false⟩ =
      ⟨row, b.offsetOfWanted row wanted false⟩ := by
  have hle : b.offsetOfWanted row wanted false ≤ lastBoundary (b.line row) :=
    b.offsetOfWanted_le row wanted false
  rw [rest, clamp_offsetOfWanted hrow]
  exact congrArg (Position.mk row) (Nat.min_eq_left hle)

/-- A cursor at rest is where its own column leads. -/
theorem offsetOfWanted_columnOf {p : Position} (hp : b.rest p = p) :
    b.offsetOfWanted p.row (.column (columnOf (b.line p.row) p.col)) false = p.col := by
  have hrow : (b.clamp p).row = p.row := congrArg (·.row) hp
  have hcol : min (b.clamp p).col (lastBoundary (b.line (b.clamp p).row)) = p.col :=
    congrArg (·.col) hp
  rw [hrow] at hcol
  have hparts : Parts (clusters (b.line p.row)) p.col := by
    rw [← hcol, ← hrow]
    exact (parts_floorIn _ _).min (parts_restLimit _ false)
  have hle : p.col ≤ lastBoundary (b.line p.row) := hcol ▸ Nat.min_le_right _ _
  show min (offsetOfColumn _ (columnOf _ p.col)) (lastBoundary _) = p.col
  rw [offsetOfColumn_columnOf hparts, Nat.min_eq_left hle]

end Buffer

end ModalEditor
