import ModalEditor.Proofs.Buffer.FlatText

/-!
# Places and their character indices

A place in a buffer is told by its row and its byte in the row, or by the number of characters before
it. Each of the two gives the other (`positionOf_charIndex`), and places are in the same order by
both (`charIndex_le_iff`). So the text between two places is that between two characters
(`slice_eq_drop_take`), and pieces of the text that meet in a place are one piece
(`slice_append_slice`).
-/

namespace ModalEditor

namespace Buffer

variable {b : Buffer} {p q r : Position}

/-- Places with the same index are the same. -/
theorem charIndex_eq_iff : b.charIndex p = b.charIndex q ↔ b.clamp p = b.clamp q := by
  constructor
  · intro hindex
    rw [← positionOf_charIndex, hindex, positionOf_charIndex]
  · intro hplace
    rw [← charIndex_clamp, hplace, charIndex_clamp]

/-- Places are in the order of their indices. -/
theorem charIndex_le_iff : b.charIndex p ≤ b.charIndex q ↔ ¬ b.clamp q < b.clamp p := by
  constructor
  · intro hle hlt
    have hback : b.charIndex q ≤ b.charIndex p := (text_remove_index (Position.lt_asymm hlt)).1
    have hsame := charIndex_eq_iff.1 (Nat.le_antisymm hle hback)
    rw [hsame] at hlt
    exact Position.lt_irrefl _ hlt
  · exact fun hle => (text_remove_index hle).1

theorem slice_eq_drop_take (b : Buffer) (p q : Position) :
    b.slice p q = (b.text.take (b.charIndex q)).drop (b.charIndex p) := by
  rw [← remove_snd]
  exact (b.remove_flat p q).1

/-- Pieces of the text that meet in a place are one piece. -/
theorem slice_append_slice (hpq : ¬ b.clamp q < b.clamp p) (hqr : ¬ b.clamp r < b.clamp q) :
    b.slice p q ++ b.slice q r = b.slice p r := by
  have hle : b.charIndex p ≤ (b.text.take (b.charIndex q)).length := by
    rw [List.length_take_of_le (b.charIndex_le q)]
    exact charIndex_le_iff.2 hpq
  calc b.slice p q ++ b.slice q r
      = (b.text.take (b.charIndex q)).drop (b.charIndex p) ++
          (b.text.take (b.charIndex r)).drop (b.charIndex q) := by
        rw [slice_eq_drop_take, slice_eq_drop_take]
    _ = (b.text.take (b.charIndex q) ++
          (b.text.take (b.charIndex r)).drop (b.charIndex q)).drop (b.charIndex p) :=
        (List.drop_append_of_le_length hle).symm
    _ = b.slice p r := by
        rw [← take_eq_append b.text (charIndex_le_iff.2 hqr), slice_eq_drop_take]

/-- **Places are numbers of characters.** The index of a position leads back to the place in the
buffer that is nearest to the position, and a place in the buffer is its own nearest one. Places are
in order by row and column exactly if their indices are, and only the same place has the same index.
Between two positions is the text between their indices, so of three places in order the text from the
first to the second and on to the third is the text from the first to the third. -/
theorem charIndex_coherent (b : Buffer) :
    (∀ p, b.positionOf (b.charIndex p) = b.clamp p) ∧
    (∀ p, b.clamp (b.clamp p) = b.clamp p) ∧
    (∀ p q, b.clamp p = p → b.clamp q = q →
      (b.charIndex p ≤ b.charIndex q ↔ ¬ q < p) ∧ (b.charIndex p = b.charIndex q ↔ p = q)) ∧
    (∀ p q, b.slice p q = (b.text.take (b.charIndex q)).drop (b.charIndex p)) ∧
    ∀ p q r, b.clamp p = p → b.clamp q = q → b.clamp r = r → ¬ q < p → ¬ r < q →
      b.slice p q ++ b.slice q r = b.slice p r := by
  refine ⟨b.positionOf_charIndex, b.clamp_clamp, ?_, b.slice_eq_drop_take, ?_⟩
  · intro p q hp hq
    rw [charIndex_le_iff, charIndex_eq_iff, hp, hq]
    exact ⟨Iff.rfl, Iff.rfl⟩
  · intro p q r hp hq hr hpq hqr
    exact slice_append_slice (by rwa [hp, hq]) (by rwa [hq, hr])

/-- A piece that ends behind a letter of two bytes, and one that goes on over the line break. -/
theorem charIndex_coherent_break :
    let b := ofText "aλb\nü".toList
    let p : Position := ⟨0, 1⟩
    let q : Position := ⟨0, 3⟩
    let r : Position := ⟨1, 2⟩
    (b.clamp p = p ∧ b.clamp q = q ∧ b.clamp r = r ∧ ¬ q < p ∧ ¬ r < q) ∧
      b.charIndex p ≤ b.charIndex q ∧ ¬ b.charIndex p = b.charIndex q ∧
      b.slice p q ++ b.slice q r = "λb\nü".toList := by
  intro b p q r
  have hp : b.clamp p = p := by decide +kernel
  have hq : b.clamp q = q := by decide +kernel
  have hr : b.clamp r = r := by decide +kernel
  have hpq : ¬ q < p := by decide
  have hqr : ¬ r < q := by decide
  obtain ⟨-, -, horder, hslice, hjoined⟩ := b.charIndex_coherent
  refine ⟨⟨hp, hq, hr, hpq, hqr⟩, (horder p q hp hq).1.2 hpq, ?_, ?_⟩
  · rw [(horder p q hp hq).2]
    decide
  · rw [hjoined p q r hp hq hr hpq hqr, hslice p r]
    decide +kernel

end Buffer

end ModalEditor
