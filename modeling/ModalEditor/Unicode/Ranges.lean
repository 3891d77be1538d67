/-!
# Sets of code points given by ranges

A property of characters is stored as the ascending list of the closed ranges that have it.
-/

namespace ModalEditor.Unicode

/-- A set of code points: closed ranges, ascending and apart from each other. -/
abbrev Ranges := List (Nat × Nat)

/-- Is the code point in one of the ranges? The list is ascending, so the search ends at the first
range that begins above it. -/
def Ranges.contains : Ranges → Nat → Bool
  | [], _ => false
  | (first, last) :: later, n =>
    if n < first then false else if n ≤ last then true else Ranges.contains later n

/-- Is the code point in one of the ranges, in any order? -/
theorem Ranges.exists_of_contains {r : Ranges} {n : Nat} (h : r.contains n = true) :
    ∃ p ∈ r, p.1 ≤ n ∧ n ≤ p.2 := by
  induction r with
  | nil => simp [contains] at h
  | cons p later ih =>
    obtain ⟨first, last⟩ := p
    simp only [contains] at h
    split at h
    · simp at h
    · split at h
      · exact ⟨(first, last), by simp, by omega, by assumption⟩
      · obtain ⟨q, hq, hle⟩ := ih h
        exact ⟨q, List.mem_cons_of_mem _ hq, hle⟩

end ModalEditor.Unicode
