import ModalEditor.Text.Basic

/-!
# Decoding UTF-8

Bytes are decoded one character at a time. Where the bytes are not UTF-8, the longest beginning of a
character that is there counts as one error.
-/

namespace ModalEditor.Utf8

/-- For the first byte of a character of several bytes: the number of bytes that follow, the bits that
it gives, and the bounds of the second byte. -/
def lead? (b : Nat) : Option (Nat × Nat × Nat × Nat) :=
  if b < 0xC2 then none
  else if b < 0xE0 then some (1, b - 0xC0, 0x80, 0xBF)
  else if b = 0xE0 then some (2, 0, 0xA0, 0xBF)
  else if b = 0xED then some (2, 0xD, 0x80, 0x9F)
  else if b < 0xF0 then some (2, b - 0xE0, 0x80, 0xBF)
  else if b = 0xF0 then some (3, 0, 0x90, 0xBF)
  else if b < 0xF4 then some (3, b - 0xF0, 0x80, 0xBF)
  else if b = 0xF4 then some (3, 4, 0x80, 0x8F)
  else none

/-- Reads `n` more bytes of a character, the first of them between the given bounds. -/
def follow : (n : Nat) → (bits least most : Nat) → List Nat → Option Char × List Nat
  | 0, bits, _, _, bs => (some (Char.ofNat bits), bs)
  | n + 1, bits, least, most, b :: bs =>
    if least ≤ b ∧ b ≤ most then follow n (64 * bits + (b - 0x80)) 0x80 0xBF bs
    else (none, b :: bs)
  | _ + 1, _, _, _, [] => (none, [])

/-- Reads a character, or nothing where there is an error. Gives the bytes behind it. -/
def step (b : Nat) (bs : List Nat) : Option Char × List Nat :=
  if b < 0x80 then (some (Char.ofNat b), bs)
  else
    match lead? b with
    | some (n, bits, least, most) => follow n bits least most bs
    | none => (none, bs)

/-- Reading on never gives bytes back. -/
theorem follow_length (n bits least most : Nat) (bs : List Nat) :
    (follow n bits least most bs).2.length ≤ bs.length := by
  induction n generalizing bits least most bs with
  | zero => simp [follow]
  | succ n ih =>
    cases bs with
    | nil => simp [follow]
    | cons b bs =>
      simp only [follow]
      split
      · exact Nat.le_succ_of_le (ih ..)
      · simp

/-- Every step takes at least one byte. -/
theorem step_length (b : Nat) (bs : List Nat) : (step b bs).2.length ≤ bs.length := by
  unfold step
  split
  · simp
  · split
    · exact follow_length ..
    · simp

/-- The characters of the bytes, and nothing for each error. -/
def decodeAll : List Nat → List (Option Char)
  | [] => []
  | b :: bs => (step b bs).1 :: decodeAll (step b bs).2
termination_by bs => bs.length
decreasing_by
  have := step_length b bs
  simp only [List.length_cons]
  omega

/-- The text that the bytes are, if they are UTF-8. -/
def decode? (bs : List Nat) : Option Text :=
  (decodeAll bs).mapM id

/-- The text that the bytes are, with a replacement character for each error. -/
def decodeLossy (bs : List Nat) : Text :=
  (decodeAll bs).map (·.getD '\uFFFD')

end ModalEditor.Utf8
