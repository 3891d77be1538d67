import ModalEditor.Unicode.Utf8

/-!
# Decoding what was encoded

The bytes that UTF-8 gives to a text are decoded to that text (`decode?_encode`): a character takes
one step, which leaves the bytes behind it (`step_encodeChar`). The bounds of the second byte shut out
the code points that are too small for their number of bytes and those that are no characters, so they
hold for the bytes of a character (`lead?_three`, `lead?_four`).
-/

namespace ModalEditor.Utf8

/-- The bytes of a character. -/
def encodeChar (c : Char) : List Nat :=
  (String.utf8EncodeChar c).map UInt8.toNat

/-- The bytes of a text. -/
def encode (t : Text) : List Nat :=
  t.flatMap encodeChar

/-! ## The first byte -/

/-- The first byte of two. -/
theorem lead?_two {b : Nat} (h : 0xC2 ≤ b) (h' : b < 0xE0) :
    lead? b = some (1, b - 0xC0, 0x80, 0xBF) := by
  rw [lead?, if_neg (by omega), if_pos h']

/-- The second of three bytes is in bounds if it is large enough behind the least first byte, and
small enough before the code points that are no characters. -/
theorem lead?_three {b second : Nat} (h : 0xE0 ≤ b) (h' : b < 0xF0)
    (hsecond : 0x80 ≤ second ∧ second ≤ 0xBF) (hleast : b = 0xE0 → 0xA0 ≤ second)
    (hmost : b = 0xED → second ≤ 0x9F) :
    ∃ least most, lead? b = some (2, b - 0xE0, least, most) ∧ least ≤ second ∧ second ≤ most := by
  rw [lead?, if_neg (by omega), if_neg (by omega)]
  split
  · case isTrue heq => exact ⟨_, _, by rw [heq], hleast heq, hsecond.2⟩
  · split
    · case isTrue heq => exact ⟨_, _, by rw [heq], hsecond.1, hmost heq⟩
    · exact ⟨_, _, rfl, hsecond⟩

/-- The first byte of four, with the bounds on the second. -/
theorem lead?_four {b second : Nat} (h : 0xF0 ≤ b) (h' : b ≤ 0xF4)
    (hsecond : 0x80 ≤ second ∧ second ≤ 0xBF) (hleast : b = 0xF0 → 0x90 ≤ second)
    (hmost : b = 0xF4 → second ≤ 0x8F) :
    ∃ least most, lead? b = some (3, b - 0xF0, least, most) ∧ least ≤ second ∧ second ≤ most := by
  rw [lead?, if_neg (by omega), if_neg (by omega), if_neg (by omega), if_neg (by omega),
    if_neg (by omega)]
  split
  · case isTrue heq => exact ⟨_, _, by rw [heq], hleast heq, hsecond.2⟩
  · split
    · exact ⟨_, _, rfl, hsecond⟩
    · have heq : b = 0xF4 := by omega
      exact ⟨_, _, by rw [if_pos heq, heq], hsecond.1, hmost heq⟩

/-! ## One character -/

/-- A byte between the bounds gives six bits. -/
theorem follow_trail {least most d : Nat} (n bits : Nat) (bs : List Nat)
    (h : least ≤ d + 0x80 ∧ d + 0x80 ≤ most) :
    follow (n + 1) bits least most ((d + 0x80) :: bs) = follow n (64 * bits + d) 0x80 0xBF bs := by
  rw [follow, if_pos h, Nat.add_sub_cancel]

/-- A first byte settles how many bytes follow. -/
theorem step_of_lead? {b n bits least most : Nat} (hb : 0x80 ≤ b)
    (h : lead? b = some (n, bits, least, most)) (bs : List Nat) :
    step b bs = follow n bits least most bs := by
  rw [step, if_neg (by omega), h]

/-- What is decoded is the code point, of which every byte gave its bits. -/
theorem follow_zero {bits v least most : Nat} (h : bits = v) (bs : List Nat) :
    follow 0 bits least most bs = (some (Char.ofNat v), bs) := by
  rw [follow, h]

/-- The bits of a byte that is not the first one. -/
theorem trail_bounds (v : Nat) : 0x80 ≤ v % 64 + 0x80 ∧ v % 64 + 0x80 ≤ 0xBF := by
  omega

/-- Two bytes are read back. -/
theorem step_two {v : Nat} (h : 0x80 ≤ v) (h' : v ≤ 0x7FF) (bs : List Nat) :
    step (v / 64 % 32 + 0xC0) ((v % 64 + 0x80) :: bs) = (some (Char.ofNat v), bs) := by
  rw [step_of_lead? (by omega) (lead?_two (by omega) (by omega)),
    follow_trail _ _ _ (trail_bounds v)]
  exact follow_zero (by omega) bs

/-- Three bytes are read back, surrogates excluded. -/
theorem step_three {v : Nat} (h : 0x800 ≤ v) (h' : v ≤ 0xFFFF) (hv : v.isValidChar)
    (bs : List Nat) :
    step (v / 4096 % 16 + 0xE0) ((v / 64 % 64 + 0x80) :: (v % 64 + 0x80) :: bs) =
      (some (Char.ofNat v), bs) := by
  obtain ⟨least, most, hlead, hbounds⟩ := lead?_three (b := v / 4096 % 16 + 0xE0)
    (by omega) (by omega) (trail_bounds (v / 64)) (by omega) (by omega)
  rw [step_of_lead? (by omega) hlead, follow_trail _ _ _ hbounds,
    follow_trail _ _ _ (trail_bounds v)]
  exact follow_zero (by omega) bs

/-- Four bytes are read back. -/
theorem step_four {v : Nat} (h : 0x10000 ≤ v) (hv : v.isValidChar) (bs : List Nat) :
    step (v / 262144 % 8 + 0xF0)
        ((v / 4096 % 64 + 0x80) :: (v / 64 % 64 + 0x80) :: (v % 64 + 0x80) :: bs) =
      (some (Char.ofNat v), bs) := by
  obtain ⟨least, most, hlead, hbounds⟩ := lead?_four (b := v / 262144 % 8 + 0xF0)
    (by omega) (by omega) (trail_bounds (v / 4096)) (by omega) (by omega)
  rw [step_of_lead? (by omega) hlead, follow_trail _ _ _ hbounds,
    follow_trail _ _ _ (trail_bounds (v / 64)), follow_trail _ _ _ (trail_bounds v)]
  exact follow_zero (by omega) bs

/-- One byte is read back. -/
theorem step_one {v : Nat} (h : v ≤ 0x7F) (bs : List Nat) :
    step v bs = (some (Char.ofNat v), bs) :=
  if_pos (by omega)

/-- The bytes of a character, by its code point. -/
theorem encodeChar_eq (c : Char) :
    encodeChar c =
      if c.toNat ≤ 0x7F then [c.toNat]
      else if c.toNat ≤ 0x7FF then [c.toNat / 64 % 32 + 0xC0, c.toNat % 64 + 0x80]
      else if c.toNat ≤ 0xFFFF then
        [c.toNat / 4096 % 16 + 0xE0, c.toNat / 64 % 64 + 0x80, c.toNat % 64 + 0x80]
      else
        [c.toNat / 262144 % 8 + 0xF0, c.toNat / 4096 % 64 + 0x80, c.toNat / 64 % 64 + 0x80,
          c.toNat % 64 + 0x80] := by
  have hbyte {n : Nat} (h : n < 256) : (UInt8.ofNat n).toNat = n := by
    rw [UInt8.toNat_ofNat', Nat.mod_eq_of_lt h]
  simp only [encodeChar, String.utf8EncodeChar, apply_ite (List.map UInt8.toNat), List.map_cons,
    List.map_nil, Char.toNat_val]
  split <;> simp (disch := omega) only [hbyte]

/-- One step takes the bytes of a character, and leaves those behind it. -/
theorem step_encodeChar (c : Char) (bs : List Nat) :
    ∃ b rest, encodeChar c = b :: rest ∧ step b (rest ++ bs) = (some c, bs) := by
  have hv : c.toNat.isValidChar := c.valid
  have hc : Char.ofNat c.toNat = c := c.ofNat_toNat
  rw [encodeChar_eq]
  by_cases h₁ : c.toNat ≤ 0x7F
  · exact ⟨_, _, if_pos h₁, by rw [List.nil_append, step_one h₁, hc]⟩
  rw [if_neg h₁]
  by_cases h₂ : c.toNat ≤ 0x7FF
  · exact ⟨_, _, if_pos h₂, by rw [List.singleton_append, step_two (by omega) h₂, hc]⟩
  rw [if_neg h₂]
  by_cases h₃ : c.toNat ≤ 0xFFFF
  · refine ⟨_, _, if_pos h₃, ?_⟩
    rw [List.cons_append, List.singleton_append, step_three (by omega) h₃ hv, hc]
  · refine ⟨_, _, if_neg h₃, ?_⟩
    rw [List.cons_append, List.cons_append, List.singleton_append, step_four (by omega) hv, hc]

/-- A text is read back from its bytes, each character in turn. -/
theorem decodeAll_encode (t : Text) : decodeAll (encode t) = t.map some := by
  induction t with
  | nil => exact decodeAll.eq_1
  | cons c t ih =>
    obtain ⟨b, rest, hbytes, hstep⟩ := step_encodeChar c (encode t)
    rw [encode, List.flatMap_cons, hbytes, List.cons_append, decodeAll]
    change (step b (rest ++ encode t)).1 :: decodeAll (step b (rest ++ encode t)).2 = _
    rw [hstep, ih, List.map_cons]

/-- The bytes of a text are decoded to the text. -/
theorem decode?_encode (t : Text) : decode? (encode t) = some t := by
  rw [decode?, decodeAll_encode]
  induction t with
  | nil => rfl
  | cons c t ih => rw [List.map_cons, List.mapM_cons, ih]; rfl

end ModalEditor.Utf8
