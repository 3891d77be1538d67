import ModalEditor.Unicode.Ranges

/-!
# Blank characters

The characters with the Unicode property `White_Space`. The ASCII members are tested first, so that
plain text never reaches the table.
-/

namespace ModalEditor.Unicode

/-- The code points above ASCII with the property `White_Space`. -/
def blankRanges : Ranges := [
  (0x85, 0x85), (0xA0, 0xA0), (0x1680, 0x1680), (0x2000, 0x200A), (0x2028, 0x2029),
  (0x202F, 0x202F), (0x205F, 0x205F), (0x3000, 0x3000)]

/-- Does the character have the property `White_Space`? -/
def isBlank (c : Char) : Bool :=
  if c.toNat < 0x80 then c == ' ' || (9 ≤ c.toNat && c.toNat ≤ 13)
  else blankRanges.contains c.toNat

end ModalEditor.Unicode
