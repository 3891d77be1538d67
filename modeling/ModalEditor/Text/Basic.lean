/-!
# Text, bytes and lines

Text is a list of characters. Columns are measured in bytes of UTF-8, so this module holds the byte
measure of a text and the two ways of cutting a text at a byte offset, and the division of a text
into lines. Main statements:

* `takeBytes_append_dropBytes`: cutting at an offset loses nothing;
* `joinLines_splitLines`: joining the lines of a text gives the text back;
* `splitLines_joinLines`: dividing joined lines gives the lines back, if none holds a line break.

An offset is any natural number. One inside a character, or beyond the text, is no place where a text can
be cut; the definitions then cut in front of the character or at the end, so that they are total, and
what is said of a cut asks for `isCharBoundary` where that matters.
-/

namespace ModalEditor

/-- A text, character by character. -/
abbrev Text := List Char

/-! ## Bytes -/

/-- The number of bytes of the text in UTF-8. -/
def byteSize : Text → Nat
  | [] => 0
  | c :: cs => c.utf8Size + byteSize cs

@[simp] theorem byteSize_nil : byteSize [] = 0 := rfl

/-- The first character of a text counts its bytes in UTF-8. -/
@[simp] theorem byteSize_cons (c : Char) (cs : Text) :
    byteSize (c :: cs) = c.utf8Size + byteSize cs := rfl

/-- Texts put together are as large as their parts. -/
@[simp] theorem byteSize_append (s t : Text) : byteSize (s ++ t) = byteSize s + byteSize t := by
  induction s with
  | nil => simp
  | cons c cs ih => simp [ih, Nat.add_assoc]

/-- The longest beginning of the text that fits into `n` bytes. -/
def takeBytes : Text → Nat → Text
  | [], _ => []
  | c :: cs, n => if c.utf8Size ≤ n then c :: takeBytes cs (n - c.utf8Size) else []

/-- What is left of the text after the longest beginning that fits into `n` bytes. -/
def dropBytes : Text → Nat → Text
  | [], _ => []
  | c :: cs, n => if c.utf8Size ≤ n then dropBytes cs (n - c.utf8Size) else c :: cs

/-- The part of the text between two byte offsets. -/
def sliceBytes (t : Text) (first last : Nat) : Text :=
  takeBytes (dropBytes t first) (last - first)

/-- The first bytes and the remainder make up the text. -/
@[simp] theorem takeBytes_append_dropBytes (t : Text) (n : Nat) :
    takeBytes t n ++ dropBytes t n = t := by
  induction t generalizing n with
  | nil => rfl
  | cons c cs ih =>
    simp only [takeBytes, dropBytes]
    split
    · simp [ih]
    · rfl

/-- The first bytes of a text are characters of it. -/
theorem mem_of_mem_takeBytes {c : Char} {t : Text} {n : Nat} (h : c ∈ takeBytes t n) : c ∈ t := by
  rw [← takeBytes_append_dropBytes t n]
  exact List.mem_append_left _ h

/-- What is left of a text are characters of it. -/
theorem mem_of_mem_dropBytes {c : Char} {t : Text} {n : Nat} (h : c ∈ dropBytes t n) : c ∈ t := by
  rw [← takeBytes_append_dropBytes t n]
  exact List.mem_append_right _ h

/-- Is the byte offset between two characters of the text, or at one of its ends? -/
def isCharBoundary : Text → Nat → Bool
  | _, 0 => true
  | [], _ + 1 => false
  | c :: cs, n + 1 => c.utf8Size ≤ n + 1 && isCharBoundary cs (n + 1 - c.utf8Size)

/-! ## Lines -/

/-- Puts a character in front of the first line. -/
def consToFirst (c : Char) : List Text → List Text
  | [] => [[c]]
  | l :: ls => (c :: l) :: ls

/-- The lines of a text: every `'\n'` parts two lines, so there is always one more line than there
are line breaks. -/
def splitLines : Text → List Text
  | [] => [[]]
  | c :: cs => if c = '\n' then [] :: splitLines cs else consToFirst c (splitLines cs)

/-- The lines with a line break between each two. -/
def joinLines : List Text → Text
  | [] => []
  | [l] => l
  | l :: m :: ls => l ++ '\n' :: joinLines (m :: ls)

/-- A line holds no line break. -/
def IsLine (l : Text) : Prop := '\n' ∉ l

instance (l : Text) : Decidable (IsLine l) := inferInstanceAs (Decidable ('\n' ∉ l))

/-- There is a first line once it has a character. -/
theorem consToFirst_ne_nil (c : Char) (ls : List Text) : consToFirst c ls ≠ [] := by
  cases ls <;> simp [consToFirst]

/-- A text has at least one line. -/
@[simp] theorem splitLines_ne_nil (t : Text) : splitLines t ≠ [] := by
  cases t with
  | nil => simp [splitLines]
  | cons c cs =>
    simp only [splitLines]
    split
    · simp
    · exact consToFirst_ne_nil _ _

/-- Dividing a text leaves no line break in any line. -/
theorem isLine_of_mem_splitLines {l t : Text} (h : l ∈ splitLines t) : IsLine l := by
  induction t generalizing l with
  | nil => simp_all [splitLines, IsLine]
  | cons c cs ih =>
    simp only [splitLines] at h
    split at h
    · rcases List.mem_cons.1 h with rfl | h
      · simp [IsLine]
      · exact ih h
    · rename_i hc
      cases hs : splitLines cs with
      | nil => exact absurd hs (splitLines_ne_nil cs)
      | cons m ms =>
        rw [hs, consToFirst] at h
        rcases List.mem_cons.1 h with rfl | h
        · have : IsLine m := ih (by simp [hs])
          simp_all [IsLine, eq_comm]
        · exact ih (by simp [hs, h])

/-- A character put before the first line is put before the text. -/
theorem joinLines_consToFirst (c : Char) (ls : List Text) (h : ls ≠ []) :
    joinLines (consToFirst c ls) = c :: joinLines ls := by
  match ls, h with
  | [l], _ => rfl
  | l :: m :: ls, _ => rfl

/-- Joining the lines of a text gives the text back. -/
@[simp] theorem joinLines_splitLines (t : Text) : joinLines (splitLines t) = t := by
  induction t with
  | nil => rfl
  | cons c cs ih =>
    simp only [splitLines]
    split
    · rename_i hc
      subst hc
      cases hs : splitLines cs with
      | nil => exact absurd hs (splitLines_ne_nil cs)
      | cons m ms => rw [joinLines, ← hs, ih]; rfl
    · rw [joinLines_consToFirst _ _ (splitLines_ne_nil cs), ih]

/-- A line is its own only line. -/
theorem splitLines_of_isLine {l : Text} (h : IsLine l) : splitLines l = [l] := by
  induction l with
  | nil => rfl
  | cons c cs ih =>
    simp only [IsLine, List.mem_cons, not_or] at h
    simp only [splitLines, if_neg (Ne.symm h.1), ih h.2, consToFirst]

/-- Splitting a line and its break, then the remainder of the text. -/
theorem splitLines_append_break {l : Text} (h : IsLine l) (t : Text) :
    splitLines (l ++ '\n' :: t) = l :: splitLines t := by
  induction l with
  | nil => simp [splitLines]
  | cons c cs ih =>
    simp only [IsLine, List.mem_cons, not_or] at h
    simp only [List.cons_append, splitLines, if_neg (Ne.symm h.1), ih h.2, consToFirst]

/-- Dividing joined lines gives the lines back, if there is a line and none holds a line break. -/
theorem splitLines_joinLines {ls : List Text} (hne : ls ≠ []) (h : ∀ l ∈ ls, IsLine l) :
    splitLines (joinLines ls) = ls := by
  match ls, hne with
  | [l], _ => exact splitLines_of_isLine (h l (by simp))
  | l :: m :: ls, _ =>
    rw [joinLines, splitLines_append_break (h l (by simp)),
      splitLines_joinLines (by simp) fun x hx => h x (List.mem_cons_of_mem _ hx)]

end ModalEditor
