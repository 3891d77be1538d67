import Mathlib.Data.List.TakeWhile
import ModalEditor.Program.Run
import ModalEditor.Proofs.Unicode.Utf8

/-!
# Files that are not edited

A run that types no keys gives the text of the file back, but for its line breaks: all of them are
line feeds (`run_unedited`). Two ways of reading a text are compared for this, one that goes through
its characters (`unixBreaks`) and one that takes its lines apart and joins them (`TextFile.parse`,
`TextFile.render`). Both are known for a single line, and for a line that is put in front of a text,
and every text is made in these two ways (`lineInduction`).
-/

namespace ModalEditor

/-- Every text is a line, or a line in front of another text. -/
theorem lineInduction {motive : Text → Prop} (line : ∀ l, IsLine l → motive l)
    (lineBreak : ∀ l t, IsLine l → motive t → motive (l ++ '\n' :: t)) (t : Text) : motive t := by
  rw [← joinLines_splitLines t]
  have hlines : ∀ l ∈ splitLines t, IsLine l := fun _ => isLine_of_mem_splitLines
  generalize splitLines t = rows at hlines
  induction rows with
  | nil => exact line _ (by simp [IsLine, joinLines])
  | cons l rows ih =>
    have hl := hlines l List.mem_cons_self
    have hrest := ih fun m hm => hlines m (List.mem_cons_of_mem _ hm)
    cases rows with
    | nil => exact line l hl
    | cons m rows => exact lineBreak l _ hl hrest

/-- The text of a line and of others after it. -/
theorem joinLines_cons (l : Text) {ls : List Text} (h : ls ≠ []) :
    joinLines (l :: ls) = l ++ '\n' :: joinLines ls := by
  cases ls with
  | nil => exact absurd rfl h
  | cons m ls => rfl

/-! ## Line feeds for line breaks -/

/-- The text without the carriage returns that stand before a line feed. -/
def unixBreaks : Text → Text
  | '\r' :: '\n' :: t => '\n' :: unixBreaks t
  | c :: t => c :: unixBreaks t
  | [] => []

/-- A character that does not start a pair is kept. -/
theorem unixBreaks_cons {c : Char} {t : Text} (h : c = '\r' → t.head? ≠ some '\n') :
    unixBreaks (c :: t) = c :: unixBreaks t := by
  rw [unixBreaks]
  rintro t' rfl rfl
  exact h rfl rfl

/-- A text without line feeds has no pairs. -/
theorem unixBreaks_of_isLine {l : Text} (h : IsLine l) : unixBreaks l = l := by
  induction l with
  | nil => rfl
  | cons c l ih =>
    simp only [IsLine, List.mem_cons, not_or] at h
    rw [unixBreaks_cons fun _ hhead => h.2 (List.mem_of_mem_head? hhead), ih h.2]

/-- A pair across the end of a line loses its return, and what follows is read on its own. -/
theorem unixBreaks_append_break {l : Text} (h : IsLine l) (t : Text) :
    unixBreaks (l ++ '\n' :: t) = TextFile.dropReturn l ++ '\n' :: unixBreaks t := by
  induction l with
  | nil => exact unixBreaks_cons fun hc => absurd hc (by decide)
  | cons c l ih =>
    simp only [IsLine, List.mem_cons, not_or] at h
    cases l with
    | nil =>
      by_cases hc : c = '\r'
      · subst hc; rfl
      · rw [List.singleton_append, unixBreaks_cons fun hc' => absurd hc' hc,
          unixBreaks_cons fun hc => absurd hc (by decide)]
        simp [TextFile.dropReturn, hc]
    | cons d l =>
      have hd : d ≠ '\n' := fun hd => h.2 (by simp [hd])
      rw [List.cons_append, unixBreaks_cons (by simp [hd]), ih h.2]
      simp only [TextFile.dropReturn, List.getLast?_cons_cons, List.dropLast_cons_cons]
      split <;> rfl

/-- A line break at the end stays, and none comes up. -/
theorem getLast?_unixBreaks (t : Text) : (unixBreaks t).getLast? = t.getLast? := by
  induction t using lineInduction with
  | line l h => rw [unixBreaks_of_isLine h]
  | lineBreak l t h ih =>
    simp [unixBreaks_append_break h, List.getLast?_append, List.getLast?_cons, ih]

/-! ## Reading and writing a file -/

namespace TextFile

/-- Lines are read off one by one. -/
theorem linesOfRows_cons (l : Text) {rows : List Text} (h : rows ≠ []) :
    linesOfRows (l :: rows) = dropReturn l :: linesOfRows rows := by
  cases rows with
  | nil => exact absurd rfl h
  | cons m rows => rfl

/-- A text that is not empty has lines. -/
theorem linesOfRows_ne_nil {t : Text} (h : t ≠ []) : linesOfRows (splitLines t) ≠ [] := by
  have ht := joinLines_splitLines t
  match hrows : splitLines t with
  | [] => exact absurd hrows (splitLines_ne_nil t)
  | [l] =>
    rw [hrows, joinLines] at ht
    simp [linesOfRows, ht, h]
  | l :: m :: rows => exact List.cons_ne_nil _ _

/-- What is read from a text that is not empty. -/
theorem parse_of_ne_nil {t : Text} (h : t ≠ []) :
    parse t = ⟨linesOfRows (splitLines t), t.getLast? == some '\n'⟩ := by
  cases hlines : linesOfRows (splitLines t) with
  | nil => exact absurd hlines (linesOfRows_ne_nil h)
  | cons l ls => rw [parse, hlines]

/-- A text without line feeds is one line without a final break. -/
theorem parse_of_isLine {l : Text} (h : IsLine l) : parse l = ⟨[l], false⟩ := by
  have hlast : l.getLast? ≠ some '\n' := fun hlast => h (List.mem_of_getLast? hlast)
  cases l with
  | nil => rfl
  | cons c l =>
    rw [parse_of_ne_nil (List.cons_ne_nil c l), splitLines_of_isLine h, beq_false_of_ne hlast]
    rfl

/-- Reading a line and its break, then the remainder of the file. -/
theorem parse_append_break {l : Text} (h : IsLine l) (t : Text) :
    parse (l ++ '\n' :: t) =
      if t = [] then ⟨[dropReturn l], true⟩
      else { parse t with lines := dropReturn l :: (parse t).lines } := by
  rw [parse_of_ne_nil (by simp), splitLines_append_break h,
    linesOfRows_cons l (splitLines_ne_nil t), List.getLast?_append]
  split
  · case isTrue ht => subst ht; rfl
  · case isFalse ht =>
    rw [parse_of_ne_nil ht, List.getLast?_cons, List.getLast?_eq_some_getLast ht]
    rfl

/-- A line without its return is a line. -/
theorem isLine_dropReturn {l : Text} (h : IsLine l) : IsLine (dropReturn l) := by
  unfold dropReturn
  split
  · exact fun hmem => h (List.dropLast_subset l hmem)
  · exact h

/-- A file read has at least one line. -/
theorem parse_lines_ne_nil (t : Text) : (parse t).lines ≠ [] := by
  unfold parse
  dsimp only
  split
  · exact List.cons_ne_nil _ _
  · assumption

/-- The lines read have no line feeds. -/
theorem isLine_of_mem_parse (t : Text) : ∀ l ∈ (parse t).lines, IsLine l := by
  induction t using lineInduction with
  | line l h => rw [parse_of_isLine h]; exact List.forall_mem_singleton.2 h
  | lineBreak l t h ih =>
    rw [parse_append_break h]
    split
    · exact List.forall_mem_singleton.2 (isLine_dropReturn h)
    · exact List.forall_mem_cons.2 ⟨isLine_dropReturn h, ih⟩

/-- What is read and written back has line feeds for line breaks. -/
theorem render_parse (t : Text) : (parse t).render = unixBreaks t := by
  induction t using lineInduction with
  | line l h => rw [parse_of_isLine h, unixBreaks_of_isLine h]; exact List.append_nil l
  | lineBreak l t h ih =>
    rw [parse_append_break h, unixBreaks_append_break h, ← ih]
    split
    · case isTrue ht => subst ht; rfl
    · rw [render, render, joinLines_cons _ (parse_lines_ne_nil t), List.append_assoc]
      rfl

end TextFile

/-! ## A run without keys -/

/-- Any text is read back from its own bytes. -/
theorem FileState.ofBytes_encode (t : Text) : ofBytes (Utf8.encode t) = .readable t := by
  rw [ofBytes, Utf8.decode?_encode]

/-- The script holds no keys: none is given, or an empty one, or a file of line breaks. -/
inductive Arguments.NoKeys (a : Arguments) (disk : Disk) : Prop
  | absent (hkeys : a.keys = none) (hfile : a.keysFile = none)
  | empty (hkeys : a.keys = some []) (hfile : a.keysFile = none)
  | breaks {path t : Text} (hkeys : a.keys = none) (hfile : a.keysFile = some path)
      (hread : disk.file path = .readable t) (ht : ∀ c ∈ t, c = '\r' ∨ c = '\n')

namespace Program

variable {a : Arguments} {disk : Disk}

/-- A key file of line breaks holds no keys. -/
theorem dropFinalBreaks_eq_nil {t : Text} (h : ∀ c ∈ t, c = '\r' ∨ c = '\n') :
    dropFinalBreaks t = [] := by
  rw [dropFinalBreaks, List.reverse_eq_nil_iff, List.dropWhile_eq_nil_iff]
  intro c hc
  simpa using h c (List.mem_reverse.1 hc)

/-- Without keys, the keys loaded are none. -/
theorem loadKeys_eq_nil (h : a.NoKeys disk) : loadKeys a disk = .ok [] := by
  cases h with
  | absent hkeys hfile => rw [loadKeys, hkeys, hfile]; rfl
  | empty hkeys hfile => rw [loadKeys, hkeys]; rfl
  | breaks hkeys hfile hread ht =>
    rw [loadKeys, hkeys, hfile]
    dsimp only
    rw [readFile, hread]
    change (KeyScript.parse (dropFinalBreaks _)).mapError _ = _
    rw [dropFinalBreaks_eq_nil ht]
    rfl

/-- Arguments without keys are consistent once they name a file. -/
theorem isConsistent_of_noKeys (hpath : a.path.isSome) (h : a.NoKeys disk) :
    a.isConsistent = true := by
  cases h <;> simp [Arguments.isConsistent, *]

/-- A readable file is loaded as its lines. -/
theorem loadFile_eq {path t : Text} (hpath : a.path = some path)
    (hread : disk.file path = .readable t) : loadFile a disk = .ok (.parse t) := by
  rw [loadFile, hpath]
  dsimp only
  rw [readFile, hread]
  rfl

/-- Lines are the same after no keys. -/
theorem typeKeys_nil (settings : Settings) {lines : List Text} (hne : lines ≠ [])
    (hlines : ∀ l ∈ lines, IsLine l) : typeKeys settings lines [] = (lines, []) :=
  congrArg (·, []) (splitLines_joinLines hne hlines)

/-- A run on a file of UTF-8 that types no keys succeeds. It writes the text with line feeds for line
breaks, or prints it, and then ends it by a line break if it has none at its end. -/
theorem run_unedited {path t : Text} (hpath : a.path = some path)
    (hfile : disk.file path = .ofBytes (Utf8.encode t)) (hkeys : a.NoKeys disk) :
    run a disk =
        (if a.write then { exit := 0, written := some (unixBreaks t) }
        else
          { exit := 0,
            output := unixBreaks t ++ if t.getLast? = some '\n' then [] else ['\n'] }) ∧
      (unixBreaks t).getLast? = t.getLast? := by
  have hread : disk.file path = .readable t := hfile.trans (FileState.ofBytes_encode t)
  have hedit : run a disk = edit a (loadSettings a disk).clamp (.parse t) [] := by
    rw [run, if_pos (isConsistent_of_noKeys (by rw [hpath]; rfl) hkeys), loadFile_eq hpath hread,
      loadKeys_eq_nil hkeys]
    rfl
  refine ⟨?_, getLast?_unixBreaks t⟩
  rw [hedit, edit, typeKeys_nil _ (TextFile.parse_lines_ne_nil t) (TextFile.isLine_of_mem_parse t)]
  dsimp only
  rw [TextFile.render_parse, List.flatMap_nil]
  simp only [TextFile.parse, beq_iff_eq]

/-- A file with both kinds of line break, a carriage return in a line and another at its end. The
script is a line break. -/
theorem run_unedited_mixed :
    let bytes := [0x61, 0x0D, 0x0A, 0xC3, 0xA9, 0x0D, 0x62, 0x0A, 0x0D]
    let t : Text := ['a', '\r', '\n', 'é', '\r', 'b', '\n', '\r']
    let disk : Disk :=
      { file := fun name => if name = ['d'] then .ofBytes bytes else .readable ['\r', '\n'] }
    let a : Arguments := { path := some ['d'], keysFile := some ['k'] }
    (a.path = some ['d'] ∧ disk.file ['d'] = .ofBytes (Utf8.encode t) ∧ a.NoKeys disk) ∧
      Program.run { a with write := true } disk =
        { exit := 0, written := some ['a', '\n', 'é', '\r', 'b', '\n', '\r'] } ∧
      Program.run a disk =
        { exit := 0, output := ['a', '\n', 'é', '\r', 'b', '\n', '\r', '\n'] } := by
  intro bytes t disk a
  have hfile : disk.file ['d'] = .ofBytes (Utf8.encode t) := by decide +kernel
  have hbreaks : ∀ c ∈ (['\r', '\n'] : Text), c = '\r' ∨ c = '\n' := by simp
  have hkeys (write : Bool) : { a with write }.NoKeys disk := .breaks rfl rfl rfl hbreaks
  exact ⟨⟨rfl, hfile, hkeys false⟩, (run_unedited rfl hfile (hkeys true)).1,
    (run_unedited rfl hfile (hkeys false)).1⟩

end Program

end ModalEditor
