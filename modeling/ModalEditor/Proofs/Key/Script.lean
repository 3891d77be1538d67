import ModalEditor.Key.Script

/-!
# Key scripts name keys

A script that is written from keys is read back as the same keys, if every one of them can be named
at all (`parse_display_iff`). Two kinds of keys cannot: nothing is written for shift, and a chord on
`>` would end its group too early.

The display form of a key is read back whatever text follows it (`parseFrom_display`), so what a
script names does not depend on which keys stand next to each other.
-/

namespace ModalEditor

namespace Key

/-- The key is a chord on the character that ends a group. -/
def ChordsOnClose (k : Key) : Prop :=
  k.code = .char '>' ∧ (k.ctrl = true ∨ k.alt = true)

/-- The key can be named in a script. -/
structure Nameable (k : Key) : Prop where
  shift : k.shift = false
  close : ¬ k.ChordsOnClose

/-- What a script names of a key. -/
def unshifted (k : Key) : Key :=
  { k with shift := false }

/-- Without shift, a key is its own unshifted form. -/
theorem unshifted_eq_self {k : Key} : k.unshifted = k ↔ k.shift = false := by
  obtain ⟨code, ctrl, alt, shift⟩ := k
  simp [unshifted, eq_comm]

/-- The modifiers in front of the name of a key. -/
def modifiers (k : Key) : Text :=
  (if k.ctrl then ['C', '-'] else []) ++ if k.alt then ['A', '-'] else []

/-! ## Display forms -/

/-- A character is its own name, except for the two that have a word. -/
theorem codeName_char {c : Char} (hopen : c ≠ '<') (hspace : c ≠ ' ') :
    codeName (.char c) = [c] := by
  unfold codeName
  split <;> simp_all

/-- A key that is displayed as a bare character is that character. -/
theorem unshifted_of_isBare {k : Key} (hk : k.isBare = true) :
    ∃ c, c ≠ '<' ∧ k.unshifted = .ofChar c ∧ k.display = [c] := by
  obtain ⟨code, ctrl, alt, shift⟩ := k
  cases code with
  | char c =>
    simp only [isBare, Bool.and_eq_true, bne_iff_ne, Bool.not_eq_true'] at hk
    obtain ⟨⟨⟨hopen, hspace⟩, rfl⟩, rfl⟩ := hk
    refine ⟨c, hopen, rfl, ?_⟩
    rw [← codeName_char hopen hspace]
    simp [display, isBare, hopen, hspace]
  | _ => cases hk

/-- A key that is not bare is written between angle brackets. -/
theorem display_of_not_isBare {k : Key} (hk : k.isBare = false) :
    k.display = '<' :: (k.modifiers ++ codeName k.code) ++ ['>'] := by
  simp [display, hk, modifiers]

/-- A chord on `>` cannot be written so that it is read back. -/
theorem chordsOnClose_of_not_isBare {k : Key} (hk : k.isBare = false) (hcode : k.code = .char '>') :
    k.ChordsOnClose := by
  refine ⟨hcode, ?_⟩
  cases hctrl : k.ctrl with
  | true => exact .inl rfl
  | false => simpa [isBare, hcode, hctrl] using hk

/-- Every key has a name. -/
theorem codeName_ne_nil (code : KeyCode) : codeName code ≠ [] := by
  unfold codeName
  split <;> exact nofun

/-- Every key is displayed as something. -/
theorem display_ne_nil (k : Key) : k.display ≠ [] := by
  unfold display
  split
  · exact codeName_ne_nil k.code
  · exact nofun

/-- No modifier's mark closes the brackets. -/
theorem close_not_mem_modifiers (k : Key) : '>' ∉ k.modifiers := by
  unfold modifiers
  cases k.ctrl <;> cases k.alt <;> decide

/-- A name holds the end of a group only if it is the name of that character. -/
theorem close_not_mem_name {k : Key} (hk : k.code ≠ .char '>') :
    '>' ∉ k.modifiers ++ codeName k.code := by
  have hname : '>' ∉ codeName k.code := by
    unfold codeName
    split
    case h_3 c _ _ heq =>
      rw [List.mem_singleton]
      rintro rfl
      exact hk heq
    all_goals decide
  exact fun h => (List.mem_append.1 h).elim (close_not_mem_modifiers k) hname

end Key

namespace KeyScript

open Key

/-! ## Names and modifiers -/

/-- No key has a single letter for its name. -/
theorem namedCode?_singleton (c : Char) : namedCode? [c] = none := by
  have hlength {s : String} (h : String.ofList ([c].map Char.toLower) = s) : s.length = 1 := by
    rw [← h, List.map_singleton, String.length_ofList, List.length_singleton]
  unfold namedCode?
  split
  case h_17 => rfl
  all_goals (rename_i h; exact absurd (hlength h) (by decide))

/-- The modifiers of a key are read off in front of its name. -/
theorem ofModified_modifiers (k : Key) {name : Text} (hname : name ≠ []) :
    ofModified (.ofCode .escape) (k.modifiers ++ name) =
      ofModified { code := .escape, ctrl := k.ctrl, alt := k.alt } name := by
  obtain ⟨c, rest, rfl⟩ := List.exists_cons_of_ne_nil hname
  obtain ⟨code, ctrl, alt, shift⟩ := k
  cases ctrl <;> cases alt <;> rfl

/-- A bare character needs a modifier to stand in a group, a name does not. -/
theorem ofModified_codeName {k : Key} (hk : k.isBare = false) :
    ofModified { code := .escape, ctrl := k.ctrl, alt := k.alt } (codeName k.code) =
      some k.unshifted := by
  obtain ⟨code, ctrl, alt, shift⟩ := k
  cases code with
  | char c =>
    by_cases hopen : c = '<'
    · subst hopen; rfl
    by_cases hspace : c = ' '
    · subst hspace; rfl
    have hheld : (ctrl || alt) = true := by
      cases ctrl with
      | true => rfl
      | false => simpa [isBare, hopen, hspace] using hk
    rw [codeName_char hopen hspace, ofModified, withName, namedCode?_singleton]
    · simp [hheld, unshifted]
    · simp
  | _ => rfl

/-- Modifiers alone name no key. -/
theorem ofGroup_modifiers (k : Key) :
    ofGroup k.modifiers = .error (.unknownName k.modifiers) := by
  obtain ⟨code, ctrl, alt, shift⟩ := k
  cases ctrl <;> cases alt <;> rfl

/-! ## One key -/

/-- A group is read up to its end. -/
theorem parseFrom_group {group : Text} (hgroup : '>' ∉ group) (start n : Nat)
    (before tail : Text) :
    parseFrom (some (start, before)) n (group ++ '>' :: tail) =
      match ofGroup (before.reverse ++ group) with
      | .ok k => (parseFrom none (n + byteSize group + 1) tail).map (k :: ·)
      | .error e => .error e := by
  induction group generalizing n before with
  | nil => rw [List.nil_append, parseFrom, if_pos rfl, List.append_nil]; rfl
  | cons c group ih =>
    rw [List.mem_cons, not_or] at hgroup
    rw [List.cons_append, parseFrom, if_neg (Ne.symm hgroup.1), ih hgroup.2, List.reverse_cons,
      List.append_assoc, byteSize_cons, Nat.add_assoc n]
    rfl

/-- The display form of a key is read back, whatever follows it. -/
theorem parseFrom_display {k : Key} (hk : ¬ k.ChordsOnClose) (n : Nat) (tail : Text) :
    parseFrom none n (k.display ++ tail) =
      (parseFrom none (n + byteSize k.display) tail).map (k.unshifted :: ·) := by
  by_cases hbare : k.isBare = true
  · obtain ⟨c, hc, hkey, hdisplay⟩ := unshifted_of_isBare hbare
    rw [hkey, hdisplay, List.singleton_append, parseFrom, if_neg hc]
    rfl
  · rw [Bool.not_eq_true] at hbare
    have hcode : k.code ≠ .char '>' := fun h => hk (chordsOnClose_of_not_isBare hbare h)
    have hgroup : ofGroup (k.modifiers ++ codeName k.code) = .ok k.unshifted := by
      rw [ofGroup, ofModified_modifiers k (codeName_ne_nil _), ofModified_codeName hbare]
    have hsize : n + byteSize k.display =
        n + '<'.utf8Size + byteSize (k.modifiers ++ codeName k.code) + 1 := by
      rw [display_of_not_isBare hbare, List.cons_append, byteSize_cons,
        byteSize_append (k.modifiers ++ codeName k.code), ← Nat.add_assoc, ← Nat.add_assoc]
      rfl
    rw [hsize, display_of_not_isBare hbare, List.cons_append, List.cons_append, List.append_assoc,
      List.singleton_append, parseFrom, if_pos rfl, parseFrom_group (close_not_mem_name hcode),
      List.reverse_nil, List.nil_append, hgroup]

/-- A chord on the character that ends a group is not read back. -/
theorem parseFrom_display_of_chordsOnClose {k : Key} (hk : k.ChordsOnClose) (n : Nat)
    (tail : Text) :
    parseFrom none n (k.display ++ tail) = .error (.unknownName k.modifiers) := by
  have hbare : k.isBare = false := by
    rcases hk with ⟨hcode, hctrl | halt⟩
    · simp [isBare, hcode, hctrl]
    · simp [isBare, hcode, halt]
  have hname : codeName k.code = ['>'] := by rw [hk.1]; rfl
  rw [display_of_not_isBare hbare, hname, List.cons_append, List.cons_append, List.append_assoc,
    List.append_assoc, List.singleton_append, parseFrom, if_pos rfl,
    parseFrom_group (close_not_mem_modifiers k), List.reverse_nil, List.nil_append,
    ofGroup_modifiers]

/-! ## All keys of a script -/

/-- A script is read back exactly when each of its keys can be named. -/
theorem parseFrom_display_iff (n : Nat) (keys : List Key) :
    parseFrom none n (display keys) = .ok keys ↔ ∀ k ∈ keys, k.Nameable := by
  induction keys generalizing n with
  | nil => simp [display, parseFrom]
  | cons k keys ih =>
    rw [List.forall_mem_cons, display, List.flatMap_cons]
    by_cases hclose : k.ChordsOnClose
    · rw [parseFrom_display_of_chordsOnClose hclose]
      exact ⟨nofun, fun h => absurd hclose h.1.close⟩
    · have hnameable : k.Nameable ↔ k.unshifted = k :=
        ⟨fun h => unshifted_eq_self.2 h.shift, fun h => ⟨unshifted_eq_self.1 h, hclose⟩⟩
      rw [parseFrom_display hclose, ← ih (n + byteSize k.display), display, hnameable]
      cases parseFrom none (n + byteSize k.display) (keys.flatMap Key.display) with
      | error e => exact ⟨nofun, fun h => nomatch h.2⟩
      | ok read => simp only [Except.map, Except.ok.injEq, List.cons.injEq]

/-- **Key scripts are read back.** The script that is written from keys names just these keys, if
and only if none of them has shift held, or is a chord on `>`. -/
theorem parse_display_iff (keys : List Key) :
    parse (display keys) = .ok keys ↔ ∀ k ∈ keys, k.Nameable :=
  parseFrom_display_iff 0 keys

end KeyScript

end ModalEditor
