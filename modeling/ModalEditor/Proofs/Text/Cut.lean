import ModalEditor.Proofs.Text.Boundary
import ModalEditor.Register.Content
import ModalEditor.Selection

/-!
# Cutting text

A line that is cut at two offsets is the three parts put together (`eq_take_slice_drop`), and lines
that are joined may be cut in any of them (`joinLines_append`). The part of a line in a rectangle
lies between clusters, so a position that is brought to a cluster boundary stays there
(`floorBoundary_of_parts`).
-/

namespace ModalEditor

/-! ## Texts -/

/-- The first bytes are a beginning of the text. -/
theorem takeBytes_isPrefix (l : Text) (n : Nat) : takeBytes l n <+: l :=
  ⟨_, takeBytes_append_dropBytes l n⟩

/-- Cutting at the size of a first part gives this part. -/
theorem takeBytes_append_byteSize (u v : Text) : takeBytes (u ++ v) (byteSize u) = u := by
  rw [takeBytes_append_of_le (Nat.le_refl _), takeBytes_eq_self_iff (Nat.le_refl _)]

/-- Cutting at the size of a first part leaves the second. -/
theorem dropBytes_append_byteSize (u v : Text) : dropBytes (u ++ v) (byteSize u) = v := by
  have hcut := takeBytes_append_dropBytes (u ++ v) (byteSize u)
  rw [takeBytes_append_byteSize] at hcut
  exact List.append_cancel_left hcut

/-- Cutting at the end takes the whole text. -/
theorem takeBytes_byteSize (l : Text) : takeBytes l (byteSize l) = l :=
  (takeBytes_eq_self_iff (Nat.le_refl _)).2 rfl

/-- Nothing is left behind the end. -/
theorem dropBytes_byteSize (l : Text) : dropBytes l (byteSize l) = [] := by
  have hnone := dropBytes_append_byteSize l []
  rwa [List.append_nil] at hnone

/-- A character goes to the first line, whatever lines follow. -/
theorem consToFirst_append (c : Char) {ls : List Text} (h : ls ≠ []) (ms : List Text) :
    consToFirst c (ls ++ ms) = consToFirst c ls ++ ms := by
  obtain ⟨l, rest, rfl⟩ := List.exists_cons_of_ne_nil h
  rfl

/-- The rows of two texts with a line break between them. -/
theorem splitLines_append_cons_break (s t : Text) :
    splitLines (s ++ '\n' :: t) = splitLines s ++ splitLines t := by
  induction s with
  | nil => exact if_pos rfl
  | cons c s ih =>
    rw [List.cons_append, splitLines, splitLines, ih]
    split
    · rfl
    · exact consToFirst_append c (splitLines_ne_nil s) _

/-- Where no line break stands between two texts, two rows become one. -/
theorem length_splitLines_append (s t : Text) :
    (splitLines (s ++ t)).length + 1 = (splitLines s).length + (splitLines t).length := by
  obtain ⟨front, last, first, rest, hs, ht, hst⟩ := splitLines_append s t
  rw [hs, ht, hst]
  simp only [List.length_append, List.length_cons, List.length_nil]
  omega

/-- Joined lines are cut in one of them. -/
theorem joinLines_append (before : List Text) (l r : Text) (behind : List Text) :
    joinLines (before ++ (l ++ r) :: behind) =
      before.flatMap (· ++ ['\n']) ++ l ++ joinLines (r :: behind) := by
  induction before with
  | nil =>
    cases behind with
    | nil => rfl
    | cons m behind => simp [joinLines]
  | cons a before ih =>
    -- the lines still to come are at least the one that is split
    obtain ⟨m, ms, hcons⟩ := List.exists_cons_of_ne_nil
      (List.append_ne_nil_of_right_ne_nil before (List.cons_ne_nil (l ++ r) behind))
    rw [hcons] at ih
    rw [List.cons_append, hcons, joinLines, ih, List.flatMap_cons]
    simp only [List.append_assoc, List.cons_append, List.nil_append]

/-- A text's last line stands bare, the others with their breaks. -/
theorem joinLines_concat (front : List Text) (l : Text) :
    joinLines (front ++ [l]) = front.flatMap (· ++ ['\n']) ++ l := by
  have hjoin := joinLines_append front l [] []
  rwa [List.append_nil, joinLines, List.append_nil] at hjoin

/-- The lines of a text, with the last of them apart. -/
theorem splitLines_eq_concat_iff {t l : Text} {front : List Text} :
    splitLines t = front ++ [l] ↔
      (∀ m ∈ front, IsLine m) ∧ IsLine l ∧ t = front.flatMap (· ++ ['\n']) ++ l := by
  constructor
  · intro h
    have hlines (m : Text) (hm : m ∈ front ++ [l]) : IsLine m := isLine_of_mem_splitLines (h ▸ hm)
    refine ⟨fun m hm => hlines m (List.mem_append_left _ hm), hlines l (by simp), ?_⟩
    rw [← joinLines_concat, ← h, joinLines_splitLines]
  · rintro ⟨hfront, hl, rfl⟩
    rw [← joinLines_concat]
    refine splitLines_joinLines (by simp) fun m hm => ?_
    rcases List.mem_append.1 hm with hm | hm
    · exact hfront m hm
    · rwa [List.mem_singleton.1 hm]

/-- Every text has a last line. -/
theorem exists_splitLines_eq (t : Text) : ∃ front l, splitLines t = front ++ [l] :=
  ⟨_, _, (List.dropLast_concat_getLast (splitLines_ne_nil t)).symm⟩

/-- The first line is the beginning of the text. -/
theorem joinLines_cons_eq_append (l : Text) (behind : List Text) :
    joinLines (l :: behind) = l ++ joinLines ([] :: behind) := by
  have hjoin := joinLines_append [] l [] behind
  rwa [List.append_nil] at hjoin

/-- The lines of a text, joined with others. -/
theorem joinLines_splitLines_append (before : List Text) (t : Text) (behind : List Text) :
    joinLines (before ++ splitLines t ++ behind) =
      before.flatMap (· ++ ['\n']) ++ t ++ joinLines ([] :: behind) := by
  obtain ⟨front, last, hrows⟩ := exists_splitLines_eq t
  have hall := joinLines_append (before ++ front) last [] behind
  obtain ⟨-, -, ht⟩ := splitLines_eq_concat_iff.1 hrows
  rw [List.append_nil] at hall
  rw [hrows, List.append_assoc, List.append_assoc, List.singleton_append, ← List.append_assoc, hall,
    List.flatMap_append, ht]
  simp only [List.append_assoc]

/-- Lines that are each ended by a line break. -/
theorem flatMap_break {ls : List Text} (hls : ls ≠ []) :
    ls.flatMap (· ++ ['\n']) = joinLines ls ++ ['\n'] := by
  obtain ⟨init, last, rfl⟩ : ∃ init last, ls = init ++ [last] :=
    ⟨ls.dropLast, ls.getLast hls, (List.dropLast_concat_getLast hls).symm⟩
  rw [joinLines_concat, List.flatMap_append, List.flatMap_singleton, List.append_assoc]

/-- What is left behind an offset is cut at a later one. -/
theorem dropBytes_eq_append {l : Text} {first past : Nat} (hfirst : isCharBoundary l first = true)
    (hle : first ≤ past) : dropBytes l first = sliceBytes l first past ++ dropBytes l past := by
  have hdrop : dropBytes (dropBytes l first) (past - first) = dropBytes l past := by
    induction l generalizing first past with
    | nil => rfl
    | cons c cs ih =>
      have hpos := c.utf8Size_pos
      cases first with
      -- a cut inside the first character is no boundary, so this case takes the character whole
      | zero => rw [dropBytes, if_neg (by omega), Nat.sub_zero]
      | succ n =>
        rw [isCharBoundary, Bool.and_eq_true, decide_eq_true_iff] at hfirst
        rw [dropBytes, if_pos hfirst.1, dropBytes, if_pos (by omega),
          ← ih hfirst.2 (Nat.sub_le_sub_right hle _)]
        congr 1
        omega
  rw [sliceBytes, ← hdrop, takeBytes_append_dropBytes]

/-- A line is the parts in front of, between and behind two offsets. -/
theorem eq_take_slice_drop {l : Text} {first past : Nat} (hfirst : isCharBoundary l first = true)
    (hle : first ≤ past) :
    l = takeBytes l first ++ sliceBytes l first past ++ dropBytes l past := by
  rw [List.append_assoc, ← dropBytes_eq_append hfirst hle, takeBytes_append_dropBytes]

/-- A stretch of a line is a line. -/
theorem isLine_sliceBytes {l : Text} (hl : IsLine l) (first past : Nat) :
    IsLine (sliceBytes l first past) :=
  fun h => hl (mem_of_mem_dropBytes (mem_of_mem_takeBytes h))

/-! ## Rectangles on a line -/

/-- An end of a cluster is its own floor. -/
theorem floorIn_of_parts {gs : List Cluster} (hgs : ∀ g ∈ gs, g ≠ []) {n : Nat}
    (hn : Parts gs n) : floorIn gs n = n := by
  induction gs generalizing n with
  | nil =>
    obtain ⟨before, behind, heq, rfl⟩ := hn
    rw [(List.append_eq_nil_iff.1 heq.symm).1]
    rfl
  | cons g gs ih =>
    obtain ⟨before, behind, heq, rfl⟩ := hn
    cases before with
    | nil => exact if_pos (byteSize_pos (hgs g List.mem_cons_self))
    | cons g' before =>
      obtain ⟨rfl, rfl⟩ := List.cons.inj heq
      rw [List.flatten_cons, byteSize_append, floorIn, if_neg (by omega), Nat.add_sub_cancel_left,
        ih (fun g hg => hgs g (List.mem_cons_of_mem _ hg)) ⟨before, behind, rfl, rfl⟩]

/-- An end of a cluster is a boundary as it stands. -/
theorem floorBoundary_of_parts {l : Text} {n : Nat} (hn : Parts (clusters l) n) :
    floorBoundary l n = n :=
  floorIn_of_parts (fun _ hg => clusters_ne_nil hg) hn

/-- A block starts at the end of a cluster. -/
theorem parts_blockStart (gs : List Cluster) (left right : Nat) :
    Parts gs (blockStart gs left right) := by
  induction gs generalizing left right with
  | nil => exact parts_zero []
  | cons g gs ih =>
    rw [blockStart]
    split
    · exact parts_zero (g :: gs)
    · split
      · exact ⟨g :: gs, [], (List.append_nil _).symm, rfl⟩
      · exact (ih _ _).cons g

/-- A block ends at the end of a cluster. -/
theorem parts_blockEnd (gs : List Cluster) (right : Nat) : Parts gs (blockEnd gs right) := by
  induction gs generalizing right with
  | nil => exact parts_zero []
  | cons g gs ih =>
    rw [blockEnd]
    split
    · exact parts_zero (g :: gs)
    · exact (ih _).cons g

/-- The part of a line in a rectangle begins and ends between clusters. -/
theorem parts_blockBytes (l : Text) (left right : Nat) :
    Parts (clusters l) (blockBytes l left right).1 ∧
      Parts (clusters l) (blockBytes l left right).2 ∧
      (blockBytes l left right).1 ≤ (blockBytes l left right).2 := by
  have hstart := parts_blockStart (clusters l) left right
  refine ⟨hstart, ?_, Nat.le_max_left _ _⟩
  rcases Nat.le_total (blockStart (clusters l) left right) (blockEnd (clusters l) right)
    with hle | hle
  · rw [blockBytes, Nat.max_eq_right hle]
    exact parts_blockEnd (clusters l) right
  · rw [blockBytes, Nat.max_eq_left hle]
    exact hstart

/-- A line without its part in a rectangle. -/
def outsideBlock (l : Text) (left right : Nat) : Text :=
  takeBytes l (blockBytes l left right).1 ++ dropBytes l (blockBytes l left right).2

/-! ## What registers hold -/

namespace RegisterContent

/-- Content has at least one row. -/
theorem rows_ne_nil (content : RegisterContent) : content.rows ≠ [] := by
  unfold rows
  split
  · exact splitLines_ne_nil _
  · exact splitLines_ne_nil _

/-- The rows of content are lines. -/
theorem isLine_of_mem_rows (content : RegisterContent) {l : Text} (hl : l ∈ content.rows) :
    IsLine l := by
  unfold rows at hl
  split at hl
  · exact isLine_of_mem_splitLines hl
  · exact isLine_of_mem_splitLines hl

/-- Whole lines are read back. -/
theorem rows_ofLines {ls : List Text} (hne : ls ≠ []) (hls : ∀ l ∈ ls, IsLine l) :
    (ofLines ls).rows = ls := by
  rw [ofLines, rows, flatMap_break hne, dropFinalBreak, if_pos List.getLast?_concat,
    List.dropLast_concat, splitLines_joinLines hne hls]

/-- The rows of a rectangle are read back. -/
theorem rows_ofBlock {ls : List Text} (hne : ls ≠ []) (hls : ∀ l ∈ ls, IsLine l) (width : Nat) :
    (ofBlock ls width).rows = ls :=
  splitLines_joinLines hne hls

end RegisterContent

end ModalEditor
