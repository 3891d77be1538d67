import Mathlib.Data.List.DropRight
import ModalEditor.Register.Basic

/-!
# What registers recall

After yanks and deletions that name no register, or a letter, each register is known from the list of
these calls alone (`runCalls_recalls`): the latest yank, the nine latest large deletions, the latest
small one, and for a letter what was written to it since it was last replaced.

The list is read backwards. A call changes what is recalled under its own name and under the unnamed
register, and nothing else (`Recalls.apply`); the lemmas on histories say what one more call adds to
each part (`yanks_concat` and those behind it).
-/

namespace ModalEditor

namespace RegisterName

/-! ## Names -/

/-- The digits from `1` on name the deletions kept, newest first. -/
theorem ofChar?_digit {c : Char} (h : '1' ≤ c ∧ c ≤ '9') :
    ofChar? c = some (.deletion (c.toNat - '1'.toNat)) := by
  have hne (d : Char) (hd : ¬('1' ≤ d ∧ d ≤ '9')) : c ≠ d := fun heq => hd (heq ▸ h)
  rw [ofChar?, if_neg (hne _ (by decide)), if_neg (hne _ (by decide)), if_pos h]

/-- The names that are digits or signs stand before the letters, but for one. -/
theorem ofChar?_of_le {c : Char} (h : 'A' ≤ c) :
    ofChar? c =
      if 'a' ≤ c ∧ c ≤ 'z' then some (.letter c false)
      else if 'A' ≤ c ∧ c ≤ 'Z' then some (.letter c.toLower true)
      else if c = '_' then some .blackHole
      else none := by
  have hne (d : Char) (hd : ¬ 'A' ≤ d) : c ≠ d := fun heq => hd (heq ▸ h)
  have hdigit : ¬('1' ≤ c ∧ c ≤ '9') := fun hc => absurd (Char.le_trans h hc.2) (by decide)
  rw [ofChar?, if_neg (hne _ (by decide)), if_neg (hne _ (by decide)), if_neg hdigit,
    if_neg (hne _ (by decide)), if_neg (hne '.' (by decide))]

/-- A letter in either case names the register of its lower case; the upper case asks to append. -/
theorem ofChar?_isAlpha {c : Char} (hc : c.isAlpha = true) :
    ofChar? c = some (.letter c.toLower c.isUpper) := by
  by_cases hupper : c.isUpper = true
  · have h : 'A' ≤ c ∧ c ≤ 'Z' := of_decide_eq_true hupper
    have hlower : ¬('a' ≤ c ∧ c ≤ 'z') := fun hc => absurd (Char.le_trans hc.1 h.2) (by decide)
    rw [ofChar?_of_le h.1, if_neg hlower, if_pos h, hupper]
  · have hlower : c.isLower = true := (Bool.or_eq_true_iff.1 hc).resolve_left hupper
    have h : 'a' ≤ c ∧ c ≤ 'z' :=
      (Bool.and_eq_true_iff.1 hlower).imp of_decide_eq_true of_decide_eq_true
    have hsame : c.toLower = c := dif_neg fun h' => hupper (decide_eq_true h')
    rw [ofChar?_of_le (Char.le_trans (by decide) h.1), if_pos h, hsame, Bool.eq_false_iff.2 hupper]

/-- The name of a register is heard whole, or not at all. -/
theorem mapM_ofChar {c : Char} {name : RegisterName} (h : ofChar? c = some name) :
    (some c).mapM ofChar = Except.ok (some name) := by
  have hname : ofChar c = .ok name := by rw [ofChar, h]
  rw [Option.mapM_some, hname]
  rfl

end RegisterName

/-- The text is not one run of characters inside a line. -/
def RegisterContent.IsLarge (content : RegisterContent) : Prop :=
  content.kind ≠ .chars ∨ '\n' ∈ content.text

instance (content : RegisterContent) : Decidable content.IsLarge :=
  inferInstanceAs (Decidable (_ ∨ _))

/-- The size test that sends an unnamed deletion to the small register. -/
theorem RegisterContent.isSmall_iff {content : RegisterContent} :
    content.isSmall = true ↔ ¬ content.IsLarge := by
  simp [isSmall, IsLarge]

namespace Registers

/-- A yank or a deletion, with the register that it names. -/
inductive Call where
  | yank (target : Option Char) (content : RegisterContent)
  | delete (target : Option Char) (content : RegisterContent)

namespace Call

/-- The register that is named. -/
def target : Call → Option Char
  | yank target _ | delete target _ => target

/-- The text that is kept. -/
def content : Call → RegisterContent
  | yank _ content | delete _ content => content

/-- The registers after a call. -/
def apply (r : Registers) : Call → Except EditorError Registers
  | yank target content => r.yank target content
  | delete target content => r.delete target content

/-- No register is named, or a letter. -/
def IsPlain (c : Call) : Prop :=
  c.target.all Char.isAlpha = true

instance (c : Call) : Decidable c.IsPlain :=
  inferInstanceAs (Decidable (_ = true))

/-- What is yanked without naming a register. -/
def yanked? : Call → Option RegisterContent
  | yank none content => some content
  | _ => none

/-- What is deleted without naming a register. -/
def deleted? : Call → Option RegisterContent
  | delete none content => some content
  | _ => none

end Call

/-- The registers after one call after the other. The first one that fails ends the run. -/
def runCalls : List Call → Registers → Except EditorError Registers
  | [], r => .ok r
  | c :: calls, r => (c.apply r).bind (runCalls calls)

/-! ## What calls leave behind

The calls are in order, the latest one at the end. -/

/-- What was yanked without naming a register. -/
def yanks (calls : List Call) : List RegisterContent :=
  calls.filterMap Call.yanked?

/-- What was deleted without naming a register. -/
def deleted (calls : List Call) : List RegisterContent :=
  calls.filterMap Call.deleted?

/-- The deletions that go to `-`. -/
def smallDeletions (calls : List Call) : List RegisterContent :=
  (deleted calls).filter fun content => ¬ content.IsLarge

/-- The nine latest ones of the other deletions, the newest first. -/
def latestLarge (calls : List Call) : List RegisterContent :=
  ((deleted calls).filter fun content => content.IsLarge).reverse.take 9

/-- What was written to a letter, and whether the letter was given in upper case. -/
structure LetterWrite where
  append : Bool
  content : RegisterContent

/-- What a call writes to a letter. -/
def Call.letterWrite? (name : Char) (c : Call) : Option LetterWrite :=
  match c.target with
  | some t => if t.toLower = name then some ⟨t.isUpper, c.content⟩ else none
  | none => none

/-- What was written to a letter. -/
def letterWrites (name : Char) (calls : List Call) : List LetterWrite :=
  calls.filterMap (Call.letterWrite? name)

/-- The text behind what a letter held. Nothing is appended to an empty text. -/
def appendTo (held : Option RegisterContent) (w : LetterWrite) : RegisterContent :=
  match held with
  | some existing => if existing.text = [] then w.content else existing.append w.content
  | none => w.content

/-- What a letter holds: its last lower-case write, and behind it the upper-case ones since. -/
def letterHeld (ws : List LetterWrite) : Option RegisterContent :=
  (ws.rtakeWhile (·.append)).foldl (fun held w => some (appendTo held w))
    ((ws.rdropWhile (·.append)).getLast?.map (·.content))

/-- What the last call stored. -/
def lastStored (calls : List Call) : Option RegisterContent :=
  calls.getLast?.bind fun c =>
    match c.target with
    | some t => letterHeld (letterWrites t.toLower calls)
    | none => some c.content

/-- The registers hold what the calls left behind. -/
structure Recalls (r : Registers) (calls : List Call) : Prop where
  yanked : r.yanked = (yanks calls).getLast?
  deletions : r.deletions = latestLarge calls
  smallDeletion : r.smallDeletion = (smallDeletions calls).getLast?
  letters : ∀ name, r.letters.get? name = letterHeld (letterWrites name calls)
  unnamed : r.unnamed = lastStored calls

/-! ## One call more -/

/-- What the last call of a sequence adds to a filtered history. -/
theorem filterMap_concat {α : Type} (f : Call → Option α) (calls : List Call) (c : Call) :
    (calls ++ [c]).filterMap f = calls.filterMap f ++ (f c).toList := by
  rw [List.filterMap_append]
  cases hc : f c <;> simp [hc]

section Concat

variable (calls : List Call) {c : Call}

/-- A sequence's yanks grow by what its last call yanked. -/
theorem yanks_concat : yanks (calls ++ [c]) = yanks calls ++ c.yanked?.toList :=
  filterMap_concat _ calls c

/-- A call that yanks nothing leaves the yanks as they were. -/
theorem yanks_concat_of_none (hc : c.yanked? = none) : yanks (calls ++ [c]) = yanks calls := by
  rw [yanks_concat, hc, Option.toList_none, List.append_nil]

/-- A sequence's unnamed deletions grow by what its last call deleted. -/
theorem deleted_concat : deleted (calls ++ [c]) = deleted calls ++ c.deleted?.toList :=
  filterMap_concat _ calls c

/-- A call that deletes nothing, or names a register, leaves the deletions as they were. -/
theorem deletions_concat_of_none (hc : c.deleted? = none) :
    smallDeletions (calls ++ [c]) = smallDeletions calls ∧
      latestLarge (calls ++ [c]) = latestLarge calls := by
  have hdeleted : deleted (calls ++ [c]) = deleted calls := by
    rw [deleted_concat, hc, Option.toList_none, List.append_nil]
  rw [smallDeletions, latestLarge, hdeleted]
  exact ⟨rfl, rfl⟩

/-- A small deletion joins the small ones, and the large ones stay. -/
theorem deletions_concat_of_small {content : RegisterContent} (hc : c.deleted? = some content)
    (hsmall : ¬ content.IsLarge) :
    smallDeletions (calls ++ [c]) = smallDeletions calls ++ [content] ∧
      latestLarge (calls ++ [c]) = latestLarge calls := by
  simp [smallDeletions, latestLarge, deleted_concat, hc, hsmall]

/-- A large deletion comes first, and the last of nine is dropped. -/
theorem deletions_concat_of_large {content : RegisterContent} (hc : c.deleted? = some content)
    (hlarge : content.IsLarge) :
    smallDeletions (calls ++ [c]) = smallDeletions calls ∧
      latestLarge (calls ++ [c]) = content :: (latestLarge calls).take 8 := by
  simp [smallDeletions, latestLarge, deleted_concat, hc, hlarge, List.take_take]

/-- A call without a letter writes to no letter. -/
theorem letterWrites_concat_of_none (hc : c.target = none) (name : Char) :
    letterWrites name (calls ++ [c]) = letterWrites name calls := by
  have hwrite : c.letterWrite? name = none := by rw [Call.letterWrite?, hc]
  rw [letterWrites, filterMap_concat, hwrite, Option.toList_none, List.append_nil, letterWrites]

/-- A call with a letter writes to that letter alone, in its lower case. -/
theorem letterWrites_concat_of_some {t : Char} (hc : c.target = some t) (name : Char) :
    letterWrites name (calls ++ [c]) =
      letterWrites name calls ++ if t.toLower = name then [⟨t.isUpper, c.content⟩] else [] := by
  rw [letterWrites, filterMap_concat, Call.letterWrite?, hc, letterWrites]
  dsimp only
  split <;> rfl

/-- A call without a letter leaves its own content in the unnamed register. -/
theorem lastStored_concat_of_none (hc : c.target = none) :
    lastStored (calls ++ [c]) = some c.content := by
  simp [lastStored, hc]

/-- A call with a letter leaves in the unnamed register all that the letter then holds. -/
theorem lastStored_concat_of_some {t : Char} (hc : c.target = some t) :
    lastStored (calls ++ [c]) = letterHeld (letterWrites t.toLower (calls ++ [c])) := by
  simp [lastStored, hc]

end Concat

/-- A letter holds what its last write left: the new content, or the old with it appended. -/
theorem letterHeld_concat (ws : List LetterWrite) (w : LetterWrite) :
    letterHeld (ws ++ [w]) =
      some (if w.append then appendTo (letterHeld ws) w else w.content) := by
  cases happend : w.append with
  | true =>
    rw [letterHeld, List.rtakeWhile_concat_pos _ _ _ happend,
      List.rdropWhile_concat_pos _ _ _ happend, List.foldl_concat]
    rfl
  | false =>
    have hneg : ¬ w.append = true := by rw [happend]; exact Bool.false_ne_true
    rw [letterHeld, List.rtakeWhile_concat_neg _ _ _ hneg, List.rdropWhile_concat_neg _ _ _ hneg,
      List.getLast?_concat]
    rfl

/-- Storing under a letter is the same step as one more write of the history. -/
theorem mergeLetter_eq (r : Registers) (name : Char) (append : Bool) (content : RegisterContent) :
    r.mergeLetter name append content =
      if append then appendTo (r.letters.get? name) ⟨append, content⟩ else content := by
  unfold mergeLetter appendTo
  cases r.letters.get? name with
  | none => cases append <;> rfl
  | some existing => cases append <;> by_cases he : existing.text = [] <;>
      simp [RegisterContent.isEmpty, he]

namespace Recalls

variable {r : Registers} {calls : List Call} (h : r.Recalls calls)
include h

/-- An unnamed yank keeps the registers in step with the calls. -/
theorem yank_none (content : RegisterContent) :
    (r.storeUnnamed .yank content).Recalls (calls ++ [.yank none content]) where
  yanked := by rw [yanks_concat]; exact List.getLast?_concat.symm
  deletions := by rw [(deletions_concat_of_none calls rfl).2]; exact h.deletions
  smallDeletion := by rw [(deletions_concat_of_none calls rfl).1]; exact h.smallDeletion
  letters name := by rw [letterWrites_concat_of_none calls rfl]; exact h.letters name
  unnamed := (lastStored_concat_of_none calls (c := .yank none content) rfl).symm

/-- A small unnamed deletion keeps the registers in step with the calls. -/
theorem delete_none_small {content : RegisterContent} (hsmall : ¬ content.IsLarge) :
    (r.storeUnnamed .smallDeletion content).Recalls (calls ++ [.delete none content]) where
  yanked := by rw [yanks_concat_of_none calls rfl]; exact h.yanked
  deletions := by rw [(deletions_concat_of_small calls rfl hsmall).2]; exact h.deletions
  smallDeletion := by
    rw [(deletions_concat_of_small calls rfl hsmall).1]
    exact List.getLast?_concat.symm
  letters name := by rw [letterWrites_concat_of_none calls rfl]; exact h.letters name
  unnamed := (lastStored_concat_of_none calls (c := .delete none content) rfl).symm

/-- A large unnamed deletion moves every numbered register up by one. -/
theorem delete_none_large {content : RegisterContent} (hlarge : content.IsLarge) :
    (r.pushDeletion content).Recalls (calls ++ [.delete none content]) where
  yanked := by rw [yanks_concat_of_none calls rfl]; exact h.yanked
  deletions := by
    rw [(deletions_concat_of_large calls rfl hlarge).2, ← h.deletions]
    rfl
  smallDeletion := by
    rw [(deletions_concat_of_large calls rfl hlarge).1]
    exact h.smallDeletion
  letters name := by rw [letterWrites_concat_of_none calls rfl]; exact h.letters name
  unnamed := (lastStored_concat_of_none calls (c := .delete none content) rfl).symm

/-- A call with a letter keeps the registers in step with the calls. -/
theorem store_letter {c : Call} {t : Char} (ht : c.target = some t) :
    (r.storeUnnamed (.letter t.toLower t.isUpper) c.content).Recalls (calls ++ [c]) := by
  have hyanked : c.yanked? = none := by cases c <;> cases ht <;> rfl
  have hdeleted : c.deleted? = none := by cases c <;> cases ht <;> rfl
  -- what the letter holds afterwards, which the unnamed register takes over
  have hheld : letterHeld (letterWrites t.toLower (calls ++ [c])) =
      some (r.mergeLetter t.toLower t.isUpper c.content) := by
    rw [letterWrites_concat_of_some calls ht, if_pos rfl, letterHeld_concat, mergeLetter_eq,
      h.letters]
  refine ⟨?_, ?_, ?_, fun name => ?_, ?_⟩
  · rw [yanks_concat_of_none calls hyanked]
    exact h.yanked
  · rw [(deletions_concat_of_none calls hdeleted).2]
    exact h.deletions
  · rw [(deletions_concat_of_none calls hdeleted).1]
    exact h.smallDeletion
  · by_cases hname : t.toLower = name
    · subst hname
      rw [hheld]
      exact Named.get?_put_self _ _ _
    · rw [letterWrites_concat_of_some calls ht, if_neg hname, List.append_nil, ← h.letters]
      exact Named.get?_put_of_ne _ _ (Ne.symm hname)
  · rw [lastStored_concat_of_some calls ht, hheld]
    rfl

/-- A call that names no register or a letter succeeds, and adds to what is recalled. -/
theorem apply {c : Call} (hc : c.IsPlain) :
    ∃ r', c.apply r = .ok r' ∧ r'.Recalls (calls ++ [c]) := by
  cases htarget : c.target with
  | some t =>
    have ht : t.isAlpha = true := by rwa [Call.IsPlain, htarget] at hc
    have hname := RegisterName.mapM_ofChar (RegisterName.ofChar?_isAlpha ht)
    refine ⟨_, ?_, h.store_letter htarget⟩
    cases c with
    | yank target content => cases htarget; rw [Call.apply, Registers.yank, hname]; rfl
    | delete target content => cases htarget; rw [Call.apply, Registers.delete, hname]; rfl
  | none =>
    cases c with
    | yank target content =>
      cases htarget
      exact ⟨_, rfl, h.yank_none content⟩
    | delete target content =>
      cases htarget
      by_cases hlarge : content.IsLarge
      · refine ⟨_, ?_, h.delete_none_large hlarge⟩
        have hsmall : ¬ content.isSmall = true := fun hs =>
          RegisterContent.isSmall_iff.1 hs hlarge
        exact if_neg hsmall
      · exact ⟨_, if_pos (RegisterContent.isSmall_iff.2 hlarge), h.delete_none_small hlarge⟩

/-- Whole sequences of calls keep the registers in step, by induction on the calls to come. -/
theorem runCalls {later : List Call} (hcalls : ∀ c ∈ later, c.IsPlain) :
    ∃ r', runCalls later r = .ok r' ∧ r'.Recalls (calls ++ later) := by
  induction later generalizing r calls with
  | nil => exact ⟨r, rfl, by rwa [List.append_nil]⟩
  | cons c later ih =>
    obtain ⟨r₁, hfirst, hr₁⟩ := h.apply (hcalls c List.mem_cons_self)
    obtain ⟨r', hlater, hr'⟩ := ih hr₁ fun c' hc' => hcalls c' (List.mem_cons_of_mem _ hc')
    refine ⟨r', ?_, ?_⟩
    · rw [Registers.runCalls, hfirst]
      exact hlater
    · rwa [List.append_assoc] at hr'

/-- What the unnamed register gives, read off the calls. -/
theorem get_none : r.get none = .ok ((lastStored calls).getD .empty) := by
  rw [← h.unnamed]
  rfl

/-- What `"0` gives, read off the calls. -/
theorem get_yank : r.get (some '0') = .ok ((yanks calls).getLast?.getD .empty) := by
  rw [← h.yanked]
  rfl

/-- What `"-` gives, read off the calls. -/
theorem get_smallDeletion :
    r.get (some '-') = .ok ((smallDeletions calls).getLast?.getD .empty) := by
  rw [← h.smallDeletion]
  rfl

/-- What `"1` to `"9` give, read off the calls. -/
theorem get_deletion {c : Char} (hc : '1' ≤ c ∧ c ≤ '9') :
    r.get (some c) = .ok ((latestLarge calls)[c.toNat - '1'.toNat]?.getD .empty) := by
  rw [get, RegisterName.mapM_ofChar (RegisterName.ofChar?_digit hc), ← h.deletions]
  rfl

/-- What a letter's register gives, read off the calls. -/
theorem get_letter {c : Char} (hc : c.isAlpha = true) :
    r.get (some c) = .ok ((letterHeld (letterWrites c.toLower calls)).getD .empty) := by
  rw [get, RegisterName.mapM_ofChar (RegisterName.ofChar?_isAlpha hc), ← h.letters]
  rfl

end Recalls

/-- Registers that no call has touched. -/
theorem recalls_empty : Recalls {} [] :=
  ⟨rfl, rfl, rfl, fun _ => rfl, rfl⟩

/-- Calls that name no register, or a letter, succeed, and what every register gives afterwards is
known from them: `0` the latest yank without a name, `1` to `9` the latest large deletions without
a name, `-` the latest small one, a letter what was written to it since it was last replaced, and
the unnamed register what the last call stored. -/
theorem runCalls_recalls {calls : List Call} (hcalls : ∀ c ∈ calls, c.IsPlain) :
    ∃ r, runCalls calls {} = .ok r ∧
      r.get (some '0') = .ok ((yanks calls).getLast?.getD .empty) ∧
      r.deletions = latestLarge calls ∧
      (∀ c, '1' ≤ c ∧ c ≤ '9' →
        r.get (some c) = .ok ((latestLarge calls)[c.toNat - '1'.toNat]?.getD .empty)) ∧
      r.get (some '-') = .ok ((smallDeletions calls).getLast?.getD .empty) ∧
      (∀ c, c.isAlpha = true →
        r.get (some c) = .ok ((letterHeld (letterWrites c.toLower calls)).getD .empty)) ∧
      r.get none = .ok ((lastStored calls).getD .empty) := by
  obtain ⟨r, hrun, h⟩ := recalls_empty.runCalls hcalls
  exact ⟨r, hrun, h.get_yank, h.deletions, fun _ => h.get_deletion, h.get_smallDeletion,
    fun _ => h.get_letter, h.get_none⟩

/-- Two yanks, a letter that is replaced and then appended to, and a deletion of each size. -/
theorem runCalls_recalls_session :
    let k := RegisterContent.ofChars
    let calls : List Call :=
      [.yank none (k ['o']), .delete (some 'Q') (k ['p']), .yank (some 'q') (k ['a']),
        .delete none (.ofLines [['x']]), .delete none (k ['y']), .yank none (k ['n']),
        .delete none (.ofBlock [['u'], ['v']] 1), .delete (some 'Q') (.ofLines [['b']])]
    (∀ c ∈ calls, c.IsPlain) ∧
      ∃ r, runCalls calls {} = .ok r ∧ r.get (some '0') = .ok (k ['n']) ∧
        r.get (some '1') = .ok (.ofBlock [['u'], ['v']] 1) ∧
        r.get (some '2') = .ok (.ofLines [['x']]) ∧ r.get (some '3') = .ok .empty ∧
        r.get (some '-') = .ok (k ['y']) ∧
        r.get (some 'q') = .ok ⟨['a', '\n', 'b', '\n'], .lines⟩ ∧
        r.get none = .ok ⟨['a', '\n', 'b', '\n'], .lines⟩ := by
  intro k calls
  have hcalls : ∀ c ∈ calls, c.IsPlain := by decide
  obtain ⟨r, hrun, hyank, -, hdigit, hsmall, hletter, hunnamed⟩ := runCalls_recalls hcalls
  exact ⟨hcalls, r, hrun, hyank, hdigit '1' (by decide), hdigit '2' (by decide),
    hdigit '3' (by decide), hsmall, hletter 'q' (by decide), hunnamed⟩

end Registers

end ModalEditor
