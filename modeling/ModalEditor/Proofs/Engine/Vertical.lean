import ModalEditor.Proofs.Command.Grammar
import ModalEditor.Proofs.Editor.Aim
import ModalEditor.Proofs.Engine.Typed

/-!
# Down and up again

Whatever keys and commands came before, the sticky column leads to the cursor while no text is typed
(`Reachable.aiming`). A step of `n` lines down and one of `n` lines up aim for the same column, so
they bring the cursor back to where it was, whatever lines are in between (`Reachable.down_up`).
-/

namespace ModalEditor

open Grammar (Spells Numeral)

/-! ## The invariant -/

namespace Engine

theorem Sound.feed_aiming {engine : Engine} (h : engine.Sound) (haiming : engine.editor.Aiming)
    (i : Input) : (engine.feed i).1.editor.Aiming := by
  refine feed_editor haiming (fun k a _ hread => ?_) fun command => ?_
  · obtain ⟨hfits, -⟩ := (KeyReader.read_fits h.reader k).1 a hread
    have hact := EditorM.perform_aiming h.healthy haiming hfits
    exact (Editor.dispatch_cases hact).elim (·.2) (·.2)
  · have hex := EditorM.runEx_aiming haiming command
    exact (EditorM.observe_cases hex).elim (·.2) (·.2)

theorem Sound.run_aiming {engine : Engine} (h : engine.Sound) (haiming : engine.editor.Aiming)
    (inputs : List Input) : (engine.run inputs).1.editor.Aiming := by
  induction inputs generalizing engine with
  | nil => exact haiming
  | cons i inputs ih => exact ih (h.feed i).sound (h.feed_aiming haiming i)

/-- After any inputs, the sticky column leads to the cursor while no text is typed. -/
theorem Reachable.aiming {engine : Engine} (h : engine.Reachable) : engine.editor.Aiming := by
  obtain ⟨b, settings, inputs, rfl⟩ := h
  exact (sound_ofBuffer b settings).run_aiming (.of_aims (Document.aims_of_none rfl)) inputs

end Engine

/-! ## Reading a counted step -/

namespace Pending

/-- The key of a vertical motion completes it, in the normal and in the visual mode. -/
theorem step_vertical {bound : Nat} {visual : Bool} {p : Pending} {k : Key} {c : Char} {m : Motion}
    (hp : p.awaiting = none) (hop : p.operator = none) (hk : k.StandsFor c)
    (hc : c = 'j' ∧ m = .down ∨ c = 'k' ∧ m = .up) :
    p.step bound visual k = .done (.motion m p.count) := by
  have hkey : (if visual then p.visualKey bound c k else p.normalKey bound c k) =
      p.finishMotion bound m := by
    rcases hc with ⟨rfl, rfl⟩ | ⟨rfl, rfl⟩
    · cases visual <;> rfl
    · cases visual <;> rfl
  have hplain : c.isDigit = false ∧ c ≠ '\x22' := by
    rcases hc with ⟨rfl, -⟩ | ⟨rfl, -⟩
    · decide
    · decide
  rw [step_of_standsFor hp hk, charKey_other (.inl hplain.1) hplain.2, hop]
  simp only [hkey, finishMotion, hop]

end Pending

namespace Engine

variable {engine : Engine}

/-- The digits of a count are read, and nothing else happens. -/
theorem run_digits (hmode : engine.editor.mode = .normal ∨ engine.editor.mode.isVisual = true)
    (hp : engine.reader.pending.awaiting = none) {keys : List Key} {ds : List Char}
    (hkeys : Spells keys ds) (hdigits : ∀ d ∈ ds, d.isDigit = true)
    (hleading : ds.head? ≠ some '0' ∨ engine.reader.pending.isCounting = true) :
    ∃ typed, (engine.run (keys.map .key)).1 = { engine with
      reader := { engine.reader with
        pending := engine.reader.pending.pushDigits engine.reader.bound ds
        typed } } := by
  induction hkeys generalizing engine with
  | nil => exact ⟨engine.reader.typed, rfl⟩
  | @cons k d keys ds hk _ ih =>
    have hfirst : d ≠ '0' ∨ engine.reader.pending.isCounting = true :=
      hleading.imp_left fun h heq => h (congrArg some heq)
    let r : KeyReader := { engine.reader with
      pending := engine.reader.pending.pushDigit engine.reader.bound d
      typed := engine.reader.typed ++ k.display }
    have hread : engine.reader.read engine.editor.mode k = (r, none) := by
      rw [KeyReader.read_of_command hmode, KeyReader.readCommand, Pending.step_of_standsFor hp hk,
        Pending.charKey_digit (hdigits d List.mem_cons_self) hfirst]
    have hfed : (engine.feed (.key k)).1 = { engine with reader := r } := by
      simp only [feed, handleKey, hread]
    obtain ⟨typed, hrun⟩ := @ih { engine with reader := r } hmode
      (Pending.pushDigit_awaiting.trans hp) (fun c hc => hdigits c (List.mem_cons_of_mem d hc))
      (.inr Pending.pushDigit_isCounting)
    refine ⟨typed, ?_⟩
    show ((engine.feed (.key k)).1.run (keys.map .key)).1 = _
    rw [hfed, hrun]
    rfl

/-- A numeral and the key of a vertical motion move the cursor that far. -/
theorem run_vertical (hmode : engine.editor.mode = .normal ∨ engine.editor.mode.isVisual = true)
    (hidle : engine.reader.pending = {}) {digits : List Key} {n : Numeral}
    (hdigits : Spells digits n.digits) {k : Key} {c : Char} {m : Motion} (hk : k.StandsFor c)
    (hc : c = 'j' ∧ m = .down ∨ c = 'k' ∧ m = .up) {landing : Landing}
    (hland : m.land engine.editor.document (Pending.kept engine.reader.bound n)
      engine.editor.lastFind false = .ok landing) :
    (engine.run ((digits ++ [k]).map .key)).1 =
      { editor := engine.editor.landOn m landing, reader := engine.reader.reset } := by
  obtain ⟨typed, hrun⟩ := run_digits hmode (by rw [hidle]) hdigits n.isDigit (.inl n.leading)
  have hpending : engine.reader.pending.pushDigits engine.reader.bound n.digits =
      { count := Pending.kept engine.reader.bound n } := by
    rw [hidle, Pending.pushDigits_of_none rfl]
    rfl
  rw [hpending] at hrun
  -- the key behind the numeral is read as the motion, with the count that the digits made
  let r : KeyReader := { engine.reader with
    pending := { count := Pending.kept engine.reader.bound n }
    typed }
  have hread : r.read engine.editor.mode k =
      (engine.reader.reset, some (.motion m (Pending.kept engine.reader.bound n))) := by
    rw [KeyReader.read_of_command hmode, KeyReader.readCommand, Pending.step_vertical rfl rfl hk hc]
    rfl
  have hfind : EditorM.noteFind m = pure () := by
    rcases hc with ⟨-, rfl⟩ | ⟨-, rfl⟩
    · rfl
    · rfl
  have hperform : EditorM.perform (.motion m (Pending.kept engine.reader.bound n)) engine.editor =
      .ok () (engine.editor.landOn m landing) := by
    apply EditorM.Ensures.eq_ok
    refine EditorM.ensures_bind.2 ?_
    rw [hfind]
    refine EditorM.ensures_bind.2 (EditorM.ensures_get.2 ?_)
    refine EditorM.ensures_bind.2 (EditorM.ensures_ofExcept.2 ?_)
    rw [hland]
    exact ⟨rfl, rfl⟩
  rw [List.map_append, run_append, hrun]
  show (handleKey { engine with reader := r } k).1 = _
  rw [handleKey_of_read hread, (Editor.dispatch_of_ok hperform).1]

end Engine

/-! ## Where a counted step lands -/

section Landing

variable {d : Document} {count : Option Nat} {lastFind : Option Find} {n : Nat}

theorem Motion.land_down (hcount : max (count.getD 1) 1 = n) (hn : 1 ≤ n)
    (hrow : d.cursor.row + n ≤ d.lastRow) :
    Motion.down.land d count lastFind false = .ok {
      place := ⟨d.cursor.row + n, d.buffer.offsetOfWanted (d.cursor.row + n) d.wantedColumn false⟩
      sticky := some d.wantedColumn } := by
  have hlast : ¬ d.buffer.lastRow ≤ d.cursor.row := by
    rw [Document.lastRow] at hrow
    omega
  simp only [Motion.land, hcount, Buffer.down, if_neg hlast,
    Nat.min_eq_left (show d.cursor.row + n ≤ d.buffer.lastRow from hrow), landAt]

theorem Motion.land_up (hcount : max (count.getD 1) 1 = n) (hn : 1 ≤ n) (hrow : n ≤ d.cursor.row) :
    Motion.up.land d count lastFind false = .ok {
      place := ⟨d.cursor.row - n, d.buffer.offsetOfWanted (d.cursor.row - n) d.wantedColumn false⟩
      sticky := some d.wantedColumn } := by
  have hfirst : ¬ d.cursor.row = 0 := by omega
  simp only [Motion.land, hcount, Buffer.up, if_neg hfirst, landAt]

/-- A vertical step leaves the cursor where the column leads, and the column as the sticky one. -/
theorem Editor.landOn_vertical (e : Editor) {m : Motion} (hm : m.isJump = false) {row : Nat}
    (hrow : row ≤ e.document.lastRow) (wanted : WantedColumn) :
    let place : Position := ⟨row, e.document.buffer.offsetOfWanted row wanted false⟩
    (e.landOn m { place, sticky := some wanted }).document =
      { e.document with cursor := place, sticky := some wanted } := by
  intro place
  have hjump : ¬(m.isJump = true ∧ place ≠ e.document.cursor) := by
    rw [hm]
    exact fun h => Bool.noConfusion h.1
  have hplace : e.document.buffer.rest place = place :=
    Buffer.rest_offsetOfWanted (Buffer.lt_lineCount.2 hrow) wanted
  simp only [landOn, if_neg hjump, Option.isSome_some, if_true, Document.setCursor, Document.clamp,
    hplace]

end Landing

/-- A count within the bound is kept as it is. -/
theorem Pending.max_kept {bound : Nat} {n : Numeral} (hn : 1 ≤ n.valueOrOne)
    (hbound : n.valueOrOne ≤ bound) : max ((kept bound n).getD 1) 1 = n.valueOrOne := by
  have hkept := @min_kept_mul bound n 1
  have hle : (kept bound n).getD 1 ≤ bound := by
    rw [kept, addDigits_none]
    split
    · exact hn.trans hbound
    · exact Nat.min_le_right _ _
  rw [Nat.mul_one, Nat.mul_one, Nat.min_eq_left hle, Nat.min_eq_left hbound] at hkept
  rw [hkept, Nat.max_eq_left hn]

namespace Engine

/-- A counted step leaves the cursor where the wanted column leads on another row. -/
theorem run_lands {engine : Engine}
    (hmode : engine.editor.mode = .normal ∨ engine.editor.mode.isVisual = true)
    (hidle : engine.reader.pending = {}) {digits : List Key} {n : Numeral}
    (hdigits : Spells digits n.digits) {k : Key} {c : Char} {m : Motion} (hk : k.StandsFor c)
    (hc : c = 'j' ∧ m = .down ∨ c = 'k' ∧ m = .up) {row : Nat}
    (hrow : row ≤ engine.editor.document.lastRow) :
    let d := engine.editor.document
    let place : Position := ⟨row, d.buffer.offsetOfWanted row d.wantedColumn false⟩
    m.land d (Pending.kept engine.reader.bound n) engine.editor.lastFind false =
        .ok { place, sticky := some d.wantedColumn } →
      let there := (engine.run ((digits ++ [k]).map .key)).1
      there.editor.mode = engine.editor.mode ∧ there.reader = engine.reader.reset ∧
        there.editor.document = { d with cursor := place, sticky := some d.wantedColumn } := by
  intro d place hland there
  have hjump : m.isJump = false := by
    rcases hc with ⟨-, rfl⟩ | ⟨-, rfl⟩
    · rfl
    · rfl
  have hthere : there = _ := run_vertical hmode hidle hdigits hk hc hland
  have hdocument := engine.editor.landOn_vertical hjump hrow d.wantedColumn
  rw [hthere]
  exact ⟨rfl, rfl, hdocument⟩

/-- **Down and up again.** In the normal and the visual mode, where no key waits, as many lines up as
before down bring the cursor back to where it was. -/
theorem Reachable.down_up {engine : Engine} (h : engine.Reachable)
    (hmode : engine.editor.mode = .normal ∨ engine.editor.mode.isVisual = true)
    (hidle : engine.reader.typed = []) {n : Numeral} (hn : 1 ≤ n.valueOrOne)
    (hbound : n.valueOrOne ≤ engine.reader.bound)
    (hrow : engine.editor.document.cursor.row + n.valueOrOne ≤ engine.editor.document.lastRow)
    {down up : List Key} {j k : Key} (hdown : Spells down n.digits) (hj : j.StandsFor 'j')
    (hup : Spells up n.digits) (hk : k.StandsFor 'k') :
    let there := (engine.run ((down ++ [j]).map .key)).1
    let back := (there.run ((up ++ [k]).map .key)).1
    there.editor.document.cursor.row = engine.editor.document.cursor.row + n.valueOrOne ∧
      back.editor.document.cursor = engine.editor.document.cursor := by
  intro there back
  let d := engine.editor.document
  have htyping : engine.editor.mode.isTyping = false := by
    rcases hmode with hm | hvisual
    · rw [hm]; rfl
    · cases hm : engine.editor.mode with
      | visual kind => rfl
      | _ => rw [hm] at hvisual; cases hvisual
  have hcount := Pending.max_kept hn hbound
  -- down: the column that is aimed for becomes the sticky one
  obtain ⟨hmode', hreader, hdocument⟩ := run_lands hmode (h.sound.reader.typed.1 hidle) hdown hj
    (.inl ⟨rfl, rfl⟩) hrow (Motion.land_down hcount hn hrow)
  change there.editor.mode = _ at hmode'
  change there.reader = _ at hreader
  change there.editor.document = _ at hdocument
  have hwanted : there.editor.document.wantedColumn = d.wantedColumn := by rw [hdocument]; rfl
  have hcursor : there.editor.document.cursor.row = d.cursor.row + n.valueOrOne := by rw [hdocument]
  -- up: the same column leads back to the cursor
  have hlow : there.editor.document.cursor.row - n.valueOrOne = d.cursor.row := by
    rw [hcursor, Nat.add_sub_cancel]
  have hcount' : max ((Pending.kept there.reader.bound n).getD 1) 1 = n.valueOrOne := by
    rw [hreader]
    exact hcount
  have hrows : n.valueOrOne ≤ there.editor.document.cursor.row := by
    rw [hcursor]
    exact Nat.le_add_left _ _
  obtain ⟨-, -, hback⟩ := run_lands (hmode' ▸ hmode) (by rw [hreader]; rfl) hup hk
    (.inr ⟨rfl, rfl⟩) (by rw [hlow, hdocument]; exact (Nat.le_add_right _ _).trans hrow)
    (Motion.land_up hcount' hn hrows)
  refine ⟨hcursor, ?_⟩
  have hlead : d.buffer.offsetOfWanted d.cursor.row d.wantedColumn false = d.cursor.col :=
    (h.aiming htyping).wantedColumn (h.sound.healthy.rests htyping)
  change back.editor.document = _ at hback
  rw [hback]
  show (⟨there.editor.document.cursor.row - n.valueOrOne,
    there.editor.document.buffer.offsetOfWanted (there.editor.document.cursor.row - n.valueOrOne)
      there.editor.document.wantedColumn false⟩ : Position) = d.cursor
  rw [hlow, hwanted, show there.editor.document.buffer = d.buffer by rw [hdocument], hlead]

/-- Two lines down and up in visual mode, over a line that is too short, to a wide character that
begins one column before that of the cursor. -/
theorem down_up_wide :
    let engine := ((ofBuffer (.ofText "ab中c\nx\n中x中".toList) {}).run
      ([.ofChar 'v', .ofChar 'l', .ofChar 'l', .ofChar 'l'].map .key)).1
    let there := (engine.run ([.ofChar '2', .ofChar 'j'].map .key)).1
    let back := (there.run ([.ofChar '2', .ofChar 'k'].map .key)).1
    engine.editor.mode = .visual .char ∧ engine.editor.document.cursor = ⟨0, 5⟩ ∧
      there.editor.document.cursor = ⟨2, 4⟩ ∧ back.editor.document.cursor = ⟨0, 5⟩ := by
  intro engine there back
  let two : Numeral := ⟨['2'], List.all_eq_true.1 rfl, by decide⟩
  have hreachable : engine.Reachable := ⟨_, _, _, rfl⟩
  have hmode : engine.editor.mode = .visual .char := by decide +kernel
  have hvisual : engine.editor.mode.isVisual = true := by rw [hmode]; rfl
  have hidle : engine.reader.typed = [] := by decide +kernel
  have hone : 1 ≤ two.valueOrOne := by decide
  have hbound : two.valueOrOne ≤ engine.reader.bound := by decide +kernel
  have hrow : engine.editor.document.cursor.row + two.valueOrOne ≤
      engine.editor.document.lastRow := by decide +kernel
  have hcursor : engine.editor.document.cursor = ⟨0, 5⟩ := by decide +kernel
  have hthere : there.editor.document.cursor = ⟨2, 4⟩ := by decide +kernel
  have hdigit : Spells [.ofChar '2'] two.digits := .cons ⟨rfl, rfl⟩ .nil
  have hj : (Key.ofChar 'j').StandsFor 'j' := ⟨rfl, rfl⟩
  have hk : (Key.ofChar 'k').StandsFor 'k' := ⟨rfl, rfl⟩
  have hback : back = ((engine.run (([Key.ofChar '2'] ++ [Key.ofChar 'j']).map .key)).1.run
      (([Key.ofChar '2'] ++ [Key.ofChar 'k']).map .key)).1 := rfl
  have hdownUp := hreachable.down_up (.inr hvisual) hidle hone hbound hrow hdigit hj hdigit hk
  rw [hback, hdownUp.2]
  exact ⟨hmode, hcursor, hthere, hcursor⟩

end Engine

end ModalEditor
