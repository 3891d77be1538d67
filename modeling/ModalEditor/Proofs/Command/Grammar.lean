import Mathlib.Data.Nat.Digits.Lemmas
import ModalEditor.Command.Reader

/-!
# The grammar of a command with an operator

A command with an operator is a register and a count in either order, both of them optional, the key
of the operator, another optional count, and what the operator acts on. The reader keeps what was
typed in one field for each of these parts and bounds a count at each digit. Read as a whole, the
keys give one action, at the last of them, and its count is the product of the two numerals, bounded
once (`readAll_operate`).

The pieces are `Leads` (keys that complete nothing take the command from one state to another),
`leads_digits` (a numeral, of any length), `leads_front` (what stands in front of the operator) and
`Target.leads` (what the operator acts on).
-/

namespace ModalEditor

/-- Where no character is awaited, the key is read as the character `c`. -/
def Key.StandsFor (k : Key) (c : Char) : Prop :=
  k.ctrl = false ∧ Pending.commandChar? k.code = some c

/-! ## The grammar -/

namespace Grammar

/-- The keys are read as the characters, one by one. -/
def Spells (keys : List Key) (cs : List Char) : Prop :=
  List.Forall₂ Key.StandsFor keys cs

/-- The number that decimal digits denote, the most significant digit first. -/
def decimal (ds : List Char) : Nat :=
  Nat.ofDigits 10 (ds.reverse.map fun c => c.toNat - '0'.toNat)

/-- A numeral that does not begin with a zero, or no digits at all. -/
structure Numeral where
  digits : List Char
  isDigit : ∀ c ∈ digits, c.isDigit = true
  leading : digits.head? ≠ some '0'

/-- The value of a numeral, one where there are no digits. -/
def Numeral.valueOrOne (n : Numeral) : Nat :=
  if n.digits = [] then 1 else decimal n.digits

/-- The product of two numerals, bounded; nothing where neither has digits. -/
def Numeral.product (bound : Nat) (n₁ n₂ : Numeral) : Option Nat :=
  if n₁.digits = [] ∧ n₂.digits = [] then none
  else some (min bound (n₁.valueOrOne * n₂.valueOrOne))

/-- What may stand in front of an operator: a register and a numeral, in either order. -/
inductive Front : List Key → Option Char → Numeral → Prop
  /-- No register. -/
  | count {keys : List Key} {n : Numeral} (hkeys : Spells keys n.digits) : Front keys none n
  /-- The register first. -/
  | registerCount {quote name : Key} {c : Char} {keys : List Key} {n : Numeral}
      (hquote : quote.StandsFor Awaiting.register.lead) (hname : name.printable = some c)
      (hvalid : RegisterName.isValid c = true) (hkeys : Spells keys n.digits) :
      Front (quote :: name :: keys) (some c) n
  /-- The numeral first. -/
  | countRegister {quote name : Key} {c : Char} {keys : List Key} {n : Numeral}
      (hkeys : Spells keys n.digits) (hquote : quote.StandsFor Awaiting.register.lead)
      (hname : name.printable = some c) (hvalid : RegisterName.isValid c = true) :
      Front (keys ++ [quote, name]) (some c) n

/-- The keys behind an operator and the numeral `n` that say what the operator acts on. -/
inductive Target (op : Operator) (n : Numeral) : List Key → OperatorTarget → Prop
  /-- The operator again, for whole lines. -/
  | lines {k : Key} (hkey : k.StandsFor op.key) : Target op n [k] .lines
  /-- A motion of one key. A zero is one only where it does not go on with a numeral. -/
  | motion {k : Key} {c : Char} {m : Motion} (hkey : k.StandsFor c)
      (hmotion : Motion.ofKey? c = some m) (hzero : c = '0' → n.digits = []) :
      Target op n [k] (.motion m)
  /-- A search for a character. -/
  | find {k next : Key} {c : Char} {forward till : Bool}
      (hkey : k.StandsFor (Awaiting.find forward till).lead) (hnext : next.printable = some c) :
      Target op n [k, next] (.motion (.find ⟨c, forward, till⟩))
  /-- A mark, up to its place. -/
  | markExact {k next : Key} {c : Char} (hkey : k.StandsFor (Awaiting.mark false).lead)
      (hnext : next.printable = some c) (hvalid : Marks.isValid c = true) :
      Target op n [k, next] (.motion (.markExact c))
  /-- A mark, up to its line. -/
  | markLine {k next : Key} {c : Char} (hkey : k.StandsFor (Awaiting.mark true).lead)
      (hnext : next.printable = some c) (hvalid : Marks.isValid c = true) :
      Target op n [k, next] (.motion (.markLine c))
  /-- The first line. -/
  | fileStart {k next : Key} (hkey : k.StandsFor Awaiting.afterG.lead)
      (hnext : next.printable = some 'g') : Target op n [k, next] (.motion .fileStart)
  /-- A text object. -/
  | object {k next : Key} {c : Char} {kind : ObjectKind} {inner : Bool}
      (hkey : k.StandsFor (Awaiting.object inner).lead) (hnext : next.printable = some c)
      (hkind : ObjectKind.ofKey? c = some kind) : Target op n [k, next] (.object ⟨kind, inner⟩)

end Grammar

open Grammar

/-! ## Counts -/

/-- A numeral with one more digit. -/
theorem Grammar.decimal_concat (ds : List Char) (d : Char) :
    decimal (ds ++ [d]) = decimal ds * 10 + (d.toNat - '0'.toNat) := by
  simp only [decimal, List.reverse_append, List.reverse_singleton, List.singleton_append,
    List.map_cons, Nat.ofDigits_cons]
  omega

namespace Pending

variable {bound : Nat}

/-- The count that the digits make of an earlier one. -/
def addDigits (bound : Nat) (count : Option Nat) (ds : List Char) : Option Nat :=
  ds.foldl (fun count c => some (addDigit bound count c)) count

/-- Bounding a count at each digit bounds the number that the digits denote. -/
theorem addDigits_none (ds : List Char) :
    addDigits bound none ds = if ds = [] then none else some (min (decimal ds) bound) := by
  induction ds using List.reverseRecOn with
  | nil => rfl
  | append_singleton ds d ih =>
    have hearlier : (addDigits bound none ds).getD 0 = min (decimal ds) bound := by
      rw [ih]
      split
      · rename_i hnil; subst hnil; exact (Nat.zero_min bound).symm
      · rfl
    have hlast : addDigits bound none (ds ++ [d]) =
        some (addDigit bound (addDigits bound none ds) d) := by
      simp only [addDigits, List.foldl_append, List.foldl_cons, List.foldl_nil]
    have hne : ds ++ [d] ≠ [] := List.append_ne_nil_of_right_ne_nil ds (List.cons_ne_nil d [])
    rw [hlast, addDigit, hearlier, if_neg hne, decimal_concat, Option.some_inj]
    omega

/-- A factor may be bounded before a product is. -/
theorem min_mul_bound (a b : Nat) : min (min a bound * b) bound = min (a * b) bound := by
  rcases Nat.le_total a bound with ha | ha
  · rw [Nat.min_eq_left ha]
  · rw [Nat.min_eq_right ha]
    rcases Nat.eq_zero_or_pos b with rfl | hb
    · rfl
    · rw [Nat.min_eq_right (Nat.le_mul_of_pos_right bound hb),
        Nat.min_eq_right (ha.trans (Nat.le_mul_of_pos_right a hb))]

/-- The count of a numeral as the reader keeps it. -/
def kept (bound : Nat) (n : Numeral) : Option Nat :=
  addDigits bound none n.digits

/-- A count that was cut off at the bound gives the same product, up to the bound. -/
theorem min_kept_mul (n : Numeral) (b : Nat) :
    min ((kept bound n).getD 1 * b) bound = min (n.valueOrOne * b) bound := by
  rw [kept, addDigits_none, Numeral.valueOrOne]
  split
  · rfl
  · exact min_mul_bound (decimal n.digits) b

/-- A numeral without digits leaves no count. -/
theorem kept_isNone (n : Numeral) : (kept bound n).isNone = true ↔ n.digits = [] := by
  rw [kept, addDigits_none]
  split <;> simp [*]

/-- The count of a command is the product of its numerals, up to the bound. -/
theorem totalCount_kept {p : Pending} {n₁ n₂ : Numeral} (h₁ : p.count = kept bound n₁)
    (h₂ : p.operatorCount = kept bound n₂) : p.totalCount bound = Numeral.product bound n₁ n₂ := by
  have hproduct : min ((kept bound n₁).getD 1 * (kept bound n₂).getD 1) bound =
      min bound (n₁.valueOrOne * n₂.valueOrOne) := by
    rw [min_kept_mul, Nat.mul_comm, min_kept_mul, Nat.mul_comm, Nat.min_comm]
  rw [totalCount, Numeral.product, h₁, h₂, hproduct]
  simp only [Bool.and_eq_true, kept_isNone]

/-! ## Keys that complete nothing -/

/-- The keys take the command from one state to another and complete nothing on the way. -/
def Leads (bound : Nat) : Pending → List Key → Pending → Prop
  | p, [], q => p = q
  | p, k :: keys, q => ∃ p', p.step bound false k = .wait p' ∧ Leads bound p' keys q

/-- Keys that lead on, followed by keys that lead on. -/
theorem Leads.append {p q s : Pending} {keys later : List Key} (h : Leads bound p keys q)
    (hlater : Leads bound q later s) : Leads bound p (keys ++ later) s := by
  induction keys generalizing p with
  | nil => exact h ▸ hlater
  | cons k keys ih =>
    obtain ⟨p', hstep, hkeys⟩ := h
    exact ⟨p', hstep, ih hkeys⟩

/-- A key that completes nothing leads on. -/
theorem leads_one {p q : Pending} {k : Key} (h : p.step bound false k = .wait q) :
    Leads bound p [k] q :=
  ⟨q, h, rfl⟩

/-! ## One key -/

variable {p : Pending} {k : Key} {c : Char}

/-- A key that stands for a character is read as the character, unless one is awaited. -/
theorem step_of_standsFor {visual : Bool} (hp : p.awaiting = none) (hk : k.StandsFor c) :
    p.step bound visual k = p.charKey bound visual c k := by
  have hescape : k.code ≠ .escape := by
    intro h
    have hread := hk.2
    rw [h] at hread
    cases hread
  simp only [step, if_neg hescape, hp, hk.1, Bool.false_eq_true, if_false, hk.2]

/-- An awaited character is taken, whatever else the key could mean. -/
theorem step_of_printable (bound : Nat) {a : Awaiting} (hp : p.awaiting = some a)
    (ha : a ≠ .visualReplace) (hk : k.printable = some c) :
    p.step bound false k = { p with awaiting := none }.complete bound false a k ∧
      awaitedChar a k = some c := by
  have hescape : k.code ≠ .escape := by
    intro h
    rw [Key.printable, h] at hk
    cases hk
  refine ⟨by simp only [step, if_neg hescape, hp], ?_⟩
  rw [awaitedChar, if_neg fun h => ha h.1, hk]

/-- A digit is counted, but for a zero that begins a count. -/
theorem charKey_digit {visual : Bool} (hdigit : c.isDigit = true)
    (hcounting : c ≠ '0' ∨ p.isCounting = true) :
    p.charKey bound visual c k = .wait (p.pushDigit bound c) := by
  have hcount : (c.isDigit && (c != '0' || p.isCounting)) = true := by
    simpa [hdigit] using hcounting
  rw [charKey, if_pos hcount]

/-- A character that is neither a digit of a count nor the key of a register. -/
theorem charKey_other {visual : Bool} (hdigit : c.isDigit = false ∨ c = '0' ∧ p.isCounting = false)
    (hquote : c ≠ '\x22') :
    p.charKey bound visual c k =
      match p.operator with
      | some op => p.operatorKey bound op c k
      | none => if visual then p.visualKey bound c k else p.normalKey bound c k := by
  have hcount : ¬(c.isDigit && (c != '0' || p.isCounting)) = true := by
    rcases hdigit with h | ⟨rfl, h⟩ <;> simp [h]
  exact (if_neg hcount).trans (if_neg hquote)

/-! ## A numeral -/

/-- The command with more digits. -/
def pushDigits (bound : Nat) (p : Pending) (ds : List Char) : Pending :=
  ds.foldl (pushDigit bound) p

/-- In front of the operator digits belong to the first count. -/
theorem pushDigits_of_none (hop : p.operator = none) (ds : List Char) :
    p.pushDigits bound ds = { p with count := addDigits bound p.count ds } := by
  induction ds generalizing p with
  | nil => rfl
  | cons d ds ih =>
    have hpush : p.pushDigit bound d = { p with count := some (addDigit bound p.count d) } := by
      rw [pushDigit, hop]; rfl
    rw [pushDigits, List.foldl_cons, hpush]
    exact ih hop

/-- Behind it they belong to the second. -/
theorem pushDigits_of_some {op : Operator} (hop : p.operator = some op) (ds : List Char) :
    p.pushDigits bound ds = { p with operatorCount := addDigits bound p.operatorCount ds } := by
  induction ds generalizing p with
  | nil => rfl
  | cons d ds ih =>
    have hpush : p.pushDigit bound d =
        { p with operatorCount := some (addDigit bound p.operatorCount d) } := by
      rw [pushDigit, hop]; rfl
    rw [pushDigits, List.foldl_cons, hpush]
    exact ih hop

/-- Counting awaits no character. -/
theorem pushDigit_awaiting : (p.pushDigit bound c).awaiting = p.awaiting := by
  unfold pushDigit
  split <;> rfl

/-- A digit that was read is a count. -/
theorem pushDigit_isCounting : (p.pushDigit bound c).isCounting = true := by
  unfold pushDigit isCounting
  split <;> simp [*]

/-- Digits lengthen a count, if the first of them may. -/
theorem leads_digits (hp : p.awaiting = none) {keys : List Key} {ds : List Char}
    (hkeys : Spells keys ds) (hdigits : ∀ d ∈ ds, d.isDigit = true)
    (hleading : ds.head? ≠ some '0' ∨ p.isCounting = true) :
    Leads bound p keys (p.pushDigits bound ds) := by
  induction hkeys generalizing p with
  | nil => rfl
  | @cons k d keys ds hk _ ih =>
    have hfirst : d ≠ '0' ∨ p.isCounting = true :=
      hleading.imp_left fun h heq => h (congrArg some heq)
    refine ⟨p.pushDigit bound d, ?_, ?_⟩
    · rw [step_of_standsFor hp hk, charKey_digit (hdigits d List.mem_cons_self) hfirst]
    · exact ih (pushDigit_awaiting.trans hp) (fun c hc => hdigits c (List.mem_cons_of_mem d hc))
        (.inr pushDigit_isCounting)

/-- A numeral leads on, digit by digit. -/
theorem leads_numeral (bound : Nat) (hp : p.awaiting = none) {keys : List Key} {n : Numeral}
    (hkeys : Spells keys n.digits) : Leads bound p keys (p.pushDigits bound n.digits) :=
  leads_digits hp hkeys n.isDigit (.inl n.leading)

/-! ## In front of the operator -/

/-- What the reader keeps of the keys in front of an operator. -/
def front (bound : Nat) (register : Option Char) (n : Numeral) : Pending :=
  { count := kept bound n, register }

/-- A register is chosen by the quote and its name. -/
theorem leads_register (hp : p.awaiting = none) (hop : p.operator = none)
    (hregister : p.register = none) {quote name : Key}
    (hquote : quote.StandsFor Awaiting.register.lead) (hname : name.printable = some c)
    (hvalid : RegisterName.isValid c = true) :
    Leads bound p [quote, name] { p with register := some c } := by
  refine ⟨{ p with awaiting := some .register }, ?_, leads_one ?_⟩
  · rw [step_of_standsFor hp hquote]
    simp [charKey, Awaiting.lead, hop, hregister, await]
  · obtain ⟨hstep, hawaited⟩ := step_of_printable bound
      (p := { p with awaiting := some .register }) rfl nofun hname
    rw [hstep, complete, hawaited]
    simp only [hvalid, if_true]
    rw [← hp]

/-- What may stand in front of the operator leads on, in its order. -/
theorem leads_front {keys : List Key} {register : Option Char} {n : Numeral}
    (h : Front keys register n) : Leads bound {} keys (front bound register n) := by
  have hcount (q : Pending) (hop : q.operator = none) (hnone : q.count = none) :
      q.pushDigits bound n.digits = { q with count := kept bound n } := by
    rw [pushDigits_of_none hop, hnone, kept]
  cases h with
  | count hkeys =>
    have hdigits := leads_numeral bound (p := {}) rfl hkeys
    rwa [hcount {} rfl rfl] at hdigits
  | @registerCount quote name c keys _ hquote hname hvalid hkeys =>
    have hregister : Leads bound {} [quote, name] { register := some c } :=
      leads_register rfl rfl rfl hquote hname hvalid
    have hdigits := leads_numeral bound (p := { register := some c }) rfl hkeys
    rw [hcount _ rfl rfl] at hdigits
    exact hregister.append hdigits
  | countRegister hkeys hquote hname hvalid =>
    have hdigits := leads_numeral bound (p := {}) rfl hkeys
    rw [hcount {} rfl rfl] at hdigits
    exact hdigits.append (leads_register rfl rfl rfl hquote hname hvalid)

/-! ## The operator and the numeral behind it -/

/-- No key of an operator is a digit or the key of a register. -/
theorem operatorKey_plain (op : Operator) : op.key.isDigit = false ∧ op.key ≠ '\x22' := by
  cases op <;> decide

/-- An operator leads on to what it acts on. -/
theorem leads_operator (hp : p.awaiting = none) (hop : p.operator = none) {op : Operator}
    (hk : k.StandsFor op.key) :
    Leads bound p [k] { p with operator := some op, operatorCount := none } := by
  obtain ⟨hdigit, hquote⟩ := operatorKey_plain op
  refine leads_one ?_
  rw [step_of_standsFor hp hk, charKey_other (.inl hdigit) hquote, hop]
  cases op <;> rfl

/-- What the reader keeps of the keys up to what the operator acts on. -/
def operating (bound : Nat) (register : Option Char) (op : Operator) (n₁ n₂ : Numeral) : Pending :=
  { front bound register n₁ with operator := some op, operatorCount := kept bound n₂ }

/-- Everything up to the numeral behind the operator leads on. -/
theorem leads_operating (bound : Nat) {keys digits : List Key} {register : Option Char}
    {op : Operator} {n₁ n₂ : Numeral} (hfront : Front keys register n₁) (hk : k.StandsFor op.key)
    (hdigits : Spells digits n₂.digits) :
    Leads bound {} (keys ++ k :: digits) (operating bound register op n₁ n₂) := by
  have hoperator : Leads bound (front bound register n₁) [k]
      { front bound register n₁ with operator := some op } := leads_operator rfl rfl hk
  have hcount := leads_numeral bound
    (p := { front bound register n₁ with operator := some op }) rfl hdigits
  rw [pushDigits_of_some rfl] at hcount
  exact (leads_front hfront).append (hoperator.append hcount)

/-! ## What the operator acts on -/

/-- A key that names a motion names neither an operator nor a text object, and no digit but zero. -/
theorem ofKey?_plain {m : Motion} (hm : Motion.ofKey? c = some m) (op : Operator) :
    c ≠ op.key ∧ c ≠ 'i' ∧ c ≠ 'a' ∧ c ≠ '\x22' ∧ (c.isDigit = false ∨ c = '0') := by
  unfold Motion.ofKey? at hm
  split at hm
  case h_20 => cases hm
  all_goals clear hm; cases op <;> decide

/-- A character that says what an operator acts on, together with the key in front of it. -/
def isTarget : Awaiting → Bool
  | .find _ _ | .mark _ | .afterG | .object _ => true
  | .register | .setMark | .visualReplace => false

/-- The keys that begin a target are no digits and choose no register. -/
theorem lead_plain {a : Awaiting} (ha : isTarget a = true) :
    a.lead.isDigit = false ∧ a.lead ≠ '\x22' := by
  match a with
  | .find forward till => cases forward <;> cases till <;> decide
  | .mark linewise => cases linewise <;> decide
  | .afterG => decide
  | .object inner => cases inner <;> decide

/-- The first key of a target awaits the second. -/
theorem operatorKey_lead {a : Awaiting} (ha : isTarget a = true) (op : Operator) :
    p.operatorKey bound op a.lead k = p.await a := by
  match a with
  | .find forward till => cases op <;> cases forward <;> cases till <;> rfl
  | .mark linewise => cases op <;> cases linewise <;> rfl
  | .afterG => cases op <;> rfl
  | .object inner => cases op <;> cases inner <;> rfl

section Behind

variable {op : Operator} (hp : p.awaiting = none) (hop : p.operator = some op)
include hp hop

/-- Behind the operator a key that is no digit is read as a target. -/
theorem step_behind (hk : k.StandsFor c)
    (hdigit : c.isDigit = false ∨ c = '0' ∧ p.isCounting = false) (hquote : c ≠ '\x22') :
    p.step bound false k = p.operatorKey bound op c k := by
  rw [step_of_standsFor hp hk, charKey_other hdigit hquote, hop]

/-- One key completes the command. -/
theorem step_again (hk : k.StandsFor op.key) :
    p.step bound false k = p.operate bound op .lines := by
  obtain ⟨hdigit, hquote⟩ := operatorKey_plain op
  rw [step_behind hp hop hk (.inl hdigit) hquote, operatorKey, if_pos rfl]

/-- A motion of one key completes the command. -/
theorem step_motion {m : Motion} (hk : k.StandsFor c) (hm : Motion.ofKey? c = some m)
    (hzero : c = '0' → p.isCounting = false) :
    p.step bound false k = p.operate bound op (.motion m) := by
  obtain ⟨hagain, hinner, hwhole, hquote, hdigit⟩ := ofKey?_plain hm op
  rw [step_behind hp hop hk (hdigit.imp_right fun h => ⟨h, hzero h⟩) hquote, operatorKey,
    if_neg hagain, if_neg hinner, if_neg hwhole]
  simp only [motionKey, hm, finishMotion, hop]

/-- The second of two keys completes the command. -/
theorem leads_target {a : Awaiting} (ha : isTarget a = true) (hk : k.StandsFor a.lead) :
    Leads bound p [k] { p with awaiting := some a } := by
  obtain ⟨hdigit, hquote⟩ := lead_plain ha
  refine leads_one ?_
  rw [step_behind hp hop hk (.inl hdigit) hquote, operatorKey_lead ha, await]

omit hop in
/-- The second key of a target completes the command. -/
theorem step_target {a : Awaiting} {next : Key} {target : OperatorTarget}
    (ha : a ≠ .visualReplace) (hnext : next.printable = some c)
    (hcomplete : awaitedChar a next = some c →
      p.complete bound false a next = p.operate bound op target) :
    ({ p with awaiting := some a } : Pending).step bound false next =
      p.operate bound op target := by
  obtain ⟨hstep, hawaited⟩ := step_of_printable bound (p := { p with awaiting := some a }) rfl ha
    hnext
  have hback : ({ p with awaiting := none } : Pending) = p := by rw [← hp]
  rw [hstep]
  exact (congrArg (fun q => q.complete bound false a next) hback).trans (hcomplete hawaited)

/-- The last key of what an operator acts on completes the command, and no key before it does. -/
theorem leads_of_target {n : Numeral} (hcount : p.operatorCount = kept bound n) {keys : List Key}
    {target : OperatorTarget} (htarget : Target op n keys target) :
    ∃ (init : List Key) (last : Key) (q : Pending), keys = init ++ [last] ∧
      Leads bound p init q ∧ q.step bound false last = p.operate bound op target := by
  -- the targets of two keys complete the command with the second, for the same reason
  have two {a : Awaiting} {k next : Key} {c : Char} {target : OperatorTarget}
      (ha : isTarget a = true) (hk : k.StandsFor a.lead) (hnext : next.printable = some c)
      (hcomplete : awaitedChar a next = some c →
        p.complete bound false a next = p.operate bound op target) :
      ∃ (init : List Key) (last : Key) (q : Pending), [k, next] = init ++ [last] ∧
        Leads bound p init q ∧ q.step bound false last = p.operate bound op target :=
    ⟨[k], next, _, rfl, leads_target hp hop ha hk,
      step_target hp (fun h => by subst h; cases ha) hnext hcomplete⟩
  -- one case for each way to give a target
  cases htarget with
  | lines hk => exact ⟨[], _, p, rfl, rfl, step_again hp hop hk⟩
  | motion hk hm hzero =>
    refine ⟨[], _, p, rfl, rfl, step_motion hp hop hk hm fun h => ?_⟩
    rw [isCounting, hop, hcount, kept, hzero h]
    rfl
  | find hk hnext =>
    refine two rfl hk hnext fun hawaited => ?_
    simp only [complete, hawaited, finishMotion, hop]
  | markExact hk hnext hvalid =>
    refine two rfl hk hnext fun hawaited => ?_
    simp only [complete, hawaited, hvalid, if_true, finishMotion, hop, Bool.false_eq_true, if_false]
  | markLine hk hnext hvalid =>
    refine two rfl hk hnext fun hawaited => ?_
    simp only [complete, hawaited, hvalid, if_true, finishMotion, hop]
  | fileStart hk hnext =>
    refine two rfl hk hnext fun hawaited => ?_
    simp only [complete, hawaited, keyAfterG, if_true, finishMotion, hop]
  | object hk hnext hkind =>
    refine two rfl hk hnext fun hawaited => ?_
    simp only [complete, hawaited, objectKey, hkind, hop]

end Behind

end Pending

/-! ## The reader -/

namespace KeyReader

/-- What the reader gives for each of the keys, and the reader behind them. -/
def readAll (r : KeyReader) (mode : Mode) : List Key → KeyReader × List (Option Action)
  | [] => (r, [])
  | k :: keys =>
    let (r', a) := r.read mode k
    let (r'', as) := r'.readAll mode keys
    (r'', a :: as)

/-- In the normal and the visual mode a key is one of a command. -/
theorem read_of_command {mode : Mode} (hmode : mode = .normal ∨ mode.isVisual = true)
    (r : KeyReader) (k : Key) : r.read mode k = r.readCommand mode.isVisual k := by
  rcases hmode with rfl | hvisual
  · rfl
  · cases mode with
    | visual kind => rfl
    | _ => cases hvisual

/-- Keys that complete nothing give nothing, and the next key is read behind them. -/
theorem readAll_of_leads {r : KeyReader} {keys : List Key} {q : Pending}
    (h : Pending.Leads r.bound r.pending keys q) (k : Key) :
    ∃ typed, r.readAll .normal (keys ++ [k]) =
      ((({ r with pending := q, typed } : KeyReader).read .normal k).1,
        List.replicate keys.length none ++
          [(({ r with pending := q, typed } : KeyReader).read .normal k).2]) := by
  induction keys generalizing r with
  | nil =>
    cases h
    exact ⟨r.typed, rfl⟩
  | cons k' keys ih =>
    obtain ⟨p', hstep, hkeys⟩ := h
    have hread : r.read .normal k' =
        ({ r with pending := p', typed := r.typed ++ k'.display }, none) := by
      rw [read, readCommand, hstep]
    obtain ⟨typed, hrest⟩ :=
      ih (r := { r with pending := p', typed := r.typed ++ k'.display }) hkeys
    refine ⟨typed, ?_⟩
    rw [List.cons_append, readAll, hread]
    simp only [hrest, List.length_cons, List.replicate_succ, List.cons_append]

/-- **A command with an operator.** Behind a reader that is idle, every key but the last completes
nothing, and the last gives the operator with what it acts on, the register that was named, and the
product of the two numerals, bounded; no count where neither was typed. The reader is idle
afterwards. -/
theorem readAll_operate {r : KeyReader} (hidle : r.isIdle = true) {front digits keys : List Key}
    {register : Option Char} {n₁ n₂ : Numeral} {k : Key} {op : Operator} {target : OperatorTarget}
    (hfront : Front front register n₁) (hop : k.StandsFor op.key)
    (hdigits : Spells digits n₂.digits) (htarget : Target op n₂ keys target) :
    let command := front ++ k :: digits ++ keys
    let read := r.readAll .normal command
    let count := Numeral.product r.bound n₁ n₂
    read.2 = List.replicate (command.length - 1) none ++
        [some (.operate op target count register)] ∧
        read.1.isIdle = true ∧ read.1.typed = [] := by
  intro command read count
  have hempty : r.pending = {} := decide_eq_true_iff.1 hidle
  have hfirst := Pending.leads_operating r.bound hfront hop hdigits
  -- all but the last key of the target lead on, and the last completes the command
  obtain ⟨init, last, q, rfl, hinit, hlast⟩ := Pending.leads_of_target
    (p := Pending.operating r.bound register op n₁ n₂) rfl rfl rfl htarget
  have hcommand : command = (front ++ k :: digits ++ init) ++ [last] :=
    (List.append_assoc _ _ _).symm
  have hleads : Pending.Leads r.bound r.pending (front ++ k :: digits ++ init) q :=
    hempty ▸ hfirst.append hinit
  obtain ⟨typed, hread⟩ := readAll_of_leads hleads last
  have hcount : (Pending.operating r.bound register op n₁ n₂).totalCount r.bound = count :=
    Pending.totalCount_kept rfl rfl
  -- the complete command takes its count, and the reader begins anew
  have hdone : ({ r with pending := q, typed } : KeyReader).read .normal last =
      (r.reset, some (.operate op target count register)) := by
    rw [KeyReader.read, readCommand, hlast, Pending.operate, hcount]
    rfl
  have hlength : command.length - 1 = (front ++ k :: digits ++ init).length := by
    rw [hcommand, List.length_append, List.length_singleton, Nat.add_sub_cancel]
  have hall : read = (r.reset, List.replicate (command.length - 1) none ++
      [some (.operate op target count register)]) := by
    rw [hlength]
    change r.readAll .normal command = _
    rw [hcommand, hread, hdone]
  rw [hall]
  exact ⟨rfl, rfl, rfl⟩

/-- The keys `"a2d12fx`, with counts up to twenty. -/
theorem readAll_operate_find :
    let read := (KeyReader.withBound 20).readAll .normal
      (['\x22', 'a', '2', 'd', '1', '2', 'f', 'x'].map Key.ofChar)
    read.2 = List.replicate 7 none ++
        [some (.operate .delete (.motion (.find ⟨'x', true, false⟩)) (some 20) (some 'a'))] ∧
      read.1.isIdle = true ∧ read.1.typed = [] := by
  have spelled (cs : List Char) : Spells (cs.map Key.ofChar) cs := by
    induction cs with
    | nil => exact .nil
    | cons c cs ih => exact .cons ⟨rfl, rfl⟩ ih
  let two : Numeral := ⟨['2'], List.all_eq_true.1 rfl, by decide⟩
  let twelve : Numeral := ⟨['1', '2'], List.all_eq_true.1 rfl, by decide⟩
  have hfront : Front (['\x22', 'a', '2'].map Key.ofChar) (some 'a') two :=
    .registerCount ⟨rfl, rfl⟩ rfl rfl (spelled ['2'])
  have htarget : Target .delete twelve (['f', 'x'].map Key.ofChar)
      (.motion (.find ⟨'x', true, false⟩)) :=
    .find ⟨rfl, rfl⟩ rfl
  exact readAll_operate (r := KeyReader.withBound 20) (k := Key.ofChar 'd') rfl hfront ⟨rfl, rfl⟩
    (spelled ['1', '2']) htarget

end KeyReader

end ModalEditor
