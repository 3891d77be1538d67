import ModalEditor.Config.Table

/-!
# Numbers, truth values and dates

What a run of characters without blanks stands for that is not in quotes.
-/

namespace ModalEditor

namespace Scalar

/-- The digits of a number, without the underscores between them. -/
def digits? (isDigit : Char → Bool) : Text → Option Text
  | [] => none
  | [c] => if isDigit c then some [c] else none
  | c :: '_' :: rest => if isDigit c then (digits? isDigit rest).map (c :: ·) else none
  | c :: rest => if isDigit c then (digits? isDigit rest).map (c :: ·) else none

/-- The value of a digit, of decimal and of hexadecimal ones. -/
def digitValue (c : Char) : Nat :=
  if c.isDigit then c.toNat - '0'.toNat else c.toLower.toNat - 'a'.toNat + 10

/-- Is the character a digit to the base, at most 16? -/
def isDigitOf (base : Nat) (c : Char) : Bool :=
  (c.isDigit || ('a' ≤ c.toLower && c.toLower ≤ 'f')) && digitValue c < base

/-- The number that digits stand for. -/
def value (base : Nat) (digits : Text) : Nat :=
  digits.foldl (fun n c => base * n + digitValue c) 0

/-- The digits of a decimal number. Only zero itself begins with a zero. -/
def decimal? (t : Text) : Option Text :=
  match digits? Char.isDigit t with
  | some ('0' :: _ :: _) => none
  | digits => digits

/-- A sign if there is one, and the rest; true is minus. -/
def splitSign : Text → Bool × Text
  | '-' :: rest => (true, rest)
  | '+' :: rest => (false, rest)
  | t => (false, t)

/-- An integer: decimal with a sign or without, or without a sign to the base 16, 8 or 2. -/
def integer? : Text → Option Int
  | '0' :: 'x' :: rest => (digits? (isDigitOf 16) rest).map fun ds => value 16 ds
  | '0' :: 'o' :: rest => (digits? (isDigitOf 8) rest).map fun ds => value 8 ds
  | '0' :: 'b' :: rest => (digits? (isDigitOf 2) rest).map fun ds => value 2 ds
  | t =>
    let (negative, rest) := splitSign t
    (decimal? rest).map fun ds => if negative then -(value 10 ds : Int) else value 10 ds

/-- Is this the integer part and the fraction of a number, one of which may be missing if `whole`? -/
def isMantissa (whole : Bool) (t : Text) : Bool :=
  match t.dropWhile (· != '.') with
  | [] => whole && (decimal? t).isSome
  | _ :: fraction =>
    (decimal? (t.takeWhile (· != '.'))).isSome && (digits? Char.isDigit fraction).isSome

/-- Is this a floating-point number? -/
def isFloat (t : Text) : Bool :=
  let rest := (splitSign t).2
  let isExponentMark (c : Char) : Bool := c == 'e' || c == 'E'
  if rest = "inf".toList ∨ rest = "nan".toList then true
  else
    match rest.dropWhile (!isExponentMark ·) with
    | [] => isMantissa false rest
    | _ :: exponent =>
      isMantissa true (rest.takeWhile (!isExponentMark ·)) &&
        (digits? Char.isDigit (splitSign exponent).2).isSome

/-! ## Dates and times -/

/-- Reads a number of exactly `width` digits. -/
def fixed? (width : Nat) (t : Text) : Option (Nat × Text) :=
  let ds := t.take width
  if ds.length = width ∧ ds.all Char.isDigit then some (value 10 ds, t.drop width) else none

/-- Reads the given character. -/
def sign? (c : Char) : Text → Option Text
  | d :: rest => if d = c then some rest else none
  | [] => none

/-- The number of days of a month. -/
def daysIn (year month : Nat) : Nat :=
  if month = 2 then
    if year % 4 = 0 ∧ (year % 100 ≠ 0 ∨ year % 400 = 0) then 29 else 28
  else if month = 4 ∨ month = 6 ∨ month = 9 ∨ month = 11 then 30
  else 31

/-- Reads a day of the calendar. -/
def day? (t : Text) : Option Text := do
  let (year, t) ← fixed? 4 t
  let (month, t) ← fixed? 2 (← sign? '-' t)
  let (day, t) ← fixed? 2 (← sign? '-' t)
  guard (1 ≤ month ∧ month ≤ 12 ∧ 1 ≤ day ∧ day ≤ daysIn year month)
  return t

/-- Reads the hour and the minute. -/
def hourMinute? (t : Text) : Option Text := do
  let (hour, t) ← fixed? 2 t
  let (minute, t) ← fixed? 2 (← sign? ':' t)
  guard (hour ≤ 23 ∧ minute ≤ 59)
  return t

/-- Reads the fraction of a second, if there is one. -/
def fraction? : Text → Option Text
  | '.' :: c :: rest => if c.isDigit then some (rest.dropWhile Char.isDigit) else none
  | '.' :: [] => none
  | t => some t

/-- Reads a time of the day; the second may be missing. -/
def time? (t : Text) : Option Text := do
  let t ← hourMinute? t
  match t with
  | ':' :: rest => do
    let (second, rest) ← fixed? 2 rest
    guard (second ≤ 60)
    fraction? rest
  | _ => return t

/-- Is this the offset of a time zone, or nothing? -/
def isOffset : Text → Bool
  | [] | ['Z'] | ['z'] => true
  | c :: rest => (c == '+' || c == '-') && hourMinute? rest == some []

/-- Does what follows a day complete a date? -/
def completesDate : Text → Bool
  | [] => true
  | c :: rest => (c == 'T' || c == 't' || c == ' ') && (time? rest).any isOffset

/-- Is this a date, a time, or both? -/
def isDate (t : Text) : Bool :=
  (day? t).any completesDate || time? t == some []

/-- What a run of characters stands for. -/
def read? (t : Text) : Option ConfigValue :=
  if t = "true".toList then some (.bool true)
  else if t = "false".toList then some (.bool false)
  else
    match integer? t with
    | some n => if Int64.minValue.toInt ≤ n ∧ n < UInt64.size then some (.integer n) else none
    | none => if isFloat t then some .float else if isDate t then some .date else none

end Scalar

end ModalEditor
