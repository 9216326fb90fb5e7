import PropertyGraph.Decimal.Digits

/-!
# Dates and times in a TOML document

A date, a time, or a date and a time with or without an offset. Seconds may be left
out, and may be sixty.

- `Toml.DateTime.isWhole`: whether a text is one of these.
- `Toml.DateTime.isDate`: whether a text has the outline of a date, after which a blank
  and a time may follow.
-/

namespace PropertyGraph

namespace Toml

namespace DateTime

/-- Whether a character is a decimal digit. -/
def isDigit (c : Char) : Bool := (digitValue? c).isSome

/-- Read so many digits behind the value of those before them. -/
def readDigits : (count value : Nat) → List Char → Option (Nat × List Char)
  | 0, value, s => some (value, s)
  | _ + 1, _, [] => none
  | count + 1, value, c :: s =>
    match digitValue? c with
    | some d => readDigits count (value * 10 + d) s
    | none => none

/-- Read a separator and so many digits. -/
def readPart (separator : Char) (count : Nat) : List Char → Option (Nat × List Char)
  | [] => none
  | c :: s => if c = separator then readDigits count 0 s else none

/-- Whether a year has a twenty-ninth of February. -/
def isLeap (year : Nat) : Bool := year % 4 = 0 && (year % 100 ≠ 0 || year % 400 = 0)

/-- How many days a month has. -/
def daysIn (year month : Nat) : Nat :=
  if month = 2 then if isLeap year then 29 else 28
  else if month = 4 ∨ month = 6 ∨ month = 9 ∨ month = 11 then 30
  else 31

/-- Read a date. -/
def readDate (s : List Char) : Option (List Char) := do
  let (year, s) ← readDigits 4 0 s
  let (month, s) ← readPart '-' 2 s
  let (day, s) ← readPart '-' 2 s
  if 1 ≤ month ∧ month ≤ 12 ∧ 1 ≤ day ∧ day ≤ daysIn year month then some s else none

/-- Read a fraction of a second, if there is one. -/
def readFraction : List Char → Option (List Char)
  | '.' :: c :: s => if isDigit c then some (s.dropWhile isDigit) else none
  | ['.'] => none
  | s => some s

/-- Read seconds, if there are any. -/
def readSeconds (s : List Char) : Option (List Char) :=
  match s with
  | ':' :: _ => do
    let (second, s) ← readPart ':' 2 s
    if second ≤ 60 then readFraction s else none
  | s => some s

/-- Read hours and minutes. -/
def readMinutes (s : List Char) : Option (List Char) := do
  let (hour, s) ← readDigits 2 0 s
  let (minute, s) ← readPart ':' 2 s
  if hour ≤ 23 ∧ minute ≤ 59 then some s else none

/-- Read a time. -/
def readTime (s : List Char) : Option (List Char) := readMinutes s >>= readSeconds

/-- Whether a text is an offset, or empty. -/
def isOffset : List Char → Bool
  | [] => true
  | c :: s =>
    if c = 'Z' ∨ c = 'z' then s.isEmpty
    else if c = '+' ∨ c = '-' then readMinutes s = some []
    else false

/-- Whether a text after a date is empty, or a time with or without an offset. -/
def isAfterDate : List Char → Bool
  | [] => true
  | c :: s =>
    if c = 'T' ∨ c = 't' ∨ c = ' ' then
      match readTime s with
      | some rest => isOffset rest
      | none => false
    else false

/-- Whether a text is a date, a time, or both. -/
def isWhole (s : List Char) : Bool :=
  match readDate s with
  | some rest => isAfterDate rest
  | none => readTime s = some []

/-- Whether a text has the outline of a date. -/
def isDate (s : List Char) : Bool :=
  match readDigits 4 0 s >>= fun (_, s) => readPart '-' 2 s >>= fun (_, s) => readPart '-' 2 s with
  | some (_, []) => true
  | _ => false

end DateTime

end Toml

end PropertyGraph
