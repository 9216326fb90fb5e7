import PropertyGraph.NameMap
import PropertyGraph.Text.Blank

/-!
# Windows on lists

A list request may skip items and limit how many it wants, by the parameters
`offset` and `limit`.

- `Query`: the parameters of a request.
- `count?`: a count of up to sixty-four bits in decimal digits.
- `Window.ofQuery`: the window that parameters ask for.
-/

namespace PropertyGraph

/-- The parameters of a request. -/
abbrev Query := NameMap String

/-- Counts are below this number. -/
def countBound : Nat := Nat.pow 2 64

/-- Append decimal digits to a count, as long as it stays below the bound. -/
def countFrom (n : Nat) : List Char → Option Nat
  | [] => some n
  | c :: cs =>
    if '0' ≤ c ∧ c ≤ '9' then
      let n := n * 10 + (c.toNat - '0'.toNat)
      if n < countBound then countFrom n cs else none
    else none

/-- A count: at least one digit, with an optional plus sign in front. -/
def count? : List Char → Option Nat
  | [] => none
  | c :: cs =>
    if c = '+' then
      match cs with
      | [] => none
      | d :: ds => countFrom 0 (d :: ds)
    else countFrom 0 (c :: cs)

/-- Which part of a list is wanted. -/
structure Window where
  /-- How many items to skip. -/
  offset : Option Nat
  /-- How many items to return at most. -/
  limit : Option Nat
  deriving DecidableEq

/-- A parameter of a window. -/
inductive WindowBound where
  | offset
  | limit
  deriving DecidableEq

/-- The name of the parameter. -/
def WindowBound.name : WindowBound → String
  | .offset => "offset"
  | .limit => "limit"

/-- The wording for a parameter that is no count. -/
def WindowBound.message (b : WindowBound) : String :=
  "Parameter " ++ b.name ++ " should be a positive integer number"

namespace Window

/-- The window that holds the whole list. -/
def all : Window := ⟨none, none⟩

/-- One bound as parameters give it; white space around it does not count. -/
def bound (q : Query) (b : WindowBound) : Except WindowBound (Option Nat) :=
  match q.get? b.name with
  | none => .ok none
  | some raw =>
    match count? (trimBlanks raw.toList) with
    | some n => .ok (some n)
    | none => .error b

/-- The window that parameters ask for, or the first bound that is no count. -/
def ofQuery (q : Query) : Except WindowBound Window := do
  let offset ← bound q .offset
  let limit ← bound q .limit
  return { offset, limit }

end Window

end PropertyGraph
