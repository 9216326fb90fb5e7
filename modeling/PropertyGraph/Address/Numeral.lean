import PropertyGraph.Decimal.Digits

/-!
# Numerals in addresses

- `Numeral`: how a part of an address is written: its base, how many digits it may
  have, whether it may start with a zero, and what it stays below.
- `Numeral.read`: the number at the front of a text. It takes all the digits there are,
  so a part with too many digits is no number.
-/

namespace PropertyGraph

/-- How a number in an address is written. -/
structure Numeral where
  base : Nat
  /-- The greatest number of digits, if there is one. -/
  mostDigits : Option Nat
  /-- Whether a number of several digits may start with a zero. -/
  zeroPadded : Bool
  bound : Nat

namespace Numeral

/-- The value of a digit in the base. -/
def digit? (n : Numeral) (c : Char) : Option Nat := (hexValue? c.toNat).filter (· < n.base)

/-- Whether a row of digits is not too long. -/
def fits (n : Numeral) (ds : List Nat) : Bool :=
  match n.mostDigits with
  | none => true
  | some most => ds.length ≤ most

/-- Whether a row of digits starts as it may. -/
def startsWell (n : Numeral) : List Nat → Bool
  | [] => false
  | [_] => true
  | d :: _ :: _ => n.zeroPadded || d ≠ 0

/-- The number at the front of a text, and what follows it. -/
def read (n : Numeral) (s : List Char) : Option (Nat × List Char) :=
  let ds := (s.takeWhile fun c => (n.digit? c).isSome).filterMap n.digit?
  if n.fits ds ∧ n.startsWell ds ∧ ofDigitsIn n.base ds < n.bound then
    some (ofDigitsIn n.base ds, s.dropWhile fun c => (n.digit? c).isSome)
  else none

end Numeral

/-- Read one character. -/
def readChar (c : Char) : List Char → Option (List Char)
  | [] => none
  | d :: s => if d = c then some s else none

end PropertyGraph
