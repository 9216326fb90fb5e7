import PropertyGraph.Text.Fields
import PropertyGraph.Toml.DateTime
import PropertyGraph.Toml.Value

/-!
# Values without quotes and brackets

- `Toml.digitsOf?`: digits, between which single underscores may stand.
- `Toml.integer?`: an integer in decimal digits with or without a sign, or without one
  in base sixteen, eight or two.
- `Toml.float?`: a number with a fraction or an exponent, or one that is infinite or
  none at all.
- `Toml.Value.ofBare`: the value that a bare text spells.
-/

namespace PropertyGraph

namespace Toml

/-- The values of digits in a base, between which single underscores may stand. -/
def digitsOf? (base : Nat) (s : List Char) : Option (List Nat) :=
  let groups := fieldChars '_' s
  if groups.any List.isEmpty then none
  else groups.flatten.mapM fun c => (hexValue? c.toNat).filter (· < base)

/-- Decimal digits that do not start with a zero, or a zero alone. -/
def wholeDigits? (s : List Char) : Option (List Nat) :=
  (digitsOf? 10 s).filter fun ds =>
    match ds with
    | [] => false
    | [_] => true
    | d :: _ :: _ => d ≠ 0

/-- Whether there is a minus sign, and what follows the sign if there is one. -/
def splitSign : List Char → Bool × List Char
  | '-' :: s => (true, s)
  | '+' :: s => (false, s)
  | s => (false, s)

/-- A magnitude with its sign. -/
def signedInteger (negative : Bool) (n : Nat) : Int := if negative then -(n : Int) else n

/-- The integer that a text spells. -/
def integer? (s : List Char) : Option Int :=
  match s with
  | '0' :: 'x' :: ds => (digitsOf? 16 ds).map fun ds => (ofDigitsIn 16 ds : Int)
  | '0' :: 'o' :: ds => (digitsOf? 8 ds).map fun ds => (ofDigitsIn 8 ds : Int)
  | '0' :: 'b' :: ds => (digitsOf? 2 ds).map fun ds => (ofDigitsIn 2 ds : Int)
  | s =>
    let (negative, ds) := splitSign s
    (wholeDigits? ds).map fun ds => signedInteger negative (ofDigitsIn 10 ds)

/-- Integers are from this range. -/
def integerFits : Int → Bool
  | .ofNat n => n < Nat.pow 2 128
  | .negSucc n => n < Nat.pow 2 127

/-- A number in decimal digits: significand, power of ten, and sign. -/
structure Decimal where
  negative : Bool
  significand : Nat
  exponent : Int

/-- The parts before and after the letter of an exponent. -/
def splitExponent (s : List Char) : List Char × Option (List Char) :=
  splitFirst 'e' (s.map fun c => if c = 'E' then 'e' else c)

/-- The value of an exponent; zero if there is none. -/
def exponent? : Option (List Char) → Option Int
  | none => some 0
  | some s =>
    let (negative, ds) := splitSign s
    (digitsOf? 10 ds).map fun ds => signedInteger negative (ofDigitsIn 10 ds)

/-- The digits of a fraction; none if there is no fraction. -/
def fraction? : Option (List Char) → Option (List Nat)
  | none => some []
  | some s => digitsOf? 10 s

/-- The decimal that a text with a fraction or an exponent spells. -/
def decimal? (s : List Char) : Option Decimal :=
  let (negative, s) := splitSign s
  let (mantissa, power) := splitExponent s
  let (whole, fraction) := splitFirst '.' mantissa
  if power.isNone ∧ fraction.isNone then none
  else
    match wholeDigits? whole, fraction? fraction, exponent? power with
    | some whole, some fraction, some power =>
      some ⟨negative, ofDigitsIn 10 (whole ++ fraction), power - fraction.length⟩
    | _, _, _ => none

/-- A magnitude with its sign. -/
def signedFloat (negative : Bool) (x : Binary64) : Binary64 := if negative then x.negative else x

/-- The double of a decimal. -/
def Decimal.float (d : Decimal) : Except Fault Value :=
  match Binary64.ofDecimal? d.significand d.exponent with
  | some x => .ok (.float (signedFloat d.negative x))
  | none => .error .numberTooLarge

/-- The magnitude that a word stands for. -/
def special? (s : List Char) : Option Binary64 :=
  let (negative, word) := splitSign s
  if word = "inf".toList then some (signedFloat negative .infinity)
  else if word = "nan".toList then some (signedFloat negative .nan)
  else none

/-- The number that a text spells. -/
def number? (s : List Char) : Option (Except Fault Value) :=
  match integer? s with
  | some i => some (if integerFits i then .ok (.integer i) else .error .numberTooLarge)
  | none =>
    match special? s with
    | some x => some (.ok (.float x))
    | none => (decimal? s).map Decimal.float

/-- The value that a bare text spells. -/
def Value.ofBare (s : List Char) : Except Fault Value :=
  if s = "true".toList then .ok (.boolean true)
  else if s = "false".toList then .ok (.boolean false)
  else if DateTime.isWhole s then .ok (.dateTime (String.ofList s))
  else (number? s).getD (.error .malformed)

end Toml

end PropertyGraph
