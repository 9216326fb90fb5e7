import PropertyGraph.Decimal.Binary64
import PropertyGraph.Decimal.Digits

/-!
# Shortest decimal text of a double

The text of a floating point number has the fewest digits that still read back as
the same number, and of those the digits nearest to it.

- `Binary64.Reach`: the decimals that round to a number, as an interval around it.
- `Binary64.shortest`: the digits and the power of ten, found on the coarsest grid
  of decimals that meets the interval.
- `Binary64.text`: where the point goes. Up to four zeros after the point and up
  to sixteen digits before it are written out, with at least one digit after the
  point; anything else has an exponent with its sign.
-/

namespace PropertyGraph

namespace Binary64

/-- A positive number and the bounds of what rounds to it, over one denominator. -/
structure Reach where
  /-- Numerator of the lower bound. -/
  low : Nat
  /-- Numerator of the number. -/
  value : Nat
  /-- Numerator of the upper bound. -/
  high : Nat
  /-- The common denominator. -/
  den : Nat
  /-- Whether the bounds themselves round to the number. -/
  closed : Bool

/-- The bounds lie half way to the neighbouring doubles; below a power of two the
neighbour is half as far. A tie rounds to an even significand. -/
def reach (x : Binary64) : Reach :=
  let m := x.significand
  let below := if m = fractionBound ∧ -1074 < x.exponent then 1 else 2
  let (n, d) := powTwo (x.exponent - 2)
  { low := (4 * m - below) * n, value := 4 * m * n, high := (4 * m + 2) * n, den := d,
    closed := m % 2 = 0 }

/-- Whether the quotient of two numbers lies between the bounds. -/
def Reach.holds (r : Reach) (num den : Nat) : Bool :=
  if r.closed then r.low * den ≤ num * r.den && num * r.den ≤ r.high * den
  else r.low * den < num * r.den && num * r.den < r.high * den

/-- The decimal with exponent `p` nearest to the number among those that round to it,
as a count of units of `10 ^ p`. -/
def Reach.onGrid? (r : Reach) (p : Int) : Option Nat :=
  let up := Nat.pow 10 p.toNat
  let down := Nat.pow 10 (-p).toNat
  let below := r.value * down / (r.den * up)
  let atBelow := r.holds (below * up) down
  let atAbove := r.holds ((below + 1) * up) down
  if atBelow && atAbove then
    if (2 * below + 1) * (r.den * up) < 2 * (r.value * down) then some (below + 1) else some below
  else if atBelow then some below
  else if atAbove then some (below + 1)
  else none

/-- Search grid after grid, each ten times finer than the one before. -/
def Reach.search (r : Reach) : Nat → Int → Nat × Int
  | 0, p => (r.value * Nat.pow 10 (-p).toNat / (r.den * Nat.pow 10 p.toNat), p)
  | steps + 1, p =>
    match r.onGrid? p with
    | some n => (n, p)
    | none => r.search steps (p - 1)

/-- A power of ten above a positive number, at most two steps above the least one. -/
def ceilingExponent (x : Binary64) : Int :=
  ((Nat.log2 x.significand : Int) + 1 + x.exponent) * 1233 / 4096 + 1

/-- The digits of the shortest decimal that rounds to a positive number, and the power
of ten of its last digit. Seventeen digits always suffice. -/
def shortest (x : Binary64) : List Char × Int :=
  let (n, p) := x.reach.search 20 x.ceilingExponent
  (digits n, p)

/-- Place the point in a row of digits whose last one has weight `10 ^ p`. -/
def layOut (ds : List Char) (p : Int) : List Char :=
  let point := ds.length + p
  if -5 < point ∧ point ≤ 16 then
    if point ≤ 0 then '0' :: '.' :: List.replicate (-point).toNat '0' ++ ds
    else if 0 ≤ p then ds ++ List.replicate p.toNat '0' ++ ['.', '0']
    else ds.take point.toNat ++ '.' :: ds.drop point.toNat
  else
    let e := point - 1
    let fraction := match ds.drop 1 with
      | [] => []
      | more => '.' :: more
    ds.take 1 ++ fraction ++ 'e' :: (if e < 0 then '-' else '+') :: digits e.natAbs

/-- The text of a finite number. -/
def text (x : Binary64) : List Char :=
  let sign := if x.isNegative then ['-'] else []
  if x.isZero then sign ++ ['0', '.', '0']
  else
    let (ds, p) := x.shortest
    sign ++ layOut ds p

end Binary64

end PropertyGraph
