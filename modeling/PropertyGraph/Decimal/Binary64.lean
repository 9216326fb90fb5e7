import PropertyGraph.Decimal.Digits

/-!
# Binary floating point numbers of 64 bits

A `Binary64` is the bit pattern of a double precision number. All arithmetic is
exact arithmetic on natural numbers followed by one rounding.

- `Binary64.significand`, `Binary64.exponent`: a finite magnitude is
  `significand · 2 ^ exponent`.
- `Binary64.ofRatio`: the double nearest to a quotient of natural numbers, a tie
  going to the even significand, infinity beyond the largest double.
- `Binary64.mul`, `Binary64.div`, `Binary64.ofNat`: one exact operation and one
  rounding each, on magnitudes.
- `Binary64.scaleTen?`: multiply by a power of ten the way number literals are
  read: by one product or quotient with a power of ten that is itself a double,
  after steps of `10 ^ 308` for smaller exponents.
- `Binary64.ofDecimal?`: the double nearest to a decimal, by one rounding.
-/

namespace PropertyGraph

/-- A double precision number, by its bits. -/
structure Binary64 where
  /-- Sign, eleven bits of exponent, fifty-two bits of fraction. -/
  bits : UInt64
  deriving DecidableEq

namespace Binary64

/-- The weight of the sign bit. -/
def signBit : Nat := Nat.pow 2 63

/-- The bits without the sign. -/
def magnitudeBits (x : Binary64) : Nat := x.bits.toNat % signBit

/-- Whether the sign bit is set; zero has a sign too. -/
def isNegative (x : Binary64) : Bool := signBit ≤ x.bits.toNat

/-- Fractions are below this number. -/
def fractionBound : Nat := Nat.pow 2 52

/-- The magnitude bits of infinity. -/
def infinityBits : Nat := 2047 * fractionBound

/-- Positive infinity. -/
def infinity : Binary64 := ⟨UInt64.ofNat infinityBits⟩

/-- What is not a number. -/
def nan : Binary64 := ⟨UInt64.ofNat (infinityBits + fractionBound / 2)⟩

/-- Whether the magnitude is infinite. -/
def isInfinite (x : Binary64) : Bool := x.magnitudeBits = infinityBits

/-- Whether the number is zero, of either sign. -/
def isZero (x : Binary64) : Bool := x.magnitudeBits = 0

/-- A finite magnitude is its significand times two to its exponent. -/
def significand (x : Binary64) : Nat :=
  if x.magnitudeBits / fractionBound = 0 then x.magnitudeBits
  else x.magnitudeBits % fractionBound + fractionBound

/-- A finite magnitude is its significand times two to its exponent. -/
def exponent (x : Binary64) : Int :=
  if x.magnitudeBits / fractionBound = 0 then -1074
  else (x.magnitudeBits / fractionBound : Nat) - 1075

/-- The same magnitude with the sign bit set. -/
def negative (x : Binary64) : Binary64 := ⟨UInt64.ofNat (signBit + x.magnitudeBits)⟩

/-- The nearest integer to a quotient, a tie going to the even one. -/
def roundHalfEven (num den : Nat) : Nat :=
  let q := num / den
  let r := num % den
  if 2 * r < den then q
  else if den < 2 * r then q + 1
  else if q % 2 = 0 then q
  else q + 1

/-- A quotient divided by two to an exponent, as a quotient. -/
def unscale (num den : Nat) (e : Int) : Nat × Nat :=
  if 0 ≤ e then (num, den * Nat.pow 2 e.toNat) else (num * Nat.pow 2 (-e).toNat, den)

/-- The exponent at which a quotient has fifty-three significant bits, or the least
exponent there is. -/
def exponentOf (num den : Nat) : Int :=
  -- the lengths of both numbers give the exponent up to one
  let e : Int := (Nat.log2 num : Int) - Nat.log2 den - 53
  let (n, d) := unscale num den e
  max (if n / d < Nat.pow 2 53 then e else e + 1) (-1074)

/-- The double nearest to `num / den`. -/
def ofRatio (num den : Nat) : Binary64 :=
  if num = 0 then ⟨0⟩
  else
    let e := exponentOf num den
    let (n, d) := unscale num den e
    let bits := (e + 1074).toNat * fractionBound + roundHalfEven n d
    ⟨UInt64.ofNat (min bits infinityBits)⟩

/-- The double nearest to a natural number. -/
def ofNat (n : Nat) : Binary64 := ofRatio n 1

/-- Two to an exponent, as a quotient. -/
def powTwo (e : Int) : Nat × Nat :=
  if 0 ≤ e then (Nat.pow 2 e.toNat, 1) else (1, Nat.pow 2 (-e).toNat)

/-- The magnitude of a product of finite numbers. -/
def mul (x y : Binary64) : Binary64 :=
  let (n, d) := powTwo (x.exponent + y.exponent)
  ofRatio (x.significand * y.significand * n) d

/-- The magnitude of a quotient of finite numbers; the divisor is not zero. -/
def div (x y : Binary64) : Binary64 :=
  let (n, d) := powTwo (x.exponent - y.exponent)
  ofRatio (x.significand * n) (y.significand * d)

/-- The double nearest to a power of ten. -/
def powTen (n : Nat) : Binary64 := ofNat (Nat.pow 10 n)

/-- A magnitude times `10 ^ e`, each step rounded; none if the result is too large. -/
def scaleTen? (x : Binary64) (e : Int) : Option Binary64 :=
  if e.natAbs ≤ 308 then
    if 0 ≤ e then
      let y := x.mul (powTen e.natAbs)
      if y.isInfinite then none else some y
    else some (x.div (powTen e.natAbs))
  else if x.isZero then some x
  else if 0 ≤ e then none
  else scaleTen? (x.div (powTen 308)) (e + 308)
termination_by e.natAbs
decreasing_by omega

/-- The double nearest to `n · 10 ^ e`; none if that is too large. Powers that cannot
matter are not computed: a number of `k` digits lies below `10 ^ (k + e)`. -/
def ofDecimal? (n : Nat) (e : Int) : Option Binary64 :=
  let top := (digits n).length + e
  if n = 0 ∨ top < -400 then some ⟨0⟩
  else if 400 < top then none
  else
    let x := if 0 ≤ e then ofNat (n * Nat.pow 10 e.toNat) else ofRatio n (Nat.pow 10 (-e).toNat)
    if x.isInfinite then none else some x

end Binary64

end PropertyGraph
