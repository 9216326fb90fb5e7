/-!
# Digits of natural numbers

- `digits`: the decimal digits of a number, most significant first, without
  leading zeros.
- `hexDigits`: the hexadecimal digits, in lower case.
- `hexValue?`: the value of a hexadecimal digit.
- `ofDigitsIn`: the value of a row of digits.
- `ofDigitsIn_digitsIn`: **reading undoes writing**.
- `le_foldl_digits`: a number does not shrink while it is read.
-/

namespace PropertyGraph

/-- The character of a digit below sixteen, letters in lower case. -/
def digitChar (d : Nat) : Char :=
  if d < 10 then Char.ofNat (0x30 + d) else Char.ofNat (0x61 + (d - 10))

/-- The value of a hexadecimal digit of either case, by its code point. -/
def hexValue? (n : Nat) : Option Nat :=
  if 0x30 ≤ n ∧ n ≤ 0x39 then some (n - 0x30)
  else if 0x61 ≤ n ∧ n ≤ 0x66 then some (n - 0x61 + 10)
  else if 0x41 ≤ n ∧ n ≤ 0x46 then some (n - 0x41 + 10)
  else none

/-- The value of a decimal digit. -/
def digitValue? (c : Char) : Option Nat :=
  if '0' ≤ c ∧ c ≤ '9' then some (c.toNat - 0x30) else none

/-- The values of the digits of `n` in a base of at least two. -/
def digitsIn (base : Nat) (h : 2 ≤ base) (n : Nat) : List Nat :=
  if _hn : n < base then [n] else digitsIn base h (n / base) ++ [n % base]
termination_by n
decreasing_by exact Nat.div_lt_self (by omega) (by omega)

/-- The value of a row of digits in a base, most significant first. -/
def ofDigitsIn (base : Nat) (ds : List Nat) : Nat := ds.foldl (fun n d => n * base + d) 0

/-- **Reading undoes writing**: the digits of a number have its value. -/
theorem ofDigitsIn_digitsIn (base : Nat) (h : 2 ≤ base) (n : Nat) :
    ofDigitsIn base (digitsIn base h n) = n := by
  fun_induction digitsIn base h n with
  | case1 n hn => simp [ofDigitsIn]
  | case2 n hn ih =>
    rw [ofDigitsIn, List.foldl_append]
    show ofDigitsIn base (digitsIn base h (n / base)) * base + n % base = n
    rw [ih, Nat.mul_comm]
    exact Nat.div_add_mod n base

/-- More digits never make a number smaller. -/
theorem le_foldl_digits {base : Nat} (h : 0 < base) (n : Nat) (ds : List Nat) :
    n ≤ ds.foldl (fun n d => n * base + d) n := by
  induction ds generalizing n with
  | nil => exact Nat.le_refl n
  | cons d rest ih =>
    have hgrown : n ≤ n * base + d :=
      Nat.le_trans (Nat.le_mul_of_pos_right n h) (Nat.le_add_right _ d)
    exact Nat.le_trans hgrown (ih (n * base + d))

/-- The decimal digits of a number. -/
def digits (n : Nat) : List Char := (digitsIn 10 (by decide) n).map digitChar

/-- The hexadecimal digits of a number. -/
def hexDigits (n : Nat) : List Char := (digitsIn 16 (by decide) n).map digitChar

/-- A number in decimal digits. -/
def decimal (n : Nat) : String := String.ofList (digits n)

/-- An integer in decimal digits, with a sign if it is negative. -/
def signedDigits (i : Int) : List Char :=
  if i < 0 then '-' :: digits i.natAbs else digits i.natAbs

end PropertyGraph
