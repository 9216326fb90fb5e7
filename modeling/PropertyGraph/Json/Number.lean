import PropertyGraph.Json.Fault

/-!
# Numbers in a JSON text

A number is read from its digits into a significand of at most sixty-four bits and
a power of ten, and from those into an integer or a double.

- `Json.absorb`: **the significand stops growing** at the first digit that would
  take it to `2 ^ 64`. Digits dropped before the point raise the power of ten;
  digits dropped behind it are forgotten.
- `Json.integer`: an integer literal stays one if sixty-four bits hold it; a
  negative zero does not.
- `Json.readNumber`: a number after its sign.

Every reader answers with the bytes it leaves, fewer than it was given.
-/

namespace PropertyGraph

namespace Json

/-- Whether a byte is a decimal digit. -/
def isDigit (b : UInt8) : Bool := 0x30 ≤ b && b ≤ 0x39

/-- The value of a decimal digit. -/
def digitValue (b : UInt8) : Nat := b.toNat - 0x30

/-- The digits at the front. -/
def digitRun (s : Bytes) : List Nat := (s.takeWhile isDigit).map digitValue

/-- What follows the digits at the front. -/
def afterDigits (s : Bytes) : Bytes := s.dropWhile isDigit

theorem afterDigits_length (s : Bytes) : (afterDigits s).length ≤ s.length :=
  (List.dropWhile_sublist isDigit).length_le

/-- Append digits to a significand below `2 ^ 64`, and count those that no longer fit. -/
def absorb (significand : Nat) : List Nat → Nat × Nat
  | [] => (significand, 0)
  | d :: ds =>
    if significand * 10 + d < Nat.pow 2 64 then absorb (significand * 10 + d) ds
    else (significand, ds.length + 1)

/-- The largest power of ten a literal can spell. -/
def exponentLimit : Nat := 2147483647

/-- A magnitude with its sign. -/
def signed (negative : Bool) (x : Binary64) : Number :=
  .float (if negative then x.negative else x)

/-- The number of an integer literal whose magnitude is below `2 ^ 64`. -/
def integer (negative : Bool) (magnitude : Nat) : Number :=
  if negative then
    -- a signed integer has no negative zero and reaches down to minus two to the sixty-third
    if magnitude = 0 ∨ Nat.pow 2 63 < magnitude then signed true (.ofNat magnitude)
    else .int (-magnitude)
  else .int magnitude

/-- The number of a significand and a power of ten, with what follows it. -/
def float (negative : Bool) (significand : Nat) (e : Int) (rest : Bytes) :
    Except Fault (Number × Bytes) :=
  match (Binary64.ofNat significand).scaleTen? e with
  | some x => .ok (signed negative x, rest)
  | none => .error ⟨.numberOutOfRange, rest.length⟩

/-- Read the digits of an exponent as long as they stay within the limit. Without a
value, the digit that passed the limit is the last one read. -/
def readExponentDigits (e : Nat) : Bytes → Option Nat × Bytes
  | [] => (some e, [])
  | b :: s =>
    if isDigit b then
      if e * 10 + digitValue b ≤ exponentLimit then readExponentDigits (e * 10 + digitValue b) s
      else (none, s)
    else (some e, b :: s)

/-- Whether a byte announces an exponent. -/
def isExponentMark (b : UInt8) : Bool := b = 0x65 || b = 0x45

/-- Whether an exponent is negative, and its digits. -/
def exponentSign : Bytes → Bool × Bytes
  | [] => (false, [])
  | b :: s =>
    if b = 0x2D then (true, s)
    else if b = 0x2B then (false, s)
    else (false, b :: s)

/-- Read the digits of an exponent and give the number. An exponent past the limit is
an error unless the number is zero anyway. -/
def readExponentValue (negative : Bool) (significand : Nat) (e : Int) (down : Bool) :
    Bytes → Except Fault (Number × Bytes)
  | [] => .error ⟨.endOfValue, 0⟩
  | b :: t =>
    if isDigit b then
      match readExponentDigits 0 (b :: t) with
      | (some n, rest) => float negative significand (if down then e - n else e + n) rest
      | (none, rest) =>
        if significand ≠ 0 ∧ !down then .error ⟨.numberOutOfRange, rest.length⟩
        else .ok (signed negative ⟨0⟩, afterDigits rest)
    else .error ⟨.invalidNumber, t.length⟩

/-- Read the exponent of a number, if there is one, and give the number. -/
def readExponent (negative : Bool) (significand : Nat) (e : Int) (s : Bytes) :
    Except Fault (Number × Bytes) :=
  match s with
  | [] => float negative significand e []
  | b :: t =>
    if isExponentMark b then
      readExponentValue negative significand e (exponentSign t).1 (exponentSign t).2
    else float negative significand e (b :: t)

/-- Read what follows the point. -/
def readFraction (negative : Bool) (significand dropped : Nat) (s : Bytes) :
    Except Fault (Number × Bytes) :=
  match digitRun s with
  | [] =>
    match afterDigits s with
    | [] => .error ⟨.endOfValue, 0⟩
    | _ :: u => .error ⟨.invalidNumber, u.length⟩
  | d :: ds =>
    let grown := absorb significand (d :: ds)
    readExponent negative grown.1 ((dropped : Int) - ((ds.length + 1 : Nat) - (grown.2 : Int)))
      (afterDigits s)

/-- Read what follows the digits before the point. -/
def readTail (negative : Bool) (significand dropped : Nat) (s : Bytes) :
    Except Fault (Number × Bytes) :=
  match s with
  | [] =>
    if dropped = 0 then .ok (integer negative significand, [])
    else float negative significand dropped []
  | b :: t =>
    if b = 0x2E then readFraction negative significand dropped t
    else if isExponentMark b then readExponent negative significand dropped (b :: t)
    else if dropped = 0 then .ok (integer negative significand, b :: t)
    else float negative significand dropped (b :: t)

/-- Read a number after its sign. A zero before the point stands alone. -/
def readNumber (negative : Bool) (s : Bytes) : Except Fault (Number × Bytes) :=
  match s with
  | [] => .error ⟨.endOfValue, 0⟩
  | b :: t =>
    if b = 0x30 then
      match t with
      | [] => readTail negative 0 0 []
      | d :: u =>
        if isDigit d then .error ⟨.invalidNumber, u.length⟩
        else readTail negative 0 0 (d :: u)
    else if isDigit b then
      let whole := absorb 0 (digitValue b :: digitRun t)
      readTail negative whole.1 whole.2 (afterDigits t)
    else .error ⟨.invalidNumber, t.length⟩

/-! ## What is left is shorter -/

theorem readExponentDigits_length (e : Nat) (s : Bytes) :
    (readExponentDigits e s).2.length ≤ s.length := by
  induction s generalizing e with
  | nil => exact Nat.le_refl _
  | cons b s ih =>
    rw [readExponentDigits]
    split
    · split
      · exact Nat.le_trans (ih _) (Nat.le_succ _)
      · exact Nat.le_succ _
    · exact Nat.le_refl _

theorem exponentSign_length (s : Bytes) : (exponentSign s).2.length ≤ s.length := by
  cases s with
  | nil => exact Nat.le_refl _
  | cons b s =>
    rw [exponentSign]
    split
    · exact Nat.le_succ _
    · split
      · exact Nat.le_succ _
      · exact Nat.le_refl _

variable {negative : Bool} {significand dropped : Nat} {e : Int} {s r : Bytes} {n : Number}

theorem rest_of_float (h : float negative significand e s = .ok (n, r)) : r = s := by
  unfold float at h
  split at h <;> cases h
  rfl

theorem readExponentValue_length {down : Bool}
    (h : readExponentValue negative significand e down s = .ok (n, r)) : r.length ≤ s.length := by
  unfold readExponentValue at h
  split at h
  · cases h
  · next b t =>
    split at h
    · have hl := readExponentDigits_length 0 (b :: t)
      split at h
      · next heq =>
        rw [heq] at hl
        exact rest_of_float h ▸ hl
      · next heq =>
        rw [heq] at hl
        split at h <;> cases h
        exact Nat.le_trans (afterDigits_length _) hl
    · cases h

theorem readExponent_length (h : readExponent negative significand e s = .ok (n, r)) :
    r.length ≤ s.length := by
  unfold readExponent at h
  split at h
  · exact rest_of_float h ▸ Nat.le_refl _
  · next b t =>
    split at h
    · exact Nat.le_trans (readExponentValue_length h)
        (Nat.le_trans (exponentSign_length t) (Nat.le_succ _))
    · exact rest_of_float h ▸ Nat.le_refl _

theorem readFraction_length (h : readFraction negative significand dropped s = .ok (n, r)) :
    r.length ≤ s.length := by
  unfold readFraction at h
  split at h
  · split at h <;> cases h
  · exact Nat.le_trans (readExponent_length h) (afterDigits_length s)

theorem readTail_length (h : readTail negative significand dropped s = .ok (n, r)) :
    r.length ≤ s.length := by
  unfold readTail at h
  split at h
  · split at h
    · cases h
      exact Nat.le_refl _
    · exact rest_of_float h ▸ Nat.le_refl _
  · split at h
    · exact Nat.le_trans (readFraction_length h) (Nat.le_succ _)
    · split at h
      · exact readExponent_length h
      · split at h
        · cases h
          exact Nat.le_refl _
        · exact rest_of_float h ▸ Nat.le_refl _

theorem readNumber_length (h : readNumber negative s = .ok (n, r)) : r.length < s.length := by
  unfold readNumber at h
  split at h
  · cases h
  · next b t =>
    split at h
    · split at h
      · exact Nat.lt_succ_of_le (readTail_length h)
      · split at h
        · cases h
        · exact Nat.lt_succ_of_le (readTail_length h)
    · split at h
      · exact Nat.lt_succ_of_le (Nat.le_trans (readTail_length h) (afterDigits_length t))
      · cases h

end Json

end PropertyGraph
