/-!
# UTF-8 text as lists of bytes

Request bodies, percent-encoded paths and configuration files arrive as bytes.
This module reads them as text, one character at a time.

- `Utf8.leading`: what a first byte promises: the bits it carries and the range
  each following byte has to lie in. Overlong forms, surrogates and values above
  U+10FFFF are excluded by these ranges alone.
- `Utf8.next`: one character, or the bytes that were ruled out.
- `Utf8.decode`: the longest well-formed part at the front, and what follows it.
- `Utf8.decodeLossy`: text from any bytes; each maximal ill-formed part becomes
  one U+FFFD.
- `Utf8.encode`: the bytes of a string.
-/

namespace PropertyGraph

/-- A sequence of bytes. -/
abbrev Bytes := List UInt8

namespace Utf8

/-- The bytes of a list of characters. -/
def encodeChars (cs : List Char) : Bytes := cs.flatMap String.utf8EncodeChar

/-- The bytes of a string. -/
def encode (s : String) : Bytes := encodeChars s.toList

/-- The range of an unrestricted continuation byte. -/
def tail : Nat × Nat := (0x80, 0xBF)

/-- The bits a leading byte carries, and the range of every byte that follows it. -/
def leading (b : UInt8) : Option (Nat × List (Nat × Nat)) :=
  let n := b.toNat
  if n < 0x80 then some (n, [])
  else if n < 0xC2 then none
  else if n < 0xE0 then some (n - 0xC0, [tail])
  else if n = 0xE0 then some (0, [(0xA0, 0xBF), tail])
  else if n = 0xED then some (0xD, [(0x80, 0x9F), tail])
  else if n < 0xF0 then some (n - 0xE0, [tail, tail])
  else if n = 0xF0 then some (0, [(0x90, 0xBF), tail, tail])
  else if n < 0xF4 then some (n - 0xF0, [tail, tail, tail])
  else if n = 0xF4 then some (4, [(0x80, 0x8F), tail, tail])
  else none

/-- Read one byte per range, six bits from each, as long as every byte lies in its
range. The answer is the value, if all ranges were met, and the unread bytes. -/
def continuation (value : Nat) : List (Nat × Nat) → Bytes → Option Nat × Bytes
  | [], s => (some value, s)
  | _ :: _, [] => (none, [])
  | (lo, hi) :: more, b :: s =>
    if lo ≤ b.toNat ∧ b.toNat ≤ hi then
      continuation (value * 64 + (b.toNat - 0x80)) more s
    else (none, b :: s)

theorem continuation_length (value : Nat) (ranges : List (Nat × Nat)) (s : Bytes) :
    (continuation value ranges s).2.length ≤ s.length := by
  induction ranges generalizing value s with
  | nil => exact Nat.le_refl _
  | cons r more ih =>
    cases s with
    | nil => exact Nat.le_refl _
    | cons b s =>
      rw [continuation]
      split
      · exact Nat.le_trans (ih _ s) (Nat.le_succ _)
      · exact Nat.le_refl _

/-- The character that begins with byte `b`, if `b` and the bytes after it form one,
and the bytes after the character or after the ruled-out part. -/
def next (b : UInt8) (s : Bytes) : Option Char × Bytes :=
  match leading b with
  | none => (none, s)
  | some (value, ranges) =>
    match continuation value ranges s with
    | (some n, r) => (some (Char.ofNat n), r)
    | (none, r) => (none, r)

theorem next_length (b : UInt8) (s : Bytes) : (next b s).2.length ≤ s.length := by
  unfold next
  split
  · exact Nat.le_refl _
  · next value ranges _ =>
    have h := continuation_length value ranges s
    split <;> simp_all

/-- `decode` with the characters read so far, last first. -/
def decodeFrom (acc : List Char) : Bytes → List Char × Bytes
  | [] => (acc.reverse, [])
  | b :: s =>
    match _h : next b s with
    | (some c, r) => decodeFrom (c :: acc) r
    | (none, _) => (acc.reverse, b :: s)
termination_by s => s.length
decreasing_by
  have hl := next_length b s
  rw [_h] at hl
  exact Nat.lt_succ_of_le hl

/-- The characters of the longest well-formed part at the front, and the bytes from
the first ill-formed character on. -/
def decode (s : Bytes) : List Char × Bytes := decodeFrom [] s

/-- The text of a wholly well-formed sequence of bytes. -/
def decode? (s : Bytes) : Option String :=
  match decode s with
  | (cs, []) => some (String.ofList cs)
  | (_, _ :: _) => none

/-- `decodeLossy` with the characters read so far, last first. -/
def decodeLossyFrom (acc : List Char) : Bytes → List Char
  | [] => acc.reverse
  | b :: s =>
    match _h : next b s with
    | (c, r) => decodeLossyFrom (c.getD '\uFFFD' :: acc) r
termination_by s => s.length
decreasing_by
  have hl := next_length b s
  rw [_h] at hl
  exact Nat.lt_succ_of_le hl

/-- Text from any bytes: what is no character becomes U+FFFD. -/
def decodeLossy (s : Bytes) : String := String.ofList (decodeLossyFrom [] s)

end Utf8

end PropertyGraph
