import PropertyGraph.Address.Numeral

/-!
# Internet addresses

- `Ipv4Address`: four octets, written in decimal digits with dots between them.
- `Ipv6Address`: eight groups of sixteen bits, written in hexadecimal digits with
  colons between them. In a text, `::` stands for as many zero groups as are missing,
  at least one, and the last two groups may be written as an IPv4 address.
- `Ipv6Address.chars`: the shortest such text. The longest run of two or more zero
  groups, the first of several, becomes `::`; an address that embeds an IPv4 address
  shows it.
-/

namespace PropertyGraph

/-! ## Four octets -/

/-- An address of four octets. -/
structure Ipv4Address where
  a : UInt8
  b : UInt8
  c : UInt8
  d : UInt8
  deriving DecidableEq

namespace Ipv4Address

/-- How an octet is written. -/
def octet : Numeral := ⟨10, some 3, false, Nat.pow 2 8⟩

/-- Read an octet after a dot. -/
def readNext (s : List Char) : Option (UInt8 × List Char) := do
  let (n, s) ← octet.read (← readChar '.' s)
  return (UInt8.ofNat n, s)

/-- Read an address. -/
def read (s : List Char) : Option (Ipv4Address × List Char) := do
  let (a, s) ← octet.read s
  let (b, s) ← readNext s
  let (c, s) ← readNext s
  let (d, s) ← readNext s
  return (⟨UInt8.ofNat a, b, c, d⟩, s)

/-- The text of an address. -/
def chars (x : Ipv4Address) : List Char :=
  digits x.a.toNat ++ '.' :: digits x.b.toNat ++ '.' :: digits x.c.toNat ++ '.' :: digits x.d.toNat

/-- The two groups that stand for an address. -/
def groups (x : Ipv4Address) : List UInt16 :=
  [UInt16.ofNat (x.a.toNat * 256 + x.b.toNat), UInt16.ofNat (x.c.toNat * 256 + x.d.toNat)]

/-- The address that two groups stand for. -/
def ofGroups (g h : UInt16) : Ipv4Address :=
  ⟨UInt8.ofNat (g.toNat / 256), UInt8.ofNat (g.toNat % 256),
    UInt8.ofNat (h.toNat / 256), UInt8.ofNat (h.toNat % 256)⟩

end Ipv4Address

/-! ## Eight groups -/

/-- An address of eight groups. -/
structure Ipv6Address where
  groups : List UInt16
  length_groups : groups.length = 8
  deriving DecidableEq

namespace Ipv6Address

/-- How a group is written. -/
def group : Numeral := ⟨16, some 4, true, Nat.pow 2 16⟩

/-- A text after the colon that separates it from a group before it. -/
def separated (first : Bool) (s : List Char) : Option (List Char) :=
  if first then some s else readChar ':' s

/-- Read at most `n` groups, and tell whether the last two were an IPv4 address. -/
def readGroups : (n : Nat) → (first : Bool) → List Char → List UInt16 × Bool × List Char
  | 0, _, s => ([], false, s)
  | n + 1, first, s =>
    -- an IPv4 address takes the place of two groups, so it cannot be the last one alone
    match if n = 0 then none else separated first s >>= Ipv4Address.read with
    | some (x, rest) => (x.groups, true, rest)
    | none =>
      match separated first s >>= group.read with
      | none => ([], false, s)
      | some (g, rest) =>
        let (gs, embedded, rest) := readGroups n false rest
        (UInt16.ofNat g :: gs, embedded, rest)

/-- Groups with zero groups between them, if that makes eight. -/
def ofParts? (head tail : List UInt16) : Option Ipv6Address :=
  let groups := head ++ List.replicate (8 - (head.length + tail.length)) 0 ++ tail
  if h : groups.length = 8 then some ⟨groups, h⟩ else none

/-- Read an address. An IPv4 address stands at the end or not at all. -/
def read (s : List Char) : Option (Ipv6Address × List Char) := do
  let (head, embedded, rest) := readGroups 8 true s
  if head.length = 8 then return (← ofParts? head [], rest)
  if embedded then none
  let rest ← readChar ':' (← readChar ':' rest)
  -- the double colon stands for one group at least, so at most seven are written
  let (tail, _, rest) := readGroups (7 - head.length) true rest
  return (← ofParts? head tail, rest)

/-- Groups with colons between them. -/
def groupChars : List UInt16 → List Char
  | [] => []
  | [g] => hexDigits g.toNat
  | g :: gs => hexDigits g.toNat ++ ':' :: groupChars gs

/-- The length of the run of zero groups at the front. -/
def zeroRun (gs : List UInt16) : Nat := (gs.takeWhile (· = 0)).length

/-- The place and the length of the longest run of zero groups, the first of several. -/
def longestZeroRun : List UInt16 → Nat × Nat
  | [] => (0, 0)
  | g :: gs =>
    let (start, length) := longestZeroRun gs
    if length ≤ zeroRun (g :: gs) then (0, zeroRun (g :: gs)) else (start + 1, length)

/-- The text of an address. -/
def chars (x : Ipv6Address) : List Char :=
  match x.groups with
  | [0, 0, 0, 0, 0, 0xFFFF, g, h] => "::ffff:".toList ++ (Ipv4Address.ofGroups g h).chars
  | gs =>
    let (start, length) := longestZeroRun gs
    if 1 < length then
      groupChars (gs.take start) ++ "::".toList ++ groupChars (gs.drop (start + length))
    else groupChars gs

end Ipv6Address

end PropertyGraph
