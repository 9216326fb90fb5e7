import PropertyGraph.Address.Internet

/-!
# Socket addresses

An internet address and a port. An IPv6 address stands in brackets and may be followed,
inside them, by the number of the scope it is valid in.

- `SocketAddress.ofText?`: the address that a whole text spells.
- `SocketAddress.text`: the text of an address; a scope of zero is left out.
-/

namespace PropertyGraph

/-- An internet address and a port. -/
inductive SocketAddress where
  | v4 (address : Ipv4Address) (port : UInt16)
  | v6 (address : Ipv6Address) (scope : UInt32) (port : UInt16)
  deriving DecidableEq

namespace SocketAddress

/-- How a port is written. -/
def port : Numeral := ⟨10, none, true, Nat.pow 2 16⟩

/-- How the number of a scope is written. -/
def scope : Numeral := ⟨10, none, true, Nat.pow 2 32⟩

/-- Read a colon and a port. -/
def readPort (s : List Char) : Option (UInt16 × List Char) := do
  let (n, s) ← port.read (← readChar ':' s)
  return (UInt16.ofNat n, s)

/-- Read a percent sign and the number of a scope, or nothing. -/
def readScope (s : List Char) : UInt32 × List Char :=
  match readChar '%' s >>= scope.read with
  | some (n, rest) => (UInt32.ofNat n, rest)
  | none => (0, s)

/-- Read an IPv4 address and a port. -/
def readV4 (s : List Char) : Option (SocketAddress × List Char) := do
  let (address, s) ← Ipv4Address.read s
  let (port, s) ← readPort s
  return (.v4 address port, s)

/-- Read an IPv6 address in brackets and a port. -/
def readV6 (s : List Char) : Option (SocketAddress × List Char) := do
  let (address, s) ← Ipv6Address.read (← readChar '[' s)
  let (scope, s) := readScope s
  let (port, s) ← readPort (← readChar ']' s)
  return (.v6 address scope port, s)

/-- The address that a text spells. -/
def ofText? (s : String) : Option SocketAddress :=
  match readV4 s.toList <|> readV6 s.toList with
  | some (address, []) => some address
  | _ => none

/-- The number of a scope after a percent sign, unless it is zero. -/
def scopeChars (scope : UInt32) : List Char :=
  if scope = 0 then [] else '%' :: digits scope.toNat

/-- The text of an address. -/
def text : SocketAddress → String
  | .v4 address port => String.ofList (address.chars ++ ':' :: digits port.toNat)
  | .v6 address scope port =>
    String.ofList ('[' :: address.chars ++ scopeChars scope ++ ']' :: ':' :: digits port.toNat)

end SocketAddress

end PropertyGraph
