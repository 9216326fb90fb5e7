import PropertyGraph.Decimal.Digits
import PropertyGraph.Text.Fields
import PropertyGraph.Text.Utf8

/-!
# Percent-encoded text

Paths and queries of request targets carry bytes as `%` and two hexadecimal
digits.

- `Percent.decode`: the bytes of an encoded text. A `%` that two digits do not
  follow stands for itself.
- `Percent.decodePath?`: a path as text, if its bytes are UTF-8.
- `Percent.parseForm`: the named parameters of a query: parts between `&`, each
  split at its first `=`, with `+` for a space. Empty parts do not count, and a
  part without `=` names a parameter with an empty value.
-/

namespace PropertyGraph

namespace Percent

/-- Replace every `%` that two hexadecimal digits follow by the byte they spell. -/
def decode : Bytes → Bytes
  | [] => []
  | b :: hi :: lo :: rest =>
    if b = 0x25 then
      match hexValue? hi.toNat, hexValue? lo.toNat with
      | some h, some l => UInt8.ofNat (h * 16 + l) :: decode rest
      | _, _ => b :: decode (hi :: lo :: rest)
    else b :: decode (hi :: lo :: rest)
  | b :: rest => b :: decode rest

/-- The text of an encoded path; none if the decoded bytes are not UTF-8. -/
def decodePath? (s : List Char) : Option String :=
  Utf8.decode? (decode (Utf8.encodeChars s))

/-- The text of an encoded name or value of a form. -/
def decodeFormText (s : List Char) : String :=
  Utf8.decodeLossy (decode (Utf8.encodeChars (s.map fun c => if c = '+' then ' ' else c)))

/-- The name and value of one part of a form. -/
def parseFormPart (part : List Char) : String × String :=
  match splitFirst '=' part with
  | (name, value) => (decodeFormText name, decodeFormText (value.getD []))

/-- The names and values of a form, in order. -/
def parseForm (s : List Char) : List (String × String) :=
  ((fieldChars '&' s).filter fun part => !part.isEmpty).map parseFormPart

end Percent

end PropertyGraph
