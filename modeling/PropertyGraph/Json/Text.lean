import PropertyGraph.Json.Basic

/-!
# JSON text

The compact text of a value: no spaces, members in their order, integers in
decimal digits, floating point numbers in their shortest form.

- `Json.escape`: how a character stands in a string. Only quotes, backslashes and
  control characters are escaped.
- `Json.chars`, `Json.text`: the text of a value.
-/

namespace PropertyGraph

namespace Json

/-- How a character is written inside a string. -/
def escape (c : Char) : List Char :=
  if c = '"' then ['\\', '"']
  else if c = '\\' then ['\\', '\\']
  else if c = '\x08' then ['\\', 'b']
  else if c = '\x0c' then ['\\', 'f']
  else if c = '\n' then ['\\', 'n']
  else if c = '\r' then ['\\', 'r']
  else if c = '\t' then ['\\', 't']
  else if c.toNat < 0x20 then
    ['\\', 'u', '0', '0', digitChar (c.toNat / 16), digitChar (c.toNat % 16)]
  else [c]

/-- A string in quotes. -/
def stringChars (s : String) : List Char := '"' :: s.toList.flatMap escape ++ ['"']

/-- The text of a number. -/
def Number.chars : Number → List Char
  | .int i => signedDigits i
  | .float x => x.text

mutual

/-- The characters of the compact text of a value. -/
def chars : Json → List Char
  | .null => ['n', 'u', 'l', 'l']
  | .bool true => ['t', 'r', 'u', 'e']
  | .bool false => ['f', 'a', 'l', 's', 'e']
  | .number n => n.chars
  | .string s => stringChars s
  | .array [] => ['[', ']']
  | .array (v :: vs) => '[' :: v.chars ++ itemsChars vs
  | .object [] => ['\x7b', '\x7d']
  | .object (m :: ms) => '\x7b' :: memberChars m ++ membersChars ms

/-- The items that follow the first one of an array, and the closing bracket. -/
def itemsChars : List Json → List Char
  | [] => [']']
  | v :: vs => ',' :: v.chars ++ itemsChars vs

/-- One member of an object. -/
def memberChars : String × Json → List Char
  | (name, v) => stringChars name ++ ':' :: v.chars

/-- The members that follow the first one of an object, and the closing brace. -/
def membersChars : List (String × Json) → List Char
  | [] => ['\x7d']
  | m :: ms => ',' :: memberChars m ++ membersChars ms

end

/-- The compact text of a value. -/
def text (v : Json) : String := String.ofList v.chars

end Json

/-- The text of the object with the given attributes. -/
def Attributes.text (a : Attributes) : String := a.toJson.text

end PropertyGraph
