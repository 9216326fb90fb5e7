import PropertyGraph.Decimal.Digits
import PropertyGraph.Text.Invisible

/-!
# Quoted text in messages

A message that reports an unexpected text shows it between double quotes, on one
line, with every character recognisable.

- `Quoted.escape`: how one character is shown. Quotes, backslashes and the usual
  control characters have short escapes; a character that cannot be seen or
  cannot stand alone is spelled by its code point in braces.
- `quoted`: a whole text between quotes.
-/

namespace PropertyGraph

/-- How one character is shown between quotes. -/
def Quoted.escape (c : Char) : List Char :=
  if c = '\x00' then ['\\', '0']
  else if c = '\t' then ['\\', 't']
  else if c = '\r' then ['\\', 'r']
  else if c = '\n' then ['\\', 'n']
  else if c = '\\' then ['\\', '\\']
  else if c = '"' then ['\\', '"']
  else if isInvisible c then
    ['\\', 'u', '\x7b'] ++ hexDigits c.toNat ++ ['\x7d']
  else [c]

/-- A text between double quotes, every character shown on its own. -/
def quoted (s : String) : String :=
  String.ofList ('"' :: s.toList.flatMap Quoted.escape ++ ['"'])

end PropertyGraph
