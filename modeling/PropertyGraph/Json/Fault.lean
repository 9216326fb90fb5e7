import PropertyGraph.Json.Basic
import PropertyGraph.Text.Quoted
import PropertyGraph.Text.Utf8

/-!
# Why a JSON text is refused

- `Json.Expected`: what a reader accepts at a place: any value, an object, or a
  list of objects.
- `Json.Cause`: the reasons for which a text is refused, and their wording.
- `Json.Fault`: a cause and a place in the text, given by how many bytes lie
  beyond it.
- `Position`: lines count from one, columns count the bytes since the last line
  feed.
-/

namespace PropertyGraph

namespace Json

/-- What is accepted at a place of a text. -/
inductive Expected where
  /-- Any value. -/
  | value
  /-- An object. -/
  | map
  /-- A list of objects. -/
  | maps
  deriving DecidableEq

/-- What the items of a list have to be. -/
def Expected.items : Expected → Expected
  | .maps => .map
  | e => e

/-- Whether a list is accepted. -/
def Expected.allowsList : Expected → Bool
  | .map => false
  | _ => true

/-- Whether an object is accepted. -/
def Expected.allowsObject : Expected → Bool
  | .maps => false
  | _ => true

/-- The words for what is expected. -/
def Expected.words : Expected → String
  | .value => "any value"
  | .map => "a map"
  | .maps => "a sequence"

/-- The words for what was found. -/
def Form.words : Form → String
  | .null => "null"
  | .boolean true => "boolean `true`"
  | .boolean false => "boolean `false`"
  | .integer i => "integer `" ++ String.ofList (signedDigits i) ++ "`"
  | .floatingPoint x => "floating point `" ++ String.ofList x.text ++ "`"
  | .text s => "string " ++ quoted s
  | .sequence => "sequence"
  | .map => "map"

/-- Why a text is refused. -/
inductive Cause where
  | endOfValue
  | endOfList
  | endOfObject
  | endOfString
  | expectedValue
  | expectedColon
  | expectedListEnd
  | expectedObjectEnd
  | trailingComma
  | trailingCharacters
  | keyNotString
  | tooDeep
  | invalidNumber
  | numberOutOfRange
  | expectedWord
  | invalidEscape
  | unfinishedSurrogatePair
  | loneSurrogate
  | controlCharacter
  | invalidCodePoint
  | mismatch (found : Form) (expected : Expected)

/-- The wording of a cause. -/
def Cause.message : Cause → String
  | .endOfValue => "EOF while parsing a value"
  | .endOfList => "EOF while parsing a list"
  | .endOfObject => "EOF while parsing an object"
  | .endOfString => "EOF while parsing a string"
  | .expectedValue => "expected value"
  | .expectedColon => "expected `:`"
  | .expectedListEnd => "expected `,` or `]`"
  | .expectedObjectEnd => "expected `,` or `\x7d`"
  | .trailingComma => "trailing comma"
  | .trailingCharacters => "trailing characters"
  | .keyNotString => "key must be a string"
  | .tooDeep => "recursion limit exceeded"
  | .invalidNumber => "invalid number"
  | .numberOutOfRange => "number out of range"
  | .expectedWord => "expected ident"
  | .invalidEscape => "invalid escape"
  | .unfinishedSurrogatePair => "unexpected end of hex escape"
  | .loneSurrogate => "lone leading surrogate in hex escape"
  | .controlCharacter => "control character (\\u0000-\\u001F) found while parsing a string"
  | .invalidCodePoint => "invalid unicode code point"
  | .mismatch found expected => "invalid type: " ++ found.words ++ ", expected " ++ expected.words

/-- A cause and its place: the number of bytes of the text that lie beyond it. -/
structure Fault where
  cause : Cause
  beyond : Nat

end Json

/-- A place in a text. -/
structure Position where
  /-- Lines count from one. -/
  line : Nat
  /-- Bytes since the last line feed. -/
  column : Nat
  deriving DecidableEq

namespace Position

/-- The beginning of a text. -/
def start : Position := ⟨1, 0⟩

/-- The place after one more byte. -/
def advance (p : Position) (b : UInt8) : Position :=
  if b = 0x0A then ⟨p.line + 1, 0⟩ else ⟨p.line, p.column + 1⟩

/-- The place after a number of bytes. -/
def after (s : Bytes) (n : Nat) : Position := (s.take n).foldl advance start

end Position

/-- The wording of a fault, with its place in the text. -/
def Json.Fault.message (f : Json.Fault) (s : Bytes) : String :=
  let p := Position.after s (s.length - f.beyond)
  f.cause.message ++ " at line " ++ decimal p.line ++ " column " ++ decimal p.column

end PropertyGraph
