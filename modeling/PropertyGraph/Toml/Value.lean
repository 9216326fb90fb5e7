import PropertyGraph.Bindings
import PropertyGraph.Decimal.Binary64

/-!
# TOML values

A document is a table. How a table or a list came about decides what later lines of the
document may still add to it, so values remember it.

- `Toml.Value`: a value.
- `Toml.Origin`: how a table came about.
- `Toml.Fault`: why a document is refused.
-/

namespace PropertyGraph

namespace Toml

/-- How a table came about. -/
inductive Origin where
  /-- A header of its own. -/
  | header
  /-- The header of a table inside it. -/
  | implied
  /-- A dotted key. -/
  | dotted
  /-- Braces. -/
  | inline
  deriving DecidableEq

/-- A value. -/
inductive Value where
  | string (s : String)
  | integer (i : Int)
  | float (x : Binary64)
  | boolean (b : Bool)
  /-- A date, a time or both, as written. -/
  | dateTime (text : String)
  /-- A list; `ofTables` if its items are written under headers. -/
  | array (ofTables : Bool) (items : List Value)
  | table (origin : Origin) (entries : List (String × Value))

/-- Names bound to values, each name once. -/
abbrev Table := Bindings Value

/-- Why a document is refused. -/
inductive Fault where
  /-- A text that is not of the format. -/
  | malformed
  /-- A name that is bound already, or a table that must not be added to. -/
  | redefined
  /-- Too many open brackets. -/
  | tooDeep
  /-- A number that is too large. -/
  | numberTooLarge
  deriving DecidableEq

/-- The wording of a fault. -/
def Fault.message : Fault → String
  | .malformed => "malformed text"
  | .redefined => "a name is defined twice"
  | .tooDeep => "too many open brackets"
  | .numberTooLarge => "a number is too large"

end Toml

end PropertyGraph
