import PropertyGraph.Decimal.Shortest
import PropertyGraph.NameMap

/-!
# JSON values

- `Json.Number`: integers stay integers; everything else is a double.
- `Json`: a value. Members of an object are listed in the order of its text. Every
  object that is read has them by ascending name, each name once, and `Json.ofBindings`
  brings any listing into this form.
- `Attributes`: the members of an object as a map, which is what graph entities
  are made of.
- `Json.Form`: what a value looks like to a reader that expected something else.
-/

namespace PropertyGraph

/-- A number of a JSON text. -/
inductive Json.Number where
  /-- An integer of sixty-four bits, signed if negative and unsigned otherwise. -/
  | int (i : Int)
  /-- Any other number, as a double. -/
  | float (x : Binary64)
  deriving DecidableEq

/-- A JSON value. -/
inductive Json where
  | null
  | bool (b : Bool)
  | number (n : Json.Number)
  | string (s : String)
  | array (items : List Json)
  /-- Members in the order of the text. -/
  | object (members : List (String × Json))

/-- A flat description of a node or an edge: names bound to values. -/
abbrev Attributes := NameMap Json

/-- The object with the given attributes. -/
def Attributes.toJson (a : Attributes) : Json := .object a.entries

namespace Json

instance : Inhabited Json := ⟨.null⟩

/-- The object of members in any order; of several values for a name the last counts. -/
def ofBindings (members : Bindings Json) : Json := .object (NameMap.ofList members).entries

/-- The outward form of a value, as messages name it. -/
inductive Form where
  | null
  | boolean (b : Bool)
  | integer (i : Int)
  | floatingPoint (x : Binary64)
  | text (s : String)
  | sequence
  | map

/-- The form of a value. -/
def form : Json → Form
  | .null => .null
  | .bool b => .boolean b
  | .number (.int i) => .integer i
  | .number (.float x) => .floatingPoint x
  | .string s => .text s
  | .array _ => .sequence
  | .object _ => .map

end Json

end PropertyGraph
