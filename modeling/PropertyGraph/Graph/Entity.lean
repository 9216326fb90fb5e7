import PropertyGraph.Graph.Fault
import PropertyGraph.Json.Text

/-!
# Nodes and edges

A node is a flat map of attributes; an edge is one too and describes its two ends
in eight further attributes. Attributes may hold any JSON value, so keys, kinds and
roles are compared in their string form.

- `Attributes.stringForm`: the string form of an attribute.
- `Node`, `Edge`: the two sorts of entities, each with `key` and `kind`.
- `Edge.endpoint`: the description of one end, or a fault that names the first
  attribute of it that is missing or unusable.
- `Edge.setEnd`: describe one end anew.
-/

namespace PropertyGraph

/-- The string form of a value: strings are taken as they are, nothing and null are
empty, anything else is its JSON text. -/
def Json.stringForm : Option Json → String
  | none => ""
  | some .null => ""
  | some (.string s) => s
  | some v => v.text

namespace Attributes

/-- The string form of an attribute. -/
def stringForm (a : Attributes) (name : String) : String := Json.stringForm (a.get? name)

/-- The attributes with the given names. -/
def project (a : Attributes) (names : List String) : Attributes :=
  NameMap.ofList (names.filterMap fun n => (a.get? n).map fun v => (n, v))

end Attributes

/-- The attribute that identifies an entity within its kind. -/
def keyName : String := "key"

/-- The attribute that names the kind of an entity. -/
def kindName : String := "kind"

/-- A node of the graph. -/
structure Node where
  attributes : Attributes

/-- An edge of the graph. -/
structure Edge where
  attributes : Attributes

namespace Node

instance : Inhabited Node := ⟨⟨∅⟩⟩

/-- A node with a key and a kind. -/
def ofKey (key kind : String) : Node :=
  ⟨((∅ : NameMap Json).insert keyName (.string key)).insert kindName (.string kind)⟩

/-- The string form of the key. -/
def key (n : Node) : String := n.attributes.stringForm keyName

/-- The string form of the kind. -/
def kind (n : Node) : String := n.attributes.stringForm kindName

/-- Bind an attribute. -/
def set (n : Node) (name : String) (v : Json) : Node := ⟨n.attributes.insert name v⟩

/-- The node with only the named attributes. -/
def project (n : Node) (names : List String) : Node := ⟨n.attributes.project names⟩

/-- Lay the attributes of another node over those of this one. -/
def merge (n other : Node) : Node := ⟨n.attributes.union other.attributes⟩

/-- The JSON text of the attributes. -/
def text (n : Node) : String := n.attributes.text

end Node

/-- What an edge says about the node at one of its ends. -/
structure EdgeEnd where
  /-- Key of the node. -/
  key : String
  /-- Kind of the node. -/
  kind : String
  /-- Role the node plays. -/
  role : String
  /-- Whether removing the node removes the node at the other end too. -/
  cascading : Bool
  deriving DecidableEq

/-- One of the two ends of an edge. -/
inductive EndSide where
  | first
  | second
  deriving DecidableEq

namespace EndSide

/-- The opposite end. -/
def other : EndSide → EndSide
  | .first => .second
  | .second => .first

/-- Both ends, in order. -/
def all : List EndSide := [.first, .second]

/-- The attribute with the key of the node at an end. -/
def keyName : EndSide → String
  | .first => "end1key"
  | .second => "end2key"

/-- The attribute with the kind of the node at an end. -/
def kindName : EndSide → String
  | .first => "end1kind"
  | .second => "end2kind"

/-- The attribute with the role of the node at an end. -/
def roleName : EndSide → String
  | .first => "end1role"
  | .second => "end2role"

/-- The attribute that says whether removal cascades from an end. -/
def cascadingName : EndSide → String
  | .first => "end1cascading"
  | .second => "end2cascading"

end EndSide

namespace Edge

instance : Inhabited Edge := ⟨⟨∅⟩⟩

/-- The string form of the key. -/
def key (e : Edge) : String := e.attributes.stringForm PropertyGraph.keyName

/-- The string form of the kind. -/
def kind (e : Edge) : String := e.attributes.stringForm PropertyGraph.kindName

/-- The edge with only the named attributes. -/
def project (e : Edge) (names : List String) : Edge := ⟨e.attributes.project names⟩

/-- The JSON text of the attributes. -/
def text (e : Edge) : String := e.attributes.text

/-- The string form of an attribute that must not be empty. -/
def required (e : Edge) (name : String) : Except StoreFault String :=
  let s := e.attributes.stringForm name
  if s = "" then .error (.invalidData .edge name) else .ok s

/-- The value of an attribute that must be true or false. -/
def requiredFlag (e : Edge) (name : String) : Except StoreFault Bool :=
  match e.attributes.get? name with
  | some (.bool b) => .ok b
  | _ => .error (.invalidData .edge name)

/-- What the edge says about the node at one of its ends. The fault names the first
attribute that is missing or unusable. -/
def endpoint (e : Edge) (side : EndSide) : Except StoreFault EdgeEnd := do
  let key ← e.required side.keyName
  let kind ← e.required side.kindName
  let role ← e.required side.roleName
  let cascading ← e.requiredFlag side.cascadingName
  return { key, kind, role, cascading }

/-- Describe one end anew. -/
def setEnd (e : Edge) (side : EndSide) (d : EdgeEnd) : Edge :=
  ⟨(((e.attributes.insert side.keyName (.string d.key)).insert
    side.kindName (.string d.kind)).insert
    side.roleName (.string d.role)).insert
    side.cascadingName (.bool d.cascading)⟩

/-- An edge with a key and a kind between two ends. -/
def ofEnds (key kind : String) (first second : EdgeEnd) : Edge :=
  ((⟨(Node.ofKey key kind).attributes⟩ : Edge).setEnd .first first).setEnd .second second

end Edge

/-- The attributes that name an entity. -/
def namingAttributes : List String := [keyName, kindName]

end PropertyGraph
