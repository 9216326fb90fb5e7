import PropertyGraph.Graph.Entity
import PropertyGraph.Json.Reader

/-!
# Bodies of requests and answers

A body that changes a partition is an object with lists of nodes and edges; a body
that changes entities of one sort is a list of them. Answers are an entity, a list
of entities, or the two lists of a traversal.

- `BodyTarget`: what a body is expected to hold.
- `Batch`: the nodes and edges of a body, in order.
- `Json.toMap`, `Json.toMaps`: a value as the attributes of one or several entities.
- `Envelope.batch`: the nodes and edges of an object. Members with other names are
  ignored, but they too have to be lists of objects or null.
- `decodeBody`: a body as a batch.
-/

namespace PropertyGraph

/-- What a body is expected to hold. -/
inductive BodyTarget where
  /-- An object with nodes and edges. -/
  | graph
  /-- A list of entities of one sort. -/
  | entities (entity : EntityType)
  deriving DecidableEq

/-- The entities of a body, in order. -/
structure Batch where
  nodes : List Node
  edges : List Edge

namespace Batch

instance : EmptyCollection Batch := ⟨⟨[], []⟩⟩
instance : Inhabited Batch := ⟨∅⟩

/-- How many entities there are. -/
def size (b : Batch) : Nat := b.nodes.length + b.edges.length

/-- Whether there are none. -/
def isEmpty (b : Batch) : Bool := b.nodes.isEmpty && b.edges.isEmpty

/-- The batch of entities of one sort. -/
def ofEntities (entity : EntityType) (maps : List Attributes) : Batch :=
  match entity with
  | .node => ⟨maps.map Node.mk, []⟩
  | .edge => ⟨[], maps.map Edge.mk⟩

end Batch

/-! ## Values as attributes -/

namespace Json

/-- The members of an object. -/
def toMap : Json → Except Cause Attributes
  | .object members => .ok (NameMap.ofList members)
  | v => .error (.mismatch v.form .map)

/-- The members of each object of a list. -/
def toMaps : Json → Except Cause (List Attributes)
  | .array items => items.mapM toMap
  | v => .error (.mismatch v.form .maps)

end Json

/-! ## Decoding -/

/-- Why a body is refused. -/
inductive BodyFault where
  /-- The text is refused at a place. -/
  | text (fault : Json.Fault)
  /-- The text is well-formed but a member of the object has the wrong form. -/
  | member (cause : Json.Cause)

/-- The wording of what was expected. -/
def BodyTarget.expectation : BodyTarget → String
  | .graph => "Could not decode request body as object with list of nodes and/or edges: "
  | .entities entity => "Could not decode request body as list of " ++ entity.plural ++ ": "

/-- The wording for a refused body. -/
def BodyFault.message (f : BodyFault) (target : BodyTarget) (body : Bytes) : String :=
  target.expectation ++
    match f with
    | .text fault => fault.message body
    | .member cause => cause.message

namespace Envelope

/-- The member that lists nodes. -/
def nodesName : String := "nodes"

/-- The member that lists edges. -/
def edgesName : String := "edges"

/-- The entities a member lists; none if it is absent or null. -/
def list : Option Json → Except Json.Cause (List Attributes)
  | none => .ok []
  | some .null => .ok []
  | some v => v.toMaps

/-- The members that list neither nodes nor edges, by ascending name. -/
def others (members : Attributes) : List Json :=
  (members.entries.filter fun m => m.1 ≠ nodesName && m.1 ≠ edgesName).map (·.2)

/-- The nodes and edges of an object. The nodes are looked at first, then the edges, then
all other members. -/
def batch (members : Attributes) : Except Json.Cause Batch := do
  let nodes ← list (members.get? nodesName)
  let edges ← list (members.get? edgesName)
  -- the other members hold nothing that is used, but have to be lists as well
  let _ ← (others members).mapM fun v => list (some v)
  return ⟨nodes.map Node.mk, edges.map Edge.mk⟩

end Envelope

/-- Decode an object with nodes and edges. -/
def decodeEnvelope (body : Bytes) : Except BodyFault Batch :=
  match Json.read .map body with
  | .error f => .error (.text f)
  | .ok v =>
    match v.toMap with
    | .error c => .error (.member c)
    | .ok members => (Envelope.batch members).mapError .member

/-- Decode a list of entities of one sort. -/
def decodeEntities (entity : EntityType) (body : Bytes) : Except BodyFault Batch :=
  match Json.read .maps body with
  | .error f => .error (.text f)
  | .ok v =>
    match v.toMaps with
    | .error c => .error (.member c)
    | .ok maps => .ok (.ofEntities entity maps)

/-- Decode a body. -/
def decodeBody (target : BodyTarget) (body : Bytes) : Except BodyFault Batch :=
  match target with
  | .graph => decodeEnvelope body
  | .entities entity => decodeEntities entity body

/-! ## Encoding -/

/-- The list of entities with the given attributes. -/
def encodeList (maps : List Attributes) : Json := .array (maps.map Attributes.toJson)

/-- The two lists of a traversal. -/
def encodeTraversal (nodes : List Node) (edges : List Edge) : Json :=
  .array [encodeList (nodes.map (·.attributes)), encodeList (edges.map (·.attributes))]

end PropertyGraph
