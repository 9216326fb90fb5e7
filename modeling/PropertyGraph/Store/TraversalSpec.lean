import PropertyGraph.Graph.Fault
import PropertyGraph.Text.Fields

/-!
# Traversal specs

A spec has the form `<start role>:<edge kind>:<end role>:<end kind>` and selects the
edges to follow from a node. An empty component matches everything.

- `TraversalSpec.parse`: exactly four components.
- `TraversalSpec.allowsEdgeKind`, `TraversalSpec.allowsStart`,
  `TraversalSpec.allowsEnd`: what each component decides.
-/

namespace PropertyGraph

/-- Which edges to follow; an absent component matches everything. -/
structure TraversalSpec where
  startRole : Option String
  edgeKind : Option String
  endRole : Option String
  endKind : Option String

namespace TraversalSpec

/-- A component that is not empty. -/
def component (s : String) : Option String := if s = "" then none else some s

/-- Whether a component matches a text. -/
def matchesText (expected : Option String) (actual : String) : Bool :=
  match expected with
  | none => true
  | some e => e = actual

/-- Read a spec. -/
def parse (s : String) : Except StoreFault TraversalSpec :=
  match fields ':' s with
  | [startRole, edgeKind, endRole, endKind] =>
    .ok ⟨component startRole, component edgeKind, component endRole, component endKind⟩
  | _ => .error (.invalidSpec s)

/-- Whether edges of a kind are followed. -/
def allowsEdgeKind (spec : TraversalSpec) (kind : String) : Bool :=
  matchesText spec.edgeKind kind

/-- Whether edges are followed from an end with a role. -/
def allowsStart (spec : TraversalSpec) (role : String) : Bool := matchesText spec.startRole role

/-- Whether edges are followed to an end with a role at a node of a kind. -/
def allowsEnd (spec : TraversalSpec) (role kind : String) : Bool :=
  matchesText spec.endRole role && matchesText spec.endKind kind

end TraversalSpec

end PropertyGraph
