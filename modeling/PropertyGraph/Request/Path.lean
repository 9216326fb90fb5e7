import PropertyGraph.Graph.EntityType
import PropertyGraph.Text.Fields

/-!
# Paths of graph requests

The segments of a path decide what a request is about: the partition, then a letter
for nodes or edges, a kind, a key, and a traversal spec, as many as the request needs.

- `RequestShape`: what a path addresses.
- `RequestShape.segments`: the segments that address it.
- `resolve`: what segments address, for reading or for writing.
- `splitPath`: the segments of a path; empty ones do not count.
- `segments_of_resolve`, `resolve_segments`: **resolution accepts exactly its grammar**:
  segments resolve to a shape if they are its segments and their number is allowed, and
  not otherwise.
-/

namespace PropertyGraph

/-- What a path addresses. -/
inductive RequestShape where
  /-- A whole partition. -/
  | partition (partition : String)
  /-- All nodes or edges of a partition. -/
  | entityList (partition : String) (entity : EntityType)
  /-- All nodes or edges of a kind. -/
  | kindList (partition : String) (entity : EntityType) (kind : String)
  /-- One node or edge. -/
  | entity (partition : String) (entity : EntityType) (kind key : String)
  /-- What can be reached from one node. -/
  | traversal (partition kind key spec : String)
  deriving DecidableEq

/-- The segments that address a shape. -/
def RequestShape.segments : RequestShape → List String
  | .partition p => [p]
  | .entityList p t => [p, t.segment]
  | .kindList p t kind => [p, t.segment, kind]
  | .entity p t kind key => [p, t.segment, kind, key]
  | .traversal p kind key spec => [p, EntityType.node.segment, kind, key, spec]

/-- What a path is resolved for. -/
inductive Access where
  | read
  | write
  deriving DecidableEq

namespace Access

/-- The least number of segments. -/
def fewest : Access → Nat
  | .read => 2
  | .write => 1

/-- The greatest number of segments. -/
def most : Access → Nat
  | .read => 5
  | .write => 2

/-- How paths are to be written. -/
def usage : Access → String
  | .read =>
    "Need a partition, entity type (n or e) and a kind; optional key and traversal spec"
  | .write => "Need a partition; optional entity type (n or e)"

/-- Whether a number of segments is allowed. -/
def allows (a : Access) (n : Nat) : Prop := a.fewest ≤ n ∧ n ≤ a.most

instance (a : Access) (n : Nat) : Decidable (a.allows n) :=
  inferInstanceAs (Decidable (_ ∧ _))

end Access

/-- Why segments address nothing. -/
inductive PathFault where
  /-- Their number is not allowed. -/
  | count (access : Access)
  /-- The second one is no letter of a sort of entities. -/
  | entityLetter
  /-- Only traversals from nodes have five. -/
  | edgeTraversal
  deriving DecidableEq

/-- The wording of a fault. -/
def PathFault.message : PathFault → String
  | .count access => access.usage
  | .entityLetter => "Entity type must be n (nodes) or e (edges)"
  | .edgeTraversal => "Entity type must be n (nodes) when requesting traversal results"

/-- The shape of segments that start with a partition and a sort of entities. -/
def shapeOf (access : Access) (partition : String) (t : EntityType) :
    List String → Except PathFault RequestShape
  | [] => .ok (.entityList partition t)
  | [kind] => .ok (.kindList partition t kind)
  | [kind, key] => .ok (.entity partition t kind key)
  | [kind, key, spec] =>
    match t with
    | .node => .ok (.traversal partition kind key spec)
    | .edge => .error .edgeTraversal
  | _ => .error (.count access)

/-- What segments address. -/
def resolve (segments : List String) (access : Access) : Except PathFault RequestShape :=
  if access.allows segments.length then
    match segments with
    | [] => .error (.count access)
    | [p] => .ok (.partition p)
    | p :: letter :: more =>
      match EntityType.ofSegment? letter with
      | none => .error .entityLetter
      | some t => shapeOf access p t more
  else .error (.count access)

/-- The segments of a path; empty ones do not count. -/
def splitPath (path : String) : List String := (fields '/' path).filter fun s => s ≠ ""

theorem EntityType.segment_of_ofSegment? {s : String} {t : EntityType}
    (h : EntityType.ofSegment? s = some t) : t.segment = s := by
  unfold EntityType.ofSegment? at h
  split at h
  · next hs =>
    cases h
    exact hs.symm
  · split at h
    · next hs =>
      cases h
      exact hs.symm
    · cases h

theorem segments_of_shapeOf {access : Access} {p : String} {t : EntityType} {more : List String}
    {shape : RequestShape} (h : shapeOf access p t more = .ok shape) :
    shape.segments = p :: t.segment :: more := by
  unfold shapeOf at h
  split at h
  · cases h
    rfl
  · cases h
    rfl
  · cases h
    rfl
  · split at h <;> cases h
    rfl
  · cases h

/-- What was resolved has the segments it was resolved from. -/
theorem segments_of_resolve {segments : List String} {access : Access} {shape : RequestShape}
    (h : resolve segments access = .ok shape) :
    shape.segments = segments ∧ access.allows segments.length := by
  unfold resolve at h
  split at h
  · next hn =>
    refine ⟨?_, hn⟩
    split at h
    · cases h
    · cases h
      rfl
    · split at h
      · cases h
      · next ht =>
        rw [segments_of_shapeOf h, EntityType.segment_of_ofSegment? ht]
  · cases h

/-- The segments of a shape resolve to it. -/
theorem resolve_segments {shape : RequestShape} {access : Access}
    (h : access.allows shape.segments.length) : resolve shape.segments access = .ok shape := by
  unfold resolve
  rw [if_pos h]
  cases shape <;> simp [RequestShape.segments, EntityType.ofSegment?_segment, shapeOf]

end PropertyGraph
