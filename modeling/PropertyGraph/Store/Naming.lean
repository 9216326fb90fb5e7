import PropertyGraph.Graph.Entity
import PropertyGraph.Text.Alphanumeric

/-!
# Which names a store accepts

- `isPartitionName`: partitions are named by letters and digits of any script.
- `isKindName`: kinds may also contain `_`, `-` and `.`.
- `Node.check`, `Edge.check`: what is checked before an entity is accepted, in
  order; the fault names the first attribute at fault.
-/

namespace PropertyGraph

/-- Whether a text may name a partition. -/
def isPartitionName (s : String) : Bool := s ≠ "" && s.toList.all isAlphanumeric

/-- Whether a character may occur in the name of a kind. -/
def isKindChar (c : Char) : Bool := isAlphanumeric c || c = '_' || c = '-' || c = '.'

/-- Whether a text may name a kind. -/
def isKindName (s : String) : Bool := s ≠ "" && s.toList.all isKindChar

/-- Refuse what may not name a partition. -/
def checkPartition (name : String) : Except StoreFault Unit :=
  if isPartitionName name then .ok () else .error (.invalidPartition name)

/-- Refuse an empty key, then an unusable kind. -/
def checkNames (entity : EntityType) (key kind : String) : Except StoreFault Unit :=
  if key = "" then .error (.invalidData entity keyName)
  else if isKindName kind then .ok ()
  else .error (.invalidData entity kindName)

/-- Refuse a node without a usable key and kind. -/
def Node.check (n : Node) : Except StoreFault Unit := checkNames .node n.key n.kind

/-- Refuse an edge without a usable key and kind, then one without usable ends. -/
def Edge.check (e : Edge) : Except StoreFault Unit := do
  checkNames .edge e.key e.kind
  let _ ← e.endpoint .first
  let _ ← e.endpoint .second
  return ()

end PropertyGraph
