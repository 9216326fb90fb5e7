/-!
# Sorts of entities

A graph is made of nodes and edges; paths select one sort by a letter and messages
name it by a word.

- `EntityType.segment`, `EntityType.ofSegment?`: the letter in a path.
- `EntityType.word`, `EntityType.plural`: the words in messages.
-/

namespace PropertyGraph

/-- Which sort of entity a request or a message is about. -/
inductive EntityType where
  | node
  | edge
  deriving DecidableEq

namespace EntityType

/-- The path segment that selects entities of this sort. -/
def segment : EntityType → String
  | .node => "n"
  | .edge => "e"

/-- The sort a path segment selects. -/
def ofSegment? (s : String) : Option EntityType :=
  if s = "n" then some .node else if s = "e" then some .edge else none

/-- The word for one entity. -/
def word : EntityType → String
  | .node => "node"
  | .edge => "edge"

/-- The word for several entities. -/
def plural : EntityType → String
  | .node => "nodes"
  | .edge => "edges"

theorem ofSegment?_segment (t : EntityType) : ofSegment? t.segment = some t := by
  cases t <;> rfl

end EntityType

end PropertyGraph
