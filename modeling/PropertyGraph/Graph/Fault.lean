import PropertyGraph.Graph.EntityType

/-!
# What a graph store reports

- `StoreFault`: why a store refuses an operation or cannot answer.
- `StoreFault.message`: the wording.
-/

namespace PropertyGraph

/-- Why a store or a transaction refuses. -/
inductive StoreFault where
  /-- The name of a partition is not usable. -/
  | invalidPartition (name : String)
  /-- An entity lacks an attribute or carries an unusable value in it. -/
  | invalidData (entity : EntityType) (name : String)
  /-- An edge ends at a node that is not stored. -/
  | missingEndpoint (key kind : String)
  /-- A traversal spec cannot be read. -/
  | invalidSpec (spec : String)
  /-- Any other fault. -/
  | storage (text : String)
  deriving DecidableEq

/-- The wording of a fault. -/
def StoreFault.message : StoreFault → String
  | .invalidPartition name => "Invalid partition name: " ++ name
  | .invalidData entity name => entity.word ++ " is missing or has an invalid " ++ name ++ " value"
  | .missingEndpoint key kind => "Can't find edge endpoint: " ++ key ++ " (" ++ kind ++ ")"
  | .invalidSpec spec => "Invalid spec: " ++ spec
  | .storage text => "Storage error: " ++ text

end PropertyGraph
