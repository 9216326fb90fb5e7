import PropertyGraph.Decimal.Digits
import PropertyGraph.Graph.Fault
import PropertyGraph.Log

/-!
# Why a request fails

- `RequestError`: the causes, each the client's or the store's.
- `RequestError.message`: the wording, which is the body of the answer.
- `RequestError.event`: what is logged about a failed request.
-/

namespace PropertyGraph

/-- Why a request fails. -/
inductive RequestError where
  /-- The path or a parameter is wrong. -/
  | invalidRequest (text : String)
  /-- The body cannot be decoded. -/
  | malformedBody (text : String)
  /-- The transaction rejected an item of the body; positions count from one within the
  nodes or the edges. -/
  | badItem (entity : EntityType) (position : Nat) (kind key : String) (reason : StoreFault)
  /-- What was asked for is not there. -/
  | notFound (text : String)
  /-- The store failed to read. -/
  | fetchFailure (reason : StoreFault)
  /-- A list has fewer items than were to be skipped. -/
  | offsetOutOfRange (offset available : Nat)
  /-- The store failed to commit. -/
  | commitFailure (reason : StoreFault)
  deriving DecidableEq

namespace RequestError

/-- The wording of an error. -/
def message : RequestError → String
  | .invalidRequest text => text
  | .malformedBody text => text
  | .badItem entity position kind key reason =>
    "Could not apply " ++ entity.word ++ " #" ++ decimal position ++ " (key: " ++ key ++
      ", kind: " ++ kind ++ "): " ++ reason.message
  | .notFound text => text
  | .fetchFailure reason => reason.message
  | .offsetOutOfRange _ _ => "Offset exceeds available nodes"
  | .commitFailure reason => reason.message

/-- Whether the client is to blame. -/
def isClientError : RequestError → Bool
  | .invalidRequest _ => true
  | .malformedBody _ => true
  | .badItem .. => true
  | .notFound _ => true
  | .fetchFailure _ => false
  | .offsetOutOfRange .. => false
  | .commitFailure _ => false

/-- The status an error is answered with. -/
def status (e : RequestError) : Nat := if e.isClientError then 400 else 500

/-- What is logged when an error is answered. -/
def event (e : RequestError) : LogEvent :=
  if e.isClientError then
    ⟨.warning, "Rejected graph request (400 Bad Request): " ++ e.message⟩
  else ⟨.error, "Graph request failed (500 Internal Server Error): " ++ e.message⟩

end RequestError

end PropertyGraph
