import PropertyGraph.Request.Batch

/-!
# Routes

- `Http.Route`: what the path of a target leads to: the graph, with the path below it,
  or one of two reports about the service.
- `Http.Route.ofPath?`: the route of a path. Paths are compared in their encoded form.
- `Http.Route.action?`: what a method does on a route. Only the graph can be changed.
- `Http.Route.allowed`: the methods that do something; `isSome_action?_iff` says so.
-/

namespace PropertyGraph

namespace Http

/-- What a path leads to. -/
inductive Route where
  /-- The graph, with the encoded path below it. -/
  | graph (path : List Char)
  /-- Whether the service is well. -/
  | health
  /-- What the service holds. -/
  | info

/-- What a method does. -/
inductive Action where
  /-- Read; whether the body of the answer is wanted. -/
  | read (withBody : Bool)
  /-- Change the graph. -/
  | write (verb : Verb)

namespace Route

/-- The route of an encoded path. A path that ends after the graph's slash has none. -/
def ofPath? (path : List Char) : Option Route :=
  if path = "/graph".toList then some (.graph [])
  else if path = "/health".toList then some .health
  else if path = "/info".toList then some .info
  else
    match "/graph/".toList.isPrefixOf? path with
    | some (c :: rest) => some (.graph (c :: rest))
    | _ => none

/-- Whether a route leads to the graph. -/
def isGraph : Route → Bool
  | .graph _ => true
  | .health => false
  | .info => false

/-- What a method does on a route. -/
def action? (r : Route) (method : String) : Option Action :=
  if method = "GET" then some (.read true)
  else if method = "HEAD" then some (.read false)
  else if r.isGraph then (Verb.ofMethod? method).map .write
  else none

/-- The methods that do something on a route. -/
def allowed (r : Route) : List String :=
  if r.isGraph then ["GET", "HEAD", "PUT", "POST", "DELETE"] else ["GET", "HEAD"]

/-- The allowed methods are those that do something. -/
theorem isSome_action?_iff (r : Route) (method : String) :
    (r.action? method).isSome ↔ method ∈ r.allowed := by
  unfold action? allowed Verb.ofMethod?
  cases r.isGraph <;> (repeat' split) <;> simp_all

/-- Only the graph is changed. -/
theorem exists_graph_of_write {r : Route} {method : String} {verb : Verb}
    (h : r.action? method = some (.write verb)) : ∃ path, r = .graph path := by
  cases r with
  | graph path => exact ⟨path, rfl⟩
  | health =>
    unfold action? at h
    split at h
    · cases h
    split at h <;> cases h
  | info =>
    unfold action? at h
    split at h
    · cases h
    split at h <;> cases h

end Route

end Http

end PropertyGraph
