import PropertyGraph.Http.Message
import PropertyGraph.Http.Route
import PropertyGraph.Http.Target

/-!
# The service

- `Http.Service`: a store, and how long bodies may be.
- `Http.Service.respond`: the response to a request, the service after it, and what
  is reported.
- `Http.Service.act_of_not_allowed`, `Http.Service.status_act_iff`: **a method is refused exactly
  if its route does not allow it**, and then nothing changes.

Pages of any origin may read the responses. `crossOrigin` adds the headers that say so,
and a request with the method `OPTIONS`, by which a browser asks beforehand, is answered
on any path.
-/

namespace PropertyGraph

namespace Http

/-- The name the service goes by. -/
def serviceName : String := "graph-api"

/-- The version of the service. -/
def serviceVersion : String := "0.1.0"

/-- A store, and the greatest length of a body. -/
structure Service (σ : Type) where
  store : σ
  maxBodyBytes : Nat

/-- A response, the service after it, and what is reported. -/
structure Exchange (σ : Type) where
  response : Response
  service : Service σ
  events : List LogEvent

/-- A comma between every two words. -/
def commaList (words : List String) : String := joinFields ',' words

/-- The header that lists the methods of a route. -/
def allowHeader (r : Route) : HeaderName × String := (.allow, commaList r.allowed)

/-- A response that pages of any origin may read. -/
def crossOrigin (r : Response) : Response :=
  r.withHeaders [(.allowOrigin, "*"), (.exposeHeaders, HeaderName.totalCount.text)]

/-- What pages of any origin may ask. -/
def preflight (route : Option Route) : Response :=
  (Response.bare 200).withHeaders
    ([(.allowOrigin, "*"),
      (.allowMethods, commaList ["GET", "POST", "PUT", "DELETE", "OPTIONS"]),
      (.allowHeaders, commaList ["content-type", "authorization", HeaderName.allowOrigin.text])]
      ++ (route.map allowHeader).toList)

/-- The response for a path whose bytes are no text. -/
def undecodablePath : Response := .plain 400 "Invalid URL: Invalid UTF-8 in `path`"

/-- The response for a body that is too long. -/
def oversizedBody : Response :=
  .plain 413 "Failed to buffer the request body: length limit exceeded"

/-- A JSON document about the service. -/
def report (members : List (String × Json)) : Response :=
  ⟨200, [(.contentType, "application/json")], (Json.object members).text⟩

/-- The report that the service is well. -/
def healthReport : Response :=
  report [("status", .string "healthy"), ("version", .string serviceVersion)]

/-- How many entities there are of each kind. -/
def kindCounts (kinds : List String) (count : String → Nat) : Json :=
  .ofBindings (kinds.map fun kind => (kind, .number (.int (count kind))))

/-- The report of what a store holds. -/
def infoReport {σ : Type} [GraphStore σ] (store : σ) : Response :=
  report
    [("name", .string serviceName),
     ("version", .string serviceVersion),
     ("node_kinds", kindCounts (GraphStore.nodeKinds store) (GraphStore.nodeCount store)),
     ("edge_kinds", kindCounts (GraphStore.edgeKinds store) (GraphStore.edgeCount store))]

/-- The response to the outcome of a graph request, and what is reported about it. -/
def outcome : Except RequestError Answer → Response × List LogEvent
  | .ok answer => (answer.response, [])
  | .error e => (e.response, [e.event])

namespace Service

variable {σ τ : Type} [Transaction τ] [TransactionalStore σ τ]

/-- Read what a route leads to. -/
def read (s : Service σ) (route : Route) (q : Query) : Response × List LogEvent :=
  match route with
  | .health => (healthReport, [])
  | .info => (infoReport s.store, [])
  | .graph path =>
    match Percent.decodePath? path with
    | none => (undecodablePath, [])
    | some path => outcome (Endpoint.get s.store (splitPath path) q)

/-- Change the graph at an encoded path. -/
def write (s : Service σ) (verb : Verb) (path : List Char) (body : Bytes) : Exchange σ :=
  -- the path is decoded before the body is looked at, and resolved after it
  match Percent.decodePath? path with
  | none => ⟨undecodablePath, s, []⟩
  | some path =>
    if s.maxBodyBytes < body.length then ⟨oversizedBody, s, []⟩
    else
      let m := Endpoint.mutate s.store verb (splitPath path) body
      let (response, events) := outcome m.answer
      ⟨response, { s with store := m.store }, m.events ++ events⟩

/-- Act on a route. -/
def act (s : Service σ) (route : Route) (r : Request) : Exchange σ :=
  match route.action? r.method, route with
  | some (.read withBody), route =>
    let (response, events) := s.read route (Target.ofText r.target).parameters
    ⟨if withBody then response else { response with body := "" }, s, events⟩
  | some (.write verb), .graph path => s.write verb path r.body
  | _, _ => ⟨(Response.bare 405).withHeaders [allowHeader route], s, []⟩

/-- The response to a request, the service after it, and what is reported. -/
def respond (s : Service σ) (r : Request) : Exchange σ :=
  let route := Route.ofPath? (Target.ofText r.target).path
  if r.method = "OPTIONS" then ⟨preflight route, s, []⟩
  else
    match route with
    | none => ⟨crossOrigin (.bare 404), s, []⟩
    | some route =>
      let e := s.act route r
      { e with response := crossOrigin e.response }

/-! ## Methods that are not allowed -/

theorem status_outcome (x : Except RequestError Answer) : (outcome x).1.status ≠ 405 := by
  cases x with
  | ok a =>
    show a.response.status ≠ 405
    rw [a.status_response]
    decide
  | error e =>
    show e.response.status ≠ 405
    rcases e.status_response with h | h <;> rw [h] <;> decide

theorem status_read (s : Service σ) (route : Route) (q : Query) :
    (s.read route q).1.status ≠ 405 := by
  cases route with
  | health => exact (by decide : 200 ≠ 405)
  | info => exact (by decide : 200 ≠ 405)
  | graph path =>
    rw [read]
    split
    · exact (by decide : 400 ≠ 405)
    · exact status_outcome _

theorem status_write (s : Service σ) (verb : Verb) (path : List Char) (body : Bytes) :
    (s.write verb path body).response.status ≠ 405 := by
  rw [write]
  split
  · exact (by decide : 400 ≠ 405)
  · split
    · exact (by decide : 413 ≠ 405)
    · exact status_outcome _

variable {s : Service σ} {route : Route} {r : Request}

/-- A method that is not allowed is told so, with those that are, and changes nothing. -/
theorem act_of_not_allowed (h : r.method ∉ route.allowed) :
    s.act route r = ⟨(Response.bare 405).withHeaders [allowHeader route], s, []⟩ := by
  have hnone : route.action? r.method = none :=
    Option.not_isSome_iff_eq_none.1 (mt (route.isSome_action?_iff r.method).1 h)
  simp only [act, hnone]

/-- **Exactly the allowed methods are acted on.** -/
theorem status_act_iff : (s.act route r).response.status = 405 ↔ r.method ∉ route.allowed := by
  refine ⟨fun hstatus hallowed => ?_, fun h => by rw [act_of_not_allowed h]; rfl⟩
  obtain ⟨action, haction⟩ :=
    Option.isSome_iff_exists.1 ((route.isSome_action?_iff r.method).2 hallowed)
  cases action with
  | read withBody =>
    have hread := s.status_read route (Target.ofText r.target).parameters
    simp only [act, haction] at hstatus
    cases withBody with
    | true => exact hread hstatus
    | false => exact hread hstatus
  | write verb =>
    obtain ⟨path, rfl⟩ := Route.exists_graph_of_write haction
    simp only [act, haction] at hstatus
    exact s.status_write verb path r.body hstatus

/-- A request is refused for its method exactly if its path has a route on which the method is
not allowed. Asking beforehand is never refused. -/
theorem status_respond_iff : (s.respond r).response.status = 405 ↔ r.method ≠ "OPTIONS" ∧
    ∃ route, Route.ofPath? (Target.ofText r.target).path = some route ∧
      r.method ∉ route.allowed := by
  rw [respond]
  split
  · next hoptions =>
    refine ⟨fun h => absurd h (by decide : 200 ≠ 405), ?_⟩
    rintro ⟨hother, -⟩
    exact absurd hoptions hother
  · next hother =>
    cases hroute : Route.ofPath? (Target.ofText r.target).path with
    | none =>
      refine ⟨fun h => absurd h (by decide : 404 ≠ 405), ?_⟩
      rintro ⟨-, route, heq, -⟩
      cases heq
    | some route =>
      show (s.act route r).response.status = 405 ↔ _
      rw [status_act_iff]
      refine ⟨fun h => ⟨hother, route, rfl, h⟩, ?_⟩
      rintro ⟨-, route', heq, h⟩
      cases heq
      exact h

end Service

end Http

end PropertyGraph
