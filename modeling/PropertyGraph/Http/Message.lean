import PropertyGraph.Decimal.Digits
import PropertyGraph.Json.Text
import PropertyGraph.Request.Endpoint

/-!
# Requests and responses

- `Http.Request`: method, target and body. No request header matters.
- `Http.Response`: status, headers and text.
- `Answer.response`, `RequestError.response`: how answers and errors become responses:
  documents are JSON, errors are plain text, a list carries its total in a header.
-/

namespace PropertyGraph

namespace Http

/-- The headers that responses carry. -/
inductive HeaderName where
  | contentType
  | totalCount
  | allow
  | allowOrigin
  | exposeHeaders
  | allowMethods
  | allowHeaders
  deriving DecidableEq

/-- The name of a header, in lower case. -/
def HeaderName.text : HeaderName → String
  | .contentType => "content-type"
  | .totalCount => "x-total-count"
  | .allow => "allow"
  | .allowOrigin => "access-control-allow-origin"
  | .exposeHeaders => "access-control-expose-headers"
  | .allowMethods => "access-control-allow-methods"
  | .allowHeaders => "access-control-allow-headers"

/-- What is asked. -/
structure Request where
  method : String
  target : String
  body : Bytes

/-- What is answered. -/
structure Response where
  status : Nat
  headers : List (HeaderName × String)
  body : String

namespace Response

/-- A status alone. -/
def bare (status : Nat) : Response := ⟨status, [], ""⟩

/-- A plain text. -/
def plain (status : Nat) (body : String) : Response :=
  ⟨status, [(.contentType, "text/plain; charset=utf-8")], body⟩

/-- A response with more headers. -/
def withHeaders (r : Response) (more : List (HeaderName × String)) : Response :=
  { r with headers := r.headers ++ more }

end Response

end Http

/-- The response for an answer. -/
def Answer.response : Answer → Http.Response
  | .empty => .bare 200
  | .document body none => ⟨200, [(.contentType, "application/json; charset=utf-8")], body.text⟩
  | .document body (some total) =>
    ⟨200, [(.contentType, "application/json; charset=utf-8"), (.totalCount, decimal total)],
      body.text⟩

/-- The response for an error. -/
def RequestError.response (e : RequestError) : Http.Response := .plain e.status e.message

theorem Answer.status_response (a : Answer) : a.response.status = 200 := by
  cases a with
  | empty => rfl
  | document body total => cases total <;> rfl

theorem RequestError.status_response (e : RequestError) :
    e.response.status = 400 ∨ e.response.status = 500 := by
  show e.status = 400 ∨ e.status = 500
  unfold RequestError.status
  split
  · exact .inl rfl
  · exact .inr rfl

end PropertyGraph
