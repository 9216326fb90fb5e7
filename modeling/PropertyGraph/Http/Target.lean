import PropertyGraph.Request.Window
import PropertyGraph.Text.Percent

/-!
# Request targets

- `Http.Target.ofText`: the path of a target and the text of its query, both still
  encoded. What follows a `#` does not count.
- `Http.Target.pathOf`: the path of a target without its query. A target is a path,
  or a scheme and an authority with or without a path, or an authority alone.
- `Http.Target.parameters`: the parameters of the query; of several with one name the
  last counts.
-/

namespace PropertyGraph

namespace Http

/-- A target: a path, and perhaps a query. -/
structure Target where
  path : List Char
  query : Option (List Char)

namespace Target

/-- The path from the first slash on, or the root if there is none. -/
def pathAfterAuthority (s : List Char) : List Char :=
  match s.dropWhile fun c => c ≠ '/' with
  | [] => ['/']
  | path => path

/-- The path of a target without its query. -/
def pathOf : List Char → List Char
  | ['*'] => ['*']
  | '/' :: path => '/' :: path
  | s =>
    match splitFirst ':' s with
    | (_, some ('/' :: '/' :: rest)) => pathAfterAuthority rest
    | _ => []

/-- The parts of a target. -/
def ofText (s : String) : Target :=
  match splitFirst '?' (splitFirst '#' s.toList).1 with
  | (before, query) => ⟨pathOf before, query⟩

/-- The parameters of the query. -/
def parameters (t : Target) : Query := NameMap.ofList (Percent.parseForm (t.query.getD []))

end Target

end Http

end PropertyGraph
