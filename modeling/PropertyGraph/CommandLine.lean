import PropertyGraph.Config.Source
import PropertyGraph.Http.Service
import PropertyGraph.Store.Transaction

/-!
# The command line

- `Options.ofArguments`: what the arguments of the program say.
- `Settings.withOptions`: settings in which options replace what a file says.
- `Http.Service.ofSettings`: a service with a given store, as settings ask for.
- `Http.Request.ofLine?`: a request written on a line: method, target and body with
  spaces between them.
- `Http.Response.lines`: a response as lines: status, headers, an empty line, body.
- `LogEvent.isShown`: whether an event is shown at a level of logging.
-/

namespace PropertyGraph

/-- What the arguments of the program say. -/
structure Options where
  config : Option String
  httpAddress : Option String
  logLevel : Option String

namespace Options

/-- Nothing is said. -/
def empty : Options := ⟨none, none, none⟩

/-- One more option. -/
def set (o : Options) (name value : String) : Except String Options :=
  if name = "-c" ∨ name = "--config" then .ok { o with config := value }
  else if name = "--http-addr" then .ok { o with httpAddress := value }
  else if name = "--log-level" then .ok { o with logLevel := value }
  else .error ("unexpected argument '" ++ name ++ "'")

/-- What arguments say: names, each followed by its value, or joined to it by `=`. -/
def ofArguments (o : Options) : List String → Except String Options
  | [] => .ok o
  | arg :: rest =>
    match splitFirst '=' arg.toList with
    | (name, some value) => do ofArguments (← o.set (String.ofList name) (String.ofList value)) rest
    | (_, none) =>
      match rest with
      | [] => .error ("a value is required for '" ++ arg ++ "'")
      | value :: rest => do ofArguments (← o.set arg value) rest

end Options

/-- Settings in which options replace what a file says. -/
def Settings.withOptions (s : Settings) (o : Options) : Except ConfigFault Settings := do
  let s ← match o.httpAddress with
    | some address => s.withHttpAddress address
    | none => pure s
  return match o.logLevel with
    | some level => s.withLogLevel level
    | none => s

/-- What is reported when a store is created. -/
def creationEvent : LogEvent := ⟨.info, "Initializing in-memory graph store"⟩

/-- A service with a given store, as settings ask for. -/
def Http.Service.ofSettings {σ : Type} (store : σ) (s : Settings) : Http.Service σ :=
  ⟨store, s.maxBodyBytes⟩

/-- A request written on a line. -/
def Http.Request.ofLine? (line : String) : Option Http.Request :=
  match splitFirst ' ' line.toList with
  | (_, none) => none
  | (method, some rest) =>
    match splitFirst ' ' rest with
    | (target, body) =>
      some ⟨String.ofList method, String.ofList target, Utf8.encodeChars (body.getD [])⟩

/-- A response as lines. -/
def Http.Response.lines (r : Http.Response) : List String :=
  decimal r.status ::
    r.headers.map (fun (name, value) => name.text ++ ": " ++ value) ++ ["", r.body]

/-- How serious events are, the least serious first. -/
def LogLevel.rank : LogLevel → Nat
  | .info => 0
  | .warning => 1
  | .error => 2

/-- The least rank that is shown at a level of logging. -/
def shownRank (level : String) : Nat :=
  if level = "off" then 3 else if level = "error" then 2 else if level = "warn" then 1 else 0

/-- Whether an event is shown at a level of logging. -/
def LogEvent.isShown (level : String) (e : LogEvent) : Bool := shownRank level ≤ e.level.rank

/-- An event as a line. -/
def LogEvent.line (e : LogEvent) : String := e.level.word ++ " " ++ e.message

end PropertyGraph
