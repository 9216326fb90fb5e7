import PropertyGraph.CommandLine

/-!
# The program

Serves an in-memory graph store: requests are read from standard input, one a line, and
answered on standard output; events go to standard error.
-/

open PropertyGraph

/-- Show events that count at a level. -/
def showEvents (level : String) (events : List LogEvent) : IO Unit :=
  for e in events.filter (LogEvent.isShown level) do
    IO.eprintln e.line

/-- The content of a file, or why it cannot be read. -/
def readContent (path : String) : IO (Except String Bytes) := do
  try
    let content ← IO.FS.readBinFile path
    return .ok content.toList
  catch e => return .error (toString e)

/-- Answer the requests of a stream, one after another. -/
partial def serve (level : String) (service : Http.Service Store) (input : IO.FS.Stream) :
    IO Unit := do
  let line ← input.getLine
  if line.isEmpty then return
  match Http.Request.ofLine? (line.dropEndWhile (· = '\n')).toString with
  | none => serve level service input
  | some request =>
    let exchange := service.respond request
    showEvents level exchange.events
    for l in exchange.response.lines do
      IO.println l
    serve level exchange.service input

/-- Start with the settings that options lead to. -/
def start (options : Options) : IO UInt32 := do
  let file ← match options.config with
    | none => pure none
    | some path => do pure (some (path, ← readContent path))
  let (settings, source) := ConfigSource.load file
  match settings.withOptions options with
  | .error fault =>
    IO.eprintln ("Error: " ++ fault.message)
    return 1
  | .ok settings =>
    showEvents settings.logLevel
      [source.event ConfigFault.message, ⟨.info, "Starting graph API server"⟩, creationEvent]
    serve settings.logLevel (.ofSettings ∅ settings) (← IO.getStdin)
    return 0

/-- The program. -/
def main (args : List String) : IO UInt32 := do
  match Options.empty.ofArguments args with
  | .error message =>
    IO.eprintln ("error: " ++ message)
    return 2
  | .ok options => start options
