/-!
# Log events

Operations do not write logs. What is worth reporting is part of their answer, as a
list of events in the order in which they happened.
-/

namespace PropertyGraph

/-- How serious an event is. -/
inductive LogLevel where
  | info
  | warning
  | error
  deriving DecidableEq

/-- The word for a level. -/
def LogLevel.word : LogLevel → String
  | .info => "INFO"
  | .warning => "WARN"
  | .error => "ERROR"

/-- Something worth reporting. -/
structure LogEvent where
  level : LogLevel
  message : String
  deriving DecidableEq

end PropertyGraph
