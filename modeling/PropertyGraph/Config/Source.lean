import PropertyGraph.Config.Settings
import PropertyGraph.Log

/-!
# Where settings come from

- `ConfigSource`: a file, or nothing, or a file that could not be used.
- `ConfigSource.event`: what is reported about it.
- `ConfigSource.load`: the settings in a file, if there is one and it can be used, and
  the standard ones otherwise.
-/

namespace PropertyGraph

/-- Where settings come from. -/
inductive ConfigSource where
  /-- This file. -/
  | file (path : String)
  /-- No file was given. -/
  | standard
  /-- A file was given and could not be used. -/
  | fallback (path : String) (fault : ConfigFault)
  deriving DecidableEq

namespace ConfigSource

/-- What is reported about a source, with a given wording of faults. -/
def event (describe : ConfigFault → String) : ConfigSource → LogEvent
  | .file path => ⟨.info, "Loaded configuration from: " ++ path⟩
  | .standard => ⟨.info, "No config file specified, using defaults"⟩
  | .fallback path fault =>
    ⟨.warning, "Failed to load config from " ++ path ++ ": " ++ describe fault ++
      ". Using defaults."⟩

/-- Settings and their source, from the path of a file and its content. -/
def load : Option (String × Except String Bytes) → Settings × ConfigSource
  | none => (.standard, .standard)
  | some (path, content) =>
    match Settings.ofFile path content with
    | .ok settings => (settings, .file path)
    | .error fault => (.standard, .fallback path fault)

end ConfigSource

end PropertyGraph
