import PropertyGraph.Address.Socket
import PropertyGraph.Request.Window
import PropertyGraph.Text.Utf8
import PropertyGraph.Toml.Document

/-!
# Settings

- `Settings`: where the service listens, how long bodies may be, and what is logged.
- `Settings.standard`: the settings that hold where nothing else is said.
- `Settings.ofTable`: the settings that a document asks for. Sections and fields may be
  missing, and others than these do not count.
- `Settings.ofFile`: the settings in the content of a file.
- `Settings.withHttpAddress`, `Settings.withLogLevel`: settings with one of them
  replaced.
-/

namespace PropertyGraph

/-- Why settings cannot be used. -/
inductive ConfigFault where
  /-- The file cannot be read as text. -/
  | unreadable (path reason : String)
  /-- The text of the file says nothing that can be used. -/
  | unusable (path reason : String)
  /-- A value given otherwise cannot be used. -/
  | invalid (value : String)
  deriving DecidableEq

/-- The wording of a fault. -/
def ConfigFault.message : ConfigFault → String
  | .unreadable path reason => "Cannot read config file " ++ path ++ ": " ++ reason
  | .unusable path reason => "Cannot parse config file " ++ path ++ ": " ++ reason
  | .invalid value => "Invalid configuration value: " ++ value

/-- What the service is told before it starts. -/
structure Settings where
  httpAddress : SocketAddress
  maxBodyBytes : Nat
  logLevel : String
  deriving DecidableEq

namespace Settings

/-- The settings that hold where nothing else is said: all interfaces, and bodies of
sixteen mebibytes. -/
def standard : Settings where
  httpAddress := .v4 ⟨0, 0, 0, 0⟩ 9090
  maxBodyBytes := 16 * 1024 * 1024
  logLevel := "info"

/-- A field of a section. -/
structure Field where
  group : String
  name : String

/-- The wording for a field that has another form than it should. -/
def Field.mismatch (f : Field) : String := "unusable value for " ++ f.group ++ "." ++ f.name

/-- The value of the only field that counts in a section. A list gives it as its first
item, and a date has no fields. -/
def Field.find (f : Field) (t : Toml.Table) : Except String (Option Toml.Value) :=
  match Bindings.get? f.group t with
  | none => .ok none
  | some (.table _ entries) => .ok (Bindings.get? f.name entries)
  | some (.array _ items) => .ok items.head?
  | some (.dateTime _) => .ok none
  | some _ => .error f.mismatch

/-- A field of a document, or what holds without it. -/
def Field.read {α : Type} (f : Field) (standard : α) (ofValue : Toml.Value → Option α)
    (t : Toml.Table) : Except String α := do
  match ← f.find t with
  | none => return standard
  | some v =>
    match ofValue v with
    | some x => return x
    | none => throw f.mismatch

/-- An address in its textual form. -/
def addressOf? : Toml.Value → Option SocketAddress
  | .string s => SocketAddress.ofText? s
  | _ => none

/-- A count of up to sixty-four bits. -/
def countOf? : Toml.Value → Option Nat
  | .integer (.ofNat n) => if n < countBound then some n else none
  | _ => none

/-- A text. -/
def textOf? : Toml.Value → Option String
  | .string s => some s
  | _ => none

/-- The settings that a document asks for. -/
def ofTable (t : Toml.Table) : Except String Settings := do
  let httpAddress ← Field.read ⟨"server", "http_addr"⟩ standard.httpAddress addressOf? t
  let maxBodyBytes ← Field.read ⟨"graph", "max_body_bytes"⟩ standard.maxBodyBytes countOf? t
  let logLevel ← Field.read ⟨"logging", "level"⟩ standard.logLevel textOf? t
  return { httpAddress, maxBodyBytes, logLevel }

/-- The settings in a text. -/
def ofText (text : String) : Except String Settings := do
  let t ← (Toml.read text).mapError Toml.Fault.message
  ofTable t

/-- The settings in the content of a file, or the reason why the file could not be
read. -/
def ofFile (path : String) (content : Except String Bytes) : Except ConfigFault Settings := do
  let bytes ← content.mapError (.unreadable path)
  match Utf8.decode? bytes with
  | none => throw (.unreadable path "stream did not contain valid UTF-8")
  | some text => (ofText text).mapError (.unusable path)

/-- Settings with another address to listen on. -/
def withHttpAddress (s : Settings) (address : String) : Except ConfigFault Settings :=
  match SocketAddress.ofText? address with
  | some httpAddress => .ok { s with httpAddress }
  | none => .error (.invalid ("http address '" ++ address ++ "'"))

/-- Settings with another level of logging. -/
def withLogLevel (s : Settings) (logLevel : String) : Settings := { s with logLevel }

end Settings

end PropertyGraph
