/-
The settings of the program.

Settings come from a file, then from variables, then from the command line, and
what comes later wins. A file that is not there, or that holds nothing but
blanks, gives the defaults.
-/
import SearchRest.CommandLine.Arguments
import SearchRest.Http.Settings

set_option autoImplicit false

namespace SearchRest.CommandLine

/-- **What is logged, and where to.** -/
structure LogSettings where
  /-- Whether logs are JSON. -/
  json : Bool
  /-- Which events are logged, unless a variable says it. -/
  filter : String
  /-- The address that traces go to. -/
  traceEndpoint : Option String
  /-- The name of the program in traces. -/
  serviceName : String
  deriving DecidableEq

/-- **The settings of the program.** -/
structure Settings where
  /-- How the server is reached. -/
  http : Http.Settings
  /-- What is logged. -/
  logs : LogSettings
  deriving DecidableEq

/-- **Why there are no settings.** -/
inductive SettingsError where
  | unreadable (path : String) (cause : FileError)
  /-- The file is no TOML, or not of the shape of settings. -/
  | invalid (path : String)
  /-- The time in a variable is no number. -/
  | invalidTimeout (value : String) (cause : Text.NumeralError)
  deriving DecidableEq

/-- What happened, and what caused it. -/
def SettingsError.chain : SettingsError → List String
  | .unreadable path cause => ["Failed to read config file: " ++ path, cause.message]
  | .invalid path => ["Failed to parse config file: " ++ path, "TOML parse error"]
  | .invalidTimeout value cause =>
    ["OSQ_TIMEOUT_SECS is not a number of seconds: '" ++ value ++ "'", cause.message]

/-- The log settings without any that were made. -/
def LogSettings.standard : LogSettings := ⟨false, "info", none, "osq"⟩

/-- Takes log settings out of a value. -/
def LogSettings.ofToml? (v : Toml) : Option LogSettings :=
  match v.fields? ["json_logs", "default_filter", "otlp_endpoint", "service_name"] with
  | some [json, filter, traceEndpoint, serviceName] => do
    return ⟨← Toml.fieldOr standard.json Toml.asBool? json,
      ← Toml.fieldOr standard.filter Toml.asText? filter,
      ← Toml.fieldOr none (fun v => v.asText?.map some) traceEndpoint,
      ← Toml.fieldOr standard.serviceName Toml.asText? serviceName⟩
  | _ => none

/-- The log settings as a JSON value. -/
def LogSettings.toJson (s : LogSettings) : Json :=
  .object [("json_logs", .bool s.json), ("default_filter", .text s.filter),
    ("otlp_endpoint", (s.traceEndpoint.map Json.text).getD .null),
    ("service_name", .text s.serviceName)]

namespace Settings

/-- The settings without any that were made. -/
def standard : Settings := ⟨.standard, .standard⟩

instance : Inhabited Settings := ⟨standard⟩

/-- Takes settings out of a value. What is missing keeps its default. -/
def ofToml? (v : Toml) : Option Settings :=
  match v.fields? ["transport", "observability"] with
  | some [http, logs] => do
    return ⟨← Toml.fieldOr .standard Http.Settings.ofToml? http,
      ← Toml.fieldOr .standard LogSettings.ofToml? logs⟩
  | _ => none

/-- **Reads settings** from the text of a file. -/
def read? (s : String) : Option Settings :=
  if Text.isBlankText s then some standard else (Toml.read? s).bind ofToml?

/-- The settings as a JSON value. -/
def toJson (s : Settings) : Json :=
  .object [("transport", s.http.toJson), ("observability", s.logs.toJson)]

/-- **Loads the settings** in the file at a path. -/
def load (path : String) (entry : FileEntry) : Except SettingsError Settings :=
  if entry = .missing then .ok standard
  else match entry.readText with
    | .error e => .error (.unreadable path e)
    | .ok text =>
      match read? text with
      | some s => .ok s
      | none => .error (.invalid path)

/-! ## What overrides them -/

/-- The settings with the address in a variable, if it is set. -/
def withUrl (url : Option String) (s : Settings) : Settings :=
  { s with http := { s.http with baseUrl := url.getD s.http.baseUrl } }

/-- The settings with the time in a variable, if it is set. -/
def withTimeout (value : Option String) (s : Settings) : Except SettingsError Settings :=
  match value with
  | none => .ok s
  | some value =>
    match Text.readWord (Text.trim value) with
    | .ok n => .ok { s with http := { s.http with timeoutSeconds := UInt64.ofNat n } }
    | .error e => .error (.invalidTimeout value e)

/-- The settings with the address for traces in a variable, if it is set. -/
def withTraceEndpoint (endpoint : Option String) (s : Settings) : Settings :=
  { s with logs := { s.logs with traceEndpoint := endpoint.or s.logs.traceEndpoint } }

/-- **The settings with what variables say**, and what is wrong with the variables. Those before
the one that is wrong count all the same. -/
def applyVariables (environment : String → Option String) (s : Settings) :
    Settings × Option SettingsError :=
  let s := s.withUrl (environment "OSQ_URL")
  match s.withTimeout (environment "OSQ_TIMEOUT_SECS") with
  | .ok s => (s.withTraceEndpoint (environment "OTEL_EXPORTER_OTLP_ENDPOINT"), none)
  | .error e => (s, some e)

/-- **The settings with what a command line says.** -/
def applyArguments (a : Arguments) (s : Settings) : Settings :=
  let s := s.withUrl a.url
  { s with logs := { s.logs with json := a.jsonLogs || s.logs.json } }

/-- **The settings that the program runs with.** -/
def resolve (a : Arguments) (environment : String → Option String) (entry : FileEntry) :
    Except SettingsError Settings :=
  match load a.config entry with
  | .error e => .error e
  | .ok s =>
    match s.applyVariables environment with
    | (_, some e) => .error e
    | (s, none) => .ok (s.applyArguments a)

end Settings

end SearchRest.CommandLine
