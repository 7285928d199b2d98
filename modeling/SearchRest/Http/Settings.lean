/-
How the server is reached.

The settings give the address that stands before every path, the time that a
call may take, the name that the client goes by, and headers for every message.
Each has a default. A channel is settings that were found fit for use: the
address is one of the web without query string and fragment, and the name can
stand in a header.
-/
import SearchRest.Files
import SearchRest.Http.Header
import SearchRest.Request
import SearchRest.Toml.Basic
import SearchRest.Toml.Reading
import SearchRest.Url

set_option autoImplicit false

namespace SearchRest.Http

/-- **How the server is reached.** -/
structure Settings where
  /-- The address that stands before every path. -/
  baseUrl : String
  /-- The time that a call may take; 0 sets no limit. -/
  timeoutSeconds : UInt64
  /-- The name that the client goes by. -/
  userAgent : String
  defaultHeaders : KeyMap String
  deriving DecidableEq

/-- **What is wrong with an address that reads as one.** -/
inductive BaseUrlFault where
  /-- It is none. -/
  | unreadable (error : UrlError)
  | otherScheme
  /-- It has a query string or a fragment. -/
  | queryOrFragment
  deriving DecidableEq

/-- The text of the fault. -/
def BaseUrlFault.message : BaseUrlFault → String
  | .unreadable e => e.message
  | .otherScheme => "scheme must be http or https"
  | .queryOrFragment => "must not carry a query or fragment"

/-- **Why settings cannot be used.** -/
inductive SettingsError where
  /-- Their file cannot be read. -/
  | unreadable (path : String) (cause : FileError)
  /-- Their text is no TOML, or not of their shape. -/
  | invalid
  /-- The address cannot be used. -/
  | invalidBaseUrl (url : String) (cause : BaseUrlFault)
  /-- The name of the client cannot stand in a header. -/
  | invalidUserAgent
  deriving DecidableEq

/-- The text of the error. -/
def SettingsError.message : SettingsError → String
  | .unreadable path cause => "Failed to read config file '" ++ path ++ "': " ++ cause.message
  | .invalid => "Failed to parse transport config"
  | .invalidBaseUrl url cause => "Invalid base URL '" ++ url ++ "': " ++ cause.message
  | .invalidUserAgent => "Failed to build HTTP client: builder error"

namespace Settings

/-- The settings without any that were made: a server on this machine. -/
def standard : Settings := ⟨"http://localhost:9200", 30, "osq/0.1.0", ∅⟩

instance : Inhabited Settings := ⟨standard⟩

/-! ## Stored forms -/

/-- Takes settings out of a value. What is missing keeps its default. -/
def ofToml? (v : Toml) : Option Settings :=
  match v.fields? ["base_url", "timeout_secs", "user_agent", "default_headers"] with
  | some [baseUrl, timeout, userAgent, headers] => do
    return ⟨← Toml.fieldOr standard.baseUrl Toml.asText? baseUrl,
      ← Toml.fieldOr standard.timeoutSeconds Toml.asWord? timeout,
      ← Toml.fieldOr standard.userAgent Toml.asText? userAgent,
      ← Toml.fieldOr standard.defaultHeaders (Toml.asMap? Toml.asText?) headers⟩
  | _ => none

/-- **Reads settings**, which are the fields at the top of a TOML document. -/
def read (s : String) : Except SettingsError Settings :=
  match (Toml.read? s).bind ofToml? with
  | some settings => .ok settings
  | none => .error .invalid

/-- Reads the settings in a file. -/
def ofFile (path : String) (entry : FileEntry) : Except SettingsError Settings :=
  match entry.readText with
  | .ok s => read s
  | .error e => .error (.unreadable path e)

/-- The settings as a JSON value. -/
def toJson (s : Settings) : Json :=
  .object [("base_url", .text s.baseUrl), ("timeout_secs", .integer s.timeoutSeconds.toNat),
    ("user_agent", .text s.userAgent), ("default_headers", Json.ofMap .text s.defaultHeaders)]

/-! ## Use -/

/-- The time that a call may take, if there is a limit. -/
def timeout? (s : Settings) : Option UInt64 :=
  if s.timeoutSeconds = 0 then none else some s.timeoutSeconds

/-- **Checks the address** and brings it to its normal form. -/
def base (s : Settings) : Except SettingsError Url :=
  match Url.parse s.baseUrl with
  | .error e => .error (.invalidBaseUrl s.baseUrl (.unreadable e))
  | .ok url =>
    if url.scheme ≠ "http" ∧ url.scheme ≠ "https" then
      .error (.invalidBaseUrl s.baseUrl .otherScheme)
    else if url.query.isSome ∨ url.fragment.isSome then
      .error (.invalidBaseUrl s.baseUrl .queryOrFragment)
    else .ok url

end Settings

/-- **A channel to the server**: settings that can be used. -/
structure Channel where
  settings : Settings
  /-- The address in its normal form. -/
  base : Url
  /-- The settings were checked. -/
  base_eq : settings.base = .ok base
  deriving DecidableEq

namespace Channel

/-- **Opens a channel.** Nothing is sent yet. -/
def make (s : Settings) : Except SettingsError Channel :=
  match h : s.base with
  | .error e => .error e
  | .ok url =>
    if isHeaderText s.userAgent then .ok ⟨s, url, h⟩ else .error .invalidUserAgent

/-- The channel as it appears in reports. -/
def report (c : Channel) : String :=
  "HttpTransport \x7b base_url: " ++ Text.quoted c.base.write ++ ", .. \x7d"

/-- The text of the address of a request: that of the channel without slashes at its end, and the
path and query string of the request. -/
def urlText (c : Channel) (r : Request) : String :=
  String.ofList (Text.dropEndWhile (· = '/') c.base.write.toList) ++ r.pathAndQuery

/-- **The address of a request**, in its normal form. -/
def urlFor (c : Channel) (r : Request) : Except TransportError Url :=
  match Url.parse (c.urlText r) with
  | .ok url => .ok url
  | .error e =>
    .error (.invalidRequest ("'" ++ c.urlText r ++ "' is not a valid URL: " ++ e.message))

/-- **The headers of a request**: the defaults, of which the last one in the order of their names
stays where names differ only in case, and over them the headers of the request itself. -/
def headersFor (c : Channel) (r : Request) : KeyMap String :=
  (KeyMap.ofList (c.settings.defaultHeaders.entries.map fun e => (Text.asciiLower e.1, e.2))).insertAll
    r.headers.entries

end Channel

end SearchRest.Http
