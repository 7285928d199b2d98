/-
One run of the program.

A run lists the endpoints, tells about itself, or makes one call. Everything
that can go wrong before the call is found first: the settings, the log filter,
the address for traces, the request, and the channel to the server. Only then
the request is handed over. What the reply holds is printed as it is, and the
run succeeds if the status of the reply does.
-/
import SearchRest.Catalogue
import SearchRest.CommandLine.LogFilter
import SearchRest.CommandLine.Settings
import SearchRest.Http.Exchange

set_option autoImplicit false

namespace SearchRest.CommandLine

/-- **What a run finds around it.** -/
structure Surroundings where
  /-- The variables that are set. -/
  environment : String → Option String
  /-- What paths lead to. -/
  entry : String → FileEntry
  /-- A name for the call, in case none is given. -/
  freshId : String

/-- The variables that a run looks at. -/
def variableNames : List String :=
  ["OSQ_URL", "OSQ_TIMEOUT_SECS", "OTEL_EXPORTER_OTLP_ENDPOINT",
    "OTEL_EXPORTER_OTLP_TRACES_ENDPOINT", "RUST_LOG"]

/-- The paths that a run looks at. -/
def Arguments.paths (a : Arguments) : List String :=
  a.config :: match a.body.map String.toList with
    | some ('@' :: path) => [String.ofList path]
    | _ => []

/-- A name for a call, made of 16 random bytes: their digits in five groups, of which the third
and the fourth begin by saying that the name is random. -/
def callName (random : Text.Bytes) : String :=
  let digits (b : UInt8) : List Char := [Text.hexDigit (b.toNat / 16), Text.hexDigit (b.toNat % 16)]
  let marked := random.zipIdx.map fun (b, i) =>
    if i = 6 then b % 16 + 0x40 else if i = 8 then b % 64 + 0x80 else b
  let group (start size : Nat) : List Char := ((marked.drop start).take size).flatMap digits
  String.ofList (Text.joined '-' [group 0 4, group 4 2, group 6 2, group 8 2, group 10 6])

/-- **Why a run fails.** -/
inductive Failure where
  | settings (error : SettingsError)
  | logFilter (filter : String) (cause : FilterError)
  /-- Traces have nowhere to go. -/
  | traceEndpoint (endpoint : String) (cause : AddressFault)
  | noEndpoint
  /-- The request cannot be built. -/
  | request (error : RequestError)
  /-- The file with the body cannot be read. -/
  | unreadableBody (path : String) (cause : FileError)
  | body (error : BodyError)
  | unresolved (error : RequestError)
  /-- There is no channel to the server. -/
  | channel (error : Http.SettingsError)
  /-- The exchange with the server failed. -/
  | transport (error : TransportError)
  deriving DecidableEq

/-- What happened, and what caused it. -/
def Failure.chain : Failure → List String
  | .settings e => e.chain
  | .logFilter filter cause => ("Invalid log filter '" ++ filter ++ "'") :: cause.chain
  | .traceEndpoint endpoint cause =>
    ["Failed to create OTLP exporter for '" ++ endpoint ++ "'",
      "Exporter otlp encountered the following error(s): invalid URI " ++ cause.message]
  | .noEndpoint => ["No endpoint given; use --list to see them"]
  | .request e => [e.message]
  | .unreadableBody path cause => ["Failed to read body file: " ++ path, cause.message]
  | .body e => [e.message]
  | .unresolved e => ["Failed to resolve request", e.message]
  | .channel e => [e.message]
  | .transport e => [e.message]

/-- What happened. -/
def Failure.headline (f : Failure) : String := f.chain.head?.getD ""

/-! ## The request -/

/-- Reads the body that is named on the command line: a text, or `@` and the path of a file. -/
def bodyOf (entry : String → FileEntry) (raw : String) : Except Failure Body :=
  let read (text : String) : Except Failure Body :=
    match readBody text with
    | .ok b => .ok b
    | .error e => .error (.body e)
  match raw.toList with
  | '@' :: path =>
    match (entry (String.ofList path)).readText with
    | .ok text => read text
    | .error e => .error (.unreadableBody (String.ofList path) e)
  | _ => read raw

/-- The draft with the query parameters of a command line. -/
def withParams (d : Draft) (params : List (String × String)) : Except Failure Draft :=
  match params.foldlM (fun d p => d.setRaw p.1 p.2) d with
  | .ok d => .ok d
  | .error e => .error (.request e)

/-- **Builds the draft that a command line describes.** -/
def buildDraft (a : Arguments) (opaqueId : String) (entry : String → FileEntry) :
    Except Failure (EndpointSpec × Draft) := do
  let some name := a.endpoint | .error .noEndpoint
  match Catalogue.registry.get name with
  | .error e => .error (.request e)
  | .ok spec =>
    let named := Draft.empty.edit (.header "x-opaque-id" opaqueId)
    let routed := a.route.foldl (fun d r => d.edit (.bind r.1 (routeValue r.2))) named
    let d ← withParams routed a.params
    match a.body with
    | none => return (spec, d)
    | some raw => return (spec, d.edit (.attach (← bodyOf entry raw)))

/-- **Builds and resolves the request that a command line describes.** -/
def buildRequest (a : Arguments) (opaqueId : String) (entry : String → FileEntry) :
    Except Failure Request := do
  let (spec, d) ← buildDraft a opaqueId entry
  match d.resolve spec with
  | .ok r => return r
  | .error e => .error (.unresolved e)

/-! ## Before the call -/

/-- Checks the log filter. One in a variable is used if it is a filter. -/
def checkFilter (environment : String → Option String) (logs : LogSettings) :
    Except Failure Unit :=
  if (environment "RUST_LOG").any fun f => (LogFilter.check f).isOk then .ok ()
  else match LogFilter.check logs.filter with
    | .ok () => .ok ()
    | .error e => .error (.logFilter logs.filter e)

/-- The address that traces go to, if they go anywhere: the settings say whether, and variables
before the settings say where. -/
def traceAddress? (environment : String → Option String) (logs : LogSettings) : Option String :=
  logs.traceEndpoint.map fun endpoint =>
    ((environment "OTEL_EXPORTER_OTLP_TRACES_ENDPOINT").or
      (environment "OTEL_EXPORTER_OTLP_ENDPOINT")).getD
        (if endpoint = "" then "http://localhost:4317" else endpoint)

/-- Checks the address that traces go to. -/
def checkTraces (environment : String → Option String) (logs : LogSettings) :
    Except Failure Unit :=
  match traceAddress? environment logs with
  | none => .ok ()
  | some address =>
    match AddressSyntax.check address with
    | .ok () => .ok ()
    | .error e => .error (.traceEndpoint (logs.traceEndpoint.getD "") e)

/-- **Does everything that comes before the call**: there is a channel and a request, or a
failure. -/
def prepare (s : Surroundings) (a : Arguments) : Except Failure (Http.Channel × Request) := do
  match Settings.resolve a s.environment (s.entry a.config) with
  | .error e => .error (.settings e)
  | .ok settings =>
    checkFilter s.environment settings.logs
    checkTraces s.environment settings.logs
    let r ← buildRequest a (a.opaqueId.getD s.freshId) s.entry
    match Http.Channel.make settings.http with
    | .ok c => return (c, r)
    | .error e => .error (.channel e)

/-! ## Runs -/

/-- **What a run leaves behind.** -/
structure Outcome where
  /-- The exit code; 0 is success. -/
  exitCode : Nat
  /-- What is printed. -/
  output : Text.Bytes
  messages : List String
  deriving DecidableEq

namespace Outcome

/-- Lines are printed, and the run succeeds. -/
def lines (l : List String) : Outcome := ⟨0, Text.encode (String.join (l.map (· ++ "\n"))), []⟩

/-- The command line was refused. -/
def refused (message : String) : Outcome := ⟨2, [], ["error: " ++ message]⟩

/-- The run failed. -/
def failed (f : Failure) : Outcome := ⟨1, [], ["error: " ++ String.intercalate ": " f.chain]⟩

/-- The bytes, with the end of a line behind them unless there are none or one is there. -/
def withLineEnd (bytes : Text.Bytes) : Text.Bytes :=
  if bytes.isEmpty || bytes.getLast? = some 0x0a then bytes else bytes ++ [0x0a]

/-- A call was made. -/
def called : Except TransportError Response → Outcome
  | .ok r =>
    ⟨if r.isSuccess then 0 else 1, withLineEnd r.body, ["HTTP " ++ Text.decimal r.status]⟩
  | .error e => failed (.transport e)

end Outcome

/-- The version of the program. -/
def versionText : String := "osq 0.1.0"

/-- The help text. -/
def helpText : List String :=
  ["osq: command-line access to any registered OpenSearch endpoint, plus observability wiring.",
    "",
    "Usage: osq [OPTIONS] [ENDPOINT]",
    "",
    "Arguments:",
    "  [ENDPOINT]  Registry name of the endpoint, e.g. `snapshot.status` or `cat.indices`",
    "",
    "Options:",
    "      --config <CONFIG>        Config file; a missing file means built-in defaults [default: osq.toml]",
    "      --url <URL>              Cluster URL, overriding the config file and OSQ_URL",
    "      --json-logs              Emit logs as JSON lines",
    "      --list                   List every endpoint and exit",
    "  -r, --route <NAME=VALUE>     Route value as name=value. Commas make a list",
    "  -q, --param <KEY=VALUE>      Query parameter as key=value",
    "      --body <BODY>            Request body: JSON, NDJSON, or @path to read it from a file",
    "      --opaque-id <OPAQUE_ID>  X-Opaque-Id header; a random one is generated when absent",
    "  -h, --help                   Print help",
    "  -V, --version                Print version"]

/-- The outcome of a command line that gives no arguments. -/
def Stop.outcome : Stop → Outcome
  | .help => .lines helpText
  | .version => .lines [versionText]
  | stop => .refused (stop.message?.getD "")

/-- **What a run comes to** before anything is sent. -/
inductive Plan where
  /-- The run is over. -/
  | done (outcome : Outcome)
  /-- The request is to be handed over. -/
  | call (channel : Http.Channel) (request : Request)

/-- **Plans a run** with the arguments of its command line. -/
def plan (s : Surroundings) (a : Arguments) : Plan :=
  if a.list then .done (.lines Catalogue.registry.listing)
  else match prepare s a with
    | .ok (channel, request) => .call channel request
    | .error f => .done (.failed f)

/-- **Runs the program** with the words of its command line. Requests are handed to `send`. -/
def run {m : Type → Type} [Monad m] (s : Surroundings) (words : List String)
    (send : Http.Channel → Request → m (Except TransportError Response)) : m Outcome :=
  match Arguments.read words with
  | .error stop => pure stop.outcome
  | .ok a =>
    match plan s a with
    | .done outcome => pure outcome
    | .call channel request => Outcome.called <$> send channel request

end SearchRest.CommandLine
