/-
The words of a command line.

A word that begins with two dashes is an option by its long name, one that
begins with a single dash is an option by its letter, and any other one is the
endpoint. The value of an option stands behind `=`, behind the letter, or in the
next word, which must not look like an option itself. A word `--` ends the
options. The value in a word of its own is judged only when the next word that
is known comes up, so a word that is not known is reported first.
-/
import SearchRest.CommandLine.Input

set_option autoImplicit false

namespace SearchRest.CommandLine

/-- **What can be said on a command line.** -/
inductive Parameter where
  | config
  /-- The address of the server. -/
  | url
  | jsonLogs
  | list
  /-- A value of a segment. -/
  | route
  | param
  | body
  /-- The name of the call in the server's logs. -/
  | opaqueId
  | help
  | version
  deriving DecidableEq

namespace Parameter

/-- All parameters. -/
def all : List Parameter :=
  [config, url, jsonLogs, list, route, param, body, opaqueId, help, version]

/-- The long name, without its dashes. -/
def name : Parameter → String
  | config => "config"
  | url => "url"
  | jsonLogs => "json-logs"
  | list => "list"
  | route => "route"
  | param => "param"
  | body => "body"
  | opaqueId => "opaque-id"
  | help => "help"
  | version => "version"

/-- The letter, if there is one. -/
def letter? : Parameter → Option Char
  | route => some 'r'
  | param => some 'q'
  | help => some 'h'
  | version => some 'V'
  | _ => none

/-- What the value is called in messages; nothing if there is no value. -/
def valueName? : Parameter → Option String
  | config => some "CONFIG"
  | url => some "URL"
  | route => some "NAME=VALUE"
  | param => some "KEY=VALUE"
  | body => some "BODY"
  | opaqueId => some "OPAQUE_ID"
  | _ => none

/-- Whether a value is taken. -/
def takesValue (p : Parameter) : Bool := p.valueName?.isSome

/-- Whether it may be said more than once. -/
def mayRepeat (p : Parameter) : Bool := p = route || p = param

/-- The parameter as it stands in messages. -/
def display (p : Parameter) : String :=
  "--" ++ p.name ++ (p.valueName?.map fun v => " <" ++ v ++ ">").getD ""

/-- The parameter of a long name. -/
def ofName? (s : String) : Option Parameter := all.find? (·.name = s)

/-- The parameter of a letter. -/
def ofLetter? (c : Char) : Option Parameter := all.find? (·.letter? = some c)

end Parameter

/-- **Why a command line gives no arguments.** -/
inductive Stop where
  /-- A word is not known, or there is one too many. -/
  | unknown (word : String)
  /-- A parameter is given again. -/
  | repeated (parameter : Parameter)
  | missingValue (parameter : Parameter)
  /-- There is a value where none is taken. -/
  | surplusValue (parameter : Parameter) (value : String)
  | invalidPair (parameter : Parameter) (value reason : String)
  | missingEndpoint
  /-- The help text is asked for. -/
  | help
  | version
  deriving DecidableEq

/-- The text of what is wrong; nothing if all that is wanted is a text. -/
def Stop.message? : Stop → Option String
  | .unknown word => some ("unexpected argument '" ++ word ++ "' found")
  | .repeated p => some ("the argument '" ++ p.display ++ "' cannot be used multiple times")
  | .missingValue p =>
    some ("a value is required for '" ++ p.display ++ "' but none was supplied")
  | .surplusValue p value =>
    some ("unexpected value '" ++ value ++ "' for '" ++ p.display ++ "' found; no more were expected")
  | .invalidPair p value reason =>
    some ("invalid value '" ++ value ++ "' for '" ++ p.display ++ "': " ++ reason)
  | .missingEndpoint => some "the following required arguments were not provided:"
  | .help => none
  | .version => none

/-- **The arguments of a command line.** -/
structure Arguments where
  config : String
  /-- The address of the server. -/
  url : Option String
  /-- Whether logs are wanted as JSON. -/
  jsonLogs : Bool
  /-- Whether the listing of all endpoints is wanted. -/
  list : Bool
  endpoint : Option String
  /-- The values of segments. -/
  route : List (String × String)
  params : List (String × String)
  body : Option String
  /-- The name of the call in the server's logs. -/
  opaqueId : Option String
  deriving DecidableEq

namespace Arguments

/-- The arguments of an empty command line. -/
def empty : Arguments := ⟨"osq.toml", none, false, false, none, [], [], none, none⟩

/-- The arguments with a parameter switched on. -/
def switchOn (a : Arguments) : Parameter → Arguments
  | .jsonLogs => { a with jsonLogs := true }
  | .list => { a with list := true }
  | _ => a

/-- The arguments with the value of a parameter, which has to be a pair for some, and not empty
for the configuration file. -/
def give (a : Arguments) (p : Parameter) (value : String) : Except Stop Arguments :=
  match p with
  | .config => if value = "" then .error (.missingValue p) else .ok { a with config := value }
  | .url => .ok { a with url := some value }
  | .route =>
    match readPair value with
    | .ok pair => .ok { a with route := a.route ++ [pair] }
    | .error reason => .error (.invalidPair p value reason)
  | .param =>
    match readPair value with
    | .ok pair => .ok { a with params := a.params ++ [pair] }
    | .error reason => .error (.invalidPair p value reason)
  | .body => .ok { a with body := some value }
  | .opaqueId => .ok { a with opaqueId := some value }
  | _ => .ok a

end Arguments

/-! ## Reading word by word -/

/-- **What has been read of a command line.** -/
structure Progress where
  arguments : Arguments
  given : List Parameter
  /-- The parameter that waits for its value, or for its value to be judged. -/
  pending : Option (Parameter × Option String)
  /-- Whether there are no more options. -/
  onlyEndpoint : Bool

namespace Progress

/-- Nothing has been read. -/
def start : Progress := ⟨.empty, [], none, false⟩

/-- Gives a parameter its value. -/
def give (s : Progress) (p : Parameter) (value : String) : Except Stop Progress :=
  if s.given.contains p && !p.mayRepeat then .error (.repeated p)
  else (s.arguments.give p value).map fun a => { s with arguments := a, given := p :: s.given }

/-- Judges the parameter that waits. -/
def settle (s : Progress) : Except Stop Progress :=
  match s.pending with
  | none => .ok s
  | some (p, none) => .error (.missingValue p)
  | some (p, some value) => { s with pending := none }.give p value

/-- Takes a parameter, and the value that stands in the same word. -/
def take (s : Progress) (p : Parameter) (value : Option String) : Except Stop Progress :=
  if p.takesValue then do
    let s ← s.settle
    match value with
    | some value => s.give p value
    | none => return { s with pending := some (p, none) }
  else match value with
    | some value => .error (.surplusValue p value)
    | none => do
      let s ← s.settle
      match p with
      | .help => .error .help
      | .version => .error .version
      | p =>
        if s.given.contains p then .error (.repeated p)
        else return { s with arguments := s.arguments.switchOn p, given := p :: s.given }

/-- Takes a word that begins with two dashes, given without them. -/
def takeLong (s : Progress) (word : String) : Except Stop Progress :=
  let (name, value) := match Text.splitFirst '=' word with
    | some (name, value) => (name, some value)
    | none => (word, none)
  match Parameter.ofName? name with
  | some p => s.take p value
  | none => .error (.unknown ("--" ++ name))

/-- Takes a word that begins with a single dash and this letter. -/
def takeShort (s : Progress) (letter : Char) (rest : List Char) : Except Stop Progress :=
  match Parameter.ofLetter? letter with
  | none => .error (.unknown (String.ofList ['-', letter]))
  | some p =>
    if !p.takesValue then s.take p none
    else match rest with
      | [] => s.take p none
      | '=' :: value => s.take p (some (String.ofList value))
      | value => s.take p (some (String.ofList value))

/-- Takes a word that is no option: the value that is waited for, or the endpoint. -/
def takePlain (s : Progress) (word : String) : Except Stop Progress :=
  match s.onlyEndpoint, s.pending with
  | false, some (p, none) => .ok { s with pending := some (p, some word) }
  | _, _ =>
    if s.arguments.endpoint.isSome then .error (.unknown word)
    else s.settle.map fun s => { s with arguments := { s.arguments with endpoint := some word } }

/-- **Takes a word.** -/
def step (s : Progress) (word : String) : Except Stop Progress :=
  if s.onlyEndpoint then s.takePlain word
  else match word.toList with
    | ['-', '-'] => .ok { s with onlyEndpoint := true }
    | '-' :: '-' :: rest => s.takeLong (String.ofList rest)
    | '-' :: letter :: rest => s.takeShort letter rest
    | _ => s.takePlain word

/-- The arguments, once all words are read. -/
def finish (s : Progress) : Except Stop Arguments := do
  let s ← s.settle
  if s.arguments.endpoint.isNone && !s.arguments.list then .error .missingEndpoint
  else return s.arguments

end Progress

/-- **Reads a command line.** -/
def Arguments.read (words : List String) : Except Stop Arguments := do
  (← words.foldlM Progress.step .start).finish

end SearchRest.CommandLine
