/-
What is known of an endpoint before any call.

An endpoint has a name with dots, a method, path templates with the most
specific one first, and it takes a body or not. A registry finds endpoints by
name; of several with one name the last one stays.
-/
import SearchRest.Error
import SearchRest.Route.Template

set_option autoImplicit false

namespace SearchRest

/-- **The methods of requests.** -/
inductive Method where
  /-- Reads. -/
  | get
  /-- Writes, and reads that carry a body. -/
  | post
  /-- Creates or replaces what the path addresses. -/
  | put
  /-- Removes what the path addresses. -/
  | delete
  /-- Asks whether there is anything; the reply has no body. -/
  | head
  deriving DecidableEq

namespace Method

/-- The method on the wire. -/
def name : Method → String
  | get => "GET"
  | post => "POST"
  | put => "PUT"
  | delete => "DELETE"
  | head => "HEAD"

/-- The method of a name. -/
def ofName? (s : String) : Option Method := [get, post, put, delete, head].find? (·.name = s)

end Method

/-- **The description of an endpoint.** -/
structure EndpointSpec where
  /-- The name, with dots between its parts. -/
  name : String
  method : Method
  /-- The path templates as texts, the most specific one first. -/
  paths : List String
  /-- Whether a body may be attached. -/
  supportsBody : Bool
  deriving DecidableEq

namespace EndpointSpec

/-- The path templates. -/
def templates (e : EndpointSpec) : List Template := e.paths.map Template.parse

/-- The names of all placeholders, in the order in which they first occur. -/
def segmentNames (e : EndpointSpec) : List String :=
  (e.templates.flatMap Template.params).eraseDups

/-- The names of all placeholders, each with whether every template has it. -/
def segments (e : EndpointSpec) : List (String × Bool) :=
  e.segmentNames.map fun name => (name, e.templates.all fun t => t.hasParam name)

/-- Whether every template has a placeholder of the name. -/
def isRequired (e : EndpointSpec) (segment : String) : Bool :=
  e.segments.any fun s => s.1 = segment && s.2

end EndpointSpec

/-- **Endpoints by name.** -/
structure Registry where
  byName : KeyMap EndpointSpec

namespace Registry

/-- The registry of the descriptions; of several with one name the last one stays. -/
def ofSpecs (specs : List EndpointSpec) : Registry :=
  ⟨KeyMap.ofList (specs.map fun e => (e.name, e))⟩

/-- The endpoint of a name. -/
def get (r : Registry) (name : String) : Except RequestError EndpointSpec :=
  match r.byName.get? name with
  | some e => .ok e
  | none => .error (.unknownEndpoint name)

/-- The descriptions in the order of names. -/
def specs (r : Registry) : List EndpointSpec := r.byName.entries.map Prod.snd

/-- The names in order. -/
def names (r : Registry) : List String := r.byName.keys

/-- The number of endpoints. -/
def size (r : Registry) : Nat := r.byName.size

/-- Whether there is no endpoint. -/
def isEmpty (r : Registry) : Bool := r.byName.isEmpty

/-- A text with blanks behind it up to a width. -/
def padded (width : Nat) (s : String) : String :=
  s ++ String.ofList (List.replicate (width - s.length) ' ')

/-- **A line for every endpoint**: its name, its method and its paths, in columns. -/
def listing (r : Registry) : List String :=
  r.specs.map fun e =>
    padded 44 e.name ++ " " ++ padded 6 e.method.name ++ " " ++ String.intercalate "  " e.paths

end Registry

end SearchRest
