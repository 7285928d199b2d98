/-
The bodies of requests.

A body is one JSON value, a list of JSON values on a line each, or a text that
is sent as it is. Every line of values ends in a line feed, the last one too.
-/
import SearchRest.Json.Printing
import SearchRest.Json.Stored
import SearchRest.Text.Utf8

set_option autoImplicit false

namespace SearchRest

/-- **The body of a request.** -/
inductive Body where
  | json (value : CanonicalJson)
  /-- JSON values on a line each, as bulk operations and multiple searches take them. -/
  | lines (values : List CanonicalJson)
  | text (s : String)
  deriving DecidableEq

namespace Body

/-- The media type of the body. -/
def contentType : Body → String
  | .json _ => "application/json"
  | .lines _ => "application/x-ndjson"
  | .text _ => "text/plain"

/-- The characters of the body on the wire. -/
def chars : Body → List Char
  | .json v => v.value.writeChars
  | .lines vs => vs.flatMap fun v => v.value.writeChars ++ ['\n']
  | .text s => s.toList

/-- **The bytes of the body on the wire.** -/
def bytes (b : Body) : Text.Bytes := Text.encodeChars b.chars

/-- The stored form. -/
def toJson : Body → Json
  | .json v => .tagged "json" v.value
  | .lines vs => .tagged "nd_json" (.array (vs.map CanonicalJson.value))
  | .text s => .tagged "text" (.text s)

/-- Reads the stored form. -/
def ofJson? (v : Json) : Option Body :=
  match v.tagged? with
  | some ("json", v) => some (.json (.ofJson v))
  | some ("nd_json", v) => v.asItems?.map fun vs => .lines (vs.map .ofJson)
  | some ("text", v) => v.asText?.map .text
  | _ => none

instance : Stored Body where
  ofJson? := ofJson?
  interest := Json.taggedInterest

end Body

end SearchRest
