/-
The values of path segments.

A value is one text or a list of texts. In a path every text is
percent-encoded, and the texts of a list are joined by commas, the empty ones
left out. A value that leaves nothing counts as not bound at all.
-/
import SearchRest.Json.Stored
import SearchRest.Text.Percent
import SearchRest.Text.Pieces

set_option autoImplicit false

namespace SearchRest

/-- **The value of a path segment.** -/
inductive RouteValue where
  /-- One text, such as the id of a document. -/
  | single (text : String)
  /-- Several texts, such as the names of indices. -/
  | list (texts : List String)
  deriving DecidableEq

namespace RouteValue

/-- The texts of the value that are not empty. -/
def elements : RouteValue → List String
  | .single s => [s].filter (· ≠ "")
  | .list l => l.filter (· ≠ "")

/-- Whether nothing of the value would show in a path. -/
def isEmpty : RouteValue → Bool
  | .single s => s = ""
  | .list l => l.all (· = "")

/-- The characters of the value in a path. -/
def encodeChars : RouteValue → List Char
  | .single s => Text.percentEncodeChars s.toList
  | .list l =>
    Text.joined ',' ((l.filter (· ≠ "")).map fun s => Text.percentEncodeChars s.toList)

/-- **The value as it stands in a path.** -/
def encode (v : RouteValue) : String := String.ofList v.encodeChars

/-- The value as it is shown, without escapes and with the empty texts. -/
def display : RouteValue → String
  | .single s => s
  | .list l => Text.join ',' l

/-- The stored form: a string, or a list of strings. -/
def toJson : RouteValue → Json
  | .single s => .text s
  | .list l => Json.texts l

/-- Reads the stored form. -/
def ofJson? (v : Json) : Option RouteValue :=
  match v with
  | .text s => some (.single s)
  | v => v.asTexts?.map .list

instance : Stored RouteValue where
  ofJson? := ofJson?

end RouteValue

end SearchRest
