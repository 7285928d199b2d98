/-
The query parameters and headers of a request.

Parameters are kept by key and headers by name, names in lower case; the last
one set stays. The parameter `format` is tied to the header `accept`: setting
it to one of the formats, in any case of letters, sets the header to the media
type of that format; setting it to anything else, or removing it, removes the
header. A stored bag is brought to agree with its `format` when it is read.
-/
import SearchRest.Param.Value
import SearchRest.Text.Lowercase

set_option autoImplicit false

namespace SearchRest

/-- **Query parameters and headers.** -/
structure ParamBag where
  query : KeyMap ParamValue
  headers : KeyMap String
  deriving DecidableEq

namespace ParamBag

/-- The bag without parameters and headers. -/
def empty : ParamBag := ⟨∅, ∅⟩

instance : Inhabited ParamBag := ⟨empty⟩

instance : EmptyCollection ParamBag := ⟨empty⟩

/-- The media type that goes with a value of `format`. -/
def mediaType? (v : ParamValue) : Option String :=
  (v.asText?.bind fun s => Token.ofText? .format (Text.asciiLower s)).map Token.mediaType

/-- Brings the `accept` header to agree with a value of `format`, or with none. -/
def withAccept (bag : ParamBag) (format : Option ParamValue) : ParamBag :=
  match format.bind mediaType? with
  | some media => { bag with headers := bag.headers.insert "accept" media }
  | none => { bag with headers := bag.headers.erase "accept" }

/-! ## Parameters -/

/-- Sets a parameter. -/
def set (bag : ParamBag) (key : String) (v : ParamValue) : ParamBag :=
  let bag := if key = "format" then bag.withAccept (some v) else bag
  { bag with query := bag.query.insert key v }

/-- The parameter of a key. -/
def get? (bag : ParamBag) (key : String) : Option ParamValue := bag.query.get? key

/-- Removes a parameter. -/
def remove (bag : ParamBag) (key : String) : ParamBag :=
  let bag := if key = "format" ∧ bag.query.contains key then bag.withAccept none else bag
  { bag with query := bag.query.erase key }

/-- Sets a parameter to a value, or removes it where there is none. -/
def setOption (bag : ParamBag) (key : String) : Option ParamValue → ParamBag
  | some v => bag.set key v
  | none => bag.remove key

/-- Sets a parameter to a text whose kind is not known. A format has to be one of the formats, in
any case of letters. -/
def setRaw (bag : ParamBag) (key raw : String) : Except RequestError ParamBag :=
  if key = "format" then
    match Token.ofText? .format (Text.asciiLower raw) with
    | some t => .ok (bag.set key (.ofToken t))
    | none => .error (.invalidParameterValue raw TokenDomain.format.description)
  else .ok (bag.set key (.infer raw))

/-- Whether there is no parameter. -/
def isEmpty (bag : ParamBag) : Bool := bag.query.isEmpty

/-- The number of parameters. -/
def size (bag : ParamBag) : Nat := bag.query.size

/-- The keys with the texts of their values, in the order of keys. -/
def pairs (bag : ParamBag) : List (String × String) :=
  bag.query.entries.map fun e => (e.1, e.2.render)

/-- The characters of one parameter in a query string. -/
def pairChars (e : String × ParamValue) : List Char :=
  Text.percentEncodeChars e.1.toList ++ '=' :: e.2.encodeChars

/-- **The query string**, empty if there is no parameter. -/
def queryString (bag : ParamBag) : String :=
  String.ofList (Text.joined '&' (bag.query.entries.map pairChars))

/-! ## Headers -/

/-- Sets a header. -/
def setHeader (bag : ParamBag) (name value : String) : ParamBag :=
  { bag with headers := bag.headers.insert (Text.asciiLower name) value }

/-- Removes a header. -/
def removeHeader (bag : ParamBag) (name : String) : ParamBag :=
  { bag with headers := bag.headers.erase (Text.asciiLower name) }

/-- The value of a header. -/
def header? (bag : ParamBag) (name : String) : Option String :=
  bag.headers.get? (Text.asciiLower name)

/-- The `accept` header. -/
def accept? (bag : ParamBag) : Option String := bag.header? "accept"

/-! ## The stored form -/

/-- The stored form. -/
def toJson (bag : ParamBag) : Json :=
  .object [("query", Json.ofMap ParamValue.toJson bag.query),
    ("headers", Json.ofMap Json.text bag.headers)]

/-- Brings the `accept` header to agree with `format`, if that is set. -/
def synced (bag : ParamBag) : ParamBag :=
  match bag.query.get? "format" with
  | some v => bag.withAccept (some v)
  | none => bag

/-- Reads a map that may be missing. -/
def mapOrEmpty? {α : Type} (read : Json → Option α) : Option Json → Option (KeyMap α)
  | some v => v.asMap? read
  | none => some ∅

/-- Reads the stored form. Both parts may be missing. -/
def ofJson? (v : Json) : Option ParamBag :=
  match v.fields? ["query", "headers"] with
  | some [query, headers] => do
    let query ← mapOrEmpty? ParamValue.ofJson? query
    let headers ← mapOrEmpty? Json.asText? headers
    some (synced ⟨query, headers⟩)
  | _ => none

instance : Stored ParamBag where
  ofJson? := ofJson?
  interest := .record [("query", .each (Stored.interest ParamValue)), ("headers", .all)]

end ParamBag

end SearchRest
