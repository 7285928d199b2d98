/-
The values of query parameters.

A value has a kind, which is kept when it is stored. What is sent is a text:
numbers in their shortest form, lists joined by commas. In a query string the
text is percent-encoded, the texts of a list one by one.
-/
import SearchRest.Decimal.Layout
import SearchRest.Decimal.Reading
import SearchRest.Json.Stored
import SearchRest.Text.Percent
import SearchRest.Text.Pieces
import SearchRest.TimeValue
import SearchRest.Token

set_option autoImplicit false

namespace SearchRest

/-- **The value of a query parameter.** -/
inductive ParamValue where
  /-- A truth value. -/
  | bool (b : Bool)
  | integer (n : Int64)
  | number (x : Binary64)
  /-- Any text, a time value included. -/
  | text (s : String)
  /-- Several texts. -/
  | list (items : List String)
  /-- A word of a closed domain. -/
  | token (s : String)
  deriving DecidableEq

namespace ParamValue

/-- The text of a truth value. -/
def boolText (b : Bool) : String := if b then "true" else "false"

/-- **The text that the value stands for**, without escapes. -/
def render : ParamValue → String
  | .bool b => boolText b
  | .integer n => Text.signedDecimal n.toInt
  | .number x => FloatLayout.query.write x
  | .text s => s
  | .list items => Text.join ',' items
  | .token s => s

/-- The characters of the value in a query string. -/
def encodeChars : ParamValue → List Char
  | .list items => Text.joined ',' (items.map fun s => Text.percentEncodeChars s.toList)
  | v => Text.percentEncodeChars v.render.toList

/-- The truth value that this is. -/
def asBool? : ParamValue → Option Bool
  | .bool b => some b
  | _ => none

/-- The text or word that this is. -/
def asText? : ParamValue → Option String
  | .text s => some s
  | .token s => some s
  | _ => none

/-! ## Making values -/

/-- The value of a text whose kind is not known: a truth value or an integer if it reads as one,
and a text otherwise. -/
def infer (raw : String) : ParamValue :=
  if raw = "true" then .bool true
  else if raw = "false" then .bool false
  else match Text.readInt64 raw with
    | .ok n => .integer (Int64.ofInt n)
    | .error _ => .text raw

/-- The value of a 64-bit word: an integer if it is one with sign, and its numeral otherwise. -/
def ofWord (n : UInt64) : ParamValue :=
  if n.toNat ≤ Text.maxInteger then .integer (Int64.ofNat n.toNat)
  else .text (Text.decimal n.toNat)

/-- The value of a time. -/
def ofTime (t : TimeValue) : ParamValue := .text t.text

/-- The value of a token. -/
def ofToken {d : TokenDomain} (t : Token d) : ParamValue := .token t.text

/-! ## The stored form -/

/-- The stored form: the kind and the value. -/
def toJson : ParamValue → Json
  | .bool b => .tagged "bool" (.bool b)
  | .integer n => .tagged "integer" (.integer n.toInt)
  | .number x => .tagged "number" (if x.isFinite then .number (.float x) else .null)
  | .text s => .tagged "text" (.text s)
  | .list items => .tagged "list" (Json.texts items)
  | .token s => .tagged "token" (.text s)

/-- Reads the stored form. -/
def ofJson? (v : Json) : Option ParamValue :=
  match v.tagged? with
  | some ("bool", v) => v.asBool?.map .bool
  | some ("integer", v) => v.asInt64?.map fun n => .integer (Int64.ofInt n)
  | some ("number", v) => v.asFloat?.map .number
  | some ("text", v) => v.asText?.map .text
  | some ("list", v) => v.asTexts?.map .list
  | some ("token", v) => v.asText?.map .token
  | _ => none

instance : Stored ParamValue where
  ofJson? := ofJson?
  interest := Json.taggedInterest

end ParamValue

end SearchRest
