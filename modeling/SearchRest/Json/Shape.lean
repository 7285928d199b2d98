/-
Taking typed values out of JSON.

Stored values are read by a few shapes. A record is an object whose unknown
entries are passed over and whose known ones may not be repeated, or a list of
its fields in order, of which the last ones may be missing. A map is an object
of any keys, the last entry of a key kept. A tagged value is a record of the
name of a case and its content. The name of a case is a string, or an object
that maps it to `null`.
-/
import SearchRest.Json.Basic
import SearchRest.Text.Numeral

set_option autoImplicit false

namespace SearchRest.Json

/-! ## Scalars and lists -/

/-- The truth value that this is. -/
def asBool? : Json → Option Bool
  | .bool b => some b
  | _ => none

/-- The string that this is. -/
def asText? : Json → Option String
  | .text s => some s
  | _ => none

/-- The integer that this is, if it has 64 bits with sign. -/
def asInt64? : Json → Option Int
  | .number (.integer n) =>
    if -((Text.maxInteger : Int) + 1) ≤ n ∧ n ≤ Text.maxInteger then some n else none
  | _ => none

/-- The natural number that this is, if it is at most `most`. -/
def asNat? (most : Nat) : Json → Option Nat
  | .number (.integer (.ofNat n)) => if n ≤ most then some n else none
  | _ => none

/-- The floating-point number nearest to the number that this is. -/
def asFloat? : Json → Option Binary64
  | .number (.integer n) => some (Binary64.ofInt n)
  | .number (.float x) => some x
  | _ => none

/-- The items that this lists. -/
def asItems? : Json → Option (List Json)
  | .array items => some items
  | _ => none

/-- The strings that this lists. -/
def asTexts? (v : Json) : Option (List String) := v.asItems?.bind fun items => items.mapM asText?

/-- The list of the strings. -/
def texts (l : List String) : Json := .array (l.map .text)

/-! ## Maps -/

/-- The map that this is, with every value read by `read`. Values that a later entry replaces have
to be readable too. -/
def asMap? {α : Type} (read : Json → Option α) : Json → Option (KeyMap α)
  | .object entries =>
    (entries.mapM fun e => (read e.2).map fun a => (e.1, a)).map KeyMap.ofList
  | _ => none

/-- The object with the entries of a map. -/
def ofMap {α : Type} (write : α → Json) (m : KeyMap α) : Json :=
  .object (m.entries.map fun e => (e.1, write e.2))

/-! ## Records -/

/-- The values of the entries with the key `k`. -/
def valuesAt (k : String) (entries : List (String × Json)) : List Json :=
  (entries.filter fun e => e.1 = k).map Prod.snd

/-- The only entry with the key `k`, which may be missing but not repeated. -/
def field? (entries : List (String × Json)) (k : String) : Option (Option Json) :=
  match valuesAt k entries with
  | [] => some none
  | [v] => some (some v)
  | _ => none

/-- **The fields of a record**, in the order of `names`, with nothing for a missing one. -/
def fields? (names : List String) : Json → Option (List (Option Json))
  | .object entries => names.mapM (field? entries)
  | .array items =>
    if items.length ≤ names.length then
      some (items.map some ++ List.replicate (names.length - items.length) none)
    else none
  | _ => none

/-! ## Cases -/

/-- The name of a case: a string, or an object that maps it to nothing. -/
def caseName? : Json → Option String
  | .text s => some s
  | .object [(s, .null)] => some s
  | _ => none

/-- The name of the case and the content of a tagged value. -/
def tagged? (v : Json) : Option (String × Json) :=
  match v.fields? ["kind", "value"] with
  | some [some kind, some content] => (caseName? kind).map fun name => (name, content)
  | _ => none

/-- The tagged value of a case. -/
def tagged (kind : String) (content : Json) : Json :=
  .object [("kind", .text kind), ("value", content)]

end SearchRest.Json
