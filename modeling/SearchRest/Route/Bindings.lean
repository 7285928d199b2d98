/-
The segments bound on one request.

Each segment name has at most one value, the last one bound. A segment counts
as bound when its value is not empty.
-/
import SearchRest.Route.Value

set_option autoImplicit false

namespace SearchRest

/-- **Values by segment name.** -/
abbrev Bindings := KeyMap RouteValue

namespace Bindings

/-- Whether the segment has a value that is not empty. -/
def isBound (b : Bindings) (name : String) : Bool :=
  match b.get? name with
  | some v => !v.isEmpty
  | none => false

/-- The names of the segments with values that are not empty, in order. -/
def boundNames (b : Bindings) : List String :=
  (b.entries.filter fun e => !e.2.isEmpty).map Prod.fst

/-- The stored form. -/
def toJson (b : Bindings) : Json := Json.ofMap RouteValue.toJson b

/-- Reads the stored form. -/
def ofJson? (v : Json) : Option Bindings := v.asMap? RouteValue.ofJson?

instance : Stored Bindings where
  ofJson? := ofJson?

end Bindings

end SearchRest
