/-
Requests under construction.

A draft holds what was bound so far: path segments, query parameters and
headers, and a body. It is changed by edits. An edit writes one slot and leaves
all others alone, up to the tie between `format` and `accept`. Nothing is
checked until the draft is resolved against its endpoint.
-/
import SearchRest.Request

set_option autoImplicit false

namespace SearchRest

/-- **A request under construction.** -/
structure Draft where
  /-- The bound segments. -/
  route : Bindings
  params : ParamBag
  body : Option Body
  deriving DecidableEq

/-- **A change to a draft.** -/
inductive Edit where
  | bind (name : String) (v : RouteValue)
  /-- Sets a query parameter, or removes it. -/
  | query (key : String) (v : Option ParamValue)
  | header (name value : String)
  | attach (body : Body)
  deriving DecidableEq

/-- **What an edit writes.** -/
inductive Slot where
  | segment (name : String)
  | query (key : String)
  | header (name : String)
  | body
  deriving DecidableEq

namespace Edit

/-- The slot that the edit writes. -/
def slot : Edit → Slot
  | .bind name _ => .segment name
  | .query key _ => .query key
  | .header name _ => .header (Text.asciiLower name)
  | .attach _ => .body

end Edit

namespace Draft

/-- The draft with nothing bound. -/
def empty : Draft := ⟨∅, ∅, none⟩

instance : Inhabited Draft := ⟨empty⟩

/-- The draft after an edit. -/
def edit (d : Draft) : Edit → Draft
  | .bind name v => { d with route := d.route.insert name v }
  | .query key v => { d with params := d.params.setOption key v }
  | .header name value => { d with params := d.params.setHeader name value }
  | .attach body => { d with body := some body }

/-- The draft after several edits, the first one first. -/
def editAll (d : Draft) (edits : List Edit) : Draft := edits.foldl edit d

/-- **The request that the draft stands for** at an endpoint. -/
def resolve (d : Draft) (endpoint : EndpointSpec) : Except RequestError Request :=
  Request.resolve endpoint d.route d.params d.body

/-! ## Drafts from texts -/

/-- The draft with a parameter set to a text whose kind is not known. -/
def setRaw (d : Draft) (key raw : String) : Except RequestError Draft :=
  (d.params.setRaw key raw).map fun params => { d with params := params }

/-! ## The stored form -/

/-- The stored form. A body is mentioned only if there is one. -/
def toJson (d : Draft) : Json :=
  .object ([("route", Bindings.toJson d.route), ("parameters", d.params.toJson)]
    ++ (d.body.map fun b => ("body", b.toJson)).toList)

/-- Reads a body that may be missing or null. -/
def readBody? : Option Json → Option (Option Body)
  | none => some none
  | some .null => some none
  | some v => (Body.ofJson? v).map some

/-- Reads the stored form, of which every part may be missing. Nothing is checked against an
endpoint. -/
def ofJson? (v : Json) : Option Draft :=
  match v.fields? ["route", "parameters", "body"] with
  | some [route, params, body] => do
    let route ← ParamBag.mapOrEmpty? RouteValue.ofJson? route
    let params ← match params with
      | some p => ParamBag.ofJson? p
      | none => some ParamBag.empty
    let body ← readBody? body
    some ⟨route, params, body⟩
  | _ => none

instance : Stored Draft where
  ofJson? := ofJson?
  interest := .record [("route", .all), ("parameters", Stored.interest ParamBag),
    ("body", Stored.interest Body)]

end Draft

end SearchRest
