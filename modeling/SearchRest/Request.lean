/-
Requests that are ready to be sent, and the replies to them.

A request is resolved from a description of its endpoint and what is bound to
it: its path is settled and known to be one that the endpoint has, and a body
is there only if the endpoint takes one. A reply is a reply whatever its
status.
-/
import SearchRest.Body
import SearchRest.Endpoint
import SearchRest.Param.Bag
import SearchRest.Route.Resolution

set_option autoImplicit false

namespace SearchRest

/-- **A request that is ready to be sent.** -/
structure Request where
  endpoint : EndpointSpec
  /-- The path, percent-encoded. -/
  path : String
  /-- The query parameters and headers. -/
  params : ParamBag
  /-- The body, if there is one. -/
  body : Option Body
  deriving DecidableEq

namespace Request

/-- **Resolves** what is bound to an endpoint. -/
def resolve (endpoint : EndpointSpec) (route : Bindings) (params : ParamBag)
    (body : Option Body) : Except RequestError Request :=
  match Route.resolve endpoint.name endpoint.templates route with
  | .error e => .error e
  | .ok path =>
    if body.isSome ∧ endpoint.supportsBody = false then .error (.bodyNotAllowed endpoint.name)
    else .ok ⟨endpoint, path, params, body⟩

/-- What is resolved is what was bound, at a path of the endpoint. -/
theorem of_resolve {endpoint : EndpointSpec} {route : Bindings} {params : ParamBag}
    {body : Option Body} {r : Request} (h : resolve endpoint route params body = .ok r) :
    Route.resolve endpoint.name endpoint.templates route = .ok r.path ∧
      r = ⟨endpoint, r.path, params, body⟩ := by
  unfold resolve at h
  split at h
  · cases h
  · rename_i path hpath
    split at h
    · cases h
    · obtain rfl := Except.ok.inj h
      exact ⟨hpath, rfl⟩

/-- The path, followed by `?` and the query string if there is a parameter. -/
def pathAndQuery (r : Request) : String :=
  if r.params.queryString = "" then r.path else r.path ++ "?" ++ r.params.queryString

/-- The headers to send: those that were set, and the media type of the body. -/
def headers (r : Request) : KeyMap String :=
  match r.body with
  | some b => r.params.headers.insert "content-type" b.contentType
  | none => r.params.headers

end Request

/-- **A reply of the server.** -/
structure Response where
  status : Nat
  headers : KeyMap String
  body : Text.Bytes
  deriving DecidableEq

namespace Response

/-- Whether the status tells of success. -/
def isSuccess (r : Response) : Bool := 200 ≤ r.status && r.status < 300

/-- The body as a text, with what is not UTF-8 replaced. -/
def text (r : Response) : String := Text.decodeLossy r.body

/-- The body as a JSON value. -/
def json? (r : Response) : Option CanonicalJson :=
  (Text.decode? r.body).bind CanonicalJson.read?

end Response

end SearchRest
