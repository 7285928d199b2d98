/-
What can go wrong with a call.

A request error arises while a request is built or resolved, before anything is
sent. A transport error is what the exchange with the server reports; a reply
with an error status is no such failure. A call fails with one or the other,
unchanged.
-/

set_option autoImplicit false

namespace SearchRest

/-- **Why a request cannot be built or resolved.** -/
inductive RequestError where
  /-- The path that fits best needs a segment that is not bound. -/
  | missingRouteValue (endpoint segment : String)
  /-- A bound segment is in no path together with the other bound ones. -/
  | unexpectedRouteValue (endpoint segment : String)
  /-- A text is not in the domain of a parameter. -/
  | invalidParameterValue (value expected : String)
  /-- A body is attached where the endpoint takes none. -/
  | bodyNotAllowed (endpoint : String)
  | unknownEndpoint (name : String)
  deriving DecidableEq

/-- The text of the error. -/
def RequestError.message : RequestError → String
  | .missingRouteValue endpoint segment =>
    "Endpoint '" ++ endpoint ++ "' cannot be resolved: route value '" ++ segment ++ "' is not set"
  | .unexpectedRouteValue endpoint segment =>
    "Endpoint '" ++ endpoint ++ "' has no path template taking route value '" ++ segment ++ "'"
  | .invalidParameterValue value expected =>
    "Invalid parameter value '" ++ value ++ "': expected " ++ expected
  | .bodyNotAllowed endpoint => "Endpoint '" ++ endpoint ++ "' does not accept a request body"
  | .unknownEndpoint name => "Unknown endpoint '" ++ name ++ "'"

/-- **Why an exchange with the server did not complete.** -/
inductive TransportError where
  /-- No connection, or it was lost. -/
  | connection (message : String)
  | timeout (message : String)
  /-- The caller cancelled the call. -/
  | cancelled
  /-- The request has no valid form on the wire. -/
  | invalidRequest (message : String)
  /-- A body could not be written or read completely. -/
  | body (message : String)
  /-- The transport itself failed. -/
  | internal (message : String)
  deriving DecidableEq

/-- The text of the error. -/
def TransportError.message : TransportError → String
  | .connection m => "Connection failed: " ++ m
  | .timeout m => "Request timed out: " ++ m
  | .cancelled => "Request was cancelled"
  | .invalidRequest m => "Invalid request: " ++ m
  | .body m => "Request body could not be encoded: " ++ m
  | .internal m => "Transport failure: " ++ m

/-- **Why a call failed.** -/
inductive ClientError where
  /-- The request could not be resolved and was not sent. -/
  | request (error : RequestError)
  /-- The exchange failed. -/
  | transport (error : TransportError)
  deriving DecidableEq

/-- The text of the error, which is that of its cause. -/
def ClientError.message : ClientError → String
  | .request e => e.message
  | .transport e => e.message

end SearchRest
