/-
Whether a failed call is worth another attempt.

Nothing here retries; a caller that does can ask. A connection that failed and
a time that ran out are worth another attempt, at once or by the caller's own
schedule. Nothing else is.
-/
import SearchRest.Duration
import SearchRest.Error
import SearchRest.Json.Stored

set_option autoImplicit false

namespace SearchRest

/-- **What to do after a failure.** -/
inductive RetryPolicy where
  /-- Try again, after at least the given time if there is one. -/
  | retryable (after : Option Duration)
  /-- Do not try again. -/
  | nonRetryable
  deriving DecidableEq

/-- The policy for an exchange that failed. -/
def TransportError.retryPolicy : TransportError → RetryPolicy
  | .connection _ => .retryable none
  | .timeout _ => .retryable none
  | .cancelled => .nonRetryable
  | .invalidRequest _ => .nonRetryable
  | .body _ => .nonRetryable
  | .internal _ => .nonRetryable

namespace RetryPolicy

/-- The stored form of a policy. -/
def toJson : RetryPolicy → Json
  | .nonRetryable => .text "NonRetryable"
  | .retryable after =>
    .object [("Retryable", .object [("after", (after.map Duration.toJson).getD .null)])]

/-- Reads the time of a policy, which may be missing or null. -/
def readAfter? : Json → Option (Option Duration)
  | .null => some none
  | v => (Duration.ofJson? v).map some

/-- Reads the fields of a policy that allows another attempt. In a list the time has to be
there. -/
def readRetryable? (v : Json) : Option RetryPolicy :=
  match v, v.fields? ["after"] with
  | .array [], _ => none
  | _, some [none] => some (.retryable none)
  | _, some [some after] => (readAfter? after).map .retryable
  | _, _ => none

/-- Reads the stored form of a policy. -/
def ofJson? : Json → Option RetryPolicy
  | .object [("Retryable", v)] => readRetryable? v
  | v => if v.caseName? = some "NonRetryable" then some .nonRetryable else none

instance : Stored RetryPolicy where
  ofJson? := ofJson?
  interest := .each (.ofNames ["after"])

end RetryPolicy

end SearchRest
