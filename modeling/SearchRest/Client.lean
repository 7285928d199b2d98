/-
Calls of operations.

A client hands resolved requests to a transport, which may be anything that
answers requests in some monad. Every operation can be called in four ways:
with a draft that is started from arguments and passed through a selector, or
with a draft that the caller made, and either way waiting for the reply or
concurrently, with a token that may cancel the call. A draft that does not
resolve fails the call before the transport is asked.
-/
import SearchRest.Operation

set_option autoImplicit false

namespace SearchRest

/-- **What carries requests to the server**, waiting for the reply or concurrently. A concurrent
exchange is told whether its token is already cancelled. -/
structure Transport (m : Type → Type) where
  /-- Sends a request and waits for the reply. -/
  execute : Request → m (Except TransportError Response)
  /-- Sends a request concurrently. -/
  executeAsync : Request → Bool → m (Except TransportError Response)

/-- **A client**: it holds nothing but its transport. -/
structure Client (m : Type → Type) where
  transport : Transport m

namespace Client

variable {m : Type → Type} [Monad m]

/-- The client as it appears in reports. -/
def report (_ : Client m) : String := "Client \x7b .. \x7d"

/-- Resolves a draft and hands the request to `exchange`. -/
def dispatch (o : Operation) (d : Draft)
    (exchange : Request → m (Except TransportError Response)) :
    m (Except ClientError Response) :=
  match d.resolve o.spec with
  | .error e => pure (.error (.request e))
  | .ok request => do
    match ← exchange request with
    | .ok response => pure (.ok response)
    | .error e => pure (.error (.transport e))

/-- Calls an operation with a draft and waits for the reply. -/
def callRequest (c : Client m) (o : Operation) (d : Draft) : m (Except ClientError Response) :=
  dispatch o d c.transport.execute

/-- Calls an operation with a draft concurrently. Without a token the call cannot be cancelled. -/
def callRequestAsync (c : Client m) (o : Operation) (d : Draft) (token : Option Bool) :
    m (Except ClientError Response) :=
  dispatch o d fun request => c.transport.executeAsync request (token.getD false)

/-- **Calls an operation** with the draft that `select` makes of the one started from `args`, and
waits for the reply. -/
def call (c : Client m) (o : Operation) (args : Arguments o.start) (select : Draft → Draft) :
    m (Except ClientError Response) :=
  c.callRequest o (select (o.seed args))

/-- Calls an operation with the draft that `select` makes of the one started from `args`,
concurrently. -/
def callAsync (c : Client m) (o : Operation) (args : Arguments o.start) (select : Draft → Draft)
    (token : Option Bool) : m (Except ClientError Response) :=
  c.callRequestAsync o (select (o.seed args)) token

end Client

end SearchRest
