/-
Exchanges with a server.

A server is whatever takes messages and does something with each: it cannot be
reached, it hangs up, it stays silent until the caller gives up, or it replies.
An exchange sends the message of a request and follows replies that send the
client elsewhere, ten times at most. Any other reply is the answer, whatever
its status. A concurrent exchange that is already cancelled sends nothing.
-/
import SearchRest.Http.Redirect

set_option autoImplicit false

namespace SearchRest.Http

/-- **What a server does with a message.** -/
inductive Reaction where
  /-- There is no connection to it. -/
  | unreachable
  /-- It closes the connection without a reply. -/
  | hangsUp
  /-- It stays silent, and the caller cancels the call. -/
  | silent
  | replies (reply : Reply)
  deriving DecidableEq

/-- **A server.** -/
abbrev Server := Message → Reaction

/-- **The course of an exchange.** -/
structure Exchange where
  /-- The messages that arrived at the server, in their order. -/
  sent : List Message
  /-- The outcome. -/
  result : Except TransportError Response

/-- The error of a message without a reply. -/
def notSent (url : Url) : TransportError :=
  .connection ("error sending request for url (" ++ url.write ++ ")")

/-- The error of a message after too many replies that sent the client elsewhere. -/
def sentAround (url : Url) : TransportError :=
  .connection ("error following redirect for url (" ++ url.write ++ ")")

/-- How often a reply may send the client elsewhere. -/
def maxRedirects : Nat := 10

/-- Sends a message that began at the address `first`, and follows as many replies that send the
client elsewhere. -/
def exchangeFrom (server : Server) (first : Url) : Nat → Message → Exchange
  | hops, m =>
    match server m with
    | .unreachable => ⟨[], .error (notSent first)⟩
    | .hangsUp => ⟨[m], .error (notSent first)⟩
    | .silent => ⟨[m], .error .cancelled⟩
    | .replies reply =>
      if !reply.isWellFormed m.method then ⟨[m], .error (notSent first)⟩
      else match m.next? first reply, hops with
        | none, _ => ⟨[m], reply.response m.method⟩
        | some (.error e), _ => ⟨[m], .error e⟩
        | some (.ok _), 0 => ⟨[m], .error (sentAround m.url)⟩
        | some (.ok next), hops + 1 =>
          let rest := exchangeFrom server first hops next
          ⟨m :: rest.sent, rest.result⟩

/-- Sends a message. -/
def exchange (server : Server) (m : Message) : Exchange :=
  exchangeFrom server m.url maxRedirects m

namespace Channel

/-- **Sends a request and waits for the reply.** -/
def execute (c : Channel) (server : Server) (r : Request) : Exchange :=
  match c.urlFor r with
  | .error e => ⟨[], .error e⟩
  | .ok url =>
    match c.messageTo r url with
    | .error e => ⟨[], .error e⟩
    | .ok m => exchange server m

/-- **Sends a request concurrently.** Once its address is settled, a call that is already cancelled
ends before anything else. -/
def executeAsync (c : Channel) (server : Server) (r : Request) (cancelled : Bool) : Exchange :=
  match c.urlFor r with
  | .error e => ⟨[], .error e⟩
  | .ok url =>
    if cancelled then ⟨[], .error .cancelled⟩
    else match c.messageTo r url with
      | .error e => ⟨[], .error e⟩
      | .ok m => exchange server m

end Channel

end SearchRest.Http
