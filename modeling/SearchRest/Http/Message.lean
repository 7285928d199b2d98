/-
Messages to the server.

A message is a request in the form in which it is sent: its address is settled,
and its headers are all there. The client names itself and says what replies it
takes unless other headers do, and a user in the address of the server becomes
a header.
-/
import SearchRest.Http.Settings
import SearchRest.Text.Base64
import SearchRest.Text.Percent
import SearchRest.Url.Syntax

set_option autoImplicit false

namespace SearchRest.Http

/-- **A message to the server.** -/
structure Message where
  method : Method
  /-- The address. -/
  url : Url
  /-- The headers, with names in lower case. -/
  headers : List (String × String)
  body : Text.Bytes
  deriving DecidableEq

namespace Message

/-- What the first line of the message asks for. -/
def target (m : Message) : String := m.url.path ++ (m.url.query.map ("?" ++ ·)).getD ""

/-- The first line of the message. -/
def line (m : Message) : String := m.method.name ++ " " ++ m.target ++ " HTTP/1.1"

/-- The value of the first header of a name. -/
def header? (m : Message) (name : String) : Option String :=
  (m.headers.find? fun h => h.1 = name).map Prod.snd

/-- The headers in the order of their names, and of their values where there are several. -/
def sortedHeaders (m : Message) : List (String × String) :=
  m.headers.mergeSort fun a b => a.1 < b.1 || (a.1 = b.1 && a.2 ≤ b.2)

/-- The message without the headers of some names. -/
def without (names : List String) (m : Message) : Message :=
  { m with headers := m.headers.filter fun h => !names.contains h.1 }

/-- The headers, and one more if there is none of its name. -/
def withDefault (name value : String) (headers : List (String × String)) :
    List (String × String) :=
  if headers.any (·.1 = name) then headers else headers ++ [(name, value)]

end Message

/-- The user and the password in an address, with a colon between them. A password that is no text
counts as empty. -/
def credentials? (url : Url) : Option (List Char) :=
  let (name, password) := match Text.cutFirst ':' (url.userinfo.toList.dropLast) with
    | some (name, password) => (name, password)
    | none => (url.userinfo.toList.dropLast, [])
  match Text.percentDecodeChars name, (Text.percentDecodeChars password).getD [] with
  | some [], [] => none
  | some name, password => some (name ++ ':' :: password)
  | none, _ => none

/-- The address without a user, and the header that a user becomes. -/
def takeUser (url : Url) : Url × List (String × String) :=
  match credentials? url with
  | some cs =>
    ({ url with userinfo := "" },
      [("authorization", "Basic " ++ String.ofList (Text.base64 (Text.encodeChars cs)))])
  | none => (url, [])

/-- The error of a message that has no form on the wire. -/
def unsendable : TransportError := .invalidRequest "builder error"

/-- The error of a message whose address has no form on the wire. -/
def unsendableTo (url : Url) : TransportError :=
  .invalidRequest ("builder error for url (" ++ url.write ++ ")")

/-- **The message of a request** to an address. Headers must be well formed, and the address must
not be too long. -/
def Channel.messageTo (c : Channel) (r : Request) (url : Url) : Except TransportError Message :=
  let (url, user) := takeUser url
  let headers := (c.headersFor r).entries
  if !headers.all fun h => isHeaderName h.1 && isHeaderText h.2 then .error unsendable
  else match AddressSyntax.check url.write with
    | .error _ => .error (unsendableTo url)
    | .ok () =>
      .ok ⟨r.endpoint.method, url,
        Message.withDefault "accept" "*/*"
          (Message.withDefault "user-agent" c.settings.userAgent (user ++ headers)),
        (r.body.map Body.bytes).getD []⟩

end SearchRest.Http
