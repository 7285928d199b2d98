/-
Replies that send the client elsewhere.

A reply of five statuses that names a location is followed there. A write that
was answered by one of three of them becomes a read without a body; otherwise
the message is sent again as it was. The next message says where it comes from,
and secrets are not carried to another server. A location that does not have
the form of an address is not followed.

Of the grammar of locations only the characters, the escapes and the one mark of
a fragment are checked, and then the form of the address that it leads to. Left
out is which characters may stand in which part: brackets outside of a host, a
colon in the first segment of a relative path, the inside of a host in brackets,
a port that is no number. The deadline of a call, which all its messages share,
is left out too.
-/
import SearchRest.Http.Reply

set_option autoImplicit false

namespace SearchRest.Http

/-! ## Locations -/

/-- Whether every percent sign is followed by two hexadecimal digits. -/
def escapesAreWhole : List Char → Bool
  | '%' :: a :: b :: rest =>
    (Text.hexValue? a).isSome && (Text.hexValue? b).isSome && escapesAreWhole rest
  | '%' :: _ => false
  | _ :: rest => escapesAreWhole rest
  | [] => true

/-- Whether a text may be a location. -/
def isReference (cs : List Char) : Bool :=
  cs.all (fun c => c.isAlphanum || "-._~:/?#[]@!$&'()*+,;=%".toList.contains c)
    && cs.count '#' ≤ 1 && escapesAreWhole cs

/-- The text of the address that a location leads to from another address: the location stands for
the part of the address that it begins with, and for all behind it. -/
def resolvedText (base : Url) (cs : List Char) : String :=
  let origin := base.scheme ++ "://" ++ base.hostAndPort
  let text := String.ofList cs
  let folder := String.ofList (base.path.toList.reverse.dropWhile (· ≠ '/')).reverse
  match cs with
  | [] => origin ++ base.path ++ (base.query.map ("?" ++ ·)).getD ""
  | '#' :: _ => origin ++ base.path ++ (base.query.map ("?" ++ ·)).getD "" ++ text
  | '?' :: _ => origin ++ base.path ++ text
  | '/' :: '/' :: _ => base.scheme ++ ":" ++ text
  | '/' :: _ => origin ++ text
  | cs => if (Url.takeScheme? cs).isSome then text else origin ++ folder ++ text

/-- The text of the address that a reply sends the client to. -/
def Reply.target? (r : Reply) (base : Url) : Option String :=
  match r.values "location" with
  | [] => none
  | value :: _ =>
    (valueText? value).bind fun s =>
      let text := resolvedText base s.toList
      if isReference s.toList && (AddressSyntax.check text).isOk then some text else none

/-! ## Messages -/

/-- The headers that describe a body. -/
def bodyHeaders : List String :=
  ["content-type", "content-length", "content-encoding", "transfer-encoding"]

/-- The headers that another server must not see. -/
def secretHeaders : List String :=
  ["authorization", "cookie", "cookie2", "proxy-authorization", "www-authenticate"]

/-- The message to send after a reply of the given status; nothing if the status sends nobody
elsewhere. -/
def Message.again? (m : Message) (status : Nat) : Option Message :=
  if status = 301 ∨ status = 302 then
    if m.method = .post then some { m.without bodyHeaders with method := .get, body := [] }
    else some m
  else if status = 303 then
    some { m.without bodyHeaders with
      method := if m.method = .head then .head else .get, body := [] }
  else if status = 307 ∨ status = 308 then some m
  else none

/-- Whether two addresses are of one server. -/
def sameServer (a b : Url) : Bool :=
  a.host = b.host && a.port.or (Url.defaultPort? a.scheme) = b.port.or (Url.defaultPort? b.scheme)

/-- The message to another address. It names the address before, unless that would carry it from a
safe connection to an unsafe one. -/
def Message.movedTo (m : Message) (url : Url) : Message :=
  let kept := if sameServer m.url url then m else m.without secretHeaders
  let named := if m.url.scheme = "https" ∧ url.scheme = "http" then kept
    else { kept.without ["referer"] with
      headers := (kept.without ["referer"]).headers
        ++ [("referer", { m.url with userinfo := "", fragment := none }.write)] }
  { named with url := { url with userinfo := "", fragment := none } }

/-- **The message that follows a reply**, if the reply sends the client elsewhere. `first` is the
address of the message that began it all. -/
def Message.next? (first : Url) (m : Message) (r : Reply) :
    Option (Except TransportError Message) :=
  match m.again? r.status, r.target? m.url with
  | some again, some text =>
    match Url.parse text with
    | .error _ => some (.error (unsendableTo first))
    | .ok url =>
      if url.scheme = "http" ∨ url.scheme = "https" then some (.ok (again.movedTo url))
      else some (.error (unsendableTo url))
  | _, _ => none

end SearchRest.Http
