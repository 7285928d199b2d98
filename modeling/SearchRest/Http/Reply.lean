/-
Replies on the wire.

A reply has a status, lines of headers and the bytes that arrive before the
connection closes. Where its body ends is said by the method, the status and
the headers: there is none, it has a length, it comes in chunks, or it goes on
until the connection closes. A reply whose lines are malformed, or that says
two things about its length, is none. One that says more than arrives breaks
off.

Of the limits that a client sets to replies only the number of header lines is
kept. Left out are the size of the head as a whole and the reason behind the
status; how long the extensions of chunks and the trailers behind the last chunk
may be, and their form, since what follows the size on its line, the line end
behind a chunk and everything behind the last one are passed over; and every
deadline.
-/
import SearchRest.Http.Message
import SearchRest.Text.Blank

set_option autoImplicit false

namespace SearchRest.Http

/-- **A reply on the wire.** -/
structure Reply where
  status : Nat
  headers : List (String × Text.Bytes)
  /-- What arrives behind them. -/
  body : Text.Bytes
  deriving DecidableEq

/-- **How the end of a body is found.** -/
inductive Framing where
  /-- There is no body. -/
  | absent
  /-- The body has a length. -/
  | length (n : Nat)
  /-- The body comes in chunks. -/
  | chunked
  /-- The body ends where the connection does. -/
  | untilClosed
  deriving DecidableEq

/-! ## Lengths and chunks -/

/-- The number of a text of digits and nothing else. -/
def length? (cs : List Char) : Option Nat :=
  if cs.isEmpty || !cs.all Text.isDigit then none
  else match Text.readNatural Text.maxWord cs with
    | .ok n => some n
    | .error _ => none

/-- The one length that all values of a header agree on. -/
def agreedLength? (values : List Text.Bytes) : Option Nat :=
  match values.mapM fun v => (valueText? v).bind fun s =>
      (Text.split ',' s).mapM fun p => length? (Text.trim p).toList with
  | some lengths =>
    match lengths.flatten with
    | n :: rest => if rest.all (· = n) then some n else none
    | [] => none
  | none => none

/-- Whether the last encoding that a header names is that of chunks. -/
def endsInChunked (values : List Text.Bytes) : Bool :=
  match values.getLast?.bind valueText? with
  | some s => Text.sameIgnoringCase (Text.trim ((Text.split ',' s).getLast?.getD "")) "chunked"
  | none => false

/-- Takes the line with the size of a chunk. -/
def takeSize? (bytes : Text.Bytes) : Option (Nat × Text.Bytes) :=
  let value? (b : UInt8) : Option Nat := Text.hexValue? (Char.ofNat b.toNat)
  let digits := bytes.takeWhile fun b => (value? b).isSome
  match digits, bytes.dropWhile (· ≠ 0x0a) with
  | _ :: _, _ :: rest => some (digits.foldl (fun n b => n * 16 + (value? b).getD 0) 0, rest)
  | _, _ => none

/-- Reads chunks until the empty one. `fuel` bounds their number. -/
def readChunks? : Nat → Text.Bytes → Option Text.Bytes
  | 0, _ => none
  | fuel + 1, bytes =>
    match takeSize? bytes with
    | some (0, _) => some []
    | some (n, rest) =>
      if n ≤ rest.length then (readChunks? fuel (rest.drop (n + 2))).map (rest.take n ++ ·)
      else none
    | none => none

namespace Reply

/-- The reply of a server that closes the connection behind it. It says how long the body is, and
`missing` bytes more. -/
def closing (status : Nat) (headers : List (String × Text.Bytes)) (body : Text.Bytes)
    (missing : Nat) : Reply :=
  ⟨status, headers ++ [("content-length", Text.encode (Text.decimal (body.length + missing))),
    ("connection", Text.encode "close")], body⟩

/-- The values of a header, without the blanks around them. -/
def values (r : Reply) (name : String) : List Text.Bytes :=
  (r.headers.filter fun h => Text.asciiLower h.1 = name).map fun h => trimmedBytes h.2

/-- **How the end of the body is found.** -/
def framing? (method : Method) (r : Reply) : Option Framing :=
  if r.status = 101 ∨ r.status = 204 ∨ r.status = 304 ∨ method = .head then some .absent
  else match r.values "transfer-encoding", r.values "content-length" with
    | [], [] => some .untilClosed
    | [], lengths => (agreedLength? lengths).map .length
    | encodings, _ => some (if endsInChunked encodings then .chunked else .untilClosed)

/-- Whether the lines of a reply are well formed. A status below 200 only announces another reply,
unless it is the one that ends the protocol. -/
def isWellFormed (method : Method) (r : Reply) : Bool :=
  (r.status = 101 || (200 ≤ r.status && r.status ≤ 999)) && r.headers.length ≤ 100
    && r.headers.all (fun h => isHeaderName h.1 && isHeaderBytes h.2)
    && (r.framing? method).isSome

/-- The body, if all of it arrived. -/
def content? (method : Method) (r : Reply) : Option Text.Bytes :=
  match r.framing? method with
  | some .absent => some []
  | some (.length n) => if n ≤ r.body.length then some (r.body.take n) else none
  | some .chunked => readChunks? r.body.length r.body
  | some .untilClosed => some r.body
  | none => none

/-- The headers that have a text, by their names in lower case. Of several with one name the last
one stays. -/
def headerMap (r : Reply) : KeyMap String :=
  KeyMap.ofList (r.headers.filterMap fun h =>
    (valueText? (trimmedBytes h.2)).map fun s => (Text.asciiLower h.1, s))

/-- **The reply as the caller sees it.** -/
def response (method : Method) (r : Reply) : Except TransportError Response :=
  match r.content? method with
  | some body => .ok ⟨r.status, r.headerMap, body⟩
  | none => .error (.body "error decoding response body")

end Reply

end SearchRest.Http
