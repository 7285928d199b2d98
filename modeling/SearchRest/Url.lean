/-
Web addresses.

Reading an address brings it to its normal form: the scheme and the host are in
lower case, a port that goes without saying is dropped, the segments `.` and
`..` of the path are resolved, and what may not stand in an address is
escaped. Blanks and control characters around the address are dropped, and tabs
and line ends anywhere in it. Addresses of other schemes are read as far as it
takes to tell whether they are well formed.
-/
import SearchRest.Url.Host

set_option autoImplicit false

namespace SearchRest

/-- **An address in normal form.** -/
structure Url where
  /-- The scheme, without its colon. -/
  scheme : String
  /-- The name of the user and the password, escaped, as they stand before `@`. -/
  userinfo : String
  host : String
  /-- The port, if it has to be said. -/
  port : Option Nat
  path : String
  /-- The query string, without its question mark. -/
  query : Option String
  /-- The fragment, without its mark. -/
  fragment : Option String
  deriving DecidableEq

namespace Url

/-! ## Escapes -/

/-- Whether a character of ASCII is printable and none of the given ones. -/
def keeps (escaped : List Char) (c : Char) : Bool :=
  0x20 < c.toNat && c.toNat < 0x7f && !escaped.contains c

/-- The characters that are escaped in a fragment. -/
def fragmentEscapes : List Char := "\"<>`".toList

/-- The characters that are escaped in a query string. -/
def queryEscapes : List Char := "\"#<>'".toList

/-- The characters that are escaped in a path. -/
def pathEscapes : List Char := "\"#<>?`\x7b\x7d".toList

/-- The characters that are escaped before the host. -/
def userinfoEscapes : List Char := pathEscapes ++ "/:;=@[\\]^|".toList

/-- A text with the given characters and everything unprintable escaped. -/
def escape (escaped : List Char) (cs : List Char) : List Char :=
  Text.percentEncodeKeeping (keeps escaped) cs

/-! ## Parts -/

/-- Whether a character may stand in a scheme after its first letter. -/
def isSchemeChar (c : Char) : Bool :=
  c.isAlpha || Text.isDigit c || c = '+' || c = '-' || c = '.'

/-- Takes the scheme and its colon. -/
def takeScheme? (cs : List Char) : Option (List Char × List Char) :=
  match cs.takeWhile isSchemeChar, cs.dropWhile isSchemeChar with
  | c :: scheme, ':' :: rest =>
    if c.isAlpha then some ((c :: scheme).map Char.toLower, rest) else none
  | _, _ => none

/-- The port that goes without saying. -/
def defaultPort? (scheme : String) : Option Nat :=
  if scheme = "http" ∨ scheme = "ws" then some 80
  else if scheme = "https" ∨ scheme = "wss" then some 443
  else if scheme = "ftp" then some 21
  else none

/-- Whether the scheme is one of those of the web, whose addresses have a host. -/
def isWebScheme (scheme : String) : Bool := (defaultPort? scheme).isSome

/-- Whether a character ends the host and what stands before it. -/
def endsAuthority (web : Bool) (c : Char) : Bool :=
  c = '/' || c = '?' || c = '#' || (web && c = '\\')

/-- The text before and after the last `@`. -/
def cutLastAt (cs : List Char) : Option (List Char × List Char) :=
  (Text.cutFirst '@' cs.reverse).map fun (after, before) => (before.reverse, after.reverse)

/-- The escaped form of what stands before `@`, with the mark; nothing if it is empty. -/
def userinfoText (cs : List Char) : List Char :=
  let text := match Text.cutFirst ':' cs with
    | some (name, []) => escape userinfoEscapes name
    | some (name, password) =>
      escape userinfoEscapes name ++ ':' :: escape userinfoEscapes password
    | none => escape userinfoEscapes cs
  if text.isEmpty then [] else text ++ ['@']

/-- The text before the first colon outside brackets, and the rest. -/
def cutPort : Bool → List Char → List Char × List Char
  | _, [] => ([], [])
  | inBrackets, c :: cs =>
    if c = ':' ∧ !inBrackets then ([], c :: cs)
    else
      let inBrackets := if c = '[' then true else if c = ']' then false else inBrackets
      let (host, rest) := cutPort inBrackets cs
      (c :: host, rest)

/-- Reads a port: digits of a number below 65536, or none at all. -/
def port? : Nat → List Char → Option Nat
  | n, [] => some n
  | n, c :: cs =>
    match Text.digitValue? c with
    | some d => if n * 10 + d < 65536 then port? (n * 10 + d) cs else none
    | none => none

/-- **Reads what stands between the two slashes and the path**: the user, the host and the port. -/
def authority (web : Bool) (scheme : String) (atEnd : Bool) (cs : List Char) :
    Except UrlError (String × String × Option Nat) :=
  let (userinfo, rest) := match cutLastAt cs with
    | some (before, after) => (some before, after)
    | none => (none, cs)
  if userinfo = some [] ∧ rest.isEmpty ∧ !atEnd then .error .emptyHost
  else
    let (hostText, portText) := cutPort false rest
    let user := userinfoText (userinfo.getD [])
    if hostText.isEmpty ∧ (web ∨ !portText.isEmpty ∨ !user.isEmpty) then .error .emptyHost
    else match if web then Host.parse hostText else Host.parseOpaque hostText with
      | .error e => .error e
      | .ok host =>
        match portText.drop 1 with
        | [] => .ok (String.ofList user, host, none)
        | digits =>
          match port? 0 digits with
          | none => .error .invalidPort
          | some n =>
            .ok (String.ofList user, host, if some n = defaultPort? scheme then none else some n)

/-! ## Paths -/

/-- Whether a segment stands for the place itself. -/
def isSingleDot (s : List Char) : Bool :=
  let s := s.map Char.toLower
  s = ".".toList || s = "%2e".toList

/-- Whether a segment stands for the place above. -/
def isDoubleDot (s : List Char) : Bool :=
  let s := s.map Char.toLower
  s = "..".toList || s = ".%2e".toList || s = "%2e.".toList || s = "%2e%2e".toList

/-- Goes from a place, whose segments are given the last one first, along the segments of a path.
A path that ends in a dot segment ends in a slash. -/
def follow (place : List (List Char)) : List (List Char) → List (List Char)
  | [] => place
  | s :: rest =>
    if isDoubleDot s then follow (if rest.isEmpty then [] :: place.tail else place.tail) rest
    else if isSingleDot s then follow (if rest.isEmpty then [] :: place else place) rest
    else follow (s :: place) rest

/-- **The normal form of a path**, given without its first slash. -/
def normalPath (cs : List Char) : List Char :=
  let segments := Text.pieces '/' (cs.map fun c => if c = '\\' then '/' else c)
  (follow [] segments).reverse.flatMap fun s => '/' :: escape pathEscapes s

/-! ## Addresses -/

/-- Takes the query string and the fragment off the end of an address. -/
def cutTail (cs : List Char) : List Char × Option (List Char) × Option (List Char) :=
  let (front, fragment) := match Text.cutFirst '#' cs with
    | some (front, fragment) => (front, some fragment)
    | none => (cs, none)
  match Text.cutFirst '?' front with
  | some (path, query) => (path, some query, fragment)
  | none => (front, none, fragment)

/-- Reads an address of the web after its scheme. Any number of slashes of either kind may stand
before the host. -/
def parseWeb (scheme : String) (cs : List Char) : Except UrlError Url :=
  let (front, query, fragment) := cutTail (cs.dropWhile fun c => c = '/' || c = '\\')
  let name := front.takeWhile fun c => !endsAuthority true c
  let path := front.dropWhile fun c => !endsAuthority true c
  match authority true scheme (path.isEmpty && query.isNone && fragment.isNone) name with
  | .error e => .error e
  | .ok (userinfo, host, port) =>
    .ok ⟨scheme, userinfo, host, port, String.ofList (normalPath (path.drop 1)),
      query.map fun q => String.ofList (escape queryEscapes q),
      fragment.map fun f => String.ofList (escape fragmentEscapes f)⟩

/-- Whether a text is a letter and a colon or bar, as file systems have them. -/
def isDriveLetter (cs : List Char) : Bool :=
  match cs with
  | [c, d] => c.isAlpha && (d = ':' || d = '|')
  | _ => false

/-- Checks the host of the address of a file. -/
def checkFile (cs : List Char) : Except UrlError Unit :=
  match cs.map fun c => if c = '\\' then '/' else c with
  | '/' :: '/' :: rest =>
    let host := rest.takeWhile fun c => !endsAuthority true c
    if host.isEmpty ∨ isDriveLetter host then .ok ()
    else (Host.parse host).map fun _ => ()
  | _ => .ok ()

/-- Checks an address of another scheme. -/
def checkOther (scheme : String) (cs : List Char) : Except UrlError Unit :=
  match cs with
  | '/' :: '/' :: rest =>
    let name := rest.takeWhile fun c => !endsAuthority false c
    let atEnd := (rest.dropWhile fun c => !endsAuthority false c).isEmpty
    (authority false scheme atEnd name).map fun _ => ()
  | _ => .ok ()

/-- The text without blanks and control characters around it, and without tabs and line ends. -/
def cleaned (cs : List Char) : List Char :=
  let outer (c : Char) : Bool := c.toNat ≤ 0x20
  (Text.dropEndWhile outer (cs.dropWhile outer)).filter fun c =>
    !(c = '\t' || c = '\n' || c = '\r')

/-- **Reads an address.** One of another scheme than those of the web has that scheme and is
otherwise empty. -/
def parse (s : String) : Except UrlError Url :=
  match takeScheme? (cleaned s.toList) with
  | none => .error .noScheme
  | some (schemeChars, rest) =>
    let scheme := String.ofList schemeChars
    if isWebScheme scheme then parseWeb scheme rest
    else
      let checked := if scheme = "file" then checkFile rest else checkOther scheme rest
      checked.map fun _ => ⟨scheme, "", "", none, "", none, none⟩

/-- The host and the port, if it has to be said. -/
def hostAndPort (u : Url) : String :=
  match u.port with
  | some n => u.host ++ ":" ++ Text.decimal n
  | none => u.host

/-- **The text of an address.** -/
def write (u : Url) : String :=
  u.scheme ++ "://" ++ u.userinfo ++ u.hostAndPort ++ u.path
    ++ (u.query.map ("?" ++ ·)).getD "" ++ (u.fragment.map ("#" ++ ·)).getD ""

end Url

end SearchRest
