/-
The general form of addresses.

Where an address is only looked at and not brought to a normal form, what
counts is that it has the general form: an optional scheme and two slashes, a
host with what may stand around it, and a path with a query string. The host
may stand alone, and so may a path that begins with a slash; a path behind a
host needs the scheme.
-/
import SearchRest.Text.Numeral
import SearchRest.Text.Pieces

set_option autoImplicit false

namespace SearchRest

/-- **Why a text does not have the form of an address.** -/
inductive AddressFault where
  /-- There is no text. -/
  | empty
  /-- The text has more than 65534 bytes. -/
  | tooLong
  /-- The scheme has more than 64 characters. -/
  | schemeTooLong
  /-- A character may not stand where it stands. -/
  | invalidChar
  /-- What stands before the path is no host. -/
  | invalidHost
  /-- A host is missing, or a scheme is missing before a host and a path. -/
  | invalidFormat
  deriving DecidableEq

/-- The text of the fault. -/
def AddressFault.message : AddressFault → String
  | .empty => "empty string"
  | .tooLong => "uri too long"
  | .schemeTooLong => "scheme too long"
  | .invalidChar => "invalid uri character"
  | .invalidHost => "invalid authority"
  | .invalidFormat => "invalid format"

namespace AddressSyntax

/-- Whether a character may stand in a scheme. -/
def isSchemeChar (c : Char) : Bool := c.isAlphanum || c = '+' || c = '-' || c = '.'

/-- The text behind the scheme and its slashes, if there is a scheme. -/
def dropScheme (cs : List Char) : Except AddressFault (Option (List Char)) :=
  let scheme := cs.takeWhile isSchemeChar
  match cs.dropWhile isSchemeChar with
  | ':' :: '/' :: '/' :: rest =>
    if scheme.length > 64 then .error .schemeTooLong
    else if cs.length > 3 then .ok (some rest)
    else .ok none
  | _ => .ok none

/-- Whether a character ends the host. -/
def endsHost (c : Char) : Bool := c = '/' || c = '?' || c = '#'

/-- Whether a character may stand in a host or before it. -/
def isHostChar (c : Char) : Bool := c.isAlphanum || "!$&'()*+,-.:;=@[]_~%".toList.contains c

/-- What has been seen of a host. -/
structure HostScan where
  /-- The number of colons since the last `@` or closing bracket. -/
  colons : Nat
  /-- Whether a bracket was opened. -/
  opened : Bool
  /-- Whether a bracket was closed. -/
  closed : Bool
  /-- Whether there was a percent sign since the last `@` or closing bracket. -/
  percent : Bool

/-- Looks at the next character of a host. -/
def HostScan.step (s : HostScan) (c : Char) : Except AddressFault HostScan :=
  if !isHostChar c then .error .invalidChar
  else if c = ':' then
    if s.colons ≥ 8 then .error .invalidHost else .ok { s with colons := s.colons + 1 }
  else if c = '[' then
    if s.percent || s.opened then .error .invalidHost else .ok { s with opened := true }
  else if c = ']' then
    if !s.opened || s.closed then .error .invalidHost
    else .ok { s with closed := true, colons := 0, percent := false }
  else if c = '@' then .ok { s with colons := 0, percent := false }
  else if c = '%' then .ok { s with percent := true }
  else .ok s

/-- Checks a host and what stands before it. -/
def checkHost (cs : List Char) : Except AddressFault Unit :=
  match cs.foldlM HostScan.step ⟨0, false, false, false⟩ with
  | .error e => .error e
  | .ok s =>
    if s.opened ≠ s.closed ∨ s.colons > 1 ∨ cs.getLast? = some '@' ∨ s.percent then
      .error .invalidHost
    else .ok ()

/-- Whether a character may stand in a path. -/
def isPathChar (c : Char) : Bool := 0x20 < c.toNat && !"#<>?`".toList.contains c

/-- Whether a character may stand in a query string. -/
def isQueryChar (c : Char) : Bool := 0x20 < c.toNat && !"\"#<>".toList.contains c

/-- Checks a path and a query string; a fragment behind them may be anything. -/
def checkPath (cs : List Char) : Except AddressFault Unit :=
  let front := cs.takeWhile (· ≠ '#')
  let path := front.takeWhile (· ≠ '?')
  let query := (front.dropWhile (· ≠ '?')).drop 1
  if path.all isPathChar && query.all isQueryChar then .ok () else .error .invalidChar

/-- **Checks that a text has the form of an address.** -/
def check (s : String) : Except AddressFault Unit :=
  if s.utf8ByteSize > 65534 then .error .tooLong
  else match s.toList with
    | [] => .error .empty
    | ['*'] => .ok ()
    | '/' :: rest => checkPath ('/' :: rest)
    | cs =>
      match dropScheme cs with
      | .error e => .error e
      | .ok none =>
        match checkHost (cs.takeWhile fun c => !endsHost c) with
        | .error e => .error e
        | .ok () =>
          if cs.all fun c => !endsHost c then .ok ()
          else if cs.length = 1 then .error .invalidChar
          else .error .invalidFormat
      | .ok (some rest) =>
        match checkHost (rest.takeWhile fun c => !endsHost c) with
        | .error e => .error e
        | .ok () =>
          if (rest.takeWhile fun c => !endsHost c).isEmpty then .error .invalidFormat
          else checkPath (rest.dropWhile fun c => !endsHost c)

end AddressSyntax

end SearchRest
