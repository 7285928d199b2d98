/-
The hosts of addresses.

A host in brackets is an address of version 6. A host whose last part is a
number is an address of version 4, of which the parts may be written in
several bases and the last ones run together. Every other host is a domain,
which is brought to its normal form in ASCII.
-/
import SearchRest.Text.Numeral
import SearchRest.Text.Pieces
import SearchRest.Text.Quoted
import SearchRest.Url.Domain

set_option autoImplicit false

namespace SearchRest

/-- **Why a text is no address.** -/
inductive UrlError where
  /-- It does not begin with a scheme. -/
  | noScheme
  /-- There is no host where one is needed. -/
  | emptyHost
  /-- The port is no number below 65536. -/
  | invalidPort
  /-- The host is no valid domain. -/
  | invalidDomain
  /-- The host holds a character that no host can hold. -/
  | invalidCharacter
  /-- The host looks like an address of version 4 and is none. -/
  | invalidIpv4
  /-- The host looks like an address of version 6 and is none. -/
  | invalidIpv6
  deriving DecidableEq

/-- The text of the error. -/
def UrlError.message : UrlError → String
  | .noScheme => "relative URL without a base"
  | .emptyHost => "empty host"
  | .invalidPort => "invalid port number"
  | .invalidDomain => "invalid international domain name"
  | .invalidCharacter => "invalid domain character"
  | .invalidIpv4 => "invalid IPv4 address"
  | .invalidIpv6 => "invalid IPv6 address"

namespace Host

/-! ## Addresses of version 4 -/

/-- The value of digits of a base. -/
def digitsIn (base : Nat) (cs : List Char) : Option Nat :=
  cs.foldlM (fun n c =>
    (Text.hexValue? c).bind fun d => if d < base then some (n * base + d) else none) 0

/-- Reads a part of an address: hexadecimal after `0x`, octal after a zero, and decimal. -/
def ipv4Part? (cs : List Char) : Option Nat :=
  match cs with
  | [] => none
  | '0' :: 'x' :: rest => digitsIn 16 rest
  | '0' :: 'X' :: rest => digitsIn 16 rest
  | '0' :: c :: rest => digitsIn 8 (c :: rest)
  | cs => digitsIn 10 cs

/-- The parts between the dots, without an empty one at the end. -/
def dotted (cs : List Char) : List (List Char) :=
  let parts := Text.pieces '.' cs
  if parts.getLast? = some [] ∧ 1 < parts.length then parts.dropLast else parts

/-- Whether the last part of a domain is a number. -/
def endsInNumber (cs : List Char) : Bool :=
  match (dotted cs).getLast? with
  | some part =>
    (!part.isEmpty && part.all fun c => (digitsIn 10 [c]).isSome) || (ipv4Part? part).isSome
  | none => false

/-- Reads an address of version 4 as a number of 32 bits. All parts but the last one are single
bytes; the last one fills what is left. -/
def ipv4? (cs : List Char) : Option Nat :=
  let parts := dotted cs
  if 4 < parts.length then none
  else match parts.mapM ipv4Part? with
    | none => none
    | some numbers =>
      match numbers.getLast? with
      | none => none
      | some last =>
        let bytes := numbers.dropLast
        if last < Nat.pow 256 (4 - bytes.length) ∧ bytes.all (· ≤ 255) then
          some (bytes.foldl (fun n b => n * 256 + b) 0 * Nat.pow 256 (4 - bytes.length) + last)
        else none

/-- An address of version 4 with dots. -/
def ipv4Text (n : Nat) : List Char :=
  Text.joined '.'
    ([n / 16777216 % 256, n / 65536 % 256, n / 256 % 256, n % 256].map Text.decimalDigits)

/-! ## Addresses of version 6 -/

/-- Reads a group of one to four hexadecimal digits. -/
def group? (cs : List Char) : Option Nat :=
  if cs.isEmpty ∨ 4 < cs.length then none else digitsIn 16 cs

/-- Reads a byte in decimal, without a needless zero. -/
def byte? (cs : List Char) : Option Nat :=
  if cs.isEmpty ∨ (cs.head? = some '0' ∧ 1 < cs.length) then none
  else (digitsIn 10 cs).filter (· ≤ 255)

/-- Reads four bytes with dots between them as two groups. -/
def dottedGroups? (cs : List Char) : Option (List Nat) :=
  match (Text.pieces '.' cs).mapM byte? with
  | some [a, b, c, d] => some [a * 256 + b, c * 256 + d]
  | _ => none

/-- Reads groups with colons between them. The last one may be four bytes with dots. -/
def groups? (bytesAtEnd : Bool) (cs : List Char) : Option (List Nat) :=
  if cs.isEmpty then some []
  else
    let parts := Text.pieces ':' cs
    let last := parts.getLast?.getD []
    if bytesAtEnd ∧ last.contains '.' then do
      some ((← parts.dropLast.mapM group?) ++ (← dottedGroups? last))
    else parts.mapM group?

/-- The text before and after the first double colon. -/
def cutDoubleColon : List Char → Option (List Char × List Char)
  | ':' :: ':' :: rest => some ([], rest)
  | c :: rest => (cutDoubleColon rest).map fun (before, after) => (c :: before, after)
  | [] => none

/-- Reads an address of version 6 as its eight groups. A double colon stands for the zeros that
are missing, at least one. -/
def ipv6? (cs : List Char) : Option (List Nat) :=
  match cutDoubleColon cs with
  | some (before, after) => do
    let left ← groups? false before
    let right ← groups? true after
    if left.length + right.length ≤ 7 then
      some (left ++ List.replicate (8 - left.length - right.length) 0 ++ right)
    else none
  | none => (groups? true cs).filter (·.length = 8)

/-- The number of zeros at the start of a list. -/
def zeros (l : List Nat) : Nat := (l.takeWhile (· = 0)).length

/-- The place and the length of the longest run of zeros, the first one of several. -/
def longestZeros (l : List Nat) : Nat × Nat :=
  (List.range l.length).foldl
    (fun best i => if best.2 < zeros (l.drop i) then (i, zeros (l.drop i)) else best) (0, 0)

/-- An address of version 6, with the longest run of at least two zeros left out. -/
def ipv6Text (l : List Nat) : List Char :=
  let shown (l : List Nat) := Text.joined ':' (l.map Text.hexDigits)
  let (start, length) := longestZeros l
  if 2 ≤ length then shown (l.take start) ++ ':' :: ':' :: shown (l.drop (start + length))
  else shown l

/-! ## Hosts -/

/-- **Reads the host of a web address.** -/
def parse (cs : List Char) : Except UrlError String :=
  match cs with
  | '[' :: rest =>
    match (Text.dropLast? ']' rest).bind ipv6? with
    | some groups => .ok (String.ofList ('[' :: ipv6Text groups ++ [']']))
    | none => .error .invalidIpv6
  | cs =>
    match Domain.normal? cs with
    | none => .error .invalidDomain
    | some domain =>
      if domain.isEmpty then .error .emptyHost
      else if endsInNumber domain then
        match ipv4? domain with
        | some n => .ok (String.ofList (ipv4Text n))
        | none => .error .invalidIpv4
      else .ok (String.ofList domain)

/-- Reads the host of an address of any other scheme, which is kept as it is. -/
def parseOpaque (cs : List Char) : Except UrlError String :=
  match cs with
  | '[' :: rest =>
    match (Text.dropLast? ']' rest).bind ipv6? with
    | some groups => .ok (String.ofList ('[' :: ipv6Text groups ++ [']']))
    | none => .error .invalidIpv6
  | cs =>
    if cs.any fun c => "\x00\t\n\r #/:<>?@[\\]^|".toList.contains c then
      .error .invalidCharacter
    else .ok (String.ofList cs)

end Host

end SearchRest
