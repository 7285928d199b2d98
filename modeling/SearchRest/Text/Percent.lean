/-
Percent-encoding.

A byte stands for itself when it is an unreserved character, a letter, a digit
or one of `-`, `_`, `.`, `~`, and is written as `%` and two upper-case
hexadecimal digits otherwise. Texts are encoded byte by byte in UTF-8, so
every reserved character, every blank and everything outside ASCII is escaped.
The reader takes hexadecimal digits in either case.
-/
import SearchRest.Text.Utf8

set_option autoImplicit false

namespace SearchRest.Text

/-- The characters that percent-encoding leaves alone. -/
def isUnreserved (c : Char) : Bool :=
  ('A' ≤ c && c ≤ 'Z') || ('a' ≤ c && c ≤ 'z') || ('0' ≤ c && c ≤ '9')
    || c = '-' || c = '_' || c = '.' || c = '~'

/-- The upper-case hexadecimal digit of a number below 16. -/
def upperHexDigit (n : Nat) : Char := if n < 10 then Char.ofNat (48 + n) else Char.ofNat (55 + n)

/-- The value of a hexadecimal digit of either case. -/
def hexValue? (c : Char) : Option Nat :=
  if '0' ≤ c ∧ c ≤ '9' then some (c.toNat - 48)
  else if 'a' ≤ c ∧ c ≤ 'f' then some (c.toNat - 87)
  else if 'A' ≤ c ∧ c ≤ 'F' then some (c.toNat - 55)
  else none

/-- The escape of a byte: `%` and its two hexadecimal digits. -/
def escapedByte (b : UInt8) : List Char :=
  ['%', upperHexDigit (b.toNat / 16), upperHexDigit (b.toNat % 16)]

/-- A byte by itself if `keep` holds of it as an ASCII character, and its escape otherwise. -/
def percentByte (keep : Char → Bool) (b : UInt8) : List Char :=
  if b.toNat < 128 ∧ keep (Char.ofNat b.toNat) then [Char.ofNat b.toNat] else escapedByte b

/-- A text with every byte escaped that `keep` does not hold of. -/
def percentEncodeKeeping (keep : Char → Bool) (cs : List Char) : List Char :=
  (encodeChars cs).flatMap (percentByte keep)

/-- The percent-encoded form of a list of characters. -/
def percentEncodeChars (cs : List Char) : List Char := percentEncodeKeeping isUnreserved cs

/-! ## Reading -/

/-- The bytes of a percent-encoded text. A `%` without two hexadecimal digits stands for itself,
as does every other character. -/
def percentDecodeBytes : List Char → Bytes
  | '%' :: h :: l :: rest =>
    match hexValue? h, hexValue? l with
    | some a, some b => UInt8.ofNat (a * 16 + b) :: percentDecodeBytes rest
    | _, _ => 0x25 :: percentDecodeBytes (h :: l :: rest)
  | c :: rest => String.utf8EncodeChar c ++ percentDecodeBytes rest
  | [] => []

/-- The characters of a percent-encoded text; nothing if its bytes are not UTF-8. -/
def percentDecodeChars (cs : List Char) : Option (List Char) := decodeChars? (percentDecodeBytes cs)

/-- The text behind a percent-encoded text; nothing if its bytes are not UTF-8. -/
def percentDecode (s : String) : Option String := (percentDecodeChars s.toList).map String.ofList

end SearchRest.Text
