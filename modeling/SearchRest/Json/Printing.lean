/-
The compact form of JSON values.

Nothing stands between lexemes. In strings the quote, the backslash and the
control characters are escaped, the common ones by a letter and the others by
their code, and everything else stands for itself. A number that is not finite
has no JSON form and is written as `null`.
-/
import SearchRest.Json.Basic
import SearchRest.Decimal.Layout
import SearchRest.Text.Quoted

set_option autoImplicit false

namespace SearchRest

namespace Json

/-- A character as it stands in a string. -/
def writeChar (c : Char) : List Char :=
  match c with
  | '"' => ['\\', '"']
  | '\\' => ['\\', '\\']
  | '\x08' => ['\\', 'b']
  | '\x0c' => ['\\', 'f']
  | '\n' => ['\\', 'n']
  | '\r' => ['\\', 'r']
  | '\t' => ['\\', 't']
  | c =>
    if c.toNat < 0x20 then
      ['\\', 'u', '0', '0', Text.hexDigit (c.toNat / 16), Text.hexDigit (c.toNat % 16)]
    else [c]

/-- A string in quotes. -/
def writeText (s : String) : List Char := '"' :: s.toList.flatMap writeChar ++ ['"']

/-- The form of a number. -/
def writeNumber : JsonNumber → List Char
  | .integer n => (Text.signedDecimal n).toList
  | .float x => if x.isFinite then (FloatLayout.json.write x).toList else "null".toList

mutual
/-- **The compact form of a value.** -/
def writeChars : Json → List Char
  | .null => "null".toList
  | .bool true => "true".toList
  | .bool false => "false".toList
  | .number n => writeNumber n
  | .text s => writeText s
  | .array items => '[' :: writeItems items ++ [']']
  | .object entries => '\x7b' :: writeEntries entries ++ ['\x7d']

/-- The items of a list with commas between them. -/
def writeItems : List Json → List Char
  | [] => []
  | [v] => writeChars v
  | v :: w :: vs => writeChars v ++ ',' :: writeItems (w :: vs)

/-- The entries of an object with commas between them. -/
def writeEntries : List (String × Json) → List Char
  | [] => []
  | [(k, v)] => writeText k ++ ':' :: writeChars v
  | (k, v) :: e :: rest => writeText k ++ ':' :: writeChars v ++ ',' :: writeEntries (e :: rest)
end

/-- The compact text of a value. -/
def write (v : Json) : String := String.ofList (writeChars v)

end Json

namespace CanonicalJson

/-- The compact text of a value in canonical form. -/
def write (v : CanonicalJson) : String := v.value.write


end CanonicalJson

end SearchRest
