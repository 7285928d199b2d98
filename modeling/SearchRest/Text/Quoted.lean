/-
Texts in double quotes, for reports.

A report shows a text between double quotes with everything escaped that
could not be read off the page: the quote and the backslash, the tab and the
line ends, and, by their code point in braces, all characters that are not
printable or only modify the character before them.
-/
import SearchRest.Text.Lowercase
import SearchRest.Text.Quoted.Table

set_option autoImplicit false

namespace SearchRest.Text

/-- The lower-case hexadecimal digit of a number below 16. -/
def hexDigit (n : Nat) : Char := if n < 10 then Char.ofNat (48 + n) else Char.ofNat (87 + n)

/-- The hexadecimal digits of `n`, without zeros in front. -/
def hexDigits (n : Nat) : List Char :=
  if n < 16 then [hexDigit n] else hexDigits (n / 16) ++ [hexDigit (n % 16)]
termination_by n

/-- Whether a quoted text shows the character by its code point. -/
def needsCodePoint (c : Char) : Bool :=
  inRanges graphemeExtendRanges c.toNat || inRanges unprintableRanges c.toNat

/-- A character as it stands in a quoted text. -/
def quotedChar (c : Char) : List Char :=
  match c with
  | '"' => ['\\', '"']
  | '\\' => ['\\', '\\']
  | '\t' => ['\\', 't']
  | '\r' => ['\\', 'r']
  | '\n' => ['\\', 'n']
  | '\x00' => ['\\', '0']
  | c => if needsCodePoint c then '\\' :: 'u' :: '\x7b' :: hexDigits c.toNat ++ ['\x7d'] else [c]

/-- The text between double quotes, escaped. -/
def quoted (s : String) : String :=
  String.ofList ('"' :: s.toList.flatMap quotedChar ++ ['"'])

end SearchRest.Text
