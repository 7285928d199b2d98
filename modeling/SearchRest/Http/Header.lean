/-
What may stand in headers.

The name of a header is made of letters, digits and a few signs, and upper and
lower case are the same. Its value may hold anything but control characters,
tabs apart. Of a value that arrives only visible ASCII characters, blanks and
tabs make a text.
-/
import SearchRest.Text.Lowercase
import SearchRest.Text.Utf8

set_option autoImplicit false

namespace SearchRest.Http

/-- Whether a character may stand in the name of a header. -/
def isNameChar (c : Char) : Bool := c.isAlphanum || "!#$%&'*+-.^_`|~".toList.contains c

/-- Whether a text is the name of a header. -/
def isHeaderName (s : String) : Bool := s ≠ "" && s.toList.all isNameChar

/-- Whether a character, or a byte with its number, may stand in the value of a header. -/
def isValueChar (n : Nat) : Bool := (0x20 ≤ n && n ≠ 0x7f) || n = 0x09

/-- Whether a text may be the value of a header. -/
def isHeaderText (s : String) : Bool := s.toList.all fun c => isValueChar c.toNat

/-- Whether bytes may be the value of a header. -/
def isHeaderBytes (bytes : Text.Bytes) : Bool := bytes.all fun b => isValueChar b.toNat

/-- Whether a byte is a blank or a tab. -/
def isBlankByte (b : UInt8) : Bool := b = 0x20 || b = 0x09

/-- The bytes without the blanks and tabs around them. -/
def trimmedBytes (bytes : Text.Bytes) : Text.Bytes :=
  ((bytes.dropWhile isBlankByte).reverse.dropWhile isBlankByte).reverse

/-- The text of a value that arrived, if it is ASCII. -/
def valueText? (bytes : Text.Bytes) : Option String :=
  if bytes.all fun b => b < 0x7f then some (Text.decodeLossy bytes) else none

end SearchRest.Http
