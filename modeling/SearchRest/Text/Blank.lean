/-
White space and trimming.

The class is the Unicode property White_Space: the six ASCII blanks (with the
vertical tab), the next-line control, the no-break space and the spaces and
separators of the general punctuation blocks. The zero width space and the
information separators of ASCII are not in it.
-/
import SearchRest.Text.Pieces

set_option autoImplicit false

namespace SearchRest.Text

/-- **The Unicode property White_Space.** -/
def isBlank (c : Char) : Bool :=
  let n := c.toNat
  (0x09 ≤ n && n ≤ 0x0d) || n = 0x20 || n = 0x85 || n = 0xa0 || n = 0x1680
    || (0x2000 ≤ n && n ≤ 0x200a) || n = 0x2028 || n = 0x2029 || n = 0x202f || n = 0x205f
    || n = 0x3000

/-- The characters without blanks in front. -/
def trimStart (cs : List Char) : List Char := cs.dropWhile isBlank

/-- The characters without blanks at either end. -/
def trimmed (cs : List Char) : List Char := dropEndWhile isBlank (trimStart cs)

/-- The text without blanks at either end. -/
def trim (s : String) : String := String.ofList (trimmed s.toList)

/-- Whether nothing but blanks stands in the text. -/
def isBlankText (s : String) : Bool := s.toList.all isBlank

/-- The entries of a list written with commas: what stands between them, trimmed, without the
empty ones. -/
def commaList (s : String) : List String :=
  ((split ',' s).map trim).filter fun part => !part.isEmpty

end SearchRest.Text
