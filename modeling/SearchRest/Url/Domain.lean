/-
Domains, the names of hosts.

A domain is folded first: letters are put in lower case, variants of characters
are written in the usual way, characters that only guide the layout are left
out, and the result is composed. Then it is cut at its dots. A label in ASCII
stands for itself, or, if it begins with `xn--`, for a text with other
characters; every label is checked as the text it stands for and written in
ASCII. Last the directions of all labels are looked at together.

A label is only accepted if its ASCII form stands for it, so a domain in its
normal form is read as itself.
-/
import SearchRest.Text.Composed
import SearchRest.Text.Percent
import SearchRest.Text.Pieces
import SearchRest.Url.Domain.Classes
import SearchRest.Url.Domain.Folding
import SearchRest.Url.Punycode

set_option autoImplicit false

namespace SearchRest.Domain

/-! ## Folding -/

/-- What a character is written as in a domain. -/
def foldChar (c : Char) : List Char :=
  if c.toNat < 0x80 then [c.toLower]
  else if Text.inRanges ignoredRanges c.toNat then []
  else match foldedRuns.findSome? fun (first, words) =>
      if first ≤ c.toNat then (Text.pieces ' ' words.toList)[c.toNat - first]? else none with
    | some word => word
    | none => Text.lowerChar c

/-- **The folded form of a text.** -/
def folded (cs : List Char) : List Char := Text.composed (cs.flatMap foldChar)

/-! ## What a label may hold -/

/-- The characters of ASCII that no domain can hold. -/
def isForbidden (c : Char) : Bool :=
  c.toNat ≤ 0x20 || c.toNat = 0x7f || "%#/:<>?@[\\]^|".toList.contains c

/-- Whether a folded domain may hold the character. Capital letters are folded to small ones. -/
def isPermitted (c : Char) : Bool :=
  if c.toNat < 0x80 then !isForbidden c && !c.isUpper else Text.inRanges permittedRanges c.toNat

/-- Whether the character is a mark that takes no room. -/
def isNonspacing (c : Char) : Bool := Text.inRanges nonspacingRanges c.toNat

/-- Whether the character is a mark, which belongs to the one before it. -/
def isMark (c : Char) : Bool := isNonspacing c || Text.inRanges spacingRanges c.toNat

/-- Whether the first character that is not passed over between joined letters is a letter that
joins in one of the given ways. -/
def meetsJoining (joining : List (Nat × Nat)) (cs : List Char) : Bool :=
  let passed (c : Char) : Bool := isNonspacing c || Text.inRanges passedOverRanges c.toNat
  match cs.dropWhile passed with
  | c :: _ => Text.inRanges dualJoiningRanges c.toNat || Text.inRanges joining c.toNat
  | [] => false

/-- Whether the joiners and non-joiners in a text are in order: after the characters `before`, the
nearest one first. Each stands after a mark that takes away a vowel, a non-joiner also between two
letters that would be joined without it. -/
def joinersInOrder : List Char → List Char → Bool
  | _, [] => true
  | before, c :: cs =>
    let here :=
      if c = '\u200c' ∨ c = '\u200d' then
        (before.head?.any fun d => Text.combiningClass d = 9)
          || (c = '\u200c' && meetsJoining leftJoiningRanges before
            && meetsJoining rightJoiningRanges cs)
      else true
    here && joinersInOrder (c :: before) cs

/-! ## Labels -/

/-- What the ASCII form of an international label begins with. -/
def mark : List Char := "xn--".toList

/-- Whether a text is in ASCII. -/
def isAscii (cs : List Char) : Bool := cs.all fun c => c.toNat < 0x80

/-- Whether a text may be the text of an international label: it has at most a thousand characters,
some of them outside ASCII, it is in its folded form, does not look like an ASCII form, and begins
with no mark. -/
def isInternational (cs : List Char) : Bool :=
  !isAscii cs && cs.length ≤ 1000 && cs.all isPermitted && folded cs = cs
    && !mark.isPrefixOf cs && !(cs.head?.any isMark) && joinersInOrder [] cs

/-- **The text that a label in ASCII stands for.** No more than two thousand characters of ASCII are
read as the form of another text. -/
def textOf? (label : List Char) : Option (List Char) :=
  match Text.dropStart? mark label with
  | none => if label.all isPermitted then some label else none
  | some form =>
    if form.length ≤ 2000 then
      (Punycode.decode? form).filter fun text => isInternational text && Punycode.encode text = form
    else none

/-- **A label.** -/
structure Label where
  /-- The label as it is read. -/
  text : List Char
  /-- The label in ASCII. -/
  form : List Char

/-- Reads a folded label. -/
def Label.ofText? (cs : List Char) : Option Label :=
  if isAscii cs then (textOf? cs).map fun text => ⟨text, cs⟩
  else
    let form := Punycode.encode cs
    if isInternational cs ∧ Punycode.decode? form = some cs then
      some ⟨cs, mark ++ form⟩
    else none

/-! ## Directions -/

/-- **The direction of a character.** -/
inductive Direction where
  /-- A letter that is written from left to right. -/
  | leftToRight
  /-- A letter that is written from right to left. -/
  | rightToLeft
  /-- A digit of an Arabic number. -/
  | arabicNumber
  /-- A digit of a European number. -/
  | europeanNumber
  /-- A mark, which takes the direction of its letter. -/
  | nonspacing
  /-- A character that takes the direction of its neighbours. -/
  | neutral
  deriving DecidableEq

namespace Direction

/-- The direction of a character. -/
def ofChar (c : Char) : Direction :=
  let among (ranges : List (Nat × Nat)) : Bool := Text.inRanges ranges c.toNat
  if c.toNat < 0x80 then
    if c.isAlpha then .leftToRight else if c.isDigit then .europeanNumber else .neutral
  else if isNonspacing c then .nonspacing
  else if among rightToLeftRanges then .rightToLeft
  else if among arabicNumberRanges then .arabicNumber
  else if among europeanNumberRanges then .europeanNumber
  else if among neutralRanges then .neutral
  else .leftToRight

/-- Whether the direction makes a domain one that is written from right to left. -/
def isOpposite (d : Direction) : Bool := d = .rightToLeft || d = .arabicNumber

/-- The last direction that is not one of a mark. -/
def last? (ds : List Direction) : Option Direction :=
  (ds.filter (· ≠ .nonspacing)).getLast?

/-- Whether a label in a domain with letters from right to left keeps to one direction: that of its
first letter. It may not begin with a digit nor end with a neutral character, a label from left to
right holds nothing from right to left and no Arabic number, and one from right to left no letter
from left to right and not both kinds of numbers. -/
def agree : List Direction → Bool
  | [] => true
  | .leftToRight :: ds =>
    !(ds.any isOpposite)
      && (last? (.leftToRight :: ds)).any fun d => d = .leftToRight || d = .europeanNumber
  | .rightToLeft :: ds =>
    !(ds.contains .leftToRight) && !(ds.contains .arabicNumber && ds.contains .europeanNumber)
      && (last? (.rightToLeft :: ds)).any fun d => d ≠ .leftToRight && d ≠ .neutral
  | _ :: _ => false

end Direction

/-- Whether the directions of labels agree: always if nothing is written from right to left. -/
def directionsAgree (labels : List Label) : Bool :=
  let directions := labels.map fun l => l.text.map Direction.ofChar
  !(directions.any fun ds => ds.any Direction.isOpposite) || directions.all Direction.agree

/-! ## Domains -/

/-- **Reads a domain**, in which characters may be escaped, and writes it in ASCII. -/
def normal? (cs : List Char) : Option (List Char) := do
  let text ← Text.percentDecodeChars cs
  let labels ← (Text.pieces '.' (folded text)).mapM Label.ofText?
  if directionsAgree labels then return Text.joined '.' (labels.map Label.form) else none

end SearchRest.Domain
