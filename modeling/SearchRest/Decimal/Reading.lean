/-
Reading floating-point numbers from text.

The grammar is liberal: an optional sign, then either `inf`, `infinity` or
`nan` in any case, or decimal digits with an optional point, at least one digit
before or after it, and an optional exponent. Blanks are not allowed. A number
out of range reads as infinity or zero.
-/
import SearchRest.Decimal.Binary64
import SearchRest.Text.Lowercase

set_option autoImplicit false

namespace SearchRest

/-- The natural number that a list of decimal digits stands for. -/
def digitsValue (cs : List Char) : Nat :=
  cs.foldl (fun n c => n * 10 + (Text.digitValue? c).getD 0) 0

/-- Takes an exponent, `e` or `E` with an optional sign and at least one digit, off a text; without
one the exponent is zero. Nothing where the mark stands without digits. -/
def takeExponent (cs : List Char) : Option (Int × List Char) :=
  match cs with
  | c :: rest =>
    if c = 'e' ∨ c = 'E' then
      let (negative, unsigned) := match rest with
        | '-' :: r => (true, r)
        | '+' :: r => (false, r)
        | r => (false, r)
      let digits := unsigned.takeWhile Text.isDigit
      if digits.isEmpty then none
      else
        let size : Int := digitsValue digits
        some (if negative then -size else size, unsigned.dropWhile Text.isDigit)
    else some (0, cs)
  | [] => some (0, [])

namespace Binary64

/-- Reads a number without a sign. -/
def readMagnitude? (negative : Bool) (cs : List Char) : Option Binary64 :=
  let word := cs.map Char.toLower
  if word = "inf".toList ∨ word = "infinity".toList then some (infinity negative)
  else if word = "nan".toList then some { nan with negative := negative }
  else
    let whole := cs.takeWhile Text.isDigit
    let (part, rest) := match cs.dropWhile Text.isDigit with
      | '.' :: r => (r.takeWhile Text.isDigit, r.dropWhile Text.isDigit)
      | r => ([], r)
    if whole.isEmpty && part.isEmpty then none
    else match takeExponent rest with
      | some (exponent, []) =>
        some (ofDecimal negative (digitsValue (whole ++ part)) (exponent - part.length))
      | _ => none

/-- Reads a floating-point number. -/
def read? (s : String) : Option Binary64 :=
  match s.toList with
  | '-' :: cs => readMagnitude? true cs
  | '+' :: cs => readMagnitude? false cs
  | cs => readMagnitude? false cs

end Binary64

end SearchRest
