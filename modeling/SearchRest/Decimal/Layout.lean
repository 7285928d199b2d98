/-
How floating-point numbers are laid out as text.

The digits are always the shortest ones that read back. What differs from one
kind of text to another is a handful of decisions, collected in `FloatLayout`:
which magnitudes are written without an exponent, whether a whole number keeps
`.0`, whether a positive exponent has a sign, and which of two equally near
numbers is taken.
-/
import SearchRest.Decimal.Shortest

set_option autoImplicit false

namespace SearchRest

/-- **The decisions of a number format.** -/
structure FloatLayout where
  /-- Whether a number whose first digit stands for that power of ten has no exponent. -/
  positional : Int → Bool
  /-- Whether a whole number written without an exponent ends in `.0`. -/
  keepsPoint : Bool
  /-- Whether a positive exponent is written with `+`. -/
  plusSign : Bool
  /-- Which of two equally near numbers is taken. -/
  tie : Tie

namespace FloatLayout

/-- In JSON texts magnitudes from 1e-5 to below 1e16 have no exponent, whole numbers end in `.0`,
exponents are signed, and a tie goes to the even digit. -/
def json : FloatLayout := ⟨fun e => decide (-5 ≤ e ∧ e < 16), true, true, .even⟩

/-- In query strings no number has an exponent or a needless point, and a tie goes up. -/
def query : FloatLayout := ⟨fun _ => true, false, false, .up⟩

/-- In reports magnitudes from 1e-4 to below 1e16 have no exponent, whole numbers end in `.0`, a
positive exponent has no sign, and a tie goes up. -/
def report : FloatLayout := ⟨fun e => decide (-4 ≤ e ∧ e < 16), true, false, .up⟩

/-- Digits with a point after the first `before` of them, with zeros where there are none. -/
def positionalText (keepsPoint : Bool) (digits : List Char) (before : Int) : List Char :=
  if before ≤ 0 then '0' :: '.' :: List.replicate (-before).toNat '0' ++ digits
  else if before < digits.length then
    digits.take before.toNat ++ '.' :: digits.drop before.toNat
  else
    digits ++ List.replicate (before.toNat - digits.length) '0'
      ++ if keepsPoint then ['.', '0'] else []

/-- Digits with a point after the first one, and the power of ten that the first one stands for. -/
def exponentText (plusSign : Bool) (digits : List Char) (leading : Int) : List Char :=
  let mantissa := match digits with
    | [] => []
    | [d] => [d]
    | d :: ds => d :: '.' :: ds
  let sign := if leading < 0 then ['-'] else if plusSign then ['+'] else []
  mantissa ++ 'e' :: sign ++ Text.decimalDigits leading.natAbs

/-- The text of a floating-point number in the layout. -/
def write (layout : FloatLayout) (x : Binary64) : String :=
  if x.isNaN then "NaN"
  else
    let sign := if x.negative then ['-'] else []
    if !x.isFinite then String.ofList (sign ++ ['i', 'n', 'f'])
    else
      let number := x.shortest layout.tie
      let digits := Text.decimalDigits number.digits
      let leading := number.leading
      String.ofList (sign ++
        if number.digits = 0 || layout.positional leading then
          positionalText layout.keepsPoint digits (leading + 1)
        else exponentText layout.plusSign digits leading)

end FloatLayout

end SearchRest
