/-
The numbers of JSON texts.

An integer that fits 64 bits is read exactly. Any other number is read in
floating point: of its digits as many are taken as fit a 64-bit word, and the
rest is left to powers of ten, by one multiplication or by divisions, each of
which is rounded. So a number with many digits or a large exponent may come out
as a neighbour of the nearest floating-point number. A number that comes out
infinite is out of range.
-/
import SearchRest.Decimal.Reading
import SearchRest.Json.Basic

set_option autoImplicit false

namespace SearchRest

namespace Binary64

/-- The power of ten nearest to `10 ^ k`. -/
def tenTo (k : Nat) : Binary64 := ofNat (Nat.pow 10 k)

/-- The greatest exponent of a power of ten that is finite. -/
def maxTen : Nat := 308

/-- A number times `10 ^ e`, by one rounded multiplication or by rounded divisions; nothing if that
is infinite. -/
def scale? (x : Binary64) (e : Int) : Option Binary64 :=
  if e.natAbs ≤ maxTen then
    (some (if 0 ≤ e then x.mul (tenTo e.natAbs) else x.div (tenTo e.natAbs))).filter isFinite
  else if x.significand = 0 then some x
  else if 0 ≤ e then none
  else scale? (x.div (tenTo maxTen)) (e + maxTen)
termination_by e.natAbs
decreasing_by simp only [maxTen] at *; omega

end Binary64

namespace Json

/-- **A number as it is written.** -/
structure Numeral where
  /-- Whether there is a sign. -/
  negative : Bool
  /-- The digits before the point. -/
  whole : List Char
  /-- The digits after the point, if there is one. -/
  part : Option (List Char)
  /-- The exponent, if there is one. -/
  exponent : Option Int

namespace Numeral

/-- Takes a text apart that is a number. There is at least one digit before the point and after
it, and no needless zero in front. -/
def parse? (cs : List Char) : Option Numeral :=
  let (negative, unsigned) := match cs with
    | '-' :: r => (true, r)
    | r => (false, r)
  let whole := unsigned.takeWhile Text.isDigit
  let (part, rest) := match unsigned.dropWhile Text.isDigit with
    | '.' :: r => (some (r.takeWhile Text.isDigit), r.dropWhile Text.isDigit)
    | r => (none, r)
  if whole = [] ∨ (whole.head? = some '0' ∧ 1 < whole.length) ∨ part = some [] then none
  else match takeExponent rest with
    | some (exponent, []) => some ⟨negative, whole, part, if rest = [] then none else some exponent⟩
    | _ => none

/-- Appends digits to a number as long as it fits a 64-bit word, and tells which ones are left. -/
def takeDigits (n : Nat) : List Char → Nat × List Char
  | [] => (n, [])
  | c :: cs =>
    let m := n * 10 + (Text.digitValue? c).getD 0
    if m ≤ Text.maxWord then takeDigits m cs else (n, c :: cs)

/-- The integer that the number is, if it is one of 64 bits. A negative zero is none. -/
def integer? (x : Numeral) : Option Int :=
  let n := digitsValue x.whole
  if x.part.isSome ∨ x.exponent.isSome then none
  else if !x.negative ∧ n ≤ Text.maxWord then some n
  else if x.negative ∧ n ≠ 0 ∧ n ≤ Text.maxInteger + 1 then some (-n)
  else none

/-- The floating-point number that the number is read as. -/
def float? (x : Numeral) : Option Binary64 :=
  let (n, cut) := takeDigits 0 x.whole
  let digits := x.part.getD []
  let (m, left) := takeDigits n digits
  let e : Int := cut.length - (digits.length - left.length) + x.exponent.getD 0
  ((Binary64.ofNat m).scale? e).map fun f => { f with negative := x.negative }

/-- **The value of a number**; nothing if it is out of range. -/
def value? (x : Numeral) : Option JsonNumber :=
  match x.integer? with
  | some n => some (.integer n)
  | none => x.float?.map .float

end Numeral

end Json

end SearchRest
