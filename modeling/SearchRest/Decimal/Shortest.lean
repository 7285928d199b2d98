/-
The shortest decimal number that reads back as a given binary one.

The real numbers that round to a finite binary number form an interval around
it, which holds its ends exactly when the significand is even. Of the decimal
numbers in the interval the one with the fewest digits is wanted, and of those
the nearest; between two that are equally near a rule for ties decides. For
each number of digits in turn the two neighbours of the value on that decimal
grid are tested in exact arithmetic: if any point of a grid is in the interval,
one of the two neighbours is.
-/
import SearchRest.Decimal.Binary64

set_option autoImplicit false

namespace SearchRest

/-- A decimal number: `digits * 10 ^ exponent`. -/
structure DecimalNumber where
  /-- The digits, read as one natural number. -/
  digits : Nat
  /-- The power of ten. -/
  exponent : Int
  deriving DecidableEq, Repr

namespace DecimalNumber

/-- The same number without zeros at the end of its digits. -/
def stripped (fuel : Nat) (x : DecimalNumber) : DecimalNumber :=
  match fuel with
  | 0 => x
  | fuel + 1 =>
    if x.digits ≠ 0 ∧ x.digits % 10 = 0 then stripped fuel ⟨x.digits / 10, x.exponent + 1⟩ else x

/-- The exponent of the power of ten that the first digit stands for. -/
def leading (x : DecimalNumber) : Int :=
  x.exponent + (Text.decimalDigits x.digits).length - 1

end DecimalNumber

/-- **Which of two equally near decimal numbers is taken.** -/
inductive Tie where
  /-- The greater one. -/
  | up
  /-- The one whose last digit is even. -/
  | even
  deriving DecidableEq

/-- Whether the upper one of the neighbours `below` and `below + 1` is taken. -/
def Tie.goesUp (tie : Tie) (below : Nat) : Bool :=
  match tie with
  | .up => true
  | .even => below % 2 = 1

namespace Binary64

/-- The exponent of the greatest power of ten that is at most `num / den`. -/
def floorLog10 (num den : Nat) : Int :=
  if den ≤ num then (Text.decimalDigits (num / den)).length - 1
  else -((Text.decimalDigits ((den + num - 1) / num - 1)).length : Int)

/-- The point of the grid of the multiples of `10 ^ k` that is in the rounding interval and nearest
to the value. The value is `4 * m`, the interval reaches down to `low` and up to `4 * m + 2`, all
in units of `2 ^ (q - 2)`. -/
def gridPoint? (tie : Tie) (m low : Nat) (q k : Int) : Option DecimalNumber :=
  let two := Nat.pow 2 (q - 2).toNat * Nat.pow 10 (-k).toNat
  let ten := Nat.pow 2 (2 - q).toNat * Nat.pow 10 k.toNat
  let value := 4 * m * two
  let bottom := low * two
  let top := (4 * m + 2) * two
  let below := value / ten
  let fits (d : Nat) : Bool :=
    if m % 2 = 0 then bottom ≤ d * ten && d * ten ≤ top
    else bottom < d * ten && d * ten < top
  let toBelow := value - below * ten
  let toAbove := (below + 1) * ten - value
  if fits below then
    if fits (below + 1) ∧ (toAbove < toBelow ∨ (toAbove = toBelow ∧ tie.goesUp below)) then
      some ⟨below + 1, k⟩
    else some ⟨below, k⟩
  else if fits (below + 1) then some ⟨below + 1, k⟩
  else none

/-- The shortest decimal number that reads back as the absolute value of `x`. -/
def shortest (x : Binary64) (tie : Tie) : DecimalNumber :=
  let m := x.significand
  let q := x.exponent
  if m = 0 then ⟨0, 0⟩
  else
    let low := if (x.fraction : Nat) = 0 ∧ 1 < (x.exponentField : Nat) then 4 * m - 1 else 4 * m - 2
    let first := floorLog10 (m * Nat.pow 2 q.toNat) (Nat.pow 2 (-q).toNat)
    let found := (List.range 17).findSome? fun (n : Nat) => 
      gridPoint? tie m low q (first - (n : Int))
    (found.getD ⟨m * Nat.pow 2 q.toNat, 0⟩).stripped 400

end Binary64

end SearchRest
