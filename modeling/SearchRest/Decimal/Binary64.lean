/-
Binary floating-point numbers of 64 bits, as exact data.

A number is its sign, its exponent field and its fraction; what it stands for
is a natural number times a power of two. All arithmetic is exact, on natural
numbers: `Binary64.nearest` rounds a fraction to the nearest representable
number, a tie to the one with an even significand, and answers infinity from
half a unit above the largest finite number on.
-/
import SearchRest.Text.Numeral

set_option autoImplicit false

namespace SearchRest

/-- **A 64-bit binary floating-point number**, infinities and the not-a-numbers included. -/
structure Binary64 where
  /-- Whether the sign bit is set. -/
  negative : Bool
  /-- The eleven bits of the exponent; all ones mark what is not finite. -/
  exponentField : Fin 2048
  /-- The 52 bits after the point. -/
  fraction : Fin 4503599627370496
  deriving DecidableEq

namespace Binary64

/-- Two to the power of 52: the weight of the hidden first bit. -/
abbrev hiddenBit : Nat := 4503599627370496

/-- Positive zero. -/
def zero : Binary64 := ⟨false, 0, 0⟩

instance : Inhabited Binary64 := ⟨zero⟩

/-- The infinity of the given sign. -/
def infinity (negative : Bool) : Binary64 := ⟨negative, 2047, 0⟩

/-- The not-a-number with a clear sign. -/
def nan : Binary64 := ⟨false, 2047, 2251799813685248⟩

/-- Whether the number is neither infinite nor a not-a-number. -/
def isFinite (x : Binary64) : Bool := x.exponentField ≠ 2047

/-- Whether it is a not-a-number. -/
def isNaN (x : Binary64) : Bool := x.exponentField = 2047 && x.fraction ≠ 0

/-- The natural number that the absolute value of a finite number is a multiple of a power of two
of. -/
def significand (x : Binary64) : Nat :=
  if x.exponentField = 0 then x.fraction else x.fraction + hiddenBit

/-- The exponent of that power of two. -/
def exponent (x : Binary64) : Int :=
  if x.exponentField = 0 then -1074 else (x.exponentField : Nat) - 1075

/-- The number whose exponent field and fraction together are the bits of `bits`, and infinity
where these exceed the finite numbers. -/
def ofMagnitudeBits (negative : Bool) (bits : Nat) : Binary64 :=
  if bits < 2047 * hiddenBit then
    ⟨negative, Fin.ofNat 2048 (bits / hiddenBit), Fin.ofNat hiddenBit (bits % hiddenBit)⟩
  else infinity negative

/-! ## Rounding -/

/-- `num / den` rounded to the nearest natural number, a tie to the even one. -/
def roundedRatio (num den : Nat) : Nat :=
  let q := num / den
  let r := num % den
  if 2 * r < den then q
  else if 2 * r = den then q + q % 2
  else q + 1

/-- The exponent of the greatest power of two that is at most `num / den`. -/
def floorLog2 (num den : Nat) : Int :=
  let k : Int := (num.log2 : Int) - (den.log2 : Int)
  if den * Nat.pow 2 k.toNat ≤ num * Nat.pow 2 (-k).toNat then k else k - 1

/-- The representable number nearest to `num / den`, with the given sign. -/
def nearest (negative : Bool) (num den : Nat) : Binary64 :=
  if num = 0 then ⟨negative, 0, 0⟩
  else
    let q : Int := max (floorLog2 num den - 52) (-1074)
    let m := roundedRatio (num * Nat.pow 2 (-q).toNat) (den * Nat.pow 2 q.toNat)
    ofMagnitudeBits negative ((q + 1074).toNat * hiddenBit + m)

/-- The number nearest to a natural number. -/
def ofNat (n : Nat) : Binary64 := nearest false n 1

/-- The number nearest to an integer. -/
def ofInt : Int → Binary64
  | .ofNat n => nearest false n 1
  | .negSucc n => nearest true (n + 1) 1

/-! ## Products and quotients -/

/-- The absolute value of a finite number as a fraction. -/
def ratio (x : Binary64) : Nat × Nat :=
  (x.significand * Nat.pow 2 x.exponent.toNat, Nat.pow 2 (-x.exponent).toNat)

/-- The number nearest to the product of two finite numbers. -/
def mul (x y : Binary64) : Binary64 :=
  nearest (x.negative != y.negative) (x.ratio.1 * y.ratio.1) (x.ratio.2 * y.ratio.2)

/-- The number nearest to the quotient of two finite numbers, of which the second is not zero. -/
def div (x y : Binary64) : Binary64 :=
  nearest (x.negative != y.negative) (x.ratio.1 * y.ratio.2) (x.ratio.2 * y.ratio.1)

/-! ## Decimal numbers -/

/-- The number nearest to `digits * 10 ^ exponent`. Exponents far outside the range of the finite
numbers are answered without building the power. -/
def ofDecimal (negative : Bool) (digits : Nat) (exponent : Int) : Binary64 :=
  let size : Int := exponent + (Text.decimalDigits digits).length
  if digits = 0 ∨ size < -400 then ⟨negative, 0, 0⟩
  else if 400 < size then infinity negative
  else nearest negative (digits * Nat.pow 10 exponent.toNat) (Nat.pow 10 (-exponent).toNat)

end Binary64

end SearchRest
