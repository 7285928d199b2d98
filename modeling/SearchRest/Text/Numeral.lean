/-
Decimal numerals: how natural numbers and integers are written and read.

Numbers are written without leading zeros. Reading is more liberal: leading
zeros and a leading `+` are allowed, and a `-` for signed numbers; nothing
else is, blanks and digit separators included. The reader goes from left to
right and reports the first fault it meets, so a numeral that is too large
before its first bad character is too large.
-/

set_option autoImplicit false

namespace SearchRest.Text

/-! ## Writing -/

/-- The digit `d`, for `d < 10`. -/
def digitChar (d : Nat) : Char := Char.ofNat (48 + d)

/-- The decimal digits of `n`, the highest first, and `0` for zero. -/
def decimalDigits (n : Nat) : List Char :=
  if n < 10 then [digitChar n]
  else decimalDigits (n / 10) ++ [digitChar (n % 10)]
termination_by n

/-- The decimal numeral of a natural number. -/
def decimal (n : Nat) : String := String.ofList (decimalDigits n)

/-- The decimal numeral of an integer, with `-` in front of a negative one. -/
def signedDecimal : Int → String
  | .ofNat n => decimal n
  | .negSucc n => String.ofList ('-' :: decimalDigits (n + 1))

/-- The last `width` digits of `n`, with zeros in front where it has fewer. -/
def paddedDigits : Nat → Nat → List Char
  | 0, _ => []
  | width + 1, n => paddedDigits width (n / 10) ++ [digitChar (n % 10)]

/-! ## Reading -/

/-- What is wrong with a numeral. -/
inductive NumeralError where
  /-- There is no character at all. -/
  | empty
  /-- A character is no digit, or a sign stands alone. -/
  | invalidDigit
  /-- The number is above the largest one allowed. -/
  | tooLarge
  /-- The number is below the least one allowed. -/
  | tooSmall
  deriving DecidableEq, Repr

/-- The text of the fault. -/
def NumeralError.message : NumeralError → String
  | .empty => "cannot parse integer from empty string"
  | .invalidDigit => "invalid digit found in string"
  | .tooLarge => "number too large to fit in target type"
  | .tooSmall => "number too small to fit in target type"

/-- The value of an ASCII digit. -/
def digitValue? (c : Char) : Option Nat :=
  if '0' ≤ c ∧ c ≤ '9' then some (c.toNat - 48) else none

/-- Whether the character is an ASCII digit. -/
def isDigit (c : Char) : Bool := (digitValue? c).isSome

theorem isDigit_digitChar {d : Nat} (h : d < 10) : isDigit (digitChar d) = true := by
  have : ∀ d : Fin 10, isDigit (digitChar d) = true := by decide
  exact this ⟨d, h⟩

/-- A numeral is made of digits. -/
theorem isDigit_of_mem_decimalDigits {n : Nat} {c : Char} (h : c ∈ decimalDigits n) :
    isDigit c = true := by
  induction n using Nat.strongRecOn with
  | ind n ih =>
    rw [decimalDigits] at h
    split at h
    · rename_i hn
      rw [List.mem_singleton.1 h]
      exact isDigit_digitChar hn
    · rename_i hn
      rcases List.mem_append.1 h with h | h
      · exact ih (n / 10) (by omega) h
      · rw [List.mem_singleton.1 h]
        exact isDigit_digitChar (Nat.mod_lt _ (by decide))

/-- A numeral has at least one digit. -/
theorem decimalDigits_ne_nil (n : Nat) : decimalDigits n ≠ [] := by
  rw [decimalDigits]
  split <;> simp

/-- Reads digits after those that made `acc`, as long as the number stays at most `most`. -/
def readDigits (most : Nat) (beyond : NumeralError) : Nat → List Char → Except NumeralError Nat
  | acc, [] => .ok acc
  | acc, c :: cs =>
    match digitValue? c with
    | none => .error .invalidDigit
    | some d =>
      if acc * 10 + d ≤ most then readDigits most beyond (acc * 10 + d) cs else .error beyond

/-- Reads a numeral without a sign: at least one digit. -/
def readUnsigned (most : Nat) (beyond : NumeralError) : List Char → Except NumeralError Nat
  | [] => .error .invalidDigit
  | cs => readDigits most beyond 0 cs

/-- Reads a natural number of at most `most`, with an optional `+`. -/
def readNatural (most : Nat) : List Char → Except NumeralError Nat
  | [] => .error .empty
  | '+' :: cs => readUnsigned most .tooLarge cs
  | cs => readUnsigned most .tooLarge cs

/-- Reads an integer between `-least` and `most`, with an optional sign. -/
def readInteger (least most : Nat) : List Char → Except NumeralError Int
  | [] => .error .empty
  | '+' :: cs => (readUnsigned most .tooLarge cs).map Int.ofNat
  | '-' :: cs => (readUnsigned least .tooSmall cs).map fun n => -Int.ofNat n
  | cs => (readUnsigned most .tooLarge cs).map Int.ofNat

/-- The largest 64-bit word. -/
def maxWord : Nat := 18446744073709551615

/-- The largest signed 64-bit integer. -/
def maxInteger : Nat := 9223372036854775807

/-- Reads a 64-bit word. -/
def readWord (s : String) : Except NumeralError Nat := readNatural maxWord s.toList

/-- Reads a signed 64-bit integer. -/
def readInt64 (s : String) : Except NumeralError Int :=
  readInteger (maxInteger + 1) maxInteger s.toList

end SearchRest.Text
