/-
International host names with ASCII letters.

A label keeps its ASCII characters; the others are described after a hyphen,
in the order of their code points, by how far it is from one to the next. The
distances are numbers whose digits have weights that adapt to the distances
before them. `encode` writes this form and `decode?` reads it.
-/
import SearchRest.Text.Pieces

set_option autoImplicit false

namespace SearchRest.Punycode

/-! ## Digits -/

/-- The digit of a value below 36: letters first, then decimal digits. -/
def digit (n : Nat) : Char := if n < 26 then Char.ofNat (97 + n) else Char.ofNat (22 + n)

/-- The value of a digit. -/
def digitValue? (c : Char) : Option Nat :=
  if 'a' ≤ c ∧ c ≤ 'z' then some (c.toNat - 97)
  else if '0' ≤ c ∧ c ≤ '9' then some (c.toNat - 22)
  else none

/-- The threshold of the digit at the position `k`: at least 1, at most 26. -/
def threshold (k bias : Nat) : Nat := min (max (k - bias) 1) 26

/-- The digits of a distance, the least one first, from the position `k` on. -/
def digits (bias k q : Nat) : List Char :=
  if h : q < threshold k bias then [digit q]
  else
    let t := threshold k bias
    digit (t + (q - t) % (36 - t)) :: digits bias (k + 36) ((q - t) / (36 - t))
termination_by q
decreasing_by
  have ht : 1 ≤ threshold k bias ∧ threshold k bias ≤ 26 := by unfold threshold; omega
  calc (q - threshold k bias) / (36 - threshold k bias)
      ≤ q - threshold k bias := Nat.div_le_self _ _
    _ < q := by omega

/-- Divides a distance until it is small; answers the number of divisions and the rest. -/
def reduce (delta : Nat) : Nat × Nat :=
  if 455 < delta then
    let (n, rest) := reduce (delta / 35)
    (n + 1, rest)
  else (0, delta)
termination_by delta

/-- The bias after a distance, when `count` characters are written. -/
def adapt (delta count : Nat) (first : Bool) : Nat :=
  let delta := if first then delta / 700 else delta / 2
  let (n, rest) := reduce (delta + delta / count)
  36 * n + 36 * rest / (rest + 38)

/-! ## Writing -/

/-- **How far the description of a label has come.** -/
structure Progress where
  /-- The distance so far. -/
  delta : Nat
  /-- The number of characters written. -/
  count : Nat
  /-- The bias of the next distance. -/
  bias : Nat
  /-- The digits so far. -/
  output : List Char

/-- Passes one character of the label while the code point `n` is described. -/
def pass (basic n : Nat) (p : Progress) (c : Nat) : Progress :=
  if c < n then { p with delta := p.delta + 1 }
  else if c = n then
    ⟨0, p.count + 1, adapt p.delta (p.count + 1) (p.count = basic),
      p.output ++ digits p.bias 36 p.delta⟩
  else p

/-- Describes the code points of a list, the first of which is at least `n`. -/
def describe (basic : Nat) (codes : List Nat) : Nat → List Nat → Progress → Progress
  | _, [], p => p
  | n, m :: ms, p =>
    let p := { p with delta := p.delta + (m - n) * (p.count + 1) }
    let p := codes.foldl (pass basic m) p
    describe basic codes (m + 1) ms { p with delta := p.delta + 1 }

/-- **The ASCII form of a label**, without the mark in front. -/
def encode (label : List Char) : List Char :=
  let codes := label.map Char.toNat
  let basic := label.filter fun c => c.toNat < 128
  let others := ((codes.filter fun c => 128 ≤ c).mergeSort (· ≤ ·)).eraseDups
  let start : Progress := ⟨0, basic.length, 72, if basic.isEmpty then [] else basic ++ ['-']⟩
  (describe basic.length codes 128 others start).output

/-! ## Reading -/

/-- **How far a label has been restored.** -/
structure Restored where
  /-- The characters so far. -/
  label : List Char
  /-- The code point of the next one, at least. -/
  code : Nat
  /-- The place of the next one, at least. -/
  place : Nat
  /-- The bias of the next distance. -/
  bias : Nat

/-- Goes on by a distance: puts the next character into its place. The count of places and the code
points are run through together, the places first. -/
def Restored.add? (p : Restored) (distance : Nat) : Option Restored :=
  let count := p.label.length + 1
  let n := p.place + distance
  let code := p.code + n / count
  if code.isValidChar then
    some ⟨p.label.take (n % count) ++ Char.ofNat code :: p.label.drop (n % count), code,
      n % count + 1, adapt distance count (p.place = 0)⟩
  else none

/-- Reads distances to the end. Of the one that is being read, the digits so far amount to
`distance`, and the digit at the position `k` has the weight `weight`. -/
def restore? (p : Restored) (k weight distance : Nat) : List Char → Option (List Char)
  | [] => if k = 36 then some p.label else none
  | c :: cs =>
    match digitValue? c with
    | none => none
    | some d =>
      let distance := distance + d * weight
      let t := threshold k p.bias
      if d < t then (p.add? distance).bind fun p => restore? p 36 1 0 cs
      else restore? p (k + 36) (weight * (36 - t)) distance cs

/-- **The label with the given ASCII form**, which has no mark in front. -/
def decode? (cs : List Char) : Option (List Char) :=
  match Text.cutFirst '-' cs.reverse with
  | some (digits, basic) =>
    if basic.isEmpty then none else restore? ⟨basic.reverse, 128, 0, 72⟩ 36 1 0 digits.reverse
  | none => restore? ⟨[], 128, 0, 72⟩ 36 1 0 cs

end SearchRest.Punycode
