/-
The composed form of texts.

An accented letter can be written as one character or as a letter and marks,
and the marks on one letter in several orders. The composed form chooses one of
these: every character is taken apart, the marks after a letter are put in the
order of their classes, and then each letter takes up the marks that follow
it, as long as no mark of the same class or a later one stands between. Korean
syllables are composed by arithmetic, everything else by tables.
-/
import SearchRest.Text.Composed.Table
import SearchRest.Text.Lowercase

set_option autoImplicit false

namespace SearchRest.Text

/-! ## Characters -/

/-- The class of a character: zero for one that starts anew, and otherwise what decides the order
of marks. -/
def combiningClass (c : Char) : Nat :=
  match combiningClasses.find? fun (_, ranges) => inRanges ranges c.toNat with
  | some (k, _) => k
  | none => 0

/-- The letters of a Korean syllable: one of 19 in front, one of 21 in the middle, and possibly one
of 27 at the end. -/
def syllableParts? (c : Char) : Option (List Char) :=
  if 0xac00 ≤ c.toNat ∧ c.toNat < 0xac00 + 19 * 21 * 28 then
    let n := c.toNat - 0xac00
    let front := Char.ofNat (0x1100 + n / (21 * 28))
    let middle := Char.ofNat (0x1161 + n / 28 % 21)
    if n % 28 = 0 then some [front, middle]
    else some [front, middle, Char.ofNat (0x11a7 + n % 28)]
  else none

/-- The Korean syllable of two letters, or of a syllable without a last letter and that letter. -/
def syllable? (a b : Char) : Option Char :=
  if 0x1100 ≤ a.toNat ∧ a.toNat < 0x1100 + 19 ∧ 0x1161 ≤ b.toNat ∧ b.toNat < 0x1161 + 21 then
    some (Char.ofNat (0xac00 + ((a.toNat - 0x1100) * 21 + (b.toNat - 0x1161)) * 28))
  else if 0xac00 ≤ a.toNat ∧ a.toNat < 0xac00 + 19 * 21 * 28 ∧ (a.toNat - 0xac00) % 28 = 0
      ∧ 0x11a7 < b.toNat ∧ b.toNat < 0x11a7 + 28 then
    some (Char.ofNat (a.toNat + (b.toNat - 0x11a7)))
  else none

/-- What two characters compose. -/
def composition? (a b : Char) : Option Char :=
  match syllable? a b with
  | some c => some c
  | none => do
    let (_, pairs) ← compositions.find? fun (second, _) => second = b.toNat
    let (_, whole) ← pairs.find? fun (first, _) => first = a.toNat
    return Char.ofNat whole

/-- The two parts of a character that two others compose. -/
def compositionParts? (c : Char) : Option (List Char) :=
  compositions.findSome? fun (second, pairs) =>
    (pairs.find? fun (_, whole) => whole = c.toNat).map fun (first, _) =>
      [Char.ofNat first, Char.ofNat second]

/-- What is written for a character that is never written itself. -/
def replacement? (c : Char) : Option (List Char) :=
  match replacements.findSome? fun (first, run) =>
      if first ≤ c.toNat then run[c.toNat - first]? else none with
  | some n => some [Char.ofNat n]
  | none =>
    (separations.find? fun (whole, _) => whole = c.toNat).map fun (_, parts) =>
      parts.map Char.ofNat

/-- The parts of a character, itself if it has none. -/
def parts (c : Char) : List Char :=
  (((syllableParts? c).orElse fun _ => compositionParts? c).orElse fun _ => replacement? c).getD [c]

/-! ## Texts -/

/-- A text with all its characters taken apart. Parts have parts again, down to the third level. -/
def takenApart (cs : List Char) : List Char :=
  ((cs.flatMap parts).flatMap parts).flatMap parts

/-- Puts a character with its class after others, the last one first, of which later classes let it
pass. -/
def place (c : Char × Nat) : List (Char × Nat) → List (Char × Nat)
  | [] => [c]
  | d :: before => if c.2 ≠ 0 ∧ c.2 < d.2 then d :: place c before else c :: d :: before

/-- The characters of a text with their classes, the marks after each letter in order. -/
def ordered (cs : List Char) : List (Char × Nat) :=
  (cs.foldl (fun before c => place (c, combiningClass c) before) []).reverse

/-- Composes what follows the letter `a`, of which the marks so far, the last one first, could not
be taken up; `last` is the class of the last one. -/
def takeUp (a : Char) (marks : List Char) (last : Nat) : List (Char × Nat) → List Char
  | [] => a :: marks.reverse
  | (c, k) :: rest =>
    match if marks.isEmpty ∨ last < k then composition? a c else none with
    | some whole => takeUp whole marks last rest
    | none =>
      if k = 0 then a :: marks.reverse ++ takeUp c [] 0 rest else takeUp a (c :: marks) k rest

/-- **The composed form of a text.** Below the first combining mark there is nothing to compose. -/
def composed (cs : List Char) : List Char :=
  if cs.all fun c => c.toNat < 0x300 then cs
  else
    let marked := ordered (takenApart cs)
    (marked.takeWhile fun c => c.2 ≠ 0).map (·.1) ++
      match marked.dropWhile fun c => c.2 ≠ 0 with
      | [] => []
      | (a, _) :: rest => takeUp a [] 0 rest

end SearchRest.Text
