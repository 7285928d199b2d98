/-
The lexemes of a JSON text.

A JSON text is cut into brackets, separators and scalars by a scanner that
takes one character at a time, so that scanning two texts one after the other
is scanning their concatenation. Strings come out with their escapes replaced,
and numbers come out read. A string with an escaped surrogate that is not one
of a pair, or a number out of range, is well formed but has no value; what it
means is left to the reader.
-/
import SearchRest.Json.Numeral
import SearchRest.Text.Percent

set_option autoImplicit false

namespace SearchRest

namespace Json

/-- **A lexeme.** -/
inductive Lexeme where
  /-- The bracket that begins a list. -/
  | openArray
  /-- The bracket that ends a list. -/
  | closeArray
  /-- The brace that begins an object. -/
  | openObject
  /-- The brace that ends an object. -/
  | closeObject
  /-- The mark between items or entries. -/
  | comma
  /-- The mark between a key and its value. -/
  | colon
  /-- A value without parts. -/
  | scalar (v : Json)
  /-- A string without a value. -/
  | flawedText
  /-- A number without a value. -/
  | flawedNumber

namespace Lexeme

/-- What the scanner is inside of. Characters are collected the last one first. -/
inductive Mode where
  | between
  /-- In a literal of letters. -/
  | word (letters : List Char)
  /-- In a number. -/
  | numeral (chars : List Char)
  /-- In a string, of which the code points are collected. -/
  | text (units : List Nat)
  /-- In a string, after a backslash. -/
  | escape (units : List Nat)
  /-- In an escape by code unit, of which `left` digits are still to come. -/
  | unit (units : List Nat) (left value : Nat)

/-- **The state of the scanner**: what it is inside of, and the lexemes so far, the last one
first. -/
structure Scanner where
  /-- What the scanner is inside of. -/
  mode : Mode
  found : List Lexeme

/-- The literal of the letters. -/
def literal? (letters : List Char) : Option Json :=
  if letters = "null".toList then some .null
  else if letters = "true".toList then some (.bool true)
  else if letters = "false".toList then some (.bool false)
  else none

/-! ## Strings -/

/-- Whether a code unit is the first one of a pair. -/
def isLead (u : Nat) : Bool := 0xd800 ≤ u && u ≤ 0xdbff

/-- Whether a code unit is the second one of a pair. -/
def isTrail (u : Nat) : Bool := 0xdc00 ≤ u && u ≤ 0xdfff

/-- The characters of code points, of which two may be the units of a pair. Nothing if a unit of a
pair stands alone. -/
def joinUnits? : List Nat → Option (List Char)
  | [] => some []
  | u :: rest =>
    if isLead u then
      match rest with
      | v :: rest =>
        if isTrail v then
          (joinUnits? rest).map
            (Char.ofNat (0x10000 + (u - 0xd800) * 0x400 + (v - 0xdc00)) :: ·)
        else none
      | [] => none
    else if isTrail u then none
    else (joinUnits? rest).map (Char.ofNat u :: ·)

/-- The lexeme of a string. -/
def ofUnits (units : List Nat) : Lexeme :=
  match joinUnits? units with
  | some cs => scalar (.text (String.ofList cs))
  | none => flawedText

/-- The lexeme of a number. -/
def ofNumeral (x : Numeral) : Lexeme :=
  match x.value? with
  | some n => scalar (.number n)
  | none => flawedNumber

/-! ## Scanning -/

/-- White space between lexemes: the blank, the tab and the two line ends. -/
def isSpace (c : Char) : Bool := c = ' ' || c = '\t' || c = '\n' || c = '\r'

/-- Whether a number may hold the character. -/
def isNumeral (c : Char) : Bool :=
  Text.isDigit c || c = '-' || c = '+' || c = '.' || c = 'e' || c = 'E'

/-- Takes a character that begins a lexeme or stands between two. -/
def begin? (found : List Lexeme) (c : Char) : Option Scanner :=
  if isSpace c then some ⟨.between, found⟩
  else match c with
    | '[' => some ⟨.between, openArray :: found⟩
    | ']' => some ⟨.between, closeArray :: found⟩
    | '\x7b' => some ⟨.between, openObject :: found⟩
    | '\x7d' => some ⟨.between, closeObject :: found⟩
    | ',' => some ⟨.between, comma :: found⟩
    | ':' => some ⟨.between, colon :: found⟩
    | '"' => some ⟨.text [], found⟩
    | c =>
      if c = '-' ∨ Text.isDigit c then some ⟨.numeral [c], found⟩
      else if c.isAlpha then some ⟨.word [c], found⟩
      else none

/-- Ends the literal or number that the scanner is in, if it is in one. -/
def finish? (s : Scanner) : Option (List Lexeme) :=
  match s.mode with
  | .between => some s.found
  | .word letters => (literal? letters.reverse).map fun v => scalar v :: s.found
  | .numeral chars => (Numeral.parse? chars.reverse).map fun x => ofNumeral x :: s.found
  | _ => none

/-- The character that a one-letter escape stands for. -/
def escaped? (c : Char) : Option Char :=
  match c with
  | '"' => some '"'
  | '\\' => some '\\'
  | '/' => some '/'
  | 'b' => some '\x08'
  | 'f' => some '\x0c'
  | 'n' => some '\n'
  | 'r' => some '\r'
  | 't' => some '\t'
  | _ => none

/-- **Takes one character.** -/
def step (s : Scanner) (c : Char) : Option Scanner :=
  match s.mode with
  | .between => begin? s.found c
  | .word letters =>
    if c.isAlpha then some { s with mode := .word (c :: letters) }
    else (finish? s).bind fun found => begin? found c
  | .numeral chars =>
    if isNumeral c then some { s with mode := .numeral (c :: chars) }
    else (finish? s).bind fun found => begin? found c
  | .text units =>
    if c = '"' then some ⟨.between, ofUnits units.reverse :: s.found⟩
    else if c = '\\' then some { s with mode := .escape units }
    else if c.toNat < 0x20 then none
    else some { s with mode := .text (c.toNat :: units) }
  | .escape units =>
    if c = 'u' then some { s with mode := .unit units 4 0 }
    else (escaped? c).map fun e => { s with mode := .text (e.toNat :: units) }
  | .unit units left value =>
    (Text.hexValue? c).map fun d =>
      if 1 < left then { s with mode := .unit units (left - 1) (value * 16 + d) }
      else { s with mode := .text ((value * 16 + d) :: units) }

/-- The lexemes of a text. -/
def scan? (cs : List Char) : Option (List Lexeme) :=
  ((cs.foldlM step ⟨.between, []⟩).bind finish?).map List.reverse

end Lexeme

end Json

end SearchRest
