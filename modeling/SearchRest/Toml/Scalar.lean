/-
The scalars of configuration files: strings, numbers, truth values and dates.

Strings come in four forms: in double quotes with escapes or in single quotes
without, and each on one line or, in triple quotes, on several. Numbers and
dates are read off a whole word at once. Line ends are single line feeds here.
-/
import SearchRest.Calendar
import SearchRest.Decimal.Reading
import SearchRest.Text.Percent
import SearchRest.Text.Pieces
import SearchRest.Toml.Basic

set_option autoImplicit false

namespace SearchRest.Toml

/-! ## Strings -/

/-- Whether a character may not stand in a string or a comment. -/
def isControl (c : Char) : Bool := (c.toNat < 0x20 && c ≠ '\t') || c.toNat = 0x7f

/-- The character of hexadecimal digits, if they are the code of one. -/
def ofHex? (digits : List Char) : Option Char := do
  let n ← digits.foldlM (fun n c => (Text.hexValue? c).map fun d => n * 16 + d) 0
  if n < 0xd800 ∨ (0xdfff < n ∧ n < 0x110000) then some (Char.ofNat n) else none

/-- Takes an escape after its backslash: a letter, or four or eight digits. -/
def takeEscape? : List Char → Option (Char × List Char)
  | 'b' :: r => some ('\x08', r)
  | 't' :: r => some ('\t', r)
  | 'n' :: r => some ('\n', r)
  | 'f' :: r => some ('\x0c', r)
  | 'r' :: r => some ('\r', r)
  | '"' :: r => some ('"', r)
  | '\\' :: r => some ('\\', r)
  | 'u' :: r => if r.length < 4 then none else (ofHex? (r.take 4)).map fun c => (c, r.drop 4)
  | 'U' :: r => if r.length < 8 then none else (ofHex? (r.take 8)).map fun c => (c, r.drop 8)
  | _ => none

/-- How many characters an escape takes after its backslash. -/
def escapeSize : List Char → Nat
  | 'u' :: _ => 5
  | 'U' :: _ => 9
  | _ => 1

/-- Takes the rest of a string on one line, up to its closing quote. The first `skip` characters
belong to an escape that is already read. -/
def takeBasic? : Nat → List Char → Option (List Char × List Char)
  | _, [] => none
  | skip + 1, _ :: cs => takeBasic? skip cs
  | 0, '"' :: cs => some ([], cs)
  | 0, '\\' :: cs =>
    (takeEscape? cs).bind fun (e, _) =>
      (takeBasic? (escapeSize cs) cs).map fun (s, rest) => (e :: s, rest)
  | 0, c :: cs =>
    if isControl c then none else (takeBasic? 0 cs).map fun (s, rest) => (c :: s, rest)

/-- Takes the rest of a string in single quotes on one line. -/
def takeLiteral? : List Char → Option (List Char × List Char)
  | [] => none
  | c :: cs =>
    if c = '\x27' then some ([], cs)
    else if isControl c then none
    else (takeLiteral? cs).map fun (s, rest) => (c :: s, rest)

/-- **What a string on several lines is inside of.** -/
inductive Fold where
  /-- Text, after that many quotes in a row. -/
  | quotes (n : Nat)
  /-- An escape that is already read, of which that many characters are left. -/
  | escape (n : Nat)
  /-- Blanks after a backslash at the end of a line, before or after the line end. -/
  | blanks (afterLine : Bool)

/-- Takes the rest of a string on several lines, up to its three closing quotes, before which one
or two more quotes may stand. A backslash at the end of a line drops all blanks and line ends that
follow. -/
def takeFolded? (quote : Char) (escapes : Bool) : Fold → List Char →
    Option (List Char × List Char)
  | .quotes n, [] => if 3 ≤ n then some (List.replicate (n - 3) quote, []) else none
  | _, [] => none
  | .escape (n + 1), _ :: cs =>
    takeFolded? quote escapes (if n = 0 then .quotes 0 else .escape n) cs
  | .escape 0, _ :: _ => none
  | .blanks afterLine, c :: cs =>
    if c = ' ' ∨ c = '\t' then takeFolded? quote escapes (.blanks afterLine) cs
    else if c = '\n' then takeFolded? quote escapes (.blanks true) cs
    else if afterLine then text 0 c cs
    else none
  | .quotes n, c :: cs => text n c cs
where
  /-- Takes a character of the text, after `n` quotes in a row. -/
  text (n : Nat) (c : Char) (cs : List Char) : Option (List Char × List Char) :=
    let before (s : List Char) : List Char := List.replicate n quote ++ s
    if c = quote then
      if n = 4 then some (List.replicate 2 quote, cs)
      else takeFolded? quote escapes (.quotes (n + 1)) cs
    else if 3 ≤ n then some (List.replicate (n - 3) quote, c :: cs)
    else if c = '\\' ∧ escapes then
      match takeEscape? cs with
      | some (e, _) =>
        (takeFolded? quote escapes (.escape (escapeSize cs)) cs).map
          fun (s, rest) => (before (e :: s), rest)
      | none =>
        (takeFolded? quote escapes (.blanks false) cs).map fun (s, rest) => (before s, rest)
    else if isControl c ∧ c ≠ '\n' then none
    else (takeFolded? quote escapes (.quotes 0) cs).map fun (s, rest) => (before (c :: s), rest)

/-- Takes a string on several lines after its opening quotes. A line end right after these does
not belong to it. -/
def takeLines? (quote : Char) (escapes : Bool) (cs : List Char) :
    Option (List Char × List Char) :=
  match cs with
  | '\n' :: rest => takeFolded? quote escapes (.quotes 0) rest
  | cs => takeFolded? quote escapes (.quotes 0) cs

/-! ## Numbers -/

/-- The digits without the underscores that stand between two of them. -/
def plainDigits? (isDigit : Char → Bool) : List Char → Option (List Char)
  | [] => none
  | [c] => if isDigit c then some [c] else none
  | c :: '_' :: cs =>
    if isDigit c ∧ !cs.isEmpty then (plainDigits? isDigit cs).map (c :: ·) else none
  | c :: cs => if isDigit c then (plainDigits? isDigit cs).map (c :: ·) else none

/-- A sign, and what stands after it. -/
def takeSign : List Char → Bool × List Char
  | '-' :: cs => (true, cs)
  | '+' :: cs => (false, cs)
  | cs => (false, cs)

/-- Decimal digits without a needless zero in front. -/
def wholeDigits? (cs : List Char) : Option (List Char) :=
  if cs.head? = some '0' ∧ 1 < cs.length then none else plainDigits? Text.isDigit cs

/-- The integer, if it has 64 bits with sign. -/
def inRange? (n : Int) : Option Int :=
  if -((Text.maxInteger : Int) + 1) ≤ n ∧ n ≤ Text.maxInteger then some n else none

/-- The value of digits of a base. -/
def inBase? (base : Nat) (cs : List Char) : Option Int :=
  let isDigit (c : Char) : Bool := match Text.hexValue? c with
    | some d => d < base
    | none => false
  (plainDigits? isDigit cs).bind fun digits =>
    let n : Nat := digits.foldl (fun n c => n * base + (Text.hexValue? c).getD 0) 0
    inRange? n

/-- Reads an integer, in decimal or in another base after its mark. -/
def readInteger? (cs : List Char) : Option Int :=
  match cs with
  | '0' :: 'x' :: rest => inBase? 16 rest
  | '0' :: 'o' :: rest => inBase? 8 rest
  | '0' :: 'b' :: rest => inBase? 2 rest
  | cs =>
    let (negative, rest) := takeSign cs
    (wholeDigits? rest).bind fun digits =>
      inRange? (if negative then -(digitsValue digits : Int) else digitsValue digits)

/-- Reads an exponent after its mark. -/
def readExponent? (cs : List Char) : Option Int :=
  let (negative, rest) := takeSign cs
  (plainDigits? Text.isDigit rest).map fun digits =>
    if negative then -(digitsValue digits : Int) else digitsValue digits

/-- Reads a floating-point number: a whole part, and a fraction or an exponent or both. -/
def readFloat? (cs : List Char) : Option Binary64 :=
  let (negative, rest) := takeSign cs
  if rest = "inf".toList then some (.infinity negative)
  else if rest = "nan".toList then some { Binary64.nan with negative := negative }
  else
    let isMark (c : Char) : Bool := c = 'e' || c = 'E'
    let mantissa := rest.takeWhile fun c => !isMark c
    let exponent := match rest.dropWhile fun c => !isMark c with
      | [] => some 0
      | _ :: e => readExponent? e
    let parts := Text.pieces '.' mantissa
    let digits := match parts with
      | [whole] => if mantissa.length < rest.length then (wholeDigits? whole).map (·, []) else none
      | [whole, part] =>
        (wholeDigits? whole).bind fun w => (plainDigits? Text.isDigit part).map (w, ·)
      | _ => none
    match digits, exponent with
    | some (whole, part), some e =>
      (some (Binary64.ofDecimal negative (digitsValue (whole ++ part)) (e - part.length))).filter
        Binary64.isFinite
    | _, _ => none

/-! ## Dates -/

/-- The number of exactly so many digits. -/
def number? (width : Nat) (cs : List Char) : Option Nat :=
  if cs.length = width ∧ cs.all Text.isDigit then some (digitsValue cs) else none

/-- Whether this is a date. -/
def isDate (cs : List Char) : Bool :=
  match Text.pieces '-' cs with
  | [y, m, d] =>
    match number? 4 y, number? 2 m, number? 2 d with
    | some y, some m, some d => (Date.mk y m d).isValid
    | _, _, _ => false
  | _ => false

/-- The normal form of a fraction of a second: at most nine digits, without zeros at the end. -/
def fraction? (cs : List Char) : Option (List Char) :=
  if cs.isEmpty ∨ !cs.all Text.isDigit then none
  else match Text.dropEndWhile (· = '0') (cs.take 9) with
    | [] => some []
    | digits => some ('.' :: digits)

/-- The normal form of a time of day. -/
def time? (cs : List Char) : Option (List Char) := do
  let (clock, tail) ← match Text.cutFirst '.' cs with
    | some (clock, fraction) => (fraction? fraction).map (clock, ·)
    | none => some (cs, [])
  match Text.pieces ':' clock with
  | [h, m, s] => do
    let hour ← number? 2 h
    let minute ← number? 2 m
    let second ← number? 2 s
    if hour < 24 ∧ minute < 60 ∧ second ≤ 60 then some (clock ++ tail) else none
  | _ => none

/-- Whether this is the offset of a zone, after its sign. -/
def isOffset (cs : List Char) : Bool :=
  match Text.pieces ':' cs with
  | [h, m] =>
    match number? 2 h, number? 2 m with
    | some h, some m => h < 24 && m < 60
    | _, _ => false
  | _ => false

/-- The normal form of a time of day, with a zone if there is one. -/
def zonedTime? (cs : List Char) : Option (List Char) :=
  let isSign (c : Char) : Bool := c = '+' || c = '-'
  match Text.dropLast? 'Z' cs, Text.dropLast? 'z' cs with
  | some front, _ => (time? front).map (· ++ ['Z'])
  | _, some front => (time? front).map (· ++ ['Z'])
  | _, _ =>
    match cs.dropWhile fun c => !isSign c with
    | [] => time? cs
    | sign :: offset =>
      if isOffset offset then
        let sign := if offset = "00:00".toList then '+' else sign
        (time? (cs.takeWhile fun c => !isSign c)).map (· ++ sign :: offset)
      else none

/-- The normal form of a date, a time of day, or a date and a time. -/
def dateTime? (cs : List Char) : Option (List Char) :=
  if isDate cs then some cs
  else match cs.drop 10 with
    | c :: rest =>
      if (c = 'T' ∨ c = 't' ∨ c = ' ') ∧ isDate (cs.take 10) then
        (zonedTime? rest).map fun t => cs.take 10 ++ 'T' :: t
      else time? cs
    | [] => time? cs

/-! ## Words -/

/-- Whether a word that is no string may hold the character. -/
def isWordChar (c : Char) : Bool :=
  c.isAlphanum || c = '+' || c = '-' || c = '_' || c = '.' || c = ':'

/-- Takes a word. A date and a time may have a blank between them. -/
def takeWord (cs : List Char) : List Char × List Char :=
  let word := cs.takeWhile isWordChar
  match isDate word, cs.dropWhile isWordChar with
  | true, ' ' :: c :: rest =>
    if Text.isDigit c then
      (word ++ ' ' :: (c :: rest).takeWhile isWordChar, (c :: rest).dropWhile isWordChar)
    else (word, ' ' :: c :: rest)
  | _, rest => (word, rest)

/-- Reads a word. -/
def readWord? (cs : List Char) : Option Toml :=
  if cs = "true".toList then some (.bool true)
  else if cs = "false".toList then some (.bool false)
  else match dateTime? cs with
    | some t => some (.date (String.ofList t))
    | none => (readInteger? cs).elim ((readFloat? cs).map .float) fun n => some (.integer n)

end SearchRest.Toml
