/-
Points in time.

A timestamp counts seconds from the beginning of 1970 in universal time, and
nanoseconds beyond them. A leap second is told by a billion nanoseconds or
more, in the last second of a minute. It is written in the internet date
format, with no, three, six or nine digits of a fraction as needed. Reading is
more liberal: blanks may stand around the parts of date and time, days and
times may have one digit, the separators and the zone may be written in
several ways.
-/
import SearchRest.Calendar
import SearchRest.Json.Stored
import SearchRest.Text.Blank

set_option autoImplicit false

namespace SearchRest

/-- Whether seconds and nanoseconds make a timestamp: the date is in a supported year, and only
the last second of a minute may be a leap second. -/
def Timestamp.IsValid (seconds : Int) (nanos : Nat) : Prop :=
  (Date.mk Date.minYear 1 1).toDays * 86400 ≤ seconds ∧
    seconds < ((Date.mk Date.maxYear 12 31).toDays + 1) * 86400 ∧
    nanos < 2000000000 ∧ (1000000000 ≤ nanos → seconds % 60 = 59)

instance (seconds : Int) (nanos : Nat) : Decidable (Timestamp.IsValid seconds nanos) := by
  unfold Timestamp.IsValid; infer_instance

/-- **A point in time.** -/
structure Timestamp where
  /-- The seconds from the beginning of 1970. -/
  seconds : Int
  /-- The nanoseconds beyond the seconds. -/
  nanos : Nat
  valid : Timestamp.IsValid seconds nanos
  deriving DecidableEq

namespace Timestamp

/-- The timestamp of seconds and nanoseconds, if they make one. -/
def make? (seconds : Int) (nanos : Nat) : Option Timestamp :=
  if h : IsValid seconds nanos then some ⟨seconds, nanos, h⟩ else none

/-! ## Writing -/

/-- A year: four digits, or a sign and at least four digits where it is not one of 0 to 9999. -/
def yearText (year : Int) : List Char :=
  let digits := Text.paddedDigits (max 4 (Text.decimalDigits year.natAbs).length) year.natAbs
  if 0 ≤ year ∧ year ≤ 9999 then digits else (if year < 0 then '-' else '+') :: digits

/-- A fraction of a second, with as many digits as it needs, in groups of three. -/
def fractionText (nanos : Nat) : List Char :=
  if nanos = 0 then []
  else if nanos % 1000000 = 0 then '.' :: Text.paddedDigits 3 (nanos / 1000000)
  else if nanos % 1000 = 0 then '.' :: Text.paddedDigits 6 (nanos / 1000)
  else '.' :: Text.paddedDigits 9 nanos

/-- The timestamp with the given name of its zone. -/
def write (t : Timestamp) (zone : String) : String :=
  let date := Date.ofDays (t.seconds.fdiv 86400)
  let second := (t.seconds.fmod 86400).toNat
  let leap := t.nanos / 1000000000
  String.ofList
    (yearText date.year ++ '-' :: Text.paddedDigits 2 date.month ++ '-' ::
      Text.paddedDigits 2 date.day ++ 'T' :: Text.paddedDigits 2 (second / 3600) ++ ':' ::
      Text.paddedDigits 2 (second / 60 % 60) ++ ':' :: Text.paddedDigits 2 (second % 60 + leap) ++
      fractionText (t.nanos % 1000000000) ++ zone.toList)

/-- The timestamp as it is shown, with the offset of its zone. -/
def display (t : Timestamp) : String := t.write "+00:00"

/-- The stored form, with the letter of universal time. -/
def toJson (t : Timestamp) : Json := .text (t.write "Z")

/-! ## Reading -/

/-- Takes a number of at most `width` digits, after blanks. -/
def takeNumber? (width : Nat) (cs : List Char) : Option (Nat × List Char) :=
  let cs := Text.trimStart cs
  let digits := (cs.take width).takeWhile Text.isDigit
  match Text.readDigits Text.maxInteger .tooLarge 0 digits with
  | .ok n => if digits.isEmpty then none else some (n, cs.drop digits.length)
  | .error _ => none

/-- Takes a year, after blanks: up to four digits, or any number of them after a sign. -/
def takeYear? (cs : List Char) : Option (Int × List Char) :=
  let signed (sign : Int) (rest : List Char) : Option (Int × List Char) :=
    match rest with
    | c :: _ =>
      if Text.isDigit c then
        (takeNumber? rest.length rest).bind fun (n, rest) =>
          let year := sign * n
          if -2147483648 ≤ year ∧ year ≤ 2147483647 then some (year, rest) else none
      else none
    | [] => none
  match Text.trimStart cs with
  | '-' :: rest => signed (-1) rest
  | '+' :: rest => signed 1 rest
  | cs => (takeNumber? 4 cs).map fun (n, rest) => (n, rest)

/-- Takes the character `c`, after blanks. -/
def takeMark? (c : Char) (cs : List Char) : Option (List Char) :=
  Text.dropStart? [c] (Text.trimStart cs)

/-- Takes the fraction of a second, in nanoseconds; digits after the ninth are passed over. -/
def takeFraction? : List Char → Option (Nat × List Char)
  | '.' :: rest =>
    let digits := rest.takeWhile Text.isDigit
    if digits.isEmpty then none
    else
      let used := digits.take 9
      let n := used.foldl (fun n c => n * 10 + (Text.digitValue? c).getD 0) 0
      some (n * Nat.pow 10 (9 - used.length), rest.dropWhile Text.isDigit)
  | cs => some (0, cs)

/-- Takes the offset of a zone, in seconds: two digits of hours and two of minutes, with colons or
blanks between them or none. -/
def takeOffset? (cs : List Char) : Option (Int × List Char) :=
  match cs with
  | a :: b :: rest =>
    match Text.digitValue? a, Text.digitValue? b with
    | some a, some b =>
      match rest.dropWhile fun c => c = ':' || Text.isBlank c with
      | c :: d :: rest =>
        match Text.digitValue? c, Text.digitValue? d with
        | some c, some d =>
          if c < 6 then some (((a * 10 + b) * 3600 + (c * 10 + d) * 60 : Nat), rest) else none
        | _, _ => none
      | _ => none
    | _, _ => none
  | _ => none

/-- Takes a zone: the letter or the name of universal time, or an offset with its sign. -/
def takeZone? (cs : List Char) : Option (Int × List Char) :=
  if (cs.take 3).map Char.toLower = ['u', 't', 'c'] then some (0, cs.drop 3)
  else match cs with
    | 'Z' :: rest => some (0, rest)
    | 'z' :: rest => some (0, rest)
    | '+' :: rest => takeOffset? rest
    | '-' :: rest => (takeOffset? rest).map fun (n, rest) => (-n, rest)
    | '\u2212' :: rest => (takeOffset? rest).map fun (n, rest) => (-n, rest)
    | _ => none

/-- Takes the letter or the blank between date and time. -/
def takeMiddle? : List Char → Option (List Char)
  | 'T' :: rest => some rest
  | 't' :: rest => some rest
  | ' ' :: rest => some rest
  | _ => none

/-- Reads a timestamp. -/
def parseChars? (cs : List Char) : Option Timestamp := do
  let (year, cs) ← takeYear? cs
  let cs ← takeMark? '-' cs
  let (month, cs) ← takeNumber? 2 cs
  let cs ← takeMark? '-' cs
  let (day, cs) ← takeNumber? 2 cs
  let cs ← takeMiddle? cs
  let (hour, cs) ← takeNumber? 2 cs
  let cs ← takeMark? ':' cs
  let (minute, cs) ← takeNumber? 2 cs
  let cs ← takeMark? ':' cs
  let (second, cs) ← takeNumber? 2 cs
  let (nanos, cs) ← takeFraction? cs
  let (offset, cs) ← takeZone? (Text.trimStart cs)
  let date : Date := ⟨year, month, day⟩
  if (Text.trimStart cs).isEmpty && date.isValid && hour < 24 && minute < 60 && second ≤ 60
      && -86400 < offset && offset < 86400 then
    let leap := second / 60
    make? (date.toDays * 86400 + hour * 3600 + minute * 60 + (second - leap : Nat) - offset)
      (nanos + leap * 1000000000)
  else none

/-- Reads the stored form. -/
def ofJson? (v : Json) : Option Timestamp := v.asText?.bind fun s => parseChars? s.toList

instance : Stored Timestamp where
  ofJson? := ofJson?

end Timestamp

end SearchRest
