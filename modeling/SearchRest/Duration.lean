/-
Lengths of time in seconds and nanoseconds.

A duration is stored as a record of its two parts, both required and no other
allowed. Nanoseconds beyond a second are carried over.
-/
import SearchRest.Json.Shape

set_option autoImplicit false

namespace SearchRest

/-- **A length of time**: whole seconds that fit 64 bits, and less than a second more. -/
structure Duration where
  seconds : Nat
  /-- The nanoseconds beyond the seconds. -/
  nanos : Nat
  seconds_le : seconds ≤ Text.maxWord
  nanos_lt : nanos < 1000000000
  deriving DecidableEq

namespace Duration

/-- The duration of seconds and any number of nanoseconds, if it is in range. -/
def make? (seconds nanos : Nat) : Option Duration :=
  if h : seconds + nanos / 1000000000 ≤ Text.maxWord then
    some ⟨seconds + nanos / 1000000000, nanos % 1000000000, h, Nat.mod_lt _ (by decide)⟩
  else none

/-- The number of nanoseconds in all. -/
def totalNanos (d : Duration) : Nat := d.seconds * 1000000000 + d.nanos

/-- The record of a duration. -/
def toJson (d : Duration) : Json :=
  .object [("secs", .integer d.seconds), ("nanos", .integer d.nanos)]

/-- Whether a record has no entries but those of a duration. -/
def hasOnlyParts : Json → Bool
  | .object entries => entries.all fun e => e.1 = "secs" || e.1 = "nanos"
  | _ => true

/-- Reads the record of a duration. -/
def ofJson? (v : Json) : Option Duration :=
  if hasOnlyParts v then
    match v.fields? ["secs", "nanos"] with
    | some [some secs, some nanos] =>
      match secs.asNat? Text.maxWord, nanos.asNat? 4294967295 with
      | some s, some n => make? s n
      | _, _ => none
    | _ => none
  else none

end Duration

end SearchRest
