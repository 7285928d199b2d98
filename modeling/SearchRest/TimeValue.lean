/-
Lengths of time as the server reads them.

A time value is digits and a unit, such as `30s`, or one of `-1` (without
limit) and `0`. The text is kept as it was given. A duration becomes the
number of the longest unit that measures it exactly.
-/
import SearchRest.Duration
import SearchRest.Error
import SearchRest.Json.Stored

set_option autoImplicit false

namespace SearchRest

namespace TimeValue

/-- The units of time values. -/
def units : List String := ["nanos", "micros", "ms", "s", "m", "h", "d"]

/-- Whether a text is a time value. -/
def IsTime (s : String) : Prop :=
  s = "-1" ∨ s = "0" ∨
    (s.toList.takeWhile Text.isDigit ≠ [] ∧
      String.ofList (s.toList.dropWhile Text.isDigit) ∈ units)

instance (s : String) : Decidable (IsTime s) := by unfold IsTime; infer_instance

end TimeValue

/-- **A time value**, as its text. -/
structure TimeValue where
  text : String
  isTime : TimeValue.IsTime text
  deriving DecidableEq

namespace TimeValue

/-- How an error describes time values. -/
def description : String :=
  "a time value such as `30s` (units: " ++ String.intercalate ", " units ++ ") or `-1`/`0`"

/-- Reads a time value. -/
def parse (s : String) : Except RequestError TimeValue :=
  if h : IsTime s then .ok ⟨s, h⟩ else .error (.invalidParameterValue s description)

/-- Without limit. -/
def minusOne : TimeValue := ⟨"-1", .inl rfl⟩

/-- No time at all. -/
def zero : TimeValue := ⟨"0", .inr (.inl rfl)⟩

theorem isTime_decimal (n : Nat) {unit : String} (h : unit ∈ units) :
    IsTime (Text.decimal n ++ unit) := by
  have hunit : unit.toList.takeWhile Text.isDigit = [] ∧
      unit.toList.dropWhile Text.isDigit = unit.toList := by
    simp only [units, List.mem_cons, List.not_mem_nil, or_false] at h
    rcases h with rfl | rfl | rfl | rfl | rfl | rfl | rfl <;> decide
  refine .inr (.inr ?_)
  have hall : ∀ c ∈ Text.decimalDigits n, Text.isDigit c = true :=
    fun c hc => Text.isDigit_of_mem_decimalDigits hc
  rw [String.toList_append, Text.decimal, String.toList_ofList,
    List.takeWhile_append_of_pos hall, List.dropWhile_append_of_pos hall, hunit.1, hunit.2]
  simpa using ⟨Text.decimalDigits_ne_nil n, h⟩

/-- A number of units. -/
def count (n : Nat) (unit : String) (h : unit ∈ units) : TimeValue :=
  ⟨Text.decimal n ++ unit, isTime_decimal n h⟩

/-- A number of seconds. -/
def seconds (n : Nat) : TimeValue := count n "s" (by decide)

/-- A number of milliseconds. -/
def millis (n : Nat) : TimeValue := count n "ms" (by decide)

/-- A number of minutes. -/
def minutes (n : Nat) : TimeValue := count n "m" (by decide)

/-- A number of hours. -/
def hours (n : Nat) : TimeValue := count n "h" (by decide)

/-- A number of days. -/
def days (n : Nat) : TimeValue := count n "d" (by decide)

/-- **A duration**, as the number of the longest unit that measures it exactly. -/
def ofDuration (d : Duration) : TimeValue :=
  let n := d.totalNanos
  if n = 0 then zero
  else if n % 86400000000000 = 0 then count (n / 86400000000000) "d" (by decide)
  else if n % 3600000000000 = 0 then count (n / 3600000000000) "h" (by decide)
  else if n % 60000000000 = 0 then count (n / 60000000000) "m" (by decide)
  else if n % 1000000000 = 0 then count (n / 1000000000) "s" (by decide)
  else if n % 1000000 = 0 then count (n / 1000000) "ms" (by decide)
  else if n % 1000 = 0 then count (n / 1000) "micros" (by decide)
  else count n "nanos" (by decide)

/-- The stored form. -/
def toJson (t : TimeValue) : Json := .text t.text

/-- Reads the stored form. -/
def ofJson? (v : Json) : Option TimeValue := v.asText?.bind fun s => (parse s).toOption

instance : Stored TimeValue where
  ofJson? := ofJson?

end TimeValue

end SearchRest
