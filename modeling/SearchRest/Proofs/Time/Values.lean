/-
What time values look like, and which one a duration becomes.

The reader takes the digits off the front of a text and looks the rest up among
the units. No unit begins with a digit, so digits and a unit can be told apart in
one way only, and the texts that are read are just those that are made of them,
besides `-1` and `0`. All time values are read back from their texts.

A duration is tried against the units from the longest to the shortest. The first
one that measures it exactly is the longest that does, and since nanoseconds
measure everything, there is one. So nothing of a duration is lost, and two
durations never become the same time value.
-/
import Mathlib.Data.Fintype.Basic
import Mathlib.Data.List.TakeWhile
import SearchRest.Proofs.Json.Rereading
import SearchRest.Proofs.Text.Numeral
import SearchRest.TimeValue

set_option autoImplicit false

namespace SearchRest

/-! ## Units -/

/-- **The units of time.** -/
inductive TimeUnit where
  | day
  | hour
  | minute
  | second
  | millisecond
  | microsecond
  | nanosecond
  deriving DecidableEq

namespace TimeUnit

instance : Fintype TimeUnit where
  elems := {day, hour, minute, second, millisecond, microsecond, nanosecond}
  complete u := by cases u <;> decide

/-- What stands behind the digits. -/
def name : TimeUnit → String
  | day => "d"
  | hour => "h"
  | minute => "m"
  | second => "s"
  | millisecond => "ms"
  | microsecond => "micros"
  | nanosecond => "nanos"

/-- The length in nanoseconds. -/
def nanos : TimeUnit → Nat
  | day => 24 * 60 * 60 * 10 ^ 9
  | hour => 60 * 60 * 10 ^ 9
  | minute => 60 * 10 ^ 9
  | second => 10 ^ 9
  | millisecond => 10 ^ 6
  | microsecond => 10 ^ 3
  | nanosecond => 1

theorem name_injective : Function.Injective name := by
  unfold Function.Injective
  decide

/-- **A unit measures those that are longer.** -/
theorem nanos_dvd_nanos : ∀ {u v : TimeUnit}, u.nanos ≤ v.nanos → u.nanos ∣ v.nanos := by decide

/-- **The unit is the longest one that measures a number of nanoseconds.** -/
structure IsLongest (u : TimeUnit) (n : Nat) : Prop where
  dvd : u.nanos ∣ n
  not_dvd : ∀ v : TimeUnit, u.nanos < v.nanos → ¬ v.nanos ∣ n

/-- It is enough that the next longer unit does not measure the number. -/
theorem IsLongest.of_next {u : TimeUnit} {n : Nat} (v : TimeUnit)
    (hnext : ∀ w : TimeUnit, u.nanos < w.nanos → v.nanos ≤ w.nanos) (hu : n % u.nanos = 0)
    (hv : ¬ n % v.nanos = 0) : u.IsLongest n where
  dvd := Nat.dvd_of_mod_eq_zero hu
  not_dvd w hw hdvd := by
    have hvw : v.nanos ∣ w.nanos := nanos_dvd_nanos (hnext w hw)
    exact hv (Nat.mod_eq_zero_of_dvd (Nat.dvd_trans hvw hdvd))

end TimeUnit

/-! ## The grammar -/

/-- **The texts that the server reads as times**: `-1`, `0`, or at least one digit and a unit. -/
inductive IsServerTime : String → Prop where
  | unlimited : IsServerTime "-1"
  | none : IsServerTime "0"
  | count {ds : List Char} (u : TimeUnit) (hne : ds ≠ []) (hds : ∀ c ∈ ds, '0' ≤ c ∧ c ≤ '9') :
      IsServerTime (String.ofList ds ++ u.name)

namespace TimeValue

theorem mem_units_iff {s : String} : s ∈ units ↔ ∃ u : TimeUnit, u.name = s := by
  constructor
  · intro h
    simp only [units, List.mem_cons, List.not_mem_nil, or_false] at h
    rcases h with rfl | rfl | rfl | rfl | rfl | rfl | rfl
    · exact ⟨.nanosecond, rfl⟩
    · exact ⟨.microsecond, rfl⟩
    · exact ⟨.millisecond, rfl⟩
    · exact ⟨.second, rfl⟩
    · exact ⟨.minute, rfl⟩
    · exact ⟨.hour, rfl⟩
    · exact ⟨.day, rfl⟩
  · rintro ⟨u, rfl⟩
    cases u <;> decide

/-- **Digits and a unit are told apart again.** -/
theorem split_count {ds : List Char} (hds : ∀ c ∈ ds, Text.isDigit c = true) (u : TimeUnit) :
    (String.ofList ds ++ u.name).toList.takeWhile Text.isDigit = ds ∧
      (String.ofList ds ++ u.name).toList.dropWhile Text.isDigit = u.name.toList := by
  -- no unit begins with a digit
  have hunit : u.name.toList.takeWhile Text.isDigit = [] ∧
      u.name.toList.dropWhile Text.isDigit = u.name.toList := by
    cases u <;> decide
  rw [String.toList_append, String.toList_ofList, List.takeWhile_append_of_pos hds,
    List.dropWhile_append_of_pos hds, hunit.1, hunit.2, List.append_nil]
  exact ⟨rfl, rfl⟩

/-- **The reader accepts the grammar.** -/
theorem isTime_iff {s : String} : IsTime s ↔ IsServerTime s := by
  constructor
  · rintro (rfl | rfl | ⟨hne, hunit⟩)
    · exact .unlimited
    · exact .none
    · obtain ⟨u, hu⟩ := mem_units_iff.1 hunit
      have hdigits : ∀ c ∈ s.toList.takeWhile Text.isDigit, '0' ≤ c ∧ c ≤ '9' :=
        fun c hc => Text.isDigit_iff.1 (List.mem_takeWhile_imp hc)
      have hs : String.ofList (s.toList.takeWhile Text.isDigit) ++ u.name = s := by
        rw [hu, ← String.ofList_append, List.takeWhile_append_dropWhile, String.ofList_toList]
      exact hs ▸ .count u hne hdigits
  · intro h
    cases h with
    | unlimited => exact .inl rfl
    | none => exact .inr (.inl rfl)
    | count u hne hds =>
      obtain ⟨hfront, hback⟩ := split_count (fun c hc => Text.isDigit_iff.2 (hds c hc)) u
      refine .inr (.inr ?_)
      rw [hfront, hback, String.ofList_toList]
      exact ⟨hne, mem_units_iff.2 ⟨u, rfl⟩⟩

/-- Every time value is one for the server. -/
theorem isServerTime (t : TimeValue) : IsServerTime t.text := isTime_iff.1 t.isTime

/-- **What is read keeps its text.** -/
theorem parse_eq_ok_iff {s : String} {t : TimeValue} : parse s = .ok t ↔ t.text = s := by
  rw [parse]
  constructor
  · intro h
    split at h
    · obtain rfl := Except.ok.inj h
      rfl
    · cases h
  · rintro rfl
    exact dif_pos t.isTime

theorem parse_eq_error_iff {s : String} {e : RequestError} :
    parse s = .error e ↔ ¬ IsServerTime s ∧ e = .invalidParameterValue s description := by
  rw [parse, ← isTime_iff]
  by_cases h : IsTime s
  · rw [dif_pos h]
    exact iff_of_false (fun heq => nomatch heq) fun hnot => hnot.1 h
  · rw [dif_neg h]
    constructor
    · intro heq
      exact ⟨h, (Except.error.inj heq).symm⟩
    · rintro ⟨-, rfl⟩
      rfl

/-- A stored time value is a text of the grammar. -/
theorem ofJson?_eq_some_iff {v : Json} {t : TimeValue} : ofJson? v = some t ↔ v = t.toJson := by
  rw [ofJson?, Option.bind_eq_some_iff]
  constructor
  · rintro ⟨s, hs, ht⟩
    cases v with
    | text s' =>
      obtain rfl := Option.some.inj hs
      cases hparse : parse s' with
      | ok t' =>
        rw [hparse] at ht
        obtain rfl := Option.some.inj ht
        rw [toJson, parse_eq_ok_iff.1 hparse]
      | error e =>
        rw [hparse] at ht
        cases ht
    | _ => cases hs
  · rintro rfl
    refine ⟨t.text, rfl, ?_⟩
    rw [parse_eq_ok_iff.2 rfl]
    rfl

/-- **A time value is read back from the text of its stored form.** -/
theorem read?_write_toJson (t : TimeValue) : Stored.read? t.toJson.write = some t := by
  rw [Stored.read?_write rfl t.toJson trivial (Nat.zero_le _)]
  exact ofJson?_eq_some_iff.2 rfl

/-! ## Counts of units -/

/-- **The digits are the numeral of a number**, without zeros in front. -/
structure IsNumeral (n : Nat) (ds : List Char) : Prop where
  digits : ∀ c ∈ ds, '0' ≤ c ∧ c ≤ '9'
  value : digitsValue ds = n
  head?_ne : ds.head? ≠ some '0'

theorem isNumeral_decimalDigits {n : Nat} (h : 0 < n) : IsNumeral n (Text.decimalDigits n) where
  digits _ hc := Text.isDigit_iff.1 (Text.isDigit_of_mem_decimalDigits hc)
  value := digitsValue_decimalDigits n
  head?_ne := Text.head?_decimalDigits h

theorem split_decimal (n : Nat) (u : TimeUnit) :
    (Text.decimal n ++ u.name).toList.takeWhile Text.isDigit = Text.decimalDigits n ∧
      (Text.decimal n ++ u.name).toList.dropWhile Text.isDigit = u.name.toList :=
  split_count (fun _ hc => Text.isDigit_of_mem_decimalDigits hc) u

/-- **A count tells its number and its unit.** -/
theorem decimal_append_name_inj {n m : Nat} {u v : TimeUnit}
    (h : Text.decimal n ++ u.name = Text.decimal m ++ v.name) : n = m ∧ u = v := by
  obtain ⟨hn, hu⟩ := split_decimal n u
  obtain ⟨hm, hv⟩ := split_decimal m v
  rw [h] at hn hu
  constructor
  · rw [← digitsValue_decimalDigits n, ← hn, hm, digitsValue_decimalDigits]
  · exact TimeUnit.name_injective (String.toList_inj.1 (hu.symm.trans hv))

/-- A zero without a unit is no count. -/
theorem decimal_append_name_ne_zero (n : Nat) (u : TimeUnit) :
    Text.decimal n ++ u.name ≠ "0" := by
  intro h
  have hunit := (split_decimal n u).2
  rw [h] at hunit
  cases u <;> exact absurd hunit (by decide)

end TimeValue

/-! ## Durations -/

theorem Duration.totalNanos_injective : Function.Injective totalNanos := by
  rintro ⟨s, n, hs, hn⟩ ⟨s', n', hs', hn'⟩ h
  have htotal : s * 1000000000 + n = s' * 1000000000 + n' := h
  obtain rfl : s = s' := by omega
  obtain rfl : n = n' := by omega
  rfl

namespace TimeValue

/-- **A duration is counted in the longest unit that measures it.** -/
theorem exists_text_ofDuration {d : Duration} {n : Nat} (hn : d.totalNanos = n) (hne : n ≠ 0) :
    ∃ u : TimeUnit, u.IsLongest n ∧
      (ofDuration d).text = Text.decimal (n / u.nanos) ++ u.name := by
  simp only [ofDuration, hn, if_neg hne]
  -- each unit is tried where the next longer one has failed
  split_ifs with hday hhour hminute hsecond hmilli hmicro
  · refine ⟨.day, ⟨Nat.dvd_of_mod_eq_zero hday, fun v hv => ?_⟩, rfl⟩
    cases v <;> exact absurd hv (by decide)
  · exact ⟨.hour, .of_next .day (by decide) hhour hday, rfl⟩
  · exact ⟨.minute, .of_next .hour (by decide) hminute hhour, rfl⟩
  · exact ⟨.second, .of_next .minute (by decide) hsecond hminute, rfl⟩
  · exact ⟨.millisecond, .of_next .second (by decide) hmilli hsecond, rfl⟩
  · exact ⟨.microsecond, .of_next .millisecond (by decide) hmicro hmilli, rfl⟩
  · refine ⟨.nanosecond, .of_next .microsecond (by decide) (Nat.mod_one n) hmicro, ?_⟩
    rw [show TimeUnit.nanosecond.nanos = 1 from rfl, Nat.div_one]
    rfl

theorem text_ofDuration_of_zero {d : Duration} (h : d.totalNanos = 0) :
    (ofDuration d).text = "0" := by
  simp only [ofDuration, h, if_pos]
  rfl

/-- **Different durations are different time values.** -/
theorem ofDuration_injective : Function.Injective ofDuration := by
  intro d d' h
  refine Duration.totalNanos_injective ?_
  obtain ⟨n, hn⟩ : ∃ n, d.totalNanos = n := ⟨_, rfl⟩
  obtain ⟨m, hm⟩ : ∃ m, d'.totalNanos = m := ⟨_, rfl⟩
  rw [hn, hm]
  have htext : (ofDuration d).text = (ofDuration d').text := congrArg text h
  rcases eq_or_ne n 0 with rfl | hn0 <;> rcases eq_or_ne m 0 with rfl | hm0
  · rfl
  -- zero has no unit, and anything else has one
  · obtain ⟨u, -, hu⟩ := exists_text_ofDuration hm hm0
    rw [text_ofDuration_of_zero hn, hu] at htext
    exact absurd htext.symm (decimal_append_name_ne_zero _ u)
  · obtain ⟨u, -, hu⟩ := exists_text_ofDuration hn hn0
    rw [text_ofDuration_of_zero hm, hu] at htext
    exact absurd htext (decimal_append_name_ne_zero _ u)
  · obtain ⟨u, hlongest, hu⟩ := exists_text_ofDuration hn hn0
    obtain ⟨v, hlongest', hv⟩ := exists_text_ofDuration hm hm0
    rw [hu, hv] at htext
    obtain ⟨hcount, rfl⟩ := decimal_append_name_inj htext
    rw [← Nat.div_mul_cancel hlongest.dvd, hcount, Nat.div_mul_cancel hlongest'.dvd]

/-- **A duration is told exactly.** No time at all becomes `0`. Any other duration becomes the numeral
of a number above zero and a unit: so many of these units are just the duration, and no longer unit
measures it. The nanoseconds that are counted fit 128 bits. The time value is read back from its
text, and no other duration becomes the same one. -/
theorem ofDuration_exact (d : Duration) :
    d.seconds * 10 ^ 9 + d.nanos < 2 ^ 128 ∧
    (d.seconds = 0 ∧ d.nanos = 0 ∧ (ofDuration d).text = "0" ∨
      ∃ (n : Nat) (ds : List Char) (u : TimeUnit), 1 ≤ n ∧ IsNumeral n ds ∧
        (ofDuration d).text = String.ofList ds ++ u.name ∧
        n * u.nanos = d.seconds * 10 ^ 9 + d.nanos ∧
        u.IsLongest (d.seconds * 10 ^ 9 + d.nanos)) ∧
    parse (ofDuration d).text = .ok (ofDuration d) ∧
    ∀ d' : Duration, ofDuration d' = ofDuration d ↔ d' = d := by
  obtain ⟨n, hn⟩ : ∃ n, d.totalNanos = n := ⟨_, rfl⟩
  have htotal : d.seconds * 10 ^ 9 + d.nanos = n := hn
  have hmax : Text.maxWord = 2 ^ 64 - 1 := by decide
  refine ⟨?_, ?_, parse_eq_ok_iff.2 rfl, fun d' => ofDuration_injective.eq_iff⟩
  · have := d.seconds_le
    have := d.nanos_lt
    omega
  rw [htotal]
  by_cases hne : n = 0
  · have hzero : d.seconds = 0 ∧ d.nanos = 0 := by omega
    exact .inl ⟨hzero.1, hzero.2, text_ofDuration_of_zero (hn.trans hne)⟩
  · obtain ⟨u, hlongest, htext⟩ := exists_text_ofDuration hn hne
    have hcount : n / u.nanos * u.nanos = n := Nat.div_mul_cancel hlongest.dvd
    have hpos : 0 < n / u.nanos := by
      refine Nat.pos_of_ne_zero fun hzero => hne ?_
      rw [← hcount, hzero, Nat.zero_mul]
    exact .inr ⟨_, _, u, hpos, isNumeral_decimalDigits hpos, htext, hcount, hlongest⟩

example : (ofDuration ⟨5400, 0, by decide, by decide⟩).text = "90m" := by decide +kernel

end TimeValue

end SearchRest
