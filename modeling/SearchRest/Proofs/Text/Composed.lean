/-
Texts that are in their composed form.

To compose a text, its characters are taken apart, the marks are put in order and
letters take up the marks behind them. There are characters that none of this
concerns: they have no parts, are no marks, and nothing in front of them takes them
up. A text that only holds such characters is composed as it stands.
-/
import Mathlib.Data.List.Basic
import SearchRest.Text.Composed

set_option autoImplicit false

namespace SearchRest.Text

/-! ## Ranges -/

/-- A code point is in none of the ranges if they all keep out of a range that it is in. -/
theorem inRanges_eq_false {ranges : List (Nat × Nat)} {first last n : Nat} (hfirst : first ≤ n)
    (hlast : n ≤ last) (h : ∀ r ∈ ranges, r.2 < first ∨ last < r.1) :
    inRanges ranges n = false := by
  refine List.any_eq_false.2 fun r hr => ?_
  have := h r hr
  simp only [Bool.and_eq_true, decide_eq_true_eq]
  omega

/-- It is in one of them if the range of it is part of one. -/
theorem inRanges_eq_true {ranges : List (Nat × Nat)} {first last n : Nat} (hfirst : first ≤ n)
    (hlast : n ≤ last) (h : ∃ r ∈ ranges, r.1 ≤ first ∧ last ≤ r.2) : inRanges ranges n = true := by
  obtain ⟨r, hr, hle⟩ := h
  refine List.any_eq_true.2 ⟨r, hr, ?_⟩
  simp only [Bool.and_eq_true, decide_eq_true_eq]
  omega

/-! ## Characters that stand alone -/

/-- **Whether a character stands alone**, so that composing does not concern it. -/
structure StandsAlone (c : Char) : Prop where
  /-- It has no parts. -/
  parts_eq : parts c = [c]
  /-- It is no mark. -/
  class_eq_zero : combiningClass c = 0
  /-- Nothing before it takes it up. -/
  composition?_eq_none : ∀ a, composition? a c = none

variable {cs : List Char}

theorem takenApart_eq_self (h : ∀ c ∈ cs, StandsAlone c) : takenApart cs = cs := by
  have hparts : cs.flatMap parts = cs :=
    calc cs.flatMap parts = cs.flatMap fun c => [c] :=
          List.flatMap_congr fun c hc => (h c hc).parts_eq
      _ = cs := List.flatMap_singleton' cs
  rw [takenApart, hparts, hparts, hparts]

/-- Where there are no marks there is no order to put them in. -/
theorem ordered_eq (h : ∀ c ∈ cs, combiningClass c = 0) : ordered cs = cs.map fun c => (c, 0) := by
  have hplace : ∀ before, cs.foldl (fun before c => place (c, combiningClass c) before) before
      = (cs.map fun c => (c, 0)).reverse ++ before := by
    induction cs with
    | nil => exact fun _ => rfl
    | cons c cs ih =>
      obtain ⟨hc, hcs⟩ := List.forall_mem_cons.1 h
      intro before
      have hhead : place (c, combiningClass c) before = (c, 0) :: before := by
        cases before <;> simp [place, hc]
      rw [List.foldl_cons, hhead, ih hcs, List.map_cons, List.reverse_cons, List.append_assoc]
      rfl
  rw [ordered, hplace, List.append_nil, List.reverse_reverse]

theorem takeUp_eq (a : Char) (h : ∀ c ∈ cs, StandsAlone c) :
    takeUp a [] 0 (cs.map fun c => (c, 0)) = a :: cs := by
  induction cs generalizing a with
  | nil => rfl
  | cons c cs ih =>
    obtain ⟨hc, hcs⟩ := List.forall_mem_cons.1 h
    rw [List.map_cons, takeUp]
    simp only [List.isEmpty_nil, true_or, if_true, hc.composition?_eq_none a]
    rw [ih c hcs]
    rfl

/-- **A text of characters that stand alone is composed as it stands.** -/
theorem composed_eq_self (h : ∀ c ∈ cs, StandsAlone c) : composed cs = cs := by
  unfold composed
  split
  · rfl
  rw [takenApart_eq_self h, ordered_eq fun c hc => (h c hc).class_eq_zero]
  cases cs with
  | nil => rfl
  | cons a cs => simpa using takeUp_eq a (List.forall_mem_cons.1 h).2

end SearchRest.Text
