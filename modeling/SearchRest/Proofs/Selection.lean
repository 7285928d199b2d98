/-
First members of a list.

Several choices fall on the first member of a list that has a property, or on
the first one of those that have it for which a measure is least. Both are said
here by what stands before and after the member, so each determines it.
-/
import SearchRest.Route.Resolution

set_option autoImplicit false

namespace SearchRest

variable {α : Type}

/-- **The first member with a property.** -/
def IsFirst (p : α → Prop) (l : List α) (a : α) : Prop :=
  ∃ before after, l = before ++ a :: after ∧ p a ∧ ∀ x ∈ before, ¬ p x

/-- **The first of the members with a property for which the measure is least.** -/
def IsFirstLeast (p : α → Prop) (measure : α → Nat) (l : List α) (a : α) : Prop :=
  ∃ before after, l = before ++ a :: after ∧ p a ∧ (∀ x ∈ before, p x → measure a < measure x) ∧
    ∀ x ∈ after, p x → measure a ≤ measure x

/-! ## The first member with a property -/

theorem IsFirst.mem {p : α → Prop} {l : List α} {a : α} (h : IsFirst p l a) : a ∈ l ∧ p a := by
  obtain ⟨before, after, rfl, ha, -⟩ := h
  exact ⟨List.mem_append_right _ List.mem_cons_self, ha⟩

/-- Among the members of a list, the first one with a property is found at the head or behind
it. -/
theorem isFirst_cons {p : α → Prop} {a b : α} {l : List α} :
    IsFirst p (b :: l) a ↔ (p b ∧ a = b) ∨ (¬ p b ∧ IsFirst p l a) := by
  constructor
  · rintro ⟨before, after, heq, ha, hbefore⟩
    cases before with
    | nil =>
      obtain ⟨rfl, rfl⟩ := List.cons.inj heq
      exact .inl ⟨ha, rfl⟩
    | cons c before =>
      obtain ⟨rfl, rfl⟩ := List.cons.inj heq
      obtain ⟨hb, hbefore⟩ := List.forall_mem_cons.1 hbefore
      exact .inr ⟨hb, before, after, rfl, ha, hbefore⟩
  · rintro (⟨hb, rfl⟩ | ⟨hb, before, after, rfl, ha, hbefore⟩)
    · exact ⟨[], l, rfl, hb, List.forall_mem_nil _⟩
    · exact ⟨b :: before, after, rfl, ha, List.forall_mem_cons.2 ⟨hb, hbefore⟩⟩

theorem not_isFirst_nil {p : α → Prop} {a : α} : ¬ IsFirst p [] a := by
  rintro ⟨before, after, heq, -⟩
  cases before <;> cases heq

theorem exists_isFirst_iff {p : α → Prop} {l : List α} :
    (∃ a, IsFirst p l a) ↔ ∃ a ∈ l, p a := by
  constructor
  · rintro ⟨a, ha⟩
    exact ⟨a, ha.mem⟩
  · rintro ⟨a, ha, hp⟩
    induction l with
    | nil => cases ha
    | cons b l ih =>
      by_cases hb : p b
      · exact ⟨b, isFirst_cons.2 (.inl ⟨hb, rfl⟩)⟩
      · rcases List.mem_cons.1 ha with rfl | ha
        · exact absurd hp hb
        · obtain ⟨c, hc⟩ := ih ha
          exact ⟨c, isFirst_cons.2 (.inr ⟨hb, hc⟩)⟩

/-- Where no two members have the property, its first member is just the one that has it. -/
theorem isFirst_iff_mem {p : α → Prop} {l : List α} {a : α}
    (h : l.Pairwise fun a b => ¬ (p a ∧ p b)) : IsFirst p l a ↔ a ∈ l ∧ p a := by
  refine ⟨IsFirst.mem, ?_⟩
  induction l with
  | nil => exact fun hmem => absurd hmem.1 List.not_mem_nil
  | cons b l ih =>
    obtain ⟨hb, hl⟩ := List.pairwise_cons.1 h
    rintro ⟨hmem, ha⟩
    rw [isFirst_cons]
    rcases List.mem_cons.1 hmem with rfl | hmem
    · exact .inl ⟨ha, rfl⟩
    · exact .inr ⟨fun hpb => hb a hmem ⟨hpb, ha⟩, ih hl ⟨hmem, ha⟩⟩

theorem head?_filter_eq_some_iff {p : α → Bool} {l : List α} {a : α} :
    (l.filter p).head? = some a ↔ IsFirst (fun x => p x = true) l a := by
  induction l with
  | nil => simpa using not_isFirst_nil
  | cons b l ih =>
    rw [isFirst_cons, ← ih]
    by_cases hb : p b = true
    · rw [List.filter_cons_of_pos hb]
      simp [hb, eq_comm]
    · rw [List.filter_cons_of_neg hb]
      simp [hb]

theorem findSome?_filter_eq_some_iff {β : Type} {q : α → Bool} {f : α → Option β} {p : α → Prop}
    (hp : ∀ a, p a ↔ q a = true ∧ ∃ b, f a = some b) {l : List α} {b : β} :
    (l.filter q).findSome? f = some b ↔ ∃ a, IsFirst p l a ∧ f a = some b := by
  induction l with
  | nil => simp [not_isFirst_nil]
  | cons c l ih =>
    simp only [isFirst_cons]
    by_cases hq : q c = true
    · rw [List.filter_cons_of_pos hq, List.findSome?_cons]
      cases hf : f c with
      | some d =>
        have hc : p c := (hp c).2 ⟨hq, d, hf⟩
        simp [hc, hf]
      | none =>
        have hc : ¬ p c := fun h => by
          obtain ⟨-, d, hd⟩ := (hp c).1 h
          rw [hf] at hd
          cases hd
        simp [hc, ih]
    · have hc : ¬ p c := fun h => hq ((hp c).1 h).1
      rw [List.filter_cons_of_neg hq]
      simp [hc, ih]

/-! ## The first member with the least measure -/

theorem IsFirstLeast.mem {p : α → Prop} {measure : α → Nat} {l : List α} {a : α}
    (h : IsFirstLeast p measure l a) : a ∈ l ∧ p a := by
  obtain ⟨before, after, rfl, ha, -⟩ := h
  exact ⟨List.mem_append_right _ List.mem_cons_self, ha⟩

theorem isFirstLeast_cons {p : α → Prop} {measure : α → Nat} {a b : α} {l : List α} :
    IsFirstLeast p measure (b :: l) a ↔
      (p b ∧ a = b ∧ ∀ x ∈ l, p x → measure b ≤ measure x) ∨
        ((p b → measure a < measure b) ∧ IsFirstLeast p measure l a) := by
  constructor
  · rintro ⟨before, after, heq, ha, hbefore, hafter⟩
    cases before with
    | nil =>
      obtain ⟨rfl, rfl⟩ := List.cons.inj heq
      exact .inl ⟨ha, rfl, hafter⟩
    | cons c before =>
      obtain ⟨rfl, rfl⟩ := List.cons.inj heq
      obtain ⟨hb, hbefore⟩ := List.forall_mem_cons.1 hbefore
      exact .inr ⟨hb, before, after, rfl, ha, hbefore, hafter⟩
  · rintro (⟨hb, rfl, hl⟩ | ⟨hb, before, after, rfl, ha, hbefore, hafter⟩)
    · exact ⟨[], l, rfl, hb, List.forall_mem_nil _, hl⟩
    · exact ⟨b :: before, after, rfl, ha, List.forall_mem_cons.2 ⟨hb, hbefore⟩, hafter⟩

theorem IsFirstLeast.measure_le {p : α → Prop} {measure : α → Nat} {l : List α} {a : α}
    (h : IsFirstLeast p measure l a) : ∀ x ∈ l, p x → measure a ≤ measure x := by
  obtain ⟨before, after, rfl, -, hbefore, hafter⟩ := h
  intro x hx hp
  rcases List.mem_append.1 hx with hx | hx
  · exact Nat.le_of_lt (hbefore x hx hp)
  · rcases List.mem_cons.1 hx with rfl | hx
    · exact Nat.le_refl _
    · exact hafter x hx hp

theorem leastBy?_eq_none_iff {measure : α → Nat} {l : List α} :
    leastBy? measure l = none ↔ l = [] := by
  cases l with
  | nil => simp [leastBy?]
  | cons a l =>
    simp only [leastBy?]
    split
    · simp
    · split <;> simp

theorem isFirstLeast_of_leastBy? {p : α → Bool} {measure : α → Nat} {l : List α} {a : α}
    (h : leastBy? measure (l.filter p) = some a) :
    IsFirstLeast (fun x => p x = true) measure l a := by
  induction l generalizing a with
  | nil => cases h
  | cons b l ih =>
    rw [isFirstLeast_cons]
    by_cases hb : p b = true
    · rw [List.filter_cons_of_pos hb, leastBy?] at h
      cases hrest : leastBy? measure (l.filter p) with
      | none =>
        simp only [hrest, Option.some.injEq] at h
        refine .inl ⟨hb, h.symm, fun x hx hp => ?_⟩
        have hmem := List.mem_filter.2 ⟨hx, hp⟩
        rw [leastBy?_eq_none_iff.1 hrest] at hmem
        cases hmem
      | some c =>
        -- the head stays unless a member behind it is strictly less
        have hc := ih hrest
        simp only [hrest] at h
        split at h
        · rename_i hlt
          obtain rfl := Option.some.inj h
          exact .inr ⟨fun _ => hlt, hc⟩
        · rename_i hle
          obtain rfl := Option.some.inj h
          exact .inl ⟨hb, rfl, fun x hx hp =>
            Nat.le_trans (Nat.le_of_not_lt hle) (hc.measure_le x hx hp)⟩
    · rw [List.filter_cons_of_neg hb] at h
      exact .inr ⟨fun h => absurd h hb, ih h⟩

/-- No two members are the first with the least measure. -/
theorem IsFirstLeast.unique {p : α → Prop} {measure : α → Nat} {l : List α} {a b : α}
    (ha : IsFirstLeast p measure l a) (hb : IsFirstLeast p measure l b) : a = b := by
  induction l with
  | nil => exact absurd ha.mem.1 List.not_mem_nil
  | cons c l ih =>
    rcases isFirstLeast_cons.1 ha with ⟨hc, rfl, hle⟩ | ⟨hlta, hal⟩
    · rcases isFirstLeast_cons.1 hb with ⟨-, rfl, -⟩ | ⟨hltb, hbl⟩
      · rfl
      · have := hle b hbl.mem.1 hbl.mem.2
        have := hltb hc
        omega
    · rcases isFirstLeast_cons.1 hb with ⟨hc, rfl, hle⟩ | ⟨-, hbl⟩
      · have := hle a hal.mem.1 hal.mem.2
        have := hlta hc
        omega
      · exact ih hal hbl

/-- The search for the least of the members with a property answers the first of them. -/
theorem leastBy?_filter_eq_some_iff {p : α → Bool} {measure : α → Nat} {l : List α} {a : α} :
    leastBy? measure (l.filter p) = some a ↔ IsFirstLeast (fun x => p x = true) measure l a := by
  refine ⟨isFirstLeast_of_leastBy?, fun h => ?_⟩
  -- the search answers some first least member, and there is only one
  cases hl : leastBy? measure (l.filter p) with
  | none =>
    have hmem := List.mem_filter.2 h.mem
    rw [leastBy?_eq_none_iff.1 hl] at hmem
    cases hmem
  | some b => rw [(isFirstLeast_of_leastBy? hl).unique h]

end SearchRest
