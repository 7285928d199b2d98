/-
Lists side by side.

A reader that goes through a list member by member succeeds exactly when it
does so for every member, and its results stand beside the members in order.
`List.Forall₂` says that two lists have the same length and that a relation
holds between their members at each place.
-/
import Mathlib.Data.List.Forall2

set_option autoImplicit false

namespace SearchRest

variable {α β ε : Type} {R S : α → β → Prop} {l : List α} {r : List β}

/-! ## Readers -/

/-- Two readers, one after the other, succeed if both do. -/
theorem bind_eq_ok_iff {x : Except ε α} {f : α → Except ε β} {b : β} :
    x >>= f = .ok b ↔ ∃ a, x = .ok a ∧ f a = .ok b := by
  cases x <;> simp [bind, Except.bind]

theorem map_eq_ok_iff {x : Except ε α} {f : α → β} {b : β} :
    x.map f = .ok b ↔ ∃ a, x = .ok a ∧ f a = b := by
  cases x <;> simp [Except.map]

/-- The results of a list are a result of each member. -/
theorem mapM_eq_ok_iff {f : α → Except ε β} :
    l.mapM f = .ok r ↔ List.Forall₂ (fun a b => f a = .ok b) l r := by
  induction l generalizing r with
  | nil => cases r <;> simp [pure, Except.pure]
  | cons a l ih =>
    rw [List.mapM_cons]
    cases ha : f a with
    | error e => cases r <;> simp [bind, Except.bind, ha]
    | ok b =>
      cases hl : l.mapM f with
      | error e => cases r <;> simp [bind, Except.bind, ← ih, ha, hl]
      | ok bs => cases r <;> simp [bind, Except.bind, pure, Except.pure, ← ih, ha, hl]

/-- The same for readers that answer nothing where they fail. -/
theorem mapM_eq_some_iff {f : α → Option β} :
    l.mapM f = some r ↔ List.Forall₂ (fun a b => f a = some b) l r := by
  induction l generalizing r with
  | nil => cases r <;> simp
  | cons a l ih =>
    rw [List.mapM_cons]
    cases ha : f a with
    | none => cases r <;> simp [ha]
    | some b =>
      cases hl : l.mapM f with
      | none => cases r <;> simp [← ih, ha, hl]
      | some bs => cases r <;> simp [← ih, ha, hl]

/-- Where each member has a result with a property, the list has results with it. -/
theorem exists_mapM_eq_some {f : α → Option β} {P : β → Prop}
    (h : ∀ a ∈ l, ∃ b, f a = some b ∧ P b) :
    ∃ r, l.mapM f = some r ∧ r.length = l.length ∧ ∀ b ∈ r, P b := by
  induction l with
  | nil => exact ⟨[], rfl, rfl, List.forall_mem_nil _⟩
  | cons a l ih =>
    obtain ⟨⟨b, hb, hP⟩, hl⟩ := List.forall_mem_cons.1 h
    obtain ⟨r, hr, hlength, hall⟩ := ih hl
    refine ⟨b :: r, ?_, congrArg Nat.succ hlength, List.forall_mem_cons.2 ⟨hP, hall⟩⟩
    rw [List.mapM_cons, hb, hr]
    rfl

/-- What was written member by member is read back. -/
theorem mapM_map_eq_some {f : β → Option α} {g : α → β} (h : ∀ a ∈ l, f (g a) = some a) :
    (l.map g).mapM f = some l := by
  rw [mapM_eq_some_iff, List.forall₂_map_left_iff, List.forall₂_same]
  exact h

/-! ## Machines -/

/-- A machine that can take a first step goes on from where that leads. -/
theorem foldlM_cons_of_eq_some {step : β → α → Option β} {b c : β} {a : α}
    (h : step b a = some c) (l : List α) : (a :: l).foldlM step b = l.foldlM step c := by
  rw [List.foldlM_cons, h]
  rfl

/-- What comes behind a part of the input sees only where that part leads. -/
theorem foldlM_append_of_eq_some {step : β → α → Option β} {b c : β}
    (h : l.foldlM step b = some c) (l' : List α) :
    (l ++ l').foldlM step b = l'.foldlM step c := by
  rw [List.foldlM_append, h]
  rfl

/-! ## Members at one place -/

theorem exists_left_of_forall₂ (h : List.Forall₂ R l r) {b : β} (hb : b ∈ r) : ∃ a ∈ l, R a b := by
  induction h with
  | nil => cases hb
  | @cons a c l r hR _ ih =>
    rcases List.mem_cons.1 hb with rfl | hb
    · exact ⟨a, List.mem_cons_self, hR⟩
    · obtain ⟨x, hx, hxb⟩ := ih hb
      exact ⟨x, List.mem_cons_of_mem _ hx, hxb⟩

theorem exists_right_of_forall₂ (h : List.Forall₂ R l r) (h' : List.Forall₂ S l r) {a : α}
    (ha : a ∈ l) : ∃ b ∈ r, R a b ∧ S a b := by
  induction h with
  | nil => cases ha
  | @cons c b l r hR _ ih =>
    obtain ⟨hS, hS'⟩ := List.forall₂_cons.1 h'
    rcases List.mem_cons.1 ha with rfl | ha
    · exact ⟨b, List.mem_cons_self, hR, hS⟩
    · obtain ⟨x, hx, hax⟩ := ih hS' ha
      exact ⟨x, List.mem_cons_of_mem _ hx, hax⟩

/-- What stands beside two lists, one behind the other. -/
theorem exists_append_of_forall₂ {l₁ l₂ : List α} (h : List.Forall₂ R (l₁ ++ l₂) r) :
    ∃ r₁ r₂, r = r₁ ++ r₂ ∧ List.Forall₂ R l₁ r₁ ∧ List.Forall₂ R l₂ r₂ := by
  induction l₁ generalizing r with
  | nil => exact ⟨[], r, rfl, .nil, h⟩
  | cons a l₁ ih =>
    obtain ⟨b, r', hR, hrest, rfl⟩ := List.forall₂_cons_left_iff.1 h
    obtain ⟨r₁, r₂, rfl, h₁, h₂⟩ := ih hrest
    exact ⟨b :: r₁, r₂, rfl, .cons hR h₁, h₂⟩

theorem exists_forall₂_of_forall_mem (h : ∀ a ∈ l, ∃ b, R a b) : ∃ r, List.Forall₂ R l r := by
  induction l with
  | nil => exact ⟨[], .nil⟩
  | cons a l ih =>
    obtain ⟨ha, hl⟩ := List.forall_mem_cons.1 h
    obtain ⟨b, hb⟩ := ha
    obtain ⟨r, hr⟩ := ih hl
    exact ⟨b :: r, .cons hb hr⟩

end SearchRest
