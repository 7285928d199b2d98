/-
Which path is chosen, and which segment an error names.

The choice makes three passes over the templates, and each of them is decided by
the set of the bound names alone. A template *takes* the bindings when its
placeholders include every bound name, and it *fits* them when they are exactly
the bound names; it renders without an error just when all of them are bound.
So the first pass finds the first template that fits, the second one is reached
only when none fits and then its template lacks something, and the third one
only when no template takes the bindings.
-/
import SearchRest.Proofs.Route.Rendering
import SearchRest.Proofs.Selection

set_option autoImplicit false

namespace SearchRest

/-! ## Bound names -/

/-- **The name with a property that is least in the order of bytes.** -/
def IsByteLeast (p : String → Prop) (name : String) : Prop :=
  p name ∧ ∀ other, p other → Text.encode name ≤ Text.encode other

namespace Bindings

theorem isBound_iff {b : Bindings} {name : String} :
    b.isBound name = true ↔ ∃ v, b.get? name = some v ∧ v.isEmpty = false := by
  unfold isBound
  cases hget : b.get? name with
  | none => simp
  | some v => simp

theorem isBound_insert (b : Bindings) (k name : String) (v : RouteValue) :
    isBound (b.insert k v) name = if k = name then !v.isEmpty else b.isBound name := by
  unfold isBound
  rw [KeyMap.get?_insert]
  by_cases h : k = name <;> simp [h]

/-- Of values that all show in a path, each binds its segment, and none unbinds another one. -/
theorem isBound_insertAll {l : List (String × RouteValue)} (hl : ∀ e ∈ l, e.2.isEmpty = false)
    (b : Bindings) (name : String) :
    isBound (b.insertAll l) name = true ↔ name ∈ l.map Prod.fst ∨ b.isBound name = true := by
  induction l generalizing b with
  | nil => exact (or_iff_right List.not_mem_nil).symm
  | cons e l ih =>
    obtain ⟨he, hl⟩ := List.forall_mem_cons.1 hl
    have hcons : b.insertAll (e :: l) = KeyMap.insertAll (b.insert e.1 e.2) l := rfl
    rw [hcons, ih hl, isBound_insert, he, List.map_cons, List.mem_cons]
    by_cases hname : e.1 = name
    · simp [hname]
    · simp [hname, Ne.symm hname]

theorem mem_boundNames {b : Bindings} {name : String} :
    name ∈ b.boundNames ↔ b.isBound name = true := by
  rw [isBound_iff, boundNames, List.mem_map]
  constructor
  · rintro ⟨⟨k, v⟩, he, rfl⟩
    obtain ⟨hmem, hv⟩ := List.mem_filter.1 he
    exact ⟨v, (KeyMap.get?_eq_some_iff b k v).2 hmem, by simpa using hv⟩
  · rintro ⟨v, hget, hv⟩
    refine ⟨(name, v), List.mem_filter.2 ⟨(KeyMap.get?_eq_some_iff b name v).1 hget, ?_⟩, rfl⟩
    simp [hv]

theorem boundNames_ordered (b : Bindings) : b.boundNames.Pairwise (· < ·) :=
  List.pairwise_map.2 (b.ordered.filter _)

/-- The first of the bound names with a property is the least one of them. -/
theorem find?_boundNames_eq_some_iff {b : Bindings} {p : String → Bool} {name : String} :
    b.boundNames.find? p = some name ↔
      IsByteLeast (fun n => b.isBound n = true ∧ p n = true) name := by
  simp only [IsByteLeast, ← mem_boundNames, Text.encode_le_encode]
  -- the names stand in their order, so those behind the first hit are greater
  have hordered := b.boundNames_ordered
  generalize b.boundNames = names at hordered
  induction names with
  | nil => simp
  | cons n rest ih =>
    obtain ⟨hbelow, hrest⟩ := List.pairwise_cons.1 hordered
    by_cases hp : p n = true
    · rw [List.find?_cons_of_pos hp]
      constructor
      · rintro ⟨⟩
        refine ⟨⟨List.mem_cons_self, hp⟩, fun m ⟨hm, _⟩ => ?_⟩
        rcases List.mem_cons.1 hm with rfl | hm
        · exact String.le_refl _
        · exact String.not_lt.1 (String.lt_asymm (hbelow m hm))
      · rintro ⟨⟨hmem, -⟩, hle⟩
        rcases List.mem_cons.1 hmem with rfl | hmem
        · rfl
        · exact absurd (hbelow name hmem) (String.not_lt.2 (hle n ⟨List.mem_cons_self, hp⟩))
    · rw [List.find?_cons_of_neg hp]
      refine (ih hrest).trans ?_
      constructor
      · rintro ⟨⟨hmem, hname⟩, hle⟩
        refine ⟨⟨List.mem_cons_of_mem _ hmem, hname⟩, fun m ⟨hm, hpm⟩ => ?_⟩
        rcases List.mem_cons.1 hm with rfl | hm
        · exact absurd hpm hp
        · exact hle m ⟨hm, hpm⟩
      · rintro ⟨⟨hmem, hname⟩, hle⟩
        rcases List.mem_cons.1 hmem with rfl | hmem
        · exact absurd hname hp
        · exact ⟨⟨hmem, hname⟩, fun m ⟨hm, hpm⟩ => hle m ⟨List.mem_cons_of_mem _ hm, hpm⟩⟩

theorem head?_boundNames_eq_some_iff {b : Bindings} {name : String} :
    b.boundNames.head? = some name ↔ IsByteLeast (fun n => b.isBound n = true) name := by
  have hhead : b.boundNames.head? = b.boundNames.find? fun _ => true := by
    cases b.boundNames <;> rfl
  rw [hhead, find?_boundNames_eq_some_iff]
  simp

end Bindings

namespace Route

/-! ## Templates against bindings -/

/-- **The bindings have a place in the template**: every bound name is one of its placeholders. -/
def Takes (b : Bindings) (t : Template) : Prop := ∀ name, b.isBound name = true → name ∈ t.params

/-- **The template fits the bindings**: its placeholders are the bound names. -/
def Fits (b : Bindings) (t : Template) : Prop :=
  ∀ name, name ∈ t.params ↔ b.isBound name = true

/-- **The segment that does not belong** where no template takes the bindings: the least bound name
that is in no template, or else the least bound name. Without templates and without bound names
there is no such name, and the text is empty. -/
def IsStray (templates : List Template) (b : Bindings) (segment : String) : Prop :=
  IsByteLeast (fun n => b.isBound n = true ∧ ∀ t ∈ templates, n ∉ t.params) segment ∨
    ((∀ n, b.isBound n = true → ∃ t ∈ templates, n ∈ t.params) ∧
      IsByteLeast (fun n => b.isBound n = true) segment) ∨
    (templates = [] ∧ (∀ n, b.isBound n = false) ∧ segment = "")

variable {b : Bindings} {t : Template} {templates : List Template}

theorem Fits.takes (h : Fits b t) : Takes b t := fun name hname => (h name).2 hname

theorem accepts_iff : accepts b t = true ↔ Takes b t := by
  simp only [accepts, List.all_eq_true, Bindings.mem_boundNames, Template.hasParam,
    List.contains_iff_mem, Takes]

theorem exists_render_segment_iff {s : Segment} :
    (∃ piece, s.render b = .ok piece) ↔ ∀ name, s = .placeholder name → b.isBound name = true := by
  cases s with
  | literal text =>
    refine ⟨fun _ name h => ?_, fun _ => ⟨_, rfl⟩⟩
    cases h
  | placeholder name =>
    simp only [Segment.render_placeholder_eq_ok_iff, Segment.placeholder.injEq]
    constructor
    · rintro ⟨_, v, hget, hv, -⟩ _ rfl
      exact Bindings.isBound_iff.2 ⟨v, hget, hv⟩
    · intro h
      obtain ⟨v, hget, hv⟩ := Bindings.isBound_iff.1 (h name rfl)
      exact ⟨_, v, hget, hv, rfl⟩

/-- A template is rendered just when all its placeholders are bound. -/
theorem exists_render_iff :
    (∃ path, t.render b = .ok path) ↔ ∀ name ∈ t.params, b.isBound name = true := by
  simp only [Template.mem_params_iff]
  by_cases hne : t.segments = []
  · simp [Template.render, hne]
  · simp only [Template.render_eq_ok_iff hne]
    constructor
    · rintro ⟨-, ps, hps, -⟩ name hname
      obtain ⟨piece, -, hpiece, -⟩ := exists_right_of_forall₂ hps hps hname
      exact exists_render_segment_iff.1 ⟨piece, hpiece⟩ name rfl
    · intro h
      have hall : ∀ s ∈ t.segments, ∃ piece, s.render b = .ok piece := fun s hs =>
        exists_render_segment_iff.2 fun name hname => h name (hname ▸ hs)
      obtain ⟨ps, hps⟩ := exists_forall₂_of_forall_mem hall
      exact ⟨_, ps, hps, rfl⟩

theorem fits_iff :
    Fits b t ↔ accepts b t = true ∧ ∃ path, (t.render b).toOption = some path := by
  have hoption : (∃ path, (t.render b).toOption = some path) ↔ ∃ path, t.render b = .ok path := by
    cases t.render b <;> simp [Except.toOption]
  rw [hoption, exists_render_iff, accepts_iff]
  constructor
  · intro h
    exact ⟨h.takes, fun name => (h name).1⟩
  · rintro ⟨htakes, hbound⟩ name
    exact ⟨hbound name, htakes name⟩

/-! ## The three passes -/

theorem path?_eq_some_iff {path : String} :
    path? templates b = some path ↔
      ∃ t, IsFirst (Fits b) templates t ∧ t.render b = .ok path := by
  rw [path?, findSome?_filter_eq_some_iff fun _ => fits_iff]
  refine exists_congr fun t => and_congr_right fun _ => ?_
  cases t.render b <;> simp [Except.toOption]

theorem path?_eq_none_iff : path? templates b = none ↔ ∀ t ∈ templates, ¬ Fits b t := by
  rw [Option.eq_none_iff_forall_ne_some]
  constructor
  · intro h t ht hfits
    obtain ⟨first, hfirst⟩ := exists_isFirst_iff.2 ⟨t, ht, hfits⟩
    obtain ⟨path, hpath⟩ := exists_render_iff.2 fun name => (hfirst.mem.2 name).1
    exact h path (path?_eq_some_iff.2 ⟨first, hfirst, hpath⟩)
  · intro h path hpath
    obtain ⟨t, hfirst, -⟩ := path?_eq_some_iff.1 hpath
    exact h t hfirst.mem.1 hfirst.mem.2

theorem closest?_eq_some_iff :
    closest? templates b = some t ↔
      IsFirstLeast (Takes b) (fun t => (t.missing b).length) templates t := by
  rw [closest?, leastBy?_filter_eq_some_iff]
  simp only [accepts_iff]

theorem closest?_eq_none_iff : closest? templates b = none ↔ ∀ t ∈ templates, ¬ Takes b t := by
  rw [closest?, leastBy?_eq_none_iff, List.filter_eq_nil_iff]
  simp only [accepts_iff]

/-- A template that takes the bindings and does not fit them lacks a segment, so the error names
one of its placeholders. -/
theorem head?_missing_eq_some_iff {segment : String} :
    (t.missing b).head? = some segment ↔
      IsFirst (fun name => b.isBound name = false) t.params segment := by
  rw [Template.missing, head?_filter_eq_some_iff]
  simp only [Bool.not_eq_true']

theorem exists_missing (htakes : Takes b t) (hfits : ¬ Fits b t) :
    ∃ segment, (t.missing b).head? = some segment := by
  simp only [head?_missing_eq_some_iff, exists_isFirst_iff]
  refine Classical.byContradiction fun hnone => hfits fun name => ⟨fun hname => ?_, htakes name⟩
  refine Classical.byContradiction fun hbound => hnone ⟨name, hname, ?_⟩
  exact Bool.eq_false_iff.2 hbound

theorem find?_unknown_eq_some_iff {segment : String} :
    (b.boundNames.find? fun name => !templates.any fun t => t.hasParam name) = some segment ↔
      IsByteLeast (fun n => b.isBound n = true ∧ ∀ t ∈ templates, n ∉ t.params) segment := by
  rw [Bindings.find?_boundNames_eq_some_iff]
  simp only [Template.hasParam, List.contains_iff_mem, Bool.not_eq_true', List.any_eq_false]

theorem getD_stray?_eq_iff (hnone : ∀ t ∈ templates, ¬ Takes b t) {segment : String} :
    (stray? templates b).getD "" = segment ↔ IsStray templates b segment := by
  unfold IsStray
  rw [stray?, ← find?_unknown_eq_some_iff, ← Bindings.head?_boundNames_eq_some_iff]
  cases hfind : b.boundNames.find? fun name => !templates.any fun t => t.hasParam name with
  | some name =>
    obtain ⟨⟨hbound, hunknown⟩, -⟩ := find?_unknown_eq_some_iff.1 hfind
    rw [Option.some_or, Option.getD_some, Option.some.injEq]
    refine ⟨.inl, ?_⟩
    rintro (h | ⟨hknown, -⟩ | ⟨-, hnobound, -⟩)
    · exact h
    · obtain ⟨t, ht, hmem⟩ := hknown name hbound
      exact absurd hmem (hunknown t ht)
    · rw [hnobound name] at hbound
      cases hbound
  | none =>
    have hknown : ∀ n, b.isBound n = true → ∃ t ∈ templates, n ∈ t.params := by
      intro n hn
      have := List.find?_eq_none.1 hfind n (Bindings.mem_boundNames.2 hn)
      simpa [Template.hasParam] using this
    rw [Option.none_or]
    cases hhead : b.boundNames.head? with
    | some name =>
      have hbound : b.isBound name = true := (Bindings.head?_boundNames_eq_some_iff.1 hhead).1
      rw [Option.getD_some, Option.some.injEq]
      refine ⟨fun h => .inr (.inl ⟨hknown, h⟩), ?_⟩
      rintro (h | ⟨-, h⟩ | ⟨-, hnobound, -⟩)
      · cases h
      · exact h
      · rw [hnobound name] at hbound
        cases hbound
    | none =>
      have hnobound : ∀ n, b.isBound n = false := by
        intro n
        refine Bool.eq_false_iff.2 fun hn => ?_
        have hmem := Bindings.mem_boundNames.2 hn
        rw [List.head?_eq_none_iff.1 hhead] at hmem
        cases hmem
      -- any template at all would take the bindings, since nothing is bound
      have hempty : templates = [] := by
        refine List.eq_nil_iff_forall_not_mem.2 fun t ht => hnone t ht fun n hn => ?_
        rw [hnobound n] at hn
        cases hn
      rw [Option.getD_none]
      refine ⟨fun h => .inr (.inr ⟨hempty, hnobound, h.symm⟩), ?_⟩
      rintro (h | ⟨-, h⟩ | ⟨-, -, h⟩)
      · cases h
      · cases h
      · exact h.symm

/-! ## The choice -/

section Outcomes

variable {endpoint path segment : String}

theorem resolve_eq_ok_iff :
    resolve endpoint templates b = .ok path ↔
      ∃ t, IsFirst (Fits b) templates t ∧ t.render b = .ok path := by
  rw [← path?_eq_some_iff, resolve]
  cases path? templates b with
  | some found => simp
  | none => cases closest? templates b <;> simp

theorem resolve_eq_missing_iff :
    resolve endpoint templates b = .error (.missingRouteValue endpoint segment) ↔
      (∀ t ∈ templates, ¬ Fits b t) ∧
        ∃ t, IsFirstLeast (Takes b) (fun t => (t.missing b).length) templates t ∧
          IsFirst (fun name => b.isBound name = false) t.params segment := by
  simp only [← path?_eq_none_iff, ← closest?_eq_some_iff, ← head?_missing_eq_some_iff]
  rw [resolve]
  cases hpath : path? templates b with
  | some path => simp
  | none =>
    cases hclosest : closest? templates b with
    | none => simp
    | some t =>
      -- the empty text in place of a name is not reached
      have hleast := closest?_eq_some_iff.1 hclosest
      have hnofit := path?_eq_none_iff.1 hpath t hleast.mem.1
      obtain ⟨name, hname⟩ := exists_missing hleast.mem.2 hnofit
      simp [hname]

theorem resolve_eq_unexpected_iff :
    resolve endpoint templates b = .error (.unexpectedRouteValue endpoint segment) ↔
      (∀ t ∈ templates, ¬ Takes b t) ∧ IsStray templates b segment := by
  rw [← closest?_eq_none_iff, resolve]
  cases hpath : path? templates b with
  | some path =>
    obtain ⟨t, hfirst, -⟩ := path?_eq_some_iff.1 hpath
    have hclosest : closest? templates b ≠ none := fun hnone =>
      closest?_eq_none_iff.1 hnone t hfirst.mem.1 hfirst.mem.2.takes
    simp [hclosest]
  | none =>
    cases hclosest : closest? templates b with
    | some t => simp
    | none => simp [getD_stray?_eq_iff (closest?_eq_none_iff.1 hclosest)]

/-- A template that fits is rendered, so there is a path as soon as one fits. -/
theorem exists_path_iff :
    (∃ path, resolve endpoint templates b = .ok path) ↔ ∃ t ∈ templates, Fits b t := by
  simp only [resolve_eq_ok_iff]
  constructor
  · rintro ⟨path, t, hfirst, -⟩
    exact ⟨t, hfirst.mem⟩
  · intro h
    obtain ⟨t, hfirst⟩ := exists_isFirst_iff.2 h
    obtain ⟨path, hpath⟩ := exists_render_iff.2 fun name => (hfirst.mem.2 name).1
    exact ⟨path, t, hfirst, hpath⟩

/-- A template that takes the bindings and does not fit them lacks something. -/
theorem exists_missing_iff :
    (∃ segment, resolve endpoint templates b = .error (.missingRouteValue endpoint segment)) ↔
      (∀ t ∈ templates, ¬ Fits b t) ∧ ∃ t ∈ templates, Takes b t := by
  simp only [resolve_eq_missing_iff]
  constructor
  · rintro ⟨segment, hnofit, t, hleast, -⟩
    exact ⟨hnofit, t, hleast.mem⟩
  · rintro ⟨hnofit, t, ht, htakes⟩
    have hsome : closest? templates b ≠ none := fun h => closest?_eq_none_iff.1 h t ht htakes
    obtain ⟨closest, hclosest⟩ := Option.ne_none_iff_exists'.1 hsome
    have hleast := closest?_eq_some_iff.1 hclosest
    obtain ⟨name, hname⟩ := exists_missing hleast.mem.2 (hnofit closest hleast.mem.1)
    exact ⟨name, hnofit, closest, hleast, head?_missing_eq_some_iff.1 hname⟩

/-- Where no template takes the bindings there is always a name to give. -/
theorem exists_unexpected_iff :
    (∃ segment, resolve endpoint templates b = .error (.unexpectedRouteValue endpoint segment)) ↔
      ∀ t ∈ templates, ¬ Takes b t := by
  simp only [resolve_eq_unexpected_iff]
  constructor
  · rintro ⟨segment, hnone, -⟩
    exact hnone
  · intro hnone
    exact ⟨_, hnone, (getD_stray?_eq_iff hnone).1 rfl⟩

/-- There are three outcomes. -/
theorem resolve_trichotomy (endpoint : String) (templates : List Template) (b : Bindings) :
    (∃ path, resolve endpoint templates b = .ok path) ∨
      (∃ segment, resolve endpoint templates b = .error (.missingRouteValue endpoint segment)) ∨
      ∃ segment, resolve endpoint templates b = .error (.unexpectedRouteValue endpoint segment) := by
  by_cases hfits : ∃ t ∈ templates, Fits b t
  · exact .inl (exists_path_iff.2 hfits)
  · have hnofit : ∀ t ∈ templates, ¬ Fits b t := fun t ht h => hfits ⟨t, ht, h⟩
    by_cases htakes : ∃ t ∈ templates, Takes b t
    · exact .inr (.inl (exists_missing_iff.2 ⟨hnofit, htakes⟩))
    · exact .inr (.inr (exists_unexpected_iff.2 fun t ht h => htakes ⟨t, ht, h⟩))

/-- **Which path is chosen, and what an error names.** The request has a path exactly when some
template fits the bindings, and the path is that of the first one. A segment is missing exactly when
none fits but some template takes the bindings; it is the first unbound placeholder of the template
that, of those that take them, has the fewest unbound placeholders and is the first such one. In
every other case a segment does not belong, and the error names it as `IsStray` says. -/
theorem resolve_cases (endpoint : String) (templates : List Template) (b : Bindings) :
    ((∀ path, resolve endpoint templates b = .ok path ↔
        ∃ t, IsFirst (Fits b) templates t ∧ t.render b = .ok path) ∧
      ((∃ path, resolve endpoint templates b = .ok path) ↔ ∃ t ∈ templates, Fits b t)) ∧
    ((∀ segment, resolve endpoint templates b = .error (.missingRouteValue endpoint segment) ↔
        (∀ t ∈ templates, ¬ Fits b t) ∧
          ∃ t, IsFirstLeast (Takes b) (fun t => (t.missing b).length) templates t ∧
            IsFirst (fun name => b.isBound name = false) t.params segment) ∧
      ((∃ segment, resolve endpoint templates b = .error (.missingRouteValue endpoint segment)) ↔
        (∀ t ∈ templates, ¬ Fits b t) ∧ ∃ t ∈ templates, Takes b t)) ∧
    ((∀ segment, resolve endpoint templates b = .error (.unexpectedRouteValue endpoint segment) ↔
        (∀ t ∈ templates, ¬ Takes b t) ∧ IsStray templates b segment) ∧
      ((∃ segment, resolve endpoint templates b = .error (.unexpectedRouteValue endpoint segment)) ↔
        ∀ t ∈ templates, ¬ Takes b t)) :=
  ⟨⟨fun _ => resolve_eq_ok_iff, exists_path_iff⟩,
    ⟨fun _ => resolve_eq_missing_iff, exists_missing_iff⟩,
    ⟨fun _ => resolve_eq_unexpected_iff, exists_unexpected_iff⟩⟩

end Outcomes

end Route

end SearchRest
