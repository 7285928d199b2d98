/-
Values of segments, typed as words and given by name.

A value that is typed on the command line is a list if there is a comma in it,
and else the text as it is. A list of identifiers is read from a text with or
without commas, and trimmed either way. So the two can differ only where there
is no comma, and then they do as soon as the text has a blank at an end: in the
path of one there is an escaped blank that the path of the other does not have.
-/
import SearchRest.CommandLine.Input
import SearchRest.Identifier
import SearchRest.Proofs.Route.Elements
import SearchRest.Proofs.Text.Trimming

set_option autoImplicit false

namespace SearchRest

/-- A list that was read shows all of its identifiers. -/
theorem IdentifierList.elements_ofText {k : IdentifierKind} (s : String) :
    (ofText s : IdentifierList k).toRoute.elements = Text.commaList s := by
  show (Text.commaList s).filter (· ≠ "") = Text.commaList s
  rw [List.filter_eq_self]
  intro x hx
  simpa using (Text.isEntry_of_mem_commaList hx).ne_empty

namespace CommandLine

variable {s : String}

theorem routeValue_of_mem (h : ',' ∈ s.toList) : routeValue s = .list (Text.commaList s) :=
  if_pos (List.contains_iff_mem.2 h)

theorem routeValue_of_not_mem (h : ',' ∉ s.toList) : routeValue s = .single s :=
  if_neg fun hmem => h (List.contains_iff_mem.1 hmem)

/-- **A typed value shows what a list read from it does** exactly when there is a comma or nothing to
trim. -/
theorem elements_routeValue_eq_iff {k : IdentifierKind} :
    (routeValue s).elements = (IdentifierList.ofText s : IdentifierList k).toRoute.elements ↔
      ',' ∈ s.toList ∨ Text.IsTrimmed s.toList := by
  by_cases hcomma : ',' ∈ s.toList
  · rw [routeValue_of_mem hcomma]
    exact iff_of_true rfl (.inl hcomma)
  · rw [routeValue_of_not_mem hcomma, IdentifierList.elements_ofText,
      Text.commaList_of_not_mem hcomma, or_iff_right hcomma, ← Text.trim_eq_self_iff]
    show [s].filter (· ≠ "") = [Text.trim s].filter (· ≠ "") ↔ _
    constructor
    · intro h
      by_cases hs : s = ""
      · rw [hs]
        rfl
      · have hmem : s ∈ [Text.trim s].filter (· ≠ "") := by
          rw [← h]
          simpa using hs
        exact (List.mem_singleton.1 (List.mem_filter.1 hmem).1).symm
    · intro h
      rw [h]

/-- **A typed value stands for the identifiers that are read from it, unless only the reader of
identifiers trims it.** Of every text, the value typed on the command line and the list of identifiers
of any kind that is read from it are empty alike and have the same form in a path exactly when there is
a comma in the text or no blank at its start or end, and just then they lead to the same path, or to
the same error, wherever they are bound. The value is that of a single identifier made of the text
exactly when there is no comma in it. -/
theorem routeValue_agrees (s : String) :
    (∀ k : IdentifierKind,
      let typed := (IdentifierList.ofText s : IdentifierList k).toRoute
      ((routeValue s).isEmpty = typed.isEmpty ∧ (routeValue s).encode = typed.encode ↔
        ',' ∈ s.toList ∨ Text.IsTrimmed s.toList) ∧
      ((∀ (endpoint : String) (templates : List Template) (b : Bindings) (name : String),
          Route.resolve endpoint templates (b.insert name (routeValue s))
            = Route.resolve endpoint templates (b.insert name typed)) ↔
        ',' ∈ s.toList ∨ Text.IsTrimmed s.toList)) ∧
    ∀ k : IdentifierKind, routeValue s = (⟨s⟩ : Identifier k).toRoute ↔ ',' ∉ s.toList := by
  refine ⟨fun k => ⟨?_, ?_⟩, fun k => ?_⟩
  · rw [RouteValue.encode_eq_encode_iff, ← elements_routeValue_eq_iff (k := k)]
    exact and_iff_right_of_imp RouteValue.isEmpty_eq_of_elements_eq
  · rw [Route.resolve_insert_congr_iff, elements_routeValue_eq_iff]
  · refine ⟨fun h hcomma => ?_, routeValue_of_not_mem⟩
    rw [routeValue_of_mem hcomma] at h
    cases h

/-- A blank in front of an index without a comma stays, and is escaped. -/
example : (routeValue " a").encode = "%20a" ∧
    (IdentifierList.ofText " a" : IndexNames).toRoute.encode = "a" := by
  decide +kernel

end CommandLine

end SearchRest
