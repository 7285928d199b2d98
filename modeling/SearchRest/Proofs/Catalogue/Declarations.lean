/-
What the declarations of the catalogue agree on.

The segments that a setter or a constructor binds are declared apart from the
path templates. That they fit is a finite fact about every operation: one of its
templates has a place for everything that can be bound, each way to start a
draft has a template of just its segments, and literals are texts that may stand
in a path. The facts are evaluated here for the whole catalogue, and what is
proved about drafts uses nothing else about it.
-/
import SearchRest.Catalogue
import SearchRest.Proofs.Route.Rendering
import SearchRest.Proofs.Selection
import SearchRest.Proofs.Url.Path

set_option autoImplicit false

namespace SearchRest

/-! ## Segments of an operation -/

/-- The segments that come with a role. -/
def Role.segments : Role → List String
  | .index | .indices => ["index"]
  | .document => ["index", "id"]
  | .listing | .table => []

/-- The segments that a draft of the operation can bind. -/
def Operation.bindable (o : Operation) : List String :=
  o.route.map RouteField.segment
    ++ o.constructors.flatMap (fun c => c.fields.map RouteField.segment)
    ++ o.roles.flatMap Role.segments

/-- The flags that come with a role. -/
def Role.clearable : Role → List String
  | .index | .indices | .document => []
  | .listing => ["help"]
  | .table => ["v"]

/-- The flags of all operations. -/
def Operation.commonFlags : List String := ["pretty", "human", "error_trace"]

/-- The parameters that a setter of the operation can clear. -/
def Operation.clearable (o : Operation) : List String :=
  o.flags.map FlagField.key ++ o.roles.flatMap Role.clearable ++ commonFlags

/-- The segments of each way to start a draft of the operation. -/
def Operation.startSegments (o : Operation) : List (List String) :=
  o.constructors.map (fun c => c.fields.map RouteField.segment)
    ++ if Role.document ∈ o.roles then [["index", "id"]] else []

/-- Whether the placeholders of the template are just the named segments. -/
def Template.HasJust (names : List String) (t : Template) : Prop :=
  (∀ name ∈ t.params, name ∈ names) ∧ ∀ name ∈ names, name ∈ t.params

instance (names : List String) (t : Template) : Decidable (t.HasJust names) :=
  inferInstanceAs (Decidable (_ ∧ _))

/-! ## Agreement with the templates -/

/-- Whether the text of a literal may stand between the separators of a path, and stays there. -/
def Segment.IsClean : Segment → Prop
  | .literal text =>
    text ≠ "" ∧ text.toList.all isPathChar = true ∧ Url.isDots text.toList = false
  | .placeholder _ => True

instance : (s : Segment) → Decidable s.IsClean
  | .literal text => inferInstanceAs (Decidable
      (text ≠ "" ∧ text.toList.all isPathChar = true ∧ Url.isDots text.toList = false))
  | .placeholder _ => inferInstanceAs (Decidable True)

theorem Segment.isClean_render {b : Bindings} {s : Segment} {piece : List Char}
    (hs : s.IsClean) (h : s.render b = .ok piece) :
    piece ≠ [] ∧ ∀ c ∈ piece, isPathChar c = true := by
  cases s with
  | literal text =>
    obtain rfl := Except.ok.inj h
    exact ⟨fun hnil => hs.1 (String.toList_eq_nil_iff.1 hnil), List.all_eq_true.1 hs.2.1⟩
  | placeholder name =>
    obtain ⟨v, -, hv, rfl⟩ := render_placeholder_eq_ok_iff.1 h
    exact ⟨RouteValue.encodeChars_ne_nil hv, fun c => RouteValue.isPathChar_of_mem_encodeChars⟩

/-- **What the declarations of an operation and its templates agree on.** -/
structure Operation.WellDeclared (o : Operation) : Prop where
  /-- One template has a place for everything that can be bound. -/
  room : ∃ t ∈ o.spec.templates, ∀ name ∈ o.bindable, name ∈ t.params
  /-- Each way to start has its template. -/
  starts : ∀ names ∈ o.startSegments, ∃ t ∈ o.spec.templates, t.HasJust names
  /-- Literals may stand in a path. -/
  literals : ∀ t ∈ o.spec.templates, ∀ s ∈ t.segments, s.IsClean

instance (o : Operation) : Decidable o.WellDeclared :=
  decidable_of_iff
    ((∃ t ∈ o.spec.templates, ∀ name ∈ o.bindable, name ∈ t.params) ∧
      (∀ names ∈ o.startSegments, ∃ t ∈ o.spec.templates, t.HasJust names) ∧
      ∀ t ∈ o.spec.templates, ∀ s ∈ t.segments, s.IsClean)
    ⟨fun ⟨hroom, hstarts, hliterals⟩ => ⟨hroom, hstarts, hliterals⟩,
      fun h => ⟨h.room, h.starts, h.literals⟩⟩

/-- **The catalogue is well declared.** -/
theorem Catalogue.wellDeclared : ∀ o ∈ Catalogue.operations, o.WellDeclared := by decide +kernel

/-- No two operations have one name, so the registry has the endpoint of each. -/
theorem Catalogue.registry_get {o : Operation} (ho : o ∈ Catalogue.operations) :
    Catalogue.registry.get o.spec.name = .ok o.spec := by
  have hnodup : ((Catalogue.operations.map Operation.spec).map EndpointSpec.name).Nodup := by
    decide +kernel
  have hget : Catalogue.registry.byName.get? o.spec.name = some o.spec := by
    refine KeyMap.get?_ofList_of_mem ?_ (List.mem_map.2 ⟨o.spec, List.mem_map_of_mem ho, rfl⟩)
    rw [List.map_map]
    exact hnodup
  rw [Registry.get, hget]

/-- No two setters of an operation have one name. -/
theorem Catalogue.nodup_setters :
    ∀ o ∈ Catalogue.operations, (o.setters.map Setter.name).Nodup := by decide +kernel

/-- So each is found by its name. -/
theorem Operation.setter?_of_mem {o : Operation} (ho : o ∈ Catalogue.operations) {s : Setter}
    (hs : s ∈ o.setters) : o.setter? s.name = some s := by
  have hone : o.setters.Pairwise fun r t =>
      ¬ (decide (r.name = s.name) = true ∧ decide (t.name = s.name) = true) := by
    refine (List.pairwise_map.1 (Catalogue.nodup_setters o ho)).imp ?_
    rintro r t hne ⟨hr, ht⟩
    exact hne ((of_decide_eq_true hr).trans (of_decide_eq_true ht).symm)
  rw [setter?, ← List.head?_filter, head?_filter_eq_some_iff, isFirst_iff_mem hone]
  exact ⟨hs, decide_eq_true rfl⟩

/-- What the registry has is the endpoint of an operation. -/
theorem Catalogue.exists_of_registry_get {name : String} {e : EndpointSpec}
    (h : Catalogue.registry.get name = .ok e) : ∃ o ∈ Catalogue.operations, o.spec = e := by
  unfold Registry.get at h
  split at h
  · rename_i found hfound
    obtain rfl := Except.ok.inj h
    obtain ⟨spec, hspec, heq⟩ := List.mem_map.1 (KeyMap.mem_of_get?_ofList hfound)
    obtain ⟨o, ho, rfl⟩ := List.mem_map.1 hspec
    exact ⟨o, ho, (Prod.mk.inj heq).2⟩
  · cases h

end SearchRest
