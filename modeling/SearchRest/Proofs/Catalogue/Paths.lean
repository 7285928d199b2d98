/-
Which path an endpoint of the catalogue chooses.

The choice goes by the order of the templates where several of them fit, and an
error may name a bound segment that each of several templates has but none
together with the others. Neither happens in the catalogue. No two templates of
an endpoint have the same placeholders, so at most one fits; and one template
has all segments of its endpoint, so what does not belong is just what is no
segment of the endpoint. Both are finite facts about the declared templates.
Everything else about the choice goes by membership, and so the order in which
templates are declared does not matter: in another order there is the same path,
or an error of the same kind.
-/
import SearchRest.Proofs.Catalogue.Declarations
import SearchRest.Proofs.Route.Segments

set_option autoImplicit false

namespace SearchRest

namespace Route

/-! ## The order of templates -/

/-- **The same choice**: the same path, or an error of the same kind. An error that a segment does
not belong names the same segment. -/
inductive SameChoice : Except RequestError String → Except RequestError String → Prop where
  | path (path : String) : SameChoice (.ok path) (.ok path)
  | missing (endpoint segment segment' : String) :
    SameChoice (.error (.missingRouteValue endpoint segment))
      (.error (.missingRouteValue endpoint segment'))
  | unexpected (endpoint segment : String) :
    SameChoice (.error (.unexpectedRouteValue endpoint segment))
      (.error (.unexpectedRouteValue endpoint segment))

section Order

variable {b : Bindings} {endpoint : String} {templates templates' : List Template}

/-- Which segment does not belong is said of the templates without their order. -/
theorem isStray_perm (h : templates'.Perm templates) {segment : String} :
    IsStray templates' b segment ↔ IsStray templates b segment := by
  have hnil : templates' = [] ↔ templates = [] := by
    constructor
    · rintro rfl
      exact h.nil_eq.symm
    · rintro rfl
      exact h.eq_nil
  simp only [IsStray, h.mem_iff, hnil]

/-- Where at most one template fits, the path is that of the template that does. -/
theorem resolve_eq_ok_iff_of_pairwise
    (hone : templates.Pairwise fun t t' => ¬ (Fits b t ∧ Fits b t')) {path : String} :
    resolve endpoint templates b = .ok path ↔
      ∃ t ∈ templates, Fits b t ∧ t.render b = .ok path := by
  simp only [resolve_eq_ok_iff, isFirst_iff_mem hone, and_assoc]

/-- **Where at most one template fits, their order does not matter.** -/
theorem sameChoice_of_perm (hone : templates.Pairwise fun t t' => ¬ (Fits b t ∧ Fits b t'))
    (h : templates'.Perm templates) :
    SameChoice (resolve endpoint templates' b) (resolve endpoint templates b) := by
  have hone' : templates'.Pairwise fun t t' => ¬ (Fits b t ∧ Fits b t') :=
    (h.pairwise_iff fun hne hboth => hne hboth.symm).2 hone
  rcases resolve_trichotomy endpoint templates b with
    ⟨path, hpath⟩ | ⟨segment, hmissing⟩ | ⟨segment, hunexpected⟩
  · obtain ⟨t, ht, hfits⟩ := (resolve_eq_ok_iff_of_pairwise hone).1 hpath
    have hpath' : resolve endpoint templates' b = .ok path :=
      (resolve_eq_ok_iff_of_pairwise hone').2 ⟨t, h.mem_iff.2 ht, hfits⟩
    rw [hpath, hpath']
    exact .path path
  · obtain ⟨hnofit, t, ht, htakes⟩ := exists_missing_iff.1 ⟨segment, hmissing⟩
    obtain ⟨segment', hmissing'⟩ : ∃ segment', resolve endpoint templates' b
        = .error (.missingRouteValue endpoint segment') :=
      exists_missing_iff.2 ⟨fun t ht => hnofit t (h.mem_iff.1 ht), t, h.mem_iff.2 ht, htakes⟩
    rw [hmissing, hmissing']
    exact .missing endpoint segment' segment
  · obtain ⟨hnone, hstray⟩ := resolve_eq_unexpected_iff.1 hunexpected
    have hunexpected' : resolve endpoint templates' b
        = .error (.unexpectedRouteValue endpoint segment) :=
      resolve_eq_unexpected_iff.2
        ⟨fun t ht => hnone t (h.mem_iff.1 ht), (isStray_perm h).2 hstray⟩
    rw [hunexpected, hunexpected']
    exact .unexpected endpoint segment

end Order

end Route

/-! ## The templates of an endpoint -/

namespace EndpointSpec

variable {e : EndpointSpec}

/-- **Templates between which the bound segments decide.** -/
structure IsSettled (e : EndpointSpec) : Prop where
  /-- No two templates have the same placeholders. -/
  distinct : e.templates.Pairwise fun t t' => ¬ t.HasJust t'.params
  /-- One template has all segments. -/
  room : ∃ t ∈ e.templates, ∀ name ∈ e.segmentNames, name ∈ t.params

instance (e : EndpointSpec) : Decidable e.IsSettled :=
  decidable_of_iff
    ((e.templates.Pairwise fun t t' => ¬ t.HasJust t'.params) ∧
      ∃ t ∈ e.templates, ∀ name ∈ e.segmentNames, name ∈ t.params)
    ⟨fun ⟨hdistinct, hroom⟩ => ⟨hdistinct, hroom⟩, fun h => ⟨h.distinct, h.room⟩⟩

variable {b : Bindings} (he : e.IsSettled)

include he

/-- **At most one template fits.** -/
theorem IsSettled.pairwise_fits :
    e.templates.Pairwise fun t t' => ¬ (Route.Fits b t ∧ Route.Fits b t') := by
  refine he.distinct.imp ?_
  rintro t t' hne ⟨ht, ht'⟩
  -- both would have the bound names for placeholders
  exact hne ⟨fun name hname => (ht' name).2 ((ht name).1 hname),
    fun name hname => (ht name).2 ((ht' name).1 hname)⟩

/-- A template takes the bindings just when they bind nothing but segments of the endpoint. -/
theorem IsSettled.exists_takes_iff :
    (∃ t ∈ e.templates, Route.Takes b t) ↔
      ∀ name, b.isBound name = true → name ∈ e.segmentNames := by
  constructor
  · rintro ⟨t, ht, htakes⟩ name hname
    exact mem_segmentNames_iff.2 ⟨t, ht, htakes name hname⟩
  · intro hall
    obtain ⟨room, hroom, hsegments⟩ := he.room
    exact ⟨room, hroom, fun name hname => hsegments name (hall name hname)⟩

/-- **What does not belong is the least bound name that is no segment.** -/
theorem IsSettled.resolve_eq_unexpected_iff {segment : String} :
    Route.resolve e.name e.templates b = .error (.unexpectedRouteValue e.name segment) ↔
      IsByteLeast (fun name => b.isBound name = true ∧ name ∉ e.segmentNames) segment := by
  have hunknown : ∀ name, (∀ t ∈ e.templates, name ∉ t.params) ↔ name ∉ e.segmentNames := by
    intro name
    rw [mem_segmentNames_iff]
    constructor
    · rintro h ⟨t, ht, hname⟩
      exact h t ht hname
    · exact fun h t ht hname => h ⟨t, ht, hname⟩
  rw [Route.resolve_eq_unexpected_iff, Route.IsStray]
  simp only [hunknown]
  constructor
  · rintro ⟨hnone, hleast | ⟨hknown, -⟩ | ⟨hnil, -⟩⟩
    · exact hleast
    · -- bound segments alone would be taken
      obtain ⟨t, ht, htakes⟩ :=
        he.exists_takes_iff.2 fun name hname => mem_segmentNames_iff.2 (hknown name hname)
      exact absurd htakes (hnone t ht)
    · obtain ⟨room, hroom, -⟩ := he.room
      rw [hnil] at hroom
      cases hroom
  · intro hleast
    refine ⟨fun t ht htakes => ?_, .inl hleast⟩
    exact hleast.1.2 (he.exists_takes_iff.1 ⟨t, ht, htakes⟩ segment hleast.1.1)

theorem IsSettled.exists_unexpected_iff :
    (∃ segment,
        Route.resolve e.name e.templates b = .error (.unexpectedRouteValue e.name segment)) ↔
      ∃ name, b.isBound name = true ∧ name ∉ e.segmentNames := by
  rw [Route.exists_unexpected_iff]
  constructor
  · intro hnone
    by_contra hall
    obtain ⟨t, ht, htakes⟩ := he.exists_takes_iff.2 fun name hname =>
      Classical.not_not.1 fun hout => hall ⟨name, hname, hout⟩
    exact hnone t ht htakes
  · rintro ⟨name, hname, hout⟩ t ht htakes
    exact hout (he.exists_takes_iff.1 ⟨t, ht, htakes⟩ name hname)

/-- Where everything that is bound belongs, there is a path, or a segment of the endpoint is not
bound. -/
theorem IsSettled.resolve_of_bound
    (hall : ∀ name, b.isBound name = true → name ∈ e.segmentNames) :
    (∃ path, Route.resolve e.name e.templates b = .ok path) ∨
      ∃ segment ∈ e.segmentNames, b.isBound segment = false ∧
        Route.resolve e.name e.templates b = .error (.missingRouteValue e.name segment) := by
  rcases Route.resolve_trichotomy e.name e.templates b with hpath | ⟨segment, hmissing⟩ | hunexpected
  · exact .inl hpath
  · obtain ⟨-, t, hleast, hfirst⟩ := Route.resolve_eq_missing_iff.1 hmissing
    obtain ⟨hparam, hbound⟩ := hfirst.mem
    exact .inr ⟨segment, mem_segmentNames_iff.2 ⟨t, hleast.mem.1, hparam⟩, hbound, hmissing⟩
  · obtain ⟨name, hname, hout⟩ := he.exists_unexpected_iff.1 hunexpected
    exact absurd (hall name hname) hout

end EndpointSpec

/-! ## The catalogue -/

namespace Catalogue

/-- **The templates of the catalogue are settled.** -/
theorem isSettled : ∀ o ∈ operations, o.spec.IsSettled := by decide +kernel

/-- **Which path an endpoint chooses does not depend on the order of its templates.** A segment does
not belong exactly when a value is bound under a name that is no segment of the endpoint, and the
error names the least one of these. Otherwise there is a path, or an error that names a segment of
the endpoint that is not bound. At most one template fits, and in every other order of the templates
there is the same path, or an error of the same kind, which names the same segment if it is one that
does not belong. -/
theorem resolve_settled {name : String} {endpoint : EndpointSpec}
    (hendpoint : registry.get name = .ok endpoint) (b : Bindings) :
    ((∀ segment, Route.resolve endpoint.name endpoint.templates b
          = .error (.unexpectedRouteValue endpoint.name segment) ↔
        IsByteLeast (fun n => b.isBound n = true ∧ n ∉ endpoint.segmentNames) segment) ∧
      ((∃ segment, Route.resolve endpoint.name endpoint.templates b
          = .error (.unexpectedRouteValue endpoint.name segment)) ↔
        ∃ n, b.isBound n = true ∧ n ∉ endpoint.segmentNames)) ∧
    ((∀ n, b.isBound n = true → n ∈ endpoint.segmentNames) →
      (∃ path, Route.resolve endpoint.name endpoint.templates b = .ok path) ∨
        ∃ segment ∈ endpoint.segmentNames, b.isBound segment = false ∧
          Route.resolve endpoint.name endpoint.templates b
            = .error (.missingRouteValue endpoint.name segment)) ∧
    (endpoint.templates.Pairwise fun t t' => ¬ (Route.Fits b t ∧ Route.Fits b t')) ∧
    ∀ templates : List Template, templates.Perm endpoint.templates →
      Route.SameChoice (Route.resolve endpoint.name templates b)
        (Route.resolve endpoint.name endpoint.templates b) := by
  obtain ⟨o, ho, rfl⟩ := exists_of_registry_get hendpoint
  have hsettled := isSettled o ho
  refine ⟨⟨?_, hsettled.exists_unexpected_iff⟩, hsettled.resolve_of_bound,
    hsettled.pairwise_fits, ?_⟩
  · exact fun segment => hsettled.resolve_eq_unexpected_iff
  · exact fun templates hperm => Route.sameChoice_of_perm hsettled.pairwise_fits hperm

/-- The status of a snapshot whose repository is empty, with the templates in reverse. Beside them a
value that does not belong is named although it is bound behind another one. -/
theorem resolve_settled_snapshotStatus :
    registry.get "snapshot.status" = .ok snapshotStatus.spec ∧
    Route.SameChoice
      (Route.resolve "snapshot.status" snapshotStatus.spec.templates.reverse
        (KeyMap.ofList [("repository", .list ["", ""]), ("snapshot", .single "nightly")]))
      (Route.resolve "snapshot.status" snapshotStatus.spec.templates
        (KeyMap.ofList [("repository", .list ["", ""]), ("snapshot", .single "nightly")])) ∧
    ∃ segment, Route.resolve "snapshot.status" snapshotStatus.spec.templates
        (KeyMap.ofList [("snapshot", .single "nightly"), ("zone", .single "a")])
      = .error (.unexpectedRouteValue "snapshot.status" segment) := by
  have hmem : snapshotStatus ∈ operations := by decide +kernel
  have hget : registry.get "snapshot.status" = .ok snapshotStatus.spec :=
    registry_get (o := snapshotStatus) hmem
  obtain ⟨-, -, -, hperm⟩ := resolve_settled hget
    (KeyMap.ofList [("repository", .list ["", ""]), ("snapshot", .single "nightly")])
  obtain ⟨⟨-, hunexpected⟩, -⟩ := resolve_settled hget
    (KeyMap.ofList [("snapshot", .single "nightly"), ("zone", .single "a")])
  exact ⟨hget, hperm _ (List.reverse_perm _), hunexpected.2 ⟨"zone", by decide, by decide⟩⟩

end Catalogue

end SearchRest
