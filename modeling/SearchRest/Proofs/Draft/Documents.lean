/-
Drafts that address a document.

The index of a kind and the id of a document are bound first, and what the
document adds is written over them. So under each segment stands the last value
that was given to it, by the document itself or, if it gave none, as its id or
its index; the parameters are those that it added, as if they were set one after
the other. A document that adds nothing is addressed in the same way by its id
alone and by the constructor that takes an index and an id.

Without an id only the index is bound. Two of the operations on documents have a
template for that; the others have a single template, and it lacks the id.
-/
import SearchRest.Proofs.Catalogue.Building
import SearchRest.Proofs.Param.History

set_option autoImplicit false

namespace SearchRest

/-! ## The last value under a key -/

theorem lookup_reverse_append_singleton {α : Type} (l : List (String × α)) (e : String × α)
    (k : String) :
    (l ++ [e]).reverse.lookup k = if e.1 = k then some e.2 else l.reverse.lookup k := by
  rw [List.reverse_append, List.reverse_singleton, List.singleton_append, List.lookup_cons]
  by_cases hk : e.1 = k
  · rw [if_pos hk, beq_iff_eq.2 hk.symm]
  · rw [if_neg hk, beq_eq_false_iff_ne.2 (Ne.symm hk)]

/-- **A map that was made of entries has the last one of each key.** -/
theorem KeyMap.get?_ofList {α : Type} (l : List (String × α)) (k : String) :
    (ofList l).get? k = l.reverse.lookup k := by
  induction l using List.reverseRecOn with
  | nil => rfl
  | append_singleton l e ih =>
    have hlast : ofList (l ++ [e]) = (ofList l).insert e.1 e.2 := List.foldl_append
    rw [hlast, get?_insert, ih, lookup_reverse_append_singleton]

namespace ParamBag

/-- The bag after parameters are set, the first one first. -/
def setAll (bag : ParamBag) (l : List (String × ParamValue)) : ParamBag :=
  l.foldl (fun bag e => bag.set e.1 e.2) bag

theorem setAll_append_singleton (bag : ParamBag) (l : List (String × ParamValue))
    (e : String × ParamValue) : bag.setAll (l ++ [e]) = (bag.setAll l).set e.1 e.2 :=
  List.foldl_append

/-- The last value of each parameter stays. -/
theorem query_setAll (l : List (String × ParamValue)) (key : String) :
    (empty.setAll l).query.get? key = l.reverse.lookup key := by
  induction l using List.reverseRecOn with
  | nil => rfl
  | append_singleton l e ih =>
    rw [setAll_append_singleton, query_set, KeyMap.get?_insert, ih,
      lookup_reverse_append_singleton]

/-- The last format decides the header `accept`, and there is no other header. -/
theorem headers_setAll (l : List (String × ParamValue)) (name : String) :
    (empty.setAll l).headers.get? name
      = if name = "accept" then (l.reverse.lookup "format").bind mediaType? else none := by
  induction l using List.reverseRecOn with
  | nil =>
    rw [List.reverse_nil, List.lookup_nil, Option.bind_none, ite_self]
    rfl
  | append_singleton l e ih =>
    rw [setAll_append_singleton, headers_set, ih, lookup_reverse_append_singleton]
    by_cases hname : name = "accept"
    · by_cases hformat : e.1 = "format"
      · simp [hname, hformat]
      · simp [hname, hformat]
    · simp [hname]

end ParamBag

/-! ## What addresses a document -/

/-- **The segments that are bound for a document**, in order: its index, its id if it has one, and
what it adds. -/
def DocumentRef.segments (doc : DocumentRef) (m : IndexMappings) (added : Contribution) :
    List (String × RouteValue) :=
  ("index", (m.indexFor doc.kind).toRoute) ::
    ((doc.id.map fun id => ("id", id.toRoute)).toList ++ added.route)

namespace Draft

theorem editAll_append (d : Draft) (l l' : List Edit) :
    d.editAll (l ++ l') = (d.editAll l).editAll l' := List.foldl_append

theorem editAll_bind (l : List (String × RouteValue)) (d : Draft) :
    d.editAll (l.map fun e => .bind e.1 e.2) = { d with route := d.route.insertAll l } := by
  induction l generalizing d with
  | nil => rfl
  | cons e l ih => exact ih (d.edit (.bind e.1 e.2))

theorem editAll_query (l : List (String × ParamValue)) (d : Draft) :
    d.editAll (l.map fun e => .query e.1 (some e.2)) = { d with params := d.params.setAll l } := by
  induction l generalizing d with
  | nil => rfl
  | cons e l ih => exact ih (d.edit (.query e.1 (some e.2)))

/-- **A document binds its segments and sets its parameters.** -/
theorem fromDocumentWith_eq (m : IndexMappings) (doc : DocumentRef)
    (hook : DocumentRef → Contribution) :
    fromDocumentWith m doc hook
      = ⟨.ofList (doc.segments m (hook doc)), ParamBag.empty.setAll (hook doc).params, none⟩ := by
  have hedits : indexEdit m doc.kind :: (doc.id.map idEdit).toList ++ (hook doc).edits
      = (doc.segments m (hook doc)).map (fun e => .bind e.1 e.2)
        ++ (hook doc).params.map fun e => .query e.1 (some e.2) := by
    cases hid : doc.id <;>
      simp [DocumentRef.segments, Contribution.edits, indexEdit, idEdit, hid]
  rw [fromDocumentWith, hedits, editAll_append, editAll_bind, editAll_query]
  rfl

/-- What a document adds is all that matters of a hook. -/
theorem fromDocumentWith_of_isEmpty {m : IndexMappings} {doc : DocumentRef}
    {hook : DocumentRef → Contribution} (h : (hook doc).isEmpty = true) :
    fromDocumentWith m doc hook = fromDocument m doc := by
  have hnone : hook doc = .none := by
    obtain ⟨hroute, hparams⟩ := (Bool.and_eq_true _ _).mp h
    exact congrArg₂ Contribution.mk (List.isEmpty_iff.1 hroute) (List.isEmpty_iff.1 hparams)
  rw [fromDocument, fromDocumentWith, fromDocumentWith, hnone]

theorem fromDocument_of_id {m : IndexMappings} {doc : DocumentRef} {id : ItemId}
    (h : doc.id = some id) : fromDocument m doc = forDocumentId m doc.kind id := by
  rw [fromDocument, fromDocumentWith, h]
  rfl

/-- A document without an id binds its index and nothing else. -/
theorem isBound_fromDocument {m : IndexMappings} {doc : DocumentRef} (hid : doc.id = none)
    (hindex : (m.indexFor doc.kind).text ≠ "") (name : String) :
    (fromDocument m doc).route.isBound name = true ↔ name = "index" := by
  have hroute : (fromDocument m doc).route
      = Draft.empty.route.insert "index" (m.indexFor doc.kind).toRoute := by
    rw [fromDocument, fromDocumentWith, hid]
    rfl
  have hshows : (m.indexFor doc.kind).toRoute.isEmpty = false := decide_eq_false hindex
  rw [hroute, Bindings.isBound_insert, hshows]
  by_cases hname : "index" = name
  · simp [← hname]
  · rw [if_neg hname]
    exact iff_of_false Bool.false_ne_true fun h => hname h.symm

end Draft

/-! ## The operations on documents -/

namespace Catalogue

/-- The operations on documents that have a path without an id. -/
def withoutId : List String := ["index", "termvectors"]

/-- The templates of an operation on documents have an index and an id; those of two operations
also have an index alone. -/
theorem params_of_document : ∀ o ∈ operations, Role.document ∈ o.roles →
    o.spec.templates.map Template.params
      = if o.spec.name ∈ withoutId then [["index", "id"], ["index"]] else [["index", "id"]] := by
  decide +kernel

/-- Each of these operations has a constructor that takes an index and an id. -/
theorem constructor_of_document : ∀ o ∈ operations, Role.document ∈ o.roles →
    o.constructor? (if o.spec.name ∈ withoutId then "with_id" else "new")
      = some ⟨if o.spec.name ∈ withoutId then "with_id" else "new", [indexName, itemId]⟩ := by
  decide +kernel

end Catalogue

namespace Operation

variable {o : Operation} {m : IndexMappings} {doc : DocumentRef}

/-- Where there is a template without the id, it is the one for a document without an id. -/
theorem resolve_of_withoutId (ho : o ∈ Catalogue.operations) (hrole : Role.document ∈ o.roles)
    (hname : o.spec.name ∈ Catalogue.withoutId) (hid : doc.id = none)
    (hindex : (m.indexFor doc.kind).text ≠ "") :
    ∃ t path, IsFirst (fun t : Template => "id" ∉ t.params) o.spec.templates t ∧
      t.render (Draft.fromDocument m doc).route = .ok path ∧
      (Draft.fromDocument m doc).resolve o.spec = .ok ⟨o.spec, path, ∅, none⟩ := by
  have hparams := Catalogue.params_of_document o ho hrole
  have hbound := Draft.isBound_fromDocument hid hindex
  rw [if_pos hname] at hparams
  obtain ⟨full, l, hfull, hfullParams, hl⟩ := List.map_eq_cons_iff.1 hparams
  obtain ⟨bare, l', rfl, hbareParams, hl'⟩ := List.map_eq_cons_iff.1 hl
  obtain rfl := List.map_eq_nil_iff.1 hl'
  have hid_full : "id" ∈ full.params := by
    rw [hfullParams]
    decide
  have hid_bare : "id" ∉ bare.params := by
    rw [hbareParams]
    decide
  have hfits : Route.Fits (Draft.fromDocument m doc).route bare := by
    intro name
    rw [hbareParams, hbound, List.mem_singleton]
  -- the template in front of it needs the id
  have hnotFits : ¬ Route.Fits (Draft.fromDocument m doc).route full := by
    intro h
    exact absurd ((hbound "id").1 ((h "id").1 hid_full)) (by decide)
  obtain ⟨path, hpath⟩ := Route.exists_render_iff.2 fun name => (hfits name).1
  have hfirst : IsFirst (Route.Fits (Draft.fromDocument m doc).route) o.spec.templates bare := by
    rw [hfull, isFirst_cons, isFirst_cons]
    exact .inr ⟨hnotFits, .inl ⟨hfits, rfl⟩⟩
  have hresolve := (Start.document hrole m doc).sound.resolve_of_path
    (Route.resolve_eq_ok_iff.2 ⟨bare, hfirst, hpath⟩)
  -- nothing but segments was written
  have hparams : (Draft.fromDocument m doc).params = ∅ := by
    rw [Draft.fromDocument, Draft.fromDocumentWith, hid]
    rfl
  have hbody : (Draft.fromDocument m doc).body = none := by
    rw [Draft.fromDocument, Draft.fromDocumentWith, hid]
    rfl
  refine ⟨bare, path, ?_, hpath, ?_⟩
  · rw [hfull, isFirst_cons, isFirst_cons]
    exact .inr ⟨fun h => h hid_full, .inl ⟨hid_bare, rfl⟩⟩
  · rw [← hparams, ← hbody]
    exact hresolve

/-- The other operations have one template, and it lacks the id. -/
theorem resolve_of_not_withoutId (ho : o ∈ Catalogue.operations) (hrole : Role.document ∈ o.roles)
    (hname : o.spec.name ∉ Catalogue.withoutId) (hid : doc.id = none)
    (hindex : (m.indexFor doc.kind).text ≠ "") :
    (Draft.fromDocument m doc).resolve o.spec = .error (.missingRouteValue o.spec.name "id") := by
  have hparams := Catalogue.params_of_document o ho hrole
  have hbound := Draft.isBound_fromDocument hid hindex
  rw [if_neg hname] at hparams
  obtain ⟨full, l, hfull, hfullParams, hl⟩ := List.map_eq_cons_iff.1 hparams
  obtain rfl := List.map_eq_nil_iff.1 hl
  have hunbound : (Draft.fromDocument m doc).route.isBound "id" = false :=
    Bool.eq_false_iff.2 fun h => absurd ((hbound "id").1 h) (by decide)
  have htakes : Route.Takes (Draft.fromDocument m doc).route full := by
    intro name hname
    rw [hfullParams, (hbound name).1 hname]
    decide
  refine resolve_of_error (Route.resolve_eq_missing_iff.2 ⟨?_, full, ?_, ?_⟩)
  · intro t ht hfits
    rw [hfull, List.mem_singleton] at ht
    have hboundId := (hfits "id").1 (by rw [ht, hfullParams]; decide)
    rw [hunbound] at hboundId
    cases hboundId
  · rw [hfull]
    exact ⟨[], [], rfl, htakes, fun _ h => absurd h List.not_mem_nil,
      fun _ h => absurd h List.not_mem_nil⟩
  · rw [hfullParams]
    refine ⟨["index"], [], rfl, hunbound, fun name hname hfree => ?_⟩
    rw [List.mem_singleton.1 hname, (hbound "index").2 rfl] at hfree
    cases hfree

/-- **The ways to address a document agree.** Of an operation on documents, the draft for a document
binds the index of its kind, then its id if it has one, then the segments that a hook adds, and sets
the parameters that the hook adds, each in the order given. So the last value under each name stays,
and the header `accept` goes with the last format. A hook that adds nothing makes no difference. A
document with an id is addressed in the same way by that id and by the constructor of the operation
that takes an index and an id. Without an id, and with an index that is not empty, it has a path in
just two of the operations, by the template without the id; in the others the error names the id. -/
theorem fromDocument_faithful (ho : o ∈ Catalogue.operations) (hrole : Role.document ∈ o.roles)
    (m : IndexMappings) (doc : DocumentRef) (hook : DocumentRef → Contribution) :
    let added := hook doc
    let d := Draft.fromDocumentWith m doc hook
    let maker := if o.spec.name ∈ Catalogue.withoutId then "with_id" else "new"
    (d = ⟨.ofList (doc.segments m added), ParamBag.empty.setAll added.params, none⟩ ∧
      (∀ name, d.route.get? name = (doc.segments m added).reverse.lookup name) ∧
      (∀ key, d.params.get? key = added.params.reverse.lookup key) ∧
      ∀ name, d.params.headers.get? name = if name = "accept" then
        (added.params.reverse.lookup "format").bind ParamBag.mediaType? else none) ∧
    (added.isEmpty = true → d = Draft.fromDocument m doc) ∧
    (∀ id, doc.id = some id →
      Draft.fromDocument m doc = Draft.forDocumentId m doc.kind id ∧
      o.constructor? maker = some ⟨maker, [Catalogue.indexName, Catalogue.itemId]⟩ ∧
      Draft.fromDocument m doc = Constructor.draft
        ⟨maker, [Catalogue.indexName, Catalogue.itemId]⟩ (m.indexFor doc.kind, id, ())) ∧
    (doc.id = none → (m.indexFor doc.kind).text ≠ "" →
      (o.spec.name ∈ Catalogue.withoutId →
        ∃ t path, IsFirst (fun t : Template => "id" ∉ t.params) o.spec.templates t ∧
          t.render (Draft.fromDocument m doc).route = .ok path ∧
          (Draft.fromDocument m doc).resolve o.spec = .ok ⟨o.spec, path, ∅, none⟩) ∧
      (o.spec.name ∉ Catalogue.withoutId →
        (Draft.fromDocument m doc).resolve o.spec
          = .error (.missingRouteValue o.spec.name "id"))) := by
  intro added d maker
  have hd : d = ⟨.ofList (doc.segments m added), ParamBag.empty.setAll added.params, none⟩ :=
    Draft.fromDocumentWith_eq m doc hook
  refine ⟨⟨hd, ?_, ?_, ?_⟩, Draft.fromDocumentWith_of_isEmpty, ?_, ?_⟩
  · intro name
    rw [hd]
    exact KeyMap.get?_ofList _ name
  · intro key
    rw [hd]
    exact ParamBag.query_setAll _ key
  · intro name
    rw [hd]
    exact ParamBag.headers_setAll _ name
  · intro id hid
    refine ⟨Draft.fromDocument_of_id hid, Catalogue.constructor_of_document o ho hrole, ?_⟩
    rw [Draft.fromDocument_of_id hid]
    rfl
  · intro hid hindex
    exact ⟨fun hname => resolve_of_withoutId ho hrole hname hid hindex,
      fun hname => resolve_of_not_withoutId ho hrole hname hid hindex⟩

/-- Orders are in the index `sales`. One with an id that also gives its own index and routing, and a
format twice; and one without an id, which can be indexed but not fetched. -/
theorem fromDocument_faithful_order :
    let m : IndexMappings := IndexMappings.empty.map ⟨"Order"⟩ ⟨"sales"⟩
    let placed : DocumentRef := ⟨⟨"Order"⟩, some ⟨"42"⟩⟩
    let draft : DocumentRef := ⟨⟨"Order"⟩, none⟩
    let hook (_ : DocumentRef) : Contribution :=
      ⟨[("index", .single "sales-eu")],
        [("format", .token "json"), ("routing", .text "eu"), ("format", .text "YAML")]⟩
    let d := Draft.fromDocumentWith m placed hook
    (d.route.get? "index" = some (.single "sales-eu") ∧ d.route.get? "id" = some (.single "42") ∧
      d.params.get? "format" = some (.text "YAML") ∧
      d.params.headers.get? "accept" = some "application/yaml") ∧
    Draft.fromDocument m placed
      = Constructor.draft ⟨"new", [Catalogue.indexName, Catalogue.itemId]⟩ (⟨"sales"⟩, ⟨"42"⟩, ()) ∧
    (∃ (t : Template) (path : String), t.render (Draft.fromDocument m draft).route = .ok path ∧
      (Draft.fromDocument m draft).resolve Catalogue.indexDocument.spec
        = .ok ⟨Catalogue.indexDocument.spec, path, ∅, none⟩) ∧
    (Draft.fromDocument m draft).resolve Catalogue.getDocument.spec
      = .error (.missingRouteValue "get" "id") := by
  intro m placed draft hook d
  have hget : Catalogue.getDocument ∈ Catalogue.operations := by decide +kernel
  have hput : Catalogue.indexDocument ∈ Catalogue.operations := by decide +kernel
  have hsales : m.indexFor ⟨"Order"⟩ = ⟨"sales"⟩ := by decide +kernel
  have hshows : (m.indexFor ⟨"Order"⟩).text ≠ "" := by decide +kernel
  obtain ⟨⟨-, hroute, hquery, hheaders⟩, -, hmade, -⟩ :=
    fromDocument_faithful hget (by decide) m placed hook
  obtain ⟨-, -, -, hfetched⟩ := fromDocument_faithful hget (by decide) m draft hook
  obtain ⟨-, -, -, hindexed⟩ := fromDocument_faithful hput (by decide) m draft hook
  refine ⟨⟨?_, ?_, ?_, ?_⟩, ?_, ?_, (hfetched rfl hshows).2 (by decide)⟩
  · exact (hroute "index").trans (by decide +kernel)
  · exact (hroute "id").trans (by decide +kernel)
  · exact (hquery "format").trans (by decide +kernel)
  · exact (hheaders "accept").trans (by decide +kernel)
  · obtain ⟨-, -, hconstructor⟩ := hmade ⟨"42"⟩ rfl
    rw [hsales] at hconstructor
    exact hconstructor
  · obtain ⟨t, path, -, hrender, hresolve⟩ := (hindexed rfl hshows).1 (by decide)
    exact ⟨t, path, hrender, hresolve⟩

end Operation

end SearchRest
