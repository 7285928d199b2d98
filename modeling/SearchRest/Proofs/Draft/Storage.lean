/-
Stored drafts.

A draft is stored as the segments it binds, its parameters and headers, and its
body if it has one. The segments and the body are read back as they were; so are
the parameters, unless one is a number that is infinite or none at all, and then
the draft is not read back. Of the headers, `accept` is brought to agree with
the parameter `format`.

That changes nothing. A draft can come about in many ways: a start, setters,
what a document adds, and a stored draft that was written by anybody. No way
leads to a draft whose `format` and `accept` disagree, for nothing but a stored
draft writes `accept` by itself, and that is corrected when it is read.
-/
import SearchRest.Proofs.Catalogue.Building
import SearchRest.Proofs.Param.Storage

set_option autoImplicit false

namespace SearchRest

/-! ## Segments and bodies -/

theorem RouteValue.isOrdered_toJson (v : RouteValue) : v.toJson.IsOrdered := by
  cases v with
  | single s => exact trivial
  | list l => exact Json.isOrdered_texts l

theorem RouteValue.ofJson?_toJson (v : RouteValue) : ofJson? v.toJson = some v := by
  cases v with
  | single s => rfl
  | list l =>
    have hread : ofJson? (toJson (.list l)) = (Json.texts l).asTexts?.map .list := rfl
    rw [hread, Json.asTexts?_texts, Option.map_some]

namespace Body

theorem isOrdered_toJson (b : Body) : b.toJson.IsOrdered := by
  cases b with
  | json v => exact Json.isOrdered_tagged v.ordered
  | lines vs =>
    apply Json.isOrdered_tagged
    apply Json.areOrdered_iff.2
    intro v hv
    obtain ⟨line, -, rfl⟩ := List.mem_map.1 hv
    exact line.ordered
  | text s => exact Json.isOrdered_tagged trivial

theorem ofJson?_toJson (b : Body) : ofJson? b.toJson = some b := by
  cases b with
  | json v =>
    have hread : ofJson? (toJson (.json v)) = some (.json (.ofJson v.value)) := rfl
    rw [hread, Json.ofJson_value]
  | lines vs =>
    have hread : ofJson? (toJson (.lines vs))
        = some (.lines ((vs.map CanonicalJson.value).map .ofJson)) := rfl
    have hline : CanonicalJson.ofJson ∘ CanonicalJson.value = id := funext Json.ofJson_value
    rw [hread, List.map_map, hline, List.map_id]
  | text s => rfl

end Body

/-! ## Drafts -/

namespace Draft

variable {d : Draft}

/-- The parts of a stored draft. -/
theorem fields?_canonical_toJson (d : Draft) :
    Json.fields? ["route", "parameters", "body"] d.toJson.canonical
      = some [some (Bindings.toJson d.route), some d.params.toJson.canonical,
        d.body.map Body.toJson] := by
  have hroute : (Bindings.toJson d.route).canonical = Bindings.toJson d.route :=
    Json.canonical_ofMap_of_isOrdered RouteValue.isOrdered_toJson d.route
  have hbody (b : Body) : b.toJson.canonical = b.toJson :=
    Json.canonical_eq_self b.isOrdered_toJson
  rw [toJson, Json.fields?_canonical]
  cases d.body with
  | none => simp [Json.canonicalEntries, hroute, KeyMap.ofList, KeyMap.insertAll, KeyMap.get?_insert]
  | some b =>
    simp [Json.canonicalEntries, hroute, hbody, KeyMap.ofList, KeyMap.insertAll,
      KeyMap.get?_insert]

theorem readBody?_toJson (body : Option Body) : readBody? (body.map Body.toJson) = some body := by
  cases body with
  | none => rfl
  | some b =>
    -- a body is stored as a tagged value, never as nothing
    have hread : readBody? (some b.toJson) = (Body.ofJson? b.toJson).map some := by
      cases b <;> rfl
    rw [Option.map_some, hread, Body.ofJson?_toJson, Option.map_some]

theorem asMap?_route (d : Draft) :
    (Bindings.toJson d.route).asMap? RouteValue.ofJson? = some d.route :=
  Json.asMap?_ofMap fun e _ => RouteValue.ofJson?_toJson e.2

/-- **A draft is read back**, its headers brought to agree with its format. -/
theorem ofJson?_canonical_toJson (h : d.params.IsFinite) :
    ofJson? d.toJson.canonical = some { d with params := d.params.synced } := by
  rw [ofJson?, fields?_canonical_toJson]
  simp [ParamBag.mapOrEmpty?, asMap?_route, ParamBag.ofJson?_canonical_toJson h, readBody?_toJson]

/-- A draft with a number that is not finite is not read back. -/
theorem ofJson?_canonical_toJson_eq_none (h : ¬ d.params.IsFinite) :
    ofJson? d.toJson.canonical = none := by
  rw [ofJson?, fields?_canonical_toJson]
  simp [ParamBag.mapOrEmpty?, asMap?_route, ParamBag.ofJson?_canonical_toJson_eq_none h]

theorem exists_params_of_ofJson? {stored : Json} (h : ofJson? stored = some d) :
    d.params = .empty ∨ ∃ params, ParamBag.ofJson? params = some d.params := by
  unfold ofJson? at h
  split at h
  · rename_i route params body _
    obtain ⟨route, -, h⟩ := Option.bind_eq_some_iff.1 h
    cases params with
    | none =>
      obtain ⟨bag, hbag, h⟩ := Option.bind_eq_some_iff.1 h
      obtain ⟨body, -, h⟩ := Option.bind_eq_some_iff.1 h
      rw [← Option.some.inj h]
      exact .inl (Option.some.inj hbag).symm
    | some params =>
      obtain ⟨bag, hbag, h⟩ := Option.bind_eq_some_iff.1 h
      obtain ⟨body, -, h⟩ := Option.bind_eq_some_iff.1 h
      rw [← Option.some.inj h]
      exact .inr ⟨params, hbag⟩
  · cases h

theorem isSynced_of_ofJson? {stored : Json} (h : ofJson? stored = some d) :
    d.params.IsSynced := by
  rcases exists_params_of_ofJson? h with hempty | ⟨params, hread⟩
  · rw [hempty]
    exact ParamBag.isSynced_empty
  · exact ParamBag.isSynced_of_ofJson? hread

end Draft

/-! ## The ways to a draft -/

/-- Whether the edit leaves the header `accept` to the parameter `format`. -/
def Edit.LeavesAccept : Edit → Prop
  | .header name _ => Text.sameIgnoringCase name "accept" = false
  | _ => True

/-- No edit that leaves the header alone breaks its agreement with the format. -/
theorem Draft.isSynced_edit {d : Draft} (h : d.params.IsSynced) {e : Edit} (he : e.LeavesAccept) :
    (d.edit e).params.IsSynced := by
  cases e with
  | bind name v => exact h
  | query key v => exact h.step (s := .setOption key v) trivial
  | header name value => exact h.step (s := .setHeader name value) he
  | attach body => exact h

theorem Draft.isSynced_editAll {d : Draft} (h : d.params.IsSynced) {edits : List Edit}
    (hedits : ∀ e ∈ edits, e.LeavesAccept) : (d.editAll edits).params.IsSynced :=
  List.foldlRecOn edits Draft.edit (motive := fun d => d.params.IsSynced) h
    fun _ hd e he => isSynced_edit hd (hedits e he)

theorem Contribution.leavesAccept {c : Contribution} {e : Edit} (h : e ∈ c.edits) :
    e.LeavesAccept := by
  rcases List.mem_append.1 h with h | h
  · obtain ⟨binding, -, rfl⟩ := List.mem_map.1 h
    exact trivial
  · obtain ⟨param, -, rfl⟩ := List.mem_map.1 h
    exact trivial

namespace Operation

variable {o : Operation} {d : Draft}

theorem Allows.leavesAccept {e : Edit} (h : o.Allows e) : e.LeavesAccept := by
  cases e with
  | header name value => exact h
  | _ => exact trivial

/-- **The drafts of an operation**, however they came about. -/
inductive Reachable (o : Operation) : Draft → Prop where
  | start (s : o.Start) : o.Reachable s.draft
  | set {d : Draft} (h : o.Reachable d) (s : o.Setting) : o.Reachable (d.edit s.edit)
  /-- What a document adds is written. -/
  | hook {d : Draft} (h : o.Reachable d) (c : Contribution) : o.Reachable (d.editAll c.edits)
  /-- A stored draft is read, whoever wrote it. -/
  | load {stored : Json} {d : Draft} (h : Draft.ofJson? stored = some d) : o.Reachable d

/-- The draft that addresses a document is one of them, with whatever is added for it. -/
theorem reachable_fromDocumentWith (hrole : Role.document ∈ o.roles) (m : IndexMappings)
    (doc : DocumentRef) (hook : DocumentRef → Contribution) :
    o.Reachable (Draft.fromDocumentWith m doc hook) := by
  have hdraft : Draft.fromDocumentWith m doc hook
      = (Draft.fromDocument m doc).editAll (hook doc).edits := by
    simp [Draft.fromDocument, Draft.fromDocumentWith, Draft.editAll, Contribution.edits,
      Contribution.none]
  rw [hdraft]
  exact .hook (.start (.document hrole m doc)) (hook doc)

/-- **Format and header agree in every draft.** -/
theorem Reachable.isSynced (h : o.Reachable d) : d.params.IsSynced := by
  induction h with
  | start s =>
    obtain ⟨edits, hdraft, hedits⟩ := s.exists_edits
    rw [hdraft]
    exact Draft.isSynced_editAll ParamBag.isSynced_empty fun e he => (hedits e he).leavesAccept
  | set h s ih => exact Draft.isSynced_edit ih s.allowed.leavesAccept
  | hook h c ih => exact Draft.isSynced_editAll ih fun _ => Contribution.leavesAccept
  | load h => exact Draft.isSynced_of_ofJson? h

/-- **A stored draft is read back as it was.** However a draft came about, its stored form is read
exactly when every number among its parameters is finite. What is read is the same draft, with the
same segments, parameters, headers and body, and so it resolves to the same request or error. -/
theorem Reachable.stored_faithful (h : o.Reachable d) :
    ((∃ d', Draft.ofJson? d.toJson.canonical = some d') ↔
      ∀ key x, d.params.get? key = some (.number x) → x.isFinite = true) ∧
    ∀ d', Draft.ofJson? d.toJson.canonical = some d' →
      d' = d ∧ d'.resolve o.spec = d.resolve o.spec := by
  rw [← ParamBag.isFinite_iff]
  by_cases hfinite : d.params.IsFinite
  · have hread : Draft.ofJson? d.toJson.canonical = some d := by
      rw [Draft.ofJson?_canonical_toJson hfinite, h.isSynced.synced_eq]
    refine ⟨iff_of_true ⟨d, hread⟩ hfinite, fun d' hd' => ?_⟩
    obtain rfl : d = d' := Option.some.inj (hread.symm.trans hd')
    exact ⟨rfl, rfl⟩
  · have hread := Draft.ofJson?_canonical_toJson_eq_none hfinite
    rw [hread]
    refine ⟨iff_of_false (fun ⟨d', hd'⟩ => by cases hd') hfinite, fun d' hd' => ?_⟩
    cases hd'

/-- A search that was stored with a header that contradicts its format, to which a document adds
its indices and a number. -/
theorem Reachable.stored_faithful_of_load :
    let stored : Json := .object [("parameters", .object [
      ("query", .object [("format", .tagged "text" (.text "YAML"))]),
      ("headers", .object [("accept", .text "text/html")])])]
    let loaded : Draft := ⟨∅, ⟨.ofList [("format", .text "YAML")],
      .ofList [("accept", "application/yaml")]⟩, none⟩
    let added : Contribution := ⟨[("index", .list ["a", "b"])], [("min_score", .number .zero)]⟩
    let d := loaded.editAll added.edits
    Draft.ofJson? stored = some loaded ∧ Catalogue.search.Reachable d ∧
      Draft.ofJson? d.toJson.canonical = some d := by
  intro stored loaded added d
  have hload : Draft.ofJson? stored = some loaded := by decide +kernel
  have hreach : Catalogue.search.Reachable d := .hook (.load hload) added
  have hfinite : d.params.IsFinite := by decide +kernel
  obtain ⟨d', hd'⟩ := hreach.stored_faithful.1.2 (ParamBag.isFinite_iff.1 hfinite)
  obtain rfl : d' = d := (hreach.stored_faithful.2 d' hd').1
  exact ⟨hload, hreach, hd'⟩

end Operation

end SearchRest
