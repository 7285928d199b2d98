/-
The index of a kind of documents, and the two ways to bind it.

An operation with an index route has a setter for its index, which takes one
index or several, and a setter that derives the index from mappings and a kind of
documents. The derived index is bound as one text. Given to a setter that takes
several indices it becomes a list, of one text or, if it is empty, of none. The
two values differ, but they show the same texts in a path, and that is all that
the choice sees. Commas, slashes and blanks belong to the one text either way.
-/
import SearchRest.Proofs.Catalogue.Building
import SearchRest.Proofs.Route.Elements

set_option autoImplicit false

namespace SearchRest

/-! ## Mappings as they were made -/

namespace IndexMappings

/-- **A change to index mappings.** -/
inductive Change where
  /-- Another default. -/
  | fallback (index : IndexName)
  /-- A kind mapped to an index. -/
  | map (kind : DocumentKind) (index : IndexName)

namespace Change

/-- The index that the change gives to a kind by name. -/
def forKind? (kind : DocumentKind) : Change → Option IndexName
  | fallback _ => none
  | map k index => if k = kind then some index else none

/-- The default that the change sets. -/
def default? : Change → Option IndexName
  | fallback index => some index
  | map _ _ => none

end Change

/-- The mappings after a change. -/
def change (m : IndexMappings) : Change → IndexMappings
  | .fallback index => m.withFallback index
  | .map kind index => m.map kind index

/-- The mappings after some changes, the first one first. -/
def made (changes : List Change) : IndexMappings := changes.foldl change empty

theorem made_append_singleton (changes : List Change) (c : Change) :
    made (changes ++ [c]) = (made changes).change c := List.foldl_append

theorem get?_byKind_made (changes : List Change) (kind : DocumentKind) :
    (made changes).byKind.get? kind.text = changes.reverse.findSome? (·.forKind? kind) := by
  induction changes using List.reverseRecOn with
  | nil => rfl
  | append_singleton changes c ih =>
    rw [made_append_singleton, List.reverse_append, List.reverse_singleton, List.singleton_append,
      List.findSome?_cons, ← ih]
    cases c with
    | fallback index => rfl
    | map k index =>
      show ((made changes).byKind.insert k.text index).get? kind.text = _
      rw [KeyMap.get?_insert, Change.forKind?]
      by_cases hk : k = kind
      · rw [if_pos hk, if_pos (congrArg Identifier.text hk)]
      · rw [if_neg hk, if_neg fun h => hk (by cases k; cases kind; exact congrArg _ h)]

theorem fallback_made (changes : List Change) :
    (made changes).fallback = changes.reverse.findSome? Change.default? := by
  induction changes using List.reverseRecOn with
  | nil => rfl
  | append_singleton changes c ih =>
    rw [made_append_singleton, List.reverse_append, List.reverse_singleton, List.singleton_append,
      List.findSome?_cons, ← ih]
    cases c <;> rfl

/-- **The index of a kind**: the last one that the kind was mapped to, else the last default, else
its name in lower case. -/
theorem indexFor_made_eq (changes : List Change) (kind : DocumentKind) :
    (made changes).indexFor kind
      = ((changes.reverse.findSome? (·.forKind? kind)).or
          (changes.reverse.findSome? Change.default?)).getD ⟨Text.lower kind.text⟩ := by
  rw [indexFor, get?_byKind_made, fallback_made]

end IndexMappings

/-! ## One index and a list of it -/

/-- A list of one identifier shows what the identifier shows. -/
theorem IdentifierList.elements_ofOne {k : IdentifierKind} (i : Identifier k) :
    (ofOne i).toRoute.elements = i.toRoute.elements := by
  show ([i.text].filter (· ≠ "")).filter (· ≠ "") = [i.text].filter (· ≠ "")
  rw [List.filter_filter]
  simp only [Bool.and_self]

namespace Draft

/-- Drafts that show the same segments and agree otherwise resolve alike. -/
theorem resolve_congr {d d' : Draft} (hroute : ∀ name, d.route.shown name = d'.route.shown name)
    (hparams : d.params = d'.params) (hbody : d.body = d'.body) (endpoint : EndpointSpec) :
    d.resolve endpoint = d'.resolve endpoint := by
  rw [resolve, resolve, Request.resolve, Request.resolve, Route.resolve_congr hroute, hparams, hbody]

/-- It does not matter which of two values is bound that show the same. -/
theorem resolve_bind_congr {v v' : RouteValue} (h : v.elements = v'.elements) (d : Draft)
    (name : String) (endpoint : EndpointSpec) :
    (d.edit (.bind name v)).resolve endpoint = (d.edit (.bind name v')).resolve endpoint := by
  have hroute : ∀ other, (d.edit (.bind name v)).route.shown other
      = (d.edit (.bind name v')).route.shown other := by
    intro other
    show Bindings.shown (d.route.insert name v) other = Bindings.shown (d.route.insert name v') other
    rw [Bindings.shown_insert, Bindings.shown_insert, h]
  exact resolve_congr hroute rfl rfl endpoint

end Draft

/-! ## The setters -/

/-- What an index setter takes, by the roles of the operation. -/
def Operation.indexType (o : Operation) : RouteType :=
  if Role.indices ∈ o.roles then .several .index else .one .index

/-- The operations with an index route have a setter for it. -/
theorem Catalogue.index_mem_route : ∀ o ∈ Catalogue.operations, Role.index ∈ o.roles →
    ⟨"index", "index", o.indexType⟩ ∈ o.route := by decide +kernel

namespace Operation

variable {o : Operation}

theorem setter?_mapped (ho : o ∈ Catalogue.operations) (hrole : Role.index ∈ o.roles) :
    o.setter? "index_for" = some (.mapped "index_for") := by
  have hmem : .mapped "index_for" ∈ o.setters := by
    simp only [setters, List.mem_append]
    exact .inl (.inl (.inr (List.mem_flatMap.2 ⟨.index, hrole, List.mem_cons_self⟩)))
  exact setter?_of_mem ho hmem

theorem setter?_index (ho : o ∈ Catalogue.operations) (hrole : Role.index ∈ o.roles) :
    o.setter? "index" = some (.route "index" "index" o.indexType) := by
  have hmem : .route "index" "index" o.indexType ∈ o.setters := by
    simp only [setters, List.mem_append]
    exact .inl (.inl (.inl (.inl (.inl (.inl
      (List.mem_map.2 ⟨_, Catalogue.index_mem_route o ho hrole, rfl⟩))))))
  exact setter?_of_mem ho hmem

/-- **A derived index is the index given by name.** Of an operation with an index route, every draft
resolves to the same request or the same error when its index is derived from mappings and a kind of
documents and when the index of that kind is given to the setter of the index, be it one that takes
one index or one that takes several and makes a list of it. The index of a kind is the last one that
just this kind was mapped to, else the last default, else the name of the kind in lower case. -/
theorem resolve_indexFor (ho : o ∈ Catalogue.operations) (hrole : Role.index ∈ o.roles) :
    o.setter? "index_for" = some (.mapped "index_for") ∧
    (Role.indices ∉ o.roles →
      o.setter? "index" = some (.route "index" "index" (.one .index)) ∧
      ∀ (d : Draft) (m : IndexMappings) (kind : DocumentKind),
        (d.edit ((Setter.mapped "index_for").edit (m, kind))).resolve o.spec
          = (d.edit ((Setter.route "index" "index" (.one .index)).edit
              (m.indexFor kind))).resolve o.spec) ∧
    (Role.indices ∈ o.roles →
      o.setter? "index" = some (.route "index" "index" (.several .index)) ∧
      ∀ (d : Draft) (m : IndexMappings) (kind : DocumentKind),
        (d.edit ((Setter.mapped "index_for").edit (m, kind))).resolve o.spec
          = (d.edit ((Setter.route "index" "index" (.several .index)).edit
              (IdentifierList.ofOne (m.indexFor kind)))).resolve o.spec) ∧
    ∀ (changes : List IndexMappings.Change) (kind : DocumentKind),
      (IndexMappings.made changes).indexFor kind
        = ((changes.reverse.findSome? (·.forKind? kind)).or
            (changes.reverse.findSome? IndexMappings.Change.default?)).getD
              ⟨Text.lower kind.text⟩ := by
  have hindex := setter?_index ho hrole
  refine ⟨setter?_mapped ho hrole, fun hone => ⟨?_, fun d m kind => rfl⟩,
    fun hseveral => ⟨?_, fun d m kind => ?_⟩, IndexMappings.indexFor_made_eq⟩
  · rwa [indexType, if_neg hone] at hindex
  · rwa [indexType, if_pos hseveral] at hindex
  · exact Draft.resolve_bind_congr (IdentifierList.elements_ofOne (m.indexFor kind)).symm d "index"
      o.spec

/-- A search in the index of a kind. One kind is mapped twice, last to a name that holds every
separator; another one, of the same letters, is mapped to the empty name. -/
theorem resolve_indexFor_search :
    let o := Catalogue.search
    let m := IndexMappings.made [.map ⟨"Order"⟩ ⟨"old"⟩, .map ⟨"Order"⟩ ⟨"a b,c/d"⟩,
      .map ⟨"order"⟩ ⟨""⟩, .fallback ⟨"rest"⟩]
    let derived (kind : DocumentKind) : Draft :=
      Draft.empty.edit ((Setter.mapped "index_for").edit (m, kind))
    let given (index : IndexName) : Draft :=
      Draft.empty.edit ((Setter.route "index" "index" (.several .index)).edit
        (IdentifierList.ofOne index))
    o ∈ Catalogue.operations ∧ Role.index ∈ o.roles ∧ Role.indices ∈ o.roles ∧
      (derived ⟨"Order"⟩).resolve o.spec = (given ⟨"a b,c/d"⟩).resolve o.spec ∧
      (derived ⟨"order"⟩).resolve o.spec = (given ⟨""⟩).resolve o.spec ∧
      (derived ⟨"Item"⟩).resolve o.spec = (given ⟨"rest"⟩).resolve o.spec := by
  intro o m derived given
  have hmem : o ∈ Catalogue.operations := by decide +kernel
  have hrole : Role.index ∈ o.roles := by decide
  have hseveral : Role.indices ∈ o.roles := by decide
  obtain ⟨-, -, hsame, hlast⟩ := resolve_indexFor hmem hrole
  have hderived : ∀ kind, (derived kind).resolve o.spec = (given (m.indexFor kind)).resolve o.spec :=
    fun kind => (hsame hseveral).2 Draft.empty m kind
  refine ⟨hmem, hrole, hseveral, ?_, ?_, ?_⟩
  · rw [hderived, hlast]
    rfl
  · rw [hderived, hlast]
    rfl
  · rw [hderived, hlast]
    rfl

end Operation

end SearchRest
