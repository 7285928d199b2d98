/-
What a draft of an operation resolves to, however it was built.

A draft is started in one of the ways that its operation declares and then goes
through any number of its setters. Every such step is an edit that the operation
allows: it binds a segment that the operation names, or attaches a body where
the endpoint takes one, or touches neither, and it does not write the header
`accept`. So of every draft on the way the bound segments are among those that
the operation names, and a body is there only where it may be.

One template has a place for every segment that the operation names, so such a
draft never holds a segment that does not belong: it has a path, or it lacks a
segment that the endpoint declares. A start with all its arguments binds just
the segments of one of the templates, and that one fits.
-/
import SearchRest.Proofs.Catalogue.Declarations
import SearchRest.Proofs.Route.Choice

set_option autoImplicit false

namespace SearchRest

/-! ## Ways to build a draft -/

/-- Every argument shows in a path. -/
def Arguments.AllShow : (fields : List RouteField) → Arguments fields → Prop
  | [], _ => True
  | f :: fs, (v, vs) => (f.type.toRoute v).isEmpty = false ∧ Arguments.AllShow fs vs

namespace Operation

/-- **A way to start a draft of an operation**, with what it takes. -/
inductive Start (o : Operation) where
  | made (c : Constructor) (hc : c ∈ o.constructors) (args : Arguments c.fields)
  /-- The kind and the id of a document. -/
  | documentId (hrole : Role.document ∈ o.roles) (m : IndexMappings) (kind : DocumentKind)
      (id : ItemId)
  | document (hrole : Role.document ∈ o.roles) (m : IndexMappings) (doc : DocumentRef)

/-- **A setter of an operation**, with its argument. -/
structure Setting (o : Operation) where
  setter : Setter
  /-- It is one of the operation. -/
  mem : setter ∈ o.setters
  argument : setter.takes.Value

variable {o : Operation}

/-- The edit that is made. -/
def Setting.edit (s : o.Setting) : Edit := s.setter.edit s.argument

namespace Start

/-- The draft that is started. -/
def draft : o.Start → Draft
  | .made c _ args => c.draft args
  | .documentId _ m kind id => Draft.forDocumentId m kind id
  | .document _ m doc => Draft.fromDocument m doc

/-- The segments that a start with all its arguments binds. -/
def segments : o.Start → List String
  | .made c _ _ => c.fields.map RouteField.segment
  | .documentId _ _ _ _ => ["index", "id"]
  | .document _ _ _ => ["index", "id"]

/-- Whether all arguments are there and none is empty. -/
def IsFull : o.Start → Prop
  | .made c _ args => Arguments.AllShow c.fields args
  | .documentId _ m kind id =>
    (m.indexFor kind).toRoute.isEmpty = false ∧ id.toRoute.isEmpty = false
  | .document _ m doc =>
    ∃ id, doc.id = some id ∧ (m.indexFor doc.kind).toRoute.isEmpty = false ∧
      id.toRoute.isEmpty = false

end Start

/-- The draft after a start and any settings, the first one first. -/
def build (s : o.Start) (settings : List o.Setting) : Draft :=
  s.draft.editAll (settings.map Setting.edit)

end Operation

/-! ## What the edits of an operation write -/

/-- The lists that come with a role. -/
def Role.listKeys : Role → List String
  | .index | .indices | .document => []
  | .listing => ["s"]
  | .table => ["h"]

/-- The parameters of the operation with several texts. -/
def Operation.listKeys (o : Operation) : List String :=
  o.lists.map ListField.key ++ o.roles.flatMap Role.listKeys ++ ["filter_path"]

/-- **The edits that an operation allows.** -/
def Operation.Allows (o : Operation) : Edit → Prop
  | .bind name _ => name ∈ o.bindable
  | .attach _ => o.spec.supportsBody = true
  | .query _ _ => True
  -- the header `accept` is left to the parameter `format`
  | .header name _ => Text.sameIgnoringCase name "accept" = false

/-- **What holds of every draft of an operation.** -/
structure Operation.Sound (o : Operation) (d : Draft) : Prop where
  /-- Only segments of the operation are bound. -/
  bound : ∀ name, d.route.isBound name = true → name ∈ o.bindable
  /-- A body is there only if the endpoint takes one. -/
  body : d.body.isSome = true → o.spec.supportsBody = true

namespace Operation

variable {o : Operation}

theorem sound_empty : o.Sound Draft.empty where
  bound name h := by cases h
  body h := by cases h

/-- An allowed edit keeps a draft sound. -/
theorem Sound.edit {d : Draft} (hd : o.Sound d) {e : Edit} (he : o.Allows e) :
    o.Sound (d.edit e) := by
  -- only a binding changes which segments are bound, and only a body whether there is one
  cases e with
  | bind name v =>
    refine ⟨fun other hother => ?_, hd.body⟩
    rw [show (d.edit (.bind name v)).route = d.route.insert name v from rfl,
      Bindings.isBound_insert] at hother
    by_cases hname : name = other
    · exact hname ▸ he
    · rw [if_neg hname] at hother
      exact hd.bound other hother
  | query key v => exact ⟨hd.bound, hd.body⟩
  | header name value => exact ⟨hd.bound, hd.body⟩
  | attach body => exact ⟨hd.bound, fun _ => he⟩

/-- So do several of them. -/
theorem Sound.editAll {d : Draft} (hd : o.Sound d) {edits : List Edit}
    (hedits : ∀ e ∈ edits, o.Allows e) : o.Sound (d.editAll edits) := by
  induction edits generalizing d with
  | nil => exact hd
  | cons e edits ih =>
    obtain ⟨he, hedits⟩ := List.forall_mem_cons.1 hedits
    exact ih (hd.edit he) hedits

theorem mem_bindable_of_role {r : Role} (hr : r ∈ o.roles) {name : String}
    (h : name ∈ r.segments) : name ∈ o.bindable :=
  List.mem_append_right _ (List.mem_flatMap.2 ⟨r, hr, h⟩)

/-- **What the setters of an operation write.** -/
inductive Makes (o : Operation) : Edit → Prop where
  | bind {name : String} (h : name ∈ o.bindable) (v : RouteValue) : o.Makes (.bind name v)
  | set (key : String) (v : ParamValue) : o.Makes (.query key (some v))
  /-- Only flags are cleared. -/
  | clear {key : String} (h : key ∈ o.clearable) : o.Makes (.query key none)
  | tag (value : String) : o.Makes (.header "x-opaque-id" value)
  | attach (h : o.spec.supportsBody = true) (body : Body) : o.Makes (.attach body)

/-- **What the setters of an operation write, kind by kind.** -/
inductive Writes (o : Operation) : Edit → Prop where
  | bind {name : String} (h : name ∈ o.bindable) (v : RouteValue) : o.Writes (.bind name v)
  /-- A flag is set or cleared. -/
  | flag {key : String} (h : key ∈ o.clearable) (b : Option Bool) :
      o.Writes (.query key (b.map .bool))
  | value {f : ParamField} (h : f ∈ o.values) (v : f.type.Value) :
      o.Writes (.query f.key (some (f.type.toParam v)))
  | list {key : String} (h : key ∈ o.listKeys) (items : List String) :
      o.Writes (.query key (some (.list items)))
  /-- The format of a table. -/
  | format (t : Token .format) : o.Writes (.query "format" (some (.ofToken t)))
  | source (s : String) : o.Writes (.query "source" (some (.text s)))
  | tag (value : String) : o.Writes (.header "x-opaque-id" value)
  | attach (h : o.spec.supportsBody = true) (body : Body) : o.Writes (.attach body)

theorem writes_of_mem_flag {name key : String} (hkey : key ∈ o.clearable) {s : Setter}
    (hs : s ∈ Setter.flag name key) (arg : s.takes.Value) : o.Writes (s.edit arg) := by
  simp only [Setter.flag, List.mem_cons, List.not_mem_nil, or_false] at hs
  rcases hs with rfl | rfl
  · exact .flag hkey (some true)
  · exact .flag hkey arg

theorem mem_clearable_of_role {r : Role} (hr : r ∈ o.roles) {key : String}
    (h : key ∈ r.clearable) : key ∈ o.clearable :=
  List.mem_append_left _ (List.mem_append_right _ (List.mem_flatMap.2 ⟨r, hr, h⟩))

theorem mem_listKeys_of_role {r : Role} (hr : r ∈ o.roles) {key : String}
    (h : key ∈ r.listKeys) : key ∈ o.listKeys :=
  List.mem_append_left _ (List.mem_append_right _ (List.mem_flatMap.2 ⟨r, hr, h⟩))

theorem writes_of_mem_ofRole {r : Role} (hr : r ∈ o.roles) {s : Setter}
    (hs : s ∈ Setter.ofRole r) (arg : s.takes.Value) : o.Writes (s.edit arg) := by
  cases r with
  | index =>
    simp only [Setter.ofRole, List.mem_cons, List.not_mem_nil, or_false] at hs
    rcases hs with rfl | rfl <;> exact .bind (mem_bindable_of_role hr List.mem_cons_self) _
  | indices =>
    obtain rfl := List.mem_singleton.1 hs
    exact .bind (mem_bindable_of_role hr List.mem_cons_self) _
  | document => cases hs
  | listing =>
    rcases List.mem_append.1 hs with hs | hs
    · exact writes_of_mem_flag (mem_clearable_of_role hr List.mem_cons_self) hs arg
    · obtain rfl := List.mem_singleton.1 hs
      exact .list (mem_listKeys_of_role hr List.mem_cons_self) arg
  | table =>
    rcases List.mem_cons.1 hs with rfl | hs
    · exact .format arg
    rcases List.mem_cons.1 hs with rfl | hs
    · exact .list (mem_listKeys_of_role hr List.mem_cons_self) arg
    · exact writes_of_mem_flag (mem_clearable_of_role hr List.mem_cons_self) hs arg

theorem writes_of_mem_common {s : Setter} (hs : s ∈ Setter.common) (arg : s.takes.Value) :
    o.Writes (s.edit arg) := by
  have hclearable : ∀ key ∈ commonFlags, key ∈ o.clearable := fun key hkey =>
    List.mem_append_right _ hkey
  simp only [Setter.common, List.mem_append] at hs
  -- three flags, and two parameters and a header that are always there
  rcases hs with ((hs | hs) | hs) | hs
  · exact writes_of_mem_flag (hclearable "pretty" (by decide)) hs arg
  · exact writes_of_mem_flag (hclearable "human" (by decide)) hs arg
  · exact writes_of_mem_flag (hclearable "error_trace" (by decide)) hs arg
  · simp only [List.mem_cons, List.not_mem_nil, or_false] at hs
    rcases hs with rfl | rfl | rfl
    · exact .list (List.mem_append_right _ List.mem_cons_self) arg
    · exact .source arg
    · exact .tag arg

/-- **The edit of a setting**, whichever setter it is of. -/
theorem Setting.writes (s : o.Setting) : o.Writes s.edit := by
  obtain ⟨s, hs, arg⟩ := s
  show o.Writes (s.edit arg)
  simp only [setters, List.mem_append] at hs
  -- segments, flags, values, lists, roles, those of all operations, and the body
  rcases hs with (((((hs | hs) | hs) | hs) | hs) | hs) | hs
  · obtain ⟨f, hf, rfl⟩ := List.mem_map.1 hs
    exact .bind (List.mem_append_left _ (List.mem_append_left _ (List.mem_map_of_mem hf))) _
  · obtain ⟨f, hf, hs⟩ := List.mem_flatMap.1 hs
    refine writes_of_mem_flag ?_ hs arg
    exact List.mem_append_left _ (List.mem_append_left _ (List.mem_map_of_mem hf))
  · obtain ⟨f, hf, rfl⟩ := List.mem_map.1 hs
    exact .value hf arg
  · obtain ⟨f, hf, rfl⟩ := List.mem_map.1 hs
    exact .list (List.mem_append_left _ (List.mem_append_left _ (List.mem_map_of_mem hf))) arg
  · obtain ⟨r, hr, hs⟩ := List.mem_flatMap.1 hs
    exact writes_of_mem_ofRole hr hs arg
  · exact writes_of_mem_common hs arg
  · by_cases hbody : o.spec.supportsBody = true
    · rw [if_pos hbody] at hs
      obtain rfl := List.mem_singleton.1 hs
      exact .attach hbody _
    · rw [if_neg hbody] at hs
      cases hs

theorem Writes.makes {e : Edit} (h : o.Writes e) : o.Makes e := by
  cases h with
  | bind h v => exact .bind h v
  | flag h b =>
    cases b with
    | none => exact .clear h
    | some b => exact .set _ _
  | tag value => exact .tag value
  | attach h body => exact .attach h body
  | _ => exact .set _ _

theorem Setting.makes (s : o.Setting) : o.Makes s.edit := s.writes.makes

theorem Makes.allows {e : Edit} (h : o.Makes e) : o.Allows e := by
  cases h with
  | bind h v => exact h
  | set key v => exact trivial
  | clear h => exact trivial
  | tag value =>
    show Text.sameIgnoringCase "x-opaque-id" "accept" = false
    decide
  | attach h body => exact h

/-- **The setters of an operation make edits that it allows.** -/
theorem Setting.allowed (s : o.Setting) : o.Allows s.edit := s.makes.allows

end Operation

theorem Arguments.mem_edits {fields : List RouteField} {args : Arguments fields} {e : Edit}
    (h : e ∈ Arguments.edits fields args) :
    ∃ f ∈ fields, ∃ v, e = .bind f.segment v := by
  induction fields with
  | nil => cases h
  | cons f fs ih =>
    obtain ⟨v, vs⟩ := args
    rcases List.mem_cons.1 h with rfl | h
    · exact ⟨f, List.mem_cons_self, _, rfl⟩
    · obtain ⟨g, hg, hv⟩ := ih h
      exact ⟨g, List.mem_cons_of_mem _ hg, hv⟩

namespace Operation

variable {o : Operation}

/-- **A start only binds segments**, those that its operation names. -/
theorem Start.exists_binds (s : o.Start) :
    ∃ edits, s.draft = Draft.empty.editAll edits ∧
      ∀ e ∈ edits, ∃ name ∈ o.bindable, ∃ v, e = .bind name v := by
  cases s with
  | made c hc args =>
    refine ⟨_, rfl, fun e he => ?_⟩
    obtain ⟨f, hf, v, rfl⟩ := Arguments.mem_edits he
    have hmem : f.segment ∈ o.constructors.flatMap fun c => c.fields.map RouteField.segment :=
      List.mem_flatMap.2 ⟨c, hc, List.mem_map_of_mem hf⟩
    exact ⟨_, List.mem_append_left _ (List.mem_append_right _ hmem), v, rfl⟩
  | documentId hrole m kind id =>
    refine ⟨_, rfl, fun e he => ?_⟩
    simp only [List.mem_cons, List.not_mem_nil, or_false] at he
    rcases he with rfl | rfl
    · exact ⟨_, mem_bindable_of_role hrole (by decide), _, rfl⟩
    · exact ⟨_, mem_bindable_of_role hrole (by decide), _, rfl⟩
  | document hrole m doc =>
    refine ⟨_, rfl, fun e he => ?_⟩
    -- a document without an id binds its index alone
    have hedits : e ∈ Draft.indexEdit m doc.kind :: (doc.id.map Draft.idEdit).toList := by
      simpa [Contribution.edits, Contribution.none] using he
    rcases List.mem_cons.1 hedits with rfl | hid
    · exact ⟨_, mem_bindable_of_role hrole (by decide), _, rfl⟩
    · obtain ⟨id, -, rfl⟩ := Option.map_eq_some_iff.1 (Option.mem_toList.1 hid)
      exact ⟨_, mem_bindable_of_role hrole (by decide), _, rfl⟩

/-- **A start makes edits that its operation allows.** -/
theorem Start.exists_edits (s : o.Start) :
    ∃ edits, s.draft = Draft.empty.editAll edits ∧ ∀ e ∈ edits, o.Allows e := by
  obtain ⟨edits, hdraft, hedits⟩ := s.exists_binds
  refine ⟨edits, hdraft, fun e he => ?_⟩
  obtain ⟨name, hname, v, rfl⟩ := hedits e he
  exact hname

theorem Start.sound (s : o.Start) : o.Sound s.draft := by
  obtain ⟨edits, hdraft, hedits⟩ := s.exists_edits
  rw [hdraft]
  exact sound_empty.editAll hedits

/-- **Every draft of an operation is sound.** -/
theorem sound_build (s : o.Start) (settings : List o.Setting) : o.Sound (build s settings) := by
  refine s.sound.editAll fun e he => ?_
  obtain ⟨setting, -, rfl⟩ := List.mem_map.1 he
  exact setting.allowed

end Operation

/-! ## What a start binds -/

theorem Arguments.isBound_edits {fields : List RouteField} {args : Arguments fields}
    (h : Arguments.AllShow fields args) (d : Draft) (name : String) :
    (d.editAll (Arguments.edits fields args)).route.isBound name = true ↔
      name ∈ fields.map RouteField.segment ∨ d.route.isBound name = true := by
  induction fields generalizing d with
  | nil => simp [Arguments.edits, Draft.editAll]
  | cons f fs ih =>
    obtain ⟨v, vs⟩ := args
    obtain ⟨hv, hvs⟩ := h
    have hhead : (d.edit (.bind f.segment (f.type.toRoute v))).route
        = d.route.insert f.segment (f.type.toRoute v) := rfl
    show ((d.edit (.bind f.segment (f.type.toRoute v))).editAll
      (Arguments.edits fs vs)).route.isBound name = true ↔ _
    -- the arguments behind this one are bound over it, which does not unbind it
    rw [ih hvs, hhead, Bindings.isBound_insert, List.map_cons, List.mem_cons]
    by_cases hname : f.segment = name
    · simp [hname, hv]
    · simp [hname, Ne.symm hname]

theorem isBound_document {m : IndexMappings} {kind : DocumentKind} {id : ItemId}
    (hindex : (m.indexFor kind).toRoute.isEmpty = false) (hid : id.toRoute.isEmpty = false)
    (name : String) :
    (Draft.forDocumentId m kind id).route.isBound name = true ↔ name ∈ ["index", "id"] := by
  have hroute : (Draft.forDocumentId m kind id).route
      = (Draft.empty.route.insert "index" (m.indexFor kind).toRoute).insert "id" id.toRoute := rfl
  have hempty : Draft.empty.route.isBound name = false := rfl
  rw [hroute, Bindings.isBound_insert, Bindings.isBound_insert, hempty, hindex, hid]
  by_cases h1 : "id" = name
  · simp [← h1]
  · by_cases h2 : "index" = name
    · simp [← h2]
    · simp [h1, h2, Ne.symm h1, Ne.symm h2]

namespace Operation

variable {o : Operation}

/-- **With all its arguments, a start binds just its segments.** -/
theorem Start.isBound_draft {s : o.Start} (h : s.IsFull) (name : String) :
    s.draft.route.isBound name = true ↔ name ∈ s.segments := by
  cases s with
  | made c hc args =>
    refine (Arguments.isBound_edits h Draft.empty name).trans (or_iff_left ?_)
    exact Bool.false_ne_true
  | documentId hrole m kind id =>
    exact isBound_document h.1 h.2 name
  | document hrole m doc =>
    obtain ⟨id, hdoc, hindex, hid⟩ := h
    have hdraft : Draft.fromDocument m doc = Draft.forDocumentId m doc.kind id := by
      rw [Draft.fromDocument, Draft.fromDocumentWith, hdoc]
      rfl
    rw [draft, hdraft]
    exact isBound_document hindex hid name

end Operation

/-! ## What a draft resolves to -/

/-- **A path without empty segments**: `/` alone, or `/` in front of every one of some segments that
are made of path characters. -/
def IsCleanPath (path : String) : Prop :=
  path = "/" ∨ ∃ ps : List (List Char), ps ≠ [] ∧
    path = String.ofList (ps.flatMap fun p => '/' :: p) ∧
    ∀ p ∈ ps, p ≠ [] ∧ ∀ c ∈ p, isPathChar c = true

/-- A template with clean literals renders to clean paths. -/
theorem Template.isCleanPath_render {b : Bindings} {t : Template} {path : String}
    (ht : ∀ s ∈ t.segments, s.IsClean) (h : t.render b = .ok path) : IsCleanPath path := by
  by_cases hne : t.segments = []
  · rw [Template.render, if_pos (List.isEmpty_iff.2 hne)] at h
    exact .inl (Except.ok.inj h).symm
  · obtain ⟨ps, hps, rfl⟩ := (render_eq_ok_iff hne).1 h
    refine .inr ⟨ps, ?_, rfl, fun p hp => ?_⟩
    · rintro rfl
      exact hne (List.forall₂_nil_right_iff.1 hps)
    · obtain ⟨s, hs, hrender⟩ := exists_left_of_forall₂ hps hp
      exact Segment.isClean_render (ht s hs) hrender

namespace Operation

variable {o : Operation}

/-- A sound draft with a path resolves to a request with that path. -/
theorem Sound.resolve_of_path {d : Draft} (hd : o.Sound d) {path : String}
    (h : Route.resolve o.spec.name o.spec.templates d.route = .ok path) :
    d.resolve o.spec = .ok ⟨o.spec, path, d.params, d.body⟩ := by
  have hbody : ¬ (d.body.isSome ∧ o.spec.supportsBody = false) := by
    rintro ⟨hsome, hfalse⟩
    rw [hd.body hsome] at hfalse
    cases hfalse
  rw [Draft.resolve, Request.resolve, h]
  exact if_neg hbody

/-- A draft without a path resolves to the error that says so. -/
theorem resolve_of_error {d : Draft} {e : RequestError}
    (h : Route.resolve o.spec.name o.spec.templates d.route = .error e) :
    d.resolve o.spec = .error e := by
  rw [Draft.resolve, Request.resolve, h]

/-- A sound draft has a path, or a segment is missing that the endpoint declares. -/
theorem Sound.resolve_or_missing (ho : o.WellDeclared) {d : Draft} (hd : o.Sound d) :
    (∃ t ∈ o.spec.templates, ∃ path, t.render d.route = .ok path ∧
      d.resolve o.spec = .ok ⟨o.spec, path, d.params, d.body⟩) ∨
    ∃ segment ∈ o.spec.segmentNames, d.route.isBound segment = false ∧
      d.resolve o.spec = .error (.missingRouteValue o.spec.name segment) := by
  by_cases hfits : ∃ t ∈ o.spec.templates, Route.Fits d.route t
  · obtain ⟨path, hpath⟩ :
        ∃ path, Route.resolve o.spec.name o.spec.templates d.route = .ok path :=
      Route.exists_path_iff.2 hfits
    obtain ⟨t, hfirst, hrender⟩ := Route.resolve_eq_ok_iff.1 hpath
    exact .inl ⟨t, hfirst.mem.1, path, hrender, hd.resolve_of_path hpath⟩
  · -- the template with room for everything takes whatever is bound, so something is missing
    obtain ⟨room, hroom, hall⟩ := ho.room
    have htakes : Route.Takes d.route room := fun name hname => hall name (hd.bound name hname)
    have hnofit : ∀ t ∈ o.spec.templates, ¬ Route.Fits d.route t := fun t ht h => hfits ⟨t, ht, h⟩
    obtain ⟨segment, herror⟩ :=
      Route.exists_missing_iff.2 ⟨hnofit, room, hroom, htakes⟩
    obtain ⟨-, t, hleast, hfirst⟩ := Route.resolve_eq_missing_iff.1 herror
    refine .inr ⟨segment, ?_, hfirst.mem.2, resolve_of_error herror⟩
    exact List.mem_eraseDups.2 (List.mem_flatMap.2 ⟨t, hleast.mem.1, hfirst.mem.1⟩)

theorem Start.segments_mem (s : o.Start) : s.segments ∈ o.startSegments := by
  cases s with
  | made c hc args => exact List.mem_append_left _ (List.mem_map_of_mem hc)
  | documentId hrole m kind id =>
    refine List.mem_append_right _ ?_
    rw [if_pos hrole]
    exact List.mem_cons_self
  | document hrole m doc =>
    refine List.mem_append_right _ ?_
    rw [if_pos hrole]
    exact List.mem_cons_self

/-- A start with all its arguments has the path of the first template of just its segments. -/
theorem Start.resolve_of_isFull (ho : o.WellDeclared) {s : o.Start} (hs : s.IsFull) :
    ∃ t path, IsFirst (Template.HasJust s.segments) o.spec.templates t ∧
      t.render s.draft.route = .ok path ∧
      s.draft.resolve o.spec = .ok ⟨o.spec, path, s.draft.params, s.draft.body⟩ := by
  -- for this draft, a template with just the segments of the start is one that fits
  have hfits : ∀ t : Template, t.HasJust s.segments ↔ Route.Fits s.draft.route t := by
    intro t
    simp only [Template.HasJust, Route.Fits, s.isBound_draft hs]
    constructor
    · intro h name
      exact ⟨h.1 name, h.2 name⟩
    · intro h
      exact ⟨fun name => (h name).1, fun name => (h name).2⟩
  obtain ⟨t, hfirst⟩ := exists_isFirst_iff.2 (ho.starts s.segments s.segments_mem)
  obtain ⟨path, hrender⟩ := Route.exists_render_iff.2 fun name => ((hfits t).1 hfirst.mem.2 name).1
  refine ⟨t, path, hfirst, hrender, s.sound.resolve_of_path ?_⟩
  rw [funext fun t => propext (hfits t)] at hfirst
  exact Route.resolve_eq_ok_iff.2 ⟨t, hfirst, hrender⟩

/-- **Every draft of an operation resolves, or lacks a segment.** However a draft of an operation of
the catalogue was built, it resolves to a request of the registered endpoint, with a clean path and
with a body only where the endpoint takes one, or else to an error that names a segment of the
endpoint that is not bound. Right after a start with all its arguments it does resolve, by the first
template that has just the segments of the start. -/
theorem resolve_build (ho : o ∈ Catalogue.operations) (s : o.Start) :
    (∀ settings : List o.Setting,
      (∃ r, (build s settings).resolve o.spec = .ok r ∧ r.endpoint = o.spec ∧
        Catalogue.registry.get o.spec.name = .ok r.endpoint ∧
        (r.body.isSome = true → r.endpoint.supportsBody = true) ∧ IsCleanPath r.path) ∨
      ∃ segment ∈ o.spec.segmentNames, (build s settings).route.isBound segment = false ∧
        (build s settings).resolve o.spec = .error (.missingRouteValue o.spec.name segment)) ∧
    (s.IsFull → ∃ r t, s.draft.resolve o.spec = .ok r ∧
      IsFirst (Template.HasJust s.segments) o.spec.templates t ∧
      t.render s.draft.route = .ok r.path) := by
  have hwell := Catalogue.wellDeclared o ho
  constructor
  · intro settings
    have hsound := sound_build s settings
    rcases hsound.resolve_or_missing hwell with ⟨t, ht, path, hrender, hresolve⟩ | hmissing
    · have hclean : IsCleanPath path := Template.isCleanPath_render (hwell.literals t ht) hrender
      exact .inl ⟨_, hresolve, rfl, Catalogue.registry_get ho, hsound.body, hclean⟩
    · exact .inr hmissing
  · intro hfull
    obtain ⟨t, path, hfirst, hrender, hresolve⟩ := Start.resolve_of_isFull hwell hfull
    exact ⟨_, t, hresolve, hfirst, hrender⟩

/-- The draft that addresses the document `42` of the kind `order` for deletion. -/
theorem resolve_build_deleteDocument :
    Catalogue.deleteDocument ∈ Catalogue.operations ∧
    ∃ r t, (Draft.forDocumentId .empty ⟨"order"⟩ ⟨"42"⟩).resolve Catalogue.deleteDocument.spec
        = .ok r ∧
      IsFirst (Template.HasJust ["index", "id"]) Catalogue.deleteDocument.spec.templates t ∧
      t.render (Draft.forDocumentId .empty ⟨"order"⟩ ⟨"42"⟩).route = .ok r.path :=
  have hmem : Catalogue.deleteDocument ∈ Catalogue.operations := by decide +kernel
  ⟨hmem, (resolve_build hmem (.documentId (by decide) .empty ⟨"order"⟩ ⟨"42"⟩)).2
    ⟨by decide +kernel, by decide +kernel⟩⟩

end Operation

end SearchRest
