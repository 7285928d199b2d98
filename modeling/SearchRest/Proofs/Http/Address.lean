/-
Where a request goes.

The address of a request is written as a text, the base followed by the path and
the query string, and then read, which brings it to its normal form. Everything
up to the path is in normal form already, and a query string and the pieces of a
path are made of characters that are left alone. What is not left alone is a
whole piece that is dots: reading resolves it, and the request goes to another
path than the one it was resolved to. A piece is dots just when the only text of
the value in its place is `.` or `..`, because dots are unreserved and a comma,
which joins several texts, is no dot.
-/
import SearchRest.Http.Settings
import SearchRest.Proofs.Catalogue.Declarations
import SearchRest.Proofs.Param.QueryString
import SearchRest.Proofs.Route.Choice
import SearchRest.Proofs.Url.Rereading

set_option autoImplicit false

namespace SearchRest

/-! ## Pieces of a path -/

/-- **A value that stands for a dot segment**: its only text is `.` or `..`. -/
def RouteValue.IsDots (v : RouteValue) : Prop := v.elements = ["."] ∨ v.elements = [".."]

instance (v : RouteValue) : Decidable v.IsDots :=
  inferInstanceAs (Decidable (_ ∨ _))

/-- Characters of paths are left alone in a path. -/
theorem isSegment_of_isPathChar {piece : List Char} (h : ∀ c ∈ piece, isPathChar c = true) :
    Url.IsSegment piece := by
  intro c hc
  have hpath := h c hc
  have hlt : c.toNat < 128 := by
    simp only [isPathChar, Bool.or_eq_true, decide_eq_true_eq] at hpath
    rcases hpath with (h | rfl) | rfl
    · exact Text.toNat_lt_of_isUnreserved h
    · decide
    · decide
  have hchar : isPathChar c = true →
      Url.keeps Url.pathEscapes c = true ∧ c ≠ '/' ∧ c ≠ '\\' := Text.holds_of_lt c hlt (by decide)
  exact hchar hpath

namespace RouteValue

/-- **The piece of a value is dots just when its only text is.** -/
theorem isDots_encodeChars_iff {v : RouteValue} :
    Url.isDots v.encodeChars = true ↔ v.IsDots := by
  rw [encodeChars_eq, IsDots]
  constructor
  · intro h
    -- no text shows nothing, one text stands alone, and several have a comma between them
    match hv : v.elements with
    | [] =>
      rw [hv] at h
      exact absurd h (by decide)
    | [s] =>
      rw [hv, List.map_singleton, Text.joined] at h
      have hkept := Url.forall_keep_of_isDots (by decide) h
      rw [Text.percentEncodeChars, Text.percentEncodeKeeping_eq_self hkept] at h
      rcases Url.eq_of_isDots hkept h with hs | hs
      · exact .inl (by rw [String.toList_inj.1 (hs.trans (show ['.'] = ".".toList from rfl))])
      · exact .inr (by rw [String.toList_inj.1 (hs.trans (show ['.', '.'] = "..".toList from rfl))])
    | s :: t :: rest =>
      rw [hv, List.map_cons, List.map_cons, Text.joined_cons_cons] at h
      exact absurd (List.mem_append_right _ List.mem_cons_self) (Url.comma_not_mem_of_isDots h)
  · rintro (h | h) <;> rw [h] <;> decide

end RouteValue

/-- A piece that a segment with a clean literal is rendered to is dots only as the piece of a
value. -/
theorem Segment.isDots_iff_of_render {b : Bindings} {s : Segment} {piece : List Char}
    (hs : s.IsClean) (h : s.render b = .ok piece) :
    Url.isDots piece = true ↔
      ∃ name v, s = .placeholder name ∧ b.get? name = some v ∧ v.IsDots := by
  cases s with
  | literal text =>
    obtain rfl := Except.ok.inj h
    simp [hs.2.2]
  | placeholder name =>
    obtain ⟨v, hv, -, rfl⟩ := render_placeholder_eq_ok_iff.1 h
    simp [RouteValue.isDots_encodeChars_iff, hv]

/-- Dots leave a trace in a path. -/
theorem RouteValue.IsDots.isEmpty_eq {v : RouteValue} (h : v.IsDots) : v.isEmpty = false := by
  refine Bool.eq_false_iff.2 fun hempty => ?_
  rw [isEmpty_iff] at hempty
  rcases h with h | h <;> rw [hempty] at h <;> cases h

/-- **The pieces of the path of a request** stand in an address as they are, and one of them is dots
just when a bound value is. -/
theorem Route.exists_pieces {endpoint : String} {templates : List Template} {b : Bindings}
    {path : String} (hclean : ∀ t ∈ templates, ∀ s ∈ t.segments, s.IsClean)
    (h : resolve endpoint templates b = .ok path) :
    ∃ ps : List (List Char), ps ≠ [] ∧ path.toList = (ps.flatMap fun p => '/' :: p) ∧
      (∀ p ∈ ps, Url.IsSegment p) ∧
      ((∀ p ∈ ps, Url.isDots p = false) ↔ ∀ name v, b.get? name = some v → ¬ v.IsDots) := by
  obtain ⟨t, hfirst, hrender⟩ := resolve_eq_ok_iff.1 h
  obtain ⟨ht, hfits⟩ := hfirst.mem
  -- a value that is dots is bound, and what is bound has its place in the template
  have hplaced : ∀ name v, b.get? name = some v → v.IsDots →
      Segment.placeholder name ∈ t.segments := by
    intro name v hv hdots
    refine Template.mem_params_iff.1 ((hfits name).2 ?_)
    exact Bindings.isBound_iff.2 ⟨v, hv, hdots.isEmpty_eq⟩
  by_cases hne : t.segments = []
  -- the path of the template without segments has one piece, which is empty
  · rw [Template.render, if_pos (List.isEmpty_iff.2 hne)] at hrender
    obtain rfl := Except.ok.inj hrender
    refine ⟨[[]], List.cons_ne_nil _ _, rfl, ?_, ?_⟩
    · intro p hp
      rw [List.mem_singleton.1 hp]
      exact fun _ hc => absurd hc List.not_mem_nil
    · refine ⟨fun _ name v hv hdots => ?_, fun _ p hp => ?_⟩
      · have := hplaced name v hv hdots
        rw [hne] at this
        cases this
      · rw [List.mem_singleton.1 hp]
        rfl
  · obtain ⟨ps, hps, rfl⟩ := (Template.render_eq_ok_iff hne).1 hrender
    refine ⟨ps, ?_, String.toList_ofList, ?_, ?_⟩
    · rintro rfl
      exact hne (List.forall₂_nil_right_iff.1 hps)
    · intro p hp
      obtain ⟨s, hs, hpiece⟩ := exists_left_of_forall₂ hps hp
      exact isSegment_of_isPathChar (Segment.isClean_render (hclean t ht s hs) hpiece).2
    · constructor
      · intro hnone name v hv hdots
        have hmem := hplaced name v hv hdots
        obtain ⟨p, hp, hpiece, -⟩ := exists_right_of_forall₂ hps hps hmem
        have hpdots := (Segment.isDots_iff_of_render (hclean t ht _ hmem) hpiece).2
          ⟨name, v, rfl, hv, hdots⟩
        rw [hnone p hp] at hpdots
        cases hpdots
      · intro hnone p hp
        obtain ⟨s, hs, hpiece⟩ := exists_left_of_forall₂ hps hp
        refine Bool.eq_false_iff.2 fun hdots => ?_
        obtain ⟨name, v, -, hv, hvdots⟩ :=
          (Segment.isDots_iff_of_render (hclean t ht s hs) hpiece).1 hdots
        exact hnone name v hv hvdots

/-! ## The query string -/

/-- **A query string is left alone**, which also means that nothing in it ends it. -/
theorem ParamBag.keeps_of_mem_queryString {bag : ParamBag} {c : Char}
    (h : c ∈ bag.queryString.toList) : Url.keeps Url.queryEscapes c = true := by
  have hkeeps : Text.isUnreserved c = true → Url.keeps Url.queryEscapes c = true := by
    intro hc
    have hchar : Text.isUnreserved c = true → Url.keeps Url.queryEscapes c = true :=
      Text.holds_of_lt c (Text.toNat_lt_of_isUnreserved hc) (by decide)
    exact hchar hc
  rw [queryString, String.toList_ofList] at h
  rcases Text.mem_joined h with rfl | ⟨p, hp, hc⟩
  · decide
  · obtain ⟨⟨key, v⟩, -, rfl⟩ := List.mem_map.1 hp
    rw [pairChars, List.mem_append, List.mem_cons] at hc
    rcases hc with hc | rfl | hc
    · rcases Text.mem_percentEncodeChars hc with hc | rfl
      · exact hkeeps hc
      · decide
    · decide
    · rcases v.mem_encodeChars hc with hc | rfl | rfl
      · exact hkeeps hc
      · decide
      · decide

namespace Request

/-- The characters of the query string, if there is one. -/
def query? (r : Request) : Option (List Char) :=
  if r.params.queryString = "" then none else some r.params.queryString.toList

theorem toList_pathAndQuery (r : Request) :
    r.pathAndQuery.toList = r.path.toList ++ Url.queryText r.query? := by
  unfold pathAndQuery query?
  split
  · exact (List.append_nil _).symm
  · simp [Url.queryText, String.toList_append]

theorem keeps_of_mem_query? (r : Request) :
    ∀ q, r.query? = some q → ∀ c ∈ q, Url.keeps Url.queryEscapes c = true := by
  intro q hq c hc
  unfold query? at hq
  split at hq
  · cases hq
  · obtain rfl := Option.some.inj hq
    exact ParamBag.keeps_of_mem_queryString hc

end Request

/-! ## The address -/

namespace Http

/-- An address of the web with neither query string nor fragment is accepted as a base. -/
theorem Settings.base_of_parse {s : Settings} {u : Url} (h : Url.parse s.baseUrl = .ok u)
    (hscheme : u.scheme = "http" ∨ u.scheme = "https") (hquery : u.query = none)
    (hfragment : u.fragment = none) : s.base = .ok u := by
  have hweb : ¬ (u.scheme ≠ "http" ∧ u.scheme ≠ "https") := fun hnot =>
    hscheme.elim hnot.1 hnot.2
  rw [base, h]
  dsimp only
  rw [if_neg hweb, if_neg (by simp [hquery, hfragment])]

/-- What is accepted as a base is in normal form and has neither query string nor fragment. -/
theorem Settings.isNormal_of_base {s : Settings} {u : Url} (h : s.base = .ok u) :
    u.IsNormal ∧ u.query = none ∧ u.fragment = none := by
  unfold base at h
  split at h
  · cases h
  rename_i url hparse
  split at h
  · cases h
  rename_i hscheme
  split at h
  · cases h
  rename_i hend
  obtain rfl := Except.ok.inj h
  rw [not_or, Option.not_isSome_iff_eq_none, Option.not_isSome_iff_eq_none] at hend
  refine ⟨Url.isNormal_of_parse hparse ?_, hend⟩
  rwa [ne_eq, ne_eq, ← not_or, not_not] at hscheme

namespace Channel

/-- The path of the base without slashes at its end. -/
def basePath (c : Channel) : String :=
  String.ofList (Text.dropEndWhile (· = '/') c.base.path.toList)

/-- The pieces of the base that stand before those of a path. -/
theorem exists_basePieces (c : Channel) :
    ∃ qs : List (List Char), c.basePath.toList = (qs.flatMap fun q => '/' :: q) ∧
      ∀ q ∈ qs, Url.IsSegment q ∧ Url.isDots q = false := by
  obtain ⟨hnormal, -, -⟩ := Settings.isNormal_of_base c.base_eq
  obtain ⟨base, -, hbase, hsegments⟩ := hnormal.exists_segments
  have hslash : ∀ p ∈ base, '/' ∉ p := fun p hp h => ((hsegments p hp).1 '/' h).2.1 rfl
  obtain ⟨qs, hqs, htrimmed⟩ := Text.dropEndWhile_flatMap hslash
  refine ⟨qs, ?_, fun q hq => hsegments q (hqs q hq)⟩
  rw [basePath, String.toList_ofList, hbase, htrimmed]

/-- The address is written as the base up to its path, the two paths, and the query string. -/
theorem toList_urlText (c : Channel) (r : Request) :
    (c.urlText r).toList
      = c.base.front ++ (c.basePath.toList ++ r.path.toList ++ Url.queryText r.query?) := by
  obtain ⟨hnormal, hquery, hfragment⟩ := Settings.isNormal_of_base c.base_eq
  rw [urlText, String.toList_append, String.toList_ofList,
    hnormal.dropEndWhile_write hquery hfragment, r.toList_pathAndQuery, basePath,
    String.toList_ofList]
  simp only [List.append_assoc]

theorem urlFor_eq_ok_iff {c : Channel} {r : Request} {url : Url} :
    c.urlFor r = .ok url ↔ Url.parse (c.urlText r) = .ok url := by
  unfold urlFor
  split
  · rename_i found hfound
    rw [hfound, Except.ok.injEq, Except.ok.injEq]
  · rename_i e hfault
    rw [hfault]
    exact iff_of_false (fun h => nomatch h) fun h => nomatch h

theorem parse_urlText {c : Channel} {r : Request} {url : Url} (h : c.urlFor r = .ok url) :
    Url.parse (c.urlText r) = .ok url :=
  urlFor_eq_ok_iff.1 h

/-- **The address of a request** to an endpoint of the catalogue is read like the host of the base:
if the host is read again, so is the address, with the query string of the request. -/
theorem exists_parse_urlText_eq (c : Channel) {name : String} {endpoint : EndpointSpec}
    (hendpoint : Catalogue.registry.get name = .ok endpoint) {route : Bindings}
    {params : ParamBag} {body : Option Body} {r : Request}
    (hr : Request.resolve endpoint route params body = .ok r) :
    ∃ userinfo path, Url.parse (c.urlText r) = (Host.parse c.base.host.toList).map fun host =>
      ⟨c.base.scheme, userinfo, host, c.base.port, path, r.query?.map String.ofList, none⟩ := by
  obtain ⟨hnormal, -, -⟩ := Settings.isNormal_of_base c.base_eq
  obtain ⟨o, ho, rfl⟩ := Catalogue.exists_of_registry_get hendpoint
  obtain ⟨qs, hbase, hqs⟩ := c.exists_basePieces
  obtain ⟨ps, hps, hpath, hsegments, -⟩ :=
    Route.exists_pieces (Catalogue.wellDeclared o ho).literals (Request.of_resolve hr).1
  have hall : ∀ s ∈ qs ++ ps, Url.IsSegment s := by
    intro s hs
    rcases List.mem_append.1 hs with hs | hs
    · exact (hqs s hs).1
    · exact hsegments s hs
  obtain ⟨userinfo, hparse⟩ := hnormal.exists_parse_eq
    (List.append_ne_nil_of_right_ne_nil qs hps) hall r.keeps_of_mem_query?
  -- the text is the front of the base, the pieces of both paths, and the query string
  have htext : c.urlText r = String.ofList
      (c.base.front ++ (((qs ++ ps).flatMap fun p => '/' :: p) ++ Url.queryText r.query?)) := by
    rw [← String.ofList_toList (s := c.urlText r), toList_urlText, hbase, hpath,
      List.flatMap_append]
  rw [htext]
  exact ⟨userinfo, _, hparse⟩

section

variable {c : Channel} {name : String} {endpoint : EndpointSpec} {route : Bindings}
  {params : ParamBag} {body : Option Body} {r : Request} {url : Url}

/-- **There is an address** just if the host of the base is read again. -/
theorem exists_urlFor_iff (hendpoint : Catalogue.registry.get name = .ok endpoint)
    (hr : Request.resolve endpoint route params body = .ok r) :
    (∃ url, c.urlFor r = .ok url) ↔ ∃ host, Host.parse c.base.host.toList = .ok host := by
  obtain ⟨userinfo, path, hparse⟩ := c.exists_parse_urlText_eq hendpoint hr
  simp only [urlFor_eq_ok_iff, hparse]
  cases Host.parse c.base.host.toList with
  | error e => exact iff_of_false (fun ⟨_, h⟩ => nomatch h) fun ⟨_, h⟩ => nomatch h
  | ok host => exact iff_of_true ⟨_, rfl⟩ ⟨host, rfl⟩

/-- **The address** is that of the base but for the user, the path and the query string. -/
theorem exists_urlFor_eq (hendpoint : Catalogue.registry.get name = .ok endpoint)
    (hr : Request.resolve endpoint route params body = .ok r) (hurl : c.urlFor r = .ok url) :
    ∃ userinfo path, url = ⟨c.base.scheme, userinfo, c.base.host, c.base.port, path,
      r.query?.map String.ofList, none⟩ := by
  obtain ⟨hnormal, -, -⟩ := Settings.isNormal_of_base c.base_eq
  obtain ⟨host, hhost⟩ := hnormal.host
  obtain ⟨userinfo, path, hparse⟩ := c.exists_parse_urlText_eq hendpoint hr
  have hread := parse_urlText hurl
  rw [hparse] at hread
  obtain ⟨again, hagain, rfl⟩ := map_eq_ok_iff.1 hread
  -- a host that is read again stays as it is
  obtain rfl := Host.parse_of_parse hhost hagain
  exact ⟨userinfo, path, rfl⟩

/-- **The query string of the address** is that of the request. -/
theorem query_urlFor (hendpoint : Catalogue.registry.get name = .ok endpoint)
    (hr : Request.resolve endpoint route params body = .ok r) (hurl : c.urlFor r = .ok url) :
    url.query = r.query?.map String.ofList := by
  obtain ⟨userinfo, path, rfl⟩ := exists_urlFor_eq hendpoint hr hurl
  rfl

/-- What is read as the address is in normal form. -/
theorem isNormal_urlFor (hendpoint : Catalogue.registry.get name = .ok endpoint)
    (hr : Request.resolve endpoint route params body = .ok r) (hurl : c.urlFor r = .ok url) :
    url.IsNormal := by
  obtain ⟨userinfo, path, rfl⟩ := exists_urlFor_eq hendpoint hr hurl
  exact Url.isNormal_of_parse (parse_urlText hurl) (Settings.isNormal_of_base c.base_eq).1.scheme

end

/-- **Where a request goes.** The scheme, the host and the port are those of the base, and the query
string is that of the request. The path is that of the base without slashes at its end, followed by
the path of the request, exactly when no bound value is dots. -/
theorem urlFor_path_iff (c : Channel) {name : String} {endpoint : EndpointSpec}
    (hendpoint : Catalogue.registry.get name = .ok endpoint) {route : Bindings}
    {params : ParamBag} {body : Option Body} {r : Request}
    (hr : Request.resolve endpoint route params body = .ok r) {url : Url}
    (hurl : c.urlFor r = .ok url) :
    url.scheme = c.base.scheme ∧ url.host = c.base.host ∧ url.port = c.base.port ∧
      url.query = (if r.params.queryString = "" then none else some r.params.queryString) ∧
      (url.path = c.basePath ++ r.path ↔
        ∀ segment v, route.get? segment = some v → ¬ v.IsDots) := by
  obtain ⟨hnormal, -, -⟩ := Settings.isNormal_of_base c.base_eq
  obtain ⟨o, ho, rfl⟩ := Catalogue.exists_of_registry_get hendpoint
  obtain ⟨qs, hbase, hqs⟩ := c.exists_basePieces
  obtain ⟨ps, hps, hpath, hsegments, hdots⟩ :=
    Route.exists_pieces (Catalogue.wellDeclared o ho).literals (Request.of_resolve hr).1
  have hne : qs ++ ps ≠ [] := List.append_ne_nil_of_right_ne_nil qs hps
  have hall : ∀ s ∈ qs ++ ps, Url.IsSegment s := by
    intro s hs
    rcases List.mem_append.1 hs with hs | hs
    · exact (hqs s hs).1
    · exact hsegments s hs
  have hjoined : c.basePath.toList ++ r.path.toList = ((qs ++ ps).flatMap fun p => '/' :: p) := by
    rw [hbase, hpath, List.flatMap_append]
  -- the address is read as one path of all the pieces
  have hparse := parse_urlText hurl
  rw [← String.ofList_toList (s := c.urlText r), toList_urlText, hjoined] at hparse
  obtain ⟨hscheme, hhost, hport, hpathEq, hqueryEq⟩ :=
    hnormal.parse_eq hne hall r.keeps_of_mem_query? hparse
  refine ⟨hscheme, hhost, hport, ?_, ?_⟩
  · rw [hqueryEq, Request.query?]
    split
    · rfl
    · rw [Option.map_some, String.ofList_toList]
  · have htext : c.basePath ++ r.path = String.ofList ((qs ++ ps).flatMap fun p => '/' :: p) := by
      rw [← String.toList_inj, String.toList_append, String.toList_ofList, hjoined]
    rw [hpathEq, htext, String.ofList_inj, Url.normalPath_joined_eq_self_iff hne hall, ← hdots]
    -- the base has no dots of its own
    constructor
    · exact fun h p hp => h p (List.mem_append_right qs hp)
    · intro h p hp
      rcases List.mem_append.1 hp with hp | hp
      · exact (hqs p hp).2
      · exact h p hp

/-- The channel of the settings that were not made. -/
def standard : Channel :=
  ⟨Settings.standard, ⟨"http", "", "localhost", some 9200, "/", none, none⟩, by decide +kernel⟩

/-- Dots beside other texts, and three of them, go where they were resolved to. -/
theorem urlFor_path_iff_getDocument :
    ∃ (r : Request) (url : Url),
      Request.resolve Catalogue.getDocument.spec
        (KeyMap.ofList [("index", .list ["..", "orders"]), ("id", .single "...")]) ∅ none = .ok r ∧
      standard.urlFor r = .ok url ∧ r.path = "/..,orders/_doc/..." ∧
      url.path = standard.basePath ++ r.path := by
  have hmem : Catalogue.getDocument ∈ Catalogue.operations := by decide +kernel
  have hr : Request.resolve Catalogue.getDocument.spec
      (KeyMap.ofList [("index", .list ["..", "orders"]), ("id", .single "...")]) ∅ none
        = .ok ⟨Catalogue.getDocument.spec, "/..,orders/_doc/...", ∅, none⟩ := by decide +kernel
  have hurl : standard.urlFor ⟨Catalogue.getDocument.spec, "/..,orders/_doc/...", ∅, none⟩
      = .ok ⟨"http", "", "localhost", some 9200, "/..,orders/_doc/...", none, none⟩ := by
    decide +kernel
  obtain ⟨-, -, -, -, hpath⟩ := urlFor_path_iff standard (Catalogue.registry_get hmem) hr hurl
  refine ⟨_, _, hr, hurl, rfl, hpath.2 fun segment v hv => ?_⟩
  have hbound := KeyMap.mem_of_get?_ofList hv
  simp only [List.mem_cons, Prod.mk.injEq, List.not_mem_nil, or_false] at hbound
  rcases hbound with ⟨-, rfl⟩ | ⟨-, rfl⟩ <;> decide

/-- The deletion of a document whose id is two dots goes to the index that the document is in. -/
theorem urlFor_deleteDocument_of_dots :
    ∃ (r : Request) (url : Url),
      Catalogue.registry.get "delete" = .ok Catalogue.deleteDocument.spec ∧
      Request.resolve Catalogue.deleteDocument.spec
        (KeyMap.ofList [("index", .single "orders"), ("id", .single "..")]) ∅ none = .ok r ∧
      standard.urlFor r = .ok url ∧ r.path = "/orders/_doc/.." ∧ url.path = "/orders/" ∧
      url.path ≠ standard.basePath ++ r.path := by
  have hmem : Catalogue.deleteDocument ∈ Catalogue.operations := by decide +kernel
  have hendpoint := Catalogue.registry_get hmem
  refine ⟨⟨Catalogue.deleteDocument.spec, "/orders/_doc/..", ∅, none⟩,
    ⟨"http", "", "localhost", some 9200, "/orders/", none, none⟩, hendpoint, ?_⟩
  decide +kernel

end Channel

end Http

end SearchRest
