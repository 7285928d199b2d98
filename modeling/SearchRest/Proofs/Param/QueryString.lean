/-
What a query string tells of the parameters in it.

Three separators stand one inside the other here too: `&` between parameters,
`=` between a key and its value, `,` between the texts of a list. None of them
is left in the encoded form of a text, so the string is cut into its parameters,
each of these at its only `=`, and what stands before and behind is read back.
The comma is the one separator that decoding leaves where it is, and so the form
of a whole list reads back as the list is rendered. A path has no `?`, so the
first one in an address is where the query string begins.
-/
import SearchRest.Proofs.Catalogue.Building

set_option autoImplicit false

namespace SearchRest

/-! ## Values -/

/-- Several encoded texts are read back as one, with the separators where they were. -/
theorem Text.percentDecodeBytes_joined {sep : Char} (hsep : sep ≠ '%') (ps : List (List Char)) :
    percentDecodeBytes (joined sep (ps.map percentEncodeChars)) = encodeChars (joined sep ps) := by
  induction ps with
  | nil => rfl
  | cons p ps ih =>
    cases ps with
    | nil => exact percentDecodeBytes_percentEncodeKeeping (by decide) p
    | cons q qs =>
      have htail : percentDecodeBytes (sep :: joined sep ((q :: qs).map percentEncodeChars))
          = String.utf8EncodeChar sep ++ encodeChars (joined sep (q :: qs)) := by
        rw [percentDecodeBytes_cons hsep, ih]
      rw [List.map_cons, List.map_cons, joined_cons_cons, joined_cons_cons, percentEncodeChars,
        percentDecodeBytes_percentEncodeKeeping_append (by decide), ← List.map_cons, htail,
        encodeChars, encodeChars, encodeChars, List.flatMap_append, List.flatMap_cons]

namespace ParamValue

theorem mem_encodeChars {v : ParamValue} {c : Char} (h : c ∈ v.encodeChars) :
    Text.isUnreserved c = true ∨ c = '%' ∨ c = ',' := by
  have hencoded : ∀ {cs : List Char}, c ∈ Text.percentEncodeChars cs →
      Text.isUnreserved c = true ∨ c = '%' ∨ c = ',' := fun h =>
    (Text.mem_percentEncodeChars h).imp_right .inl
  unfold encodeChars at h
  split at h
  · rcases Text.mem_joined h with rfl | ⟨p, hp, hc⟩
    · exact .inr (.inr rfl)
    · obtain ⟨s, -, rfl⟩ := List.mem_map.1 hp
      exact hencoded hc
  · exact hencoded h

theorem not_mem_encodeChars {sep : Char}
    (hsep : Text.isUnreserved sep = false ∧ sep ≠ '%' ∧ sep ≠ ',') (v : ParamValue) :
    sep ∉ v.encodeChars := by
  intro hmem
  rcases v.mem_encodeChars hmem with h | h | h
  · rw [hsep.1] at h
    cases h
  · exact hsep.2.1 h
  · exact hsep.2.2 h

/-- **The form of a value is read back as the value is rendered.** -/
theorem percentDecodeChars_encodeChars (v : ParamValue) :
    Text.percentDecodeChars v.encodeChars = some v.render.toList := by
  cases v with
  | list items =>
    have hform : (list items).encodeChars
        = Text.joined ',' ((items.map String.toList).map Text.percentEncodeChars) := by
      rw [encodeChars, List.map_map]
      rfl
    rw [hform, Text.percentDecodeChars, Text.percentDecodeBytes_joined (by decide),
      Text.decodeChars?_encodeChars, render, Text.join, String.toList_ofList]
  | _ => exact Text.percentDecodeChars_percentEncodeChars _

/-- **Commas stand between the texts of a list**, which are read back one by one, the empty ones
too, and nowhere else. -/
def CommasSeparate (form : String) : ParamValue → Prop
  | .list (s :: rest) => (Text.split ',' form).map Text.percentDecode = (s :: rest).map some
  | _ => ',' ∉ form.toList

theorem commasSeparate_encodeChars (v : ParamValue) :
    v.CommasSeparate (String.ofList v.encodeChars) := by
  cases v with
  | list items =>
    cases items with
    | nil => exact List.not_mem_nil
    | cons s rest =>
      have hpieces : Text.pieces ',' (list (s :: rest)).encodeChars
          = (s :: rest).map fun s => Text.percentEncodeChars s.toList := by
        rw [encodeChars, Text.pieces_joined]
        · exact List.cons_ne_nil _ _
        · intro p hp
          obtain ⟨s, -, rfl⟩ := List.mem_map.1 hp
          exact Text.not_mem_percentEncodeChars (by decide) s.toList
      rw [CommasSeparate, Text.split, String.toList_ofList, hpieces, List.map_map, List.map_map]
      apply List.map_congr_left
      intro s _
      show (Text.percentDecodeChars (String.ofList _).toList).map String.ofList = some s
      rw [String.toList_ofList, Text.percentDecodeChars_percentEncodeChars, Option.map_some,
        String.ofList_toList]
  | _ =>
    rw [CommasSeparate, String.toList_ofList]
    · exact Text.not_mem_percentEncodeChars (by decide) _
    · simp

end ParamValue

/-! ## Query strings -/

namespace ParamBag

/-- **What a piece of a query string tells of a parameter.** It has one `=`. Before it stands the
key and behind it the value. -/
def StandsFor (e : String × ParamValue) (piece : String) : Prop :=
  ∃ front back, piece = front ++ "=" ++ back ∧ '=' ∉ front.toList ∧ '=' ∉ back.toList ∧
    Text.percentDecode front = some e.1 ∧ Text.percentDecode back = some e.2.render ∧
    e.2.CommasSeparate back

/-- Reads a piece of a query string: what stands before the first `=` and what stands behind it. -/
def readPair? (piece : String) : Option (String × String) := do
  let (front, back) ← Text.splitFirst '=' piece
  some (← Text.percentDecode front, ← Text.percentDecode back)

/-- **Reads a query string.** -/
def readPairs? (query : String) : Option (List (String × String)) :=
  if query = "" then some [] else (Text.split '&' query).mapM readPair?

theorem ampersand_not_mem_pairChars (e : String × ParamValue) : '&' ∉ pairChars e := by
  intro hamp
  rw [pairChars, List.mem_append, List.mem_cons] at hamp
  rcases hamp with hkey | hequals | hvalue
  · exact Text.not_mem_percentEncodeChars (by decide) _ hkey
  · exact absurd hequals (by decide)
  · exact e.2.not_mem_encodeChars (by decide) hvalue

theorem percentDecode_ofList (cs : List Char) :
    Text.percentDecode (String.ofList (Text.percentEncodeChars cs)) = some (String.ofList cs) := by
  rw [Text.percentDecode, String.toList_ofList, Text.percentDecodeChars_percentEncodeChars,
    Option.map_some]

theorem percentDecode_encodeChars (v : ParamValue) :
    Text.percentDecode (String.ofList v.encodeChars) = some v.render := by
  rw [Text.percentDecode, String.toList_ofList, v.percentDecodeChars_encodeChars, Option.map_some,
    String.ofList_toList]

theorem standsFor_pairChars (e : String × ParamValue) :
    StandsFor e (String.ofList (pairChars e)) := by
  refine ⟨String.ofList (Text.percentEncodeChars e.1.toList), String.ofList e.2.encodeChars,
    ?_, ?_, ?_, ?_, percentDecode_encodeChars e.2, e.2.commasSeparate_encodeChars⟩
  · rw [← String.toList_inj]
    simp only [String.toList_append, String.toList_ofList, List.append_assoc, pairChars]
    rfl
  · rw [String.toList_ofList]
    exact Text.not_mem_percentEncodeChars (by decide) e.1.toList
  · rw [String.toList_ofList]
    exact e.2.not_mem_encodeChars (by decide)
  · rw [percentDecode_ofList, String.ofList_toList]

theorem readPair?_of_standsFor {e : String × ParamValue} {piece : String} (h : StandsFor e piece) :
    readPair? piece = some (e.1, e.2.render) := by
  obtain ⟨front, back, rfl, hfront, -, hkey, hvalue, -⟩ := h
  have hlist : (front ++ "=" ++ back).toList = front.toList ++ '=' :: back.toList := by
    rw [String.toList_append, String.toList_append, List.append_assoc]
    rfl
  rw [readPair?, Text.splitFirst_eq_some hfront hlist]
  simp [hkey, hvalue]

variable {bag : ParamBag}

theorem queryString_eq_empty_iff : bag.queryString = "" ↔ bag.isEmpty = true := by
  rw [isEmpty, KeyMap.isEmpty, List.isEmpty_iff, queryString, String.ofList_eq_empty_iff]
  constructor
  · intro hnil
    by_contra hne
    obtain ⟨e, rest, hentries⟩ := List.exists_cons_of_ne_nil hne
    -- the first parameter alone brings an equals sign
    have hpair : '=' ∈ pairChars e := List.mem_append_right _ List.mem_cons_self
    have hmem : pairChars e ∈ bag.query.entries.map pairChars := by
      rw [hentries]
      exact List.mem_cons_self
    have hequals : '=' ∈ Text.joined '&' (bag.query.entries.map pairChars) :=
      Text.mem_joined_of_mem hmem hpair
    rw [hnil] at hequals
    cases hequals
  · intro hnil
    rw [hnil]
    rfl

/-- A query string is cut into its parameters, in the order of their keys. -/
theorem split_queryString (h : bag.isEmpty = false) :
    Text.split '&' bag.queryString
      = bag.query.entries.map fun e => String.ofList (pairChars e) := by
  have hne : bag.query.entries.map pairChars ≠ [] := by
    intro hnil
    rw [isEmpty, KeyMap.isEmpty, List.map_eq_nil_iff.1 hnil] at h
    cases h
  have hamp : ∀ p ∈ bag.query.entries.map pairChars, '&' ∉ p := by
    intro p hp
    obtain ⟨e, -, rfl⟩ := List.mem_map.1 hp
    exact ampersand_not_mem_pairChars e
  rw [Text.split, queryString, String.toList_ofList, Text.pieces_joined hne hamp, List.map_map]
  rfl

/-- **Each piece stands for its parameter.** -/
theorem forall₂_standsFor (h : bag.isEmpty = false) :
    List.Forall₂ StandsFor bag.query.entries (Text.split '&' bag.queryString) := by
  rw [split_queryString h, List.forall₂_map_right_iff, List.forall₂_same]
  exact fun e _ => standsFor_pairChars e

/-- **The string as a whole is read back** as the pairs of keys and texts. -/
theorem readPairs?_queryString (bag : ParamBag) : readPairs? bag.queryString = some bag.pairs := by
  unfold readPairs?
  by_cases hempty : bag.isEmpty = true
  · have hentries : bag.query.entries = [] := List.isEmpty_iff.1 hempty
    rw [if_pos (queryString_eq_empty_iff.2 hempty), pairs, hentries]
    rfl
  · have hne : bag.isEmpty = false := Bool.eq_false_iff.2 hempty
    rw [if_neg fun h => hempty (queryString_eq_empty_iff.1 h), mapM_eq_some_iff, pairs,
      List.forall₂_map_right_iff]
    exact (forall₂_standsFor hne).flip.imp fun _ _ h => readPair?_of_standsFor h

end ParamBag

/-! ## Paths with query strings -/

/-- A clean path is made of separators and path characters. -/
theorem IsCleanPath.mem {path : String} (h : IsCleanPath path) {c : Char}
    (hc : c ∈ path.toList) : c = '/' ∨ isPathChar c = true := by
  rcases h with rfl | ⟨ps, -, rfl, hps⟩
  · exact .inl (List.mem_singleton.1 hc)
  · rw [String.toList_ofList] at hc
    obtain ⟨p, hp, hc⟩ := List.mem_flatMap.1 hc
    rcases List.mem_cons.1 hc with rfl | hc
    · exact .inl rfl
    · exact .inr ((hps p hp).2 c hc)

/-- The path of a request to an endpoint of the registry is clean. -/
theorem Request.isCleanPath_of_resolve {name : String} {endpoint : EndpointSpec}
    (hendpoint : Catalogue.registry.get name = .ok endpoint) {route : Bindings}
    {params : ParamBag} {body : Option Body} {r : Request}
    (hr : resolve endpoint route params body = .ok r) : IsCleanPath r.path := by
  obtain ⟨o, ho, rfl⟩ := Catalogue.exists_of_registry_get hendpoint
  obtain ⟨t, hfirst, hrender⟩ := Route.resolve_eq_ok_iff.1 (of_resolve hr).1
  exact Template.isCleanPath_render ((Catalogue.wellDeclared o ho).literals t hfirst.mem.1) hrender

namespace ParamBag

/-- **A query string tells the parameters that it was made of.** It is empty only for a bag without
parameters. Otherwise it is cut into one piece for each parameter, in the order of keys, and each
piece tells its parameter; as a whole it is read back as the pairs of keys and texts. In a request
to an endpoint of the registry it begins behind the first `?`, which is there only if there is a
parameter. -/
theorem queryString_faithful (bag : ParamBag) :
    (bag.queryString = "" ↔ bag.isEmpty = true) ∧
    (bag.isEmpty = false →
      List.Forall₂ StandsFor bag.query.entries (Text.split '&' bag.queryString)) ∧
    readPairs? bag.queryString = some bag.pairs ∧
    ∀ {name : String} {endpoint : EndpointSpec} {route : Bindings} {body : Option Body}
      {r : Request}, Catalogue.registry.get name = .ok endpoint →
        Request.resolve endpoint route bag body = .ok r →
        ('?' ∈ r.pathAndQuery.toList ↔ bag.isEmpty = false) ∧
        (bag.isEmpty = false →
          Text.splitFirst '?' r.pathAndQuery = some (r.path, bag.queryString)) := by
  refine ⟨queryString_eq_empty_iff, forall₂_standsFor, readPairs?_queryString bag, ?_⟩
  intro name endpoint route body r hendpoint hr
  have hparams : r.params = bag := by rw [(Request.of_resolve hr).2]
  have hpath : '?' ∉ r.path.toList := by
    intro hmark
    rcases (Request.isCleanPath_of_resolve hendpoint hr).mem hmark with h | h
    · exact absurd h (by decide)
    · exact absurd h (by decide)
  by_cases hempty : bag.isEmpty = true
  · have hwhole : r.pathAndQuery = r.path := by
      rw [Request.pathAndQuery, hparams, if_pos (queryString_eq_empty_iff.2 hempty)]
    rw [hwhole, hempty]
    exact ⟨iff_of_false hpath (by decide), fun h => by cases h⟩
  · have hne : bag.isEmpty = false := Bool.eq_false_iff.2 hempty
    have hwhole : r.pathAndQuery.toList = r.path.toList ++ '?' :: bag.queryString.toList := by
      rw [Request.pathAndQuery, hparams, if_neg fun h => hempty (queryString_eq_empty_iff.1 h),
        String.toList_append, String.toList_append, List.append_assoc]
      rfl
    refine ⟨iff_of_true ?_ hne, fun _ => ?_⟩
    · rw [hwhole]
      exact List.mem_append_right _ List.mem_cons_self
    · exact Text.splitFirst_eq_some hpath hwhole

/-- A key made of separators, and a list with a comma in one text and another text empty. -/
theorem queryString_faithful_of_list :
    let bag : ParamBag := ⟨KeyMap.ofList [("a&=?", .list ["x,y", "", "é"]), ("size", .integer 5)], ∅⟩
    bag.isEmpty = false ∧ bag.queryString = "a%26%3D%3F=x%2Cy,,%C3%A9&size=5" ∧
      List.Forall₂ StandsFor bag.query.entries (Text.split '&' bag.queryString) ∧
      ∃ r, Catalogue.registry.get "info" = .ok Catalogue.info.spec ∧
        Request.resolve Catalogue.info.spec ∅ bag none = .ok r ∧
        Text.splitFirst '?' r.pathAndQuery = some (r.path, bag.queryString) := by
  intro bag
  have hne : bag.isEmpty = false := by decide +kernel
  have hmem : Catalogue.info ∈ Catalogue.operations := by decide +kernel
  have hr : Request.resolve Catalogue.info.spec ∅ bag none
      = .ok ⟨Catalogue.info.spec, "/", bag, none⟩ := by decide +kernel
  have hget : Catalogue.registry.get "info" = .ok Catalogue.info.spec :=
    Catalogue.registry_get (o := Catalogue.info) hmem
  obtain ⟨-, hpieces, -, hrequest⟩ := queryString_faithful bag
  exact ⟨hne, by decide +kernel, hpieces hne, _, hget, hr, (hrequest hget hr).2 hne⟩

end ParamBag

end SearchRest
