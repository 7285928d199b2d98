/-
What a rendered path tells of the values in it.

Three separators stand one inside the other: `/` between segments, `,` between
the texts of a list, `%` in front of an escaped byte. The encoded form of a text
holds neither of the first two, so a path can be cut into the pieces of its
segments, a piece into the forms of its texts, and each form read back. What
comes out is what was bound, less the empty texts, which leave no trace in a
path and by which a value alone is not bound.
-/
import SearchRest.Proofs.Lists
import SearchRest.Proofs.Text.Percent
import SearchRest.Proofs.Text.Pieces
import SearchRest.Route.Template

set_option autoImplicit false

namespace SearchRest

/-! ## Values -/

namespace RouteValue

/-- **Nothing would show in a path exactly when every text is empty**, so the test of a value agrees
with what its encoding leaves out. -/
theorem isEmpty_iff (v : RouteValue) : v.isEmpty = true ↔ v.elements = [] := by
  cases v with
  | single s => simp [isEmpty, elements]
  | list l => simp [isEmpty, elements]

theorem ne_empty_of_mem_elements {v : RouteValue} {s : String} (h : s ∈ v.elements) : s ≠ "" := by
  cases v with
  | single t => simpa using (List.mem_filter.1 h).2
  | list l => simpa using (List.mem_filter.1 h).2

/-- Both forms of a value are encoded alike, as the list of their texts. -/
theorem encodeChars_eq (v : RouteValue) :
    v.encodeChars
      = Text.joined ',' (v.elements.map fun s => Text.percentEncodeChars s.toList) := by
  cases v with
  | single s =>
    by_cases hs : s = ""
    · subst hs
      rfl
    · simp [encodeChars, elements, hs, Text.joined]
  | list l => rfl

end RouteValue

/-- The characters of a path between its separators. -/
def isPathChar (c : Char) : Bool := Text.isUnreserved c || c = '%' || c = ','

namespace RouteValue

theorem isPathChar_of_mem_encodeChars {v : RouteValue} {c : Char} (h : c ∈ v.encodeChars) :
    isPathChar c = true := by
  rw [encodeChars_eq] at h
  rcases Text.mem_joined h with rfl | ⟨p, hp, hc⟩
  · rfl
  · obtain ⟨s, -, rfl⟩ := List.mem_map.1 hp
    rcases Text.mem_percentEncodeChars hc with hu | rfl
    · simp [isPathChar, hu]
    · rfl

/-- The form of a value that shows in a path is cut at the commas into the forms of its texts. -/
theorem pieces_encodeChars {v : RouteValue} (h : v.isEmpty = false) :
    Text.pieces ',' v.encodeChars
      = v.elements.map fun s => Text.percentEncodeChars s.toList := by
  rw [encodeChars_eq, Text.pieces_joined]
  · intro hnil
    rw [(isEmpty_iff v).2 (List.map_eq_nil_iff.1 hnil)] at h
    cases h
  · -- a comma inside a text is escaped
    intro p hp hcomma
    obtain ⟨s, -, rfl⟩ := List.mem_map.1 hp
    rcases Text.mem_percentEncodeChars hcomma with hu | hu
    · exact absurd hu (by decide)
    · exact absurd hu (by decide)

/-- **The texts of a value are read back** from its form in a path. -/
theorem split_encode {v : RouteValue} (h : v.isEmpty = false) :
    (Text.split ',' v.encode).map Text.percentDecode = v.elements.map some := by
  rw [Text.split, encode, String.toList_ofList, pieces_encodeChars h, List.map_map, List.map_map]
  refine List.map_congr_left fun s _ => ?_
  show (Text.percentDecodeChars (String.ofList _).toList).map String.ofList = some s
  rw [String.toList_ofList, Text.percentDecodeChars_percentEncodeChars, Option.map_some,
    String.ofList_toList]

theorem encodeChars_ne_nil {v : RouteValue} (h : v.isEmpty = false) : v.encodeChars ≠ [] := by
  intro hnil
  have hpieces := pieces_encodeChars h
  rw [hnil] at hpieces
  -- the only piece of the empty text is empty, but no text of a value is
  cases hv : v.elements with
  | nil =>
    rw [hv] at hpieces
    cases hpieces
  | cons s rest =>
    have hs : s ≠ "" := ne_empty_of_mem_elements (v := v) (hv ▸ List.mem_cons_self)
    rw [hv] at hpieces
    have hform : [] = Text.percentEncodeChars s.toList := (List.cons.inj hpieces).1
    exact Text.percentEncodeChars_ne_nil (fun h => hs (String.toList_eq_nil_iff.1 h)) hform.symm

end RouteValue

/-! ## Segments -/

namespace Segment

/-- **What a piece of a path tells of a segment.** The piece of a literal is its text. The piece of
a placeholder is not empty, is made of path characters, and gives the texts of the bound value when
it is cut at the commas and its parts are read back. -/
def StandsFor (b : Bindings) : Segment → String → Prop
  | .literal text, piece => piece = text
  | .placeholder name, piece =>
    piece ≠ "" ∧ (∀ c ∈ piece.toList, isPathChar c = true) ∧
      ∃ v, b.get? name = some v ∧
        (Text.split ',' piece).map Text.percentDecode = v.elements.map some

theorem render_placeholder_eq_ok_iff {b : Bindings} {name : String} {piece : List Char} :
    (placeholder name).render b = .ok piece ↔
      ∃ v, b.get? name = some v ∧ v.isEmpty = false ∧ v.encodeChars = piece := by
  cases hget : b.get? name with
  | none => simp [render, hget]
  | some v => by_cases hv : v.isEmpty = true <;> simp [render, hget, hv]

theorem standsFor_of_render {b : Bindings} {s : Segment} {piece : List Char}
    (h : s.render b = .ok piece) : s.StandsFor b (String.ofList piece) := by
  cases s with
  | literal text =>
    obtain rfl := Except.ok.inj h
    exact String.ofList_toList
  | placeholder name =>
    obtain ⟨v, hv, hne, rfl⟩ := render_placeholder_eq_ok_iff.1 h
    refine ⟨?_, ?_, v, hv, RouteValue.split_encode hne⟩
    · intro hnil
      exact RouteValue.encodeChars_ne_nil hne (String.ofList_eq_empty_iff.1 hnil)
    · rw [String.toList_ofList]
      exact fun c => RouteValue.isPathChar_of_mem_encodeChars

/-- A rendered segment stays in its place: it holds no separator unless its literal does. -/
theorem slash_not_mem_of_render {b : Bindings} {s : Segment} {piece : List Char}
    (h : s.render b = .ok piece) (hs : ∀ text, s = .literal text → '/' ∉ text.toList) :
    '/' ∉ piece := by
  cases s with
  | literal text =>
    obtain rfl := Except.ok.inj h
    exact hs text rfl
  | placeholder name =>
    obtain ⟨v, -, -, rfl⟩ := render_placeholder_eq_ok_iff.1 h
    exact fun hslash => absurd (RouteValue.isPathChar_of_mem_encodeChars hslash) (by decide)

/-- The segment that a piece without separator stands for has none in its literal. -/
theorem slash_not_mem_of_ofPiece {piece : List Char} (h : '/' ∉ piece) {text : String}
    (ht : ofPiece piece = .literal text) : '/' ∉ text.toList := by
  unfold ofPiece at ht
  split at ht
  · cases ht
  · obtain rfl := Segment.literal.inj ht
    rwa [String.toList_ofList]

/-- Two values bound to a placeholder that stand behind the same piece have the same texts. -/
theorem StandsFor.elements_eq {b b' : Bindings} {name piece : String}
    (h : (placeholder name).StandsFor b piece) (h' : (placeholder name).StandsFor b' piece) :
    (b'.get? name).map RouteValue.elements = (b.get? name).map RouteValue.elements := by
  obtain ⟨-, -, v, hv, hread⟩ := h
  obtain ⟨-, -, v', hv', hread'⟩ := h'
  have heq : v'.elements.map some = v.elements.map some := hread'.symm.trans hread
  rw [hv, hv', Option.map_some, Option.map_some,
    List.map_inj_right (fun _ _ => Option.some.inj) |>.1 heq]

end Segment

/-! ## Templates -/

namespace Template

/-- The paths of a template with segments, piece by piece. -/
theorem render_eq_ok_iff {t : Template} {b : Bindings} {path : String} (hne : t.segments ≠ []) :
    t.render b = .ok path ↔
      ∃ ps, List.Forall₂ (fun s p => s.render b = .ok p) t.segments ps ∧
        String.ofList (ps.flatMap fun p => '/' :: p) = path := by
  unfold render
  rw [if_neg (by rwa [List.isEmpty_iff])]
  simp only [← mapM_eq_ok_iff]
  cases t.segments.mapM (Segment.render b) with
  | error name => simp [Except.map]
  | ok ps => simp [Except.map]

theorem mem_params_iff {t : Template} {name : String} :
    name ∈ t.params ↔ Segment.placeholder name ∈ t.segments := by
  unfold params
  rw [List.mem_filterMap]
  constructor
  · rintro ⟨s, hs, hname⟩
    cases s with
    | literal text => cases hname
    | placeholder other =>
      obtain rfl := Option.some.inj hname
      exact hs
  · intro h
    exact ⟨_, h, rfl⟩

/-- No literal of a template that was read holds a separator. -/
theorem slash_not_mem_of_parse {source text : String}
    (h : Segment.literal text ∈ (parse source).segments) : '/' ∉ text.toList := by
  obtain ⟨piece, hpiece, hs⟩ := List.mem_map.1 h
  have hslash : '/' ∉ piece := Text.not_mem_of_mem_pieces (List.mem_filter.1 hpiece).1
  exact Segment.slash_not_mem_of_ofPiece hslash hs

/-- The pieces of a rendered path, one for each segment. -/
theorem split_render {source : String} {b : Bindings} {path : String}
    (hne : (parse source).segments ≠ []) (h : (parse source).render b = .ok path) :
    ∃ ps, Text.split '/' path = "" :: ps ∧
      List.Forall₂ (Segment.StandsFor b) (parse source).segments ps := by
  obtain ⟨ps, hps, rfl⟩ := (render_eq_ok_iff hne).1 h
  have hslash : ∀ p ∈ ps, '/' ∉ p := by
    intro p hp
    obtain ⟨s, hs, hrender⟩ := exists_left_of_forall₂ hps hp
    exact Segment.slash_not_mem_of_render hrender fun text ht => slash_not_mem_of_parse (ht ▸ hs)
  refine ⟨ps.map String.ofList, ?_, ?_⟩
  · rw [Text.split, String.toList_ofList, Text.pieces_flatMap hslash]
    rfl
  · rw [List.forall₂_map_right_iff]
    exact hps.imp fun _ _ => Segment.standsFor_of_render

/-- **A path tells the values that it was rendered from.** -/
theorem render_faithful (source : String) (b : Bindings) {path : String}
    (hne : (parse source).segments ≠ []) (h : (parse source).render b = .ok path) :
    (∃ ps, Text.split '/' path = "" :: ps ∧
      List.Forall₂ (Segment.StandsFor b) (parse source).segments ps) ∧
    ∀ b', (parse source).render b' = .ok path → ∀ name ∈ (parse source).params,
      (b'.get? name).map RouteValue.elements = (b.get? name).map RouteValue.elements := by
  obtain ⟨ps, hsplit, hps⟩ := split_render hne h
  refine ⟨⟨ps, hsplit, hps⟩, fun b' h' name hname => ?_⟩
  obtain ⟨ps', hsplit', hps'⟩ := split_render hne h'
  -- the same path is cut into the same pieces, and each tells the value in its place
  obtain rfl : ps' = ps := (List.cons.inj (hsplit'.symm.trans hsplit)).2
  obtain ⟨piece, -, hpiece, hpiece'⟩ :=
    exists_right_of_forall₂ hps hps' (mem_params_iff.1 hname)
  exact hpiece.elements_eq hpiece'

/-- A list with an empty text and a comma inside a text, beside an id with a letter outside
ASCII. -/
theorem render_faithful_of_list :
    ∃ ps, Text.split '/' "/a%2Cb,c/_doc/%C3%A9" = "" :: ps ∧
      List.Forall₂
        (Segment.StandsFor (KeyMap.ofList [("index", .list ["a,b", "", "c"]), ("id", .single "é")]))
        (parse "/{index}/_doc/{id}").segments ps :=
  (render_faithful "/{index}/_doc/{id}" _ (by decide) (by decide)).1

end Template

end SearchRest
