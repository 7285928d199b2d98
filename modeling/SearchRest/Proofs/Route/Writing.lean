/-
Templates as texts.

A segment is written as its literal or as its name in braces, with a slash in
front. What a text loses as a template are its empty pieces and the places where
they stood, so the segments of a text are read back from the text that they are
written as.

Not every list of segments is the list of a text. A literal that is empty would
not be seen, one in braces would be taken for a placeholder, and one with a slash
for two segments. Nothing else is excluded: a brace may stand alone or inside
other braces, and a name may be empty.
-/
import SearchRest.Proofs.Text.Pieces
import SearchRest.Route.Template

set_option autoImplicit false

namespace SearchRest

/-! ## Segments -/

namespace Segment

/-- The text of the segment in a template. -/
def piece : Segment → List Char
  | .literal text => text.toList
  | .placeholder name => '\x7b' :: (name.toList ++ ['\x7d'])

/-- **A segment that some template has.** There is no slash in it, and its literal is neither empty
nor a text of two characters or more between an opening and a closing brace. -/
def IsCanonical : Segment → Prop
  | .literal text =>
    '/' ∉ text.toList ∧ text ≠ "" ∧
      ¬ (2 ≤ text.toList.length ∧ text.toList.head? = some '\x7b' ∧
        text.toList.getLast? = some '\x7d')
  | .placeholder name => '/' ∉ name.toList

instance : DecidablePred IsCanonical
  | .literal _ => inferInstanceAs (Decidable (_ ∧ _ ∧ ¬ _))
  | .placeholder _ => inferInstanceAs (Decidable (¬ _))

/-- A text is a name between braces if it begins with one brace and ends with the other, and these
are not one character. -/
theorem exists_eq_braces_iff {text : List Char} :
    (∃ name : List Char, text = '\x7b' :: (name ++ ['\x7d'])) ↔
      2 ≤ text.length ∧ text.head? = some '\x7b' ∧ text.getLast? = some '\x7d' := by
  constructor
  · rintro ⟨name, rfl⟩
    refine ⟨by simp, rfl, ?_⟩
    rw [← List.cons_append, List.getLast?_concat]
  · rintro ⟨hlength, hhead, hlast⟩
    obtain ⟨rest, rfl⟩ := List.head?_eq_some_iff.1 hhead
    have hne : rest ≠ [] := by
      rintro rfl
      simp at hlength
    obtain ⟨name, last, rfl⟩ := (List.eq_nil_or_concat' rest).resolve_left hne
    rw [← List.cons_append, List.getLast?_concat, Option.some_inj] at hlast
    exact ⟨name, by rw [hlast]⟩

theorem ofPiece_braces (name : List Char) :
    ofPiece ('\x7b' :: (name ++ ['\x7d'])) = .placeholder (String.ofList name) := by
  have hopen : Text.dropStart? ['\x7b'] ('\x7b' :: (name ++ ['\x7d'])) = some (name ++ ['\x7d']) :=
    Text.dropStart?_eq_some_iff.2 rfl
  rw [ofPiece, hopen, Option.bind_some, Text.dropLast?_append]

theorem ofPiece_literal {text : List Char}
    (h : ¬ ∃ name : List Char, text = '\x7b' :: (name ++ ['\x7d'])) :
    ofPiece text = .literal (String.ofList text) := by
  have hnone : (Text.dropStart? ['\x7b'] text).bind (Text.dropLast? '\x7d') = none := by
    rw [Option.eq_none_iff_forall_ne_some]
    intro name hname
    obtain ⟨rest, hrest, hlast⟩ := Option.bind_eq_some_iff.1 hname
    refine h ⟨name, ?_⟩
    rw [Text.dropStart?_eq_some_iff.1 hrest, Text.dropLast?_eq_some_iff.1 hlast]
    rfl
  rw [ofPiece, hnone]

/-- A canonical segment is read back from its piece. -/
theorem ofPiece_piece {s : Segment} (h : s.IsCanonical) : ofPiece s.piece = s := by
  cases s with
  | literal text =>
    rw [piece, ofPiece_literal (mt exists_eq_braces_iff.1 h.2.2), String.ofList_toList]
  | placeholder name => rw [piece, ofPiece_braces, String.ofList_toList]

theorem isCanonical_ofPiece {text : List Char} (hslash : '/' ∉ text) (hne : text ≠ []) :
    (ofPiece text).IsCanonical := by
  by_cases h : ∃ name : List Char, text = '\x7b' :: (name ++ ['\x7d'])
  · obtain ⟨name, rfl⟩ := h
    rw [ofPiece_braces, IsCanonical, String.toList_ofList]
    exact fun hname => hslash (by simp [hname])
  · rw [ofPiece_literal h, IsCanonical, String.toList_ofList]
    exact ⟨hslash, mt String.ofList_eq_empty_iff.1 hne, mt exists_eq_braces_iff.2 h⟩

theorem slash_not_mem_piece {s : Segment} (h : s.IsCanonical) : '/' ∉ s.piece := by
  cases s with
  | literal text => exact h.1
  | placeholder name =>
    have hname : '/' ∉ name.toList := h
    simp [piece, hname]

theorem piece_ne_nil {s : Segment} (h : s.IsCanonical) : s.piece ≠ [] := by
  cases s with
  | literal text => exact mt String.toList_eq_nil_iff.1 h.2.1
  | placeholder name => exact List.cons_ne_nil _ _

end Segment

/-! ## Templates -/

namespace Template

/-- A list of segments as a text, with a slash in front of each segment. -/
def written (segments : List Segment) : String :=
  String.ofList (segments.flatMap fun s => '/' :: s.piece)

theorem isCanonical_of_mem_parse {source : String} {s : Segment}
    (h : s ∈ (parse source).segments) : s.IsCanonical := by
  obtain ⟨text, htext, rfl⟩ := List.mem_map.1 h
  obtain ⟨hpiece, hne⟩ := List.mem_filter.1 htext
  exact Segment.isCanonical_ofPiece (Text.not_mem_of_mem_pieces hpiece) (by simpa using hne)

/-- **Canonical segments are read back** from the text that they are written as. -/
theorem segments_parse_written {segments : List Segment} (h : ∀ s ∈ segments, s.IsCanonical) :
    (parse (written segments)).segments = segments := by
  have hslash : ∀ p ∈ segments.map Segment.piece, '/' ∉ p := by
    intro p hp
    obtain ⟨s, hs, rfl⟩ := List.mem_map.1 hp
    exact Segment.slash_not_mem_piece (h s hs)
  have hpieces : Text.pieces '/' (written segments).toList
      = [] :: segments.map Segment.piece := by
    rw [written, String.toList_ofList, ← Text.pieces_flatMap hslash, List.flatMap_map]
  have hkept : (segments.map Segment.piece).filter (fun p => !p.isEmpty)
      = segments.map Segment.piece := by
    refine List.filter_eq_self.2 fun p hp => ?_
    obtain ⟨s, hs, rfl⟩ := List.mem_map.1 hp
    simpa using Segment.piece_ne_nil (h s hs)
  have hread : ∀ s ∈ segments, Segment.ofPiece s.piece = s := fun s hs =>
    Segment.ofPiece_piece (h s hs)
  show ((Text.pieces '/' (written segments).toList).filter fun p => !p.isEmpty).map
    Segment.ofPiece = segments
  rw [hpieces, List.filter_cons_of_neg (by simp), hkept, List.map_map]
  exact (List.map_congr_left hread).trans (List.map_id segments)

/-- A slash parts a template into two, wherever it stands. -/
theorem segments_parse_append (front back : String) :
    (parse (front ++ "/" ++ back)).segments
      = (parse front).segments ++ (parse back).segments := by
  have hchars : (front ++ "/" ++ back).toList = front.toList ++ '/' :: back.toList := by
    rw [String.toList_append, String.toList_append, List.append_assoc]
    rfl
  simp only [parse, hchars, Text.pieces_append, List.filter_append, List.map_append]

theorem segments_parse_empty : (parse "").segments = [] := by decide

/-- **Reading a template undoes writing its segments.** Every segment that is read is canonical, the
segments of a text are read back from the text that they are written as, and the lists that are read
back are those of canonical segments. In particular no slash counts that stands at the start, at the
end or behind another slash. -/
theorem parse_written (source : String) (segments : List Segment) :
    (∀ s ∈ (parse source).segments, s.IsCanonical) ∧
    (parse (written (parse source).segments)).segments = (parse source).segments ∧
    ((parse (written segments)).segments = segments ↔ ∀ s ∈ segments, s.IsCanonical) ∧
    (parse ("/" ++ source)).segments = (parse source).segments ∧
    (parse (source ++ "/")).segments = (parse source).segments ∧
    ∀ rest, (parse (source ++ "//" ++ rest)).segments
      = (parse (source ++ "/" ++ rest)).segments := by
  have hcanonical : ∀ {source : String}, ∀ s ∈ (parse source).segments, s.IsCanonical :=
    fun _ => isCanonical_of_mem_parse
  refine ⟨hcanonical, segments_parse_written hcanonical,
    ⟨fun h => h ▸ hcanonical, segments_parse_written⟩, ?_, ?_, fun rest => ?_⟩
  · have h := segments_parse_append "" source
    rwa [String.empty_append, segments_parse_empty, List.nil_append] at h
  · have h := segments_parse_append source ""
    rwa [String.append_empty, segments_parse_empty, List.append_nil] at h
  · -- the empty text between the two slashes has no segments
    have hsplit : source ++ "//" ++ rest = (source ++ "/" ++ "") ++ "/" ++ rest := by
      simp [String.append_assoc]
    rw [hsplit, segments_parse_append, segments_parse_append, segments_parse_empty,
      List.append_nil, segments_parse_append]

/-- Braces that stand alone, that hold nothing and that stand inside others, between doubled
slashes. -/
theorem parse_written_of_braces :
    let braces : List Segment :=
      [.literal "\x7b", .placeholder "", .placeholder "\x7bx\x7d", .literal "x\x7d"]
    (parse "//\x7b/\x7b\x7d//\x7b\x7bx\x7d\x7d/x\x7d/").segments = braces ∧
      (parse (written braces)).segments = braces :=
  ⟨by decide, (parse_written "" _).2.2.1.2 (by decide)⟩

end Template

end SearchRest
