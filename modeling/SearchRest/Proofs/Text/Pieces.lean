/-
Paths as pieces.

A path puts a separator in front of every piece, where a list puts it between
neighbours. Either way, cutting gives the pieces back when none of them holds
the separator, and nothing but the separator is added to the characters of the
pieces. Dropping separators from the end of a path drops its empty pieces there.
-/
import Mathlib.Data.List.Basic
import Mathlib.Data.List.Induction
import SearchRest.Text.Pieces

set_option autoImplicit false

namespace SearchRest.Text

variable {sep : Char}

/-- A character of a joined text is the separator or comes from a piece. -/
theorem mem_joined {ps : List (List Char)} {c : Char} (h : c ∈ joined sep ps) :
    c = sep ∨ ∃ p ∈ ps, c ∈ p := by
  induction ps with
  | nil => cases h
  | cons p ps ih =>
    cases ps with
    | nil => exact .inr ⟨p, List.mem_singleton_self p, h⟩
    | cons q qs =>
      rw [joined_cons_cons, List.mem_append, List.mem_cons] at h
      rcases h with h | h | h
      · exact .inr ⟨p, List.mem_cons_self, h⟩
      · exact .inl h
      · exact (ih h).imp_right fun ⟨x, hx, hc⟩ => ⟨x, List.mem_cons_of_mem _ hx, hc⟩

/-- Every character of a piece is one of the joined text. -/
theorem mem_joined_of_mem {ps : List (List Char)} {p : List Char} {c : Char} (hp : p ∈ ps)
    (hc : c ∈ p) : c ∈ joined sep ps := by
  induction ps with
  | nil => cases hp
  | cons q qs ih =>
    cases qs with
    | nil =>
      obtain rfl := List.mem_singleton.1 hp
      exact hc
    | cons r rs =>
      rw [joined_cons_cons]
      rcases List.mem_cons.1 hp with rfl | hp
      · exact List.mem_append_left _ hc
      · exact List.mem_append_right _ (List.mem_cons_of_mem _ (ih hp))

/-- Every character of a piece is one of the text. -/
theorem mem_of_mem_pieces {cs p : List Char} {c : Char} (hp : p ∈ pieces sep cs) (hc : c ∈ p) :
    c ∈ cs := by
  rw [← joined_pieces sep cs]
  exact mem_joined_of_mem hp hc

/-- Texts without the separator are cut apart again where they were joined. -/
theorem split_join {l : List String} (hne : l ≠ []) (h : ∀ s ∈ l, sep ∉ s.toList) :
    split sep (join sep l) = l := by
  have hpieces : pieces sep (joined sep (l.map String.toList)) = l.map String.toList := by
    refine pieces_joined (fun hnil => hne (List.map_eq_nil_iff.1 hnil)) fun p hp => ?_
    obtain ⟨s, hs, rfl⟩ := List.mem_map.1 hp
    exact h s hs
  rw [split, join, String.toList_ofList, hpieces, List.map_map]
  exact List.map_id'' (fun s => String.ofList_toList) l

theorem pieces_append_flatMap {p : List Char} {ps : List (List Char)} (hp : sep ∉ p)
    (hps : ∀ q ∈ ps, sep ∉ q) : pieces sep (p ++ ps.flatMap fun q => sep :: q) = p :: ps := by
  induction ps generalizing p with
  | nil => rw [List.flatMap_nil, List.append_nil, pieces_of_not_mem hp]
  | cons q qs ih =>
    obtain ⟨hq, hqs⟩ := List.forall_mem_cons.1 hps
    rw [List.flatMap_cons, List.cons_append, pieces_append_cons hp, ih hq hqs]

/-- Cutting a path gives an empty piece, for what stands before the first separator, and then the
pieces that it was made of. -/
theorem pieces_flatMap {ps : List (List Char)} (hps : ∀ q ∈ ps, sep ∉ q) :
    pieces sep (ps.flatMap fun q => sep :: q) = [] :: ps :=
  pieces_append_flatMap (p := []) List.not_mem_nil hps

/-- What stands before a separator and what stands behind it are cut on their own. -/
theorem pieces_append (front back : List Char) :
    pieces sep (front ++ sep :: back) = pieces sep front ++ pieces sep back := by
  induction front with
  | nil => simp [pieces]
  | cons c front ih =>
    rw [List.cons_append, pieces, pieces, ih]
    by_cases hc : c = sep
    · rw [if_pos hc, if_pos hc, List.cons_append]
    · obtain ⟨p, ps, hps⟩ := List.exists_cons_of_ne_nil (pieces_ne_nil sep front)
      rw [if_neg hc, if_neg hc, hps]
      rfl

/-- A text has at most as many pieces as characters and one. -/
theorem length_pieces_le (cs : List Char) : (pieces sep cs).length ≤ cs.length + 1 := by
  induction cs with
  | nil => exact Nat.le_refl 1
  | cons c cs ih =>
    unfold pieces
    split
    · simpa using ih
    · split
      · simp
      · rename_i heq
        rw [heq] at ih
        exact Nat.le_succ_of_le ih

/-- A path without its first separator is its pieces joined. -/
theorem drop_flatMap {ps : List (List Char)} (hne : ps ≠ []) :
    (ps.flatMap fun q => sep :: q).drop 1 = joined sep ps := by
  have general : ∀ (p : List Char) (ps : List (List Char)),
      p ++ (ps.flatMap fun q => sep :: q) = joined sep (p :: ps) := by
    intro p ps
    induction ps generalizing p with
    | nil => simp [joined]
    | cons q qs ih => rw [List.flatMap_cons, List.cons_append, ih q, joined_cons_cons]
  obtain ⟨p, ps, rfl⟩ := List.exists_cons_of_ne_nil hne
  rw [← general p ps]
  rfl

/-! ## The first separator -/

theorem cutFirst_eq_none {cs : List Char} (h : sep ∉ cs) : cutFirst sep cs = none := by
  induction cs with
  | nil => rfl
  | cons c cs ih =>
    have hc : c ≠ sep := fun he => h (he ▸ List.mem_cons_self)
    rw [cutFirst, if_neg hc, ih fun hm => h (List.mem_cons_of_mem _ hm)]
    rfl

theorem cutFirst_append {front : List Char} (h : sep ∉ front) (back : List Char) :
    cutFirst sep (front ++ sep :: back) = some (front, back) := by
  induction front with
  | nil => exact if_pos rfl
  | cons c front ih =>
    have hc : c ≠ sep := fun he => h (he ▸ List.mem_cons_self)
    rw [List.cons_append, cutFirst, if_neg hc, ih fun hm => h (List.mem_cons_of_mem _ hm)]
    rfl

/-- What stands in front without a separator goes to what is cut off first. -/
theorem cutFirst_append_of_not_mem {front : List Char} (h : sep ∉ front) (cs : List Char) :
    cutFirst sep (front ++ cs) = (cutFirst sep cs).map fun cut => (front ++ cut.1, cut.2) := by
  induction front with
  | nil => exact Option.map_id'.symm
  | cons c front ih =>
    have hc : c ≠ sep := fun he => h (he ▸ List.mem_cons_self)
    rw [List.cons_append, cutFirst, if_neg hc, ih fun hm => h (List.mem_cons_of_mem _ hm),
      Option.map_map]
    rfl

/-- A text is cut at its first separator. -/
theorem splitFirst_eq_some {s front back : String} (h : sep ∉ front.toList)
    (hs : s.toList = front.toList ++ sep :: back.toList) :
    splitFirst sep s = some (front, back) := by
  rw [splitFirst, hs, cutFirst_append h, Option.map_some]
  show some (String.ofList front.toList, String.ofList back.toList) = some (front, back)
  rw [String.ofList_toList, String.ofList_toList]

/-- **A text is cut where its first separator stands**, and only there. -/
theorem cutFirst_eq_some_iff {cs front back : List Char} :
    cutFirst sep cs = some (front, back) ↔ sep ∉ front ∧ cs = front ++ sep :: back := by
  refine ⟨fun h => ?_, fun ⟨hfront, hcs⟩ => hcs ▸ cutFirst_append hfront back⟩
  by_cases hsep : sep ∈ cs
  · obtain ⟨f, b, rfl, hf⟩ := List.eq_append_cons_of_mem hsep
    rw [cutFirst_append hf] at h
    cases h
    exact ⟨hf, rfl⟩
  · rw [cutFirst_eq_none hsep] at h
    cases h

theorem splitFirst_eq_some_iff {s front back : String} :
    splitFirst sep s = some (front, back) ↔
      sep ∉ front.toList ∧ s.toList = front.toList ++ sep :: back.toList := by
  refine ⟨fun h => ?_, fun ⟨hfront, hs⟩ => splitFirst_eq_some hfront hs⟩
  obtain ⟨⟨f, b⟩, hcut, heq⟩ := Option.map_eq_some_iff.1 h
  cases heq
  rw [String.toList_ofList, String.toList_ofList]
  exact cutFirst_eq_some_iff.1 hcut

/-! ## Marks at the ends of a text -/

/-- **A mark is taken off a text that begins with it**, and off no other. -/
theorem dropStart?_eq_some_iff {start cs rest : List Char} :
    dropStart? start cs = some rest ↔ cs = start ++ rest := by
  induction start generalizing cs with
  | nil => exact Option.some_inj
  | cons d ds ih =>
    cases cs with
    | nil => simp [dropStart?]
    | cons c cs =>
      by_cases hdc : d = c
      · rw [dropStart?, if_pos hdc, ih, hdc, List.cons_append, List.cons_inj_right]
      · simp [dropStart?, hdc, Ne.symm hdc]

theorem dropLast?_append (last : Char) (cs : List Char) :
    dropLast? last (cs ++ [last]) = some cs := by
  induction cs with
  | nil => simp [dropLast?]
  | cons c cs ih =>
    cases cs with
    | nil => simp [dropLast?]
    | cons d cs =>
      rw [List.cons_append, List.cons_append, dropLast?, ← List.cons_append, ih]
      · rfl
      · exact List.cons_ne_nil _ _

/-- A last character is taken off a text that ends in it, and off no other. -/
theorem dropLast?_eq_some_iff {last : Char} {cs rest : List Char} :
    dropLast? last cs = some rest ↔ cs = rest ++ [last] := by
  refine ⟨fun h => ?_, fun h => h ▸ dropLast?_append last rest⟩
  induction cs generalizing rest with
  | nil => cases h
  | cons c cs ih =>
    cases cs with
    | nil =>
      rw [dropLast?] at h
      split at h
      · rename_i hc
        cases h
        rw [hc, List.nil_append]
      · cases h
    | cons d ds =>
      rw [dropLast?] at h
      · obtain ⟨front, hfront, rfl⟩ := Option.map_eq_some_iff.1 h
        rw [ih hfront, List.cons_append]
      · exact List.cons_ne_nil _ _

/-! ## The end of a text -/

theorem dropEndWhile_append_singleton (p : Char → Bool) (cs : List Char) (c : Char) :
    dropEndWhile p (cs ++ [c]) = if p c then dropEndWhile p cs else cs ++ [c] := by
  unfold dropEndWhile
  rw [List.reverse_append, List.reverse_singleton, List.singleton_append, List.dropWhile_cons]
  split
  · rfl
  · rw [List.reverse_cons, List.reverse_reverse]

/-- Nothing is dropped beyond a character that stays. -/
theorem dropEndWhile_append {p : Char → Bool} {c : Char} (hc : p c = false) (front cs : List Char) :
    dropEndWhile p (front ++ c :: cs) = front ++ c :: dropEndWhile p cs := by
  induction cs using List.reverseRecOn with
  | nil =>
    rw [dropEndWhile_append_singleton, if_neg (by simp [hc])]
    rfl
  | append_singleton cs d ih =>
    rw [← List.cons_append, ← List.append_assoc, dropEndWhile_append_singleton,
      dropEndWhile_append_singleton, ih]
    split <;> simp

/-- Separators at the end of a path are empty pieces. -/
theorem dropEndWhile_flatMap {ps : List (List Char)} (hps : ∀ p ∈ ps, sep ∉ p) :
    ∃ qs : List (List Char), (∀ q ∈ qs, q ∈ ps) ∧
      dropEndWhile (· = sep) (ps.flatMap fun p => sep :: p) = qs.flatMap fun p => sep :: p := by
  induction ps using List.reverseRecOn with
  | nil => exact ⟨[], List.forall_mem_nil _, rfl⟩
  | append_singleton ps p ih =>
    rw [List.flatMap_append, List.flatMap_singleton]
    rcases List.eq_nil_or_concat' p with rfl | ⟨front, c, rfl⟩
    -- an empty piece is a separator at the end; any other piece ends in a character that stays
    · obtain ⟨qs, hqs, heq⟩ := ih fun p hp => hps p (List.mem_append_left _ hp)
      refine ⟨qs, fun q hq => List.mem_append_left _ (hqs q hq), ?_⟩
      rw [dropEndWhile_append_singleton, if_pos (by simp), heq]
    · have hc : c ≠ sep := by
        rintro rfl
        exact hps _ (List.mem_append_right _ List.mem_cons_self) (by simp)
      refine ⟨ps ++ [front ++ [c]], fun q hq => hq, ?_⟩
      rw [← List.cons_append, ← List.append_assoc, dropEndWhile_append_singleton,
        if_neg (by simpa using hc), List.flatMap_append, List.flatMap_singleton,
        ← List.cons_append, List.append_assoc]

end SearchRest.Text
