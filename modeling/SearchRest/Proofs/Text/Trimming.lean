/-
Trimmed texts, and lists written with commas.

A trimmed text has no blank at either end, and trimming changes no text that has
none. A list is read from a text by cutting at the commas, trimming, and leaving
out what is empty, so its entries are trimmed, not empty and without commas. Any
list of such entries is read back from its entries with commas between them, and
since no other list is ever read, only lists of such entries are.
-/
import Mathlib.Data.List.DropRight
import SearchRest.Proofs.Text.Pieces
import SearchRest.Text.Blank

set_option autoImplicit false

namespace SearchRest.Text

/-! ## Trimming -/

/-- **A text without blanks at either end.** -/
structure IsTrimmed (cs : List Char) : Prop where
  head : ∀ c ∈ cs.head?, isBlank c = false
  last : ∀ c ∈ cs.getLast?, isBlank c = false

/-- Trimming takes blanks off the end of what is left when they are taken off the front. -/
theorem trimmed_eq (cs : List Char) : trimmed cs = (cs.dropWhile isBlank).rdropWhile isBlank := rfl

theorem isTrimmed_trimmed (cs : List Char) : IsTrimmed (trimmed cs) where
  head c hc := by
    rw [trimmed_eq] at hc
    have hfront := List.head?_dropWhile_not isBlank cs
    -- what is taken off the end leaves the first character where it was
    obtain ⟨dropped, hdropped⟩ := List.rdropWhile_prefix isBlank (cs.dropWhile isBlank)
    rw [← hdropped, List.head?_append, hc, Option.some_or] at hfront
    exact hfront
  last c hc := by
    rw [trimmed_eq] at hc
    obtain ⟨hne, rfl⟩ := List.mem_getLast?_eq_getLast hc
    exact Bool.eq_false_iff.2 (List.rdropWhile_last_not isBlank _ hne)

/-- **A text is left as it is exactly when it is trimmed.** -/
theorem trimmed_eq_self_iff {cs : List Char} : trimmed cs = cs ↔ IsTrimmed cs := by
  refine ⟨fun h => h ▸ isTrimmed_trimmed cs, fun h => ?_⟩
  have hfront : cs.dropWhile isBlank = cs := by
    cases cs with
    | nil => rfl
    | cons c cs => exact List.dropWhile_cons_of_neg (Bool.eq_false_iff.1 (h.head c rfl))
  rw [trimmed_eq, hfront, List.rdropWhile_eq_self_iff]
  intro hne
  exact Bool.eq_false_iff.1 (h.last _ (List.getLast?_eq_getLast_of_ne_nil hne))

theorem mem_of_mem_trimmed {cs : List Char} {c : Char} (h : c ∈ trimmed cs) : c ∈ cs :=
  (List.dropWhile_suffix isBlank).subset ((List.rdropWhile_prefix isBlank _).subset h)

theorem trim_eq_self_iff {s : String} : trim s = s ↔ IsTrimmed s.toList := by
  rw [← trimmed_eq_self_iff, trim, ← String.toList_inj, String.toList_ofList]

/-! ## Lists with commas -/

/-- **An entry of a list that is written with commas**: a trimmed text that is not empty and holds no
comma. -/
structure IsEntry (x : String) : Prop where
  ne_empty : x ≠ ""
  comma : ',' ∉ x.toList
  trimmed : IsTrimmed x.toList

/-- **Whatever is read as a list has such entries.** -/
theorem isEntry_of_mem_commaList {s x : String} (h : x ∈ commaList s) : IsEntry x := by
  obtain ⟨hmem, hne⟩ := List.mem_filter.1 h
  obtain ⟨part, hpart, rfl⟩ := List.mem_map.1 hmem
  obtain ⟨p, hp, rfl⟩ := List.mem_map.1 hpart
  have htrim : (trim (String.ofList p)).toList = trimmed p := by
    rw [trim, String.toList_ofList, String.toList_ofList]
  refine ⟨?_, ?_, ?_⟩
  · rintro hempty
    rw [hempty] at hne
    cases hne
  · rw [htrim]
    exact fun hcomma => not_mem_of_mem_pieces hp (mem_of_mem_trimmed hcomma)
  · rw [htrim]
    exact isTrimmed_trimmed p

/-- **A list of such entries is read back** from its entries with commas between them. -/
theorem commaList_join {l : List String} (h : ∀ x ∈ l, IsEntry x) : commaList (join ',' l) = l := by
  rcases eq_or_ne l [] with rfl | hne
  · rfl
  · rw [commaList, split_join hne fun x hx => (h x hx).comma]
    have htrim : l.map trim = l :=
      (List.map_congr_left fun x hx => trim_eq_self_iff.2 (h x hx).trimmed).trans (List.map_id l)
    rw [htrim, List.filter_eq_self]
    intro x hx
    simpa using (h x hx).ne_empty

/-- And no other list is. -/
theorem commaList_join_eq_self_iff {l : List String} :
    commaList (join ',' l) = l ↔ ∀ x ∈ l, IsEntry x :=
  ⟨fun h _ hx => isEntry_of_mem_commaList (h ▸ hx), commaList_join⟩

/-- Without a comma there is one entry, unless only blanks are there. -/
theorem commaList_of_not_mem {s : String} (h : ',' ∉ s.toList) :
    commaList s = [trim s].filter (· ≠ "") := by
  rw [commaList, split, pieces_of_not_mem h]
  show [trim (String.ofList s.toList)].filter _ = _
  rw [String.ofList_toList]
  refine List.filter_congr fun x _ => ?_
  rw [Bool.eq_iff_iff]
  simp

end SearchRest.Text
