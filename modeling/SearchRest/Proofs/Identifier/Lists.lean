/-
Which identifier lists are read back.

A list is shown with commas between its identifiers and read from a text by
cutting at the commas and trimming. So a comma in an identifier and a blank at
either end of one are not told from those of the list itself. A list that was
read has neither, and is read back from the text that shows it. A list can also
be made of any texts, the empty ones left out, and then it is read back exactly
when its texts are as if they had been read.
-/
import SearchRest.Identifier
import SearchRest.Proofs.Text.Trimming

set_option autoImplicit false

namespace SearchRest.IdentifierList

variable {k : IdentifierKind}

theorem ext_items {l l' : IdentifierList k} : l = l' ↔ l.items = l'.items := by
  rw [mk.injEq]

/-- No list that is made of texts has an empty one. -/
theorem ne_empty_of_mem_ofTexts {l : List String} {x : String}
    (h : x ∈ (ofTexts l : IdentifierList k).items) : x ≠ "" := by
  simpa using (List.mem_filter.1 h).2

/-- **A list without empty identifiers is read back exactly when each of them could have been read.** -/
theorem ofText_display_eq_self_iff {l : IdentifierList k} (hne : ∀ x ∈ l.items, x ≠ "") :
    ofText l.display = l ↔ ∀ x ∈ l.items, ',' ∉ x.toList ∧ Text.IsTrimmed x.toList := by
  rw [ext_items]
  show Text.commaList (Text.join ',' l.items) = l.items ↔ _
  rw [Text.commaList_join_eq_self_iff]
  constructor
  · exact fun h x hx => ⟨(h x hx).comma, (h x hx).trimmed⟩
  · exact fun h x hx => ⟨hne x hx, (h x hx).1, (h x hx).2⟩

/-- **Lists that were read are read back, and others if their identifiers hold no comma and have no
blank at either end.** In a list of whatever kind that is read from a text, no identifier is empty,
holds a comma or has a blank at its start or end, and the list is read back from the text that shows
it. A list that is made of any texts is read back exactly when no identifier in it holds a comma or
has a blank at its start or end. -/
theorem ofText_display_faithful (k : IdentifierKind) :
    (∀ s : String,
      (∀ x ∈ (ofText s : IdentifierList k).items,
        x ≠ "" ∧ ',' ∉ x.toList ∧ Text.IsTrimmed x.toList) ∧
      ofText (ofText s : IdentifierList k).display = (ofText s : IdentifierList k)) ∧
    ∀ l : List String,
      ofText (ofTexts l : IdentifierList k).display = (ofTexts l : IdentifierList k) ↔
        ∀ x ∈ (ofTexts l : IdentifierList k).items, ',' ∉ x.toList ∧ Text.IsTrimmed x.toList := by
  refine ⟨fun s => ?_, fun l => ?_⟩
  · have hread : ∀ x ∈ (ofText s : IdentifierList k).items, Text.IsEntry x :=
      fun _ => Text.isEntry_of_mem_commaList
    refine ⟨fun x hx => ⟨(hread x hx).ne_empty, (hread x hx).comma, (hread x hx).trimmed⟩, ?_⟩
    rw [ofText_display_eq_self_iff fun x hx => (hread x hx).ne_empty]
    exact fun x hx => ⟨(hread x hx).comma, (hread x hx).trimmed⟩
  · exact ofText_display_eq_self_iff fun _ => ne_empty_of_mem_ofTexts

/-- A list read from a text with blanks and empty places, among them a blank outside ASCII. -/
example : (ofText " orders,\u2003a b ,, c" : IndexNames).items = ["orders", "a b", "c"] := by
  decide +kernel

end SearchRest.IdentifierList
