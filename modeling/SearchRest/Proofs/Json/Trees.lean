/-
Stored forms as JSON trees.

A value is stored as a tree, and the tree is kept in its canonical form, where
the entries of every object stand in the order of their keys. So a reader sees
other entries first than the writer wrote, which makes no difference to it: a
field of a record is looked up by its name, and a map is made of its entries in
whatever order they come. What is ordered already, such as a tagged value or a
list of texts, is its own canonical form.
-/
import SearchRest.Json.Shape
import SearchRest.Proofs.Lists

set_option autoImplicit false

namespace SearchRest.Json

/-! ## Ordered trees -/

theorem canonicalEntries_eq_map (entries : List (String × Json)) :
    canonicalEntries entries = entries.map fun e => (e.1, canonical e.2) := by
  induction entries with
  | nil => rfl
  | cons e rest ih => rw [canonicalEntries, ih, List.map_cons]

mutual
/-- **An ordered tree is its own canonical form.** -/
theorem canonical_eq_self : ∀ {v : Json}, v.IsOrdered → v.canonical = v
  | .null, _ | .bool _, _ | .number _, _ | .text _, _ => rfl
  | .array items, h => by
    have hitems : canonicalItems items = items := canonicalItems_eq_self h
    rw [canonical, hitems]
  | .object entries, h => by
    obtain ⟨hkeys, hvalues⟩ := h
    have hentries : canonicalEntries entries = entries := canonicalEntries_eq_self hvalues
    -- entries in order are those of a map, and a map is made of its entries
    have hmap : KeyMap.ofList entries = ⟨entries, hkeys⟩ := KeyMap.ofList_entries ⟨entries, hkeys⟩
    rw [canonical, hentries, hmap]

theorem canonicalItems_eq_self : ∀ {vs : List Json}, AreOrdered vs → canonicalItems vs = vs
  | [], _ => rfl
  | v :: vs, h => by
    obtain ⟨hv, hvs⟩ := h
    rw [canonicalItems, canonical_eq_self hv, canonicalItems_eq_self hvs]

theorem canonicalEntries_eq_self :
    ∀ {entries : List (String × Json)}, HasOrdered entries → canonicalEntries entries = entries
  | [], _ => rfl
  | (k, v) :: rest, h => by
    obtain ⟨hv, hrest⟩ := h
    rw [canonicalEntries, canonical_eq_self hv, canonicalEntries_eq_self hrest]
end

/-- What is canonical is kept as it is. -/
theorem ofJson_value (v : CanonicalJson) : CanonicalJson.ofJson v.value = v := by
  have hvalue : (CanonicalJson.ofJson v.value).value = v.value := canonical_eq_self v.ordered
  cases v
  rw [CanonicalJson.mk.injEq]
  exact hvalue

theorem isOrdered_texts (l : List String) : (texts l).IsOrdered := by
  apply areOrdered_iff.2
  intro v hv
  obtain ⟨s, -, rfl⟩ := List.mem_map.1 hv
  exact trivial

theorem asTexts?_texts (l : List String) : (texts l).asTexts? = some l :=
  mapM_map_eq_some fun _ _ => rfl

/-! ## Tagged values -/

theorem isOrdered_tagged {kind : String} {content : Json} (h : content.IsOrdered) :
    (tagged kind content).IsOrdered := by
  have hkeys : "kind" < "value" := by decide
  exact ⟨List.pairwise_pair.2 hkeys, trivial, h, trivial⟩

/-! ## Records -/

/-- Where no key stands twice, the entries with a key are the one that is found. -/
theorem valuesAt_eq_toList {entries : List (String × Json)} (hkeys : (entries.map Prod.fst).Nodup)
    (k : String) : valuesAt k entries = (KeyMap.findEntry k entries).toList := by
  induction entries with
  | nil => rfl
  | cons e rest ih =>
    obtain ⟨hne, hrest⟩ := List.nodup_cons.1 hkeys
    by_cases he : e.1 = k
    · -- no other entry has this key
      have hnone : valuesAt k rest = [] := by
        rw [valuesAt, List.filter_eq_nil_iff.2, List.map_nil]
        intro x hx hxk
        apply hne
        rw [he, ← of_decide_eq_true hxk]
        exact List.mem_map_of_mem hx
      have hhead : valuesAt k (e :: rest) = e.2 :: valuesAt k rest := by simp [valuesAt, he]
      rw [hhead, hnone, KeyMap.findEntry, if_pos he]
      rfl
    · have hhead : valuesAt k (e :: rest) = valuesAt k rest := by simp [valuesAt, he]
      rw [hhead, ih hrest, KeyMap.findEntry, if_neg he]

theorem field?_entries (m : KeyMap Json) (k : String) : field? m.entries k = some (m.get? k) := by
  have hvalues : valuesAt k m.entries = (m.get? k).toList := valuesAt_eq_toList m.nodup_keys k
  rw [field?, hvalues]
  cases m.get? k with
  | none => rfl
  | some v => rfl

/-- **The fields of a record** that is in canonical form are found by their names. -/
theorem fields?_canonical (names : List String) (entries : List (String × Json)) :
    fields? names (canonical (.object entries))
      = some (names.map (KeyMap.ofList (canonicalEntries entries)).get?) := by
  rw [canonical, fields?, funext (field?_entries _), mapM_eq_some_iff, List.forall₂_map_right_iff,
    List.forall₂_same]
  exact fun _ _ => rfl

/-! ## Maps -/

variable {α : Type}

/-- The canonical form of a map is that of its values. -/
theorem canonical_ofMap (write : α → Json) (m : KeyMap α) :
    canonical (ofMap write m) = ofMap (fun a => canonical (write a)) m := by
  have hentries : canonicalEntries (m.entries.map fun e => (e.1, write e.2))
      = (m.map fun a => canonical (write a)).entries := by
    rw [canonicalEntries_eq_map, List.map_map]
    rfl
  rw [ofMap, canonical, hentries, KeyMap.ofList_entries]
  rfl

/-- So where its values are ordered, a map is its own canonical form. -/
theorem canonical_ofMap_of_isOrdered {write : α → Json} (h : ∀ a, (write a).IsOrdered)
    (m : KeyMap α) : canonical (ofMap write m) = ofMap write m := by
  rw [canonical_ofMap, funext fun a => canonical_eq_self (h a)]

/-- **A map is read back** if every value is. -/
theorem asMap?_ofMap {read : Json → Option α} {write : α → Json} {m : KeyMap α}
    (h : ∀ e ∈ m.entries, read (write e.2) = some e.2) : (ofMap write m).asMap? read = some m := by
  have hentries : (m.entries.map fun e => (e.1, write e.2)).mapM
      (fun e => (read e.2).map fun a => (e.1, a)) = some m.entries := by
    apply mapM_map_eq_some
    intro e he
    rw [h e he]
    rfl
  rw [ofMap, asMap?, hentries, Option.map_some, KeyMap.ofList_entries]

/-- A map is not read back if some value is not. -/
theorem asMap?_ofMap_eq_none {read : Json → Option α} {write : α → Json} {m : KeyMap α}
    {e : String × α} (he : e ∈ m.entries) (h : read (write e.2) = none) :
    (ofMap write m).asMap? read = none := by
  rw [ofMap, asMap?, Option.map_eq_none_iff, Option.eq_none_iff_forall_ne_some]
  intro r hr
  rw [mapM_eq_some_iff, List.forall₂_map_left_iff] at hr
  obtain ⟨a, -, ha, -⟩ := exists_right_of_forall₂ hr hr he
  rw [h] at ha
  cases ha

end SearchRest.Json
