/-
Maps with text keys, kept in the order of their keys.

Route values, query parameters, headers and configuration tables are all maps
from names to values whose order of names shows in every output, so they share
one representation: the list of entries with strictly increasing keys. The
order is that of the code points, which for UTF-8 is also the order of the
bytes. Because the list is determined by what it maps, two maps that answer
every look-up alike are equal (`KeyMap.ext_get?`).
-/

set_option autoImplicit false

namespace SearchRest

universe u

/-- **A map from texts to values**, as its entries in increasing order of keys. -/
structure KeyMap (α : Type u) where
  /-- The entries, least key first. -/
  entries : List (String × α)
  /-- No key stands twice, and each key is below the ones after it. -/
  ordered : entries.Pairwise (fun a b => a.1 < b.1)
  deriving DecidableEq

namespace KeyMap

variable {α : Type u}

/-! ## Entries as lists -/

/-- Puts an entry at its place in an ordered list, over an entry with the same key. -/
def insertEntry (k : String) (v : α) : List (String × α) → List (String × α)
  | [] => [(k, v)]
  | e :: rest =>
    if k < e.1 then (k, v) :: e :: rest
    else if k = e.1 then (k, v) :: rest
    else e :: insertEntry k v rest

/-- The value of the first entry with the key `k`. -/
def findEntry (k : String) : List (String × α) → Option α
  | [] => none
  | e :: rest => if e.1 = k then some e.2 else findEntry k rest

theorem mem_insertEntry {k : String} {v : α} {x : String × α} {l : List (String × α)}
    (h : x ∈ insertEntry k v l) : x = (k, v) ∨ x ∈ l := by
  induction l with
  | nil => simp [insertEntry] at h; exact .inl h
  | cons e rest ih =>
    unfold insertEntry at h
    split at h
    · simpa using h
    · split at h
      · rcases List.mem_cons.1 h with h | h
        · exact .inl h
        · exact .inr (List.mem_cons_of_mem _ h)
      · rcases List.mem_cons.1 h with h | h
        · exact .inr (h ▸ List.mem_cons_self)
        · exact (ih h).imp_right (List.mem_cons_of_mem _)

theorem lt_of_not_lt_of_ne {a b : String} (h : ¬ a < b) (hne : a ≠ b) : b < a := by
  refine Classical.byContradiction fun hba => hne ?_
  exact String.le_antisymm (String.not_lt.1 hba) (String.not_lt.1 h)

theorem ordered_insertEntry (k : String) (v : α) {l : List (String × α)}
    (h : l.Pairwise (fun a b => a.1 < b.1)) :
    (insertEntry k v l).Pairwise (fun a b => a.1 < b.1) := by
  induction l with
  | nil => simp [insertEntry]
  | cons e rest ih =>
    obtain ⟨hall, hrest⟩ := List.pairwise_cons.1 h
    unfold insertEntry
    split
    · rename_i hlt
      refine List.pairwise_cons.2 ⟨fun x hx => ?_, h⟩
      rcases List.mem_cons.1 hx with rfl | hx
      · exact hlt
      · exact String.lt_trans hlt (hall x hx)
    · rename_i hlt
      split
      · rename_i heq
        exact List.pairwise_cons.2 ⟨fun x hx => heq ▸ hall x hx, hrest⟩
      · rename_i hne
        refine List.pairwise_cons.2 ⟨fun x hx => ?_, ih hrest⟩
        rcases mem_insertEntry hx with rfl | hx
        · exact lt_of_not_lt_of_ne hlt hne
        · exact hall x hx

/-! ## Operations -/

/-- The map without entries. -/
def empty : KeyMap α := ⟨[], List.Pairwise.nil⟩

instance : EmptyCollection (KeyMap α) := ⟨empty⟩

instance : Inhabited (KeyMap α) := ⟨empty⟩

/-- The map with `k` mapped to `v` and every other key as before. -/
def insert (m : KeyMap α) (k : String) (v : α) : KeyMap α :=
  ⟨insertEntry k v m.entries, ordered_insertEntry k v m.ordered⟩

/-- The map without the key `k`. -/
def erase (m : KeyMap α) (k : String) : KeyMap α :=
  ⟨m.entries.filter (fun e => e.1 ≠ k), m.ordered.filter _⟩

/-- The value at `k`, if there is one. -/
def get? (m : KeyMap α) (k : String) : Option α := findEntry k m.entries

/-- Whether `k` is a key. -/
def contains (m : KeyMap α) (k : String) : Bool := (m.get? k).isSome

/-- The keys in increasing order. -/
def keys (m : KeyMap α) : List String := m.entries.map Prod.fst

/-- The number of entries. -/
def size (m : KeyMap α) : Nat := m.entries.length

/-- Whether there is no entry. -/
def isEmpty (m : KeyMap α) : Bool := m.entries.isEmpty

/-- The entries of `l` put in one after the other, so the last one of a key stays. -/
def insertAll (m : KeyMap α) (l : List (String × α)) : KeyMap α :=
  l.foldl (fun m e => m.insert e.1 e.2) m

/-- The map of a list of entries; of several with one key the last one stays. -/
def ofList (l : List (String × α)) : KeyMap α := empty.insertAll l

/-- The map with every value replaced. -/
def map {β : Type u} (f : α → β) (m : KeyMap α) : KeyMap β :=
  ⟨m.entries.map (fun e => (e.1, f e.2)), List.pairwise_map.2 m.ordered⟩

/-! ## What each operation does to look-ups -/

theorem findEntry_eq_none_of_lt {k : String} {l : List (String × α)}
    (h : ∀ e ∈ l, k < e.1) : findEntry k l = none := by
  induction l with
  | nil => rfl
  | cons e rest ih =>
    have hne : e.1 ≠ k := fun he => String.lt_irrefl k (he ▸ h e List.mem_cons_self)
    simp only [findEntry, hne, if_false]
    exact ih fun x hx => h x (List.mem_cons_of_mem _ hx)

theorem findEntry_insertEntry (k k' : String) (v : α) {l : List (String × α)}
    (h : l.Pairwise (fun a b => a.1 < b.1)) :
    findEntry k' (insertEntry k v l) = if k = k' then some v else findEntry k' l := by
  induction l with
  | nil => simp [insertEntry, findEntry]
  | cons e rest ih =>
    obtain ⟨hall, hrest⟩ := List.pairwise_cons.1 h
    unfold insertEntry
    split
    · simp [findEntry]
    · split
      · rename_i heq
        by_cases hk : k = k'
        · simp [findEntry, hk]
        · have : e.1 ≠ k' := heq ▸ hk
          simp [findEntry, hk, this]
      · rename_i hlt hne
        by_cases he : e.1 = k'
        · have : k ≠ k' := fun hk => hne (hk.trans he.symm)
          simp [findEntry, he, this]
        · simp [findEntry, he, ih hrest]

@[simp] theorem get?_empty (k : String) : (empty : KeyMap α).get? k = none := rfl

theorem get?_insert (m : KeyMap α) (k k' : String) (v : α) :
    (m.insert k v).get? k' = if k = k' then some v else m.get? k' :=
  findEntry_insertEntry k k' v m.ordered

@[simp] theorem get?_insert_self (m : KeyMap α) (k : String) (v : α) :
    (m.insert k v).get? k = some v := by simp [get?_insert]

theorem get?_erase (m : KeyMap α) (k k' : String) :
    (m.erase k).get? k' = if k = k' then none else m.get? k' := by
  obtain ⟨l, h⟩ := m
  show findEntry k' (l.filter fun e => e.1 ≠ k) = if k = k' then none else findEntry k' l
  clear h
  induction l with
  | nil => simp [findEntry]
  | cons e rest ih =>
    by_cases he : e.1 = k
    · rw [List.filter_cons_of_neg (by simp [he])]
      rw [ih]
      by_cases hk : k = k'
      · simp [hk]
      · simp [findEntry, hk, he]
    · rw [List.filter_cons_of_pos (by simp [he])]
      by_cases hk : e.1 = k'
      · have : k ≠ k' := fun h => he (hk.trans h.symm)
        simp [findEntry, hk, this]
      · simpa [findEntry, hk] using ih

theorem get?_eq_some_iff (m : KeyMap α) (k : String) (v : α) :
    m.get? k = some v ↔ (k, v) ∈ m.entries := by
  obtain ⟨l, h⟩ := m
  show findEntry k l = some v ↔ (k, v) ∈ l
  induction l with
  | nil => simp [findEntry]
  | cons e rest ih =>
    obtain ⟨hall, hrest⟩ := List.pairwise_cons.1 h
    by_cases he : e.1 = k
    · simp only [findEntry, he, if_true, Option.some.injEq, List.mem_cons]
      constructor
      · rintro rfl
        exact .inl (by rw [← he])
      · rintro (hev | hmem)
        · rw [← hev]
        · exact absurd (he ▸ hall _ hmem) (String.lt_irrefl _)
    · simp only [findEntry, he, if_false, List.mem_cons, ih hrest]
      constructor
      · exact .inr
      · rintro (hev | hmem)
        · exact absurd (by rw [← hev]) he
        · exact hmem

theorem get?_insertAll_of_not_mem {l : List (String × α)} {k : String} (m : KeyMap α)
    (h : k ∉ l.map Prod.fst) : (m.insertAll l).get? k = m.get? k := by
  induction l generalizing m with
  | nil => rfl
  | cons e rest ih =>
    have hne : e.1 ≠ k := fun he => h (he ▸ List.mem_cons_self)
    have hrest : k ∉ rest.map Prod.fst := fun hm => h (List.mem_cons_of_mem _ hm)
    show ((m.insert e.1 e.2).insertAll rest).get? k = m.get? k
    rw [ih _ hrest, get?_insert, if_neg hne]

theorem get?_insertAll_of_mem {l : List (String × α)} {k : String} {v : α} (m : KeyMap α)
    (hkeys : (l.map Prod.fst).Nodup) (h : (k, v) ∈ l) : (m.insertAll l).get? k = some v := by
  induction l generalizing m with
  | nil => cases h
  | cons e rest ih =>
    obtain ⟨hne, hkeys⟩ := List.nodup_cons.1 hkeys
    show ((m.insert e.1 e.2).insertAll rest).get? k = some v
    rcases List.mem_cons.1 h with rfl | h
    · rw [get?_insertAll_of_not_mem _ hne, get?_insert_self]
    · exact ih _ hkeys h

/-- A map that was made of entries with different keys has each of them. -/
theorem get?_ofList_of_mem {l : List (String × α)} {k : String} {v : α}
    (hkeys : (l.map Prod.fst).Nodup) (h : (k, v) ∈ l) : (ofList l).get? k = some v :=
  get?_insertAll_of_mem empty hkeys h

theorem mem_of_get?_insertAll {l : List (String × α)} {k : String} {v : α} {m : KeyMap α}
    (h : (m.insertAll l).get? k = some v) : (k, v) ∈ l ∨ m.get? k = some v := by
  induction l generalizing m with
  | nil => exact .inr h
  | cons e rest ih =>
    replace h : ((m.insert e.1 e.2).insertAll rest).get? k = some v := h
    rcases ih h with h | h
    · exact .inl (List.mem_cons_of_mem _ h)
    · rw [get?_insert] at h
      split at h
      · rename_i he
        obtain rfl := Option.some.inj h
        rw [← he]
        exact .inl List.mem_cons_self
      · exact .inr h

/-- A map has nothing but the entries that it was made of. -/
theorem mem_of_get?_ofList {l : List (String × α)} {k : String} {v : α}
    (h : (ofList l).get? k = some v) : (k, v) ∈ l := by
  rcases mem_of_get?_insertAll h with h | h
  · exact h
  · cases h

theorem entries_eq_of_get? {l l' : List (String × α)}
    (h : l.Pairwise (fun a b => a.1 < b.1)) (h' : l'.Pairwise (fun a b => a.1 < b.1))
    (hget : ∀ k, findEntry k l = findEntry k l') : l = l' := by
  induction l generalizing l' with
  | nil =>
    cases l' with
    | nil => rfl
    | cons e rest => simpa [findEntry] using hget e.1
  | cons e rest ih =>
    obtain ⟨hall, hrest⟩ := List.pairwise_cons.1 h
    cases l' with
    | nil => simpa [findEntry] using hget e.1
    | cons e' rest' =>
      obtain ⟨hall', hrest'⟩ := List.pairwise_cons.1 h'
      have hkey : e.1 = e'.1 := by
        refine Classical.byContradiction fun hne => ?_
        by_cases hlt : e.1 < e'.1
        · have hget' := hget e.1
          have hnone : findEntry e.1 (e' :: rest') = none :=
            findEntry_eq_none_of_lt fun x hx => by
              rcases List.mem_cons.1 hx with rfl | hx
              · exact hlt
              · exact String.lt_trans hlt (hall' x hx)
          rw [hnone] at hget'
          simp [findEntry] at hget'
        · have hlt' := lt_of_not_lt_of_ne hlt hne
          have hnone : findEntry e'.1 (e :: rest) = none :=
            findEntry_eq_none_of_lt fun x hx => by
              rcases List.mem_cons.1 hx with rfl | hx
              · exact hlt'
              · exact String.lt_trans hlt' (hall x hx)
          have hget' := hget e'.1
          rw [hnone] at hget'
          simp [findEntry] at hget'
      have hval : e.2 = e'.2 := by simpa [findEntry, hkey] using hget e.1
      have htail : rest = rest' := by
        refine ih hrest hrest' fun k => ?_
        by_cases hk : e.1 = k
        · rw [findEntry_eq_none_of_lt (fun x hx => hk ▸ hall x hx),
            findEntry_eq_none_of_lt (fun x hx => hk ▸ hkey ▸ hall' x hx)]
        · simpa [findEntry, hk, hkey ▸ hk] using hget k
      rw [htail, Prod.ext hkey hval]

/-- **Extensionality.** Maps that answer every look-up alike are equal. -/
theorem ext_get? {m m' : KeyMap α} (h : ∀ k, m.get? k = m'.get? k) : m = m' := by
  obtain ⟨l, hl⟩ := m
  obtain ⟨l', hl'⟩ := m'
  have : l = l' := entries_eq_of_get? hl hl' h
  subst this
  rfl

/-! ## Maps and lists of entries -/

theorem nodup_keys (m : KeyMap α) : m.keys.Nodup := by
  have hkeys : m.keys.Pairwise (· < ·) := List.pairwise_map.2 m.ordered
  refine hkeys.imp ?_
  intro a b hlt heq
  exact String.lt_irrefl b (heq ▸ hlt)

/-- A map that was made of entries with different keys has those and no others. -/
theorem get?_ofList_eq_some_iff {l : List (String × α)} (hkeys : (l.map Prod.fst).Nodup)
    {k : String} {v : α} : (ofList l).get? k = some v ↔ (k, v) ∈ l :=
  ⟨mem_of_get?_ofList, get?_ofList_of_mem hkeys⟩

/-- The entries of a map make the map again. -/
theorem ofList_entries (m : KeyMap α) : ofList m.entries = m := by
  refine ext_get? fun k => Option.ext fun v => ?_
  rw [get?_ofList_eq_some_iff m.nodup_keys, get?_eq_some_iff]

end KeyMap

end SearchRest
