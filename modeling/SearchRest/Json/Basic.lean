/-
JSON values.

`Json` is a value as it is written: the entries of an object stand in the
order of the text, and a key may occur twice. Where the order does not matter
a value is kept in its canonical form, with the keys of every object strictly
increasing; of several entries with one key the last one stays. The canonical
form is a type of its own, `CanonicalJson`, so equal values are equal data.
-/
import SearchRest.KeyMap
import SearchRest.Decimal.Binary64

set_option autoImplicit false

namespace SearchRest

/-- **A number of a JSON text.** Integers of at most 64 bits, signed or not, are kept exact;
everything else is a floating-point number. -/
inductive JsonNumber where
  | integer (n : Int)
  /-- A number with a fraction or an exponent, or out of the range of 64-bit integers. -/
  | float (x : Binary64)
  deriving DecidableEq

/-- **A JSON value as written.** -/
inductive Json where
  /-- The literal for nothing. -/
  | null
  /-- A truth value. -/
  | bool (b : Bool)
  | number (n : JsonNumber)
  | text (s : String)
  | array (items : List Json)
  /-- Entries in the order in which they are written. -/
  | object (entries : List (String × Json))

namespace Json

/-- The number with an integer value. -/
def integer (n : Int) : Json := .number (.integer n)

instance : Inhabited Json := ⟨.null⟩

/-! ## Equality -/

mutual
/-- Whether two values are the same, entries in the same order included. -/
def same : Json → Json → Bool
  | .null, .null => true
  | .bool a, .bool b => a = b
  | .number a, .number b => a = b
  | .text a, .text b => a = b
  | .array a, .array b => sameItems a b
  | .object a, .object b => sameEntries a b
  | _, _ => false

/-- Whether two lists hold the same values. -/
def sameItems : List Json → List Json → Bool
  | [], [] => true
  | a :: as, b :: bs => same a b && sameItems as bs
  | _, _ => false

/-- Whether two lists hold the same entries. -/
def sameEntries : List (String × Json) → List (String × Json) → Bool
  | [], [] => true
  | (k, a) :: as, (l, b) :: bs => k = l && same a b && sameEntries as bs
  | _, _ => false
end

mutual
theorem same_iff : ∀ a b : Json, same a b = true ↔ a = b
  | .array a, .array b => by simp [same, sameItems_iff a b]
  | .object a, .object b => by simp [same, sameEntries_iff a b]
  | .null, b => by cases b <;> simp [same]
  | .bool a, b => by cases b <;> simp [same]
  | .number a, b => by cases b <;> simp [same]
  | .text a, b => by cases b <;> simp [same]
  | .array a, .null | .array a, .bool _ | .array a, .number _ | .array a, .text _
  | .array a, .object _ => by simp [same]
  | .object a, .null | .object a, .bool _ | .object a, .number _ | .object a, .text _
  | .object a, .array _ => by simp [same]

theorem sameItems_iff : ∀ a b : List Json, sameItems a b = true ↔ a = b
  | [], b => by cases b <;> simp [sameItems]
  | a :: as, [] => by simp [sameItems]
  | a :: as, b :: bs => by simp [sameItems, same_iff a b, sameItems_iff as bs]

theorem sameEntries_iff : ∀ a b : List (String × Json), sameEntries a b = true ↔ a = b
  | [], b => by cases b <;> simp [sameEntries]
  | (k, a) :: as, [] => by simp [sameEntries]
  | (k, a) :: as, (l, b) :: bs => by
    simp [sameEntries, same_iff a b, sameEntries_iff as bs, and_assoc]
end

instance : DecidableEq Json := fun a b => decidable_of_iff _ (same_iff a b)

/-! ## Canonical form -/

mutual
/-- The value with the keys of every object in increasing order, the last entry of a key kept. -/
def canonical : Json → Json
  | .array items => .array (canonicalItems items)
  | .object entries => .object (KeyMap.ofList (canonicalEntries entries)).entries
  | .null => .null
  | .bool b => .bool b
  | .number n => .number n
  | .text s => .text s

/-- The canonical forms of the items of a list. -/
def canonicalItems : List Json → List Json
  | [] => []
  | v :: vs => canonical v :: canonicalItems vs

/-- The entries with the canonical forms of their values. -/
def canonicalEntries : List (String × Json) → List (String × Json)
  | [] => []
  | (k, v) :: rest => (k, canonical v) :: canonicalEntries rest
end

mutual
/-- Whether the keys of every object within the value are strictly increasing. -/
def IsOrdered : Json → Prop
  | .array items => AreOrdered items
  | .object entries => entries.Pairwise (fun a b => a.1 < b.1) ∧ HasOrdered entries
  | .null => True
  | .bool _ => True
  | .number _ => True
  | .text _ => True

/-- Whether every value of a list is ordered. -/
def AreOrdered : List Json → Prop
  | [] => True
  | v :: vs => IsOrdered v ∧ AreOrdered vs

/-- Whether the value of every entry is ordered. -/
def HasOrdered : List (String × Json) → Prop
  | [] => True
  | (_, v) :: rest => IsOrdered v ∧ HasOrdered rest
end

theorem areOrdered_iff {items : List Json} : AreOrdered items ↔ ∀ v ∈ items, IsOrdered v := by
  induction items with
  | nil => simp [AreOrdered]
  | cons v vs ih => simp [AreOrdered, ih]

theorem hasOrdered_iff {entries : List (String × Json)} :
    HasOrdered entries ↔ ∀ e ∈ entries, IsOrdered e.2 := by
  induction entries with
  | nil => simp [HasOrdered]
  | cons e rest ih => simp [HasOrdered, ih]

/-- Entries that are put in one after the other stay ordered inside. -/
theorem hasOrdered_insertAll (l : List (String × Json)) (m : KeyMap Json)
    (hl : HasOrdered l) (hm : HasOrdered m.entries) : HasOrdered (m.insertAll l).entries := by
  induction l generalizing m with
  | nil => exact hm
  | cons e rest ih =>
    obtain ⟨he, hrest⟩ := hl
    refine ih (m.insert e.1 e.2) hrest (hasOrdered_iff.2 fun x hx => ?_)
    rcases KeyMap.mem_insertEntry hx with rfl | hx
    · exact he
    · exact hasOrdered_iff.1 hm x hx

mutual
theorem isOrdered_canonical : ∀ v : Json, IsOrdered (canonical v)
  | .array items => areOrdered_canonicalItems items
  | .object entries =>
    ⟨(KeyMap.ofList (canonicalEntries entries)).ordered,
      hasOrdered_insertAll _ _ (hasOrdered_canonicalEntries entries) trivial⟩
  | .null => trivial
  | .bool _ => trivial
  | .number _ => trivial
  | .text _ => trivial

theorem areOrdered_canonicalItems : ∀ vs : List Json, AreOrdered (canonicalItems vs)
  | [] => trivial
  | v :: vs => ⟨isOrdered_canonical v, areOrdered_canonicalItems vs⟩

theorem hasOrdered_canonicalEntries :
    ∀ l : List (String × Json), HasOrdered (canonicalEntries l)
  | [] => trivial
  | (_, v) :: rest => ⟨isOrdered_canonical v, hasOrdered_canonicalEntries rest⟩
end

end Json

/-- **A JSON value in canonical form**: the keys of its objects increase strictly. -/
structure CanonicalJson where
  value : Json
  ordered : value.IsOrdered

namespace CanonicalJson

instance : DecidableEq CanonicalJson := fun a b =>
  if h : a.value = b.value then
    .isTrue (by cases a; cases b; simp at h; subst h; rfl)
  else .isFalse fun e => h (e ▸ rfl)

/-- The canonical form of a value. -/
def ofJson (v : Json) : CanonicalJson := ⟨v.canonical, v.isOrdered_canonical⟩

instance : Inhabited CanonicalJson := ⟨ofJson .null⟩

end CanonicalJson

end SearchRest
