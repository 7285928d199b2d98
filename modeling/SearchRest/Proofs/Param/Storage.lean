/-
Stored values and stored bags.

A value is stored with its kind and read back as it was, except for a number
that is infinite or none at all: it is stored as nothing, and nothing is no
number. A bag is stored as its two maps and read back as it was, up to the
header `accept`, which is brought to agree with the parameter `format`. So a bag
in which they agree is read back unchanged.
-/
import SearchRest.Proofs.Json.Trees
import SearchRest.Proofs.Param.History

set_option autoImplicit false

namespace SearchRest

namespace ParamValue

/-- Whether the value is a finite number, if it is a number. -/
def IsFinite : ParamValue → Prop
  | .number x => x.isFinite = true
  | _ => True

instance : (v : ParamValue) → Decidable v.IsFinite
  | .number x => inferInstanceAs (Decidable (x.isFinite = true))
  | .bool _ | .integer _ | .text _ | .list _ | .token _ => inferInstanceAs (Decidable True)

theorem isOrdered_toJson (v : ParamValue) : v.toJson.IsOrdered := by
  cases v with
  | number x =>
    apply Json.isOrdered_tagged
    split <;> exact trivial
  | list items => exact Json.isOrdered_tagged (Json.isOrdered_texts items)
  | _ => exact Json.isOrdered_tagged trivial

/-- An integer of 64 bits is within the range that is read. -/
theorem asInt64?_integer (n : Int64) : (Json.integer n.toInt).asInt64? = some n.toInt := by
  have hlow := n.le_toInt
  have hhigh := n.toInt_lt
  rw [Json.integer, Json.asInt64?, if_pos]
  rw [Text.maxInteger]
  omega

/-- **A value is read back.** -/
theorem ofJson?_toJson {v : ParamValue} (h : v.IsFinite) : ofJson? v.toJson = some v := by
  cases v with
  | bool b => rfl
  | integer n =>
    have hread : ofJson? (toJson (.integer n))
        = (Json.integer n.toInt).asInt64?.map fun n => .integer (Int64.ofInt n) := rfl
    rw [hread, asInt64?_integer, Option.map_some, Int64.ofInt_toInt]
  | number x =>
    have hx : x.isFinite = true := h
    have hcontent : toJson (.number x) = .tagged "number" (.number (.float x)) := by
      rw [toJson, if_pos hx]
    rw [hcontent]
    rfl
  | text s => rfl
  | list items =>
    have hread : ofJson? (toJson (.list items)) = (Json.texts items).asTexts?.map .list := rfl
    rw [hread, Json.asTexts?_texts, Option.map_some]
  | token s => rfl

/-- **A number that is not finite is lost.** -/
theorem ofJson?_toJson_eq_none {v : ParamValue} (h : ¬ v.IsFinite) : ofJson? v.toJson = none := by
  cases v with
  | number x =>
    have hx : ¬ x.isFinite = true := h
    have hcontent : toJson (.number x) = .tagged "number" .null := by
      rw [toJson, if_neg hx]
    rw [hcontent]
    rfl
  | _ => exact absurd trivial h

end ParamValue

namespace ParamBag

variable {bag : ParamBag}

/-- Whether every number among the parameters is finite. -/
def IsFinite (bag : ParamBag) : Prop := ∀ e ∈ bag.query.entries, e.2.IsFinite

instance (bag : ParamBag) : Decidable bag.IsFinite :=
  inferInstanceAs (Decidable (∀ e ∈ bag.query.entries, e.2.IsFinite))

theorem isFinite_iff :
    bag.IsFinite ↔ ∀ key x, bag.get? key = some (.number x) → x.isFinite = true := by
  constructor
  · intro h key x hx
    exact h _ ((bag.query.get?_eq_some_iff key (.number x)).1 hx)
  · rintro h ⟨key, v⟩ he
    cases v with
    | number x => exact h key x ((bag.query.get?_eq_some_iff key (.number x)).2 he)
    | _ => exact trivial

/-- The two maps of a stored bag. -/
theorem fields?_canonical_toJson (bag : ParamBag) :
    Json.fields? ["query", "headers"] bag.toJson.canonical
      = some [some (Json.ofMap ParamValue.toJson bag.query),
        some (Json.ofMap Json.text bag.headers)] := by
  have hquery : (Json.ofMap ParamValue.toJson bag.query).canonical
      = Json.ofMap ParamValue.toJson bag.query :=
    Json.canonical_ofMap_of_isOrdered ParamValue.isOrdered_toJson bag.query
  have hheaders : (Json.ofMap Json.text bag.headers).canonical
      = Json.ofMap Json.text bag.headers :=
    Json.canonical_ofMap Json.text bag.headers
  rw [toJson, Json.fields?_canonical]
  simp [Json.canonicalEntries, hquery, hheaders, KeyMap.ofList, KeyMap.insertAll,
    KeyMap.get?_insert]

theorem asMap?_headers (bag : ParamBag) :
    (Json.ofMap Json.text bag.headers).asMap? Json.asText? = some bag.headers :=
  Json.asMap?_ofMap fun _ _ => rfl

/-- **A bag is read back**, brought to agree with its format. -/
theorem ofJson?_canonical_toJson (h : bag.IsFinite) :
    ofJson? bag.toJson.canonical = some bag.synced := by
  have hquery : (Json.ofMap ParamValue.toJson bag.query).asMap? ParamValue.ofJson?
      = some bag.query := Json.asMap?_ofMap fun e he => ParamValue.ofJson?_toJson (h e he)
  rw [ofJson?, fields?_canonical_toJson]
  simp [mapOrEmpty?, hquery, asMap?_headers]

/-- A bag with a number that is not finite is not read back. -/
theorem ofJson?_canonical_toJson_eq_none (h : ¬ bag.IsFinite) :
    ofJson? bag.toJson.canonical = none := by
  obtain ⟨e, he, hinfinite⟩ : ∃ e ∈ bag.query.entries, ¬ e.2.IsFinite := by
    by_contra hnone
    push Not at hnone
    exact h hnone
  have hquery : (Json.ofMap ParamValue.toJson bag.query).asMap? ParamValue.ofJson? = none :=
    Json.asMap?_ofMap_eq_none he (ParamValue.ofJson?_toJson_eq_none hinfinite)
  rw [ofJson?, fields?_canonical_toJson]
  simp [mapOrEmpty?, hquery]

end ParamBag

end SearchRest
