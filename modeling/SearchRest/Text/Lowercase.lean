/-
Lower-casing.

Header names, host names and media types are lower-cased in ASCII only
(`asciiLower`). Names that are derived from other names take the full Unicode
mapping (`lower`): each character by its own mapping, with two exceptions. The
capital I with a dot becomes two characters, and a capital sigma becomes the
final form at the end of a word, that is when a cased letter comes before it
and none after it, characters that are ignored for case left aside.
-/
import SearchRest.Text.Lowercase.Table

set_option autoImplicit false

namespace SearchRest.Text

/-- The text with the letters `A` to `Z` in lower case. -/
def asciiLower (s : String) : String := String.ofList (s.toList.map Char.toLower)

/-- Whether two texts agree up to the case of ASCII letters. -/
def sameIgnoringCase (s t : String) : Bool := asciiLower s = asciiLower t

/-- Whether a code point lies in one of the ranges. -/
def inRanges (ranges : List (Nat × Nat)) (n : Nat) : Bool :=
  ranges.any fun (first, last) => first ≤ n && n ≤ last

/-- Whether the character has case: it is an upper-case, lower-case or title-case letter. -/
def isCased (c : Char) : Bool := inRanges casedRanges c.toNat

/-- Whether the character is passed over when the case of its neighbours is looked at. -/
def isCaseIgnorable (c : Char) : Bool := inRanges caseIgnorableRanges c.toNat

/-- The lower-case form of a character that stands alone. -/
def lowerChar (c : Char) : List Char :=
  if c.toNat < 0x80 then [c.toLower]
  else if c = '\u0130' then ['i', '\u0307']
  else match lowerRuns.find? fun (first, last, step, _) =>
      first ≤ c.toNat && c.toNat ≤ last && (c.toNat - first) % step = 0 with
    | some (_, _, _, shift) => [Char.ofNat (Int.toNat (Int.ofNat c.toNat + shift))]
    | none => [c]

/-- Whether the first character that is not ignored for case is a cased one. -/
def meetsCased (cs : List Char) : Bool :=
  match cs.dropWhile isCaseIgnorable with
  | c :: _ => isCased c
  | [] => false

/-- Lower-cases `cs`, which comes after the characters `before`, the nearest one first. -/
def lowerAfter : List Char → List Char → List Char
  | _, [] => []
  | before, c :: cs =>
    let here :=
      if c = 'Σ' then
        if meetsCased before && !meetsCased cs then ['ς'] else ['σ']
      else lowerChar c
    here ++ lowerAfter (c :: before) cs

/-- The text in lower case. -/
def lower (s : String) : String := String.ofList (lowerAfter [] s.toList)

/-! ## Laws of lower-casing in ASCII -/

theorem isUpper_toLower (c : Char) : c.toLower.isUpper = false := by
  unfold Char.toLower
  split
  · rename_i h
    obtain ⟨hlow, hhigh⟩ := h
    have hlow' : 65 ≤ c.val.toNat := UInt32.le_iff_toNat_le.1 hlow
    have hhigh' : c.val.toNat ≤ 90 := UInt32.le_iff_toNat_le.1 hhigh
    have hval : (c.val + ('a'.val - 'A'.val)).toNat = c.val.toNat + 32 := by
      rw [UInt32.toNat_add]
      exact Nat.mod_eq_of_lt (by change c.val.toNat + 32 < _; omega)
    apply decide_eq_false
    rintro ⟨-, hle⟩
    have hle' : (c.val + ('a'.val - 'A'.val)).toNat ≤ 90 := UInt32.le_iff_toNat_le.1 hle
    omega
  · rename_i h
    exact decide_eq_false h

theorem toLower_eq_self_iff {c : Char} : c.toLower = c ↔ c.isUpper = false := by
  constructor
  · intro h
    rw [← h]
    exact isUpper_toLower c
  · intro h
    unfold Char.toLower
    rw [dif_neg (of_decide_eq_false h)]

/-- A text stays as it is when it has no upper-case letter of ASCII. -/
theorem asciiLower_eq_self_iff {s : String} :
    asciiLower s = s ↔ ∀ c ∈ s.toList, c.isUpper = false := by
  have hmap : s.toList.map Char.toLower = s.toList.map id ↔ ∀ c ∈ s.toList, c.toLower = id c :=
    List.map_inj_left
  simp only [List.map_id, id_eq, toLower_eq_self_iff] at hmap
  rw [← hmap, asciiLower, ← String.toList_inj, String.toList_ofList]

theorem asciiLower_asciiLower (s : String) : asciiLower (asciiLower s) = asciiLower s := by
  apply asciiLower_eq_self_iff.2
  intro c hc
  rw [asciiLower, String.toList_ofList] at hc
  obtain ⟨d, -, rfl⟩ := List.mem_map.1 hc
  exact isUpper_toLower d

end SearchRest.Text
