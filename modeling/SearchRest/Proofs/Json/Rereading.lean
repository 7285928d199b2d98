/-
Values read back from their compact texts.

The builder keeps what is open on a stack, and what the lexemes of a value do
does not depend on the stack below: they put the value where a value was due. So
by going through a value, its lexemes rebuild it, as long as its lists and
objects and those already open are together no more than the builder takes. A
value that is complete takes no further lexeme, and so two texts of values, one
behind the other, are never the text of one.
-/
import SearchRest.Json.Stored
import SearchRest.Proofs.Json.Lexemes
import SearchRest.Proofs.Json.Trees

set_option autoImplicit false

namespace SearchRest.Json

/-! ## Depth -/

mutual
/-- **How deep lists and objects are nested within the value.** -/
def depth : Json → Nat
  | .array items => itemDepth items + 1
  | .object entries => entryDepth entries + 1
  | .null => 0
  | .bool _ => 0
  | .number _ => 0
  | .text _ => 0

/-- How deep the deepest item of a list is nested. -/
def itemDepth : List Json → Nat
  | [] => 0
  | v :: vs => max (depth v) (itemDepth vs)

/-- How deep the deepest value of an object is nested. -/
def entryDepth : List (String × Json) → Nat
  | [] => 0
  | (_, v) :: rest => max (depth v) (entryDepth rest)
end

/-! ## Lexemes taken by the builder -/

/-- The first lexeme of a value ends no list. -/
theorem exists_lexemes_eq (v : Json) :
    ∃ l ls, v.lexemes = l :: ls ∧ l ≠ .closeArray := by
  cases v with
  | array items => exact ⟨.openArray, _, rfl, fun h => nomatch h⟩
  | object entries => exact ⟨.openObject, _, rfl, fun h => nomatch h⟩
  | null => exact ⟨_, _, rfl, fun h => nomatch h⟩
  | bool b => exact ⟨_, _, rfl, fun h => nomatch h⟩
  | number n => exact ⟨_, _, rfl, fun h => nomatch h⟩
  | text s => exact ⟨_, _, rfl, fun h => nomatch h⟩

namespace Builder

variable {stack : List Frame}

theorem step_openArray (h : stack.length < maxDepth) :
    step (.value .all stack) .openArray = some (.firstItem .all stack) := by
  have hopen : mayOpen .all stack = true := decide_eq_true h
  rw [step, beginValue?, hopen]
  rfl

theorem step_openObject (h : stack.length < maxDepth) :
    step (.value .all stack) .openObject = some (.firstKey .all stack) := by
  have hopen : mayOpen .all stack = true := decide_eq_true h
  rw [step, beginValue?, hopen]
  rfl

/-- What is no end of the list begins its first item. -/
theorem step_firstItem {l : Lexeme} (h : l ≠ .closeArray) :
    step (.firstItem .all stack) l = step (.value .all (.array .all [] :: stack)) l := by
  cases l with
  | closeArray => exact absurd rfl h
  | _ => rfl

/-- The first item of a list begins as any other one does. -/
theorem foldlM_firstItem (v : Json) (vs : List Json) (stack : List Frame) :
    (itemLexemes (v :: vs)).foldlM step (.firstItem .all stack)
      = (itemLexemes (v :: vs)).foldlM step (.value .all (.array .all [] :: stack)) := by
  obtain ⟨l, ls, hl, hne⟩ := exists_lexemes_eq v
  obtain ⟨ms, hms⟩ : ∃ ms, itemLexemes (v :: vs) = l :: ms := by
    cases vs with
    | nil => exact ⟨ls, hl⟩
    | cons w vs => exact ⟨ls ++ .comma :: itemLexemes (w :: vs), by rw [itemLexemes, hl]; rfl⟩
  rw [hms, List.foldlM_cons, List.foldlM_cons, step_firstItem hne]

/-- The first key of an object begins as any other one does. -/
theorem foldlM_firstKey (e : String × Json) (rest : List (String × Json)) (stack : List Frame) :
    (entryLexemes (e :: rest)).foldlM step (.firstKey .all stack)
      = (entryLexemes (e :: rest)).foldlM step (.key .all [] stack) := by
  cases rest <;> rfl

mutual
/-- **The lexemes of a value put it where a value is due**, on whatever is open. -/
theorem foldlM_lexemes : ∀ (v : Json) (stack : List Frame), v.depth + stack.length ≤ maxDepth →
    v.lexemes.foldlM step (.value .all stack) = some (put v stack)
  | .null, _, _ => rfl
  | .bool _, _, _ => rfl
  | .number _, _, _ => rfl
  | .text _, _, _ => rfl
  | .array items, stack, h => by
    rw [depth] at h
    rw [lexemes, List.cons_append, foldlM_cons_of_eq_some (step_openArray (by omega))]
    cases items with
    | nil => rfl
    | cons v vs =>
      have hitems := foldlM_itemLexemes (v :: vs) [] stack (List.cons_ne_nil v vs) (by omega)
      rw [← foldlM_firstItem, List.append_nil] at hitems
      rw [foldlM_append_of_eq_some hitems]
      show some (put (.array (v :: vs).reverse.reverse) stack) = _
      rw [List.reverse_reverse]
  | .object entries, stack, h => by
    rw [depth] at h
    rw [lexemes, List.cons_append, foldlM_cons_of_eq_some (step_openObject (by omega))]
    cases entries with
    | nil => rfl
    | cons e rest =>
      have hentries :=
        foldlM_entryLexemes (e :: rest) [] stack (List.cons_ne_nil e rest) (by omega)
      rw [← foldlM_firstKey, List.append_nil] at hentries
      rw [foldlM_append_of_eq_some hentries]
      show some (put (.object (e :: rest).reverse.reverse) stack) = _
      rw [List.reverse_reverse]

/-- The lexemes of items put them into the list that is open, the last one first. -/
theorem foldlM_itemLexemes : ∀ (vs before : List Json) (stack : List Frame), vs ≠ [] →
    itemDepth vs + stack.length < maxDepth →
      (itemLexemes vs).foldlM step (.value .all (.array .all before :: stack))
        = some (.next (.array .all (vs.reverse ++ before)) stack)
  | [], _, _, hne, _ => absurd rfl hne
  | [v], before, stack, _, h => by
    rw [itemDepth] at h
    exact foldlM_lexemes v (.array .all before :: stack) (by rw [List.length_cons]; omega)
  | v :: w :: vs, before, stack, _, h => by
    rw [itemDepth] at h
    have hv := foldlM_lexemes v (.array .all before :: stack) (by rw [List.length_cons]; omega)
    have hcomma : step (put v (.array .all before :: stack)) .comma
      = some (.value .all (.array .all (v :: before) :: stack)) := rfl
    rw [itemLexemes, foldlM_append_of_eq_some hv, foldlM_cons_of_eq_some hcomma,
      foldlM_itemLexemes (w :: vs) (v :: before) stack (List.cons_ne_nil w vs) (by omega),
      List.reverse_cons (a := v), List.append_assoc, List.singleton_append]

/-- The lexemes of entries put them into the object that is open, the last one first. -/
theorem foldlM_entryLexemes : ∀ (entries before : List (String × Json)) (stack : List Frame),
    entries ≠ [] → entryDepth entries + stack.length < maxDepth →
      (entryLexemes entries).foldlM step (.key .all before stack)
        = some (.next (.object .all (entries.reverse ++ before)) stack)
  | [], _, _, hne, _ => absurd rfl hne
  | [(k, v)], before, stack, _, h => by
    rw [entryDepth] at h
    exact foldlM_lexemes v (.entry .all before k :: stack) (by rw [List.length_cons]; omega)
  | (k, v) :: e :: rest, before, stack, _, h => by
    rw [entryDepth] at h
    have hv : (.scalar (.text k) :: .colon :: v.lexemes).foldlM step (.key .all before stack)
        = some (put v (.entry .all before k :: stack)) :=
      foldlM_lexemes v (.entry .all before k :: stack) (by rw [List.length_cons]; omega)
    have hcomma : step (put v (.entry .all before k :: stack)) .comma
      = some (.key .all ((k, v) :: before) stack) := rfl
    rw [entryLexemes, foldlM_append_of_eq_some hv, foldlM_cons_of_eq_some hcomma,
      foldlM_entryLexemes (e :: rest) ((k, v) :: before) stack (List.cons_ne_nil e rest) (by omega),
      List.reverse_cons (a := (k, v)), List.append_assoc, List.singleton_append]
end

/-- A complete value takes no further lexeme. -/
theorem foldlM_done {ls : List Lexeme} (h : ls ≠ []) (v : Json) :
    ls.foldlM step (.done v) = none := by
  obtain ⟨l, ls, rfl⟩ := List.exists_cons_of_ne_nil h
  rfl

end Builder

/-! ## Texts read -/

theorem lexemes_ne_nil (v : Json) : v.lexemes ≠ [] := by
  obtain ⟨l, ls, hl, -⟩ := exists_lexemes_eq v
  rw [hl]
  exact List.cons_ne_nil l ls

/-- A line feed at the end of each line keeps the lexemes of values apart. -/
theorem cutsInto_lines {vs : List Json} (h : AreIntegral vs) :
    Lexeme.CutsInto (vs.flatMap fun v => v.writeChars ++ ['\n']) (vs.flatMap lexemes) := by
  induction vs with
  | nil => exact Lexeme.cutsInto_nil
  | cons v vs ih =>
    have hline := (cutsInto_writeChars h.1).append_mark Lexeme.isMark_lineFeed (ih h.2)
    rwa [List.append_nil, ← List.singleton_append, ← List.append_assoc] at hline

/-- What is cut into the lexemes of a value and others is a text of that value only without the
others. -/
theorem readWanted?_of_cutsInto {cs : List Char} {v : Json} {ls : List Lexeme}
    (h : Lexeme.CutsInto cs (v.lexemes ++ ls)) (hdepth : v.depth ≤ Builder.maxDepth) :
    readWanted? .all cs = (ls.foldlM Builder.step (.done v)).bind Builder.result? := by
  have hbuild : v.lexemes.foldlM Builder.step (.value .all []) = some (.done v) :=
    Builder.foldlM_lexemes v [] hdepth
  rw [readWanted?, h.scan?, Option.bind_some, foldlM_append_of_eq_some hbuild]

/-- **A value is read back from its compact text.** -/
theorem readWanted?_writeChars {v : Json} (h : v.IsIntegral) (hdepth : v.depth ≤ Builder.maxDepth) :
    readWanted? .all v.writeChars = some v := by
  have hcut := cutsInto_writeChars h
  rw [← List.append_nil v.lexemes] at hcut
  rw [readWanted?_of_cutsInto hcut hdepth]
  rfl

/-- So it is from the text with a line feed behind it. -/
theorem readWanted?_line {v : Json} (h : v.IsIntegral) (hdepth : v.depth ≤ Builder.maxDepth) :
    readWanted? .all (v.writeChars ++ ['\n']) = some v := by
  have hall : AreIntegral [v] := ⟨h, trivial⟩
  have hcut := cutsInto_lines hall
  rw [List.flatMap_singleton, List.flatMap_cons] at hcut
  rw [readWanted?_of_cutsInto hcut hdepth]
  rfl

/-- **Lines of several values are no text of a value**: the lexemes of the second one come when the
first one is complete. -/
theorem readWanted?_lines {v w : Json} {vs : List Json} (h : AreIntegral (v :: w :: vs))
    (hdepth : v.depth ≤ Builder.maxDepth) :
    readWanted? .all ((v :: w :: vs).flatMap fun v => v.writeChars ++ ['\n']) = none := by
  have hmore : (w :: vs).flatMap lexemes ≠ [] := by
    rw [List.flatMap_cons]
    exact List.append_ne_nil_of_left_ne_nil (lexemes_ne_nil w) _
  have hcut := cutsInto_lines h
  rw [List.flatMap_cons (f := lexemes)] at hcut
  rw [readWanted?_of_cutsInto hcut hdepth, Builder.foldlM_done hmore]
  rfl

end SearchRest.Json

namespace SearchRest.Stored

/-- **The text of a stored form is read as the stored form**, by a type that wants all of it. -/
theorem read?_write {α : Type} [Stored α] (hall : Stored.interest α = .all) (v : Json)
    (h : v.IsIntegral) (hdepth : v.depth ≤ Json.Builder.maxDepth) :
    (read? v.write : Option α) = ofJson? v := by
  rw [read?, hall, Json.write, String.toList_ofList, Json.readWanted?_writeChars h hdepth,
    Option.bind_some]

end SearchRest.Stored

namespace SearchRest.CanonicalJson

/-- **Whether the value can be read back from its text**: its numbers are integers of 64 bits, and it
is nested at most 127 deep. -/
structure IsReadable (v : CanonicalJson) : Prop where
  integral : v.value.IsIntegral
  depth_le : v.value.depth ≤ 127

/-- **A readable value is read back** from its compact text, in canonical form. -/
theorem read?_write {v : CanonicalJson} (h : v.IsReadable) : read? v.write = some v := by
  rw [read?, Json.read?, write, Json.write, String.toList_ofList,
    Json.readWanted?_writeChars h.integral h.depth_le, Option.map_some, Json.ofJson_value]

end SearchRest.CanonicalJson
