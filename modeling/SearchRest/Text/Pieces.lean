/-
Cutting a text at a separator and joining pieces back.

Paths are cut at `/`, lists at `,`, query strings at `&`, bodies at line ends.
All of it is one function on lists of characters, `pieces`, whose inverse is
`joined`: joining what was cut gives the text back (`joined_pieces`), and
cutting what was joined gives the pieces back as soon as no piece holds the
separator (`pieces_joined`).
-/

set_option autoImplicit false

namespace SearchRest.Text

/-! ## Lists of characters -/

/-- The parts of a text between the occurrences of `sep`; one more than there are occurrences. -/
def pieces (sep : Char) : List Char → List (List Char)
  | [] => [[]]
  | c :: cs =>
    if c = sep then [] :: pieces sep cs
    else match pieces sep cs with
      | [] => [[c]]
      | p :: ps => (c :: p) :: ps

/-- The pieces one after the other with `sep` between neighbours. -/
def joined (sep : Char) : List (List Char) → List Char
  | [] => []
  | [p] => p
  | p :: ps => p ++ sep :: joined sep ps

/-- The parts before and after the first `sep`, if there is one. -/
def cutFirst (sep : Char) : List Char → Option (List Char × List Char)
  | [] => none
  | c :: cs =>
    if c = sep then some ([], cs)
    else (cutFirst sep cs).map fun (before, after) => (c :: before, after)

/-- The text without `start` in front, if it begins with it. -/
def dropStart? : List Char → List Char → Option (List Char)
  | [], cs => some cs
  | _ :: _, [] => none
  | d :: ds, c :: cs => if d = c then dropStart? ds cs else none

/-- The text without its last character, if that is `last`. -/
def dropLast? (last : Char) : List Char → Option (List Char)
  | [] => none
  | [c] => if c = last then some [] else none
  | c :: cs => (dropLast? last cs).map (c :: ·)

/-- The text without the characters at its end that satisfy `p`. -/
def dropEndWhile (p : Char → Bool) (cs : List Char) : List Char :=
  (cs.reverse.dropWhile p).reverse

/-! ## Laws -/

theorem pieces_ne_nil (sep : Char) (cs : List Char) : pieces sep cs ≠ [] := by
  cases cs with
  | nil => simp [pieces]
  | cons c cs =>
    unfold pieces
    split
    · simp
    · split <;> simp

@[simp] theorem joined_cons_cons (sep : Char) (p q : List Char) (ps : List (List Char)) :
    joined sep (p :: q :: ps) = p ++ sep :: joined sep (q :: ps) := rfl

/-- Joining what was cut gives the text back. -/
theorem joined_pieces (sep : Char) (cs : List Char) : joined sep (pieces sep cs) = cs := by
  induction cs with
  | nil => rfl
  | cons c cs ih =>
    by_cases h : c = sep
    · simp only [pieces, h, if_true]
      cases hp : pieces sep cs with
      | nil => exact absurd hp (pieces_ne_nil sep cs)
      | cons p ps => rw [joined_cons_cons, ← hp, ih]; rfl
    · simp only [pieces, h, if_false]
      cases hp : pieces sep cs with
      | nil => exact absurd hp (pieces_ne_nil sep cs)
      | cons p ps =>
        rw [hp] at ih
        cases ps with
        | nil => simpa [joined] using ih
        | cons q qs => simpa using ih

/-- No piece holds the separator. -/
theorem not_mem_of_mem_pieces {sep : Char} {cs p : List Char} (h : p ∈ pieces sep cs) :
    sep ∉ p := by
  induction cs generalizing p with
  | nil => simp [pieces] at h; simp [h]
  | cons c cs ih =>
    by_cases hc : c = sep
    · simp only [pieces, hc, if_true, List.mem_cons] at h
      rcases h with rfl | h
      · simp
      · exact ih h
    · simp only [pieces, hc, if_false] at h
      cases hp : pieces sep cs with
      | nil => exact absurd hp (pieces_ne_nil sep cs)
      | cons q qs =>
        rw [hp] at h
        rcases List.mem_cons.1 h with rfl | h
        · have := ih (p := q) (by simp [hp])
          simp [this, Ne.symm hc]
        · exact ih (by simp [hp, h])

/-- A piece in front: everything up to the first separator. -/
theorem pieces_append_cons {sep : Char} {p : List Char} (h : sep ∉ p) (cs : List Char) :
    pieces sep (p ++ sep :: cs) = p :: pieces sep cs := by
  induction p with
  | nil => simp [pieces]
  | cons c p ih =>
    have hc : c ≠ sep := fun he => h (he ▸ List.mem_cons_self)
    have hp : sep ∉ p := fun hm => h (List.mem_cons_of_mem _ hm)
    simp [pieces, hc, ih hp]

/-- A text without the separator is one piece. -/
theorem pieces_of_not_mem {sep : Char} {p : List Char} (h : sep ∉ p) : pieces sep p = [p] := by
  induction p with
  | nil => rfl
  | cons c p ih =>
    have hc : c ≠ sep := fun he => h (he ▸ List.mem_cons_self)
    have hp : sep ∉ p := fun hm => h (List.mem_cons_of_mem _ hm)
    simp [pieces, hc, ih hp]

/-- Cutting what was joined gives the pieces back. -/
theorem pieces_joined {sep : Char} {ps : List (List Char)} (hne : ps ≠ [])
    (h : ∀ p ∈ ps, sep ∉ p) : pieces sep (joined sep ps) = ps := by
  induction ps with
  | nil => exact absurd rfl hne
  | cons p ps ih =>
    cases ps with
    | nil => exact pieces_of_not_mem (h p (by simp))
    | cons q qs =>
      rw [joined_cons_cons, pieces_append_cons (h p (by simp)),
        ih (by simp) fun x hx => h x (List.mem_cons_of_mem _ hx)]

/-! ## Texts -/

/-- The parts of a text between the occurrences of `sep`. -/
def split (sep : Char) (s : String) : List String :=
  (pieces sep s.toList).map String.ofList

/-- The texts one after the other with `sep` between neighbours. -/
def join (sep : Char) (parts : List String) : String :=
  String.ofList (joined sep (parts.map String.toList))

/-- The texts before and after the first `sep`, if there is one. -/
def splitFirst (sep : Char) (s : String) : Option (String × String) :=
  (cutFirst sep s.toList).map fun (before, after) => (String.ofList before, String.ofList after)

/-- Whether the text holds the character. -/
def holds (c : Char) (s : String) : Bool := s.toList.contains c

/-- The lines of a text. A line ends in a line feed, which may have a carriage return before it;
neither belongs to the line, and nothing after the last line feed is no line. -/
def lines (s : String) : List String :=
  let ps := pieces '\n' s.toList
  let full := ps.dropLast.map fun p => (dropLast? '\r' p).getD p
  let rest := ps.getLast?.getD []
  (full ++ if rest.isEmpty then [] else [rest]).map String.ofList

end SearchRest.Text
