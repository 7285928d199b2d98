/-
Paths in normal form.

Reading a path escapes its segments and resolves those that are dots. A segment
whose characters all may stand in a path is left as it is, so a path of such
segments is changed only by dots. Dots always shorten it: a segment `.` and a
segment `..` are gone with their slash, and an empty segment takes their place at
most at the end. So a path is in its normal form exactly when none of its
segments is dots.

Escaping makes no dots. The escapes that it writes are not those of a dot, since
a dot itself is not escaped.
-/
import SearchRest.Proofs.Text.Percent
import SearchRest.Proofs.Text.Pieces
import SearchRest.Url

set_option autoImplicit false

namespace SearchRest.Url

/-! ## Escapes -/

theorem lt_of_keeps {escaped : List Char} {c : Char} (h : keeps escaped c = true) :
    0x20 < c.toNat ∧ c.toNat < 0x7f := by
  simp only [keeps, Bool.and_eq_true, decide_eq_true_eq] at h
  exact h.1

/-- **Characters that are kept stand for themselves.** -/
theorem escape_eq_self {escaped cs : List Char} (h : ∀ c ∈ cs, keeps escaped c = true) :
    escape escaped cs = cs := by
  refine Text.percentEncodeKeeping_eq_self fun c hc => ⟨?_, h c hc⟩
  exact Nat.lt_trans (lt_of_keeps (h c hc)).2 (by decide)

/-- Whether the characters of escapes are themselves kept. -/
def KeepsEscapes (escaped : List Char) : Prop :=
  ∀ n : Fin 128, (Char.ofNat n = '%' ∨ Text.isUpperHexDigit (Char.ofNat n) = true) →
    keeps escaped (Char.ofNat n) = true

instance (escaped : List Char) : Decidable (KeepsEscapes escaped) :=
  Nat.decidableForallFin _

theorem toNat_lt_of_isUpperHexDigit {c : Char} (h : Text.isUpperHexDigit c = true) :
    c.toNat < 128 := by
  have hF : c ≤ '9' ∨ c ≤ 'F' := by
    simp only [Text.isUpperHexDigit, Bool.or_eq_true, Bool.and_eq_true, decide_eq_true_eq] at h
    exact h.imp (·.2) (·.2)
  rcases hF with h | h
  · exact Nat.lt_of_le_of_lt h (by decide)
  · exact Nat.lt_of_le_of_lt h (by decide)

/-- **What is escaped is made of kept characters**: some of the text, and those of escapes. -/
theorem mem_escape {escaped cs : List Char} (hkeeps : KeepsEscapes escaped) {c : Char}
    (h : c ∈ escape escaped cs) :
    keeps escaped c = true ∧ (c ∈ cs ∨ c = '%' ∨ Text.isUpperHexDigit c = true) := by
  refine ⟨?_, Text.mem_of_mem_percentEncodeKeeping h⟩
  rcases Text.mem_percentEncodeKeeping h with h | h
  · exact h.2
  · have hlt : c.toNat < 128 := by
      rcases h with rfl | h
      · decide
      · exact toNat_lt_of_isUpperHexDigit h
    exact Text.holds_of_lt c hlt hkeeps h

/-! ## Dots -/

/-- **Whether a segment is dots**, one or two, each of them possibly escaped. -/
def isDots (s : List Char) : Bool := isSingleDot s || isDoubleDot s

/-- Whether every percent sign is followed by the digits of a dot. -/
def onlyDotEscapes : List Char → Bool
  | [] => true
  | c :: cs => (c ≠ '%' || cs.take 2 = ['2', 'e']) && onlyDotEscapes cs

theorem onlyDotEscapes_of_append {front cs : List Char}
    (h : onlyDotEscapes (front ++ cs) = true) : onlyDotEscapes cs = true := by
  induction front with
  | nil => exact h
  | cons c front ih => exact ih (Bool.and_eq_true_iff.1 h).2

theorem onlyDotEscapes_of_isDots {s : List Char} (h : isDots s = true) :
    onlyDotEscapes (s.map Char.toLower) = true := by
  simp only [isDots, isSingleDot, isDoubleDot, Bool.or_eq_true, decide_eq_true_eq] at h
  rcases h with (h | h) | ((h | h) | h) | h <;> rw [h] <;> decide

/-- The escape of a byte is that of a dot only for a dot. -/
theorem toNat_of_onlyDotEscapes {b : UInt8} {cs : List Char}
    (h : onlyDotEscapes ((Text.escapedByte b ++ cs).map Char.toLower) = true) : b.toNat = 46 := by
  have hb := b.toNat_lt
  have hdigits : ∀ n : Fin 16, ((Text.upperHexDigit n).toLower = '2' → n.val = 2) ∧
      ((Text.upperHexDigit n).toLower = 'e' → n.val = 14) := by decide
  have htwo : ((Text.upperHexDigit (b.toNat / 16)).toLower = '2') ∧
      ((Text.upperHexDigit (b.toNat % 16)).toLower = 'e') := by
    have hhead := (Bool.and_eq_true_iff.1 h).1
    simpa [Text.escapedByte] using hhead
  have hhigh : b.toNat / 16 = 2 := (hdigits ⟨b.toNat / 16, by omega⟩).1 htwo.1
  have hlow : b.toNat % 16 = 14 := (hdigits ⟨b.toNat % 16, by omega⟩).2 htwo.2
  omega

/-- A character that does not stand for itself has a byte that is escaped. -/
theorem exists_escaped_byte {keep : Char → Bool} {c : Char}
    (h : ¬ (c.toNat < 128 ∧ keep c = true)) :
    ∃ b ∈ String.utf8EncodeChar c, ¬ (b.toNat < 128 ∧ keep (Char.ofNat b.toNat) = true) := by
  obtain ⟨b, tail, hform, -⟩ := Text.nextChar_utf8EncodeChar c []
  have hmem : b ∈ String.utf8EncodeChar c := by
    rw [hform]
    exact List.mem_cons_self
  refine ⟨b, hmem, ?_⟩
  rintro ⟨hlt, hkeep⟩
  have hc := Text.charOfNat_of_mem_utf8EncodeChar hmem hlt
  rw [hc] at hkeep
  have hcode := Text.toNat_charOfNat (n := b.toNat) (.inl (by omega))
  rw [hc] at hcode
  exact h ⟨by omega, hkeep⟩

/-- **Encoding makes no dots**: in what is dots in encoded form every character was kept. -/
theorem forall_keep_of_isDots {keep : Char → Bool} (hdot : keep '.' = true) {cs : List Char}
    (h : isDots (Text.percentEncodeKeeping keep cs) = true) :
    ∀ c ∈ cs, c.toNat < 128 ∧ keep c = true := by
  refine fun c hc => Classical.byContradiction fun hnot => ?_
  -- a byte that is escaped leaves a percent sign, and behind it only the digits of a dot may stand
  obtain ⟨b, hb, hescaped⟩ := exists_escaped_byte hnot
  have hmem : b ∈ Text.encodeChars cs := List.mem_flatMap.2 ⟨c, hc, hb⟩
  obtain ⟨front, back, hbytes⟩ := List.append_of_mem hmem
  have honly := onlyDotEscapes_of_isDots h
  rw [Text.percentEncodeKeeping, hbytes, List.flatMap_append, List.flatMap_cons,
    Text.percentByte, if_neg hescaped, List.map_append] at honly
  have hcode := toNat_of_onlyDotEscapes (onlyDotEscapes_of_append honly)
  rw [hcode] at hescaped
  exact hescaped ⟨by decide, hdot⟩

theorem isDots_escape {s : List Char} (h : isDots s = false) :
    isDots (escape pathEscapes s) = false := by
  refine Bool.eq_false_iff.2 fun hdots => ?_
  have hself : escape pathEscapes s = s :=
    Text.percentEncodeKeeping_eq_self (forall_keep_of_isDots (by decide) hdots)
  rw [hself, h] at hdots
  cases hdots

theorem comma_not_mem_of_isDots {s : List Char} (h : isDots s = true) : ',' ∉ s := by
  intro hcomma
  have hlower : ',' ∈ s.map Char.toLower := List.mem_map.2 ⟨',', hcomma, rfl⟩
  simp only [isDots, isSingleDot, isDoubleDot, Bool.or_eq_true, decide_eq_true_eq] at h
  rcases h with (h | h) | ((h | h) | h) | h <;> rw [h] at hlower <;>
    exact absurd hlower (by decide)

/-- Unreserved characters make dots in one way only. -/
theorem eq_of_isDots {s : List Char}
    (hkept : ∀ c ∈ s, c.toNat < 128 ∧ Text.isUnreserved c = true) (h : isDots s = true) :
    s = ['.'] ∨ s = ['.', '.'] := by
  have hof : ∀ c ∈ s, c.toLower ≠ '%' ∧ (c.toLower = '.' → c.toLower = c) := by
    intro c hc
    obtain ⟨hlt, hunreserved⟩ := hkept c hc
    have hchar : Text.isUnreserved c = true →
        c.toLower ≠ '%' ∧ (c.toLower = '.' → c.toLower = c) := Text.holds_of_lt c hlt (by decide)
    exact hchar hunreserved
  have hpercent : '%' ∉ s.map Char.toLower := by
    intro hm
    obtain ⟨c, hc, heq⟩ := List.mem_map.1 hm
    exact (hof c hc).1 heq
  have hself : (∀ c ∈ s.map Char.toLower, c = '.') → s.map Char.toLower = s := by
    intro hdots
    refine (List.map_congr_left fun c hc => ?_).trans (List.map_id s)
    exact (hof c hc).2 (hdots _ (List.mem_map_of_mem hc))
  simp only [isDots, isSingleDot, isDoubleDot, Bool.or_eq_true, decide_eq_true_eq] at h
  rcases h with (h | h) | ((h | h) | h) | h <;> rw [h] at hself hpercent
  · exact .inl (hself (by simp)).symm
  · exact absurd (by decide) hpercent
  · exact .inr (hself (by simp)).symm
  · exact absurd (by decide) hpercent
  · exact absurd (by decide) hpercent
  · exact absurd (by decide) hpercent

/-! ## Following a path -/

/-- The length of a path of segments, each with its slash. -/
def size (segments : List (List Char)) : Nat := (segments.flatMap fun s => '/' :: s).length

@[simp] theorem size_nil : size [] = 0 := rfl

@[simp] theorem size_cons (s : List Char) (segments : List (List Char)) :
    size (s :: segments) = s.length + 1 + size segments := by
  rw [size, List.flatMap_cons, List.length_append, List.length_cons, size]

theorem size_tail_le (place : List (List Char)) : size place.tail ≤ size place := by
  cases place with
  | nil => exact Nat.le_refl _
  | cons s place =>
    rw [List.tail_cons, size_cons]
    omega

/-- A slash at the end counts for one. -/
theorem size_atEnd_le (atEnd : Bool) (place : List (List Char)) :
    size (if atEnd then [] :: place else place) ≤ size place + 1 := by
  split
  · rw [size_cons, List.length_nil]
    omega
  · exact Nat.le_add_right _ _

theorem size_reverse (segments : List (List Char)) : size segments.reverse = size segments :=
  ((List.reverse_perm segments).flatMap_right _).length_eq

/-- Without dots every segment is gone along. -/
theorem follow_of_no_dots {place segments : List (List Char)}
    (h : ∀ s ∈ segments, isDots s = false) : follow place segments = segments.reverse ++ place := by
  induction segments generalizing place with
  | nil => rfl
  | cons s rest ih =>
    obtain ⟨hs, hrest⟩ := List.forall_mem_cons.1 h
    obtain ⟨hsingle, hdouble⟩ := Bool.or_eq_false_iff.1 hs
    rw [follow, if_neg (by simp [hdouble]), if_neg (by simp [hsingle]), ih hrest,
      List.reverse_cons, List.append_assoc, List.singleton_append]

theorem one_le_length_of_isDots {s : List Char} (h : isDots s = true) : 1 ≤ s.length := by
  cases s with
  | nil => exact absurd h (by decide)
  | cons c s => exact Nat.le_add_left _ _

theorem two_le_length_of_isDoubleDot {s : List Char} (h : isDoubleDot s = true) : 2 ≤ s.length := by
  simp only [isDoubleDot, Bool.or_eq_true, decide_eq_true_eq] at h
  rw [← List.length_map (f := Char.toLower)]
  rcases h with ((h | h) | h) | h <;> rw [h] <;> decide

/-- **A path gets no longer on the way**, and shorter if there are dots. -/
theorem size_follow_le (place segments : List (List Char)) :
    size (follow place segments) + (if segments.any isDots then 1 else 0)
      ≤ size place + size segments := by
  have hone : ∀ dots : Bool, (if dots then 1 else 0) ≤ 1 := by decide
  induction segments generalizing place with
  | nil => exact Nat.le_refl _
  | cons s rest ih =>
    have hdots := hone ((s :: rest).any isDots)
    rw [follow, size_cons]
    split
    -- dots are longer than the slash that may take their place
    · rename_i hdouble
      have hlength := two_le_length_of_isDoubleDot hdouble
      have hend := size_atEnd_le rest.isEmpty place.tail
      have htail := size_tail_le place
      have hrest := ih (if rest.isEmpty then [] :: place.tail else place.tail)
      omega
    · rename_i hdouble
      split
      · rename_i hsingle
        have hlength := one_le_length_of_isDots (s := s) (by rw [isDots, hsingle, Bool.true_or])
        have hend := size_atEnd_le rest.isEmpty place
        have hrest := ih (if rest.isEmpty then [] :: place else place)
        omega
      -- the segment goes over to the place, and the dots are behind it
      · rename_i hsingle
        have hs : isDots s = false := by simp [isDots, hsingle, hdouble]
        have hrest := ih (s :: place)
        rw [size_cons] at hrest
        rw [List.any_cons, hs, Bool.false_or]
        omega

/-- Where a path leads there are segments of the place and of the path, and perhaps an empty one,
and no dots but those that the place had. -/
theorem mem_follow {place segments : List (List Char)} {s : List Char}
    (h : s ∈ follow place segments) :
    s ∈ place ∨ s = [] ∨ (s ∈ segments ∧ isDots s = false) := by
  induction segments generalizing place with
  | nil => exact .inl h
  | cons t rest ih =>
    rw [follow] at h
    split at h
    · rcases ih h with h | h | h
      · split at h
        · rcases List.mem_cons.1 h with rfl | h
          · exact .inr (.inl rfl)
          · exact .inl (List.mem_of_mem_tail h)
        · exact .inl (List.mem_of_mem_tail h)
      · exact .inr (.inl h)
      · exact .inr (.inr ⟨List.mem_cons_of_mem _ h.1, h.2⟩)
    · rename_i hdouble
      split at h
      · rcases ih h with h | h | h
        · split at h
          · rcases List.mem_cons.1 h with rfl | h
            · exact .inr (.inl rfl)
            · exact .inl h
          · exact .inl h
        · exact .inr (.inl h)
        · exact .inr (.inr ⟨List.mem_cons_of_mem _ h.1, h.2⟩)
      · rename_i hsingle
        rcases ih h with h | h | h
        · rcases List.mem_cons.1 h with rfl | h
          · refine .inr (.inr ⟨List.mem_cons_self, ?_⟩)
            simp [isDots, hsingle, hdouble]
          · exact .inl h
        · exact .inr (.inl h)
        · exact .inr (.inr ⟨List.mem_cons_of_mem _ h.1, h.2⟩)

/-- A path leads to a segment, be it an empty one. -/
theorem follow_ne_nil {place segments : List (List Char)} (h : place ≠ [] ∨ segments ≠ []) :
    follow place segments ≠ [] := by
  induction segments generalizing place with
  | nil => exact h.resolve_right fun h => h rfl
  | cons s rest ih =>
    rw [follow]
    cases rest with
    | nil =>
      split
      · exact ih (.inl (List.cons_ne_nil _ _))
      · split
        · exact ih (.inl (List.cons_ne_nil _ _))
        · exact ih (.inl (List.cons_ne_nil _ _))
    | cons t rest =>
      split
      · exact ih (.inr (List.cons_ne_nil _ _))
      · split
        · exact ih (.inr (List.cons_ne_nil _ _))
        · exact ih (.inr (List.cons_ne_nil _ _))

/-! ## The normal form -/

/-- **A segment that stands in a path as it is**: it is made of kept characters and holds neither a
slash nor a backslash. -/
def IsSegment (s : List Char) : Prop :=
  ∀ c ∈ s, keeps pathEscapes c = true ∧ c ≠ '/' ∧ c ≠ '\\'

theorem IsSegment.escape_eq_self {s : List Char} (h : IsSegment s) : escape pathEscapes s = s :=
  Url.escape_eq_self fun c hc => (h c hc).1

theorem isSegment_escape {s : List Char} (hslash : '/' ∉ s) (hback : '\\' ∉ s) :
    IsSegment (escape pathEscapes s) := by
  intro c hc
  obtain ⟨hkeeps, hfrom⟩ := mem_escape (by decide) hc
  refine ⟨hkeeps, ?_, ?_⟩
  · rintro rfl
    rcases hfrom with h | h | h
    · exact hslash h
    · cases h
    · cases h
  · rintro rfl
    rcases hfrom with h | h | h
    · exact hback h
    · cases h
    · cases h

/-- **A path in normal form** is made of segments that stand in it as they are and are no dots. -/
theorem exists_segments_normalPath (cs : List Char) :
    ∃ segments, segments ≠ [] ∧ normalPath cs = (segments.flatMap fun s => '/' :: s) ∧
      ∀ s ∈ segments, IsSegment s ∧ isDots s = false := by
  let slashed := cs.map fun c => if c = '\\' then '/' else c
  have hback : '\\' ∉ slashed := by
    intro h
    obtain ⟨c, -, hc⟩ := List.mem_map.1 h
    split at hc
    · cases hc
    · rename_i hne
      exact hne hc
  have hpiece : ∀ s ∈ Text.pieces '/' slashed, '/' ∉ s ∧ '\\' ∉ s := by
    intro s hs
    refine ⟨Text.not_mem_of_mem_pieces hs, fun h => hback ?_⟩
    rw [← Text.joined_pieces '/' slashed]
    exact Text.mem_joined_of_mem hs h
  refine ⟨(follow [] (Text.pieces '/' slashed)).reverse.map (escape pathEscapes), ?_, ?_, ?_⟩
  · intro h
    have hnil := List.reverse_eq_nil_iff.1 (List.map_eq_nil_iff.1 h)
    exact follow_ne_nil (.inr (Text.pieces_ne_nil '/' slashed)) hnil
  · rw [List.flatMap_map]
    rfl
  · intro s hs
    obtain ⟨t, ht, rfl⟩ := List.mem_map.1 hs
    rcases mem_follow (List.mem_reverse.1 ht) with h | rfl | ⟨hmem, hdots⟩
    · cases h
    · exact ⟨isSegment_escape List.not_mem_nil List.not_mem_nil, by decide⟩
    · exact ⟨isSegment_escape (hpiece t hmem).1 (hpiece t hmem).2, isDots_escape hdots⟩

/-- What is done to a path whose segments stand in it as they are. -/
theorem normalPath_joined {segments : List (List Char)} (hne : segments ≠ [])
    (h : ∀ s ∈ segments, IsSegment s) :
    normalPath (Text.joined '/' segments)
      = (follow [] segments).reverse.flatMap fun s => '/' :: s := by
  have hback : (Text.joined '/' segments).map (fun c => if c = '\\' then '/' else c)
      = Text.joined '/' segments := by
    have hchar : ∀ c ∈ Text.joined '/' segments, (if c = '\\' then '/' else c) = c := by
      intro c hc
      refine if_neg ?_
      rintro rfl
      rcases Text.mem_joined hc with heq | ⟨s, hs, hc⟩
      · cases heq
      · exact (h s hs '\\' hc).2.2 rfl
    rw [List.map_congr_left hchar, List.map_id']
  have hpieces := Text.pieces_joined hne fun s hs hslash => (h s hs '/' hslash).2.1 rfl
  have hescape : ∀ s ∈ (follow [] segments).reverse, escape pathEscapes s = s := by
    intro s hs
    rcases mem_follow (List.mem_reverse.1 hs) with h' | rfl | ⟨hmem, -⟩
    · cases h'
    · rfl
    · exact (h s hmem).escape_eq_self
  unfold normalPath
  rw [hback, hpieces, List.flatMap_def, List.flatMap_def,
    List.map_congr_left fun s hs => congrArg ('/' :: ·) (hescape s hs)]

/-- **A path stays as it is exactly when none of its segments is dots.** -/
theorem normalPath_joined_eq_self_iff {segments : List (List Char)} (hne : segments ≠ [])
    (h : ∀ s ∈ segments, IsSegment s) :
    normalPath (Text.joined '/' segments) = (segments.flatMap fun s => '/' :: s) ↔
      ∀ s ∈ segments, isDots s = false := by
  rw [normalPath_joined hne h]
  constructor
  · -- a path with dots gets shorter
    intro heq s hs
    refine Bool.eq_false_iff.2 fun hdots => ?_
    have hle := size_follow_le [] segments
    rw [if_pos (List.any_eq_true.2 ⟨s, hs, hdots⟩), size_nil] at hle
    have hsize : size (follow [] segments).reverse = size segments := congrArg List.length heq
    rw [size_reverse] at hsize
    omega
  · intro hdots
    rw [follow_of_no_dots hdots, List.append_nil, List.reverse_reverse]

end SearchRest.Url
