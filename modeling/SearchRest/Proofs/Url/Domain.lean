/-
Domains in normal form.

Every label is written with characters of one set: those of ASCII that a domain
may hold, which leaves out capital letters and the percent sign. On such
characters folding does nothing, there is no escape to read, and a label in ASCII
is its own form, so a domain in normal form is read as itself if it is read at
all.
-/
import SearchRest.Proofs.Lists
import SearchRest.Proofs.Text.Percent
import SearchRest.Proofs.Text.Pieces
import SearchRest.Url.Domain

set_option autoImplicit false

namespace SearchRest

/-! ## The characters of the ASCII form of a label -/

namespace Punycode

/-- The digits of a distance are digits. -/
theorem mem_digits {bias k q : Nat} {c : Char} (h : c ∈ digits bias k q) :
    ∃ n, n < 36 ∧ c = digit n := by
  have hthreshold : ∀ k, 1 ≤ threshold k bias ∧ threshold k bias ≤ 26 := by
    intro k
    unfold threshold
    omega
  induction k, q using digits.induct bias with
  | case1 k q hlt =>
    have ht := hthreshold k
    rw [digits, dif_pos hlt, List.mem_singleton] at h
    exact ⟨q, by omega, h⟩
  | case2 k q hge t ih =>
    have ht := hthreshold k
    rw [digits, dif_neg hge] at h
    rcases List.mem_cons.1 h with rfl | h
    · refine ⟨_, ?_, rfl⟩
      have hmod := Nat.mod_lt (q - threshold k bias) (show 0 < 36 - threshold k bias by omega)
      omega
    · exact ih h

theorem mem_output_pass {basic n : Nat} {p : Progress} {m : Nat} {c : Char}
    (h : c ∈ (pass basic n p m).output) : c ∈ p.output ∨ ∃ d, d < 36 ∧ c = digit d := by
  unfold pass at h
  split at h
  · exact .inl h
  · split at h
    · exact (List.mem_append.1 h).imp_right mem_digits
    · exact .inl h

theorem mem_output_foldl {basic n : Nat} {codes : List Nat} {p : Progress} {c : Char}
    (h : c ∈ (codes.foldl (pass basic n) p).output) :
    c ∈ p.output ∨ ∃ d, d < 36 ∧ c = digit d := by
  induction codes generalizing p with
  | nil => exact .inl h
  | cons m codes ih =>
    rcases ih h with h | h
    · exact mem_output_pass h
    · exact .inr h

theorem mem_output_describe {basic : Nat} {codes : List Nat} {n : Nat} {ms : List Nat}
    {p : Progress} {c : Char} (h : c ∈ (describe basic codes n ms p).output) :
    c ∈ p.output ∨ ∃ d, d < 36 ∧ c = digit d := by
  induction ms generalizing n p with
  | nil => exact .inl h
  | cons m ms ih =>
    rcases ih h with h | h
    · exact mem_output_foldl (p := { p with delta := p.delta + (m - n) * (p.count + 1) }) h
    · exact .inr h

/-- **The ASCII form of a label** holds the ASCII characters of the label, hyphens and digits. -/
theorem mem_encode {label : List Char} {c : Char} (h : c ∈ encode label) :
    (c ∈ label ∧ c.toNat < 128) ∨ c = '-' ∨ ∃ d, d < 36 ∧ c = digit d := by
  rcases mem_output_describe h with h | h
  · have hbasic : c ∈ (label.filter fun c => c.toNat < 128) ++ ['-'] := by
      split at h
      · cases h
      · exact h
    rcases List.mem_append.1 hbasic with h | h
    · obtain ⟨hmem, hlt⟩ := List.mem_filter.1 h
      exact .inl ⟨hmem, of_decide_eq_true hlt⟩
    · exact .inr (.inl (List.mem_singleton.1 h))
  · exact .inr (.inr h)

end Punycode

namespace Domain

/-! ## Plain characters -/

/-- Whether a domain in normal form may hold the character. -/
def isPlain (c : Char) : Bool := c.toNat < 0x80 && isPermitted c

theorem isPlain_iff {c : Char} : isPlain c = true ↔ c.toNat < 0x80 ∧ isPermitted c = true := by
  simp [isPlain]

/-- What a domain cannot hold is not plain. -/
theorem isForbidden_of_isPlain {c : Char} (h : isPlain c = true) : isForbidden c = false := by
  obtain ⟨hlt, hpermitted⟩ := isPlain_iff.1 h
  rw [isPermitted, if_pos hlt, Bool.and_eq_true] at hpermitted
  simpa using hpermitted.1

theorem isUpper_of_isPlain {c : Char} (h : isPlain c = true) : c.isUpper = false := by
  obtain ⟨hlt, hpermitted⟩ := isPlain_iff.1 h
  rw [isPermitted, if_pos hlt, Bool.and_eq_true] at hpermitted
  simpa using hpermitted.2

theorem isPlain_digit {n : Nat} (h : n < 36) : isPlain (Punycode.digit n) = true ∧
    Punycode.digit n ≠ '.' := by
  have : ∀ n : Fin 36, isPlain (Punycode.digit n) = true ∧ Punycode.digit n ≠ '.' := by decide
  exact this ⟨n, h⟩

/-- The ASCII form of a text that may stand in a label is plain. -/
theorem isPlain_of_mem_encode {text : List Char} (htext : text.all isPermitted = true) {c : Char}
    (h : c ∈ Punycode.encode text) : isPlain c = true := by
  rcases Punycode.mem_encode h with ⟨hmem, hlt⟩ | rfl | ⟨d, hd, rfl⟩
  · exact isPlain_iff.2 ⟨hlt, List.all_eq_true.1 htext c hmem⟩
  · decide
  · exact (isPlain_digit hd).1

theorem isPlain_of_mem_mark {c : Char} (h : c ∈ mark) : isPlain c = true ∧ c ≠ '.' := by
  have hmark : mark = ['x', 'n', '-', '-'] := rfl
  simp only [hmark, List.mem_cons, List.not_mem_nil, or_false] at h
  rcases h with rfl | rfl | rfl | rfl <;> decide

theorem isPermitted_of_isInternational {cs : List Char} (h : isInternational cs = true) :
    cs.all isPermitted = true := by
  simp only [isInternational, Bool.and_eq_true] at h
  exact h.1.1.1.1.2

/-- A label in ASCII that stands for a text is plain. -/
theorem isPlain_of_textOf? {label text : List Char} (hascii : isAscii label = true)
    (h : textOf? label = some text) : ∀ c ∈ label, isPlain c = true := by
  intro c hc
  have hlt : c.toNat < 0x80 := of_decide_eq_true (List.all_eq_true.1 hascii c hc)
  unfold textOf? at h
  split at h
  -- without the mark the label stands for itself and was checked character by character
  · split at h
    · rename_i hall
      exact isPlain_iff.2 ⟨hlt, List.all_eq_true.1 hall c hc⟩
    · cases h
  -- with it the label is the form of a text that was checked
  · rename_i form hform
    split at h
    · obtain ⟨-, hcheck⟩ := Option.filter_eq_some_iff.1 h
      rw [Bool.and_eq_true] at hcheck
      rw [Text.dropStart?_eq_some_iff.1 hform, List.mem_append] at hc
      rcases hc with hc | hc
      · exact (isPlain_of_mem_mark hc).1
      · rw [← of_decide_eq_true hcheck.2] at hc
        exact isPlain_of_mem_encode (isPermitted_of_isInternational hcheck.1) hc
    · cases h

/-- **The ASCII form of a label is plain.** -/
theorem Label.isPlain_form {cs : List Char} {l : Label} (h : Label.ofText? cs = some l)
    (hdot : '.' ∉ cs) : ∀ c ∈ l.form, isPlain c = true ∧ c ≠ '.' := by
  intro c hc
  unfold ofText? at h
  split at h
  · rename_i hascii
    obtain ⟨text, htext, rfl⟩ := Option.map_eq_some_iff.1 h
    exact ⟨isPlain_of_textOf? hascii htext c hc, fun he => hdot (he ▸ hc)⟩
  · dsimp only at h
    split at h
    · rename_i hok
      obtain rfl := Option.some.inj h
      rcases List.mem_append.1 hc with hc | hc
      · exact isPlain_of_mem_mark hc
      · refine ⟨isPlain_of_mem_encode (isPermitted_of_isInternational hok.1) hc, ?_⟩
        rcases Punycode.mem_encode hc with ⟨hmem, -⟩ | rfl | ⟨d, hd, rfl⟩
        · exact fun he => hdot (he ▸ hmem)
        · decide
        · exact (isPlain_digit hd).2
    · cases h

/-! ## Domains in normal form -/

/-- What stands behind a domain in normal form: the labels that were read, and their forms. -/
theorem labels_of_normal? {cs domain : List Char} (h : normal? cs = some domain) :
    ∃ text labels, Text.percentDecodeChars cs = some text ∧
      List.Forall₂ (fun p l => Label.ofText? p = some l) (Text.pieces '.' (folded text)) labels ∧
      domain = Text.joined '.' (labels.map Label.form) := by
  obtain ⟨text, htext, h⟩ := Option.bind_eq_some_iff.1 h
  obtain ⟨labels, hlabels, h⟩ := Option.bind_eq_some_iff.1 h
  split at h
  · exact ⟨text, labels, htext, mapM_eq_some_iff.1 hlabels, (Option.some.inj h).symm⟩
  · cases h

/-- **A domain in normal form is plain.** -/
theorem isPlain_of_normal? {cs domain : List Char} (h : normal? cs = some domain) :
    ∀ c ∈ domain, isPlain c = true := by
  obtain ⟨text, labels, -, hlabels, rfl⟩ := labels_of_normal? h
  intro c hc
  rcases Text.mem_joined hc with rfl | ⟨form, hform, hc⟩
  · decide
  · obtain ⟨l, hl, rfl⟩ := List.mem_map.1 hform
    obtain ⟨p, hp, hlabel⟩ := exists_left_of_forall₂ hlabels hl
    exact (Label.isPlain_form hlabel (Text.not_mem_of_mem_pieces hp) c hc).1

/-- Plain characters are not folded. -/
theorem folded_eq_self {cs : List Char} (h : ∀ c ∈ cs, isPlain c = true) : folded cs = cs := by
  have hchars : cs.flatMap foldChar = cs := by
    induction cs with
    | nil => rfl
    | cons c cs ih =>
      obtain ⟨hc, hcs⟩ := List.forall_mem_cons.1 h
      have hone : foldChar c = [c] := by
        have hlower : c.toLower = c := Text.toLower_eq_self_iff.2 (isUpper_of_isPlain hc)
        rw [foldChar, if_pos (isPlain_iff.1 hc).1, hlower]
      rw [List.flatMap_cons, hone, ih hcs]
      rfl
  -- below the first mark that composes there is nothing to compose
  have hlow : (cs.all fun c => decide (c.toNat < 0x300)) = true := by
    refine List.all_eq_true.2 fun c hc => decide_eq_true ?_
    exact Nat.lt_trans (isPlain_iff.1 (h c hc)).1 (by decide)
  rw [folded, hchars, Text.composed, if_pos hlow]

/-- A label in ASCII is its own form. -/
theorem form_of_isAscii {cs : List Char} {l : Label} (hascii : isAscii cs = true)
    (h : Label.ofText? cs = some l) : l.form = cs := by
  rw [Label.ofText?, if_pos hascii] at h
  obtain ⟨text, -, rfl⟩ := Option.map_eq_some_iff.1 h
  rfl

theorem map_form_of_isAscii {ps : List (List Char)} {labels : List Label}
    (h : List.Forall₂ (fun p l => Label.ofText? p = some l) ps labels)
    (hascii : ∀ p ∈ ps, isAscii p = true) : labels.map Label.form = ps := by
  induction h with
  | nil => rfl
  | cons hl _ ih =>
    obtain ⟨hp, hps⟩ := List.forall_mem_cons.1 hascii
    rw [List.map_cons, form_of_isAscii hp hl, ih hps]

/-- **A plain text is read as itself**, if it is a domain. -/
theorem normal?_of_isPlain {cs domain : List Char} (hplain : ∀ c ∈ cs, isPlain c = true)
    (h : normal? cs = some domain) : domain = cs := by
  obtain ⟨text, labels, htext, hlabels, rfl⟩ := labels_of_normal? h
  have hescape : '%' ∉ cs := fun hm => absurd (hplain '%' hm) (by decide)
  rw [Text.percentDecodeChars_eq_self hescape] at htext
  obtain rfl := Option.some.inj htext
  rw [folded_eq_self hplain] at hlabels
  have hascii : ∀ p ∈ Text.pieces '.' cs, isAscii p = true := by
    intro p hp
    refine List.all_eq_true.2 fun c hc => decide_eq_true ?_
    exact (isPlain_iff.1 (hplain c (Text.mem_of_mem_pieces hp hc))).1
  rw [map_form_of_isAscii hlabels hascii, Text.joined_pieces]

end Domain

end SearchRest
