/-
Which hosts are read again.

The ASCII form of an international label may be longer than what is read as such
a form: a label is written if it has at most a thousand characters, and read if
its form has at most two thousand behind the mark. This limit is all there is in
the way. A label whose form keeps to it is read again as the same label, so a
domain is read again exactly when its labels do, and an address that is written
in numbers always is.
-/
import SearchRest.Proofs.Url.Host

set_option autoImplicit false

namespace SearchRest

/-! ## Labels -/

namespace Domain

/-- Whether a label, if it is an ASCII form, is not too long to be read as one. -/
def IsReadable (label : List Char) : Prop := ∀ form, label = mark ++ form → form.length ≤ 2000

/-- **Whether all labels of a host can be read**: of those that begin with the mark of ASCII forms,
none has more than two thousand characters behind it. -/
def HasReadableLabels (host : List Char) : Prop :=
  ∀ label ∈ Text.pieces '.' host, IsReadable label

theorem isReadable_mark_append_iff {form : List Char} :
    IsReadable (mark ++ form) ↔ form.length ≤ 2000 := by
  constructor
  · exact fun h => h form rfl
  · intro h other heq
    rwa [← List.append_cancel_left heq]

theorem isReadable_of_not_mem {label : List Char} (h : 'x' ∉ label) : IsReadable label := by
  rintro form rfl
  exact absurd (List.mem_append_left _ List.mem_cons_self) h

/-- Without the letter `x` there is no mark. -/
theorem hasReadableLabels_of_not_mem {host : List Char} (h : 'x' ∉ host) :
    HasReadableLabels host := fun _ hlabel =>
  isReadable_of_not_mem fun hmem => h (Text.mem_of_mem_pieces hlabel hmem)

theorem dot_not_mem_mark_append {form : List Char} (h : '.' ∉ form) : '.' ∉ mark ++ form := by
  intro hmem
  rcases List.mem_append.1 hmem with hmem | hmem
  · exact absurd hmem (by decide)
  · exact h hmem

/-- A host of one form is unreadable if that form is too long. -/
theorem not_hasReadableLabels_of_lt {form : List Char} (hdot : '.' ∉ form)
    (h : 2000 < form.length) : ¬ HasReadableLabels (mark ++ form) := by
  intro hreadable
  rw [HasReadableLabels, Text.pieces_of_not_mem (dot_not_mem_mark_append hdot)] at hreadable
  exact Nat.not_le.2 h (isReadable_mark_append_iff.1 (hreadable _ List.mem_cons_self))

/-- A form that begins with the mark is too long to be read, or it was read. -/
theorem isReadable_of_textOf? {label text : List Char} (h : textOf? label = some text) :
    IsReadable label := by
  rintro form rfl
  by_contra hlong
  have hform : Text.dropStart? mark (mark ++ form) = some form :=
    Text.dropStart?_eq_some_iff.2 rfl
  rw [textOf?, hform] at h
  dsimp only at h
  rw [if_neg hlong] at h
  cases h

theorem textOf?_of_not_isReadable {label : List Char} (h : ¬ IsReadable label) :
    textOf? label = none := by
  cases htext : textOf? label with
  | none => rfl
  | some text => exact absurd (isReadable_of_textOf? htext) h

theorem isAscii_of_isPlain {cs : List Char} (h : ∀ c ∈ cs, isPlain c = true) :
    isAscii cs = true :=
  List.all_eq_true.2 fun c hc => decide_eq_true (isPlain_iff.1 (h c hc)).1

/-- **A label is read again exactly if its form can be read**, and then as the same label. -/
theorem Label.ofText?_form {cs : List Char} {l : Label} (h : Label.ofText? cs = some l)
    (hdot : '.' ∉ cs) :
    (IsReadable l.form → Label.ofText? l.form = some l) ∧
      (¬ IsReadable l.form → Label.ofText? l.form = none) := by
  have hascii : isAscii l.form = true :=
    isAscii_of_isPlain fun c hc => (Label.isPlain_form h hdot c hc).1
  constructor
  · intro hreadable
    by_cases hcs : isAscii cs = true
    · rw [form_of_isAscii hcs h, h]
    -- the form of an international label stands for it
    · rw [ofText?, if_neg hcs] at h
      dsimp only at h
      split at h
      · rename_i hok
        obtain rfl := Option.some.inj h
        have hform : Text.dropStart? mark (mark ++ Punycode.encode cs)
            = some (Punycode.encode cs) := Text.dropStart?_eq_some_iff.2 rfl
        have htext : textOf? (mark ++ Punycode.encode cs) = some cs := by
          rw [textOf?, hform]
          dsimp only
          rw [if_pos (isReadable_mark_append_iff.1 hreadable), hok.2]
          simp [hok.1]
        rw [ofText?, if_pos hascii, htext]
        rfl
      · cases h
  · intro hlong
    rw [ofText?, if_pos hascii, textOf?_of_not_isReadable hlong]
    rfl

/-! ## Domains -/

/-- A plain text is cut at its dots as it stands. -/
theorem normal?_eq_of_isPlain {cs : List Char} (hplain : ∀ c ∈ cs, isPlain c = true) :
    normal? cs = ((Text.pieces '.' cs).mapM Label.ofText?).bind fun labels =>
      if directionsAgree labels then some (Text.joined '.' (labels.map Label.form)) else none := by
  have hescape : '%' ∉ cs := fun hm => absurd (hplain '%' hm) (by decide)
  unfold normal?
  rw [Text.percentDecodeChars_eq_self hescape]
  show ((Text.pieces '.' (folded cs)).mapM Label.ofText?).bind _ = _
  rw [folded_eq_self hplain]
  rfl

/-- What stands behind a domain in normal form, whose labels agree in their directions. -/
theorem agree_of_normal? {cs domain : List Char} (h : normal? cs = some domain) :
    ∃ ps labels, ps ≠ [] ∧ (∀ p ∈ ps, '.' ∉ p) ∧
      List.Forall₂ (fun p l => Label.ofText? p = some l) ps labels ∧
      directionsAgree labels = true ∧ domain = Text.joined '.' (labels.map Label.form) := by
  obtain ⟨text, -, h⟩ := Option.bind_eq_some_iff.1 h
  obtain ⟨labels, hlabels, h⟩ := Option.bind_eq_some_iff.1 h
  split at h
  · rename_i hagree
    exact ⟨_, labels, Text.pieces_ne_nil '.' _, fun p => Text.not_mem_of_mem_pieces,
      mapM_eq_some_iff.1 hlabels, hagree, (Option.some.inj h).symm⟩
  · cases h

/-- The labels that forms are read as, if all of them can be read, and nothing otherwise. -/
theorem mapM_ofText?_form {ps : List (List Char)} {labels : List Label}
    (h : List.Forall₂ (fun p l => Label.ofText? p = some l) ps labels) (hdot : ∀ p ∈ ps, '.' ∉ p) :
    ((∀ l ∈ labels, IsReadable l.form) → (labels.map Label.form).mapM Label.ofText? = some labels) ∧
      (¬ (∀ l ∈ labels, IsReadable l.form) →
        (labels.map Label.form).mapM Label.ofText? = none) := by
  induction h with
  | nil => exact ⟨fun _ => rfl, fun h => absurd (List.forall_mem_nil _) h⟩
  | @cons p l ps labels hl _ ih =>
    obtain ⟨hp, hps⟩ := List.forall_mem_cons.1 hdot
    obtain ⟨hread, hlong⟩ := Label.ofText?_form hl hp
    obtain ⟨hreads, hlongs⟩ := ih hps
    rw [List.map_cons, List.mapM_cons]
    constructor
    · intro hall
      obtain ⟨hl, hrest⟩ := List.forall_mem_cons.1 hall
      rw [hread hl, hreads hrest]
      rfl
    · intro hnot
      by_cases hform : IsReadable l.form
      · rw [hread hform, hlongs fun hrest => hnot (List.forall_mem_cons.2 ⟨hform, hrest⟩)]
        rfl
      · rw [hlong hform]
        rfl

/-- **A domain in normal form is read again exactly if its labels can be read.** -/
theorem normal?_of_normal? {cs domain : List Char} (h : normal? cs = some domain) :
    (HasReadableLabels domain → normal? domain = some domain) ∧
      (¬ HasReadableLabels domain → normal? domain = none) := by
  have hplain := isPlain_of_normal? h
  obtain ⟨ps, labels, hne, hdot, hlabels, hagree, rfl⟩ := agree_of_normal? h
  have hforms : ∀ form ∈ labels.map Label.form, '.' ∉ form := by
    intro form hform hmem
    obtain ⟨l, hl, rfl⟩ := List.mem_map.1 hform
    obtain ⟨p, hp, hlabel⟩ := exists_left_of_forall₂ hlabels hl
    exact (Label.isPlain_form hlabel (hdot p hp) '.' hmem).2 rfl
  have hformsNe : labels.map Label.form ≠ [] := by
    rintro hnil
    rw [List.map_eq_nil_iff.1 hnil] at hlabels
    exact hne (List.forall₂_nil_right_iff.1 hlabels)
  have hpieces := Text.pieces_joined hformsNe hforms
  have hreadable : HasReadableLabels (Text.joined '.' (labels.map Label.form)) ↔
      ∀ l ∈ labels, IsReadable l.form := by
    rw [HasReadableLabels, hpieces, List.forall_mem_map]
  obtain ⟨hread, hlong⟩ := mapM_ofText?_form hlabels hdot
  rw [hreadable, normal?_eq_of_isPlain hplain, hpieces]
  constructor
  · intro hall
    rw [hread hall, Option.bind_some, if_pos hagree]
  · intro hnot
    rw [hlong hnot, Option.bind_none]

/-- Nothing in ASCII is written from right to left. -/
theorem isOpposite_ofChar_of_lt {c : Char} (h : c.toNat < 0x80) :
    (Direction.ofChar c).isOpposite = false := by
  unfold Direction.ofChar
  rw [if_pos h]
  split
  · rfl
  · split <;> rfl

/-- Directions agree if nothing is written from right to left. -/
theorem directionsAgree_of_forall {labels : List Label}
    (h : ∀ l ∈ labels, ∀ c ∈ l.text, (Direction.ofChar c).isOpposite = false) :
    directionsAgree labels = true := by
  have hnone : ((labels.map fun l => l.text.map Direction.ofChar).any fun ds =>
      ds.any Direction.isOpposite) = false := by
    simpa using h
  unfold directionsAgree
  dsimp only
  rw [hnone]
  rfl

/-- **A plain text without the letter `x` is a domain**: none of its labels looks like an ASCII
form. -/
theorem normal?_eq_self {cs : List Char} (hplain : ∀ c ∈ cs, isPlain c = true) (hx : 'x' ∉ cs) :
    normal? cs = some cs := by
  have hlabel : ∀ p ∈ Text.pieces '.' cs, Label.ofText? p = some ⟨p, p⟩ := by
    intro p hp
    have hmem : ∀ c ∈ p, c ∈ cs := fun c => Text.mem_of_mem_pieces hp
    have hunmarked : Text.dropStart? mark p = none := by
      rw [Option.eq_none_iff_forall_ne_some]
      intro form hform
      rw [Text.dropStart?_eq_some_iff] at hform
      exact hx (hmem 'x' (hform ▸ List.mem_append_left _ List.mem_cons_self))
    have hpermitted : p.all isPermitted = true :=
      List.all_eq_true.2 fun c hc => (isPlain_iff.1 (hplain c (hmem c hc))).2
    rw [Label.ofText?, if_pos (isAscii_of_isPlain fun c hc => hplain c (hmem c hc)), textOf?,
      hunmarked]
    dsimp only
    rw [if_pos hpermitted]
    rfl
  have hlabels : (Text.pieces '.' cs).mapM Label.ofText?
      = some ((Text.pieces '.' cs).map fun p => ⟨p, p⟩) := by
    rw [mapM_eq_some_iff, List.forall₂_map_right_iff, List.forall₂_same]
    exact hlabel
  have hagree : directionsAgree ((Text.pieces '.' cs).map fun p => ⟨p, p⟩) = true := by
    refine directionsAgree_of_forall fun l hl c hc => ?_
    obtain ⟨p, hp, rfl⟩ := List.mem_map.1 hl
    exact isOpposite_ofChar_of_lt (isPlain_iff.1 (hplain c (Text.mem_of_mem_pieces hp hc))).1
  rw [normal?_eq_of_isPlain hplain, hlabels, Option.bind_some, if_pos hagree, List.map_map]
  have hforms : (Text.pieces '.' cs).map (Label.form ∘ fun p => ⟨p, p⟩) = Text.pieces '.' cs :=
    List.map_id _
  rw [hforms, Text.joined_pieces]

end Domain

/-! ## Hosts -/

namespace Host

/-- What a domain is read as that is written in its normal form. -/
theorem parse_of_normal?_eq {domain : List Char} (hplain : ∀ c ∈ domain, Domain.isPlain c = true)
    (hne : domain ≠ []) (hread : Domain.normal? domain = some domain) :
    parse domain = if endsInNumber domain then
        match ipv4? domain with
        | some n => .ok (String.ofList (ipv4Text n))
        | none => .error .invalidIpv4
      else .ok (String.ofList domain) := by
  unfold parse
  split
  · exact absurd (hplain '[' List.mem_cons_self) (by decide)
  · rw [hread]
    exact if_neg (mt List.isEmpty_iff.1 hne)

/-- The last part of an address of version 4 is a number. -/
theorem endsInNumber_ipv4Text (n : Nat) : endsInNumber (ipv4Text n) = true := by
  unfold endsInNumber
  rw [dotted_ipv4Text]
  have hlast : ((ipv4Bytes n).map Text.decimalDigits).getLast?
      = some (Text.decimalDigits (n % 256)) :=
    rfl
  rw [hlast]
  dsimp only
  rw [ipv4Part?_decimalDigits, Option.isSome_some, Bool.or_true]

theorem x_not_mem_ipv4Text (n : Nat) : 'x' ∉ ipv4Text n := by
  intro hmem
  rcases Text.mem_joined hmem with hdot | ⟨p, hp, hc⟩
  · exact absurd hdot (by decide)
  · obtain ⟨m, -, rfl⟩ := List.mem_map.1 hp
    obtain ⟨d, hd, hx⟩ := Text.mem_decimalDigits hc
    have : ∀ d : Fin 10, 'x' ≠ Text.digitChar d := by decide
    exact this ⟨d, hd⟩ hx

/-- An address of version 4 is read as itself. -/
theorem parse_ipv4Text {n : Nat} (h : n < 256 ^ 4) :
    parse (ipv4Text n) = .ok (String.ofList (ipv4Text n)) := by
  have hplain : ∀ c ∈ ipv4Text n, Domain.isPlain c = true := fun c => isPlain_of_mem_ipv4Text
  rw [parse_of_normal?_eq hplain (ipv4Text_ne_nil n)
      (Domain.normal?_eq_self hplain (x_not_mem_ipv4Text n)),
    endsInNumber_ipv4Text, if_pos rfl, ipv4?_ipv4Text h]

/-- **A host is read again, as itself, exactly if its labels can be read.** -/
theorem parse_of_parse_eq {cs : List Char} {host : String} (h : parse cs = .ok host) :
    (Domain.HasReadableLabels host.toList → parse host.toList = .ok host) ∧
      (¬ Domain.HasReadableLabels host.toList → parse host.toList = .error .invalidDomain) := by
  rcases of_parse h with ⟨l, hl, rfl⟩ | ⟨n, hn, rfl⟩ | ⟨domain, hne, hdomain, hends, rfl⟩
  · rw [String.toList_ofList, parse_ipv6Text hl]
    refine ⟨fun _ => rfl, fun hnot =>
      absurd (Domain.hasReadableLabels_of_not_mem fun hx => ?_) hnot⟩
    rcases List.mem_cons.1 hx with hx | hx
    · cases hx
    · rcases List.mem_append.1 hx with hx | hx
      · exact absurd (isGroupChar_of_mem_ipv6Text hx) (by decide)
      · cases List.mem_singleton.1 hx
  · rw [String.toList_ofList, parse_ipv4Text hn]
    exact ⟨fun _ => rfl, fun hnot =>
      absurd (Domain.hasReadableLabels_of_not_mem (x_not_mem_ipv4Text n)) hnot⟩
  · have hplain := Domain.isPlain_of_normal? hdomain
    obtain ⟨hread, hlong⟩ := Domain.normal?_of_normal? hdomain
    rw [String.toList_ofList]
    constructor
    · intro hall
      rw [parse_of_normal?_eq hplain hne (hread hall), hends]
      rfl
    · intro hnot
      unfold parse
      split
      · exact absurd (hplain '[' List.mem_cons_self) (by decide)
      · rw [hlong hnot]

end Host

end SearchRest
