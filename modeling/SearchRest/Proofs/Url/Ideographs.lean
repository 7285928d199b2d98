/-
Hosts that are written in ideographs.

No table has anything to say about the unified ideographs but that a host may hold
them. They are folded to themselves, nothing composes with them, they are no marks
and no letters that are written from right to left. So a text of them is a host,
with the mark and its ASCII form as its normal form, if it has at most a thousand
characters and its ASCII form can be read.
-/
import SearchRest.Proofs.Text.Composed
import SearchRest.Proofs.Url.Labels
import SearchRest.Proofs.Url.Punycode
import SearchRest.Proofs.Url.Rereading

set_option autoImplicit false

namespace SearchRest

/-- Whether the character is one of the unified ideographs. -/
def IsIdeograph (c : Char) : Prop := 0x4e00 ≤ c.toNat ∧ c.toNat ≤ 0x9fff

/-- **A label of ideographs**, which is restored from its ASCII form. -/
structure IsIdeographic (cs : List Char) : Prop where
  isIdeograph : ∀ c ∈ cs, IsIdeograph c
  ne_nil : cs ≠ []
  length_le : cs.length ≤ 1000
  restored : Punycode.decode? (Punycode.encode cs) = some cs

theorem IsIdeograph.not_isAscii {c : Char} (hc : IsIdeograph c) : ¬ c.toNat < 0x80 := fun h =>
  absurd hc.1 (by omega)

/-! ## Tables -/

/-- Whether a run, which begins with some code point and has some length, has no ideograph. -/
def KeepsOut (first length : Nat) : Prop := first + length ≤ 0x4e00 ∨ 0x9fff < first

instance (first length : Nat) : Decidable (KeepsOut first length) :=
  inferInstanceAs (Decidable (_ ∨ _))

/-- In such a run there is nothing at the place of an ideograph. -/
theorem KeepsOut.length_le {first length : Nat} (h : KeepsOut first length) {c : Char}
    (hc : IsIdeograph c) (hfirst : first ≤ c.toNat) : length ≤ c.toNat - first := by
  unfold KeepsOut at h
  unfold IsIdeograph at hc
  omega

/-- A run of one code point that is not one of an ideograph. -/
theorem KeepsOut.ne {n : Nat} (h : KeepsOut n 1) {c : Char} (hc : IsIdeograph c) : n ≠ c.toNat := by
  rintro rfl
  exact absurd (h.length_le hc (Nat.le_refl _)) (by omega)

namespace Text

variable {c : Char}

theorem combiningClass_of_isIdeograph (hc : IsIdeograph c) : combiningClass c = 0 := by
  have htable : ∀ k ∈ combiningClasses, ∀ r ∈ k.2, r.2 < 0x4e00 ∨ 0x9fff < r.1 := by
    decide +kernel
  rw [combiningClass, List.find?_eq_none.2]
  intro k hk
  exact Bool.eq_false_iff.1 (inRanges_eq_false hc.1 hc.2 (htable k hk))

theorem composition?_of_isIdeograph (hc : IsIdeograph c) (a : Char) : composition? a c = none := by
  have htable : ∀ k ∈ compositions, KeepsOut k.1 1 := by decide +kernel
  have hsyllable : syllable? a c = none := by
    unfold IsIdeograph at hc
    rw [syllable?, if_neg (by omega), if_neg (by omega)]
  rw [composition?, hsyllable]
  dsimp only
  rw [List.find?_eq_none.2]
  · rfl
  · exact fun k hk heq => (htable k hk).ne hc (of_decide_eq_true heq)

theorem parts_of_isIdeograph (hc : IsIdeograph c) : parts c = [c] := by
  have hwholes : ∀ k ∈ compositions, ∀ p ∈ k.2, KeepsOut p.2 1 := by decide +kernel
  have hruns : ∀ r ∈ replacements, KeepsOut r.1 r.2.length := by decide +kernel
  have hseparations : ∀ s ∈ separations, KeepsOut s.1 1 := by decide +kernel
  have hsyllable : syllableParts? c = none := by
    unfold IsIdeograph at hc
    rw [syllableParts?, if_neg (by omega)]
  have hcomposition : compositionParts? c = none := by
    refine List.findSome?_eq_none_iff.2 fun k hk => ?_
    rw [Option.map_eq_none_iff]
    exact List.find?_eq_none.2 fun p hp heq => (hwholes k hk p hp).ne hc (of_decide_eq_true heq)
  have hreplacement : replacement? c = none := by
    rw [replacement?, List.findSome?_eq_none_iff.2]
    · dsimp only
      rw [Option.map_eq_none_iff]
      exact List.find?_eq_none.2 fun s hs heq =>
        (hseparations s hs).ne hc (of_decide_eq_true heq)
    · intro r hr
      dsimp only
      split
      · rename_i hfirst
        exact List.getElem?_eq_none ((hruns r hr).length_le hc hfirst)
      · rfl
  rw [parts, hsyllable, hcomposition, hreplacement]
  rfl

/-- **An ideograph stands alone.** -/
theorem standsAlone_of_isIdeograph (hc : IsIdeograph c) : StandsAlone c :=
  ⟨parts_of_isIdeograph hc, combiningClass_of_isIdeograph hc, composition?_of_isIdeograph hc⟩

theorem lowerChar_of_isIdeograph (hc : IsIdeograph c) : lowerChar c = [c] := by
  have htable : ∀ r ∈ lowerRuns, r.2.1 < 0x4e00 ∨ 0x9fff < r.1 := by decide +kernel
  have hdotted : c ≠ '\u0130' := by
    rintro rfl
    exact absurd hc.1 (by decide)
  rw [lowerChar, if_neg hc.not_isAscii, if_neg hdotted, List.find?_eq_none.2]
  rintro ⟨first, last, step, shift⟩ hr hin
  simp only [Bool.and_eq_true, decide_eq_true_eq] at hin
  have hclear : last < 0x4e00 ∨ 0x9fff < first := htable _ hr
  unfold IsIdeograph at hc
  omega

end Text

namespace Domain

variable {c : Char} {cs : List Char}

/-! ## Labels of ideographs -/

/-- Whether the words of a run, one for each character from the first one on, stand for no
ideograph. There are no more words than characters and one. -/
def WordsKeepOut (run : Nat × String) : Prop := KeepsOut run.1 (run.2.toList.length + 1)

theorem wordsKeepOut_ofList {first : Nat} {words : List Char}
    (h : KeepsOut first (words.length + 1)) : WordsKeepOut (first, String.ofList words) := by
  rw [WordsKeepOut, String.toList_ofList]
  exact h

set_option maxRecDepth 4000 in
/-- No ideograph is written as another word. -/
theorem wordsKeepOut_of_mem : ∀ run ∈ foldedRuns, WordsKeepOut run := by
  unfold foldedRuns
  -- entry by entry: the literals are lists of characters only up to unfolding
  repeat refine List.forall_mem_cons.2 ⟨wordsKeepOut_ofList (by decide), ?_⟩
  exact List.forall_mem_nil _

/-- **An ideograph is folded to itself.** -/
theorem foldChar_of_isIdeograph (hc : IsIdeograph c) : foldChar c = [c] := by
  have hkept : Text.inRanges ignoredRanges c.toNat = false :=
    Text.inRanges_eq_false hc.1 hc.2 (by decide)
  rw [foldChar, if_neg hc.not_isAscii, hkept, if_neg Bool.false_ne_true,
    List.findSome?_eq_none_iff.2]
  · exact Text.lowerChar_of_isIdeograph hc
  · intro run hrun
    dsimp only
    split
    · rename_i hfirst
      refine List.getElem?_eq_none (Nat.le_trans (Text.length_pieces_le _) ?_)
      exact KeepsOut.length_le (wordsKeepOut_of_mem run hrun) hc hfirst
    · rfl

theorem folded_of_isIdeograph (hcs : ∀ c ∈ cs, IsIdeograph c) : folded cs = cs := by
  have hfold : cs.flatMap foldChar = cs :=
    calc cs.flatMap foldChar = cs.flatMap fun c => [c] :=
          List.flatMap_congr fun c hc => foldChar_of_isIdeograph (hcs c hc)
      _ = cs := List.flatMap_singleton' cs
  rw [folded, hfold, Text.composed_eq_self fun c hc => Text.standsAlone_of_isIdeograph (hcs c hc)]

theorem isPermitted_of_isIdeograph (hc : IsIdeograph c) : isPermitted c = true := by
  rw [isPermitted, if_neg hc.not_isAscii]
  exact Text.inRanges_eq_true hc.1 hc.2 (by decide +kernel)

theorem isNonspacing_of_isIdeograph (hc : IsIdeograph c) : isNonspacing c = false :=
  Text.inRanges_eq_false hc.1 hc.2 (by decide +kernel)

theorem isMark_of_isIdeograph (hc : IsIdeograph c) : isMark c = false := by
  have hspacing : Text.inRanges spacingRanges c.toNat = false :=
    Text.inRanges_eq_false hc.1 hc.2 (by decide +kernel)
  rw [isMark, isNonspacing_of_isIdeograph hc, hspacing, Bool.false_or]

/-- Joiners are in order if there are none. -/
theorem joinersInOrder_of_forall (h : ∀ c ∈ cs, c ≠ '\u200c' ∧ c ≠ '\u200d')
    (before : List Char) : joinersInOrder before cs = true := by
  induction cs generalizing before with
  | nil => rfl
  | cons c cs ih =>
    obtain ⟨hc, hcs⟩ := List.forall_mem_cons.1 h
    rw [joinersInOrder, if_neg (not_or.2 hc), Bool.true_and, ih hcs]

/-- No ideograph is a given other character. -/
theorem ne_of_isIdeograph (hc : IsIdeograph c) {d : Char} (hd : d.toNat < 0x4e00) : c ≠ d := by
  rintro rfl
  exact absurd hc.1 (Nat.not_le.2 hd)

/-- **At most a thousand ideographs may be the text of a label.** -/
theorem isInternational_of_isIdeographic (h : IsIdeographic cs) : isInternational cs = true := by
  have hpermitted : cs.all isPermitted = true :=
    List.all_eq_true.2 fun c hc => isPermitted_of_isIdeograph (h.isIdeograph c hc)
  have hjoiners : joinersInOrder [] cs = true := joinersInOrder_of_forall
    (fun c hc => ⟨ne_of_isIdeograph (h.isIdeograph c hc) (by decide),
      ne_of_isIdeograph (h.isIdeograph c hc) (by decide)⟩) []
  have hfolded := folded_of_isIdeograph h.isIdeograph
  have hlength := h.length_le
  -- the rest is said about the first character
  obtain ⟨c, cs, rfl⟩ := List.exists_cons_of_ne_nil h.ne_nil
  have hc := h.isIdeograph c List.mem_cons_self
  have hascii : isAscii (c :: cs) = false := by
    rw [isAscii, List.all_cons, decide_eq_false hc.not_isAscii, Bool.false_and]
  have hmark : mark.isPrefixOf (c :: cs) = false := by
    have hx : ('x' == c) = false := beq_eq_false_iff_ne.2 (ne_of_isIdeograph hc (by decide)).symm
    show ('x' == c && _) = false
    rw [hx, Bool.false_and]
  simp only [isInternational, hascii, hlength, hpermitted, hfolded, hmark, hjoiners,
    List.head?_cons, Option.any_some, isMark_of_isIdeograph hc]
  rfl

theorem Label.ofText?_of_isIdeographic (h : IsIdeographic cs) :
    Label.ofText? cs = some ⟨cs, mark ++ Punycode.encode cs⟩ := by
  have hinternational := isInternational_of_isIdeographic h
  have hascii : ¬ isAscii cs = true := by
    intro hascii
    simp [isInternational, hascii] at hinternational
  rw [ofText?, if_neg hascii]
  exact if_pos ⟨hinternational, h.restored⟩

theorem isOpposite_of_isIdeograph (hc : IsIdeograph c) :
    (Direction.ofChar c).isOpposite = false := by
  have hletter : Text.inRanges rightToLeftRanges c.toNat = false :=
    Text.inRanges_eq_false hc.1 hc.2 (by decide +kernel)
  have hnumber : Text.inRanges arabicNumberRanges c.toNat = false :=
    Text.inRanges_eq_false hc.1 hc.2 (by decide +kernel)
  unfold Direction.ofChar
  dsimp only
  rw [if_neg hc.not_isAscii, if_neg (Bool.eq_false_iff.1 (isNonspacing_of_isIdeograph hc)),
    if_neg (Bool.eq_false_iff.1 hletter), if_neg (Bool.eq_false_iff.1 hnumber)]
  split
  · rfl
  · split <;> rfl

theorem dot_not_mem_encode (h : IsIdeographic cs) : '.' ∉ Punycode.encode cs := by
  have hform := Label.isPlain_form (Label.ofText?_of_isIdeographic h) fun hmem =>
    ne_of_isIdeograph (h.isIdeograph _ hmem) (by decide) rfl
  exact fun hmem => (hform '.' (List.mem_append_right _ hmem)).2 rfl

/-- **A text of ideographs is a domain** of one label. -/
theorem normal?_of_isIdeographic (h : IsIdeographic cs) :
    normal? cs = some (mark ++ Punycode.encode cs) := by
  have hnot : ∀ d : Char, d.toNat < 0x4e00 → d ∉ cs := fun d hd hmem =>
    ne_of_isIdeograph (h.isIdeograph d hmem) hd rfl
  have hagree : directionsAgree [⟨cs, mark ++ Punycode.encode cs⟩] = true := by
    refine directionsAgree_of_forall fun l hl c hc => ?_
    rw [List.mem_singleton.1 hl] at hc
    exact isOpposite_of_isIdeograph (h.isIdeograph c hc)
  unfold normal?
  rw [Text.percentDecodeChars_eq_self (hnot '%' (by decide))]
  show ((Text.pieces '.' (folded cs)).mapM Label.ofText?).bind _ = _
  rw [folded_of_isIdeograph h.isIdeograph, Text.pieces_of_not_mem (hnot '.' (by decide)),
    List.mapM_cons, Label.ofText?_of_isIdeographic h]
  exact if_pos hagree

end Domain

/-! ## Hosts of ideographs -/

variable {cs : List Char}

/-- What begins with the mark of ASCII forms and has no dot is no number. -/
theorem Host.endsInNumber_mark_append {form : List Char} (h : '.' ∉ form) :
    endsInNumber (Domain.mark ++ form) = false := by
  have hdotted : dotted (Domain.mark ++ form) = [Domain.mark ++ form] := by
    rw [dotted, Text.pieces_of_not_mem (Domain.dot_not_mem_mark_append h)]
    exact if_neg fun hlong => absurd hlong.2 (Nat.lt_irrefl 1)
  rw [endsInNumber, hdotted]
  rfl

/-- **A text of ideographs is a host**, and its normal form is in ASCII. -/
theorem Host.parse_of_isIdeographic (h : IsIdeographic cs) :
    parse cs = .ok (String.ofList (Domain.mark ++ Punycode.encode cs)) := by
  unfold parse
  split
  · exact absurd (h.isIdeograph '[' List.mem_cons_self).1 (by decide)
  · rw [Domain.normal?_of_isIdeographic h]
    dsimp only
    rw [Host.endsInNumber_mark_append (Domain.dot_not_mem_encode h)]
    rfl

/-- **A text of ideographs is the host of an address.** -/
theorem Url.parse_of_isIdeographic (h : IsIdeographic cs) :
    parse (String.ofList ("http://".toList ++ cs))
      = .ok ⟨"http", "", String.ofList (Domain.mark ++ Punycode.encode cs), none, "/", none,
          none⟩ := by
  have hchars : ∀ c ∈ cs, isAuthorityChar c = true ∧ c ≠ '@' ∧ c ≠ ':' ∧ c ≠ '[' ∧ c ≠ ']' := by
    intro c hc
    have hne : ∀ d : Char, d.toNat < 0x4e00 → c ≠ d := fun d =>
      Domain.ne_of_isIdeograph (h.isIdeograph c hc)
    have hlow := (h.isIdeograph c hc).1
    exact ⟨isAuthorityChar_iff.2 ⟨by omega, hne '/' (by decide), hne '?' (by decide),
      hne '#' (by decide), hne '\\' (by decide)⟩, hne '@' (by decide), hne ':' (by decide),
      hne '[' (by decide), hne ']' (by decide)⟩
  have hparse := parse_host (.inl rfl) h.ne_nil hchars
  rw [Host.parse_of_isIdeographic h] at hparse
  exact hparse

/-! ## Labels that are too long to be read -/

/-- Ideographs of which each one is `step` code points after the one before. -/
def spaced (step n : Nat) : List Char := (List.range' 0x4e00 n step).map Char.ofNat

variable {step n : Nat}

theorem map_toNat_spaced (h : step * n ≤ 0x5200) :
    (spaced step n).map Char.toNat = List.range' 0x4e00 n step := by
  rw [spaced, List.map_map]
  refine (List.map_congr_left fun m hm => ?_).trans (List.map_id _)
  obtain ⟨i, hi, rfl⟩ := List.mem_range'.1 hm
  have hle : step * i ≤ step * n := Nat.mul_le_mul_left step hi.le
  exact Text.toNat_charOfNat (.inl (by omega))

theorem isIdeograph_of_mem_spaced (hstep : 0 < step) (h : step * n ≤ 0x5200) :
    ∀ c ∈ spaced step n, IsIdeograph c := by
  intro c hc
  have hmem : c.toNat ∈ List.range' 0x4e00 n step := by
    rw [← map_toNat_spaced h]
    exact List.mem_map_of_mem hc
  obtain ⟨i, hi, heq⟩ := List.mem_range'.1 hmem
  have hlt : step * i < step * n := Nat.mul_lt_mul_of_pos_left hi hstep
  unfold IsIdeograph
  omega

theorem isAscending_spaced (hstep : 0 < step) (h : step * n ≤ 0x5200) :
    Punycode.IsAscending (spaced step n) := by
  refine ⟨?_, fun c hc => ?_⟩
  · rw [map_toNat_spaced h]
    exact List.pairwise_lt_range' step hstep
  · exact Nat.le_trans (by decide) (isIdeograph_of_mem_spaced hstep h c hc).1

/-- **The form of spaced ideographs is long.** -/
theorem three_mul_le_length_encode_spaced {skipped : Nat} (hstep : 0 < step) (hn : 1 < n)
    (h : step * n ≤ 0x5200) (hlarge : 911 ≤ step * (skipped + 1)) :
    3 * (n - skipped) ≤ (Punycode.encode (spaced step n)).length := by
  have hchain : (128 :: List.range' 0x4e00 n step).IsChain fun a b => a + step ≤ b := by
    obtain ⟨n, rfl⟩ := Nat.exists_eq_succ_of_ne_zero (Nat.ne_of_gt (Nat.lt_of_succ_lt hn))
    have hfirst : step * 2 ≤ step * n.succ := Nat.mul_le_mul_left step hn
    refine List.isChain_cons_cons.2 ⟨by omega, ?_⟩
    exact (List.isChain_range' 0x4e00 n.succ step).imp fun a b hb => Nat.le_of_eq hb.symm
  have hlength := @Punycode.three_mul_le_length_ascent step skipped 72 128 0 _ hchain
    (by rwa [Nat.zero_add])
  rwa [List.length_range', ← map_toNat_spaced h,
    ← Punycode.encode_eq_ascent (isAscending_spaced hstep h)] at hlength

theorem isIdeographic_spaced (hstep : 0 < step) (hn : 0 < n) (hle : n ≤ 1000)
    (h : step * n ≤ 0x5200) : IsIdeographic (spaced step n) := by
  have hlength : (spaced step n).length = n := by
    rw [spaced, List.length_map, List.length_range']
  exact ⟨isIdeograph_of_mem_spaced hstep h, List.ne_nil_of_length_pos (by rwa [hlength]),
    by rwa [hlength], Punycode.decode?_encode (isAscending_spaced hstep h)⟩

/-- **An address may have a host that is not read again**: one of many spaced ideographs. -/
theorem exists_parse_spaced_eq {skipped : Nat} (hstep : 0 < step) (hn : 1 < n) (hle : n ≤ 1000)
    (h : step * n ≤ 0x5200) (hlarge : 911 ≤ step * (skipped + 1))
    (hlong : 2000 < 3 * (n - skipped)) :
    ∃ host, Url.parse (String.ofList ("http://".toList ++ spaced step n))
        = .ok ⟨"http", "", host, none, "/", none, none⟩ ∧
      ¬ Domain.HasReadableLabels host.toList := by
  have hlabel := isIdeographic_spaced hstep (Nat.lt_of_succ_lt hn) hle h
  refine ⟨_, Url.parse_of_isIdeographic hlabel, ?_⟩
  rw [String.toList_ofList]
  exact Domain.not_hasReadableLabels_of_lt (Domain.dot_not_mem_encode hlabel)
    (Nat.lt_of_lt_of_le hlong (three_mul_le_length_encode_spaced hstep hn h hlarge))

end SearchRest
