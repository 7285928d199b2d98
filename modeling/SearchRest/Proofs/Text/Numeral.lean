/-
Numerals read and written again.

Reading puts the digits of a numeral together from left to right, and it
accepts more than what is ever written: a plus sign, zeros in front of other
digits, and a minus sign in front of a zero. A numeral with none of these is
what its number is written as. One that has any of them is not, since no numeral
that is written begins with a plus sign, nor with a zero unless that is all of it.
Words of 64 bits are read in the same way, but for the minus sign.
-/
import SearchRest.Decimal.Reading
import SearchRest.Proofs.Url.Numbers

set_option autoImplicit false

namespace SearchRest.Text

/-! ## Digits -/

/-- The number that digits stand for, after those that made `acc`. -/
def digitsValue (acc : Nat) (cs : List Char) : Nat :=
  cs.foldl (fun n c => n * 10 + (c.toNat - 48)) acc

/-- **One digit or more, for a number that is not above `most`.** -/
structure IsDigits (most : Nat) (cs : List Char) : Prop where
  ne_nil : cs ≠ []
  digits : ∀ c ∈ cs, isDigit c = true
  le : digitsValue 0 cs ≤ most

theorem digitValue?_eq_some_iff {c : Char} {d : Nat} :
    digitValue? c = some d ↔ isDigit c = true ∧ d = c.toNat - 48 := by
  unfold isDigit digitValue?
  split <;> simp [eq_comm]

theorem isDigit_iff {c : Char} : isDigit c = true ↔ '0' ≤ c ∧ c ≤ '9' := by
  unfold isDigit digitValue?
  split
  · rename_i h
    exact iff_of_true rfl h
  · rename_i h
    exact iff_of_false Bool.false_ne_true h

theorem exists_digitChar {c : Char} (h : isDigit c = true) :
    c.toNat - 48 < 10 ∧ digitChar (c.toNat - 48) = c := by
  have hrange : '0' ≤ c ∧ c ≤ '9' := isDigit_iff.1 h
  have hlow : 48 ≤ c.toNat := hrange.1
  have hhigh : c.toNat ≤ 57 := hrange.2
  refine ⟨by omega, ?_⟩
  rw [digitChar, Nat.add_sub_cancel' hlow, Char.ofNat_toNat]

theorem le_digitsValue (acc : Nat) (cs : List Char) : acc ≤ digitsValue acc cs := by
  induction cs generalizing acc with
  | nil => exact Nat.le_refl acc
  | cons c cs ih =>
    have hstep : digitsValue acc (c :: cs) = digitsValue (acc * 10 + (c.toNat - 48)) cs := rfl
    have := ih (acc * 10 + (c.toNat - 48))
    omega

/-! ## Reading -/

/-- **Digits are read as the number that they stand for**, unless that is too large. -/
theorem readDigits_eq_ok_iff {most acc n : Nat} (hacc : acc ≤ most) {beyond : NumeralError}
    {cs : List Char} :
    readDigits most beyond acc cs = .ok n ↔
      (∀ c ∈ cs, isDigit c = true) ∧ n = digitsValue acc cs ∧ digitsValue acc cs ≤ most := by
  induction cs generalizing acc with
  | nil =>
    constructor
    · intro h
      exact ⟨fun c hc => (List.not_mem_nil hc).elim, (Except.ok.inj h).symm, hacc⟩
    · rintro ⟨-, rfl, -⟩
      rfl
  | cons c cs ih =>
    have hstep : digitsValue acc (c :: cs) = digitsValue (acc * 10 + (c.toNat - 48)) cs := rfl
    rw [readDigits, List.forall_mem_cons, hstep]
    cases hc : digitValue? c with
    | none =>
      have hdigit : isDigit c = false := by rw [isDigit, hc]; rfl
      simp [hdigit]
    | some d =>
      obtain ⟨hdigit, rfl⟩ := digitValue?_eq_some_iff.1 hc
      by_cases hle : acc * 10 + (c.toNat - 48) ≤ most
      · simp [hle, ih hle, hdigit]
      -- more digits only make it larger
      · have hgrow := le_digitsValue (acc * 10 + (c.toNat - 48)) cs
        simp only [if_neg hle]
        refine iff_of_false (fun h => nomatch h) fun h => ?_
        omega

theorem readUnsigned_eq_ok_iff {most n : Nat} {beyond : NumeralError} {cs : List Char} :
    readUnsigned most beyond cs = .ok n ↔ IsDigits most cs ∧ n = digitsValue 0 cs := by
  cases cs with
  | nil => exact iff_of_false (fun h => nomatch h) fun h => h.1.ne_nil rfl
  | cons c cs =>
    rw [readUnsigned, readDigits_eq_ok_iff (Nat.zero_le most)]
    · constructor
      · rintro ⟨hdigits, hn, hle⟩
        exact ⟨⟨List.cons_ne_nil _ _, hdigits, hle⟩, hn⟩
      · rintro ⟨h, hn⟩
        exact ⟨h.digits, hn, h.le⟩
    · simp

theorem map_readUnsigned_eq_ok_iff {most : Nat} {beyond : NumeralError} {cs : List Char}
    {f : Nat → Int} {n : Int} :
    (readUnsigned most beyond cs).map f = .ok n ↔ IsDigits most cs ∧ n = f (digitsValue 0 cs) := by
  rw [map_eq_ok_iff]
  constructor
  · rintro ⟨m, hm, rfl⟩
    obtain ⟨hdigits, rfl⟩ := readUnsigned_eq_ok_iff.1 hm
    exact ⟨hdigits, rfl⟩
  · rintro ⟨hdigits, rfl⟩
    exact ⟨_, readUnsigned_eq_ok_iff.2 ⟨hdigits, rfl⟩, rfl⟩

/-- A sign is no digit. -/
theorem not_isDigits_sign (most : Nat) {c : Char} (hc : isDigit c = false) (cs : List Char) :
    ¬ IsDigits most (c :: cs) := by
  intro h
  have := h.digits c List.mem_cons_self
  rw [hc] at this
  cases this

/-- **What is read as an integer**: digits, or a sign with digits. -/
theorem readInteger_eq_ok_iff {least most : Nat} {cs : List Char} {n : Int} :
    readInteger least most cs = .ok n ↔
      (∃ ds, cs = '+' :: ds ∧ IsDigits most ds ∧ n = digitsValue 0 ds) ∨
      (∃ ds, cs = '-' :: ds ∧ IsDigits least ds ∧ n = -digitsValue 0 ds) ∨
      IsDigits most cs ∧ n = digitsValue 0 cs := by
  unfold readInteger
  split
  · refine iff_of_false (fun h => nomatch h) ?_
    rintro (⟨ds, h, -⟩ | ⟨ds, h, -⟩ | ⟨h, -⟩)
    · cases h
    · cases h
    · exact h.ne_nil rfl
  · rename_i ds
    have hsign := not_isDigits_sign most (c := '+') (by decide) ds
    rw [map_readUnsigned_eq_ok_iff]
    simp [hsign]
  · rename_i ds
    have hsign := not_isDigits_sign most (c := '-') (by decide) ds
    rw [map_readUnsigned_eq_ok_iff]
    simp [hsign]
  · rename_i hplus hminus
    rw [map_readUnsigned_eq_ok_iff]
    refine ⟨fun h => .inr (.inr h), ?_⟩
    rintro (⟨ds, h, -⟩ | ⟨ds, h, -⟩ | h)
    · exact (hplus ds h).elim
    · exact (hminus ds h).elim
    · exact h

/-! ## Writing again -/

/-- **More digits**, behind those of a number that is not zero. -/
theorem decimalDigits_digitsValue {acc : Nat} (hacc : 0 < acc) {cs : List Char}
    (h : ∀ c ∈ cs, isDigit c = true) :
    decimalDigits (digitsValue acc cs) = decimalDigits acc ++ cs := by
  induction cs generalizing acc with
  | nil => exact (List.append_nil _).symm
  | cons c cs ih =>
    obtain ⟨hc, hcs⟩ := List.forall_mem_cons.1 h
    obtain ⟨hlt, hchar⟩ := exists_digitChar hc
    have hstep : digitsValue acc (c :: cs) = digitsValue (acc * 10 + (c.toNat - 48)) cs := rfl
    have hdigits : decimalDigits (acc * 10 + (c.toNat - 48)) = decimalDigits acc ++ [c] := by
      have hdiv : (acc * 10 + (c.toNat - 48)) / 10 = acc := by omega
      have hmod : (acc * 10 + (c.toNat - 48)) % 10 = c.toNat - 48 := by omega
      rw [decimalDigits, if_neg (by omega), hdiv, hmod, hchar]
    rw [hstep, ih (by omega) hcs, hdigits, List.append_assoc]
    rfl

/-- **A numeral is what its number is written as**, unless it has a zero in front of other digits. -/
theorem decimalDigits_digitsValue_eq_self_iff {cs : List Char} (hne : cs ≠ [])
    (h : ∀ c ∈ cs, isDigit c = true) :
    decimalDigits (digitsValue 0 cs) = cs ↔ ¬ ∃ ds, ds ≠ [] ∧ cs = '0' :: ds := by
  obtain ⟨c, cs, rfl⟩ := List.exists_cons_of_ne_nil hne
  by_cases hzero : c = '0'
  · subst hzero
    cases cs with
    | nil => simp [digitsValue, decimalDigits, digitChar]
    | cons d ds =>
      refine iff_of_false (fun heq => ?_) (not_not_intro ⟨d :: ds, List.cons_ne_nil _ _, rfl⟩)
      rcases Nat.eq_zero_or_pos (digitsValue 0 ('0' :: d :: ds)) with hv | hv
      · -- the numeral of zero is a single digit
        rw [hv, decimalDigits, if_pos (by decide)] at heq
        cases heq
      · exact head?_decimalDigits hv (by rw [heq]; rfl)
  -- the first digit is a number above zero, and the others stand behind its numeral
  · obtain ⟨hc, hcs⟩ := List.forall_mem_cons.1 h
    obtain ⟨hlt, hchar⟩ := exists_digitChar hc
    have hpos : 0 < c.toNat - 48 := by
      by_contra hnot
      rw [Nat.eq_zero_of_not_pos hnot] at hchar
      exact hzero hchar.symm
    have hstep : digitsValue 0 (c :: cs) = digitsValue (c.toNat - 48) cs := by
      simp [digitsValue]
    have hfirst : decimalDigits (c.toNat - 48) = [c] := by
      rw [decimalDigits, if_pos hlt, hchar]
    rw [hstep, decimalDigits_digitsValue hpos hcs, hfirst]
    refine iff_of_true rfl ?_
    rintro ⟨ds, -, hds⟩
    exact hzero (List.cons.inj hds).1

/-! ## Integers of 64 bits -/

/-- **An integer of 64 bits that is not written as integers are**: with a plus sign, with a zero in
front of other digits, or with a minus sign in front of a zero. -/
inductive IsLooseNumeral : List Char → Prop where
  | plus {ds : List Char} (h : IsDigits maxInteger ds) : IsLooseNumeral ('+' :: ds)
  | zero {ds : List Char} (hne : ds ≠ []) (h : IsDigits maxInteger ('0' :: ds)) :
      IsLooseNumeral ('0' :: ds)
  | minus {ds : List Char} (h : IsDigits (maxInteger + 1) ('0' :: ds)) :
      IsLooseNumeral ('-' :: '0' :: ds)

theorem readInt64_eq_ok_iff {s : String} {n : Int} :
    readInt64 s = .ok n ↔
      (∃ ds, s.toList = '+' :: ds ∧ IsDigits maxInteger ds ∧ n = digitsValue 0 ds) ∨
      (∃ ds, s.toList = '-' :: ds ∧ IsDigits (maxInteger + 1) ds ∧ n = -digitsValue 0 ds) ∨
      IsDigits maxInteger s.toList ∧ n = digitsValue 0 s.toList :=
  readInteger_eq_ok_iff

/-- A loose numeral is read all the same. -/
theorem IsLooseNumeral.exists_readInt64 {s : String} (h : IsLooseNumeral s.toList) :
    ∃ n, readInt64 s = .ok n := by
  simp only [readInt64_eq_ok_iff]
  generalize s.toList = cs at h
  cases h with
  | plus h => exact ⟨_, .inl ⟨_, rfl, h, rfl⟩⟩
  | zero _ h => exact ⟨_, .inr (.inr ⟨h, rfl⟩)⟩
  | minus h => exact ⟨_, .inr (.inl ⟨_, rfl, h, rfl⟩)⟩

theorem toInt_ofInt_of_readInt64 {s : String} {n : Int} (h : readInt64 s = .ok n) :
    (Int64.ofInt n).toInt = n := by
  have hrange : -(2 ^ 63) ≤ n ∧ n < 2 ^ 63 := by
    have hmax : maxInteger = 2 ^ 63 - 1 := by decide
    rcases readInt64_eq_ok_iff.1 h with ⟨ds, -, hds, rfl⟩ | ⟨ds, -, hds, rfl⟩ | ⟨hds, rfl⟩ <;>
      have := hds.le <;> omega
  exact Int64.toInt_ofInt_of_le hrange.1 hrange.2

/-- The numeral of the negative of a number. -/
theorem toList_signedDecimal_neg {n : Nat} (h : 0 < n) :
    (signedDecimal (-n)).toList = '-' :: decimalDigits n := by
  obtain ⟨m, rfl⟩ := Nat.exists_eq_succ_of_ne_zero (Nat.pos_iff_ne_zero.1 h)
  exact String.toList_ofList

theorem toList_signedDecimal (n : Nat) : (signedDecimal n).toList = decimalDigits n :=
  String.toList_ofList

/-- The negative of a number is written with its digits, unless they begin with a zero. -/
theorem toList_signedDecimal_neg_eq_iff {most : Nat} {ds : List Char} (h : IsDigits most ds) :
    (signedDecimal (-digitsValue 0 ds)).toList = '-' :: ds ↔ ¬ ∃ es, ds = '0' :: es := by
  by_cases hzero : ∃ es, ds = '0' :: es
  · obtain ⟨es, rfl⟩ := hzero
    refine iff_of_false (fun heq => ?_) (not_not_intro ⟨es, rfl⟩)
    -- zero is written without a sign, and another number without a zero in front
    rcases Nat.eq_zero_or_pos (digitsValue 0 ('0' :: es)) with hv | hv
    · rw [hv, show signedDecimal (-(0 : Nat)) = signedDecimal (0 : Nat) from rfl,
        toList_signedDecimal] at heq
      have hminus := isDigit_of_mem_decimalDigits (heq ▸ List.mem_cons_self)
      exact absurd hminus (by decide)
    · rw [toList_signedDecimal_neg hv] at heq
      exact head?_decimalDigits hv (by rw [(List.cons.inj heq).2]; rfl)
  · have hself : decimalDigits (digitsValue 0 ds) = ds := by
      refine (decimalDigits_digitsValue_eq_self_iff h.ne_nil h.digits).2 ?_
      rintro ⟨es, -, hes⟩
      exact hzero ⟨es, hes⟩
    have hpos : 0 < digitsValue 0 ds := by
      refine Nat.pos_of_ne_zero fun hv => hzero ⟨[], ?_⟩
      rw [← hself, hv, decimalDigits, if_pos (by decide)]
      rfl
    exact iff_of_true (by rw [toList_signedDecimal_neg hpos, hself]) hzero

/-- **An integer is written as it was read** exactly when its numeral is not a loose one. -/
theorem signedDecimal_eq_self_iff {s : String} {n : Int} (h : readInt64 s = .ok n) :
    signedDecimal n = s ↔ ¬ IsLooseNumeral s.toList := by
  rw [readInt64_eq_ok_iff] at h
  rw [← String.toList_inj]
  generalize s.toList = cs at h
  rcases h with ⟨ds, rfl, hds, rfl⟩ | ⟨ds, rfl, hds, rfl⟩ | ⟨hds, rfl⟩
  · refine iff_of_false (fun heq => ?_) (not_not_intro (.plus hds))
    rw [toList_signedDecimal] at heq
    have hplus := isDigit_of_mem_decimalDigits (heq ▸ List.mem_cons_self)
    exact absurd hplus (by decide)
  · rw [toList_signedDecimal_neg_eq_iff hds, not_iff_not]
    constructor
    · rintro ⟨es, rfl⟩
      exact .minus hds
    · intro hloose
      cases hloose with
      | minus _ => exact ⟨_, rfl⟩
  · rw [toList_signedDecimal, decimalDigits_digitsValue_eq_self_iff hds.ne_nil hds.digits,
      not_iff_not]
    constructor
    · rintro ⟨ds, hne, rfl⟩
      exact .zero hne hds
    · intro hloose
      cases hloose with
      | plus _ => exact (not_isDigits_sign _ (by decide) _ hds).elim
      | zero hne _ => exact ⟨_, hne, rfl⟩
      | minus _ => exact (not_isDigits_sign _ (by decide) _ hds).elim

end SearchRest.Text

namespace SearchRest

/-- **The digits of a number stand for it.** -/
theorem digitsValue_decimalDigits (n : Nat) : digitsValue (Text.decimalDigits n) = n := by
  induction n using Nat.strongRecOn with
  | ind n ih =>
    have hdigit : ∀ d : Fin 10, (Text.digitValue? (Text.digitChar d)).getD 0 = d.val := by decide
    rw [Text.decimalDigits]
    split
    · rename_i hlt
      have hd := hdigit ⟨n, hlt⟩
      simpa [digitsValue] using hd
    · rename_i hge
      have hd : (Text.digitValue? (Text.digitChar (n % 10))).getD 0 = n % 10 :=
        hdigit ⟨n % 10, Nat.mod_lt _ (by decide)⟩
      have hrest := ih (n / 10) (by omega)
      unfold digitsValue at hrest ⊢
      rw [List.foldl_append, hrest, List.foldl_cons, List.foldl_nil, hd]
      omega

/-- Of digits alone, what the reader puts together is the number that they stand for. -/
theorem Text.digitsValue_eq {cs : List Char} (h : ∀ c ∈ cs, isDigit c = true) :
    digitsValue 0 cs = SearchRest.digitsValue cs := by
  refine List.foldl_ext _ _ 0 fun n c hc => ?_
  obtain ⟨d, hd⟩ := Option.isSome_iff_exists.1 (h c hc)
  rw [hd, Option.getD_some, (digitValue?_eq_some_iff.1 hd).2]

/-- So a number is told by its numeral. -/
theorem Text.decimal_injective {m n : Nat} (h : decimal m = decimal n) : m = n := by
  have hdigits : decimalDigits m = decimalDigits n := String.ofList_injective h
  rw [← digitsValue_decimalDigits m, hdigits, digitsValue_decimalDigits]

/-! ## Words of 64 bits -/

namespace Text

/-- **A numeral of a word of 64 bits**: digits, at least one, for a number below `2 ^ 64`, with a plus
sign in front of them or without. -/
def IsWordNumeral (cs : List Char) (n : Nat) : Prop :=
  ∃ ds, (cs = ds ∨ cs = '+' :: ds) ∧ ds ≠ [] ∧ (∀ c ∈ ds, '0' ≤ c ∧ c ≤ '9') ∧
    SearchRest.digitsValue ds = n ∧ n < 2 ^ 64

theorem readNatural_eq_ok_iff {most n : Nat} {cs : List Char} :
    readNatural most cs = .ok n ↔
      ∃ ds, (cs = ds ∨ cs = '+' :: ds) ∧ IsDigits most ds ∧ n = digitsValue 0 ds := by
  unfold readNatural
  split
  · refine iff_of_false (fun h => nomatch h) ?_
    rintro ⟨ds, rfl | h, hds, -⟩
    · exact hds.ne_nil rfl
    · cases h
  · rename_i ds
    have hsign := not_isDigits_sign most (c := '+') (by decide) ds
    rw [readUnsigned_eq_ok_iff]
    constructor
    · exact fun h => ⟨ds, .inr rfl, h⟩
    · rintro ⟨es, rfl | h, hes⟩
      · exact absurd hes.1 hsign
      · exact (List.cons.inj h).2 ▸ hes
  · rename_i hplus
    rw [readUnsigned_eq_ok_iff]
    constructor
    · exact fun h => ⟨cs, .inl rfl, h⟩
    · rintro ⟨ds, rfl | h, hds⟩
      · exact hds
      · exact absurd h (hplus ds)

/-- **What is read as a word** is what its numerals are. -/
theorem readWord_eq_ok_iff {s : String} {n : Nat} :
    readWord s = .ok n ↔ IsWordNumeral s.toList n := by
  have hmax : maxWord = 2 ^ 64 - 1 := by decide
  rw [readWord, readNatural_eq_ok_iff]
  constructor
  · rintro ⟨ds, hs, hds, rfl⟩
    have hle := hds.le
    refine ⟨ds, hs, hds.ne_nil, fun c hc => isDigit_iff.1 (hds.digits c hc), ?_, by omega⟩
    exact (digitsValue_eq hds.digits).symm
  · rintro ⟨ds, hs, hne, hdigits, rfl, hlt⟩
    have hds : ∀ c ∈ ds, isDigit c = true := fun c hc => isDigit_iff.2 (hdigits c hc)
    have hvalue := digitsValue_eq hds
    exact ⟨ds, hs, ⟨hne, hds, by omega⟩, hvalue.symm⟩

/-- A word is one of its own numerals. -/
theorem isWordNumeral_decimalDigits {n : Nat} (h : n < 2 ^ 64) :
    IsWordNumeral (decimalDigits n) n :=
  ⟨decimalDigits n, .inl rfl, decimalDigits_ne_nil n,
    fun _ hc => isDigit_iff.1 (isDigit_of_mem_decimalDigits hc), digitsValue_decimalDigits n, h⟩

theorem IsWordNumeral.lt {cs : List Char} {n : Nat} (h : IsWordNumeral cs n) : n < 2 ^ 64 := by
  obtain ⟨ds, -, -, -, -, hlt⟩ := h
  exact hlt

/-- The characters of a numeral are digits or a plus sign. -/
theorem IsWordNumeral.mem {cs : List Char} {n : Nat} (h : IsWordNumeral cs n) {c : Char}
    (hc : c ∈ cs) : c = '+' ∨ '0' ≤ c ∧ c ≤ '9' := by
  obtain ⟨ds, rfl | rfl, -, hds, -⟩ := h
  · exact .inr (hds c hc)
  · exact (List.mem_cons.1 hc).imp_right (hds c)

end Text

end SearchRest
