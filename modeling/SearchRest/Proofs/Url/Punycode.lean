/-
Labels in the order of their code points.

A label without ASCII whose characters stand in the order of their code points is
described from left to right: each character comes next to the one before, and
its distance is the step from one code point to the next, times the number of
places that there are. Read again, every distance leads to the same code point at
the end of what has been restored, so such a label is always restored. Its form
grows with its steps, since a distance from 911 on has three digits or more
whatever the bias is.
-/
import Mathlib.Data.List.Sort
import Mathlib.Tactic.Ring
import SearchRest.Proofs.Url.Domain

set_option autoImplicit false

namespace SearchRest.Punycode

/-! ## Digits -/

theorem threshold_bounds (k bias : Nat) : 1 ≤ threshold k bias ∧ threshold k bias ≤ 26 := by
  unfold threshold
  omega

theorem digitValue?_digit {n : Nat} (h : n < 36) : digitValue? (digit n) = some n := by
  have : ∀ n : Fin 36, digitValue? (digit n) = some n.val := by decide
  exact this ⟨n, h⟩

theorem digit_ne_hyphen {n : Nat} (h : n < 36) : digit n ≠ '-' := by
  have : ∀ n : Fin 36, digit n ≠ '-' := by decide
  exact this ⟨n, h⟩

/-- **A distance is read back from its digits.** The digits that were read before amount to
`distance`, and the next one has the weight `weight`. -/
theorem restore?_digits (p : Restored) (k q weight distance : Nat) (cs : List Char) :
    restore? p k weight distance (digits p.bias k q ++ cs)
      = (p.add? (distance + q * weight)).bind fun p => restore? p 36 1 0 cs := by
  induction k, q using digits.induct p.bias generalizing weight distance with
  | case1 k q hlt =>
    have ht := threshold_bounds k p.bias
    rw [digits, dif_pos hlt, List.singleton_append, restore?, digitValue?_digit (by omega)]
    dsimp only
    rw [if_pos hlt]
  | case2 k q hge t ih =>
    have ht := threshold_bounds k p.bias
    have hmod := Nat.mod_lt (q - threshold k p.bias) (show 0 < 36 - threshold k p.bias by omega)
    rw [digits, dif_neg hge, List.cons_append, restore?, digitValue?_digit (by omega)]
    dsimp only
    rw [if_neg (by omega), ih]
    -- the digit and the digits behind it make up the distance
    have hq : threshold k p.bias + (q - threshold k p.bias) % (36 - threshold k p.bias)
        + (q - t) / (36 - t) * (36 - threshold k p.bias) = q := by
      have hdiv := Nat.mod_add_div' (q - threshold k p.bias) (36 - threshold k p.bias)
      show _ + (q - threshold k p.bias) / (36 - threshold k p.bias) * _ = q
      omega
    congr 2
    calc distance + (threshold k p.bias + (q - threshold k p.bias) % (36 - threshold k p.bias))
          * weight + (q - t) / (36 - t) * (weight * (36 - threshold k p.bias))
        = distance + (threshold k p.bias + (q - threshold k p.bias) % (36 - threshold k p.bias)
          + (q - t) / (36 - t) * (36 - threshold k p.bias)) * weight := by ring
      _ = distance + q * weight := by rw [hq]

/-- A distance from 911 on has three digits or more. -/
theorem three_le_length_digits (bias k : Nat) {q : Nat} (h : 911 ≤ q) :
    3 ≤ (digits bias k q).length := by
  have hone : ∀ k q, 1 ≤ (digits bias k q).length := by
    intro k q
    rw [digits]
    split <;> simp
  have htwo : ∀ k q, 26 ≤ q → 2 ≤ (digits bias k q).length := by
    intro k q hq
    have ht := threshold_bounds k bias
    rw [digits, dif_neg (by omega), List.length_cons]
    have := hone (k + 36) ((q - threshold k bias) / (36 - threshold k bias))
    omega
  have ht := threshold_bounds k bias
  have hrest : 26 ≤ (q - threshold k bias) / (36 - threshold k bias) := by
    rw [Nat.le_div_iff_mul_le (by omega)]
    omega
  rw [digits, dif_neg (by omega), List.length_cons]
  have := htwo (k + 36) _ hrest
  omega

/-! ## Writing -/

/-- **The digits of a label in the order of its code points**, from the character at the place
`place` on, which follows the code point `before`. -/
def ascent (bias before place : Nat) : List Nat → List Char
  | [] => []
  | m :: ms =>
    let q := (m - before) * (place + 1)
    digits bias 36 q ++ ascent (adapt q (place + 1) (place = 0)) m (place + 1) ms

/-- Smaller code points are counted, and larger ones passed over. -/
theorem foldl_pass {basic m : Nat} {front back : List Nat} (hfront : ∀ c ∈ front, c < m)
    (hback : ∀ c ∈ back, m < c) (p : Progress) :
    (front ++ m :: back).foldl (pass basic m) p
      = ⟨0, p.count + 1, adapt (p.delta + front.length) (p.count + 1) (p.count = basic),
          p.output ++ digits p.bias 36 (p.delta + front.length)⟩ := by
  have hcounted : ∀ p : Progress, front.foldl (pass basic m) p
      = { p with delta := p.delta + front.length } := by
    induction front with
    | nil => exact fun p => rfl
    | cons c front ih =>
      obtain ⟨hc, hfront⟩ := List.forall_mem_cons.1 hfront
      intro p
      rw [List.foldl_cons, ih hfront, pass, if_pos hc, List.length_cons]
      simp only [Nat.add_assoc, Nat.add_comm 1]
  have hpassed : ∀ p : Progress, back.foldl (pass basic m) p = p := by
    induction back with
    | nil => exact fun p => rfl
    | cons c back ih =>
      obtain ⟨hc, hback⟩ := List.forall_mem_cons.1 hback
      intro p
      rw [List.foldl_cons, pass, if_neg (by omega), if_neg (by omega), ih hback]
  rw [List.foldl_append, hcounted, List.foldl_cons, pass, if_neg (Nat.lt_irrefl m), if_pos rfl,
    hpassed]

theorem output_describe {codes front ms : List Nat} (hcodes : codes = front ++ ms)
    (hsorted : codes.Pairwise (· < ·)) {before n : Nat} (hn : ∀ m ∈ ms, n ≤ m) {p : Progress}
    (hcount : p.count = front.length)
    (hstart : (front = [] ∧ n = before ∧ p.delta = 0) ∨
      (front ≠ [] ∧ n = before + 1 ∧ p.delta = 1)) :
    (describe 0 codes n ms p).output = p.output ++ ascent p.bias before front.length ms := by
  induction ms generalizing front before n p with
  | nil => rw [describe, ascent, List.append_nil]
  | cons m ms ih =>
    obtain ⟨hm, hms⟩ := List.forall_mem_cons.1 hn
    obtain ⟨-, hrest, hcross⟩ := List.pairwise_append.1 (hcodes ▸ hsorted)
    obtain ⟨hback, -⟩ := List.pairwise_cons.1 hrest
    have hfront : ∀ c ∈ front, c < m := fun c hc => hcross c hc m List.mem_cons_self
    -- the characters before this one make up for the place that is gone by
    have hdelta : p.delta + (m - n) * (p.count + 1) + front.length
        = (m - before) * (front.length + 1) := by
      rcases hstart with ⟨rfl, rfl, hzero⟩ | ⟨-, rfl, hone⟩
      · rw [hzero, hcount]
        simp
      · obtain ⟨k, rfl⟩ := Nat.exists_eq_add_of_le hm
        rw [hone, hcount, show before + 1 + k - (before + 1) = k by omega,
          show before + 1 + k - before = k + 1 by omega]
        ring
    rw [describe, hcodes, foldl_pass hfront hback]
    dsimp only
    rw [hdelta, hcount, ← hcodes, ascent, ← List.append_assoc]
    have hnext := @ih (front ++ [m]) (by rw [hcodes]; simp) m (m + 1) hback
      ⟨1, front.length + 1, adapt ((m - before) * (front.length + 1)) (front.length + 1)
        (front.length = 0), p.output ++ digits p.bias 36 ((m - before) * (front.length + 1))⟩
      (by simp) (.inr ⟨by simp, rfl, rfl⟩)
    simpa using hnext

theorem eraseDups_eq_self {l : List Nat} (h : l.Pairwise (· < ·)) : l.eraseDups = l := by
  induction l with
  | nil => rfl
  | cons a l ih =>
    obtain ⟨ha, hl⟩ := List.pairwise_cons.1 h
    have hkept : (l.filter fun b => !b == a) = l := by
      refine List.filter_eq_self.2 fun b hb => ?_
      have := ha b hb
      simp
      omega
    rw [List.eraseDups_cons, hkept, ih hl]

/-- **A label whose characters stand in the order of their code points**, none of them in ASCII. -/
structure IsAscending (label : List Char) : Prop where
  sorted : (label.map Char.toNat).Pairwise (· < ·)
  outside : ∀ c ∈ label, 128 ≤ c.toNat

/-- Such a label is described from left to right. -/
theorem encode_eq_ascent {label : List Char} (h : IsAscending label) :
    encode label = ascent 72 128 0 (label.map Char.toNat) := by
  have hbasic : label.filter (fun c => c.toNat < 128) = [] :=
    List.filter_eq_nil_iff.2 fun c hc => by simpa using h.outside c hc
  have hcodes : ∀ m ∈ label.map Char.toNat, 128 ≤ m := List.forall_mem_map.2 h.outside
  have hothers : (((label.map Char.toNat).filter fun c => 128 ≤ c).mergeSort (· ≤ ·)).eraseDups
      = label.map Char.toNat := by
    rw [List.filter_eq_self.2 fun m hm => by simpa using hcodes m hm,
      List.mergeSort_eq_self (· ≤ ·) (h.sorted.imp Nat.le_of_lt), eraseDups_eq_self h.sorted]
  unfold encode
  dsimp only
  rw [hbasic, hothers]
  exact output_describe rfl h.sorted hcodes rfl (.inl ⟨rfl, rfl, rfl⟩)

/-! ## Reading -/

theorem mem_ascent {bias before place : Nat} {ms : List Nat} {c : Char}
    (h : c ∈ ascent bias before place ms) : ∃ d, d < 36 ∧ c = digit d := by
  induction ms generalizing bias before place with
  | nil => cases h
  | cons m ms ih =>
    rw [ascent] at h
    rcases List.mem_append.1 h with h | h
    · exact mem_digits h
    · exact ih h

/-- A distance that leads to the end of what was restored. -/
theorem add?_step {label : List Char} {before bias : Nat} {c : Char} (h : before ≤ c.toNat) :
    (⟨label, before, label.length, bias⟩ : Restored).add?
        ((c.toNat - before) * (label.length + 1))
      = some ⟨label ++ [c], c.toNat, label.length + 1,
          adapt ((c.toNat - before) * (label.length + 1)) (label.length + 1)
            (label.length = 0)⟩ := by
  have hdiv : (label.length + (c.toNat - before) * (label.length + 1)) / (label.length + 1)
      = c.toNat - before := by
    rw [Nat.add_mul_div_right _ _ (Nat.succ_pos _), Nat.div_eq_of_lt (Nat.lt_succ_self _),
      Nat.zero_add]
  have hmod : (label.length + (c.toNat - before) * (label.length + 1)) % (label.length + 1)
      = label.length := by
    rw [Nat.add_mul_mod_self_right, Nat.mod_eq_of_lt (Nat.lt_succ_self _)]
  have hvalid : c.toNat.isValidChar := c.valid
  unfold Restored.add?
  dsimp only
  rw [hdiv, hmod, Nat.add_sub_cancel' h, if_pos hvalid, Char.ofNat_toNat, List.take_length,
    List.drop_length]

theorem restore?_ascent {label cs : List Char} {before bias : Nat}
    (hsorted : (cs.map Char.toNat).Pairwise (· < ·)) (hbefore : ∀ c ∈ cs, before ≤ c.toNat) :
    restore? ⟨label, before, label.length, bias⟩ 36 1 0
      (ascent bias before label.length (cs.map Char.toNat)) = some (label ++ cs) := by
  induction cs generalizing label before bias with
  | nil =>
    rw [List.map_nil, ascent, restore?, if_pos rfl, List.append_nil]
  | cons c cs ih =>
    rw [List.map_cons, List.pairwise_cons] at hsorted
    obtain ⟨hc, hcs⟩ := hsorted
    have hnext : ∀ d ∈ cs, c.toNat ≤ d.toNat := fun d hd =>
      Nat.le_of_lt (hc _ (List.mem_map_of_mem hd))
    have hlength : (label ++ [c]).length = label.length + 1 := List.length_append
    have hrest := @ih (label ++ [c]) c.toNat
      (adapt ((c.toNat - before) * (label.length + 1)) (label.length + 1) (label.length = 0))
      hcs hnext
    rw [hlength, List.append_assoc, List.singleton_append] at hrest
    rw [List.map_cons, ascent, restore?_digits, Nat.zero_add, Nat.mul_one,
      add?_step (hbefore c List.mem_cons_self), Option.bind_some, hrest]

/-- **A label in the order of its code points is restored** from its form. -/
theorem decode?_encode {label : List Char} (h : IsAscending label) :
    decode? (encode label) = some label := by
  have hhyphen : '-' ∉ (encode label).reverse := by
    intro hmem
    rw [encode_eq_ascent h, List.mem_reverse] at hmem
    obtain ⟨d, hd, heq⟩ := mem_ascent hmem
    exact digit_ne_hyphen hd heq.symm
  unfold decode?
  rw [Text.cutFirst_eq_none hhyphen]
  dsimp only
  rw [encode_eq_ascent h]
  exact @restore?_ascent [] label 128 72 h.sorted h.outside

/-! ## Lengths -/

/-- **Wide steps have long forms.** With steps of at least `step` and `skipped` characters left out,
the distances are so large that every other character has three digits or more. -/
theorem three_mul_le_length_ascent {step skipped : Nat} {bias before place : Nat} {ms : List Nat}
    (hsteps : (before :: ms).IsChain fun a b => a + step ≤ b)
    (hlarge : 911 ≤ step * (place + skipped + 1)) :
    3 * (ms.length - skipped) ≤ (ascent bias before place ms).length := by
  induction ms generalizing bias before place skipped with
  | nil => simp
  | cons m ms ih =>
    obtain ⟨hm, hms⟩ := List.isChain_cons_cons.1 hsteps
    rw [ascent, List.length_append, List.length_cons]
    cases skipped with
    | zero =>
      have hq : 911 ≤ (m - before) * (place + 1) :=
        hlarge.trans (Nat.mul_le_mul_right _ (by omega))
      have hfirst := three_le_length_digits bias 36 hq
      have hrest := @ih 0 (adapt ((m - before) * (place + 1)) (place + 1) (place = 0)) m (place + 1)
        hms (hlarge.trans (Nat.mul_le_mul_left _ (by omega)))
      omega
    | succ skipped =>
      have hrest := @ih skipped (adapt ((m - before) * (place + 1)) (place + 1) (place = 0)) m
        (place + 1) hms (by rwa [show place + 1 + skipped + 1 = place + (skipped + 1) + 1 by omega])
      omega

end SearchRest.Punycode
