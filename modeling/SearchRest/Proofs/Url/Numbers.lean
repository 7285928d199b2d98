/-
Numbers in the hosts of addresses, read back.

An address of version 4 is written as four decimal numbers, one of version 6 as
groups of hexadecimal digits with the longest run of zeros left out. Both are
read as the numbers they were written from. For version 6 the double colon is
the first one in the text, since no group is empty, and it stands for just the
zeros that were left out, since their number is what is missing to eight.
-/
import Mathlib.Algebra.Group.Nat.Defs
import SearchRest.Proofs.Lists
import SearchRest.Proofs.Text.Pieces
import SearchRest.Url.Host

set_option autoImplicit false

namespace SearchRest

/-! ## Digits -/

namespace Text

/-- **Numerals in a base**: digits of numbers below it, the last one for what is left over when the
number is divided by the base. -/
structure IsNumeral (base : Nat) (digit : Nat → Char) (numeral : Nat → List Char) : Prop where
  one_lt : 1 < base
  eq : ∀ n, numeral n
    = if n < base then [digit n] else numeral (n / base) ++ [digit (n % base)]

theorem isNumeral_decimalDigits : IsNumeral 10 digitChar decimalDigits where
  one_lt := by decide
  eq n := by rw [decimalDigits]

theorem isNumeral_hexDigits : IsNumeral 16 hexDigit hexDigits where
  one_lt := by decide
  eq n := by rw [hexDigits]

/-- A numeral is made of digits. -/
theorem IsNumeral.mem {base : Nat} {digit : Nat → Char} {numeral : Nat → List Char}
    (h : IsNumeral base digit numeral) {n : Nat} {c : Char} (hc : c ∈ numeral n) :
    ∃ d, d < base ∧ c = digit d := by
  have hbase := h.one_lt
  induction n using Nat.strongRecOn with
  | ind n ih =>
    rw [h.eq] at hc
    split at hc
    · rename_i hn
      exact ⟨n, hn, List.mem_singleton.1 hc⟩
    · rename_i hn
      rcases List.mem_append.1 hc with hc | hc
      · exact ih (n / base) (Nat.div_lt_self (by omega) hbase) hc
      · exact ⟨n % base, Nat.mod_lt _ (by omega), List.mem_singleton.1 hc⟩

theorem mem_decimalDigits {n : Nat} {c : Char} (h : c ∈ decimalDigits n) :
    ∃ d, d < 10 ∧ c = digitChar d :=
  isNumeral_decimalDigits.mem h

theorem mem_hexDigits {n : Nat} {c : Char} (h : c ∈ hexDigits n) :
    ∃ d, d < 16 ∧ c = hexDigit d :=
  isNumeral_hexDigits.mem h

theorem hexDigits_ne_nil (n : Nat) : hexDigits n ≠ [] := by
  rw [hexDigits]
  split
  · exact List.cons_ne_nil _ _
  · exact fun h => List.cons_ne_nil _ _ (List.append_eq_nil_iff.1 h).2

/-- A number has no more digits than it takes. -/
theorem length_hexDigits_le {n k : Nat} (h : n < 16 ^ (k + 1)) : (hexDigits n).length ≤ k + 1 := by
  induction k generalizing n with
  | zero =>
    rw [hexDigits, if_pos (by simpa using h)]
    exact Nat.le_refl 1
  | succ k ih =>
    rw [hexDigits]
    split
    · exact Nat.le_add_left _ _
    · have hdiv : n / 16 < 16 ^ (k + 1) := Nat.div_lt_of_lt_mul (by rwa [Nat.pow_succ'] at h)
      have := ih hdiv
      rw [List.length_append, List.length_singleton]
      omega

/-- Only the numeral of zero begins with a zero. -/
theorem head?_decimalDigits {n : Nat} (h : 0 < n) : (decimalDigits n).head? ≠ some '0' := by
  induction n using Nat.strongRecOn with
  | ind n ih =>
    rw [decimalDigits]
    split
    · rename_i hn
      have : ∀ d : Fin 10, 0 < d.val → [digitChar d].head? ≠ some '0' := by decide
      exact this ⟨n, hn⟩ h
    · rename_i hn
      rw [List.head?_append_of_ne_nil _ (decimalDigits_ne_nil _)]
      exact ih (n / 10) (by omega) (by omega)

end Text

namespace Host

theorem digitsIn_append_singleton {base : Nat} {cs : List Char} {n d : Nat} {c : Char}
    (hcs : digitsIn base cs = some n) (hc : Text.hexValue? c = some d) (hd : d < base) :
    digitsIn base (cs ++ [c]) = some (n * base + d) := by
  unfold digitsIn at hcs ⊢
  rw [List.foldlM_append, hcs]
  simp [hc, hd]

theorem digitsIn_singleton {base d : Nat} {c : Char} (hc : Text.hexValue? c = some d)
    (hd : d < base) : digitsIn base [c] = some d := by
  simp [digitsIn, hc, hd]

theorem hexValue?_digitChar {d : Nat} (h : d < 10) :
    Text.hexValue? (Text.digitChar d) = some d := by
  have : ∀ d : Fin 10, Text.hexValue? (Text.digitChar d) = some d.val := by decide
  exact this ⟨d, h⟩

theorem hexValue?_hexDigit {d : Nat} (h : d < 16) : Text.hexValue? (Text.hexDigit d) = some d := by
  have : ∀ d : Fin 16, Text.hexValue? (Text.hexDigit d) = some d.val := by decide
  exact this ⟨d, h⟩

/-- **A numeral is read back** in its base. -/
theorem digitsIn_numeral {base : Nat} {digit : Nat → Char} {numeral : Nat → List Char}
    (h : Text.IsNumeral base digit numeral)
    (hdigit : ∀ d, d < base → Text.hexValue? (digit d) = some d) (n : Nat) :
    digitsIn base (numeral n) = some n := by
  have hbase := h.one_lt
  induction n using Nat.strongRecOn with
  | ind n ih =>
    rw [h.eq]
    split
    · rename_i hn
      exact digitsIn_singleton (hdigit n hn) hn
    · rename_i hn
      have hmod : n % base < base := Nat.mod_lt _ (by omega)
      have hfront := ih (n / base) (Nat.div_lt_self (by omega) hbase)
      rw [digitsIn_append_singleton hfront (hdigit _ hmod) hmod, Nat.div_add_mod']

theorem digitsIn_decimalDigits (n : Nat) : digitsIn 10 (Text.decimalDigits n) = some n :=
  digitsIn_numeral Text.isNumeral_decimalDigits (fun _ => hexValue?_digitChar) n

theorem digitsIn_hexDigits (n : Nat) : digitsIn 16 (Text.hexDigits n) = some n :=
  digitsIn_numeral Text.isNumeral_hexDigits (fun _ => hexValue?_hexDigit) n

/-- A number with so many digits is below the power of the base. -/
theorem digitsIn_lt {base : Nat} {cs : List Char} {n : Nat} (h : digitsIn base cs = some n) :
    n < base ^ cs.length := by
  have general : ∀ (cs : List Char) (acc n : Nat),
      cs.foldlM (fun n c => (Text.hexValue? c).bind fun d =>
        if d < base then some (n * base + d) else none) acc = some n →
      n < (acc + 1) * base ^ cs.length := by
    intro cs
    induction cs with
    | nil =>
      intro acc n h
      obtain rfl := Option.some.inj h
      simp
    | cons c cs ih =>
      intro acc n h
      rw [List.foldlM_cons] at h
      obtain ⟨next, hnext, h⟩ := Option.bind_eq_some_iff.1 h
      obtain ⟨d, -, hd⟩ := Option.bind_eq_some_iff.1 hnext
      split at hd
      · rename_i hlt
        obtain rfl := Option.some.inj hd
        calc n < (acc * base + d + 1) * base ^ cs.length := ih _ _ h
          _ ≤ ((acc + 1) * base) * base ^ cs.length := by
              refine Nat.mul_le_mul_right _ ?_
              rw [Nat.add_mul, Nat.one_mul]
              omega
          _ = (acc + 1) * base ^ (c :: cs).length := by
              rw [List.length_cons, Nat.pow_succ', Nat.mul_assoc]
      · cases hd
  simpa using general cs 0 n h

/-! ## Version 4 -/

/-- A decimal numeral is read as a part of an address: it does not look like one of another
base. -/
theorem ipv4Part?_decimalDigits (n : Nat) : ipv4Part? (Text.decimalDigits n) = some n := by
  -- zero is the only numeral that begins with a zero, and it is read in base ten all the same
  by_cases hn : n = 0
  · subst hn
    decide +kernel
  · have hhead := Text.head?_decimalDigits (Nat.pos_of_ne_zero hn)
    have hdigits := digitsIn_decimalDigits n
    cases hcs : Text.decimalDigits n with
    | nil => exact absurd hcs (Text.decimalDigits_ne_nil n)
    | cons c cs =>
      rw [hcs] at hhead hdigits
      have hc : c ≠ '0' := fun he => hhead (by rw [he]; rfl)
      unfold ipv4Part?
      split
      · rename_i heq
        cases heq
      · rename_i heq
        exact absurd (List.cons.inj heq).1 hc
      · rename_i heq
        exact absurd (List.cons.inj heq).1 hc
      · rename_i heq
        exact absurd (List.cons.inj heq).1 hc
      · exact hdigits

theorem dot_not_mem_decimalDigits (n : Nat) : '.' ∉ Text.decimalDigits n := fun h =>
  absurd (Text.isDigit_of_mem_decimalDigits h) (by decide)

/-- The parts of a text of decimal numerals with dots are the numerals. -/
theorem dotted_joined {l : List Nat} (hl : l ≠ []) :
    dotted (Text.joined '.' (l.map Text.decimalDigits)) = l.map Text.decimalDigits := by
  have hne : l.map Text.decimalDigits ≠ [] := fun h => hl (List.map_eq_nil_iff.1 h)
  have hpieces := Text.pieces_joined hne fun p hp => by
    obtain ⟨n, -, rfl⟩ := List.mem_map.1 hp
    exact dot_not_mem_decimalDigits n
  unfold dotted
  rw [hpieces]
  refine if_neg ?_
  rintro ⟨hlast, -⟩
  obtain ⟨n, -, hn⟩ := List.mem_map.1 (List.mem_of_getLast? hlast)
  exact Text.decimalDigits_ne_nil n hn

/-- The four bytes of an address. -/
def ipv4Bytes (n : Nat) : List Nat :=
  [n / 16777216 % 256, n / 65536 % 256, n / 256 % 256, n % 256]

theorem dotted_ipv4Text (n : Nat) : dotted (ipv4Text n) = (ipv4Bytes n).map Text.decimalDigits :=
  dotted_joined (l := ipv4Bytes n) (List.cons_ne_nil _ _)

/-- **An address of version 4 is read back.** -/
theorem ipv4?_ipv4Text {n : Nat} (h : n < 256 ^ 4) : ipv4? (ipv4Text n) = some n := by
  have hnumbers : ((ipv4Bytes n).map Text.decimalDigits).mapM ipv4Part? = some (ipv4Bytes n) :=
    mapM_map_eq_some fun m _ => ipv4Part?_decimalDigits m
  have hlast : (ipv4Bytes n).getLast? = some (n % 256) := rfl
  have hbytes : (ipv4Bytes n).dropLast.all (· ≤ 255) = true := by
    simp only [ipv4Bytes, List.dropLast, List.all_cons, List.all_nil, Bool.and_true,
      Bool.and_eq_true, decide_eq_true_eq]
    omega
  have hvalue : ((n / 16777216 % 256 * 256 + n / 65536 % 256) * 256 + n / 256 % 256) * 256
      + n % 256 = n := by
    have : n < 4294967296 := h
    omega
  have hsmall : n % 256 < Nat.pow 256 (4 - (ipv4Bytes n).dropLast.length) :=
    Nat.mod_lt _ (by decide)
  unfold ipv4?
  rw [dotted_ipv4Text]
  simp only [hnumbers, hlast]
  rw [if_neg (by simp [ipv4Bytes]), if_pos ⟨hsmall, hbytes⟩]
  have hfold : (ipv4Bytes n).dropLast.foldl (fun n b => n * 256 + b) 0
      = (n / 16777216 % 256 * 256 + n / 65536 % 256) * 256 + n / 256 % 256 := by
    simp [ipv4Bytes]
  rw [hfold]
  exact congrArg some hvalue

theorem foldl_bytes_lt {bytes : List Nat} (h : ∀ b ∈ bytes, b ≤ 255) (acc : Nat) :
    bytes.foldl (fun n b => n * 256 + b) acc < (acc + 1) * 256 ^ bytes.length := by
  induction bytes generalizing acc with
  | nil => simp
  | cons b bytes ih =>
    obtain ⟨hb, hbytes⟩ := List.forall_mem_cons.1 h
    calc bytes.foldl (fun n b => n * 256 + b) (acc * 256 + b)
        < (acc * 256 + b + 1) * 256 ^ bytes.length := ih hbytes _
      _ ≤ ((acc + 1) * 256) * 256 ^ bytes.length := Nat.mul_le_mul_right _ (by omega)
      _ = (acc + 1) * 256 ^ (b :: bytes).length := by
          rw [List.length_cons, Nat.pow_succ', Nat.mul_assoc]

/-- The number of an address of version 4 has 32 bits. -/
theorem ipv4?_lt {cs : List Char} {n : Nat} (h : ipv4? cs = some n) : n < 256 ^ 4 := by
  unfold ipv4? at h
  dsimp only at h
  split at h
  · cases h
  rename_i hparts
  split at h
  · cases h
  rename_i numbers hnumbers
  split at h
  · cases h
  rename_i last hlast
  split at h
  · rename_i hok
    obtain rfl := Option.some.inj h
    obtain ⟨hsmall, hbytes⟩ := hok
    have hlength : numbers.dropLast.length ≤ 3 := by
      have := (mapM_eq_some_iff.1 hnumbers).length_eq
      rw [List.length_dropLast]
      omega
    have hfold := foldl_bytes_lt (fun b hb => of_decide_eq_true (List.all_eq_true.1 hbytes b hb)) 0
    rw [Nat.zero_add, Nat.one_mul] at hfold
    rw [Nat.pow_eq] at hsmall ⊢
    -- some bytes in front, and a last number that fills the rest of the four
    generalize numbers.dropLast.foldl (fun n b => n * 256 + b) 0 = front at hfold
    generalize numbers.dropLast.length = k at *
    calc front * 256 ^ (4 - k) + last < (front + 1) * 256 ^ (4 - k) := by
          rw [Nat.add_mul, Nat.one_mul]
          omega
      _ ≤ 256 ^ k * 256 ^ (4 - k) := Nat.mul_le_mul_right _ hfold
      _ = 256 ^ 4 := by rw [← Nat.pow_add, show k + (4 - k) = 4 by omega]
  · cases h

/-! ## Version 6 -/

/-- **The groups of an address of version 6**: eight numbers of 16 bits. -/
def IsGroups (l : List Nat) : Prop := l.length = 8 ∧ ∀ g ∈ l, g < 65536

theorem group?_hexDigits {n : Nat} (h : n < 65536) : group? (Text.hexDigits n) = some n := by
  have hlength := Text.length_hexDigits_le (n := n) (k := 3) h
  unfold group?
  rw [if_neg, digitsIn_hexDigits]
  rintro (hempty | hlong)
  · exact Text.hexDigits_ne_nil n (List.isEmpty_iff.1 hempty)
  · omega

theorem group?_lt {cs : List Char} {n : Nat} (h : group? cs = some n) : n < 65536 := by
  unfold group? at h
  split at h
  · cases h
  · rename_i hlength
    have hle : cs.length ≤ 4 := by
      refine Nat.le_of_not_lt fun hlt => hlength (.inr hlt)
    exact Nat.lt_of_lt_of_le (digitsIn_lt h) (Nat.pow_le_pow_right (by decide) hle)

theorem byte?_le {cs : List Char} {n : Nat} (h : byte? cs = some n) : n ≤ 255 := by
  unfold byte? at h
  split at h
  · cases h
  · exact of_decide_eq_true (Option.filter_eq_some_iff.1 h).2

/-- What is read as groups are numbers of 16 bits. -/
theorem groups?_lt {bytesAtEnd : Bool} {cs : List Char} {l : List Nat}
    (h : groups? bytesAtEnd cs = some l) : ∀ g ∈ l, g < 65536 := by
  have hgroups : ∀ {parts : List (List Char)} {l : List Nat}, parts.mapM group? = some l →
      ∀ g ∈ l, g < 65536 := by
    intro parts l hl g hg
    obtain ⟨p, -, hp⟩ := exists_left_of_forall₂ (mapM_eq_some_iff.1 hl) hg
    exact group?_lt hp
  unfold groups? at h
  dsimp only at h
  split at h
  · obtain rfl := Option.some.inj h
    exact List.forall_mem_nil _
  split at h
  · obtain ⟨front, hfront, h⟩ := Option.bind_eq_some_iff.1 h
    obtain ⟨back, hback, h⟩ := Option.bind_eq_some_iff.1 h
    obtain rfl := Option.some.inj h
    intro g hg
    rcases List.mem_append.1 hg with hg | hg
    · exact hgroups hfront g hg
    · unfold dottedGroups? at hback
      split at hback
      · rename_i a b c d hbytes
        have hle : ∀ n ∈ [a, b, c, d], n ≤ 255 := by
          intro n hn
          obtain ⟨p, -, hp⟩ := exists_left_of_forall₂ (mapM_eq_some_iff.1 hbytes) hn
          exact byte?_le hp
        simp only [List.mem_cons, List.not_mem_nil, or_false, forall_eq_or_imp, forall_eq] at hle
        obtain rfl := Option.some.inj hback
        simp only [List.mem_cons, List.not_mem_nil, or_false] at hg
        omega
      · cases hback
  · exact hgroups h

/-- **What is read as an address of version 6 are eight groups.** -/
theorem isGroups_of_ipv6? {cs : List Char} {l : List Nat} (h : ipv6? cs = some l) : IsGroups l := by
  unfold ipv6? at h
  split at h
  · obtain ⟨left, hleft, h⟩ := Option.bind_eq_some_iff.1 h
    obtain ⟨right, hright, h⟩ := Option.bind_eq_some_iff.1 h
    split at h
    · obtain rfl := Option.some.inj h
      constructor
      · simp only [List.length_append, List.length_replicate]
        omega
      · intro g hg
        simp only [List.mem_append, List.mem_replicate] at hg
        rcases hg with (hg | hg) | hg
        · exact groups?_lt hleft g hg
        · omega
        · exact groups?_lt hright g hg
    · cases h
  · obtain ⟨hl, hlength⟩ := Option.filter_eq_some_iff.1 h
    exact ⟨of_decide_eq_true hlength, groups?_lt hl⟩

/-! ### Groups with colons -/

/-- Groups as they are shown. -/
def shown (l : List Nat) : List Char := Text.joined ':' (l.map Text.hexDigits)

theorem not_mem_hexDigits {n : Nat} : ':' ∉ Text.hexDigits n ∧ '.' ∉ Text.hexDigits n := by
  have : ∀ d : Fin 16, ':' ≠ Text.hexDigit d ∧ '.' ≠ Text.hexDigit d := by decide
  constructor
  · intro h
    obtain ⟨d, hd, heq⟩ := Text.mem_hexDigits h
    exact (this ⟨d, hd⟩).1 heq
  · intro h
    obtain ⟨d, hd, heq⟩ := Text.mem_hexDigits h
    exact (this ⟨d, hd⟩).2 heq

/-- **Groups with colons between them are read back.** -/
theorem groups?_shown {l : List Nat} (hl : ∀ g ∈ l, g < 65536) (bytesAtEnd : Bool) :
    groups? bytesAtEnd (shown l) = some l := by
  by_cases hnil : l = []
  · subst hnil
    rfl
  have hne : l.map Text.hexDigits ≠ [] := fun h => hnil (List.map_eq_nil_iff.1 h)
  have hpieces : Text.pieces ':' (shown l) = l.map Text.hexDigits := by
    refine Text.pieces_joined hne fun p hp => ?_
    obtain ⟨n, -, rfl⟩ := List.mem_map.1 hp
    exact not_mem_hexDigits.1
  have hempty : ¬ (shown l).isEmpty = true := by
    intro h
    rw [List.isEmpty_iff.1 h] at hpieces
    cases l with
    | nil => exact hnil rfl
    | cons n l => exact Text.hexDigits_ne_nil n (List.cons.inj hpieces).1.symm
  have hlast : ((l.map Text.hexDigits).getLast?.getD []).contains '.' = false := by
    cases hlast : (l.map Text.hexDigits).getLast? with
    | none => rfl
    | some p =>
      obtain ⟨n, -, rfl⟩ := List.mem_map.1 (List.mem_of_getLast? hlast)
      simpa using not_mem_hexDigits.2
  unfold groups?
  rw [if_neg hempty]
  dsimp only
  rw [hpieces, if_neg (by rw [hlast]; simp)]
  exact mapM_map_eq_some fun g hg => group?_hexDigits (hl g hg)

/-! ### The double colon -/

theorem cutDoubleColon_cons {c : Char} (h : c ≠ ':') (cs : List Char) :
    cutDoubleColon (c :: cs)
      = (cutDoubleColon cs).map fun (before, after) => (c :: before, after) := by
  rw [cutDoubleColon]
  rintro _ rfl
  exact absurd rfl h

theorem cutDoubleColon_colon_cons {c : Char} (h : c ≠ ':') (cs : List Char) :
    cutDoubleColon (':' :: c :: cs)
      = (cutDoubleColon (c :: cs)).map fun (before, after) => (':' :: before, after) := by
  rw [cutDoubleColon]
  rintro _ - heq
  exact h (List.cons.inj heq).1

/-- A text without a colon in front is passed over. -/
theorem cutDoubleColon_append {p : List Char} (h : ':' ∉ p) (cs : List Char) :
    cutDoubleColon (p ++ cs)
      = (cutDoubleColon cs).map fun (before, after) => (p ++ before, after) := by
  induction p with
  | nil => simp
  | cons c p ih =>
    have hc : c ≠ ':' := fun he => h (he ▸ List.mem_cons_self)
    rw [List.cons_append, cutDoubleColon_cons hc, ih fun hm => h (List.mem_cons_of_mem _ hm)]
    cases cutDoubleColon cs <;> rfl

/-- So are groups with single colons between them. -/
theorem cutDoubleColon_shown_append (l : List Nat) (cs : List Char) :
    cutDoubleColon (shown l ++ cs)
      = (cutDoubleColon cs).map fun (before, after) => (shown l ++ before, after) := by
  induction l with
  | nil => simp [shown, Text.joined]
  | cons n l ih =>
    cases l with
    | nil => exact cutDoubleColon_append not_mem_hexDigits.1 cs
    | cons m l =>
      obtain ⟨c, digits, hdigits⟩ := List.exists_cons_of_ne_nil (Text.hexDigits_ne_nil m)
      have hc : c ≠ ':' := fun he =>
        (not_mem_hexDigits (n := m)).1 (by rw [hdigits, he]; exact List.mem_cons_self)
      -- what stands behind the colon is no second one
      obtain ⟨tail, htail⟩ : ∃ tail, shown (m :: l) = c :: tail := by
        cases l with
        | nil => exact ⟨digits, hdigits⟩
        | cons k l =>
          refine ⟨digits ++ ':' :: shown (k :: l), ?_⟩
          show Text.hexDigits m ++ ':' :: shown (k :: l) = _
          rw [hdigits]
          rfl
      have hshown : shown (n :: m :: l) = Text.hexDigits n ++ ':' :: shown (m :: l) := rfl
      rw [hshown, List.append_assoc, cutDoubleColon_append not_mem_hexDigits.1, htail,
        List.cons_append, List.cons_append, cutDoubleColon_colon_cons hc, ← List.cons_append,
        ← htail, ih]
      cases cutDoubleColon cs <;> simp

/-! ### The run of zeros -/

/-- What is left out is a run of zeros. -/
theorem longestZeros_spec (l : List Nat) :
    (longestZeros l).2 = 0 ∨ (longestZeros l).2 = zeros (l.drop (longestZeros l).1) := by
  -- the best run so far is kept as its place and its length
  have general : ∀ (places : List Nat) (best : Nat × Nat),
      (best.2 = 0 ∨ best.2 = zeros (l.drop best.1)) →
      let run := places.foldl (fun best i =>
        if best.2 < zeros (l.drop i) then (i, zeros (l.drop i)) else best) best
      run.2 = 0 ∨ run.2 = zeros (l.drop run.1) := by
    intro places
    induction places with
    | nil => exact fun best h => h
    | cons i places ih =>
      intro best h
      refine ih _ ?_
      dsimp only
      split
      · exact .inr rfl
      · exact h
  exact general _ (0, 0) (.inl rfl)

theorem zeros_cons (n : Nat) (l : List Nat) :
    zeros (n :: l) = if n = 0 then zeros l + 1 else 0 := by
  unfold zeros
  rw [List.takeWhile_cons]
  by_cases h : n = 0 <;> simp [h]

theorem eq_replicate_append_drop (l : List Nat) :
    l = List.replicate (zeros l) 0 ++ l.drop (zeros l) := by
  induction l with
  | nil => rfl
  | cons n l ih =>
    rw [zeros_cons]
    by_cases h : n = 0
    · rw [if_pos h, List.replicate_succ, List.drop_succ_cons, List.cons_append, ← ih, h]
    · rw [if_neg h]
      rfl

/-- A list around the zeros that are left out of it. -/
theorem take_append_zeros_append_drop {l : List Nat} (h : 2 ≤ (longestZeros l).2) :
    l.take (longestZeros l).1 ++ List.replicate (longestZeros l).2 0
      ++ l.drop ((longestZeros l).1 + (longestZeros l).2) = l := by
  have hzeros : (longestZeros l).2 = zeros (l.drop (longestZeros l).1) := by
    rcases longestZeros_spec l with h0 | h0
    · omega
    · exact h0
  have hrun := eq_replicate_append_drop (l.drop (longestZeros l).1)
  rw [← hzeros, List.drop_drop] at hrun
  rw [List.append_assoc, ← hrun, List.take_append_drop]

/-- **An address of version 6 is read back.** -/
theorem ipv6?_ipv6Text {l : List Nat} (h : IsGroups l) : ipv6? (ipv6Text l) = some l := by
  obtain ⟨hlength, hl⟩ := h
  by_cases hzeros : 2 ≤ (longestZeros l).2
  -- the run is left out, and what is missing to eight groups is its length
  · have hparts := take_append_zeros_append_drop hzeros
    generalize hstart : (longestZeros l).1 = start at hparts
    generalize hrun : (longestZeros l).2 = run at hparts hzeros
    have htext : ipv6Text l
        = shown (l.take start) ++ ':' :: ':' :: shown (l.drop (start + run)) := by
      unfold ipv6Text
      rw [← hstart, ← hrun]
      exact if_pos (hrun ▸ hzeros)
    have hleft : groups? false (shown (l.take start)) = some (l.take start) :=
      groups?_shown (fun g hg => hl g (List.mem_of_mem_take hg)) false
    have hright : groups? true (shown (l.drop (start + run))) = some (l.drop (start + run)) :=
      groups?_shown (fun g hg => hl g (List.mem_of_mem_drop hg)) true
    have hcount := congrArg List.length hparts
    simp only [List.length_append, List.length_replicate] at hcount
    have hcut : cutDoubleColon (ipv6Text l)
        = some (shown (l.take start), shown (l.drop (start + run))) := by
      rw [htext, cutDoubleColon_shown_append, cutDoubleColon]
      simp
    unfold ipv6?
    rw [hcut]
    simp only [hleft, hright]
    show (if (l.take start).length + (l.drop (start + run)).length ≤ 7 then
      some (l.take start ++ List.replicate
        (8 - (l.take start).length - (l.drop (start + run)).length) 0 ++ l.drop (start + run))
      else none) = some l
    have hmissing : 8 - (l.take start).length - (l.drop (start + run)).length = run := by omega
    rw [if_pos (by omega), hmissing, hparts]
  -- all eight groups are shown, and there is no double colon
  · have htext : ipv6Text l = shown l := if_neg hzeros
    have hcut : cutDoubleColon (ipv6Text l) = none := by
      have := cutDoubleColon_shown_append l []
      rw [List.append_nil, cutDoubleColon] at this
      rw [htext, this]
      rfl
    unfold ipv6?
    rw [hcut, htext]
    simp only [groups?_shown hl true, Option.filter_some]
    simp [hlength]

end Host

end SearchRest
