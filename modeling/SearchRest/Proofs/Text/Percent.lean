/-
Percent-encoding read back.

The encoded form of a text is made of the kept characters, `%` and upper-case
hexadecimal digits. Byte by byte the reader undoes the writer, provided that
`%` itself is not kept, so the reader answers the text that was written.
-/
import SearchRest.Proofs.Text.Utf8
import SearchRest.Text.Percent

set_option autoImplicit false

namespace SearchRest.Text

theorem toNat_charOfNat {n : Nat} (h : n.isValidChar) : (Char.ofNat n).toNat = n := by
  rw [Char.ofNat, dif_pos h]
  rfl

/-- What is checked for the first characters holds of them. -/
@[elab_as_elim]
theorem holds_of_lt {k : Nat} {p : Char → Prop} (c : Char) (hc : c.toNat < k)
    (h : ∀ n : Fin k, p (Char.ofNat n)) : p c := by
  have hchar := h ⟨c.toNat, hc⟩
  rwa [Char.ofNat_toNat] at hchar

/-! ## Characters of the encoded form -/

/-- The digits of escapes. -/
def isUpperHexDigit (c : Char) : Bool := ('0' ≤ c && c ≤ '9') || ('A' ≤ c && c ≤ 'F')

theorem isUpperHexDigit_upperHexDigit {n : Nat} (h : n < 16) :
    isUpperHexDigit (upperHexDigit n) = true := by
  have : ∀ n : Fin 16, isUpperHexDigit (upperHexDigit n) = true := by decide
  exact this ⟨n, h⟩

theorem hexValue?_upperHexDigit {n : Nat} (h : n < 16) : hexValue? (upperHexDigit n) = some n := by
  have : ∀ n : Fin 16, hexValue? (upperHexDigit n) = some n.val := by decide
  exact this ⟨n, h⟩

theorem mem_escapedByte {b : UInt8} {c : Char} (h : c ∈ escapedByte b) :
    c = '%' ∨ isUpperHexDigit c = true := by
  have hb := b.toNat_lt
  simp only [escapedByte, List.mem_cons, List.not_mem_nil, or_false] at h
  rcases h with rfl | rfl | rfl
  · exact .inl rfl
  · exact .inr (isUpperHexDigit_upperHexDigit (by omega))
  · exact .inr (isUpperHexDigit_upperHexDigit (by omega))

theorem mem_percentByte {keep : Char → Bool} {b : UInt8} {c : Char} (h : c ∈ percentByte keep b) :
    (c.toNat < 128 ∧ keep c = true) ∨ c = '%' ∨ isUpperHexDigit c = true := by
  unfold percentByte at h
  split at h
  · rename_i hkeep
    rw [List.mem_singleton.1 h]
    refine .inl ⟨?_, hkeep.2⟩
    rw [toNat_charOfNat (.inl (by omega))]
    exact hkeep.1
  · exact .inr (mem_escapedByte h)

theorem mem_percentEncodeKeeping {keep : Char → Bool} {cs : List Char} {c : Char}
    (h : c ∈ percentEncodeKeeping keep cs) :
    (c.toNat < 128 ∧ keep c = true) ∨ c = '%' ∨ isUpperHexDigit c = true := by
  obtain ⟨b, -, hb⟩ := List.mem_flatMap.1 h
  exact mem_percentByte hb

theorem isUnreserved_of_isUpperHexDigit {c : Char} (h : isUpperHexDigit c = true) :
    isUnreserved c = true := by
  rcases Bool.or_eq_true_iff.1 h with h | h
  · simp [isUnreserved, h]
  · have hZ : c ≤ 'Z' := Char.le_trans (of_decide_eq_true (Bool.and_eq_true_iff.1 h).2) (by decide)
    simp [isUnreserved, of_decide_eq_true (Bool.and_eq_true_iff.1 h).1, hZ]

theorem toNat_lt_of_isUnreserved {c : Char} (h : isUnreserved c = true) : c.toNat < 128 := by
  simp only [isUnreserved, Bool.or_eq_true, Bool.and_eq_true, decide_eq_true_eq] at h
  rcases h with (((((h | h) | h) | rfl) | rfl) | rfl) | rfl
  · exact Nat.lt_of_le_of_lt h.2 (by decide)
  · exact Nat.lt_of_le_of_lt h.2 (by decide)
  · exact Nat.lt_of_le_of_lt h.2 (by decide)
  · decide
  · decide
  · decide
  · decide

/-- The encoded form of a text holds nothing that separates. -/
theorem mem_percentEncodeChars {cs : List Char} {c : Char} (h : c ∈ percentEncodeChars cs) :
    isUnreserved c = true ∨ c = '%' := by
  rcases mem_percentEncodeKeeping h with h | h | h
  · exact .inl h.2
  · exact .inr h
  · exact .inl (isUnreserved_of_isUpperHexDigit h)

theorem not_mem_percentEncodeChars {sep : Char} (hsep : isUnreserved sep = false ∧ sep ≠ '%')
    (cs : List Char) : sep ∉ percentEncodeChars cs := by
  intro hmem
  rcases mem_percentEncodeChars hmem with h | h
  · rw [hsep.1] at h
    cases h
  · exact hsep.2 h

/-- A character of ASCII is one byte. -/
theorem utf8EncodeChar_of_lt {c : Char} (h : c.toNat < 128) :
    String.utf8EncodeChar c = [UInt8.ofNat c.toNat] := by
  unfold String.utf8EncodeChar
  rw [if_pos (show c.val.toNat ≤ 0x7f from Nat.le_of_lt_succ h)]
  rfl

/-- A byte below 128 in the form of a character is that character. -/
theorem charOfNat_of_mem_utf8EncodeChar {c : Char} {b : UInt8} (h : b ∈ String.utf8EncodeChar c)
    (hb : b.toNat < 128) : Char.ofNat b.toNat = c := by
  have hbytes : ∀ {n : Nat}, 128 ≤ n → n < 256 → b ≠ UInt8.ofNat n := by
    rintro n hn hlt rfl
    rw [toNat_ofNat_of_lt hlt] at hb
    omega
  have hvalid : c.toNat < 0xd800 ∨ (0xdfff < c.toNat ∧ c.toNat < 0x110000) := c.valid
  have hc : Char.ofNat c.toNat = c := Char.ofNat_toNat c
  unfold String.utf8EncodeChar at h
  simp only [show c.val.toNat = c.toNat from rfl] at h
  generalize c.toNat = n at h hvalid hc
  -- in the longer forms every byte is 128 or more
  split at h
  · obtain rfl := List.mem_singleton.1 h
    rw [toNat_ofNat_of_lt (by omega), hc]
  · split at h
    · simp only [List.mem_cons, List.not_mem_nil, or_false] at h
      rcases h with h | h <;> exact absurd h (hbytes (by omega) (by omega))
    · split at h
      · simp only [List.mem_cons, List.not_mem_nil, or_false] at h
        rcases h with h | h | h <;> exact absurd h (hbytes (by omega) (by omega))
      · simp only [List.mem_cons, List.not_mem_nil, or_false] at h
        rcases h with h | h | h | h <;> exact absurd h (hbytes (by omega) (by omega))

/-- Encoding adds nothing but escapes to the characters of a text. -/
theorem mem_of_mem_percentEncodeKeeping {keep : Char → Bool} {cs : List Char} {c : Char}
    (h : c ∈ percentEncodeKeeping keep cs) : c ∈ cs ∨ c = '%' ∨ isUpperHexDigit c = true := by
  obtain ⟨b, hb, hc⟩ := List.mem_flatMap.1 h
  unfold percentByte at hc
  split at hc
  · rename_i hkeep
    obtain ⟨d, hd, hbd⟩ := List.mem_flatMap.1 hb
    rw [List.mem_singleton.1 hc, charOfNat_of_mem_utf8EncodeChar hbd hkeep.1]
    exact .inl hd
  · exact .inr (mem_escapedByte hc)

/-- Characters of ASCII that are kept stand for themselves. -/
theorem percentEncodeKeeping_eq_self {keep : Char → Bool} {cs : List Char}
    (h : ∀ c ∈ cs, c.toNat < 128 ∧ keep c = true) : percentEncodeKeeping keep cs = cs := by
  induction cs with
  | nil => rfl
  | cons c cs ih =>
    obtain ⟨hc, hcs⟩ := List.forall_mem_cons.1 h
    have hbyte : (UInt8.ofNat c.toNat).toNat = c.toNat := toNat_ofNat_of_lt (by omega)
    have hone : percentByte keep (UInt8.ofNat c.toNat) = [c] := by
      rw [percentByte, hbyte, Char.ofNat_toNat, if_pos hc]
    have hrest := ih hcs
    rw [percentEncodeKeeping] at hrest ⊢
    rw [encodeChars, List.flatMap_cons, utf8EncodeChar_of_lt hc.1, List.flatMap_append,
      List.flatMap_singleton, hone, ← encodeChars, hrest]
    rfl

/-! ## Reading back -/

theorem percentDecodeBytes_cons {c : Char} (h : c ≠ '%') (rest : List Char) :
    percentDecodeBytes (c :: rest) = String.utf8EncodeChar c ++ percentDecodeBytes rest := by
  rw [percentDecodeBytes]
  rintro _ _ _ rfl
  exact absurd rfl h

theorem percentDecodeBytes_escapedByte (b : UInt8) (rest : List Char) :
    percentDecodeBytes (escapedByte b ++ rest) = b :: percentDecodeBytes rest := by
  have hb := b.toNat_lt
  have hhigh := hexValue?_upperHexDigit (n := b.toNat / 16) (by omega)
  have hlow := hexValue?_upperHexDigit (n := b.toNat % 16) (by omega)
  simp only [escapedByte, List.cons_append, List.nil_append, percentDecodeBytes, hhigh, hlow]
  rw [show b.toNat / 16 * 16 + b.toNat % 16 = b.toNat by omega, UInt8.ofNat_toNat]

/-- Where `%` itself is escaped, every byte is read back. -/
theorem percentDecodeBytes_percentByte {keep : Char → Bool} (hkeep : keep '%' = false) (b : UInt8)
    (rest : List Char) :
    percentDecodeBytes (percentByte keep b ++ rest) = b :: percentDecodeBytes rest := by
  unfold percentByte
  split
  · rename_i h
    have hne : Char.ofNat b.toNat ≠ '%' := fun he => by simp [he, hkeep] at h
    have hcode : (Char.ofNat b.toNat).toNat = b.toNat := toNat_charOfNat (.inl (by omega))
    rw [List.singleton_append, percentDecodeBytes_cons hne,
      utf8EncodeChar_of_lt (by rw [hcode]; exact h.1), hcode, UInt8.ofNat_toNat]
    rfl
  · exact percentDecodeBytes_escapedByte b rest

/-- What was encoded is read back in front of anything. -/
theorem percentDecodeBytes_percentEncodeKeeping_append {keep : Char → Bool}
    (hkeep : keep '%' = false) (cs rest : List Char) :
    percentDecodeBytes (percentEncodeKeeping keep cs ++ rest)
      = encodeChars cs ++ percentDecodeBytes rest := by
  rw [percentEncodeKeeping]
  induction encodeChars cs with
  | nil => rfl
  | cons b bs ih =>
    rw [List.flatMap_cons, List.append_assoc, percentDecodeBytes_percentByte hkeep, ih,
      List.cons_append]

theorem percentDecodeBytes_percentEncodeKeeping {keep : Char → Bool} (hkeep : keep '%' = false)
    (cs : List Char) : percentDecodeBytes (percentEncodeKeeping keep cs) = encodeChars cs := by
  have happend := percentDecodeBytes_percentEncodeKeeping_append hkeep cs []
  rwa [List.append_nil, percentDecodeBytes, List.append_nil] at happend

/-- A text without escapes stands for itself. -/
theorem percentDecodeChars_eq_self {cs : List Char} (h : '%' ∉ cs) :
    percentDecodeChars cs = some cs := by
  have hbytes : percentDecodeBytes cs = encodeChars cs := by
    induction cs with
    | nil => rfl
    | cons c cs ih =>
      have hc : c ≠ '%' := fun he => h (he ▸ List.mem_cons_self)
      rw [percentDecodeBytes_cons hc, ih fun hm => h (List.mem_cons_of_mem _ hm)]
      rfl
  rw [percentDecodeChars, hbytes, decodeChars?_encodeChars]

/-- **What was percent-encoded is read back.** -/
theorem percentDecodeChars_percentEncodeChars (cs : List Char) :
    percentDecodeChars (percentEncodeChars cs) = some cs := by
  rw [percentDecodeChars, percentEncodeChars, percentDecodeBytes_percentEncodeKeeping (by decide),
    decodeChars?_encodeChars]

/-- Only the empty text is encoded as the empty text. -/
theorem percentEncodeChars_ne_nil {cs : List Char} (h : cs ≠ []) : percentEncodeChars cs ≠ [] := by
  intro hnil
  have hread := percentDecodeChars_percentEncodeChars cs
  have hempty := percentDecodeChars_percentEncodeChars []
  rw [hnil] at hread
  rw [show percentEncodeChars [] = [] from rfl, hread] at hempty
  exact h (Option.some.inj hempty)

end SearchRest.Text
