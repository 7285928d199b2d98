/-
UTF-8 read back, and its order.

Reading takes a text apart again: the first byte of the form of a character
says how many bytes follow and bounds the second one, and the bits are put
together in the order in which they were taken. The same case split over the
four lengths shows that the forms of two characters differ at some byte, and
that the lesser character has the lesser byte there, so that texts stand in the
order of their bytes.
-/
import SearchRest.Text.Utf8

set_option autoImplicit false

namespace SearchRest.Text

/-! ## Reading back -/

theorem toNat_ofNat_of_lt {n : Nat} (h : n < 256) : (UInt8.ofNat n).toNat = n := by
  rw [UInt8.toNat_ofNat']
  exact Nat.mod_eq_of_lt h

/-- Reads six more bits from each of the bytes that continue a sequence. -/
theorem continuation_ofNat (more acc used n : Nat) (rest : Bytes) :
    continuation (more + 1) acc used (UInt8.ofNat (n % 64 + 0x80) :: rest)
      = continuation more (acc * 64 + n % 64) (used + 1) rest := by
  have hb : (UInt8.ofNat (n % 64 + 0x80)).toNat = n % 64 + 0x80 := toNat_ofNat_of_lt (by omega)
  rw [continuation, hb, if_pos (by omega), Nat.add_sub_cancel]

theorem nextChar_of_leadByte {a b : UInt8} {more low high : Nat} {rest : Bytes}
    (hl : leadByte a.toNat = some (more, low, high)) (hb : low ≤ b.toNat ∧ b.toNat ≤ high) :
    nextChar a (b :: rest)
      = (continuation (more - 1) (a.toNat % Nat.pow 2 (6 - more) * 64 + (b.toNat - 0x80)) 1
          rest).map (Option.map Char.ofNat) id := by
  have ha : ¬ a.toNat < 0x80 := by
    intro h
    have hn : leadByte a.toNat = none := by
      unfold leadByte
      repeat rw [if_neg (by omega)]
    rw [hn] at hl
    cases hl
  unfold nextChar
  rw [if_neg ha, hl]
  simp only [if_pos hb]
  rfl

theorem leadByte_two {a : Nat} (h : 0xc2 ≤ a ∧ a ≤ 0xdf) : leadByte a = some (1, 0x80, 0xbf) := by
  rw [leadByte, if_pos h]

theorem leadByte_three {a b : Nat} (h : 0xe0 ≤ a ∧ a ≤ 0xef) (hb : 0x80 ≤ b ∧ b ≤ 0xbf)
    (hlow : a = 0xe0 → 0xa0 ≤ b) (hhigh : a = 0xed → b ≤ 0x9f) :
    ∃ low high, leadByte a = some (2, low, high) ∧ low ≤ b ∧ b ≤ high := by
  unfold leadByte
  rw [if_neg (by omega)]
  split
  · rename_i h0
    exact ⟨_, _, rfl, hlow h0, hb.2⟩
  · split
    · rename_i h1
      exact ⟨_, _, rfl, hb.1, hhigh h1⟩
    · rw [if_pos (by omega)]
      exact ⟨_, _, rfl, hb.1, hb.2⟩

theorem leadByte_four {a b : Nat} (h : 0xf0 ≤ a ∧ a ≤ 0xf4) (hb : 0x80 ≤ b ∧ b ≤ 0xbf)
    (hlow : a = 0xf0 → 0x90 ≤ b) (hhigh : a = 0xf4 → b ≤ 0x8f) :
    ∃ low high, leadByte a = some (3, low, high) ∧ low ≤ b ∧ b ≤ high := by
  unfold leadByte
  rw [if_neg (by omega), if_neg (by omega), if_neg (by omega), if_neg (by omega)]
  split
  · rename_i h0
    exact ⟨_, _, rfl, hlow h0, hb.2⟩
  · split
    · exact ⟨_, _, rfl, hb.1, hb.2⟩
    · rw [if_pos (by omega)]
      exact ⟨_, _, rfl, hb.1, hhigh (by omega)⟩

/-- The form of a character is read as that character, whatever follows it. -/
theorem nextChar_utf8EncodeChar (c : Char) (rest : Bytes) :
    ∃ a tail, String.utf8EncodeChar c = a :: tail ∧
      nextChar a (tail ++ rest) = (some c, tail.length) := by
  have hvalid : c.toNat < 0xd800 ∨ (0xdfff < c.toNat ∧ c.toNat < 0x110000) := c.valid
  have hc : Char.ofNat c.toNat = c := Char.ofNat_toNat c
  unfold String.utf8EncodeChar
  simp only [show c.val.toNat = c.toNat from rfl]
  generalize c.toNat = n at hvalid hc
  -- one byte
  split
  · have ha : (UInt8.ofNat n).toNat = n := toNat_ofNat_of_lt (by omega)
    refine ⟨_, _, rfl, ?_⟩
    unfold nextChar
    rw [ha, if_pos (by omega), hc]
    rfl
  -- two bytes
  · split
    · have ha : (UInt8.ofNat (n / 64 % 32 + 0xc0)).toNat = n / 64 + 0xc0 := by
        rw [toNat_ofNat_of_lt (by omega)]; omega
      have hb : (UInt8.ofNat (n % 64 + 0x80)).toNat = n % 64 + 0x80 := toNat_ofNat_of_lt (by omega)
      refine ⟨_, _, rfl, ?_⟩
      rw [List.cons_append, nextChar_of_leadByte (by rw [ha]; exact leadByte_two (by omega))
        (by rw [hb]; omega), ha, hb]
      have hcode : (n / 64 + 0xc0) % Nat.pow 2 (6 - 1) * 64 + (n % 64 + 0x80 - 0x80) = n := by
        simp only [Nat.pow_eq, Nat.reducePow, Nat.reduceSub]; omega
      rw [hcode]
      simp [continuation, hc]
    -- three bytes, with the bounds that keep out short forms and surrogates
    · split
      · have ha : (UInt8.ofNat (n / 4096 % 16 + 0xe0)).toNat = n / 4096 + 0xe0 := by
          rw [toNat_ofNat_of_lt (by omega)]; omega
        have hb : (UInt8.ofNat (n / 64 % 64 + 0x80)).toNat = n / 64 % 64 + 0x80 :=
          toNat_ofNat_of_lt (by omega)
        obtain ⟨low, high, hl, hr⟩ := leadByte_three (a := n / 4096 + 0xe0)
          (b := n / 64 % 64 + 0x80) (by omega) (by omega) (by omega) (by omega)
        refine ⟨_, _, rfl, ?_⟩
        rw [List.cons_append,
          nextChar_of_leadByte (by rw [ha]; exact hl) (by rw [hb]; exact hr), ha, hb]
        have hcode : ((n / 4096 + 0xe0) % Nat.pow 2 (6 - 2) * 64 + (n / 64 % 64 + 0x80 - 0x80)) * 64
            + n % 64 = n := by
          simp only [Nat.pow_eq, Nat.reducePow, Nat.reduceSub]; omega
        rw [List.cons_append, continuation_ofNat, hcode]
        simp [continuation, hc]
      -- four bytes, with the bound of the last plane
      · have ha : (UInt8.ofNat (n / 262144 % 8 + 0xf0)).toNat = n / 262144 + 0xf0 := by
          rw [toNat_ofNat_of_lt (by omega)]; omega
        have hb : (UInt8.ofNat (n / 4096 % 64 + 0x80)).toNat = n / 4096 % 64 + 0x80 :=
          toNat_ofNat_of_lt (by omega)
        obtain ⟨low, high, hl, hr⟩ := leadByte_four (a := n / 262144 + 0xf0)
          (b := n / 4096 % 64 + 0x80) (by omega) (by omega) (by omega) (by omega)
        refine ⟨_, _, rfl, ?_⟩
        rw [List.cons_append,
          nextChar_of_leadByte (by rw [ha]; exact hl) (by rw [hb]; exact hr), ha, hb]
        have hcode : (((n / 262144 + 0xf0) % Nat.pow 2 (6 - 3) * 64
            + (n / 4096 % 64 + 0x80 - 0x80)) * 64 + n / 64 % 64) * 64 + n % 64 = n := by
          simp only [Nat.pow_eq, Nat.reducePow, Nat.reduceSub]; omega
        rw [List.cons_append, List.cons_append, continuation_ofNat, continuation_ofNat, hcode]
        simp [continuation, hc]

/-- **What was written is read.** -/
theorem decodeChars?_encodeChars (cs : List Char) : decodeChars? (encodeChars cs) = some cs := by
  induction cs with
  | nil => rw [encodeChars, List.flatMap_nil, decodeChars?]
  | cons c cs ih =>
    obtain ⟨a, tail, hform, hnext⟩ := nextChar_utf8EncodeChar c (encodeChars cs)
    have hcons : encodeChars (c :: cs) = a :: (tail ++ encodeChars cs) := by
      rw [encodeChars, List.flatMap_cons, hform]; rfl
    rw [hcons, decodeChars?, hnext]
    simp only [List.drop_left, ih, Option.map_some]

/-! ## Order -/

theorem ofNat_cons_lt {n m : Nat} (hm : m < 256) (h : n < m) (xs ys : Bytes) :
    UInt8.ofNat n :: xs < UInt8.ofNat m :: ys := by
  refine List.cons_lt_cons_iff.2 (.inl ?_)
  rw [UInt8.lt_iff_toNat_lt, toNat_ofNat_of_lt (by omega), toNat_ofNat_of_lt hm]
  exact h

theorem ofNat_cons_lt_of_eq {n m : Nat} (h : n = m) {xs ys : Bytes} (hlt : xs < ys) :
    UInt8.ofNat n :: xs < UInt8.ofNat m :: ys :=
  List.cons_lt_cons_iff.2 (.inr ⟨by rw [h], hlt⟩)

/-- The forms of two characters differ at some byte, and there the form of the lesser one is
less. -/
theorem utf8EncodeChar_append_lt {c d : Char} (h : c.toNat < d.toNat) (xs ys : Bytes) :
    String.utf8EncodeChar c ++ xs < String.utf8EncodeChar d ++ ys := by
  have hd : d.toNat < 0xd800 ∨ (0xdfff < d.toNat ∧ d.toNat < 0x110000) := d.valid
  unfold String.utf8EncodeChar
  simp only [show c.val.toNat = c.toNat from rfl, show d.val.toNat = d.toNat from rfl]
  generalize c.toNat = n at h
  generalize d.toNat = m at h hd
  -- forms of different lengths differ at the first byte
  split
  · split
    · exact ofNat_cons_lt (by omega) h _ _
    split
    · exact ofNat_cons_lt (by omega) (by omega) _ _
    split <;> exact ofNat_cons_lt (by omega) (by omega) _ _
  split
  · rw [if_neg (by omega)]
    split
    -- of forms of one length, the first byte in which they differ decides
    · by_cases h1 : n / 64 < m / 64
      · exact ofNat_cons_lt (by omega) (by omega) _ _
      · refine ofNat_cons_lt_of_eq (by omega) ?_
        exact ofNat_cons_lt (by omega) (by omega) _ _
    split <;> exact ofNat_cons_lt (by omega) (by omega) _ _
  split
  · rw [if_neg (by omega), if_neg (by omega)]
    split
    · by_cases h1 : n / 4096 < m / 4096
      · exact ofNat_cons_lt (by omega) (by omega) _ _
      · refine ofNat_cons_lt_of_eq (by omega) ?_
        by_cases h2 : n / 64 < m / 64
        · exact ofNat_cons_lt (by omega) (by omega) _ _
        · refine ofNat_cons_lt_of_eq (by omega) ?_
          exact ofNat_cons_lt (by omega) (by omega) _ _
    · exact ofNat_cons_lt (by omega) (by omega) _ _
  · rw [if_neg (by omega), if_neg (by omega), if_neg (by omega)]
    by_cases h1 : n / 262144 < m / 262144
    · exact ofNat_cons_lt (by omega) (by omega) _ _
    · refine ofNat_cons_lt_of_eq (by omega) ?_
      by_cases h2 : n / 4096 < m / 4096
      · exact ofNat_cons_lt (by omega) (by omega) _ _
      · refine ofNat_cons_lt_of_eq (by omega) ?_
        by_cases h3 : n / 64 < m / 64
        · exact ofNat_cons_lt (by omega) (by omega) _ _
        · refine ofNat_cons_lt_of_eq (by omega) ?_
          exact ofNat_cons_lt (by omega) (by omega) _ _

theorem encodeChars_lt {cs ds : List Char} (h : cs < ds) : encodeChars cs < encodeChars ds := by
  induction cs generalizing ds with
  | nil =>
    cases ds with
    | nil => exact absurd h (List.lt_irrefl _)
    | cons d ds =>
      obtain ⟨a, tail, hform, -⟩ := nextChar_utf8EncodeChar d []
      rw [encodeChars, encodeChars, List.flatMap_cons, hform]
      exact List.nil_lt_cons _ _
  | cons c cs ih =>
    cases ds with
    | nil => exact absurd h (List.not_lt_nil _)
    | cons d ds =>
      rw [encodeChars, encodeChars, List.flatMap_cons, List.flatMap_cons]
      rcases List.cons_lt_cons_iff.1 h with hlt | ⟨rfl, hlt⟩
      · exact utf8EncodeChar_append_lt hlt _ _
      · exact List.append_left_lt (ih hlt)

/-- **The order of texts is the order of their bytes.** -/
theorem encode_lt_encode {s t : String} : encode s < encode t ↔ s < t := by
  rw [String.lt_iff]
  refine ⟨fun h => ?_, encodeChars_lt⟩
  by_cases hlt : s.toList < t.toList
  · exact hlt
  · rcases List.le_iff_lt_or_eq.1 (List.not_lt.1 hlt) with hgt | heq
    · exact absurd h (List.lt_asymm (encodeChars_lt hgt))
    · rw [encode, encode, heq] at h
      exact absurd h (List.lt_irrefl _)

/-- The same with equality allowed. -/
theorem encode_le_encode {s t : String} : encode s ≤ encode t ↔ s ≤ t := by
  rw [← List.not_lt, encode_lt_encode, String.not_lt]

end SearchRest.Text
