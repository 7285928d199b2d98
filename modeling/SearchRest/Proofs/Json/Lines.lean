/-
Lines of JSON values.

A body of lines is cut by whoever reads it at every line feed, so a value has
to keep to its own line whatever texts and keys it holds. It does: nothing
below the space stands in a compact text. Inside strings such characters are
escaped, and an escape, a number, a literal and the punctuation are all made of
characters from the space on. In UTF-8 a byte below the space comes from such a
character only, so the one line feed of a line is the one at its end.
-/
import Mathlib.Data.List.Basic
import SearchRest.Body
import SearchRest.Proofs.Text.Percent
import SearchRest.Proofs.Url.Numbers

set_option autoImplicit false

namespace SearchRest

/-! ## Texts without control characters -/

namespace Text

/-- **Whether no character is below the space**, as line ends and other control characters are. -/
def NoControls (cs : List Char) : Prop := ∀ c ∈ cs, 0x20 ≤ c.toNat

@[simp]
theorem noControls_nil : NoControls [] := fun _ h => (List.not_mem_nil h).elim

@[simp]
theorem noControls_cons {c : Char} {cs : List Char} :
    NoControls (c :: cs) ↔ 0x20 ≤ c.toNat ∧ NoControls cs :=
  List.forall_mem_cons

@[simp]
theorem noControls_append {cs ds : List Char} :
    NoControls (cs ++ ds) ↔ NoControls cs ∧ NoControls ds :=
  List.forall_mem_append

theorem NoControls.flatMap {f : Char → List Char} (h : ∀ c, NoControls (f c)) (cs : List Char) :
    NoControls (cs.flatMap f) := by
  intro c hc
  obtain ⟨d, -, hd⟩ := List.mem_flatMap.1 hc
  exact h d c hd

theorem noControls_decimalDigits (n : Nat) : NoControls (decimalDigits n) := by
  intro c hc
  obtain ⟨d, hd, rfl⟩ := mem_decimalDigits hc
  have : ∀ d : Fin 10, 0x20 ≤ (digitChar d).toNat := by decide
  exact this ⟨d, hd⟩

theorem toNat_hexDigit_ge {n : Nat} (h : n < 16) : 0x20 ≤ (hexDigit n).toNat := by
  have : ∀ n : Fin 16, 0x20 ≤ (hexDigit n).toNat := by decide
  exact this ⟨n, h⟩

theorem noControls_signedDecimal : ∀ n : Int, NoControls (signedDecimal n).toList
  | .ofNat n => by
    rw [signedDecimal, decimal, String.toList_ofList]
    exact noControls_decimalDigits n
  | .negSucc n => by
    rw [signedDecimal, String.toList_ofList]
    exact noControls_cons.2 ⟨by decide, noControls_decimalDigits (n + 1)⟩

/-- No byte of a text without control characters is below the space: a byte of a longer form is
above all of ASCII, and one below is its character. -/
theorem NoControls.le_of_mem_encodeChars {cs : List Char} (h : NoControls cs) {b : UInt8}
    (hb : b ∈ encodeChars cs) : 0x20 ≤ b.toNat := by
  obtain ⟨c, hc, hbc⟩ := List.mem_flatMap.1 hb
  by_contra hlt
  have hchar : Char.ofNat b.toNat = c := charOfNat_of_mem_utf8EncodeChar hbc (by omega)
  have hcode : (Char.ofNat b.toNat).toNat = b.toNat := toNat_charOfNat (.inl (by omega))
  have hle := h c hc
  rw [← hchar, hcode] at hle
  exact hlt hle

end Text

/-! ## Numbers -/

namespace FloatLayout

open Text

theorem noControls_positionalText (keepsPoint : Bool) {digits : List Char} (h : NoControls digits)
    (before : Int) : NoControls (positionalText keepsPoint digits before) := by
  have hzeros : ∀ n, NoControls (List.replicate n '0') := by
    intro n c hc
    rw [List.eq_of_mem_replicate hc]
    decide
  unfold positionalText
  split
  · simp [hzeros, h]
  · split
    · have htake : NoControls (digits.take before.toNat) := fun c hc => h c (List.mem_of_mem_take hc)
      have hdrop : NoControls (digits.drop before.toNat) := fun c hc => h c (List.mem_of_mem_drop hc)
      simp [htake, hdrop]
    · cases keepsPoint <;> simp [hzeros, h]

theorem noControls_exponentText (plusSign : Bool) {digits : List Char} (h : NoControls digits)
    (leading : Int) : NoControls (exponentText plusSign digits leading) := by
  have hsign : NoControls (if leading < 0 then ['-'] else if plusSign then ['+'] else []) := by
    split
    · simp
    · cases plusSign <;> simp
  have hexponent := noControls_decimalDigits leading.natAbs
  rcases digits with _ | ⟨d, _ | ⟨e, ds⟩⟩
  · simp [exponentText, hsign, hexponent]
  · have hd := (noControls_cons.1 h).1
    simp [exponentText, hsign, hexponent, hd]
  · obtain ⟨hd, hds⟩ := noControls_cons.1 h
    simp [exponentText, hsign, hexponent, hd, noControls_cons.1 hds]

theorem noControls_write (layout : FloatLayout) (x : Binary64) :
    NoControls (layout.write x).toList := by
  have hsign : NoControls (if x.negative then ['-'] else []) := by
    cases x.negative <;> simp
  have hdigits := noControls_decimalDigits (x.shortest layout.tie).digits
  unfold write
  split
  · simp
  · dsimp only
    split
    · simp [hsign]
    · rw [String.toList_ofList, noControls_append]
      refine ⟨hsign, ?_⟩
      split
      · exact noControls_positionalText _ hdigits _
      · exact noControls_exponentText _ hdigits _

end FloatLayout

/-! ## Compact texts -/

namespace Json

open Text

/-- A character below the space is escaped in a string, whichever form its escape has. -/
theorem noControls_writeChar (c : Char) : NoControls (writeChar c) := by
  unfold writeChar
  split
  · simp
  · simp
  · simp
  · simp
  · simp
  · simp
  · simp
  · split
    · have hhigh := toNat_hexDigit_ge (n := c.toNat / 16) (by omega)
      have hlow := toNat_hexDigit_ge (n := c.toNat % 16) (by omega)
      simp [hhigh, hlow]
    · rename_i hc
      simpa using hc

theorem noControls_writeText (s : String) : NoControls (writeText s) := by
  simp [writeText, NoControls.flatMap noControls_writeChar]

theorem noControls_writeNumber : ∀ n : JsonNumber, NoControls (writeNumber n)
  | .integer n => noControls_signedDecimal n
  | .float x => by
    rw [writeNumber]
    split
    · exact FloatLayout.noControls_write FloatLayout.json x
    · simp

mutual
/-- **The compact text of a value has no control characters**, whatever stands in its strings and
keys. -/
theorem noControls_writeChars : ∀ v : Json, NoControls (writeChars v)
  | .null => by simp [writeChars]
  | .bool true => by simp [writeChars]
  | .bool false => by simp [writeChars]
  | .number n => noControls_writeNumber n
  | .text s => noControls_writeText s
  | .array items => by simp [writeChars, noControls_writeItems items]
  | .object entries => by simp [writeChars, noControls_writeEntries entries]

theorem noControls_writeItems : ∀ vs : List Json, NoControls (writeItems vs)
  | [] => noControls_nil
  | [v] => noControls_writeChars v
  | v :: w :: vs => by
    simp [writeItems, noControls_writeChars v, noControls_writeItems (w :: vs)]

theorem noControls_writeEntries : ∀ entries : List (String × Json),
    NoControls (writeEntries entries)
  | [] => noControls_nil
  | [(k, v)] => by simp [writeEntries, noControls_writeText k, noControls_writeChars v]
  | (k, v) :: e :: rest => by
    simp [writeEntries, noControls_writeText k, noControls_writeChars v,
      noControls_writeEntries (e :: rest)]
end

end Json

/-! ## Lines -/

namespace Text

/-- The byte of a line feed. -/
def lineFeed : UInt8 := 0x0a

/-- Cutting at the line feeds gives the lines back, and an empty piece behind the last one. -/
theorem splitOn_flatMap_lineFeed {lines : List Bytes} (h : ∀ l ∈ lines, lineFeed ∉ l) :
    (lines.flatMap (· ++ [lineFeed])).splitOn lineFeed = lines ++ [[]] := by
  induction lines with
  | nil => rfl
  | cons l ls ih =>
    obtain ⟨hl, hls⟩ := List.forall_mem_cons.1 h
    rw [List.flatMap_cons, List.append_assoc, List.singleton_append,
      List.splitOn_append_cons_self_of_not_mem hl, ih hls, List.cons_append]

theorem count_flatMap_lineFeed {lines : List Bytes} (h : ∀ l ∈ lines, lineFeed ∉ l) :
    (lines.flatMap (· ++ [lineFeed])).count lineFeed = lines.length := by
  induction lines with
  | nil => rfl
  | cons l ls ih =>
    obtain ⟨hl, hls⟩ := List.forall_mem_cons.1 h
    rw [List.flatMap_cons, List.count_append, List.count_append, ih hls,
      List.count_eq_zero_of_not_mem hl, List.count_singleton_self, Nat.zero_add, Nat.add_comm,
      List.length_cons]

end Text

namespace CanonicalJson

theorem encode_write (v : CanonicalJson) :
    Text.encode v.write = Text.encodeChars v.value.writeChars := by
  rw [Text.encode, write, Json.write, String.toList_ofList]

theorem le_of_mem_encode_write {v : CanonicalJson} {b : UInt8} (hb : b ∈ Text.encode v.write) :
    0x20 ≤ b.toNat := by
  rw [encode_write] at hb
  exact (Json.noControls_writeChars v.value).le_of_mem_encodeChars hb

theorem lineFeed_not_mem_encode_write (v : CanonicalJson) :
    Text.lineFeed ∉ Text.encode v.write :=
  fun h => absurd (le_of_mem_encode_write h) (by decide)

end CanonicalJson

namespace Body

theorem bytes_lines (vs : List CanonicalJson) :
    (lines vs).bytes = (vs.map fun v => Text.encode v.write).flatMap (· ++ [Text.lineFeed]) := by
  have hend : Text.encodeChars ['\n'] = [Text.lineFeed] := by decide
  have hline : ∀ v : CanonicalJson,
      (v.value.writeChars ++ ['\n']).flatMap String.utf8EncodeChar
        = Text.encode v.write ++ [Text.lineFeed] := by
    intro v
    rw [v.encode_write, ← hend]
    exact List.flatMap_append
  rw [bytes, chars, Text.encodeChars, List.flatMap_assoc, List.flatMap_map]
  simp only [hline]

/-- **A body of lines has one line feed for each value, at the end of its line**: cutting it at the
line feeds gives the compact texts of the values in order, and what is left behind the last one is
empty. No value reaches into another line, since no byte of a compact text is below the space. -/
theorem splitOn_bytes_lines (vs : List CanonicalJson) :
    (lines vs).bytes = (vs.map fun v => Text.encode v.write).flatMap (· ++ [Text.lineFeed]) ∧
      (lines vs).bytes.count Text.lineFeed = vs.length ∧
      (lines vs).bytes.splitOn Text.lineFeed = (vs.map fun v => Text.encode v.write) ++ [[]] ∧
      ∀ v ∈ vs, ∀ b ∈ Text.encode v.write, 0x20 ≤ b.toNat := by
  have hlines : ∀ l ∈ vs.map fun v => Text.encode v.write, Text.lineFeed ∉ l := by
    intro l hl
    obtain ⟨v, -, rfl⟩ := List.mem_map.1 hl
    exact v.lineFeed_not_mem_encode_write
  refine ⟨bytes_lines vs, ?_, ?_, fun v _ b hb => CanonicalJson.le_of_mem_encode_write hb⟩
  · rw [bytes_lines, Text.count_flatMap_lineFeed hlines, List.length_map]
  · rw [bytes_lines, Text.splitOn_flatMap_lineFeed hlines]

end Body

end SearchRest
