/-
Compact texts cut into lexemes.

A number or a literal has no end of its own: it goes on until a character comes
that cannot be part of it, or the text ends. So a scanner that has gone through
the text of a value may still be inside of its last lexeme, and what can be said
is that it would end with the lexemes of the value. A mark, such as a comma or a
line feed, ends what is in front of it, and the scanner stands between two
lexemes again. That is enough to put the texts of values together. Inside a
string every character is collected under its code, whether it is escaped or not.
-/
import Mathlib.Data.Fintype.Basic
import Mathlib.Data.List.TakeWhile
import Mathlib.Tactic.FinCases
import SearchRest.Json.Lexeme
import SearchRest.Json.Printing
import SearchRest.Proofs.Lists
import SearchRest.Proofs.Text.Numeral

set_option autoImplicit false

namespace SearchRest

/-- Whether the number is an integer of 64 bits, with sign or without. -/
def JsonNumber.IsWord : JsonNumber → Prop
  | .integer n => -((Text.maxInteger : Int) + 1) ≤ n ∧ n ≤ Text.maxWord
  | .float _ => False

namespace Json

/-! ## Values of integers, and their lexemes -/

mutual
/-- **Whether every number within the value is an integer of 64 bits**, with sign or without. -/
def IsIntegral : Json → Prop
  | .array items => AreIntegral items
  | .object entries => HasIntegral entries
  | .number n => n.IsWord
  | .null => True
  | .bool _ => True
  | .text _ => True

/-- Whether every value of a list is one of integers. -/
def AreIntegral : List Json → Prop
  | [] => True
  | v :: vs => IsIntegral v ∧ AreIntegral vs

/-- Whether the value of every entry is one of integers. -/
def HasIntegral : List (String × Json) → Prop
  | [] => True
  | (_, v) :: rest => IsIntegral v ∧ HasIntegral rest
end

mutual
/-- **The lexemes of the compact text of a value.** -/
def lexemes : Json → List Lexeme
  | .array items => .openArray :: itemLexemes items ++ [.closeArray]
  | .object entries => .openObject :: entryLexemes entries ++ [.closeObject]
  | .null => [.scalar .null]
  | .bool b => [.scalar (.bool b)]
  | .number n => [.scalar (.number n)]
  | .text s => [.scalar (.text s)]

/-- The lexemes of the items of a list. -/
def itemLexemes : List Json → List Lexeme
  | [] => []
  | [v] => lexemes v
  | v :: w :: vs => lexemes v ++ .comma :: itemLexemes (w :: vs)

/-- The lexemes of the entries of an object. -/
def entryLexemes : List (String × Json) → List Lexeme
  | [] => []
  | [(k, v)] => .scalar (.text k) :: .colon :: lexemes v
  | (k, v) :: e :: rest =>
    .scalar (.text k) :: .colon :: lexemes v ++ .comma :: entryLexemes (e :: rest)
end

namespace Lexeme

variable {c : Char} {cs ds : List Char} {found ls ms ns : List Lexeme}

/-! ## Texts and their lexemes -/

/-- **The text is cut into the lexemes**: from between two lexemes it can be scanned, and if it ended
there, these lexemes would have been found. -/
def CutsInto (cs : List Char) (ls : List Lexeme) : Prop :=
  ∀ found, ∃ s, cs.foldlM step ⟨.between, found⟩ = some s ∧ finish? s = some (ls.reverse ++ found)

/-- **The character is a mark**: it goes on with no lexeme, and between lexemes it is the given ones
itself. -/
structure IsMark (c : Char) (ls : List Lexeme) : Prop where
  not_alpha : c.isAlpha = false
  not_numeral : isNumeral c = false
  begins : ∀ found, begin? found c = some ⟨.between, ls.reverse ++ found⟩

theorem isMark_openArray : IsMark '[' [openArray] := ⟨by decide, by decide, fun _ => rfl⟩

theorem isMark_closeArray : IsMark ']' [closeArray] := ⟨by decide, by decide, fun _ => rfl⟩

theorem isMark_openObject : IsMark '\x7b' [openObject] := ⟨by decide, by decide, fun _ => rfl⟩

theorem isMark_closeObject : IsMark '\x7d' [closeObject] := ⟨by decide, by decide, fun _ => rfl⟩

theorem isMark_comma : IsMark ',' [comma] := ⟨by decide, by decide, fun _ => rfl⟩

theorem isMark_colon : IsMark ':' [colon] := ⟨by decide, by decide, fun _ => rfl⟩

/-- A line feed stands between lexemes and is none. -/
theorem isMark_lineFeed : IsMark '\n' [] := ⟨by decide, by decide, fun _ => rfl⟩

/-- **A mark ends what the scanner is inside of**, if it may end there. -/
theorem IsMark.step (hc : IsMark c ls) {s : Scanner} (hs : finish? s = some found) :
    step s c = some ⟨.between, ls.reverse ++ found⟩ := by
  obtain ⟨mode, before⟩ := s
  cases mode with
  | between =>
    obtain rfl := Option.some.inj hs
    exact hc.begins before
  | word letters =>
    rw [Lexeme.step]
    simp only [hc.not_alpha, Bool.false_eq_true, if_false]
    rw [hs]
    exact hc.begins found
  | numeral chars =>
    rw [Lexeme.step]
    simp only [hc.not_numeral, Bool.false_eq_true, if_false]
    rw [hs]
    exact hc.begins found
  -- a string and its escapes go on to the quote
  | text units => cases hs
  | escape units => cases hs
  | unit units left value => cases hs

theorem cutsInto_nil : CutsInto [] [] := fun found => ⟨⟨.between, found⟩, rfl, rfl⟩

/-- Texts with a mark between them are cut one after the other. -/
theorem CutsInto.append_mark (hcs : CutsInto cs ls) (hc : IsMark c ms) (hds : CutsInto ds ns) :
    CutsInto (cs ++ c :: ds) (ls ++ ms ++ ns) := by
  intro found
  obtain ⟨s, hs, hend⟩ := hcs found
  obtain ⟨t, ht, hlast⟩ := hds (ms.reverse ++ (ls.reverse ++ found))
  refine ⟨t, ?_, ?_⟩
  · rw [foldlM_append_of_eq_some hs, foldlM_cons_of_eq_some (hc.step hend)]
    exact ht
  · rw [hlast, List.reverse_append, List.reverse_append, List.append_assoc, List.append_assoc]

theorem CutsInto.bracketed {o : Char} (ho : IsMark o ls) (hcs : CutsInto cs ms) (hc : IsMark c ns) :
    CutsInto (o :: cs ++ [c]) (ls ++ ms ++ ns) := by
  have hinner := cutsInto_nil.append_mark ho (hcs.append_mark hc cutsInto_nil)
  rwa [List.nil_append, List.nil_append, List.append_nil, ← List.append_assoc,
    ← List.cons_append] at hinner

/-- **What a text is cut into is what scanning it gives.** -/
theorem CutsInto.scan? (h : CutsInto cs ls) : scan? cs = some ls := by
  obtain ⟨s, hs, hend⟩ := h []
  rw [Lexeme.scan?, hs, Option.bind_some, hend, Option.map_some, List.append_nil,
    List.reverse_reverse]

/-! ## Literals -/

theorem cutsInto_null : CutsInto "null".toList [scalar .null] :=
  fun found => ⟨⟨.word "null".toList.reverse, found⟩, rfl, rfl⟩

theorem cutsInto_true : CutsInto "true".toList [scalar (.bool true)] :=
  fun found => ⟨⟨.word "true".toList.reverse, found⟩, rfl, rfl⟩

theorem cutsInto_false : CutsInto "false".toList [scalar (.bool false)] :=
  fun found => ⟨⟨.word "false".toList.reverse, found⟩, rfl, rfl⟩

/-! ## Strings -/

/-- **A character is collected under its code**, whichever form it is written in. -/
theorem foldlM_writeChar (units : List Nat) (found : List Lexeme) (c : Char) :
    (writeChar c).foldlM step ⟨.text units, found⟩ = some ⟨.text (c.toNat :: units), found⟩ := by
  unfold writeChar
  split
  · rfl
  · rfl
  · rfl
  · rfl
  · rfl
  · rfl
  · rfl
  · rename_i hquote hbackslash _ _ _ _ _
    have hne : c ≠ '"' ∧ c ≠ '\\' := ⟨hquote, hbackslash⟩
    split
    · rename_i hcontrol
      -- the code is two hexadecimal digits, behind two zeros
      have hhigh := Host.hexValue?_hexDigit (d := c.toNat / 16) (by omega)
      have hlow := Host.hexValue?_hexDigit (d := c.toNat % 16) (by omega)
      have hcode : c.toNat / 16 * 16 + c.toNat % 16 = c.toNat := Nat.div_add_mod' _ _
      have hzero : Text.hexValue? '0' = some 0 := rfl
      simp [List.foldlM_cons, step, hhigh, hlow, hzero, hcode]
    · rename_i hcontrol
      simp [step, hne, hcontrol]

theorem foldlM_flatMap_writeChar (cs : List Char) (units : List Nat) (found : List Lexeme) :
    (cs.flatMap writeChar).foldlM step ⟨.text units, found⟩
      = some ⟨.text ((cs.map Char.toNat).reverse ++ units), found⟩ := by
  induction cs generalizing units with
  | nil => rfl
  | cons c cs ih =>
    rw [List.flatMap_cons, foldlM_append_of_eq_some (foldlM_writeChar units found c), ih,
      List.map_cons, List.reverse_cons, List.append_assoc, List.singleton_append]

/-- The codes of characters are no surrogates, so each of them is a character by itself. -/
theorem joinUnits?_map_toNat (cs : List Char) : joinUnits? (cs.map Char.toNat) = some cs := by
  induction cs with
  | nil => rfl
  | cons c cs ih =>
    have hvalid : c.toNat < 0xd800 ∨ (0xdfff < c.toNat ∧ c.toNat < 0x110000) := c.valid
    have hlead : isLead c.toNat = false := by
      rw [isLead, Bool.and_eq_false_iff, decide_eq_false_iff_not, decide_eq_false_iff_not]
      omega
    have htrail : isTrail c.toNat = false := by
      rw [isTrail, Bool.and_eq_false_iff, decide_eq_false_iff_not, decide_eq_false_iff_not]
      omega
    rw [List.map_cons, joinUnits?.eq_def]
    simp only [hlead, htrail, Bool.false_eq_true, if_false, ih, Option.map_some, Char.ofNat_toNat]

/-- **A string in quotes is one lexeme**, which is that string. -/
theorem cutsInto_writeText (s : String) : CutsInto (writeText s) [scalar (.text s)] := by
  intro found
  have hunits : ofUnits (s.toList.map Char.toNat) = scalar (.text s) := by
    rw [ofUnits, joinUnits?_map_toNat]
    show scalar (.text (String.ofList s.toList)) = _
    rw [String.ofList_toList]
  have hinner := foldlM_flatMap_writeChar s.toList [] found
  have hopen : step ⟨.between, found⟩ '"' = some ⟨.text [], found⟩ := rfl
  have hclose : ∀ units, step ⟨.text units, found⟩ '"'
      = some ⟨.between, ofUnits units.reverse :: found⟩ := fun _ => rfl
  refine ⟨⟨.between, scalar (.text s) :: found⟩, ?_, rfl⟩
  rw [writeText, List.cons_append, foldlM_cons_of_eq_some hopen, foldlM_append_of_eq_some hinner,
    foldlM_cons_of_eq_some (hclose _), List.append_nil, List.reverse_reverse, hunits]
  rfl

/-! ## Numbers -/

theorem begin?_numeral (hc : c = '-' ∨ Text.isDigit c = true) (found : List Lexeme) :
    begin? found c = some ⟨.numeral [c], found⟩ := by
  rcases hc with rfl | hc
  · rfl
  · obtain ⟨hlt, hchar⟩ := Text.exists_digitChar hc
    have hdigit : ∀ d : Fin 10,
        begin? found (Text.digitChar d) = some ⟨.numeral [Text.digitChar d], found⟩ := by
      intro d
      fin_cases d <;> rfl
    rw [← hchar]
    exact hdigit ⟨_, hlt⟩

theorem foldlM_numeral (h : ∀ c ∈ cs, isNumeral c = true) (chars : List Char) :
    cs.foldlM step ⟨.numeral chars, found⟩ = some ⟨.numeral (cs.reverse ++ chars), found⟩ := by
  induction cs generalizing chars with
  | nil => rfl
  | cons c cs ih =>
    obtain ⟨hc, hcs⟩ := List.forall_mem_cons.1 h
    have hstep : step ⟨.numeral chars, found⟩ c = some ⟨.numeral (c :: chars), found⟩ := by
      rw [step]
      simp only [hc, if_true]
    rw [foldlM_cons_of_eq_some hstep, ih hcs, List.reverse_cons, List.append_assoc,
      List.singleton_append]

/-- **A number is one lexeme**, if it begins as numbers do and reads as one. -/
theorem cutsInto_numeral {x : Numeral} {n : JsonNumber} (hc : c = '-' ∨ Text.isDigit c = true)
    (hcs : ∀ c ∈ cs, isNumeral c = true) (hx : Numeral.parse? (c :: cs) = some x)
    (hn : x.value? = some n) : CutsInto (c :: cs) [scalar (.number n)] := by
  intro found
  refine ⟨⟨.numeral (cs.reverse ++ [c]), found⟩, ?_, ?_⟩
  · rw [foldlM_cons_of_eq_some (begin?_numeral hc found)]
    exact foldlM_numeral hcs [c]
  · have hparse : Numeral.parse? (cs.reverse ++ [c]).reverse = some x := by
      rw [List.reverse_append, List.reverse_reverse]
      exact hx
    have hlexeme : ofNumeral x = scalar (.number n) := by
      rw [ofNumeral, hn]
    show (Numeral.parse? (cs.reverse ++ [c]).reverse).map (fun x => ofNumeral x :: found) = _
    rw [hparse, Option.map_some, hlexeme]
    rfl

end Lexeme

namespace Numeral

open Text

/-! ## Integers -/

theorem takeWhile_decimalDigits (n : Nat) :
    (decimalDigits n).takeWhile isDigit = decimalDigits n :=
  List.takeWhile_eq_self_iff.2 fun _ => isDigit_of_mem_decimalDigits

theorem dropWhile_decimalDigits (n : Nat) : (decimalDigits n).dropWhile isDigit = [] :=
  List.dropWhile_eq_nil_iff.2 fun _ => isDigit_of_mem_decimalDigits

/-- There is a digit, and no zero in front of others. -/
theorem decimalDigits_not_flawed (n : Nat) :
    ¬ (decimalDigits n = [] ∨
      ((decimalDigits n).head? = some '0' ∧ 1 < (decimalDigits n).length)) := by
  rintro (hnil | ⟨hzero, hlength⟩)
  · exact decimalDigits_ne_nil n hnil
  · rcases Nat.eq_zero_or_pos n with rfl | hpos
    · rw [decimalDigits, if_pos (by decide)] at hlength
      exact absurd hlength (by decide)
    · exact head?_decimalDigits hpos hzero

theorem parse?_decimalDigits (n : Nat) :
    parse? (decimalDigits n) = some ⟨false, decimalDigits n, none, none⟩ := by
  -- what begins with a digit does not begin with a sign, so the first case of the match is none
  have hsign : ∀ r, decimalDigits n = '-' :: r → False := by
    intro r hr
    have hminus := isDigit_of_mem_decimalDigits (hr ▸ List.mem_cons_self)
    exact absurd hminus (by decide)
  simp [parse?, takeWhile_decimalDigits, dropWhile_decimalDigits, decimalDigits_not_flawed,
    takeExponent]

theorem parse?_neg_decimalDigits (n : Nat) :
    parse? ('-' :: decimalDigits n) = some ⟨true, decimalDigits n, none, none⟩ := by
  simp [parse?, takeWhile_decimalDigits, dropWhile_decimalDigits, decimalDigits_not_flawed,
    takeExponent]

theorem value?_unsigned {n : Nat} (h : n ≤ maxWord) :
    (⟨false, decimalDigits n, none, none⟩ : Numeral).value? = some (.integer n) := by
  simp [value?, integer?, digitsValue_decimalDigits, h]

theorem value?_negative {n : Nat} (hpos : n ≠ 0) (h : n ≤ maxInteger + 1) :
    (⟨true, decimalDigits n, none, none⟩ : Numeral).value? = some (.integer (-n)) := by
  simp [value?, integer?, digitsValue_decimalDigits, hpos, h]

end Numeral

namespace Lexeme

theorem isNumeral_of_mem_decimalDigits {n : Nat} {c : Char} (h : c ∈ Text.decimalDigits n) :
    isNumeral c = true := by
  simp [isNumeral, Text.isDigit_of_mem_decimalDigits h]

/-- **An integer of 64 bits is one lexeme**, which is that integer. -/
theorem cutsInto_signedDecimal {n : Int} (h : (JsonNumber.integer n).IsWord) :
    CutsInto (Text.signedDecimal n).toList [scalar (.number (.integer n))] := by
  cases n with
  | ofNat n =>
    have hle : n ≤ Text.maxWord := Int.ofNat_le.1 h.2
    have hvalue := Numeral.value?_unsigned hle
    have hparse := Numeral.parse?_decimalDigits n
    have hdigits : ∀ c ∈ Text.decimalDigits n, Text.isDigit c = true := fun c =>
      Text.isDigit_of_mem_decimalDigits
    have hnumeral : ∀ c ∈ Text.decimalDigits n, isNumeral c = true := fun c =>
      isNumeral_of_mem_decimalDigits
    rw [show Int.ofNat n = (n : Int) from rfl, Text.toList_signedDecimal]
    obtain ⟨d, ds, hds⟩ := List.exists_cons_of_ne_nil (Text.decimalDigits_ne_nil n)
    rw [hds] at hparse hdigits hnumeral ⊢
    exact cutsInto_numeral (.inr (hdigits d List.mem_cons_self))
      (List.forall_mem_cons.1 hnumeral).2 hparse (hds ▸ hvalue)
  | negSucc n =>
    have hle : n + 1 ≤ Text.maxInteger + 1 := by
      have := h.1
      omega
    have hvalue := Numeral.value?_negative (Nat.succ_ne_zero n) hle
    rw [Text.signedDecimal, String.toList_ofList]
    exact cutsInto_numeral (.inl rfl) (fun c => isNumeral_of_mem_decimalDigits)
      (Numeral.parse?_neg_decimalDigits (n + 1)) hvalue

end Lexeme

/-! ## Values -/

open Lexeme

mutual
/-- **The compact text of a value of integers is cut into its lexemes.** -/
theorem cutsInto_writeChars : ∀ {v : Json}, v.IsIntegral → CutsInto (writeChars v) (lexemes v)
  | .null, _ => cutsInto_null
  | .bool true, _ => cutsInto_true
  | .bool false, _ => cutsInto_false
  | .number (.integer _), h => cutsInto_signedDecimal h
  | .text s, _ => cutsInto_writeText s
  | .array _, h => (cutsInto_writeItems h).bracketed isMark_openArray isMark_closeArray
  | .object _, h => (cutsInto_writeEntries h).bracketed isMark_openObject isMark_closeObject

theorem cutsInto_writeItems :
    ∀ {vs : List Json}, AreIntegral vs → CutsInto (writeItems vs) (itemLexemes vs)
  | [], _ => cutsInto_nil
  | [_], h => cutsInto_writeChars h.1
  | _ :: _ :: _, h => by
    have hfirst := cutsInto_writeChars h.1
    have hothers := cutsInto_writeItems h.2
    rw [writeItems, itemLexemes]
    simpa using hfirst.append_mark isMark_comma hothers

theorem cutsInto_writeEntries : ∀ {entries : List (String × Json)},
    HasIntegral entries → CutsInto (writeEntries entries) (entryLexemes entries)
  | [], _ => cutsInto_nil
  | [(k, _)], h => (cutsInto_writeText k).append_mark isMark_colon (cutsInto_writeChars h.1)
  | (k, _) :: _ :: _, h => by
    have hvalue := cutsInto_writeChars h.1
    have hothers := cutsInto_writeEntries h.2
    have hfirst := (cutsInto_writeText k).append_mark isMark_colon hvalue
    rw [writeEntries, entryLexemes]
    simpa using hfirst.append_mark isMark_comma hothers
end

end Json

end SearchRest
