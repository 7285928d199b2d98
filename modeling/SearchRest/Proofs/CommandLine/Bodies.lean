/-
Bodies typed on the command line.

The text of a body is tried as one JSON value before it is tried line by line. A
body that was written is told apart by this all the same: of one value it is the
text of that value, and of several it is none, since whatever follows a complete
value makes it no text of a value any more. Only one value on a line is taken for
the value alone.

A text that does not read is refused with the number of a line. Blank lines are
left out before the lines are numbered, so the number is that of the line at
fault exactly when no blank line stands in front of it.
-/
import SearchRest.CommandLine.Input
import SearchRest.Proofs.Json.Lines
import SearchRest.Proofs.Json.Rereading
import SearchRest.Proofs.Text.Utf8

set_option autoImplicit false

namespace SearchRest

/-! ## Lines of a text -/

namespace Text

theorem dropLast?_eq_none {last : Char} {cs : List Char} (h : last ∉ cs) :
    dropLast? last cs = none := by
  induction cs with
  | nil => rfl
  | cons c cs ih =>
    obtain ⟨hc, hcs⟩ := not_or.1 (mt List.mem_cons.2 h)
    cases cs with
    | nil => exact if_neg (Ne.symm hc)
    | cons d ds =>
      rw [dropLast?, ih hcs]
      · rfl
      · exact List.cons_ne_nil d ds

/-- A control character stands in no text without them. -/
theorem NoControls.not_mem {cs : List Char} (h : NoControls cs) {c : Char} (hc : c.toNat < 0x20) :
    c ∉ cs := fun hmem => absurd (h c hmem) (Nat.not_le.2 hc)

theorem pieces_flatMap_lineFeed {ls : List (List Char)} (h : ∀ l ∈ ls, NoControls l) :
    pieces '\n' (ls.flatMap (· ++ ['\n'])) = ls ++ [[]] := by
  induction ls with
  | nil => rfl
  | cons l ls ih =>
    obtain ⟨hl, hls⟩ := List.forall_mem_cons.1 h
    rw [List.flatMap_cons, List.append_assoc, List.singleton_append,
      pieces_append_cons (hl.not_mem (by decide)), ih hls, List.cons_append]

/-- **Lines that are written are the lines of the text.** -/
theorem lines_flatMap {ls : List (List Char)} (h : ∀ l ∈ ls, NoControls l) :
    lines (String.ofList (ls.flatMap (· ++ ['\n']))) = ls.map String.ofList := by
  -- there is no carriage return that could be taken for a part of a line end
  have hkept : ls.map (fun l => (dropLast? '\r' l).getD l) = ls := by
    have hid : ∀ l ∈ ls, (dropLast? '\r' l).getD l = l := by
      intro l hl
      rw [dropLast?_eq_none ((h l hl).not_mem (by decide))]
      rfl
    rw [List.map_congr_left hid, List.map_id']
  simp only [lines, String.toList_ofList, pieces_flatMap_lineFeed h, List.dropLast_concat,
    List.getLast?_concat, Option.getD_some, hkept]
  rw [List.isEmpty_nil, if_pos rfl, List.append_nil]

/-- A digit is not blank. -/
theorem isBlank_of_isDigit {c : Char} (h : isDigit c = true) : isBlank c = false := by
  obtain ⟨hlt, hchar⟩ := exists_digitChar h
  have : ∀ d : Fin 10, isBlank (digitChar d) = false := by decide
  rw [← hchar]
  exact this ⟨_, hlt⟩

end Text

namespace Json

open Text

/-- The compact text of a value begins with a character that is not blank. -/
theorem exists_writeChars_eq : ∀ {v : Json}, v.IsIntegral →
    ∃ c cs, writeChars v = c :: cs ∧ isBlank c = false
  | .null, _ => ⟨'n', _, rfl, by decide⟩
  | .bool true, _ => ⟨'t', _, rfl, by decide⟩
  | .bool false, _ => ⟨'f', _, rfl, by decide⟩
  | .number (.integer (.ofNat n)), _ => by
    obtain ⟨d, ds, hds⟩ := List.exists_cons_of_ne_nil (decimalDigits_ne_nil n)
    refine ⟨d, ds, ?_, isBlank_of_isDigit (isDigit_of_mem_decimalDigits (n := n) ?_)⟩
    · rw [← hds]
      exact toList_signedDecimal n
    · rw [hds]
      exact List.mem_cons_self
  | .number (.integer (.negSucc n)), _ =>
    ⟨'-', decimalDigits (n + 1), String.toList_ofList, by decide⟩
  | .text s, _ => ⟨'"', _, rfl, by decide⟩
  | .array items, _ => ⟨'[', _, rfl, by decide⟩
  | .object entries, _ => ⟨'\x7b', _, rfl, by decide⟩

end Json

namespace CommandLine

variable {before after ls : List String} {bad text : String} {n : Nat}

/-! ## Reading line by line -/

theorem readLines_eq_ok_iff {vs : List CanonicalJson} :
    readLines n ls = .ok vs ↔ List.Forall₂ (fun l v => CanonicalJson.read? l = some v) ls vs := by
  induction ls generalizing n vs with
  | nil => cases vs <;> simp [readLines]
  | cons l ls ih =>
    rw [readLines]
    cases hl : CanonicalJson.read? l with
    | none => cases vs <;> simp [hl]
    | some v =>
      show (readLines (n + 1) ls).map (v :: ·) = .ok vs ↔ _
      rw [map_eq_ok_iff]
      cases vs with
      | nil => simp
      | cons w ws => simp [hl, ih, eq_comm, and_comm]

/-- **The line that is refused** is the first one that does not read, and has its place among the
others for its number. -/
theorem readLines_eq_error_iff {e : BodyError} :
    readLines n ls = .error e ↔
      ∃ before bad after, ls = before ++ bad :: after ∧
        (∀ l ∈ before, ∃ v, CanonicalJson.read? l = some v) ∧
        CanonicalJson.read? bad = none ∧ e = .invalidLine (n + before.length) := by
  induction ls generalizing n with
  | nil => simp [readLines]
  | cons l ls ih =>
    rw [readLines]
    cases hl : CanonicalJson.read? l with
    | none =>
      constructor
      · rintro ⟨⟩
        exact ⟨[], l, ls, rfl, List.forall_mem_nil _, hl, rfl⟩
      · rintro ⟨before, bad, after, hls, hbefore, -, rfl⟩
        cases before with
        | nil => rfl
        | cons b before =>
          obtain ⟨rfl, -⟩ := List.cons.inj hls
          obtain ⟨v, hv⟩ := hbefore l List.mem_cons_self
          rw [hl] at hv
          cases hv
    | some v =>
      have hmap : (readLines (n + 1) ls).map (v :: ·) = .error e ↔
          readLines (n + 1) ls = .error e := by
        cases readLines (n + 1) ls <;> simp [Except.map]
      show (readLines (n + 1) ls).map (v :: ·) = .error e ↔ _
      rw [hmap, ih]
      constructor
      · rintro ⟨before, bad, after, rfl, hbefore, hbad, rfl⟩
        refine ⟨l :: before, bad, after, rfl, List.forall_mem_cons.2 ⟨⟨v, hl⟩, hbefore⟩, hbad, ?_⟩
        rw [List.length_cons, Nat.add_assoc, Nat.add_comm 1]
      · rintro ⟨before, bad, after, hls, hbefore, hbad, rfl⟩
        cases before with
        | nil =>
          obtain ⟨rfl, -⟩ := List.cons.inj hls
          rw [hl] at hbad
          cases hbad
        | cons b before =>
          obtain ⟨rfl, rfl⟩ := List.cons.inj hls
          refine ⟨before, bad, after, rfl, (List.forall_mem_cons.1 hbefore).2, hbad, ?_⟩
          rw [List.length_cons, Nat.add_assoc, Nat.add_comm 1]

/-! ## Bodies that were written -/

/-- Lines of values read as what they are lines of, whatever number the first one has. -/
theorem readLines_map_write {vs : List CanonicalJson} (h : ∀ v ∈ vs, v.IsReadable) (n : Nat) :
    readLines n (vs.map CanonicalJson.write) = .ok vs := by
  rw [readLines_eq_ok_iff, List.forall₂_map_left_iff, List.forall₂_same]
  exact fun v hv => CanonicalJson.read?_write (h v hv)

/-- No line of a value is blank. -/
theorem filter_map_write {vs : List CanonicalJson} (h : ∀ v ∈ vs, v.IsReadable) :
    (vs.map CanonicalJson.write).filter (fun line => !Text.isBlankText line)
      = vs.map CanonicalJson.write := by
  rw [List.filter_eq_self]
  intro line hline
  obtain ⟨v, hv, rfl⟩ := List.mem_map.1 hline
  obtain ⟨c, cs, hcs, hc⟩ := Json.exists_writeChars_eq (h v hv).integral
  rw [CanonicalJson.write, Json.write, Text.isBlankText, String.toList_ofList, hcs, List.all_cons,
    hc]
  rfl

theorem areIntegral_map_value {vs : List CanonicalJson} (h : ∀ v ∈ vs, v.IsReadable) :
    Json.AreIntegral (vs.map CanonicalJson.value) := by
  induction vs with
  | nil => trivial
  | cons v vs ih =>
    obtain ⟨hv, hvs⟩ := List.forall_mem_cons.1 h
    exact ⟨hv.integral, ih hvs⟩

/-- The text of a body of lines. -/
theorem lines_chars {vs : List CanonicalJson} :
    Text.lines (String.ofList (Body.lines vs).chars) = vs.map CanonicalJson.write := by
  have hcontrols : ∀ l ∈ vs.map fun v => v.value.writeChars, Text.NoControls l := by
    intro l hl
    obtain ⟨v, -, rfl⟩ := List.mem_map.1 hl
    exact Json.noControls_writeChars v.value
  have hlines := Text.lines_flatMap hcontrols
  rw [List.flatMap_map, List.map_map] at hlines
  exact hlines

/-- A line of one value is a text of that value. -/
theorem read?_chars_singleton {v : CanonicalJson} (h : v.IsReadable) :
    CanonicalJson.read? (String.ofList (Body.lines [v]).chars) = some v := by
  have hchars : (Body.lines [v]).chars = v.value.writeChars ++ ['\n'] := List.append_nil _
  rw [CanonicalJson.read?, Json.read?, String.toList_ofList, hchars,
    Json.readWanted?_line h.integral h.depth_le, Option.map_some, Json.ofJson_value]

/-- Lines of several values are no text of a value. -/
theorem read?_chars_eq_none {v w : CanonicalJson} {vs : List CanonicalJson}
    (h : ∀ u ∈ v :: w :: vs, u.IsReadable) :
    CanonicalJson.read? (String.ofList (Body.lines (v :: w :: vs)).chars) = none := by
  have hread : Json.readWanted? .all
      (((v :: w :: vs).map CanonicalJson.value).flatMap fun v => v.writeChars ++ ['\n']) = none :=
    Json.readWanted?_lines (areIntegral_map_value h) (h v List.mem_cons_self).depth_le
  have hchars : (Body.lines (v :: w :: vs)).chars
      = ((v :: w :: vs).map CanonicalJson.value).flatMap fun v => v.writeChars ++ ['\n'] := by
    rw [List.flatMap_map]
    rfl
  rw [CanonicalJson.read?, Json.read?, String.toList_ofList, hchars, hread]
  rfl

/-- **A body is read from its bytes.** -/
def readBytes? (bytes : Text.Bytes) : Option (Except BodyError Body) :=
  (Text.decode? bytes).map readBody

theorem readBytes?_bytes (b : Body) :
    readBytes? b.bytes = some (readBody (String.ofList b.chars)) := by
  rw [readBytes?, Body.bytes, Text.decode?, Text.decodeChars?_encodeChars, Option.map_some,
    Option.map_some]

/-- **A body that was written is read back**: one value as that value, and several on a line each as
the list of them. A list of one value is read as the value alone, and an empty one is refused as an
empty body. -/
theorem readBytes?_of_isReadable {v : CanonicalJson} {vs : List CanonicalJson}
    (hv : v.IsReadable) (hvs : ∀ w ∈ vs, w.IsReadable) :
    readBytes? (Body.json v).bytes = some (.ok (.json v)) ∧
      (2 ≤ vs.length → readBytes? (Body.lines vs).bytes = some (.ok (.lines vs))) ∧
      (∀ w, vs = [w] → readBytes? (Body.lines vs).bytes = some (.ok (.json w))) ∧
      (vs = [] → readBytes? (Body.lines vs).bytes = some (.error .empty)) ∧
      BodyError.empty.message = "Body is empty" := by
  refine ⟨?_, ?_, ?_, ?_, rfl⟩
  · have hchars : String.ofList (Body.json v).chars = v.write := rfl
    rw [readBytes?_bytes, hchars, readBody, CanonicalJson.read?_write hv]
  · intro hlength
    match vs, hlength with
    | v :: w :: ws, _ =>
      rw [readBytes?_bytes, readBody, read?_chars_eq_none hvs, lines_chars, filter_map_write hvs,
        readLines_map_write hvs]
  · rintro w rfl
    rw [readBytes?_bytes, readBody, read?_chars_singleton (hvs w List.mem_cons_self)]
  · rintro rfl
    rw [readBytes?_bytes]
    rfl

/-- An object with the least and the greatest integer and a line feed in a string, and the same behind
a literal, on a line each. -/
theorem readBytes?_of_isReadable_object :
    let v : CanonicalJson := ⟨.object [("a", .array [.integer (-9223372036854775808),
      .integer 18446744073709551615]), ("b", .text "\n\"é")],
      by decide, ⟨trivial, trivial, trivial⟩, trivial, trivial⟩
    let vs : List CanonicalJson := [.ofJson .null, v]
    v.IsReadable ∧ (∀ w ∈ vs, w.IsReadable) ∧
      readBytes? (Body.json v).bytes = some (.ok (.json v)) ∧
      readBytes? (Body.lines vs).bytes = some (.ok (.lines vs)) := by
  intro v vs
  have hv : v.IsReadable := by
    refine ⟨?_, by decide⟩
    simp [v, Json.IsIntegral, Json.HasIntegral, Json.AreIntegral, Json.integer, JsonNumber.IsWord,
      Text.maxInteger, Text.maxWord]
  have hvs : ∀ w ∈ vs, w.IsReadable :=
    List.forall_mem_cons.2 ⟨⟨trivial, by decide⟩, List.forall_mem_singleton.2 hv⟩
  obtain ⟨hjson, hlines, -⟩ := readBytes?_of_isReadable hv hvs
  exact ⟨hv, hvs, hjson, hlines (Nat.le_refl 2)⟩

/-! ## Bodies that are refused -/

/-- **A line is the first one at fault**: it is neither blank nor a JSON text, and every line before
it is one or the other. -/
structure IsFirstFault (before : List String) (bad : String) : Prop where
  before : ∀ l ∈ before, Text.isBlankText l = true ∨ ∃ v, CanonicalJson.read? l = some v
  not_blank : Text.isBlankText bad = false
  unread : CanonicalJson.read? bad = none

/-- The lines that are not blank. -/
def written (ls : List String) : List String := ls.filter fun line => !Text.isBlankText line

/-- **What is refused with the number of a line**: a text that is no JSON text and has a line at
fault. The number counts the lines up to that one without the blank ones. -/
theorem readBody_eq_invalidLine_iff :
    readBody text = .error (.invalidLine n) ↔
      CanonicalJson.read? text = none ∧ ∃ before bad after,
        Text.lines text = before ++ bad :: after ∧ IsFirstFault before bad ∧
          n = (written before).length + 1 := by
  have hlines : readBody text = .error (.invalidLine n) ↔ CanonicalJson.read? text = none ∧
      readLines 1 (written (Text.lines text)) = .error (.invalidLine n) := by
    unfold readBody written
    cases CanonicalJson.read? text with
    | some v => simp
    | none =>
      dsimp only
      cases readLines 1 ((Text.lines text).filter fun line => !Text.isBlankText line) with
      | error e => simp
      | ok vs => cases vs <;> simp
  rw [hlines, readLines_eq_error_iff, and_congr_right_iff]
  intro hwhole
  constructor
  · rintro ⟨front, bad, back, hfilter, hfront, hbad, hn⟩
    -- in the text the lines before it are those that are written, with blank ones in between
    obtain ⟨early, late, hsplit, rfl, hlate⟩ := List.filter_eq_append_iff.1 hfilter
    obtain ⟨blank, after, rfl, hblank, hnot, -⟩ := List.filter_eq_cons_iff.1 hlate
    have hnone : written blank = [] := List.filter_eq_nil_iff.2 hblank
    refine ⟨early ++ blank, bad, after, ?_, ⟨?_, by simpa using hnot, hbad⟩, ?_⟩
    · rw [hsplit, List.append_assoc]
    · intro l hl
      by_cases hl' : Text.isBlankText l = true
      · exact .inl hl'
      · refine .inr (hfront l ?_)
        rcases List.mem_append.1 hl with hl | hl
        · exact List.mem_filter.2 ⟨hl, by simpa using hl'⟩
        · exact absurd (hblank l hl) (by simpa using hl')
    · cases hn
      rw [written, List.filter_append, ← written, ← written, hnone, List.append_nil, Nat.add_comm]
  · rintro ⟨before, bad, after, hsplit, hfault, rfl⟩
    refine ⟨written before, bad, written after, ?_, ?_, hfault.unread, ?_⟩
    · rw [hsplit, written, List.filter_append, List.filter_cons_of_pos]
      · rfl
      · rw [hfault.not_blank]
        rfl
    · intro l hl
      obtain ⟨hmem, hwritten⟩ := List.mem_filter.1 hl
      rcases hfault.before l hmem with hblank | hread
      · rw [hblank] at hwritten
        cases hwritten
      · exact hread
    · rw [Nat.add_comm]

/-- There is no more than one first line at fault. -/
theorem IsFirstFault.unique {before' : List String} {bad' : String} {after' : List String}
    (h : IsFirstFault before bad) (h' : IsFirstFault before' bad')
    (heq : before ++ bad :: after = before' ++ bad' :: after') : before = before' := by
  have hnot : ∀ {front : List String} {b c : String}, IsFirstFault front b →
      c ∈ front → ¬ IsFirstFault [] c := by
    intro front b c hfront hc hfault
    rcases hfront.before c hc with hblank | ⟨v, hread⟩
    · rw [hfault.not_blank] at hblank
      cases hblank
    · rw [hfault.unread] at hread
      cases hread
  induction before generalizing before' with
  | nil =>
    cases before' with
    | nil => rfl
    | cons b before' =>
      obtain ⟨rfl, -⟩ := List.cons.inj heq
      exact absurd h (hnot h' List.mem_cons_self)
  | cons b before ih =>
    cases before' with
    | nil =>
      obtain ⟨rfl, -⟩ := List.cons.inj heq
      exact absurd h' (hnot h List.mem_cons_self)
    | cons b' before' =>
      obtain ⟨rfl, hrest⟩ := List.cons.inj heq
      have hih := ih ⟨(List.forall_mem_cons.1 h.before).2, h.not_blank, h.unread⟩
        ⟨(List.forall_mem_cons.1 h'.before).2, h'.not_blank, h'.unread⟩ hrest
      rw [hih]

/-- **Whether the line of that number is the first one at fault**, where all lines of the text are
counted from 1. -/
def IsFaultAt (text : String) (n : Nat) : Prop :=
  ∃ before bad after, Text.lines text = before ++ bad :: after ∧ IsFirstFault before bad ∧
    n = before.length + 1

/-- The number in a message is that of the line. -/
theorem eq_invalidLine_of_message {e : BodyError}
    (h : e.message = "Body line " ++ Text.decimal n ++ " is not valid JSON") :
    e = .invalidLine n := by
  cases e with
  | invalidLine m =>
    have hlist := congrArg String.toList h
    simp only [BodyError.message, String.toList_append, List.append_cancel_right_eq,
      List.append_cancel_left_eq] at hlist
    rw [Text.decimal_injective (String.toList_inj.1 hlist)]
  | empty =>
    have hlist := congrArg String.toList h
    simp [BodyError.message] at hlist

/-- **The number of a line that does not read** counts the lines that are not blank, so it is that of
the first line at fault exactly when no blank line stands before it. -/
theorem isFaultAt_iff
    (h : (readBody text).mapError BodyError.message
      = .error ("Body line " ++ Text.decimal n ++ " is not valid JSON")) :
    ∃ before bad after, Text.lines text = before ++ bad :: after ∧ IsFirstFault before bad ∧
      n = (written before).length + 1 ∧
      (IsFaultAt text n ↔ ∀ l ∈ before, Text.isBlankText l = false) := by
  have herror : readBody text = .error (.invalidLine n) := by
    cases hread : readBody text with
    | ok b =>
      rw [hread] at h
      cases h
    | error e =>
      rw [hread] at h
      rw [eq_invalidLine_of_message (Except.error.inj h)]
  obtain ⟨-, before, bad, after, hsplit, hfault, rfl⟩ := readBody_eq_invalidLine_iff.1 herror
  refine ⟨before, bad, after, hsplit, hfault, rfl, ?_⟩
  have hall : (written before).length = before.length ↔
      ∀ l ∈ before, Text.isBlankText l = false := by
    rw [written, List.length_filter_eq_length_iff]
    simp
  rw [← hall]
  constructor
  · rintro ⟨before', bad', after', hsplit', hfault', hn⟩
    rw [hfault.unique hfault' (hsplit.symm.trans hsplit')] at hn ⊢
    exact Nat.succ.inj hn
  · intro hlength
    exact ⟨before, bad, after, hsplit, hfault, by rw [hlength]⟩

/-- The third of three lines is at fault, and as none of the others is blank it is the one that is
named. -/
theorem isFaultAt_iff_of_written :
    (readBody "1\n2\nx").mapError BodyError.message
        = .error ("Body line " ++ Text.decimal 3 ++ " is not valid JSON") ∧
      IsFaultAt "1\n2\nx" 3 := by
  have hmessage : (readBody "1\n2\nx").mapError BodyError.message
      = .error ("Body line " ++ Text.decimal 3 ++ " is not valid JSON") := by decide +kernel
  have hwritten : ∀ l ∈ Text.lines "1\n2\nx", Text.isBlankText l = false := by decide
  refine ⟨hmessage, ?_⟩
  obtain ⟨before, bad, after, hsplit, -, -, hiff⟩ := isFaultAt_iff hmessage
  rw [hiff]
  intro l hl
  exact hwritten l (hsplit ▸ List.mem_append_left _ hl)

/-- **Behind a blank line another line is named**: the third line is at fault here, and the message
names the second one, which is blank. -/
theorem not_isFaultAt_of_blank :
    (readBody "1\n\nx").mapError BodyError.message
        = .error "Body line 2 is not valid JSON" ∧
      ¬ IsFaultAt "1\n\nx" 2 ∧ IsFaultAt "1\n\nx" 3 := by
  have hlines : Text.lines "1\n\nx" = ["1", "", "x"] := by decide
  refine ⟨by decide +kernel, ?_, ?_⟩
  · rintro ⟨before, bad, after, hsplit, hfault, hn⟩
    rw [hlines] at hsplit
    match before, hn with
    | [one], _ =>
      obtain ⟨-, htail⟩ := List.cons.inj hsplit
      obtain ⟨rfl, -⟩ := List.cons.inj htail
      exact absurd hfault.not_blank (by decide)
  · refine ⟨["1", ""], "x", [], hlines, ⟨?_, by decide, by decide +kernel⟩, rfl⟩
    intro l hl
    simp only [List.mem_cons, List.not_mem_nil, or_false] at hl
    rcases hl with rfl | rfl
    · exact .inr ⟨.ofJson (.integer 1), by decide +kernel⟩
    · exact .inl (by decide)

end CommandLine

end SearchRest
