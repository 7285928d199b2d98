/-
Complete replies.

What a reply carries is said here by the rules of its form and not by how it is
read: nothing where there is no room for a body, a body of the length that its
headers agree on, the data of its chunks, or all that arrives before the
connection closes. Of every complete reply the reader finds just what it carries.
Chunks are read one by one, and each of them is longer than nothing, so the reader
never runs out of steps.
-/
import SearchRest.Http.Reply
import SearchRest.Proofs.Lists

set_option autoImplicit false

namespace SearchRest.Http

/-! ## Chunks -/

/-- The value of a byte as a hexadecimal digit. -/
def hexByte? (b : UInt8) : Option Nat := Text.hexValue? (Char.ofNat b.toNat)

/-- The number that hexadecimal digits are, given what stands before them. -/
def hexNumber (n : Nat) (digits : Text.Bytes) : Nat :=
  digits.foldl (fun n b => n * 16 + (hexByte? b).getD 0) n

/-- **The line with the size of a chunk**: hexadecimal digits, and what else is said of the chunk
behind a semicolon. -/
inductive IsSizeLine (n : Nat) : Text.Bytes → Prop where
  | intro {digits note : Text.Bytes} (hne : digits ≠ [])
      (hdigits : ∀ b ∈ digits, (hexByte? b).isSome = true) (hn : hexNumber 0 digits = n)
      (hnote : note = [] ∨ ∃ text, note = 0x3b :: text) (hline : 0x0a ∉ note) :
      IsSizeLine n (digits ++ (note ++ [0x0d, 0x0a]))

/-- **The lines behind the last chunk**, and the empty one that ends them. -/
inductive IsTrailer : Text.Bytes → Prop where
  | done : IsTrailer [0x0d, 0x0a]
  | line {text rest : Text.Bytes} (hne : text ≠ []) (hline : 0x0a ∉ text) (h : IsTrailer rest) :
      IsTrailer (text ++ [0x0d, 0x0a] ++ rest)

/-- **A body in chunks**, and the data that they carry. The last chunk is empty. -/
inductive Chunks : Text.Bytes → Text.Bytes → Prop where
  | last {line trailer : Text.Bytes} (hline : IsSizeLine 0 line) (htrailer : IsTrailer trailer) :
      Chunks (line ++ trailer) []
  | chunk {line data wire content : Text.Bytes} (hline : IsSizeLine data.length line)
      (hdata : data ≠ []) (h : Chunks wire content) :
      Chunks (line ++ (data ++ 0x0d :: 0x0a :: wire)) (data ++ content)

/-- **A size is read**, and what stands behind its line is left. -/
theorem takeSize?_append {n : Nat} {line : Text.Bytes} (h : IsSizeLine n line)
    (rest : Text.Bytes) : takeSize? (line ++ rest) = some (n, rest) := by
  obtain ⟨hne, hdigits, hn, hnote, hline⟩ := h
  rename_i digits note
  have htext : digits ++ (note ++ [0x0d, 0x0a]) ++ rest
      = digits ++ (note ++ 0x0d :: 0x0a :: rest) := by simp
  -- the digits end before a byte that is none
  have htake : (digits ++ (note ++ 0x0d :: 0x0a :: rest)).takeWhile (fun b => (hexByte? b).isSome)
      = digits := by
    rw [List.takeWhile_append_of_pos hdigits]
    rcases hnote with rfl | ⟨text, rfl⟩
    · exact (congrArg (digits ++ ·) rfl).trans (List.append_nil digits)
    · exact (congrArg (digits ++ ·) rfl).trans (List.append_nil digits)
  -- and no byte before the end of the line is one
  have hdrop : (digits ++ (note ++ 0x0d :: 0x0a :: rest)).dropWhile (· ≠ 0x0a) = 0x0a :: rest := by
    have hgoes : ∀ b ∈ digits ++ (note ++ [0x0d]), decide (b ≠ 0x0a) = true := by
      intro b hb
      refine decide_eq_true ?_
      rintro rfl
      simp only [List.mem_append, List.mem_singleton] at hb
      rcases hb with hb | hb | hb
      · exact absurd (hdigits _ hb) (by decide)
      · exact hline hb
      · exact absurd hb (by decide)
    have hsplit : digits ++ (note ++ 0x0d :: 0x0a :: rest)
        = digits ++ (note ++ [0x0d]) ++ 0x0a :: rest := by simp
    rw [hsplit, List.dropWhile_append_of_pos hgoes]
    rfl
  obtain ⟨d, ds, rfl⟩ := List.exists_cons_of_ne_nil hne
  unfold hexByte? at htake
  rw [htext, ← hn]
  unfold takeSize?
  dsimp only
  rw [hdrop, htake]
  rfl

/-- **The data of chunks are read**, with as many steps as there are bytes. -/
theorem readChunks?_eq {wire content : Text.Bytes} (h : Chunks wire content) {fuel : Nat}
    (hfuel : wire.length ≤ fuel) : readChunks? fuel wire = some content := by
  have hlong : ∀ {n : Nat} {line : Text.Bytes}, IsSizeLine n line → 0 < line.length := by
    rintro n _ ⟨hne, -, -, -, -⟩
    rw [List.length_append]
    exact Nat.add_pos_left (List.length_pos_iff.2 hne) _
  induction h generalizing fuel with
  | last hline htrailer =>
    cases fuel with
    | zero =>
      rw [List.length_append] at hfuel
      have := hlong hline
      omega
    | succ fuel =>
      rw [readChunks?, takeSize?_append hline]
      rfl
  | @chunk line data wire content hline hdata h ih =>
    have hpos := hlong hline
    have hne : 0 < data.length := List.length_pos_iff.2 hdata
    rw [List.length_append, List.length_append, List.length_cons, List.length_cons] at hfuel
    obtain ⟨fuel, rfl⟩ : ∃ k, fuel = k + 1 := ⟨fuel - 1, by omega⟩
    have hrest : readChunks? fuel wire = some content := ih (by omega)
    have htake : (data ++ 0x0d :: 0x0a :: wire).take data.length = data := List.take_left
    have hdrop : (data ++ 0x0d :: 0x0a :: wire).drop (data.length + 2) = wire := by
      simp
    have hle : data.length ≤ (data ++ 0x0d :: 0x0a :: wire).length := by
      rw [List.length_append]
      exact Nat.le_add_right _ _
    rw [readChunks?, takeSize?_append hline]
    -- the size is not zero, so this is not the last chunk
    obtain ⟨k, hk⟩ : ∃ k, data.length = k + 1 := ⟨data.length - 1, by omega⟩
    rw [hk] at htake hdrop hle ⊢
    refine (if_pos hle).trans ?_
    rw [hdrop, hrest, htake]
    rfl

/-! ## Lengths -/

/-- **What the values of a header say about a length**: each of them names it, once or several times
with commas between, and they all name the same. -/
def SayLength (values : List Text.Bytes) (n : Nat) : Prop :=
  values ≠ [] ∧ ∀ v ∈ values, ∃ s, valueText? v = some s ∧
    ∀ p ∈ Text.split ',' s, length? (Text.trim p).toList = some n

/-- **The length that values agree on** is the one that they say. -/
theorem agreedLength?_eq {values : List Text.Bytes} {n : Nat} (h : SayLength values n) :
    agreedLength? values = some n := by
  obtain ⟨hne, hvalues⟩ := h
  -- each value gives at least one length, and none but the one
  have hread : ∀ v ∈ values, ∃ lengths : List Nat,
      ((valueText? v).bind fun s =>
        (Text.split ',' s).mapM fun p => length? (Text.trim p).toList) = some lengths ∧
      (lengths ≠ [] ∧ ∀ m ∈ lengths, m = n) := by
    intro v hv
    obtain ⟨s, hs, hpieces⟩ := hvalues v hv
    obtain ⟨lengths, hlengths, hcount, hall⟩ :=
      exists_mapM_eq_some (P := (· = n)) fun p hp => ⟨n, hpieces p hp, rfl⟩
    refine ⟨lengths, ?_, ?_, hall⟩
    · rw [hs]
      exact hlengths
    · rintro rfl
      refine Text.pieces_ne_nil ',' s.toList (List.length_eq_zero_iff.1 ?_)
      rw [← List.length_map (f := String.ofList)]
      exact hcount.symm
  obtain ⟨lengths, hlengths, hcount, hall⟩ := exists_mapM_eq_some hread
  obtain ⟨l, ls, rfl⟩ : ∃ l ls, lengths = l :: ls := by
    refine List.exists_cons_of_ne_nil fun hnil => hne (List.length_eq_zero_iff.1 ?_)
    rw [← hcount, hnil]
    rfl
  obtain ⟨⟨hl, hfirst⟩, hrest⟩ := List.forall_mem_cons.1 hall
  obtain ⟨m, ms, rfl⟩ := List.exists_cons_of_ne_nil hl
  obtain ⟨rfl, hms⟩ := List.forall_mem_cons.1 hfirst
  have hsame : (ms ++ ls.flatten).all (· = m) = true := by
    refine List.all_eq_true.2 fun x hx => decide_eq_true ?_
    rcases List.mem_append.1 hx with hx | hx
    · exact hms x hx
    · obtain ⟨l, hl, hx⟩ := List.mem_flatten.1 hx
      exact (hrest l hl).2 x hx
  unfold agreedLength?
  rw [hlengths]
  exact if_pos hsame

/-! ## Complete replies -/

namespace Reply

/-- **A reply that has no body**, whatever it says about one. -/
def IsBare (method : Method) (r : Reply) : Prop :=
  r.status = 204 ∨ r.status = 304 ∨ method = .head

instance (method : Method) (r : Reply) : Decidable (r.IsBare method) :=
  inferInstanceAs (Decidable (_ ∨ _ ∨ _))

/-- **What a reply carries**, by the rules of its form. -/
inductive Carries (method : Method) (r : Reply) : Text.Bytes → Prop where
  | nothing (h : r.IsBare method) : Carries method r []
  /-- All of the body that was announced arrived. -/
  | sized (h : ¬ r.IsBare method) (hplain : r.values "transfer-encoding" = [])
      (hlength : SayLength (r.values "content-length") r.body.length) : Carries method r r.body
  | chunked {content : Text.Bytes} (h : ¬ r.IsBare method)
      (hencoded : endsInChunked (r.values "transfer-encoding") = true)
      (hbody : Chunks r.body content) : Carries method r content
  /-- There is another encoding than chunks, or nothing is said. -/
  | untilClosed (h : ¬ r.IsBare method)
      (hencoded : endsInChunked (r.values "transfer-encoding") = false)
      (hlength : r.values "transfer-encoding" = [] → r.values "content-length" = []) :
      Carries method r r.body

/-- **A complete reply**: one with a final status, well-formed lines, and all of its body. -/
structure IsComplete (method : Method) (r : Reply) (content : Text.Bytes) : Prop where
  status : 200 ≤ r.status ∧ r.status ≤ 599
  lines : ∀ h ∈ r.headers, isHeaderName h.1 = true ∧ isHeaderBytes h.2 = true
  /-- The body, as far as there is one. -/
  carries : r.Carries method content

variable {method : Method} {r : Reply} {content : Text.Bytes}

/-- The framing of a complete reply is found, and with it the content. -/
theorem IsComplete.content?_eq (h : r.IsComplete method content) :
    (∃ framing, r.framing? method = some framing) ∧ r.content? method = some content := by
  obtain ⟨hstatus, -, hcarries⟩ := h
  have hswitch : r.status ≠ 101 := by omega
  have hbare : (r.status = 101 ∨ r.status = 204 ∨ r.status = 304 ∨ method = .head) ↔
      r.IsBare method := or_iff_right hswitch
  have hframing : ∀ framing, r.framing? method = some framing →
      (match framing with
        | .absent => some []
        | .length n => if n ≤ r.body.length then some (r.body.take n) else none
        | .chunked => readChunks? r.body.length r.body
        | .untilClosed => some r.body) = some content →
      (∃ framing, r.framing? method = some framing) ∧ r.content? method = some content := by
    intro framing hfound hcontent
    refine ⟨⟨framing, hfound⟩, ?_⟩
    rw [content?, hfound]
    cases framing <;> exact hcontent
  cases hcarries with
  | nothing h =>
    refine hframing .absent ?_ rfl
    rw [framing?, if_pos (hbare.2 h)]
  | sized h hplain hlength =>
    refine hframing (.length r.body.length) ?_ ?_
    · rw [framing?, if_neg (mt hbare.1 h), hplain]
      obtain ⟨v, vs, hvs⟩ := List.exists_cons_of_ne_nil hlength.1
      rw [hvs] at hlength ⊢
      exact congrArg (Option.map Framing.length) (agreedLength?_eq hlength)
    · exact (if_pos (Nat.le_refl _)).trans (congrArg some (List.take_length))
  | chunked h hencoded hbody =>
    refine hframing .chunked ?_ (readChunks?_eq hbody (Nat.le_refl _))
    rw [framing?, if_neg (mt hbare.1 h)]
    -- what ends in chunks is not empty
    cases hvalues : r.values "transfer-encoding" with
    | nil =>
      rw [hvalues] at hencoded
      cases hencoded
    | cons v vs =>
      rw [hvalues] at hencoded
      exact congrArg some (if_pos hencoded)
  | untilClosed h hencoded hlength =>
    refine hframing .untilClosed ?_ rfl
    rw [framing?, if_neg (mt hbare.1 h)]
    cases hvalues : r.values "transfer-encoding" with
    | nil =>
      rw [hlength hvalues]
    | cons v vs =>
      rw [hvalues] at hencoded
      exact congrArg some (if_neg (by simp [hencoded]))

end Reply

end SearchRest.Http
