/-
Bags of parameters over time.

A bag starts empty and goes through any number of operations: parameters are
set and removed, headers are set and removed, and a stored bag is put in its
place. Every operation comes down to one of five changes, and of each it is said
once what it does to the two maps, so that an invariant is shown for the five
changes and then holds of every history.

The parameter `format` and the header `accept` stand in two maps. Where nobody
writes the header by hand, the two agree in every bag that has a `format`,
however it came by it; a bag without one has no such header either, unless it
was stored with one.
-/
import Mathlib.Data.List.Basic
import SearchRest.Param.Bag

set_option autoImplicit false

namespace SearchRest

/-- **An operation on a bag.** -/
inductive BagStep where
  | set (key : String) (v : ParamValue)
  | setOption (key : String) (v : Option ParamValue)
  | setRaw (key raw : String)
  | remove (key : String)
  | setHeader (name value : String)
  | removeHeader (name : String)
  /-- Puts the bag of a stored form in the place of the bag. -/
  | load (stored : Json)

namespace BagStep

/-- Whether the operation leaves the header `accept` to the parameter `format`. -/
def LeavesAccept : BagStep → Prop
  | .setHeader name _ | .removeHeader name => Text.sameIgnoringCase name "accept" = false
  | _ => True

instance : (s : BagStep) → Decidable s.LeavesAccept
  | .setHeader name _ | .removeHeader name =>
    inferInstanceAs (Decidable (Text.sameIgnoringCase name "accept" = false))
  | .set _ _ | .setOption _ _ | .setRaw _ _ | .remove _ | .load _ =>
    inferInstanceAs (Decidable True)

/-- Whether the operation puts a stored bag in the place of the bag. -/
def IsLoad : BagStep → Prop
  | .load _ => True
  | _ => False

end BagStep

/-- Whether a value is the word of a format, in any case of letters. -/
def ParamValue.Spells (f : Token .format) : ParamValue → Prop
  | .text s | .token s => Text.sameIgnoringCase s f.text = true
  | _ => False

instance (f : Token .format) : (v : ParamValue) → Decidable (v.Spells f)
  | .text s | .token s => inferInstanceAs (Decidable (Text.sameIgnoringCase s f.text = true))
  | .bool _ | .integer _ | .number _ | .list _ => inferInstanceAs (Decidable False)

namespace ParamBag

/-- What an operation makes of the bag, if it succeeds. -/
def step? (bag : ParamBag) : BagStep → Option ParamBag
  | .set key v => some (bag.set key v)
  | .setOption key v => some (bag.setOption key v)
  | .setRaw key raw => (bag.setRaw key raw).toOption
  | .remove key => some (bag.remove key)
  | .setHeader name value => some (bag.setHeader name value)
  | .removeHeader name => some (bag.removeHeader name)
  | .load stored => ofJson? stored

/-- The bag after an operation. One that fails leaves it as it was. -/
def step (bag : ParamBag) (s : BagStep) : ParamBag := (bag.step? s).getD bag

/-- **The bag after a history**, the first operation first. -/
def after (steps : List BagStep) : ParamBag := steps.foldl step empty

/-! ## What a change does to the two maps -/

variable {bag : ParamBag} {s : BagStep}

theorem headers_withAccept (format : Option ParamValue) (name : String) :
    (bag.withAccept format).headers.get? name
      = if name = "accept" then format.bind mediaType? else bag.headers.get? name := by
  unfold withAccept
  split
  · rename_i media hmedia
    rw [KeyMap.get?_insert, hmedia]
    simp only [eq_comm]
  · rename_i hnone
    rw [KeyMap.get?_erase, hnone]
    simp only [eq_comm]

theorem query_withAccept (format : Option ParamValue) :
    (bag.withAccept format).query = bag.query := by
  unfold withAccept
  split <;> rfl

theorem query_set (key : String) (v : ParamValue) :
    (bag.set key v).query = bag.query.insert key v := by
  unfold set
  split
  · exact congrArg (·.insert key v) (query_withAccept (some v))
  · rfl

theorem headers_set (key : String) (v : ParamValue) (name : String) :
    (bag.set key v).headers.get? name
      = if key = "format" ∧ name = "accept" then mediaType? v else bag.headers.get? name := by
  unfold set
  by_cases hkey : key = "format"
  · rw [if_pos hkey]
    simp only [hkey, true_and]
    exact headers_withAccept (some v) name
  · rw [if_neg hkey, if_neg fun h => hkey h.1]

theorem query_remove (key : String) : (bag.remove key).query = bag.query.erase key := by
  unfold remove
  split
  · exact congrArg (·.erase key) (query_withAccept none)
  · rfl

theorem headers_remove (key name : String) :
    (bag.remove key).headers.get? name
      = if (key = "format" ∧ bag.query.contains key = true) ∧ name = "accept" then none
        else bag.headers.get? name := by
  unfold remove
  by_cases hkey : key = "format" ∧ bag.query.contains key = true
  · rw [if_pos hkey]
    simp only [iff_true_intro hkey, true_and]
    exact headers_withAccept none name
  · rw [if_neg hkey, if_neg fun h => hkey h.1]

/-- A raw text is set as some value, or nothing happens at all. -/
theorem setRaw_cases (bag : ParamBag) (key raw : String) :
    (∃ v, bag.setRaw key raw = .ok (bag.set key v)) ∨ ∃ e, bag.setRaw key raw = .error e := by
  unfold setRaw
  split
  · split
    · exact .inl ⟨_, rfl⟩
    · exact .inr ⟨_, rfl⟩
  · exact .inl ⟨_, rfl⟩

/-- **What an operation can do.** -/
theorem step_cases (bag : ParamBag) (s : BagStep) :
    bag.step s = bag ∨ (∃ key v, bag.step s = bag.set key v) ∨
      (∃ key, bag.step s = bag.remove key) ∨
      (∃ name value, s = .setHeader name value ∧ bag.step s = bag.setHeader name value) ∨
      (∃ name, s = .removeHeader name ∧ bag.step s = bag.removeHeader name) ∨
      ∃ stored loaded, s = .load stored ∧ ofJson? stored = some loaded ∧ bag.step s = loaded := by
  cases s with
  | set key v => exact .inr (.inl ⟨key, v, rfl⟩)
  | setOption key v =>
    cases v with
    | some v => exact .inr (.inl ⟨key, v, rfl⟩)
    | none => exact .inr (.inr (.inl ⟨key, rfl⟩))
  | setRaw key raw =>
    rcases bag.setRaw_cases key raw with ⟨v, hv⟩ | ⟨e, he⟩
    · refine .inr (.inl ⟨key, v, ?_⟩)
      rw [step, step?, hv]
      rfl
    · refine .inl ?_
      rw [step, step?, he]
      rfl
  | remove key => exact .inr (.inr (.inl ⟨key, rfl⟩))
  | setHeader name value => exact .inr (.inr (.inr (.inl ⟨name, value, rfl, rfl⟩)))
  | removeHeader name => exact .inr (.inr (.inr (.inr (.inl ⟨name, rfl, rfl⟩))))
  | load stored =>
    cases hloaded : ofJson? stored with
    | none =>
      refine .inl ?_
      rw [step, step?, hloaded]
      rfl
    | some loaded =>
      refine .inr (.inr (.inr (.inr (.inr ⟨stored, loaded, rfl, hloaded, ?_⟩))))
      rw [step, step?, hloaded]
      rfl

/-! ## Formats -/

/-- The words of formats are in lower case. -/
theorem asciiLower_format (f : Token .format) : Text.asciiLower f.text = f.text := by
  have hall : ∀ s ∈ TokenDomain.format.tokens, Text.asciiLower s = s := by decide
  exact hall f.text f.mem

theorem ofText?_asciiLower_eq_some_iff {s : String} {f : Token .format} :
    Token.ofText? .format (Text.asciiLower s) = some f ↔ Text.sameIgnoringCase s f.text = true := by
  rw [Text.sameIgnoringCase, asciiLower_format, decide_eq_true_iff, Token.ofText?]
  constructor
  · intro h
    split at h
    · rw [← Option.some.inj h]
    · cases h
  · intro h
    rw [dif_pos (h ▸ f.mem)]
    simp only [h]

/-- **The media type of a value** is that of the format that it spells. -/
theorem mediaType?_eq_some_iff {v : ParamValue} {media : String} :
    mediaType? v = some media ↔ ∃ f : Token .format, v.Spells f ∧ f.mediaType = media := by
  unfold mediaType?
  rw [Option.map_eq_some_iff]
  cases v with
  | text s => simp only [ParamValue.asText?, Option.bind_some, ofText?_asciiLower_eq_some_iff,
      ParamValue.Spells]
  | token s => simp only [ParamValue.asText?, Option.bind_some, ofText?_asciiLower_eq_some_iff,
      ParamValue.Spells]
  | _ => simp [ParamValue.asText?, ParamValue.Spells]

/-- **The header agrees with the format**, if there is one. -/
def IsSynced (bag : ParamBag) : Prop :=
  ∀ v, bag.get? "format" = some v → bag.accept? = mediaType? v

theorem accept?_eq : bag.accept? = bag.headers.get? "accept" := by
  have hlower : Text.asciiLower "accept" = "accept" := by decide
  rw [accept?, header?, hlower]

theorem isSynced_empty : empty.IsSynced := by
  intro v hv
  cases hv

theorem IsSynced.set (h : bag.IsSynced) (key : String) (v : ParamValue) :
    (bag.set key v).IsSynced := by
  intro w hw
  rw [get?, query_set, KeyMap.get?_insert] at hw
  rw [accept?_eq, headers_set]
  by_cases hkey : key = "format"
  · rw [if_pos hkey] at hw
    rw [if_pos ⟨hkey, rfl⟩, Option.some.inj hw]
  · rw [if_neg hkey] at hw
    rw [if_neg fun hboth => hkey hboth.1, ← accept?_eq, h w hw]

theorem IsSynced.remove (h : bag.IsSynced) (key : String) : (bag.remove key).IsSynced := by
  intro w hw
  rw [get?, query_remove, KeyMap.get?_erase] at hw
  by_cases hkey : key = "format"
  · rw [if_pos hkey] at hw
    cases hw
  · rw [if_neg hkey] at hw
    rw [accept?_eq, headers_remove, if_neg fun hboth => hkey hboth.1.1, ← accept?_eq, h w hw]

/-- Headers with another name are none of its business. -/
theorem accept?_setHeader {name : String} (hname : Text.sameIgnoringCase name "accept" = false)
    (value : String) : (bag.setHeader name value).accept? = bag.accept? := by
  have hne : Text.asciiLower name ≠ "accept" := of_decide_eq_false hname
  rw [accept?_eq, accept?_eq, setHeader, KeyMap.get?_insert, if_neg hne]

theorem accept?_removeHeader {name : String}
    (hname : Text.sameIgnoringCase name "accept" = false) :
    (bag.removeHeader name).accept? = bag.accept? := by
  have hne : Text.asciiLower name ≠ "accept" := of_decide_eq_false hname
  rw [accept?_eq, accept?_eq, removeHeader, KeyMap.get?_erase, if_neg hne]

theorem query_synced (bag : ParamBag) : bag.synced.query = bag.query := by
  unfold synced
  split
  · exact query_withAccept _
  · rfl

/-- **A stored bag is brought to agree** when it is read. -/
theorem isSynced_synced (bag : ParamBag) : bag.synced.IsSynced := by
  intro v hv
  rw [get?, query_synced] at hv
  rw [accept?_eq, synced, hv]
  exact headers_withAccept (some v) "accept"

/-- A bag that agrees stays as it is. -/
theorem IsSynced.synced_eq (h : bag.IsSynced) : bag.synced = bag := by
  unfold synced
  split
  · rename_i v hv
    have haccept : bag.headers.get? "accept" = mediaType? v := by rw [← accept?_eq, h v hv]
    have hheaders : (bag.withAccept (some v)).headers = bag.headers := by
      apply KeyMap.ext_get?
      intro name
      rw [headers_withAccept]
      by_cases hname : name = "accept"
      · rw [if_pos hname, hname, haccept]
        rfl
      · rw [if_neg hname]
    have hquery : (bag.withAccept (some v)).query = bag.query := query_withAccept (some v)
    calc bag.withAccept (some v)
        = ⟨(bag.withAccept (some v)).query, (bag.withAccept (some v)).headers⟩ := rfl
      _ = bag := by rw [hquery, hheaders]
  · rfl

theorem exists_synced_of_ofJson? {stored : Json} {loaded : ParamBag}
    (h : ofJson? stored = some loaded) : ∃ written : ParamBag, loaded = written.synced := by
  unfold ofJson? at h
  split at h
  · obtain ⟨query, -, h⟩ := Option.bind_eq_some_iff.1 h
    obtain ⟨headers, -, h⟩ := Option.bind_eq_some_iff.1 h
    exact ⟨⟨query, headers⟩, (Option.some.inj h).symm⟩
  · cases h

theorem isSynced_of_ofJson? {stored : Json} {loaded : ParamBag}
    (h : ofJson? stored = some loaded) : loaded.IsSynced := by
  obtain ⟨written, rfl⟩ := exists_synced_of_ofJson? h
  exact isSynced_synced written

/-! ## Histories -/

/-- **No operation breaks the agreement.** -/
theorem IsSynced.step (h : bag.IsSynced) (hs : s.LeavesAccept) : (bag.step s).IsSynced := by
  rcases bag.step_cases s with
    heq | ⟨key, v, heq⟩ | ⟨key, heq⟩ | ⟨name, value, rfl, heq⟩ | ⟨name, rfl, heq⟩ |
      ⟨stored, loaded, -, hloaded, heq⟩ <;> rw [heq]
  · exact h
  · exact h.set key v
  · exact h.remove key
  · intro v hv
    rw [accept?_setHeader hs value]
    exact h v hv
  · intro v hv
    rw [accept?_removeHeader hs]
    exact h v hv
  · exact isSynced_of_ofJson? hloaded

/-- Without a format there is no header, unless a stored bag brought one. -/
theorem accept?_step_eq_none (h : bag.get? "format" = none → bag.accept? = none)
    (hs : s.LeavesAccept) (hload : ¬ s.IsLoad) :
    (bag.step s).get? "format" = none → (bag.step s).accept? = none := by
  rcases bag.step_cases s with
    heq | ⟨key, v, heq⟩ | ⟨key, heq⟩ | ⟨name, value, rfl, heq⟩ | ⟨name, rfl, heq⟩ |
      ⟨stored, loaded, rfl, -, -⟩
  · rw [heq]
    exact h
  · rw [heq, get?, query_set, KeyMap.get?_insert, accept?_eq, headers_set]
    by_cases hkey : key = "format"
    · rw [if_pos hkey]
      intro hnone
      cases hnone
    · rw [if_neg hkey, if_neg fun hboth => hkey hboth.1, ← accept?_eq]
      exact h
  · rw [heq, accept?_eq, headers_remove]
    intro hnone
    rw [get?, query_remove, KeyMap.get?_erase] at hnone
    by_cases hkey : key = "format" ∧ bag.query.contains key = true
    · rw [if_pos ⟨hkey, rfl⟩]
    · -- what was removed is another parameter, or there was no format to remove
      rw [if_neg fun hboth => hkey hboth.1, ← accept?_eq]
      apply h
      by_cases hformat : key = "format"
      · have hcontains : ¬ (bag.query.get? key).isSome = true := fun hc => hkey ⟨hformat, hc⟩
        rw [get?, ← hformat]
        exact Option.not_isSome_iff_eq_none.1 hcontains
      · rwa [if_neg hformat] at hnone
  · rw [heq, accept?_setHeader hs value]
    exact h
  · rw [heq, accept?_removeHeader hs]
    exact h
  · exact absurd trivial hload

/-- Setting a raw text fails for a format that there is not, and for nothing else. -/
theorem setRaw_fails_iff {key raw : String} :
    (∃ e, bag.setRaw key raw = .error e) ↔
      key = "format" ∧ ∀ f : Token .format, Text.sameIgnoringCase raw f.text = false := by
  unfold setRaw
  by_cases hkey : key = "format"
  · rw [if_pos hkey]
    simp only [hkey, true_and]
    cases hf : Token.ofText? .format (Text.asciiLower raw) with
    | some f =>
      have hspells := ofText?_asciiLower_eq_some_iff.1 hf
      refine iff_of_false (fun ⟨e, he⟩ => by cases he) fun hnone => ?_
      rw [hnone f] at hspells
      cases hspells
    | none =>
      refine iff_of_true ⟨_, rfl⟩ fun f => Bool.eq_false_iff.2 fun hspells => ?_
      rw [ofText?_asciiLower_eq_some_iff.2 hspells] at hf
      cases hf
  · rw [if_neg hkey]
    exact iff_of_false (fun ⟨e, he⟩ => by cases he) fun hboth => hkey hboth.1

/-- **The header `accept` follows the parameter `format`.** After every history in which nobody
writes the header by hand, a bag with a format has the header exactly when the format spells one of
the formats, and then it is the media type of that one. If no stored bag was put in its place, a bag
without a format has no such header. A raw text that is refused changes nothing. -/
theorem accept?_after (steps : List BagStep) (hsteps : ∀ s ∈ steps, s.LeavesAccept) :
    (∀ v, (after steps).get? "format" = some v → ∀ media,
      (after steps).accept? = some media ↔
        ∃ f : Token .format, v.Spells f ∧ f.mediaType = media) ∧
    ((∀ s ∈ steps, ¬ s.IsLoad) →
      (after steps).get? "format" = none → (after steps).accept? = none) ∧
    ∀ key raw,
      ((∃ e, (after steps).setRaw key raw = .error e) ↔
        key = "format" ∧ ∀ f : Token .format, Text.sameIgnoringCase raw f.text = false) ∧
      ∀ e, (after steps).setRaw key raw = .error e →
        (after steps).step (.setRaw key raw) = after steps := by
  have hsynced : (after steps).IsSynced :=
    List.foldlRecOn steps step isSynced_empty fun bag h s hs => h.step (hsteps s hs)
  refine ⟨?_, ?_, ?_⟩
  · intro v hv media
    rw [hsynced v hv]
    exact mediaType?_eq_some_iff
  · intro hload
    refine List.foldlRecOn steps step (motive := fun bag =>
      bag.get? "format" = none → bag.accept? = none) ?_ ?_
    · exact fun _ => accept?_eq
    · exact fun bag h s hs => accept?_step_eq_none h (hsteps s hs) (hload s hs)
  · intro key raw
    refine ⟨setRaw_fails_iff, fun e he => ?_⟩
    rw [step, step?, he]
    rfl

/-- A stored bag whose header contradicts its format, a format in mixed case, and one that is
refused. -/
theorem accept?_after_load :
    let steps : List BagStep :=
      [.load (.object [("query", .object [("format", .tagged "text" (.text "YAML"))]),
        ("headers", .object [("accept", .text "text/html")])]),
      .setHeader "X-Opaque-Id" "a", .setRaw "format" "xml"]
    (∀ s ∈ steps, s.LeavesAccept) ∧ (after steps).get? "format" = some (.text "YAML") ∧
      (after steps).accept? = some "application/yaml" := by
  intro steps
  have hsteps : ∀ s ∈ steps, s.LeavesAccept := by decide
  have hformat : (after steps).get? "format" = some (.text "YAML") := by decide +kernel
  refine ⟨hsteps, hformat, ?_⟩
  apply ((accept?_after steps hsteps).1 _ hformat _).2
  exact ⟨⟨"yaml", by decide⟩, by decide, rfl⟩

end ParamBag

end SearchRest
