/-
Headers that are set by hand.

A header keeps the value that it was given until it is written again or removed,
whatever happens to the parameters. The header `accept` is the one exception,
because it is also the header that goes with `format`. A bag does not remember
which of the two it is. When a format is removed, or when a value that is no
format is put in its place, the header goes, even if it was set by hand and even
if there never was another.
-/
import SearchRest.Proofs.Param.History

set_option autoImplicit false

namespace SearchRest

namespace BagStep

/-- Whether the operation leaves a header alone, as far as headers are written by their names. -/
def LeavesHeader (name : String) : BagStep → Prop
  | .setHeader other _ | .removeHeader other => Text.sameIgnoringCase other name = false
  | _ => True

/-- **Whether the operation sets the parameter `format` to one of the formats**, so that the header
`accept` becomes the media type of it. -/
def SetsFormat : BagStep → Prop
  | .set key v | .setOption key (some v) => key = "format" ∧ ∃ f : Token .format, v.Spells f
  | .setRaw key raw =>
    key = "format" ∧ ∃ f : Token .format, Text.sameIgnoringCase raw f.text = true
  | _ => False

/-- **Whether the operation takes the format away from a bag**: it removes the one that is there, or
it puts a value in its place that spells no format. -/
def DropsFormat (bag : ParamBag) : BagStep → Prop
  | .set key v | .setOption key (some v) => key = "format" ∧ ∀ f : Token .format, ¬ v.Spells f
  | .setOption key none | .remove key => key = "format" ∧ (bag.get? "format").isSome = true
  | _ => False

end BagStep

namespace ParamBag

variable {bag : ParamBag} {s : BagStep}

/-! ## One operation -/

theorem mediaType?_eq_none_iff {v : ParamValue} :
    mediaType? v = none ↔ ∀ f : Token .format, ¬ v.Spells f := by
  rw [Option.eq_none_iff_forall_ne_some]
  constructor
  · exact fun h f hf => h _ (mediaType?_eq_some_iff.2 ⟨f, hf, rfl⟩)
  · intro h media hmedia
    obtain ⟨f, hf, -⟩ := mediaType?_eq_some_iff.1 hmedia
    exact h f hf

theorem accept?_set_eq_none {v : ParamValue} (h : ∀ f : Token .format, ¬ v.Spells f) :
    (bag.set "format" v).accept? = none := by
  rw [accept?_eq, headers_set, if_pos ⟨rfl, rfl⟩, mediaType?_eq_none_iff.2 h]

theorem accept?_remove_eq_none (h : (bag.get? "format").isSome = true) :
    (bag.remove "format").accept? = none := by
  rw [accept?_eq, headers_remove, if_pos ⟨⟨rfl, h⟩, rfl⟩]

/-- **An operation that takes the format away takes the header with it.** -/
theorem accept?_step_of_dropsFormat (h : s.DropsFormat bag) : (bag.step s).accept? = none := by
  cases s with
  | set key v =>
    obtain ⟨rfl, hv⟩ := h
    exact accept?_set_eq_none hv
  | setOption key v =>
    cases v with
    | some v =>
      obtain ⟨rfl, hv⟩ := h
      exact accept?_set_eq_none hv
    | none =>
      obtain ⟨rfl, hsome⟩ := h
      exact accept?_remove_eq_none hsome
  | remove key =>
    obtain ⟨rfl, hsome⟩ := h
    exact accept?_remove_eq_none hsome
  | _ => exact h.elim

theorem accept?_set_of_ne {key : String} (hkey : key ≠ "format") (v : ParamValue) :
    (bag.set key v).accept? = bag.accept? := by
  rw [accept?_eq, accept?_eq, headers_set, if_neg fun h => hkey h.1]

theorem accept?_remove {key : String}
    (h : ¬ (key = "format" ∧ (bag.get? "format").isSome = true)) :
    (bag.remove key).accept? = bag.accept? := by
  rw [accept?_eq, accept?_eq, headers_remove, if_neg]
  rintro ⟨⟨rfl, hsome⟩, -⟩
  exact h ⟨rfl, hsome⟩

/-- **Every other operation keeps the header**, unless it sets a format or writes the header. -/
theorem accept?_step_of_not_dropsFormat (hleaves : s.LeavesAccept) (hload : ¬ s.IsLoad)
    (hsets : ¬ s.SetsFormat) (hdrops : ¬ s.DropsFormat bag) :
    (bag.step s).accept? = bag.accept? := by
  -- a value of `format` spells one of the formats or none, and neither is set
  have hset : ∀ {key} {v : ParamValue}, ¬ (key = "format" ∧ ∃ f : Token .format, v.Spells f) →
      ¬ (key = "format" ∧ ∀ f : Token .format, ¬ v.Spells f) → key ≠ "format" := by
    rintro key v hsome hnone rfl
    exact hnone ⟨rfl, fun f hf => hsome ⟨rfl, f, hf⟩⟩
  cases s with
  | set key v => exact accept?_set_of_ne (hset hsets hdrops) v
  | setOption key v =>
    cases v with
    | some v => exact accept?_set_of_ne (hset hsets hdrops) v
    | none => exact accept?_remove hdrops
  | setRaw key raw =>
    rcases bag.setRaw_cases key raw with ⟨v, hv⟩ | ⟨e, he⟩
    · -- a raw format that is set is one of the formats
      have hkey : key ≠ "format" := by
        rintro rfl
        obtain ⟨e, he⟩ : ∃ e, bag.setRaw "format" raw = .error e := by
          refine setRaw_fails_iff.2 ⟨rfl, fun f => Bool.eq_false_iff.2 fun hf => ?_⟩
          exact hsets ⟨rfl, f, hf⟩
        exact absurd (hv.symm.trans he) nofun
      rw [step, step?, hv]
      exact accept?_set_of_ne hkey v
    · rw [step, step?, he]
      rfl
  | remove key => exact accept?_remove hdrops
  | setHeader name value => exact accept?_setHeader hleaves value
  | removeHeader name => exact accept?_removeHeader hleaves
  | load stored => exact absurd trivial hload

/-- **Another header is kept by every operation** that does not write it. -/
theorem header?_step {name : String} (hname : Text.sameIgnoringCase name "accept" = false)
    (hleaves : s.LeavesHeader name) (hload : ¬ s.IsLoad) :
    (bag.step s).header? name = bag.header? name := by
  have hne : Text.asciiLower name ≠ "accept" := of_decide_eq_false hname
  rcases bag.step_cases s with
    heq | ⟨key, v, heq⟩ | ⟨key, heq⟩ | ⟨other, value, rfl, heq⟩ | ⟨other, rfl, heq⟩ |
      ⟨stored, loaded, rfl, -, -⟩
  · rw [heq]
  · rw [heq, header?, headers_set, if_neg fun h => hne h.2, header?]
  · rw [heq, header?, headers_remove, if_neg fun h => hne h.2, header?]
  · rw [heq, header?, setHeader, KeyMap.get?_insert, if_neg (of_decide_eq_false hleaves), header?]
  · rw [heq, header?, removeHeader, KeyMap.get?_erase, if_neg (of_decide_eq_false hleaves), header?]
  · exact absurd trivial hload

/-! ## Histories -/

/-- Whether some operation takes the format away from the bag that it finds. -/
def FormatDropped (bag : ParamBag) (steps : List BagStep) : Prop :=
  ∃ front s back, steps = front ++ s :: back ∧ s.DropsFormat (front.foldl step bag)

theorem not_formatDropped_nil (bag : ParamBag) : ¬ bag.FormatDropped [] := by
  rintro ⟨front, s, back, heq, -⟩
  cases front <;> cases heq

theorem formatDropped_cons_iff {steps : List BagStep} :
    bag.FormatDropped (s :: steps) ↔ s.DropsFormat bag ∨ (bag.step s).FormatDropped steps := by
  constructor
  · rintro ⟨front, t, back, heq, h⟩
    cases front with
    | nil =>
      obtain ⟨rfl, rfl⟩ := List.cons.inj heq
      exact .inl h
    | cons u front =>
      obtain ⟨rfl, rfl⟩ := List.cons.inj heq
      exact .inr ⟨front, t, back, rfl, h⟩
  · rintro (h | ⟨front, t, back, rfl, h⟩)
    · exact ⟨[], s, steps, rfl, h⟩
    · exact ⟨s :: front, t, back, rfl, h⟩

/-- **A header that is there stays until the format is taken away**, and then it is gone for good,
as long as nobody writes it and no format is set. -/
theorem accept?_foldl {steps : List BagStep} (hsteps : ∀ s ∈ steps, s.LeavesAccept)
    (hload : ∀ s ∈ steps, ¬ s.IsLoad) (hsets : ∀ s ∈ steps, ¬ s.SetsFormat) :
    (¬ bag.FormatDropped steps → (steps.foldl step bag).accept? = bag.accept?) ∧
      (bag.FormatDropped steps ∨ bag.accept? = none → (steps.foldl step bag).accept? = none) := by
  induction steps generalizing bag with
  | nil =>
    exact ⟨fun _ => rfl, fun h => h.resolve_left (not_formatDropped_nil bag)⟩
  | cons s steps ih =>
    obtain ⟨hleaves, hsteps⟩ := List.forall_mem_cons.1 hsteps
    obtain ⟨hstay, hload⟩ := List.forall_mem_cons.1 hload
    obtain ⟨hset, hsets⟩ := List.forall_mem_cons.1 hsets
    obtain ⟨hkept, hgone⟩ := @ih (bag.step s) hsteps hload hsets
    have hstep : ¬ s.DropsFormat bag → (bag.step s).accept? = bag.accept? :=
      accept?_step_of_not_dropsFormat hleaves hstay hset
    rw [formatDropped_cons_iff, List.foldl_cons]
    constructor
    · intro hnot
      obtain ⟨hs, hrest⟩ := not_or.1 hnot
      rw [hkept hrest, hstep hs]
    · rintro ((hs | hrest) | hnone)
      · exact hgone (.inr (accept?_step_of_dropsFormat hs))
      · exact hgone (.inl hrest)
      · by_cases hs : s.DropsFormat bag
        · exact hgone (.inr (accept?_step_of_dropsFormat hs))
        · exact hgone (.inr ((hstep hs).trans hnone))

theorem header?_foldl {name : String} (hname : Text.sameIgnoringCase name "accept" = false)
    {steps : List BagStep} (hsteps : ∀ s ∈ steps, s.LeavesHeader name)
    (hload : ∀ s ∈ steps, ¬ s.IsLoad) :
    (steps.foldl step bag).header? name = bag.header? name :=
  List.foldlRecOn steps step (motive := fun b => b.header? name = bag.header? name) rfl
    fun _ h s hs => (header?_step hname (hsteps s hs) (hload s hs)).trans h

theorem header?_setHeader (name value : String) :
    (bag.setHeader name value).header? name = some value := by
  rw [header?, setHeader, KeyMap.get?_insert, if_pos rfl]

theorem leavesHeader_iff {name : String} (hname : Text.sameIgnoringCase name "accept" = true) :
    s.LeavesHeader name ↔ s.LeavesAccept := by
  have hlower : Text.asciiLower name = Text.asciiLower "accept" := of_decide_eq_true hname
  cases s with
  | setHeader other value => simp [BagStep.LeavesHeader, BagStep.LeavesAccept,
      Text.sameIgnoringCase, hlower]
  | removeHeader other => simp [BagStep.LeavesHeader, BagStep.LeavesAccept,
      Text.sameIgnoringCase, hlower]
  | _ => exact Iff.rfl

/-- **What becomes of a header that is set by hand.** Let the header be written by no operation that
comes later, and let none of these put a stored bag in the place of the bag. Any header but `accept`
then keeps its value. The header `accept` keeps it too, until a format is set, exactly if no
operation takes the format away from the bag that it finds, and otherwise the header is gone. -/
theorem header?_after_setHeader (before : List BagStep) {name : String} (value : String)
    {steps : List BagStep} (hsteps : ∀ s ∈ steps, s.LeavesHeader name)
    (hload : ∀ s ∈ steps, ¬ s.IsLoad) :
    let reached := after (before ++ .setHeader name value :: steps)
    let found := (after before).setHeader name value
    (Text.sameIgnoringCase name "accept" = false → reached.header? name = some value) ∧
    (Text.sameIgnoringCase name "accept" = true → (∀ s ∈ steps, ¬ s.SetsFormat) →
      (reached.accept? = some value ↔ ¬ found.FormatDropped steps) ∧
      (reached.accept? = none ↔ found.FormatDropped steps)) := by
  intro reached found
  have hreached : reached = steps.foldl step found := by
    show after (before ++ .setHeader name value :: steps) = _
    rw [after, List.foldl_append, List.foldl_cons]
    rfl
  constructor
  · intro hname
    rw [hreached, header?_foldl hname hsteps hload]
    exact header?_setHeader name value
  · intro hname hsets
    have hfound : found.accept? = some value := by
      have hlower : Text.asciiLower name = Text.asciiLower "accept" := of_decide_eq_true hname
      rw [accept?, header?, ← hlower]
      exact header?_setHeader name value
    have hleaves : ∀ s ∈ steps, s.LeavesAccept := fun s hs =>
      (leavesHeader_iff hname).1 (hsteps s hs)
    obtain ⟨hkept, hgone⟩ := @accept?_foldl found steps hleaves hload hsets
    rw [hreached]
    by_cases hdropped : found.FormatDropped steps
    · rw [hgone (.inl hdropped)]
      simp [hdropped]
    · rw [hkept hdropped, hfound]
      simp [hdropped]

/-- A format that is refused, one that is removed where there is none, and another header leave the
header as it was set. -/
theorem header?_after_setHeader_of_refused :
    let steps : List BagStep :=
      [.setRaw "format" "xml", .remove "format", .setHeader "X-Opaque-Id" "a"]
    (∀ s ∈ steps, s.LeavesHeader "Accept") ∧ (∀ s ∈ steps, ¬ s.IsLoad) ∧
      (after (.setHeader "Accept" "text/html" :: steps)).accept? = some "text/html" := by
  intro steps
  have hrefused : ∀ f : Token .format, Text.sameIgnoringCase "xml" f.text = false :=
    ((@setRaw_fails_iff empty "format" "xml").1
      ⟨.invalidParameterValue "xml" TokenDomain.format.description, by decide +kernel⟩).2
  have hother : Text.sameIgnoringCase "X-Opaque-Id" "Accept" = false := by decide
  have hleaves : ∀ s ∈ steps, s.LeavesHeader "Accept" := by
    simp [steps, BagStep.LeavesHeader, hother]
  have hload : ∀ s ∈ steps, ¬ s.IsLoad := by simp [steps, BagStep.IsLoad]
  have hsets : ∀ s ∈ steps, ¬ s.SetsFormat := by simp [steps, BagStep.SetsFormat, hrefused]
  have hnone : (((after []).setHeader "Accept" "text/html").step (.setRaw "format" "xml")).get?
      "format" = none := by decide +kernel
  have hdropped : ¬ ((after []).setHeader "Accept" "text/html").FormatDropped steps := by
    simp [steps, formatDropped_cons_iff, not_formatDropped_nil, BagStep.DropsFormat, hnone]
  obtain ⟨-, haccept⟩ := header?_after_setHeader [] "text/html" hleaves hload
  exact ⟨hleaves, hload, (haccept (by decide) hsets).1.2 hdropped⟩

/-- **A header that was set by hand goes with the format**, although no operation wrote it. -/
theorem not_forall_accept?_after_setHeader :
    ¬ ∀ (before : List BagStep) (value : String) (steps : List BagStep),
      (∀ s ∈ before ++ steps, ¬ s.IsLoad) →
      (∀ s ∈ steps, s.LeavesHeader "accept" ∧ ¬ s.SetsFormat) →
      (after (before ++ .setHeader "accept" value :: steps)).accept? = some value := by
  intro h
  have hkept := h [.setRaw "format" "yaml"] "text/html" [.remove "format"]
    (by simp [BagStep.IsLoad])
    (by simp [BagStep.LeavesHeader, BagStep.SetsFormat])
  have hgone : (after [.setRaw "format" "yaml", .setHeader "accept" "text/html",
      .remove "format"]).accept? = none := by decide +kernel
  exact absurd (hkept.symm.trans hgone) nofun

end ParamBag

end SearchRest
