/-
Bags that are stored and read again.

Reading brings the header `accept` to agree with the parameter `format` and
changes nothing else. A bag can be out of agreement, since the header can be
written by hand after the format, and then it is not read back as it was: the
header that was written is lost. Whatever the history of a bag, what is read
agrees, so storing and reading once more changes nothing.
-/
import SearchRest.Proofs.Param.Storage

set_option autoImplicit false

namespace SearchRest.ParamBag

variable {bag : ParamBag}

/-- **What is read back** from the stored form of a bag. -/
def reload? (bag : ParamBag) : Option ParamBag := ofJson? bag.toJson.canonical

/-- **The header that goes with a value of `format`**: the media type of the format that the value
spells, and no header if it spells none. -/
def GoesWith (v : ParamValue) (accept : Option String) : Prop :=
  ∀ media, accept = some media ↔ ∃ f : Token .format, v.Spells f ∧ f.mediaType = media

theorem goesWith_iff {v : ParamValue} {accept : Option String} :
    GoesWith v accept ↔ accept = mediaType? v := by
  simp only [GoesWith, ← mediaType?_eq_some_iff]
  exact Option.ext_iff.symm

/-! ## What reading changes -/

theorem headers_synced {name : String} (hname : name ≠ "accept") :
    bag.synced.headers.get? name = bag.headers.get? name := by
  unfold synced
  split
  · rw [headers_withAccept, if_neg hname]
  · rfl

theorem synced_of_no_format (h : bag.get? "format" = none) : bag.synced = bag := by
  have hquery : bag.query.get? "format" = none := h
  rw [synced, hquery]

theorem goesWith_synced {v : ParamValue} (h : bag.get? "format" = some v) :
    GoesWith v bag.synced.accept? := by
  rw [goesWith_iff]
  refine isSynced_synced bag v ?_
  rwa [get?, query_synced]

/-- **Only a bag that agrees is read back as it was.** -/
theorem synced_eq_self_iff : bag.synced = bag ↔ bag.IsSynced :=
  ⟨fun h => h ▸ isSynced_synced bag, IsSynced.synced_eq⟩

theorem isSynced_iff :
    bag.IsSynced ↔
      bag.get? "format" = none ∨ ∃ v, bag.get? "format" = some v ∧ GoesWith v bag.accept? := by
  simp only [goesWith_iff, IsSynced]
  cases bag.get? "format" with
  | none => simp
  | some v => simp

theorem reload?_eq (h : bag.IsFinite) : bag.reload? = some bag.synced := ofJson?_canonical_toJson h

/-- What was read is read back as it is. -/
theorem reload?_synced (h : bag.IsFinite) : bag.synced.reload? = some bag.synced := by
  have hfinite : bag.synced.IsFinite := by
    rw [IsFinite, query_synced]
    exact h
  rw [reload?_eq hfinite, synced_eq_self_iff.2 (isSynced_synced bag)]

/-! ## Histories -/

/-- After a history in which nobody writes the header by hand, the bag agrees. -/
theorem isSynced_after {steps : List BagStep} (h : ∀ s ∈ steps, s.LeavesAccept) :
    (after steps).IsSynced :=
  List.foldlRecOn steps step isSynced_empty fun _ hbag s hs => hbag.step (h s hs)

/-- **Storing and reading a bag repairs its `accept` header and leaves the rest.** After every history
of operations, with the header written by hand or not and with bags read before, a bag whose numbers
are all finite is read back from its stored form. All parameters are as they were, and all headers but
`accept`. That one stays as well where there is no format, and goes with the format where there is
one: it is the media type of the format that the value spells, or absent if it spells none. So the bag
is read back unchanged exactly when it has no format or its header goes with it, which is so if nobody
ever wrote the header by hand, and what was read is always read back unchanged. -/
theorem reload?_after (steps : List BagStep)
    (h : ∀ key x, (after steps).get? key = some (.number x) → x.isFinite = true) :
    ∃ loaded, (after steps).reload? = some loaded ∧
      loaded.query = (after steps).query ∧
      (∀ name, name ≠ "accept" → loaded.headers.get? name = (after steps).headers.get? name) ∧
      ((after steps).get? "format" = none → loaded.accept? = (after steps).accept?) ∧
      (∀ v, (after steps).get? "format" = some v → GoesWith v loaded.accept?) ∧
      (loaded = after steps ↔ (after steps).get? "format" = none ∨
        ∃ v, (after steps).get? "format" = some v ∧ GoesWith v (after steps).accept?) ∧
      ((∀ s ∈ steps, s.LeavesAccept) → loaded = after steps) ∧
      loaded.reload? = some loaded := by
  have hfinite : (after steps).IsFinite := isFinite_iff.2 h
  refine ⟨(after steps).synced, reload?_eq hfinite, query_synced _, fun name => headers_synced,
    fun hnone => ?_, fun v => goesWith_synced, ?_, fun hsteps => ?_, reload?_synced hfinite⟩
  · rw [synced_of_no_format hnone]
  · rw [synced_eq_self_iff, isSynced_iff]
  · exact synced_eq_self_iff.2 (isSynced_after hsteps)

/-- A header written by hand over that of a format is lost. -/
theorem reload?_after_setHeader :
    let steps : List BagStep :=
      [.setRaw "format" "YAML", .set "min_score" (.number .zero), .setHeader "Accept" "text/html",
        .setHeader "x-opaque-id" "a"]
    (∀ key x, (after steps).get? key = some (.number x) → x.isFinite = true) ∧
      (after steps).accept? = some "text/html" ∧
      ∃ loaded, (after steps).reload? = some loaded ∧ loaded.accept? = some "application/yaml" ∧
        loaded.reload? = some loaded := by
  intro steps
  have hfinite : ∀ key x, (after steps).get? key = some (.number x) → x.isFinite = true :=
    isFinite_iff.1 (by decide +kernel)
  have hformat : (after steps).get? "format" = some (.token "yaml") := by decide +kernel
  obtain ⟨loaded, hloaded, -, -, -, haccept, -, -, hagain⟩ := reload?_after steps hfinite
  refine ⟨hfinite, by decide +kernel, loaded, hloaded, ?_, hagain⟩
  exact (haccept _ hformat _).2 ⟨⟨"yaml", by decide⟩, by decide, rfl⟩

end SearchRest.ParamBag
