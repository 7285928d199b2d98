/-
Times in drafts.

A setter of an operation writes one parameter. Those that take a time write its
text, and the others write parameters of their own: in no operation of the
catalogue does a parameter have two kinds of setters, and none that is called a
timeout takes anything but a time. A start writes no parameter at all. So what
stands in a draft under the key of a time was written by a setter that takes one,
and it is in the grammar of the server.
-/
import Mathlib.Data.List.Infix
import SearchRest.Proofs.Draft.Slots
import SearchRest.Proofs.Time.Values

set_option autoImplicit false

namespace SearchRest

namespace Operation

/-! ## Parameters that are no times -/

/-- The parameters of the operation that take a time. -/
def timeKeys (o : Operation) : List String :=
  (o.values.filter fun f => f.type = .time).map ParamField.key

/-- **The parameters of the operation that take something else.** -/
def plainKeys (o : Operation) : List String :=
  o.clearable ++ (o.values.filter fun f => f.type ≠ .time).map ParamField.key
    ++ o.listKeys ++ ["format", "source"]

/-- **The keys under which the operation keeps a time**: those of the parameters that take one, and
whatever is called a timeout. -/
def IsTimeKey (o : Operation) (key : String) : Prop :=
  key ∈ o.timeKeys ∨ "timeout".toList <:+ key.toList

instance (o : Operation) (key : String) : Decidable (o.IsTimeKey key) :=
  inferInstanceAs (Decidable (_ ∨ _))

/-- **No parameter of the catalogue is a time and something else.** -/
theorem not_isTimeKey_of_mem_plainKeys :
    ∀ o ∈ Catalogue.operations, ∀ key ∈ o.plainKeys, ¬ o.IsTimeKey key := by
  decide +kernel

variable {o : Operation}

/-! ## What an edit does to times -/

/-- **The edit writes no time key with anything but a time.** -/
def KeepsTimes (o : Operation) : Edit → Prop
  | .query key (some v) => key ∈ o.plainKeys ∨ ∃ t : TimeValue, v = .ofTime t
  | _ => True

/-- **What the draft holds is a time**, except under the keys of parameters that take something
else. -/
def HoldsTimes (o : Operation) (d : Draft) : Prop :=
  ∀ key v, key ∉ o.plainKeys → d.params.get? key = some v → ∃ t : TimeValue, v = .ofTime t

theorem holdsTimes_empty : o.HoldsTimes Draft.empty := by
  intro key v _ hv
  cases hv

/-- An edit that keeps times keeps what holds of the draft. -/
theorem HoldsTimes.edit {d : Draft} (hd : o.HoldsTimes d) {e : Edit} (he : o.KeepsTimes e) :
    o.HoldsTimes (d.edit e) := by
  intro key v hkey hv
  cases e with
  | query key' v' =>
    have hread : (d.edit (.query key' v')).params.get? key
        = if key' = key then v' else d.params.get? key := ParamBag.query_setOption key' key v'
    rw [hread] at hv
    by_cases hsame : key' = key
    · subst hsame
      rw [if_pos rfl] at hv
      subst hv
      exact he.resolve_left hkey
    · rw [if_neg hsame] at hv
      exact hd key v hkey hv
  | bind name v' => exact hd key v hkey hv
  | header name value => exact hd key v hkey hv
  | attach body => exact hd key v hkey hv

theorem HoldsTimes.editAll {d : Draft} (hd : o.HoldsTimes d) {edits : List Edit}
    (hedits : ∀ e ∈ edits, o.KeepsTimes e) : o.HoldsTimes (d.editAll edits) := by
  induction edits generalizing d with
  | nil => exact hd
  | cons e edits ih =>
    obtain ⟨he, hedits⟩ := List.forall_mem_cons.1 hedits
    exact ih (hd.edit he) hedits

/-- **What a setter writes under the key of a time is one.** -/
theorem Writes.keepsTimes {e : Edit} (h : o.Writes e) : o.KeepsTimes e := by
  cases h with
  | flag h b =>
    cases b with
    | none => exact trivial
    | some b => exact .inl (List.mem_append_left _ (List.mem_append_left _
        (List.mem_append_left _ h)))
  | @value f h v =>
    by_cases htime : f.type = .time
    · obtain ⟨setter, key, type⟩ := f
      subst htime
      exact .inr ⟨v, rfl⟩
    · have hplain : f ∈ o.values.filter fun f => f.type ≠ .time :=
        List.mem_filter.2 ⟨h, decide_eq_true htime⟩
      exact .inl (List.mem_append_left _ (List.mem_append_left _
        (List.mem_append_right _ (List.mem_map_of_mem hplain))))
  | list h items => exact .inl (List.mem_append_left _ (List.mem_append_right _ h))
  | format t => exact .inl (List.mem_append_right _ (by decide))
  | source s => exact .inl (List.mem_append_right _ (by decide))
  | _ => exact trivial

/-! ## Drafts of an operation -/

/-- **In every draft of an operation, what takes a time holds one.** -/
theorem holdsTimes_build (s : o.Start) (settings : List o.Setting) :
    o.HoldsTimes (build s settings) := by
  obtain ⟨binds, hdraft, hbinds⟩ := s.exists_binds
  have hstart : o.HoldsTimes s.draft := by
    rw [hdraft]
    refine holdsTimes_empty.editAll fun e he => ?_
    obtain ⟨name, -, v, rfl⟩ := hbinds e he
    exact trivial
  refine hstart.editAll fun e he => ?_
  obtain ⟨setting, -, rfl⟩ := List.mem_map.1 he
  exact setting.writes.keepsTimes

end Operation

namespace TimeValue

/-- **Time values are the times of the server.** The reader accepts just the texts of the grammar and
keeps them as they are; any other text is an error that carries it. However a time value was made,
its text is in the grammar. Reading the text gives the time value again, and so does reading its
stored form, which nothing else that is stored shares. In a draft that was put together by a start
and setters of an operation, what a parameter for a time holds is a text of the grammar. -/
theorem server_reads_times :
    (∀ s : String, (∃ t, parse s = .ok t) ↔ IsServerTime s) ∧
    (∀ (s : String) (t : TimeValue), parse s = .ok t ↔ t.text = s) ∧
    (∀ (s : String) (e : RequestError),
      parse s = .error e ↔ ¬ IsServerTime s ∧ e = .invalidParameterValue s description) ∧
    (∀ t : TimeValue, IsServerTime t.text ∧ parse t.text = .ok t ∧
      Stored.read? t.toJson.write = some t ∧ ∀ v : Json, ofJson? v = some t ↔ v = t.toJson) ∧
    ∀ o ∈ Catalogue.operations, ∀ (start : o.Start) (settings : List o.Setting) (key : String)
      (v : ParamValue), o.IsTimeKey key →
        (Operation.build start settings).params.get? key = some v →
          ∃ s, v = .text s ∧ IsServerTime s := by
  refine ⟨fun s => ?_, fun s t => parse_eq_ok_iff, fun s e => parse_eq_error_iff, fun t => ?_, ?_⟩
  · exact ⟨fun ⟨t, ht⟩ => parse_eq_ok_iff.1 ht ▸ t.isServerTime,
      fun h => ⟨⟨s, isTime_iff.2 h⟩, parse_eq_ok_iff.2 rfl⟩⟩
  · exact ⟨t.isServerTime, parse_eq_ok_iff.2 rfl, read?_write_toJson t,
      fun v => ofJson?_eq_some_iff⟩
  · intro o ho start settings key v hkey hv
    have hplain : key ∉ o.plainKeys := fun hmem =>
      Operation.not_isTimeKey_of_mem_plainKeys o ho key hmem hkey
    obtain ⟨t, rfl⟩ := Operation.holdsTimes_build start settings key v hplain hv
    exact ⟨t.text, rfl, t.isServerTime⟩

/-- A deletion that may take a minute and a half, set after a time that is written over. -/
theorem server_reads_times_deleteDocument :
    let o := Catalogue.deleteDocument
    let start : o.Start := .documentId (by decide) .empty ⟨"order"⟩ ⟨"42"⟩
    let timeout (t : TimeValue) : o.Setting :=
      ⟨.value "timeout" "timeout" .time,
        by simp [o, Catalogue.deleteDocument, Operation.setters, Catalogue.time], t⟩
    let settings := [timeout minusOne, timeout (ofDuration ⟨90, 0, by decide, by decide⟩)]
    o ∈ Catalogue.operations ∧ o.IsTimeKey "timeout" ∧
      (Operation.build start settings).params.get? "timeout" = some (.text "90s") ∧
      IsServerTime "90s" := by
  intro o start timeout settings
  have hmem : o ∈ Catalogue.operations := by decide +kernel
  have hkey : o.IsTimeKey "timeout" := .inr (by decide)
  have hget : (Operation.build start settings).params.get? "timeout" = some (.text "90s") := by
    decide +kernel
  obtain ⟨s, hs, htime⟩ := server_reads_times.2.2.2.2 o hmem start settings "timeout" _ hkey hget
  obtain rfl := ParamValue.text.inj hs
  exact ⟨hmem, hkey, hget, htime⟩

end TimeValue

end SearchRest
