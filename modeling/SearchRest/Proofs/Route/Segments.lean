/-
The segments of an endpoint, and which of them are required.

The list of segments is made of all placeholders in the order of the templates,
each name at its first occurrence. It says of each segment whether every template
has it. That is a statement about texts, and it agrees with what the choice does:
a template that lacks a segment is completed without it, and bindings that leave
unbound what every template has fit none.
-/
import SearchRest.Endpoint
import SearchRest.Proofs.Route.Repair

set_option autoImplicit false

namespace SearchRest

/-! ## First occurrences -/

/-- **Repeated members are dropped in order**: what is left stands in the order in which it first
occurs. -/
theorem pairwise_idxOf_eraseDups {α : Type} [DecidableEq α] (l : List α) :
    l.eraseDups.Pairwise fun a b => l.idxOf a < l.idxOf b := by
  -- from the end, as the members are met
  induction l using List.reverseRecOn with
  | nil => exact List.Pairwise.nil
  | append_singleton l c ih =>
    have hold : ∀ a ∈ l.eraseDups, (l ++ [c]).idxOf a = l.idxOf a := fun a ha =>
      List.idxOf_append_of_mem (List.mem_eraseDups.1 ha)
    have hpairs : l.eraseDups.Pairwise fun a b => (l ++ [c]).idxOf a < (l ++ [c]).idxOf b := by
      refine ih.imp_of_mem fun ha hb hlt => ?_
      rwa [hold _ ha, hold _ hb]
    rw [List.eraseDups_append]
    by_cases hc : c ∈ l
    · have hnone : [c].removeAll l = [] := by simp [List.removeAll, hc]
      rw [hnone, List.eraseDups_nil, List.append_nil]
      exact hpairs
    · have hone : ([c].removeAll l).eraseDups = [c] := by
        simp [List.removeAll, hc, List.eraseDups_cons]
      rw [hone, List.pairwise_append]
      refine ⟨hpairs, List.pairwise_singleton _ _, fun a ha b hb => ?_⟩
      obtain rfl := List.mem_singleton.1 hb
      rw [hold a ha, List.idxOf_append_of_notMem hc]
      exact Nat.lt_of_lt_of_le (List.idxOf_lt_length_iff.2 (List.mem_eraseDups.1 ha))
        (Nat.le_add_right _ _)

namespace EndpointSpec

variable {e : EndpointSpec}

/-! ## The list of segments -/

theorem mem_segmentNames_iff {name : String} :
    name ∈ e.segmentNames ↔ ∃ t ∈ e.templates, name ∈ t.params := by
  rw [segmentNames, List.mem_eraseDups, List.mem_flatMap]

theorem map_fst_segments (e : EndpointSpec) : e.segments.map Prod.fst = e.segmentNames := by
  rw [segments, List.map_map]
  exact List.map_id _

theorem mem_segments_iff {name : String} {required : Bool} :
    (name, required) ∈ e.segments ↔
      name ∈ e.segmentNames ∧ (required = true ↔ ∀ t ∈ e.templates, name ∈ t.params) := by
  have hall : (e.templates.all fun t => t.hasParam name) = required ↔
      (required = true ↔ ∀ t ∈ e.templates, name ∈ t.params) := by
    rw [Bool.eq_iff_iff, List.all_eq_true]
    simp only [Template.hasParam, List.contains_iff_mem]
    exact iff_comm
  rw [segments, List.mem_map, ← hall]
  constructor
  · rintro ⟨other, hother, heq⟩
    obtain ⟨rfl, hrequired⟩ := Prod.mk.inj heq
    exact ⟨hother, hrequired⟩
  · rintro ⟨hname, hrequired⟩
    exact ⟨name, hname, by rw [hrequired]⟩

/-- A segment is required when it is one at all and every template has it. -/
theorem isRequired_iff {name : String} :
    e.isRequired name = true ↔ name ∈ e.segmentNames ∧ ∀ t ∈ e.templates, name ∈ t.params := by
  rw [isRequired, List.any_eq_true]
  constructor
  · rintro ⟨⟨other, required⟩, hmem, hboth⟩
    obtain ⟨rfl, rfl⟩ : other = name ∧ required = true := by simpa using hboth
    obtain ⟨hname, hall⟩ := mem_segments_iff.1 hmem
    exact ⟨hname, hall.1 rfl⟩
  · rintro ⟨hname, hall⟩
    exact ⟨(name, true), mem_segments_iff.2 ⟨hname, iff_of_true rfl hall⟩, by simp⟩

/-! ## The segments that a path needs -/

/-- **A template without a segment has a path without it.** -/
theorem exists_path_without {name : String} {t : Template} (ht : t ∈ e.templates)
    (hname : name ∉ t.params) :
    ∃ b : Bindings, b.isBound name = false ∧
      ∃ path, Route.resolve e.name e.templates b = .ok path := by
  have hnothing : Route.Takes (∅ : Bindings) t := fun name hbound => by cases hbound
  obtain ⟨l, -, hfits⟩ := Route.exists_fits_insertAll hnothing
  refine ⟨_, ?_, Route.exists_path_iff.2 ⟨t, ht, hfits⟩⟩
  exact Bool.eq_false_iff.2 fun hbound => hname ((hfits name).2 hbound)

/-- **A required segment is one that no path does without.** The list of segments has every
placeholder of the templates exactly once, in the order in which they first occur, and marks the
required ones. A segment is required exactly when it is a placeholder of some template and no
bindings that leave it unbound, be it absent or empty, have a path. -/
theorem isRequired_iff_needed (e : EndpointSpec) :
    ((e.segments.map Prod.fst).Nodup ∧
      (∀ name, name ∈ e.segments.map Prod.fst ↔ ∃ t ∈ e.templates, name ∈ t.params) ∧
      (e.segments.map Prod.fst).Pairwise fun a b =>
        (e.templates.flatMap Template.params).idxOf a
          < (e.templates.flatMap Template.params).idxOf b) ∧
    (∀ s ∈ e.segments, s.2 = e.isRequired s.1) ∧
    ∀ name, e.isRequired name = true ↔
      (∃ t ∈ e.templates, name ∈ t.params) ∧
        ∀ b : Bindings, b.isBound name = false →
          ∀ path, Route.resolve e.name e.templates b ≠ .ok path := by
  have hordered := pairwise_idxOf_eraseDups (e.templates.flatMap Template.params)
  refine ⟨⟨?_, ?_, ?_⟩, ?_, fun name => ?_⟩
  · rw [map_fst_segments]
    refine hordered.imp ?_
    rintro a b hlt rfl
    exact Nat.lt_irrefl _ hlt
  · intro name
    rw [map_fst_segments, mem_segmentNames_iff]
  · rw [map_fst_segments]
    exact hordered
  · rintro ⟨name, required⟩ hs
    obtain ⟨hname, hall⟩ := mem_segments_iff.1 hs
    rw [Bool.eq_iff_iff, isRequired_iff, hall]
    exact (and_iff_right hname).symm
  · rw [isRequired_iff, mem_segmentNames_iff]
    refine and_congr_right fun _ => ⟨fun hall b hunbound path hpath => ?_, fun hneeded t ht => ?_⟩
    · obtain ⟨t, ht, hfits⟩ := Route.exists_path_iff.1 ⟨path, hpath⟩
      rw [(hfits name).1 (hall t ht)] at hunbound
      cases hunbound
    · refine Classical.byContradiction fun hout => ?_
      obtain ⟨b, hunbound, path, hpath⟩ := exists_path_without ht hout
      exact hneeded b hunbound path hpath

end EndpointSpec

end SearchRest
