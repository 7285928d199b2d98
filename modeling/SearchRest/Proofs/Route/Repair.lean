/-
What an error of the choice tells about repair.

Whether more segments help is decided by the templates that take the bindings.
Where there is one, binding what it lacks makes it fit; where there is none,
none takes more than what is bound either. The first case is the error that a
segment is missing, the second one that a segment does not belong.

So a caller who binds whatever is reported missing, turn by turn, comes to a
path. The closest template takes the reported segment and then lacks less.
Another template may become the closest one, and some no longer take the
bindings, but the least number of unbound placeholders over those that do falls
with every turn. A placeholder that stands twice in a template counts twice.
-/
import SearchRest.Proofs.Route.Choice

set_option autoImplicit false

namespace SearchRest.Route

variable {endpoint : String} {templates : List Template} {b : Bindings} {t : Template}

/-! ## More segments -/

theorem mem_missing_iff {name : String} :
    name ∈ t.missing b ↔ name ∈ t.params ∧ b.isBound name = false := by
  rw [Template.missing, List.mem_filter, Bool.not_eq_true']

/-- A segment that is bound is no longer missing, and the others are as before. -/
theorem missing_insert {segment : String} {v : RouteValue} (hv : v.isEmpty = false)
    (t : Template) (b : Bindings) :
    t.missing (b.insert segment v) = (t.missing b).filter fun name => name ≠ segment := by
  rw [Template.missing, Template.missing, List.filter_filter]
  refine List.filter_congr fun name _ => ?_
  rw [Bindings.isBound_insert, hv]
  by_cases hname : segment = name
  · simp [hname]
  · simp [hname, Ne.symm hname]

/-- What is bound stays bound when segments are bound that are not. -/
theorem isBound_insertAll_of_free {l : List (String × RouteValue)}
    (hfree : ∀ e ∈ l, b.isBound e.1 = false) {name : String} (hname : b.isBound name = true) :
    Bindings.isBound (b.insertAll l) name = true := by
  have hout : name ∉ l.map Prod.fst := by
    intro hmem
    obtain ⟨e, he, rfl⟩ := List.mem_map.1 hmem
    rw [hfree e he] at hname
    cases hname
  rwa [Bindings.isBound, KeyMap.get?_insertAll_of_not_mem b hout]

/-- **Binding what a template lacks makes it fit.** -/
theorem exists_fits_insertAll (htakes : Takes b t) :
    ∃ l : List (String × RouteValue), (∀ e ∈ l, b.isBound e.1 = false) ∧ Fits (b.insertAll l) t := by
  have hshows : (RouteValue.single "a").isEmpty = false := by decide
  have hlacks : ∀ e ∈ (t.missing b).map fun name => (name, RouteValue.single "a"),
      e.1 ∈ t.missing b ∧ e.2.isEmpty = false := by
    intro e he
    obtain ⟨name, hname, rfl⟩ := List.mem_map.1 he
    exact ⟨hname, hshows⟩
  refine ⟨_, fun e he => (mem_missing_iff.1 (hlacks e he).1).2, fun name => ?_⟩
  rw [Bindings.isBound_insertAll fun e he => (hlacks e he).2, List.map_map, Function.comp_def,
    List.map_id', mem_missing_iff]
  constructor
  · intro hname
    by_cases hbound : b.isBound name = true
    · exact .inr hbound
    · exact .inl ⟨hname, Bool.eq_false_iff.2 hbound⟩
  · rintro (⟨hname, -⟩ | hbound)
    · exact hname
    · exact htakes name hbound

/-! ## The closest template -/

/-- **The template that a missing segment is named from**: of those that take the bindings the first
one with the fewest unbound placeholders. -/
def IsClosest (templates : List Template) (b : Bindings) (t : Template) : Prop :=
  IsFirstLeast (Takes b) (fun t => (t.missing b).length) templates t

theorem exists_isClosest_iff : (∃ t, IsClosest templates b t) ↔ ∃ t ∈ templates, Takes b t := by
  constructor
  · rintro ⟨t, ht⟩
    exact ⟨t, ht.mem⟩
  · rintro ⟨t, ht, htakes⟩
    have hsome : closest? templates b ≠ none := fun h => closest?_eq_none_iff.1 h t ht htakes
    obtain ⟨closest, hclosest⟩ := Option.ne_none_iff_exists'.1 hsome
    exact ⟨closest, closest?_eq_some_iff.1 hclosest⟩

/-- **The least number of unbound placeholders falls** when the segment that is reported missing is
bound. -/
theorem IsClosest.exists_insert {segment : String} {v : RouteValue} (ht : IsClosest templates b t)
    (hmissing : resolve endpoint templates b = .error (.missingRouteValue endpoint segment))
    (hv : v.isEmpty = false) :
    ∃ t', IsClosest templates (b.insert segment v) t' ∧
      (t'.missing (b.insert segment v)).length < (t.missing b).length := by
  obtain ⟨-, t₁, ht₁, hfirst⟩ := resolve_eq_missing_iff.1 hmissing
  obtain rfl : t₁ = t := ht₁.unique ht
  obtain ⟨hparam, hunbound⟩ := hfirst.mem
  -- the template still takes everything, so the closest one now lacks no more than it does
  have htakes : Takes (b.insert segment v) t₁ := by
    intro name hname
    rw [Bindings.isBound_insert] at hname
    split at hname
    · rename_i heq
      exact heq ▸ hparam
    · exact ht.mem.2 name hname
  obtain ⟨t', ht'⟩ := exists_isClosest_iff.2 ⟨t₁, ht.mem.1, htakes⟩
  refine ⟨t', ht', Nat.lt_of_le_of_lt (ht'.measure_le t₁ ht.mem.1 htakes) ?_⟩
  show (t₁.missing (b.insert segment v)).length < (t₁.missing b).length
  rw [missing_insert hv, List.length_filter_lt_length_iff_exists]
  exact ⟨segment, mem_missing_iff.2 ⟨hparam, hunbound⟩, by simp⟩

/-! ## Turn by turn -/

/-- **What is bound in some turns of repair.** Each turn binds the segment that is reported missing
to a value that shows in a path. -/
inductive IsRepair (endpoint : String) (templates : List Template) :
    Bindings → List (String × RouteValue) → Prop where
  | stop (b : Bindings) : IsRepair endpoint templates b []
  | turn {b : Bindings} {segment : String} {v : RouteValue} {rest : List (String × RouteValue)}
    (hmissing : resolve endpoint templates b = .error (.missingRouteValue endpoint segment))
    (hv : v.isEmpty = false) (hrest : IsRepair endpoint templates (b.insert segment v) rest) :
    IsRepair endpoint templates b ((segment, v) :: rest)

namespace IsRepair

variable {l : List (String × RouteValue)}

theorem shows (h : IsRepair endpoint templates b l) : ∀ e ∈ l, e.2.isEmpty = false := by
  induction h with
  | stop b => exact List.forall_mem_nil _
  | turn _ hv _ ih => exact List.forall_mem_cons.2 ⟨hv, ih⟩

/-- Only segments that were not bound are reported, and each of them once. -/
theorem fresh (h : IsRepair endpoint templates b l) :
    (l.map Prod.fst).Nodup ∧ ∀ e ∈ l, b.isBound e.1 = false := by
  induction h with
  | stop b => exact ⟨List.nodup_nil, List.forall_mem_nil _⟩
  | @turn b segment v rest hmissing hv _ ih =>
    obtain ⟨hnodup, hfree⟩ := ih
    obtain ⟨-, t, -, hfirst⟩ := resolve_eq_missing_iff.1 hmissing
    -- what is reported later is not bound then, and the first segment is
    have hlater : ∀ e ∈ rest, segment ≠ e.1 ∧ b.isBound e.1 = false := by
      intro e he
      have hfree' := hfree e he
      rw [Bindings.isBound_insert, hv] at hfree'
      by_cases heq : segment = e.1
      · simp [heq] at hfree'
      · rw [if_neg heq] at hfree'
        exact ⟨heq, hfree'⟩
    constructor
    · rw [List.map_cons, List.nodup_cons]
      refine ⟨fun hmem => ?_, hnodup⟩
      obtain ⟨e, he, heq⟩ := List.mem_map.1 hmem
      exact (hlater e he).1 heq.symm
    · exact List.forall_mem_cons.2 ⟨hfirst.mem.2, fun e he => (hlater e he).2⟩

/-- Every turn is paid for by an unbound placeholder of the closest template. -/
theorem exists_isClosest (h : IsRepair endpoint templates b l) (ht : IsClosest templates b t) :
    ∃ t', IsClosest templates (b.insertAll l) t' ∧
      l.length + (t'.missing (b.insertAll l)).length ≤ (t.missing b).length := by
  induction h generalizing t with
  | stop b => exact ⟨t, ht, Nat.le_of_eq (Nat.zero_add _)⟩
  | @turn b segment v rest hmissing hv _ ih =>
    obtain ⟨t₁, ht₁, hlt⟩ := ht.exists_insert hmissing hv
    obtain ⟨t', ht', hle⟩ := ih ht₁
    refine ⟨t', ht', ?_⟩
    rw [List.length_cons]
    show rest.length + 1 + (t'.missing (KeyMap.insertAll (b.insert segment v) rest)).length
      ≤ (t.missing b).length
    omega

/-- **After any turns there is a path, or another segment is missing** and the turns do not use up
the unbound placeholders of the template that was the closest one at first. -/
theorem resolve_insertAll (h : IsRepair endpoint templates b l) (ht : IsClosest templates b t) :
    (∃ path, resolve endpoint templates (b.insertAll l) = .ok path) ∨
      (l.length < (t.missing b).length ∧ ∃ segment, segment ∉ l.map Prod.fst ∧
        resolve endpoint templates (b.insertAll l)
          = .error (.missingRouteValue endpoint segment)) := by
  obtain ⟨t', ht', hle⟩ := h.exists_isClosest ht
  rcases resolve_trichotomy endpoint templates (b.insertAll l) with
    hpath | ⟨segment, hmissing⟩ | hunexpected
  · exact .inl hpath
  · obtain ⟨-, t₁, ht₁, hfirst⟩ := resolve_eq_missing_iff.1 hmissing
    obtain rfl : t₁ = t' := ht₁.unique ht'
    obtain ⟨hparam, hunbound⟩ := hfirst.mem
    have hlacks : 0 < (t₁.missing (b.insertAll l)).length :=
      List.length_pos_of_mem (mem_missing_iff.2 ⟨hparam, hunbound⟩)
    refine .inr ⟨by omega, segment, fun hmem => ?_, hmissing⟩
    rw [(Bindings.isBound_insertAll h.shows b segment).2 (.inl hmem)] at hunbound
    cases hunbound
  · exact absurd ht'.mem.2 (exists_unexpected_iff.1 hunexpected t' ht'.mem.1)

end IsRepair

/-! ## The two errors -/

/-- More segments than those that are bound lead to a path just where some template takes these. -/
theorem exists_takes_of_path {b' : Bindings} {path : String}
    (hkeeps : ∀ name, b.isBound name = true → b'.isBound name = true)
    (hpath : resolve endpoint templates b' = .ok path) : ∃ t ∈ templates, Takes b t := by
  obtain ⟨t, ht, hfits⟩ := exists_path_iff.1 ⟨path, hpath⟩
  exact ⟨t, ht, fun name hname => hfits.takes name (hkeeps name hname)⟩

/-- **The errors tell the truth about repair.** Of bindings without a path, a segment is reported
missing exactly when some further segments, bound beside those that are, lead to a path; and a
segment is reported not to belong exactly when nothing does that keeps bound what is. Where a
segment is missing, a caller may bind whatever is reported to any values that show in a path: there
never is a segment that does not belong, no segment is reported twice, and there is a path at the
latest when there were as many turns as the closest template had unbound placeholders. -/
theorem resolve_repair (hfails : ∀ path, resolve endpoint templates b ≠ .ok path) :
    ((∃ segment, resolve endpoint templates b = .error (.missingRouteValue endpoint segment)) ↔
      ∃ l : List (String × RouteValue), (∀ e ∈ l, b.isBound e.1 = false) ∧
        ∃ path, resolve endpoint templates (b.insertAll l) = .ok path) ∧
    ((∃ segment, resolve endpoint templates b = .error (.unexpectedRouteValue endpoint segment)) ↔
      ∀ b' : Bindings, (∀ name, b.isBound name = true → b'.isBound name = true) →
        ∀ path, resolve endpoint templates b' ≠ .ok path) ∧
    ((∃ segment, resolve endpoint templates b = .error (.missingRouteValue endpoint segment)) →
      ∃ t, IsClosest templates b t ∧ ∀ l, IsRepair endpoint templates b l →
        (∀ segment, resolve endpoint templates (b.insertAll l)
          ≠ .error (.unexpectedRouteValue endpoint segment)) ∧
        (l.map Prod.fst).Nodup ∧ l.length ≤ (t.missing b).length ∧
        ((∃ path, resolve endpoint templates (b.insertAll l) = .ok path) ∨
          (l.length < (t.missing b).length ∧ ∃ segment, segment ∉ l.map Prod.fst ∧
            resolve endpoint templates (b.insertAll l)
              = .error (.missingRouteValue endpoint segment)))) := by
  have hnofit : ∀ t ∈ templates, ¬ Fits b t := by
    intro t ht hfits
    obtain ⟨path, hpath⟩ := exists_path_iff.2 ⟨t, ht, hfits⟩
    exact hfails path hpath
  refine ⟨⟨fun hmissing => ?_, ?_⟩, ⟨fun hunexpected b' hkeeps path hpath => ?_, fun hnone => ?_⟩,
    fun hmissing => ?_⟩
  · obtain ⟨-, t, ht, htakes⟩ := exists_missing_iff.1 hmissing
    obtain ⟨l, hfree, hfits⟩ := exists_fits_insertAll htakes
    exact ⟨l, hfree, exists_path_iff.2 ⟨t, ht, hfits⟩⟩
  · rintro ⟨l, hfree, path, hpath⟩
    exact exists_missing_iff.2
      ⟨hnofit, exists_takes_of_path (fun _ => isBound_insertAll_of_free hfree) hpath⟩
  · obtain ⟨t, ht, htakes⟩ := exists_takes_of_path hkeeps hpath
    exact exists_unexpected_iff.1 hunexpected t ht htakes
  · -- a template that takes the bindings could be completed to one that fits
    refine exists_unexpected_iff.2 fun t ht htakes => ?_
    obtain ⟨l, hfree, hfits⟩ := exists_fits_insertAll htakes
    obtain ⟨path, hpath⟩ := exists_path_iff.2 ⟨t, ht, hfits⟩
    exact hnone _ (fun _ => isBound_insertAll_of_free hfree) path hpath
  · obtain ⟨t, ht⟩ := exists_isClosest_iff.2 (exists_missing_iff.1 hmissing).2
    refine ⟨t, ht, fun l hl => ⟨fun segment hunexpected => ?_, hl.fresh.1, ?_, ?_⟩⟩
    · obtain ⟨t', ht', -⟩ := hl.exists_isClosest ht
      exact exists_unexpected_iff.1 ⟨segment, hunexpected⟩ t' ht'.mem.1 ht'.mem.2
    · obtain ⟨t', -, hle⟩ := hl.exists_isClosest ht
      exact Nat.le_trans (Nat.le_add_right _ _) hle
    · exact hl.resolve_insertAll ht

/-- Two templates, of which the second one becomes the closest after the first turn. The first one
has four unbound placeholders, though only two names; there are three turns. -/
theorem resolve_repair_of_change :
    let templates := ["/{a}/{b}/{b}/{b}", "/{a}/{a}/{a}/{c}/{d}"].map Template.parse
    let l : List (String × RouteValue) :=
      [("a", .single "1"), ("c", .list ["", "2"]), ("d", .single "3")]
    (∀ path, resolve "tree" templates ∅ ≠ .ok path) ∧
    (∃ segment, resolve "tree" templates ∅ = .error (.missingRouteValue "tree" segment)) ∧
    IsRepair "tree" templates ∅ l ∧
    ∃ t, IsClosest templates ∅ t ∧ (l.map Prod.fst).Nodup ∧ l.length ≤ (t.missing ∅).length := by
  intro templates l
  have hmissing : resolve "tree" templates ∅ = .error (.missingRouteValue "tree" "a") := by
    decide +kernel
  have hfails : ∀ path, resolve "tree" templates ∅ ≠ .ok path := by
    intro path hpath
    rw [hmissing] at hpath
    cases hpath
  have hrepair : IsRepair "tree" templates ∅ l :=
    .turn hmissing (by decide) <| .turn (by decide +kernel) (by decide) <|
      .turn (by decide +kernel) (by decide) (.stop _)
  obtain ⟨-, -, hrun⟩ := resolve_repair hfails
  obtain ⟨t, ht, hall⟩ := hrun ⟨"a", hmissing⟩
  obtain ⟨-, hnodup, hle, -⟩ := hall l hrepair
  exact ⟨hfails, ⟨"a", hmissing⟩, hrepair, t, ht, hnodup, hle⟩

end SearchRest.Route
