/-
The names of headers.

The operations of a bag write the names of headers in lower case, and a header
is looked up and removed by its name in lower case. So in a bag whose names are
in lower case every header is found and removed in any case of letters, and no
two headers differ in case only.

A stored bag is taken with the names that it was stored with. The headers whose
names have upper-case letters are out of reach of every operation: they stay
until another bag is put in the place of the bag, they are not found by their
own names, and one of them may stand beside a header with the same name in lower
case, so that a request is sent with both.
-/
import SearchRest.Catalogue
import SearchRest.Proofs.Param.History

set_option autoImplicit false

namespace SearchRest

/-- Whether no name has an upper-case letter of ASCII. -/
def HasLowerNames (headers : KeyMap String) : Prop :=
  ∀ name ∈ headers.keys, ∀ c ∈ name.toList, c.isUpper = false

-- the letters of the name are gone through, not all the characters that there are
instance (headers : KeyMap String) : Decidable (HasLowerNames headers) :=
  have (name : String) : Decidable (∀ c ∈ name.toList, c.isUpper = false) :=
    List.decidableBAll _ name.toList
  List.decidableBAll _ headers.keys

/-- Whether no two names are the same up to the case of letters. -/
def HasDistinctNames (headers : KeyMap String) : Prop :=
  headers.keys.Pairwise fun a b => Text.sameIgnoringCase a b = false

instance (headers : KeyMap String) : Decidable (HasDistinctNames headers) :=
  inferInstanceAs (Decidable (List.Pairwise _ _))

theorem KeyMap.mem_keys_iff {α : Type} {m : KeyMap α} {k : String} :
    k ∈ m.keys ↔ ∃ v, m.get? k = some v := by
  simp only [KeyMap.get?_eq_some_iff, KeyMap.keys, List.mem_map, Prod.exists, exists_and_right,
    exists_eq_right]

theorem hasLowerNames_iff {headers : KeyMap String} :
    HasLowerNames headers ↔
      ∀ name value, headers.get? name = some value → Text.asciiLower name = name := by
  simp only [HasLowerNames, KeyMap.mem_keys_iff, Text.asciiLower_eq_self_iff]
  constructor
  · intro h name value hvalue
    exact h name ⟨value, hvalue⟩
  · rintro h name ⟨value, hvalue⟩
    exact h name value hvalue

/-- Names in lower case are distinct in every case of letters. -/
theorem HasLowerNames.hasDistinctNames {headers : KeyMap String} (h : HasLowerNames headers) :
    HasDistinctNames headers := by
  have hlower : ∀ name ∈ headers.keys, Text.asciiLower name = name := fun name hname =>
    Text.asciiLower_eq_self_iff.2 (h name hname)
  refine headers.nodup_keys.imp_of_mem ?_
  intro a b ha hb hne
  apply decide_eq_false
  rwa [hlower a ha, hlower b hb]

theorem HasLowerNames.insert {headers : KeyMap String} (h : HasLowerNames headers)
    {name : String} (hname : Text.asciiLower name = name) (value : String) :
    HasLowerNames (headers.insert name value) := by
  rw [hasLowerNames_iff] at h ⊢
  intro other found hfound
  rw [KeyMap.get?_insert] at hfound
  by_cases heq : name = other
  · rw [← heq, hname]
  · rw [if_neg heq] at hfound
    exact h other found hfound

namespace ParamBag

/-- **Headers go by their names in any case of letters.** -/
structure IgnoresCase (bag : ParamBag) : Prop where
  /-- No name has an upper-case letter. -/
  lower : HasLowerNames bag.headers
  distinct : HasDistinctNames bag.headers
  /-- Every header is found by its name in any case. -/
  found : ∀ name value, bag.headers.get? name = some value →
    ∀ variant, Text.sameIgnoringCase variant name = true → bag.header? variant = some value
  /-- It is also removed by it. -/
  removed : ∀ name value, bag.headers.get? name = some value →
    ∀ variant, Text.sameIgnoringCase variant name = true →
      (bag.removeHeader variant).headers.get? name = none

/-- All of it comes of the names being in lower case. -/
theorem ignoresCase_iff {bag : ParamBag} : bag.IgnoresCase ↔ HasLowerNames bag.headers := by
  constructor
  · exact IgnoresCase.lower
  · intro hlower
    -- a variant of a name in lower case is brought to that name
    have hvariant : ∀ name value, bag.headers.get? name = some value →
        ∀ variant, Text.sameIgnoringCase variant name = true →
          Text.asciiLower variant = name := by
      intro name value hvalue variant hsame
      rw [of_decide_eq_true hsame]
      exact hasLowerNames_iff.1 hlower name value hvalue
    refine ⟨hlower, hlower.hasDistinctNames, ?_, ?_⟩
    · intro name value hvalue variant hsame
      rw [header?, hvariant name value hvalue variant hsame, hvalue]
    · intro name value hvalue variant hsame
      rw [removeHeader, KeyMap.get?_erase, if_pos (hvariant name value hvalue variant hsame)]

/-! ## Histories -/

/-- The bag that the operation puts in the place of the bag, or else the one that was put there
before. -/
def lastLoad (bag : ParamBag) : BagStep → ParamBag
  | .load stored => (ofJson? stored).getD bag
  | _ => bag

/-- The stored bag that was put in its place last in a history, or the empty one. -/
def loaded (steps : List BagStep) : ParamBag := steps.foldl lastLoad empty

theorem lastLoad_of_not_isLoad {s : BagStep} (hs : ¬ s.IsLoad) (origin : ParamBag) :
    origin.lastLoad s = origin := by
  cases s with
  | load stored => exact absurd trivial hs
  | _ => rfl

/-- **No operation reaches a header whose name has upper-case letters**, unless it puts another bag
in the place of the bag. -/
theorem headers_step_of_upper {name : String} (hname : Text.asciiLower name ≠ name) {s : BagStep}
    (hs : ¬ s.IsLoad) (bag : ParamBag) :
    (bag.step s).headers.get? name = bag.headers.get? name := by
  have haccept : name ≠ "accept" := by
    rintro rfl
    exact hname (by decide)
  have hwritten : ∀ other, Text.asciiLower other ≠ name := by
    rintro other rfl
    exact hname (Text.asciiLower_asciiLower other)
  rcases bag.step_cases s with
    heq | ⟨key, v, heq⟩ | ⟨key, heq⟩ | ⟨other, value, -, heq⟩ | ⟨other, -, heq⟩ |
      ⟨stored, found, rfl, -, -⟩
  · rw [heq]
  · rw [heq, headers_set, if_neg fun hboth => haccept hboth.2]
  · rw [heq, headers_remove, if_neg fun hboth => haccept hboth.2]
  · rw [heq, setHeader, KeyMap.get?_insert, if_neg (hwritten other)]
  · rw [heq, removeHeader, KeyMap.get?_erase, if_neg (hwritten other)]
  · exact absurd trivial hs

/-- After a history, the headers with upper-case letters in their names are those of the stored bag
that came last. -/
theorem headers_after_of_upper {name : String} (hname : Text.asciiLower name ≠ name)
    (steps : List BagStep) :
    (after steps).headers.get? name = (loaded steps).headers.get? name := by
  -- from any two bags that agree on the name, the history and its stored bags go on agreeing
  have hgeneral : ∀ bag origin : ParamBag, bag.headers.get? name = origin.headers.get? name →
      (steps.foldl step bag).headers.get? name
        = (steps.foldl lastLoad origin).headers.get? name := by
    induction steps with
    | nil => exact fun bag origin h => h
    | cons s steps ih =>
      intro bag origin h
      rw [List.foldl_cons, List.foldl_cons]
      apply ih
      by_cases hs : s.IsLoad
      · cases s with
        | load stored =>
          rw [step, step?, lastLoad]
          cases ofJson? stored with
          | none => exact h
          | some found => rfl
        | _ => exact absurd hs id
      · rw [headers_step_of_upper hname hs, lastLoad_of_not_isLoad hs, h]
  exact hgeneral empty empty rfl

theorem hasLowerNames_after_iff (steps : List BagStep) :
    HasLowerNames (after steps).headers ↔ HasLowerNames (loaded steps).headers := by
  rw [hasLowerNames_iff, hasLowerNames_iff]
  constructor
  · intro h name value hvalue
    by_contra hname
    rw [← headers_after_of_upper hname] at hvalue
    exact hname (h name value hvalue)
  · intro h name value hvalue
    by_contra hname
    rw [headers_after_of_upper hname] at hvalue
    exact hname (h name value hvalue)

end ParamBag

/-! ## The headers of a request -/

/-- A request adds the media type of its body to the headers of its bag. -/
theorem Request.hasLowerNames_headers {r : Request} (h : HasLowerNames r.params.headers) :
    HasLowerNames r.headers := by
  unfold Request.headers
  split
  · exact h.insert (by decide) _
  · exact h

namespace ParamBag

/-- **When headers go by their names in any case of letters.** After a history they do exactly when
the stored bag that was put in its place last, if there was one, has its names in lower case. A
draft with the bag is then sent with no two headers that differ in case only. -/
theorem ignoresCase_after_iff (steps : List BagStep) :
    ((after steps).IgnoresCase ↔ HasLowerNames (loaded steps).headers) ∧
    (HasLowerNames (loaded steps).headers →
      ∀ (d : Draft) (endpoint : EndpointSpec) (r : Request), d.params = after steps →
        d.resolve endpoint = .ok r → HasDistinctNames r.headers) := by
  constructor
  · rw [ignoresCase_iff, hasLowerNames_after_iff]
  · intro hlower d endpoint r hparams hresolve
    obtain ⟨-, hr⟩ := Request.of_resolve hresolve
    apply HasLowerNames.hasDistinctNames
    apply Request.hasLowerNames_headers
    rw [hr, hparams]
    exact (hasLowerNames_after_iff steps).2 hlower

/-- A stored bag in lower case, after which a header is written in mixed case. -/
theorem ignoresCase_after_iff_of_lower :
    let steps : List BagStep :=
      [.load (.object [("headers", .object [("x-opaque-id", .text "a")])]),
        .setHeader "X-Trace" "b"]
    HasLowerNames (loaded steps).headers ∧
      ∃ r, Draft.resolve ⟨∅, after steps, none⟩ Catalogue.ping.spec = .ok r ∧
        r.headers.keys = ["x-opaque-id", "x-trace"] ∧ HasDistinctNames r.headers := by
  intro steps
  have hlower : HasLowerNames (loaded steps).headers := by decide +kernel
  obtain ⟨r, hr, hkeys⟩ : ∃ r, Draft.resolve ⟨∅, after steps, none⟩ Catalogue.ping.spec = .ok r ∧
      r.headers.keys = ["x-opaque-id", "x-trace"] :=
    ⟨⟨Catalogue.ping.spec, "/", after steps, none⟩, by decide +kernel, by decide +kernel⟩
  exact ⟨hlower, r, hr, hkeys, (ignoresCase_after_iff steps).2 hlower _ _ r rfl hr⟩

/-- A stored bag keeps a name in mixed case. Its header is neither found nor removed by that name,
and a draft that was stored with it is sent with two headers of one name. -/
theorem not_ignoresCase_after_load :
    let stored : Json := .object
      [("headers", .object [("X-Opaque-Id", .text "a"), ("x-opaque-id", .text "b")])]
    let bag := after [.load stored]
    bag.headers.get? "X-Opaque-Id" = some "a" ∧ bag.header? "X-Opaque-Id" = some "b" ∧
      (bag.removeHeader "X-Opaque-Id").headers.get? "X-Opaque-Id" = some "a" ∧
      ¬ bag.IgnoresCase ∧
      ∃ d r, Draft.ofJson? (.object [("parameters", stored)]) = some d ∧ d.params = bag ∧
        d.resolve Catalogue.ping.spec = .ok r ∧ ¬ HasDistinctNames r.headers := by
  intro stored bag
  refine ⟨by decide +kernel, by decide +kernel, by decide +kernel, ?_, ?_⟩
  · rw [ignoresCase_iff]
    decide +kernel
  · exact ⟨⟨∅, bag, none⟩, ⟨Catalogue.ping.spec, "/", bag, none⟩, by decide +kernel, rfl,
      by decide +kernel, by decide +kernel⟩

end ParamBag

end SearchRest
