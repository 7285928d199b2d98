/-
What the choice of a path sees of the values.

A value is one text or a list of texts, and empty texts leave no trace. The test
whether a segment is bound and the form of its value in a path go by the texts
that are not empty, and nothing else about a value reaches the choice. So bindings
that show the same texts under every name have the same path or the same error,
whatever the values are made of. Different texts have different forms, and lead
to different paths as soon as a template has a place for them alone.
-/
import Mathlib.Data.List.Sort
import SearchRest.Proofs.Route.Choice

set_option autoImplicit false

namespace SearchRest

/-! ## Values -/

namespace RouteValue

variable {v w : RouteValue}

theorem isEmpty_eq_of_elements_eq (h : v.elements = w.elements) : v.isEmpty = w.isEmpty := by
  rw [Bool.eq_iff_iff, isEmpty_iff, isEmpty_iff, h]

/-- **The form of a value in a path tells its texts**, and tells as well whether it has any. -/
theorem encode_eq_encode_iff : v.encode = w.encode ↔ v.elements = w.elements := by
  constructor
  · intro h
    have hchars : v.encodeChars = w.encodeChars := String.ofList_injective h
    have hnil : ∀ {u : RouteValue}, u.elements = [] ↔ u.encodeChars = [] := by
      intro u
      rw [← isEmpty_iff]
      constructor
      · intro hu
        rw [encodeChars_eq, (isEmpty_iff u).1 hu]
        rfl
      · intro hu
        by_contra hfull
        exact encodeChars_ne_nil (Bool.eq_false_iff.2 hfull) hu
    by_cases hv : v.elements = []
    · rw [hv, hnil.2 (hchars ▸ hnil.1 hv)]
    · have hw : w.elements ≠ [] := fun hw => hv (hnil.2 (hchars ▸ hnil.1 hw))
      have hfull : ∀ {u : RouteValue}, u.elements ≠ [] → u.isEmpty = false := fun hu =>
        Bool.eq_false_iff.2 fun hempty => hu ((isEmpty_iff _).1 hempty)
      -- both forms are read back, so the same form gives the same texts
      have hread := split_encode (hfull hv)
      rw [h, split_encode (hfull hw)] at hread
      exact (List.map_inj_right fun _ _ => Option.some.inj).1 hread.symm
  · intro h
    rw [encode, encode, encodeChars_eq, encodeChars_eq, h]

end RouteValue

/-! ## Shown texts -/

namespace Bindings

variable {b b' : Bindings}

/-- **The texts that a segment shows in a path**: those of its value that are not empty. -/
def shown (b : Bindings) (name : String) : List String :=
  ((b.get? name).map RouteValue.elements).getD []

theorem shown_insert (b : Bindings) (k name : String) (v : RouteValue) :
    shown (b.insert k v) name = if k = name then v.elements else b.shown name := by
  rw [shown, KeyMap.get?_insert]
  by_cases hname : k = name
  · rw [if_pos hname, if_pos hname]
    rfl
  · rw [if_neg hname, if_neg hname]
    rfl

/-- A segment is bound when it shows something. -/
theorem isBound_iff_shown {name : String} : b.isBound name = true ↔ b.shown name ≠ [] := by
  unfold isBound shown
  cases b.get? name with
  | none => simp
  | some v =>
    rw [Option.map_some, Option.getD_some, Ne, ← v.isEmpty_iff]
    simp

theorem isBound_congr (h : ∀ name, b.shown name = b'.shown name) : b.isBound = b'.isBound := by
  funext name
  rw [Bool.eq_iff_iff, isBound_iff_shown, isBound_iff_shown, h name]

/-- The bound names stand in their order, so they are one list as soon as they are the same. -/
theorem boundNames_congr (h : ∀ name, b.shown name = b'.shown name) :
    b.boundNames = b'.boundNames := by
  refine b.boundNames_ordered.eq_of_mem_iff b'.boundNames_ordered fun name => ?_
  rw [mem_boundNames, mem_boundNames, isBound_congr h]

end Bindings

/-! ## Paths -/

variable {b b' : Bindings}

/-- The piece of a placeholder is made of the texts that it shows. -/
theorem Segment.render_placeholder (b : Bindings) (name : String) :
    (placeholder name).render b
      = if b.shown name = [] then .error name
        else .ok (Text.joined ',' ((b.shown name).map fun s => Text.percentEncodeChars s.toList)) := by
  cases hget : b.get? name with
  | none => simp [render, Bindings.shown, hget]
  | some v => simp [render, Bindings.shown, hget, v.isEmpty_iff, v.encodeChars_eq]

theorem Template.render_congr (h : ∀ name, b.shown name = b'.shown name) (t : Template) :
    t.render b = t.render b' := by
  have hsegment : Segment.render b = Segment.render b' := by
    funext s
    cases s with
    | literal text => rfl
    | placeholder name => rw [Segment.render_placeholder, Segment.render_placeholder, h name]
  rw [render, render, hsegment]

/-- **The choice sees nothing of the values but the texts that they show.** -/
theorem Route.resolve_congr (h : ∀ name, b.shown name = b'.shown name) (endpoint : String)
    (templates : List Template) : resolve endpoint templates b = resolve endpoint templates b' := by
  have hnames := Bindings.boundNames_congr h
  have haccepts : accepts b = accepts b' := by
    funext t
    rw [accepts, accepts, hnames]
  have hmissing : ∀ t : Template, t.missing b = t.missing b' := by
    intro t
    rw [Template.missing, Template.missing, Bindings.isBound_congr h]
  have hrender := Template.render_congr h
  simp only [resolve, path?, closest?, stray?, hnames, haccepts, hmissing, hrender]

/-- With a lone placeholder as the only template, a value that is not empty has a path, which is its
form, and any other value has none. -/
theorem Route.resolve_placeholder_eq_ok_iff {endpoint source name path : String} {v : RouteValue} :
    resolve endpoint [⟨source, [.placeholder name]⟩] (KeyMap.insert ∅ name v) = .ok path ↔
      v.isEmpty = false ∧ "/" ++ v.encode = path := by
  obtain ⟨b, hb⟩ : ∃ b : Bindings, b = KeyMap.insert ∅ name v := ⟨_, rfl⟩
  have hget : b.get? name = some v := hb ▸ KeyMap.get?_insert_self _ _ _
  have hbound : ∀ other, b.isBound other = true ↔ other = name ∧ v.isEmpty = false := by
    intro other
    have hempty : Bindings.isBound ∅ other = false := rfl
    rw [hb, Bindings.isBound_insert, hempty]
    by_cases hother : name = other
    · simp [hother]
    · simp [hother, Ne.symm hother]
  have hfits : Fits b ⟨source, [.placeholder name]⟩ ↔ v.isEmpty = false := by
    simp only [Fits, Template.mem_params_iff, List.mem_singleton, Segment.placeholder.injEq, hbound]
    exact ⟨fun h => ((h name).1 rfl).2, fun hv other => (and_iff_left hv).symm⟩
  have hrender : v.isEmpty = false →
      Template.render ⟨source, [.placeholder name]⟩ b = .ok ("/" ++ v.encode) := by
    intro hv
    have hsegment : (Segment.placeholder name).render b = .ok v.encodeChars :=
      Segment.render_placeholder_eq_ok_iff.2 ⟨v, hget, hv, rfl⟩
    refine (Template.render_eq_ok_iff (List.cons_ne_nil _ _)).2
      ⟨[v.encodeChars], .cons hsegment .nil, ?_⟩
    rw [List.flatMap_singleton, RouteValue.encode, ← List.singleton_append, String.ofList_append]
  rw [← hb, resolve_eq_ok_iff]
  constructor
  · rintro ⟨t, hfirst, hpath⟩
    obtain ⟨hmem, hfit⟩ := hfirst.mem
    obtain rfl := List.mem_singleton.1 hmem
    have hv := hfits.1 hfit
    exact ⟨hv, Except.ok.inj ((hrender hv).symm.trans hpath)⟩
  · rintro ⟨hv, rfl⟩
    exact ⟨_, isFirst_cons.2 (.inl ⟨hfits.2 hv, rfl⟩), hrender hv⟩

/-- **Two values lead to the same path wherever they are bound exactly when they have the same
texts.** -/
theorem Route.resolve_insert_congr_iff {v w : RouteValue} :
    (∀ (endpoint : String) (templates : List Template) (b : Bindings) (name : String),
      resolve endpoint templates (b.insert name v) = resolve endpoint templates (b.insert name w)) ↔
      v.elements = w.elements := by
  constructor
  · intro h
    have hpath : ∀ path, v.isEmpty = false ∧ "/" ++ v.encode = path ↔
        w.isEmpty = false ∧ "/" ++ w.encode = path := by
      intro path
      have hlone : ∀ u : RouteValue,
          resolve "" [⟨"", [.placeholder ""]⟩] (KeyMap.insert ∅ "" u) = .ok path ↔
            u.isEmpty = false ∧ "/" ++ u.encode = path :=
        fun _ => resolve_placeholder_eq_ok_iff
      rw [← hlone v, h, hlone w]
    cases hv : v.isEmpty with
    | false =>
      have hw := ((hpath _).1 ⟨hv, rfl⟩).2
      exact RouteValue.encode_eq_encode_iff.1 ((String.append_right_inj _).1 hw).symm
    | true =>
      have hw : w.isEmpty = true := by
        by_contra hfull
        have hboth := (hpath _).2 ⟨Bool.eq_false_iff.2 hfull, rfl⟩
        rw [hv] at hboth
        cases hboth.1
      rw [(RouteValue.isEmpty_iff v).1 hv, (RouteValue.isEmpty_iff w).1 hw]
  · intro h endpoint templates b name
    refine resolve_congr (fun other => ?_) endpoint templates
    rw [Bindings.shown_insert, Bindings.shown_insert, h]

end SearchRest
