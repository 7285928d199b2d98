/-
Where the headers of a message come from.

Three layers lie one over another: the defaults of the channel, the headers of
the request, and the media type of its body. A default has its name in any case
of letters and is written in lower case; of several that become one, the last one
in the order of names is written last and stays. What is put together by setters
or by name has its headers in lower case already, so a header of the request
lies over the default of its name however either of them was spelled, and each
name shows once.
-/
import SearchRest.Http.Settings
import SearchRest.Proofs.Draft.Untyped
import SearchRest.Proofs.Param.HeaderNames
import SearchRest.Proofs.Text.Utf8

set_option autoImplicit false

namespace SearchRest

/-! ## Layers -/

namespace KeyMap

variable {α : Type}

/-- A map over another one. -/
theorem get?_insertAll_entries (m m' : KeyMap α) (k : String) :
    (m.insertAll m'.entries).get? k = (m'.get? k).or (m.get? k) := by
  cases hk : m'.get? k with
  | some v =>
    exact get?_insertAll_of_mem m m'.nodup_keys ((m'.get?_eq_some_iff k v).1 hk)
  | none =>
    refine get?_insertAll_of_not_mem m fun hmem => ?_
    obtain ⟨v, hv⟩ := mem_keys_iff.1 hmem
    rw [hk] at hv
    cases hv

/-- No key of the entries is lost. -/
theorem exists_get?_insertAll {l : List (String × α)} {k : String} (h : k ∈ l.map Prod.fst)
    (m : KeyMap α) : ∃ v, (m.insertAll l).get? k = some v := by
  induction l generalizing m with
  | nil => cases h
  | cons first rest ih =>
    show ∃ v, ((m.insert first.1 first.2).insertAll rest).get? k = some v
    by_cases hrest : k ∈ rest.map Prod.fst
    · exact ih hrest _
    · obtain rfl : k = first.1 := (List.mem_cons.1 h).resolve_right hrest
      exact ⟨first.2, by rw [get?_insertAll_of_not_mem _ hrest, get?_insert_self]⟩

/-- **Entries under other keys.** Of those that come under one key, the one with the greatest key
of its own is written last. -/
theorem get?_insertAll_rekeyed (f : String → String) {l : List (String × α)}
    (h : l.Pairwise fun a b => a.1 < b.1) (m : KeyMap α) (k : String) (v : α) :
    (m.insertAll (l.map fun e => (f e.1, e.2))).get? k = some v ↔
      (∃ e ∈ l, f e.1 = k ∧ e.2 = v ∧ ∀ e' ∈ l, f e'.1 = k → e'.1 ≤ e.1) ∨
      (∀ e ∈ l, f e.1 ≠ k) ∧ m.get? k = some v := by
  induction l generalizing m with
  | nil => simp [insertAll]
  | cons first rest ih =>
    obtain ⟨hfirst, hrest⟩ := List.pairwise_cons.1 h
    have hcons : m.insertAll ((first :: rest).map fun e => (f e.1, e.2))
        = (m.insert (f first.1) first.2).insertAll (rest.map fun e => (f e.1, e.2)) := rfl
    rw [hcons, ih hrest, get?_insert]
    constructor
    · rintro (⟨e, he, hk, hv, hmax⟩ | ⟨hnone, hget⟩)
      · refine .inl ⟨e, List.mem_cons_of_mem _ he, hk, hv, ?_⟩
        intro e' he' hk'
        rcases List.mem_cons.1 he' with rfl | he'
        · exact String.not_lt.1 (String.lt_asymm (hfirst e he))
        · exact hmax e' he' hk'
      · by_cases hk : f first.1 = k
        · rw [if_pos hk] at hget
          refine .inl ⟨first, List.mem_cons_self, hk, Option.some.inj hget, ?_⟩
          intro e' he' hk'
          rcases List.mem_cons.1 he' with rfl | he'
          · exact String.le_refl _
          · exact absurd hk' (hnone e' he')
        · rw [if_neg hk] at hget
          exact .inr ⟨List.forall_mem_cons.2 ⟨hk, hnone⟩, hget⟩
    · rintro (⟨e, he, hk, hv, hmax⟩ | ⟨hnone, hget⟩)
      · rcases List.mem_cons.1 he with rfl | he
        · refine .inr ⟨fun e' he' hk' => ?_, by rw [if_pos hk, hv]⟩
          -- an entry behind it has a greater key
          exact String.not_lt.2 (hmax e' (List.mem_cons_of_mem _ he') hk') (hfirst e' he')
        · exact .inl ⟨e, he, hk, hv, fun e' he' => hmax e' (List.mem_cons_of_mem _ he')⟩
      · obtain ⟨hk, hnone⟩ := List.forall_mem_cons.1 hnone
        exact .inr ⟨hnone, by rw [if_neg hk, hget]⟩

end KeyMap

/-! ## Headers of requests -/

/-- No operation writes a name in upper case, except by putting another bag in place of the bag. -/
theorem HasLowerNames.step {bag : ParamBag} (h : HasLowerNames bag.headers) {s : BagStep}
    (hs : ¬ s.IsLoad) : HasLowerNames (bag.step s).headers := by
  rw [hasLowerNames_iff] at h ⊢
  intro name value hvalue
  by_contra hname
  rw [ParamBag.headers_step_of_upper hname hs] at hvalue
  exact hname (h name value hvalue)

namespace Draft

variable {d : Draft}

theorem hasLowerNames_edit (h : HasLowerNames d.params.headers) (e : Edit) :
    HasLowerNames (d.edit e).params.headers := by
  cases e with
  | query key v => exact h.step (s := .setOption key v) id
  | header name value => exact h.step (s := .setHeader name value) id
  | _ => exact h

/-- **What was put together has its headers in lower case.** -/
theorem Made.hasLowerNames (h : d.Made) : HasLowerNames d.params.headers := by
  induction h with
  | empty => exact fun name hname => absurd hname List.not_mem_nil
  | edit _ e ih => exact hasLowerNames_edit ih e
  | @raw d d' _ s hs ih =>
    rw [rawStep_eq] at hs
    obtain ⟨e, -, rfl⟩ := map_eq_ok_iff.1 hs
    exact hasLowerNames_edit ih e

end Draft

/-- The media type of the body lies over the headers of the request. -/
theorem Request.get?_headers (r : Request) (name : String) :
    r.headers.get? name
      = (if name = "content-type" then r.body.map Body.contentType else none).or
          (r.params.headers.get? name) := by
  unfold headers
  cases r.body with
  | none => simp
  | some b =>
    show (r.params.headers.insert "content-type" b.contentType).get? name = _
    rw [KeyMap.get?_insert]
    by_cases hname : name = "content-type"
    · simp [hname]
    · rw [if_neg (Ne.symm hname), if_neg hname, Option.none_or]

namespace Http

/-- **What the defaults have for a name.** Of the defaults that have this name in lower case, it is
the value of the greatest one in the order of bytes. -/
def Settings.IsDefault (s : Settings) (name value : String) : Prop :=
  ∃ key, s.defaultHeaders.get? key = some value ∧ Text.asciiLower key = name ∧
    ∀ other ∈ s.defaultHeaders.keys, Text.asciiLower other = name →
      Text.encode other ≤ Text.encode key

namespace Channel

variable {c : Channel} {r : Request}

/-- **Where a header of a message comes from**: the body says its media type, else the request has
the header, else there is a default. -/
inductive Sends (c : Channel) (r : Request) : String → String → Prop where
  | body {b : Body} (h : r.body = some b) : c.Sends r "content-type" b.contentType
  | own {name value : String} (hbody : name = "content-type" → r.body = none)
      (h : r.params.headers.get? name = some value) : c.Sends r name value
  | default {name value : String} (hbody : name = "content-type" → r.body = none)
      (hown : r.params.headers.get? name = none) (h : c.settings.IsDefault name value) :
      c.Sends r name value

/-- The defaults, with their names in lower case. -/
theorem get?_defaults_iff {s : Settings} {name value : String} :
    (KeyMap.ofList (s.defaultHeaders.entries.map fun e => (Text.asciiLower e.1, e.2))).get? name
      = some value ↔ s.IsDefault name value := by
  rw [KeyMap.ofList, KeyMap.get?_insertAll_rekeyed Text.asciiLower s.defaultHeaders.ordered]
  constructor
  · rintro (⟨⟨key, v⟩, he, hkey, rfl, hmax⟩ | ⟨-, hget⟩)
    · refine ⟨key, (s.defaultHeaders.get?_eq_some_iff key v).2 he, hkey, ?_⟩
      intro other hother hlower
      obtain ⟨e', he', rfl⟩ := List.mem_map.1 hother
      exact Text.encode_le_encode.2 (hmax e' he' hlower)
    · cases hget
  · rintro ⟨key, hget, hkey, hmax⟩
    refine .inl ⟨(key, value), (s.defaultHeaders.get?_eq_some_iff key value).1 hget, hkey, rfl, ?_⟩
    intro e' he' hlower
    exact Text.encode_le_encode.1 (hmax e'.1 (List.mem_map_of_mem he') hlower)

/-- **A header is there just if it comes from one of the layers.** -/
theorem get?_headersFor_iff {name value : String} :
    (c.headersFor r).get? name = some value ↔ c.Sends r name value := by
  have hmedia : (if name = "content-type" then r.body.map Body.contentType else none) = none ↔
      (name = "content-type" → r.body = none) := by
    by_cases hname : name = "content-type" <;> simp [hname]
  rw [headersFor, KeyMap.get?_insertAll_entries, Option.or_eq_some_iff, get?_defaults_iff,
    Request.get?_headers, Option.or_eq_some_iff, Option.or_eq_none_iff, hmedia]
  constructor
  · rintro ((hbody | ⟨hbody, hown⟩) | ⟨⟨hbody, hown⟩, hdefault⟩)
    · by_cases hname : name = "content-type"
      · rw [if_pos hname] at hbody
        obtain ⟨b, hb, rfl⟩ := Option.map_eq_some_iff.1 hbody
        rw [hname]
        exact .body hb
      · rw [if_neg hname] at hbody
        cases hbody
    · exact .own hbody hown
    · exact .default hbody hown hdefault
  · intro h
    cases h with
    | body hb => exact .inl (.inl (by rw [if_pos rfl, hb]; rfl))
    | own hbody hown => exact .inl (.inr ⟨hbody, hown⟩)
    | default hbody hown hdefault => exact .inr ⟨⟨hbody, hown⟩, hdefault⟩

/-- **The headers of a message.** For every channel and every request that was put together, no name
has an upper-case letter, no two are the same in any case of letters, and a header is there just if
it comes from the body, the request or the defaults. So a header that was set on the request, in any
case of letters, is sent with the value that was set, unless the body says its media type; and every
default gives its name a value. -/
theorem headersFor_layers (c : Channel) {d : Draft} (hd : d.Made) {endpoint : EndpointSpec}
    {r : Request} (hr : d.resolve endpoint = .ok r) :
    HasLowerNames (c.headersFor r) ∧ HasDistinctNames (c.headersFor r) ∧
    (∀ name value, (c.headersFor r).get? name = some value ↔ c.Sends r name value) ∧
    (∀ name value, d.params.header? name = some value →
      (Text.asciiLower name = "content-type" → d.body = none) →
        (c.headersFor r).get? (Text.asciiLower name) = some value) ∧
    ∀ name ∈ c.settings.defaultHeaders.keys,
      ∃ value, (c.headersFor r).get? (Text.asciiLower name) = some value := by
  obtain ⟨-, hrequest⟩ := Request.of_resolve hr
  have hparams : r.params = d.params := by rw [hrequest]
  have hbody : r.body = d.body := by rw [hrequest]
  have hlower : HasLowerNames (c.headersFor r) := by
    rw [hasLowerNames_iff]
    intro name value hvalue
    cases get?_headersFor_iff.1 hvalue with
    | body h => decide
    | own hb h =>
      rw [hparams] at h
      exact hasLowerNames_iff.1 hd.hasLowerNames name value h
    | default hb hown h =>
      obtain ⟨key, -, hkey, -⟩ := h
      rw [← hkey, Text.asciiLower_asciiLower]
  refine ⟨hlower, hlower.hasDistinctNames, fun _ _ => get?_headersFor_iff, ?_, ?_⟩
  · intro name value hvalue hmedia
    refine get?_headersFor_iff.2 (.own ?_ ?_)
    · rwa [hbody]
    · rwa [hparams]
  · intro name hname
    have hkey : Text.asciiLower name ∈ (c.settings.defaultHeaders.entries.map fun e =>
        (Text.asciiLower e.1, e.2)).map Prod.fst := by
      rw [List.map_map]
      obtain ⟨e, he, rfl⟩ := List.mem_map.1 hname
      exact List.mem_map.2 ⟨e, he, rfl⟩
    obtain ⟨v, hv⟩ := KeyMap.exists_get?_insertAll hkey KeyMap.empty
    rw [headersFor, KeyMap.get?_insertAll_entries, KeyMap.ofList, hv]
    cases r.headers.get? (Text.asciiLower name) with
    | some w => exact ⟨w, rfl⟩
    | none => exact ⟨v, rfl⟩

/-- Defaults with names in several cases of letters, under a search with a header and a body that was
put together by setters, and under a ping with another header that was put together by name. -/
theorem headersFor_layers_search :
    let settings : Settings := { Settings.standard with
      defaultHeaders := .ofList [("Content-Type", "text/html"), ("X-Opaque-Id", "default"),
        ("X-Tag", "a"), ("x-tag", "b")] }
    let c : Channel :=
      ⟨settings, ⟨"http", "", "localhost", some 9200, "/", none, none⟩, by decide +kernel⟩
    let search := Catalogue.search
    let start : search.Start := .made ⟨"new", search.start⟩ List.mem_cons_self ()
    let opaqueId : search.Setting :=
      ⟨⟨"opaque_id", .text, fun (s : String) => .header "x-opaque-id" s⟩,
        by simp [Operation.setters, Setter.common], "call-7"⟩
    let body : search.Setting :=
      ⟨.attach, by simp [search, Catalogue.search, Operation.setters], Body.text "a"⟩
    (∃ r, (Operation.build start [opaqueId, body]).resolve search.spec = .ok r ∧
      HasDistinctNames (c.headersFor r) ∧ c.Sends r "x-tag" "b" ∧
      (c.headersFor r).get? "x-opaque-id" = some "call-7" ∧
      c.headersFor r = .ofList [("content-type", "text/plain"), ("x-opaque-id", "call-7"),
        ("x-tag", "b")]) ∧
    ∃ d r, Draft.ofRaw [.header "X-TAG" "c"] = .ok d ∧ d.resolve Catalogue.ping.spec = .ok r ∧
      c.Sends r "content-type" "text/html" ∧ (c.headersFor r).get? "x-tag" = some "c" := by
  intro settings c search start opaqueId body
  constructor
  · let d := Operation.build start [opaqueId, body]
    let r : Request := ⟨search.spec, "/_search", d.params, d.body⟩
    have hmade : d.Made := Operation.made_build start [opaqueId, body]
    have hr : d.resolve search.spec = .ok r := by decide +kernel
    obtain ⟨-, hdistinct, hlayers, hown, -⟩ := headersFor_layers c hmade hr
    refine ⟨r, hr, hdistinct, ?_, ?_, by decide +kernel⟩
    · exact (hlayers "x-tag" "b").1 (by decide +kernel)
    · exact hown "X-Opaque-Id" "call-7" (by decide +kernel) (by decide)
  · let d : Draft := ⟨∅, ⟨∅, .ofList [("x-tag", "c")]⟩, none⟩
    have hd : Draft.ofRaw [.header "X-TAG" "c"] = .ok d := by decide +kernel
    have hr : d.resolve Catalogue.ping.spec = .ok ⟨Catalogue.ping.spec, "/", d.params, none⟩ := by
      decide +kernel
    obtain ⟨-, -, hlayers, hown, -⟩ := headersFor_layers c (Draft.made_ofRaw hd) hr
    refine ⟨d, _, hd, hr, ?_, ?_⟩
    · exact (hlayers "content-type" "text/html").1 (by decide +kernel)
    · exact hown "x-Tag" "c" (by decide +kernel) (by decide)

end Channel

end Http

end SearchRest
