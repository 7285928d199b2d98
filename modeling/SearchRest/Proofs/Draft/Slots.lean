/-
The slots of a draft, and the order in which they are written.

A draft is the contents of its slots, and an edit leaves its own content in its
own slot. The header `accept` is the one slot that is also written from
elsewhere: it goes with the parameter `format`. What it holds depends on the
edits before only where a format is cleared that may not be there, and no setter
of the catalogue does that. So after any settings each slot holds what the last
one that writes it left there, and `accept` what the last format asks for; the
order of the settings shows in nothing else.
-/
import SearchRest.Proofs.Catalogue.Building
import SearchRest.Proofs.Param.History

set_option autoImplicit false

namespace SearchRest

/-! ## Contents of slots -/

/-- **What a slot holds.** -/
inductive Content where
  | route (v : RouteValue)
  | param (v : ParamValue)
  | header (value : String)
  | body (b : Body)
  deriving DecidableEq

/-- What the edit leaves in its slot; nothing if it clears the slot. -/
def Edit.content? : Edit → Option Content
  | .bind _ v => some (.route v)
  | .query _ v => v.map .param
  | .header _ value => some (.header value)
  | .attach b => some (.body b)

/-- What the draft holds in a slot. -/
def Draft.content? (d : Draft) : Slot → Option Content
  | .segment name => (d.route.get? name).map .route
  | .query key => (d.params.query.get? key).map .param
  | .header name => (d.params.headers.get? name).map .header
  | .body => d.body.map .body

/-- The header that goes with a content, if that is a format. -/
def Content.accept? : Content → Option Content
  | .param v => (ParamBag.mediaType? v).map .header
  | _ => none

/-- **What the last edit that writes a slot leaves there.** If no edit writes the slot, it is
`none`; if the last one clears the slot, it is `some none`. -/
def lastWrite? (slot : Slot) : List Edit → Option (Option Content)
  | [] => none
  | e :: rest => (lastWrite? slot rest).or (if e.slot = slot then some e.content? else none)

theorem lastWrite?_eq_none {slot : Slot} {edits : List Edit} (h : ∀ e ∈ edits, e.slot ≠ slot) :
    lastWrite? slot edits = none := by
  induction edits with
  | nil => rfl
  | cons e rest ih =>
    obtain ⟨he, hrest⟩ := List.forall_mem_cons.1 h
    rw [lastWrite?, ih hrest, if_neg he]
    rfl

theorem lastWrite?_append_cons {before after : List Edit} {e : Edit}
    (h : ∀ e' ∈ after, e'.slot ≠ e.slot) :
    lastWrite? e.slot (before ++ e :: after) = some e.content? := by
  induction before with
  | nil =>
    rw [List.nil_append, lastWrite?, lastWrite?_eq_none h, if_pos rfl]
    rfl
  | cons _ before ih =>
    rw [List.cons_append, lastWrite?, ih]
    rfl

namespace ParamBag

variable {bag : ParamBag}

theorem query_setOption (key key' : String) (v : Option ParamValue) :
    (bag.setOption key v).query.get? key' = if key = key' then v else bag.query.get? key' := by
  cases v with
  | none => rw [setOption, query_remove, KeyMap.get?_erase]
  | some v => rw [setOption, query_set, KeyMap.get?_insert]

/-- A parameter has no say in headers other than `accept`. -/
theorem headers_setOption {name : String} (hname : name ≠ "accept") (key : String)
    (v : Option ParamValue) :
    (bag.setOption key v).headers.get? name = bag.headers.get? name := by
  cases v with
  | none => rw [setOption, headers_remove, if_neg fun h => hname h.2]
  | some v => rw [setOption, headers_set, if_neg fun h => hname h.2]

end ParamBag

namespace Draft

/-- A draft is the contents of its slots. -/
theorem ext_content? {d d' : Draft} (h : ∀ slot, d.content? slot = d'.content? slot) : d = d' := by
  obtain ⟨route, ⟨query, headers⟩, body⟩ := d
  obtain ⟨route', ⟨query', headers'⟩, body'⟩ := d'
  have hroute : route = route' := KeyMap.ext_get? fun name =>
    Option.map_injective (fun _ _ => Content.route.inj) (h (.segment name))
  have hquery : query = query' := KeyMap.ext_get? fun key =>
    Option.map_injective (fun _ _ => Content.param.inj) (h (.query key))
  have hheaders : headers = headers' := KeyMap.ext_get? fun name =>
    Option.map_injective (fun _ _ => Content.header.inj) (h (.header name))
  have hbody : body = body' := Option.map_injective (fun _ _ => Content.body.inj) (h .body)
  rw [hroute, hquery, hheaders, hbody]

variable {d : Draft}

/-! ## What an edit does to a slot -/

/-- **An edit writes its own slot.** -/
theorem content?_edit {slot : Slot} (hslot : slot ≠ .header "accept") (e : Edit) (d : Draft) :
    (d.edit e).content? slot = if e.slot = slot then e.content? else d.content? slot := by
  cases slot with
  | segment name =>
    cases e with
    | bind k v =>
      have hread : (d.edit (.bind k v)).content? (.segment name)
          = ((d.route.insert k v).get? name).map .route := rfl
      rw [hread, KeyMap.get?_insert]
      by_cases hk : k = name <;> simp [Edit.slot, Edit.content?, content?, hk]
    | _ => simp [Edit.slot, content?, edit]
  | query key =>
    cases e with
    | query k v =>
      have hread : (d.edit (.query k v)).content? (.query key)
          = ((d.params.setOption k v).query.get? key).map .param := rfl
      rw [hread, ParamBag.query_setOption]
      by_cases hk : k = key <;> simp [Edit.slot, Edit.content?, content?, hk]
    | header k value => simp [Edit.slot, content?, edit, ParamBag.setHeader]
    | _ => simp [Edit.slot, content?, edit]
  | header name =>
    cases e with
    | query k v =>
      have hname : name ≠ "accept" := fun h => hslot (h ▸ rfl)
      have hread : (d.edit (.query k v)).content? (.header name)
          = ((d.params.setOption k v).headers.get? name).map .header := rfl
      rw [hread, ParamBag.headers_setOption hname]
      simp [Edit.slot, content?]
    | header k value =>
      have hread : (d.edit (.header k value)).content? (.header name)
          = ((d.params.headers.insert (Text.asciiLower k) value).get? name).map .header := rfl
      rw [hread, KeyMap.get?_insert]
      by_cases hk : Text.asciiLower k = name <;> simp [Edit.slot, Edit.content?, content?, hk]
    | _ => simp [Edit.slot, content?, edit]
  | body => cases e <;> simp [Edit.slot, Edit.content?, content?, edit]

end Draft

/-- **An edit whose effect does not depend on the draft**: it does not clear the format, which would
take the header `accept` along only if there is a format, and does not write that header by hand. -/
def Edit.IsPlain (e : Edit) : Prop := e ≠ .query "format" none ∧ e.slot ≠ .header "accept"

namespace Draft

/-- **The header `accept` goes with the format.** -/
theorem accept_edit {e : Edit} (he : e.IsPlain) (d : Draft) :
    (d.edit e).content? (.header "accept")
      = if e.slot = .query "format" then e.content?.bind Content.accept?
        else d.content? (.header "accept") := by
  cases e with
  | query key v =>
    have hread : (d.edit (.query key v)).content? (.header "accept")
        = ((d.params.setOption key v).headers.get? "accept").map .header := rfl
    rw [hread]
    by_cases hkey : key = "format"
    · subst hkey
      cases v with
      | none => exact absurd rfl he.1
      | some v =>
        rw [ParamBag.setOption, ParamBag.headers_set, if_pos ⟨rfl, rfl⟩]
        rfl
    · have hheaders :
          (d.params.setOption key v).headers.get? "accept" = d.params.headers.get? "accept" := by
        cases v with
        | none => rw [ParamBag.setOption, ParamBag.headers_remove, if_neg fun h => hkey h.1.1]
        | some v => rw [ParamBag.setOption, ParamBag.headers_set, if_neg fun h => hkey h.1]
      rw [hheaders]
      simp [Edit.slot, content?, hkey]
  | header name value =>
    have hname : Text.asciiLower name ≠ "accept" := fun h => he.2 (congrArg Slot.header h)
    have hread : (d.edit (.header name value)).content? (.header "accept")
        = ((d.params.headers.insert (Text.asciiLower name) value).get? "accept").map .header := rfl
    rw [hread, KeyMap.get?_insert, if_neg hname]
    simp [Edit.slot, content?]
  | _ => simp [Edit.slot, content?, edit]

/-! ## What several edits do to a slot -/

/-- What follows the writes of one slot is decided by the last one of them. -/
theorem read_editAll (read : Draft → Option Content) {slot : Slot}
    (f : Option Content → Option Content) {edits : List Edit}
    (hstep : ∀ e ∈ edits, ∀ d, read (d.edit e) = if e.slot = slot then f e.content? else read d)
    (d : Draft) :
    read (d.editAll edits) = ((lastWrite? slot edits).map f).getD (read d) := by
  induction edits generalizing d with
  | nil => rfl
  | cons e rest ih =>
    obtain ⟨he, hrest⟩ := List.forall_mem_cons.1 hstep
    have hcons : d.editAll (e :: rest) = (d.edit e).editAll rest := rfl
    rw [hcons, ih hrest, lastWrite?]
    cases lastWrite? slot rest with
    | some c => rfl
    | none =>
      rw [Option.none_or, Option.map_none, Option.getD_none, he d]
      by_cases hslot : e.slot = slot
      · rw [if_pos hslot, if_pos hslot]
        rfl
      · rw [if_neg hslot, if_neg hslot]
        rfl

/-- **The last write of a slot stays.** -/
theorem content?_editAll {slot : Slot} (hslot : slot ≠ .header "accept") (edits : List Edit)
    (d : Draft) :
    (d.editAll edits).content? slot = (lastWrite? slot edits).getD (d.content? slot) := by
  have hstep : ∀ e ∈ edits, ∀ d : Draft,
      (d.edit e).content? slot = if e.slot = slot then id e.content? else d.content? slot :=
    fun e _ d => content?_edit hslot e d
  have h := read_editAll (fun d => d.content? slot) id hstep d
  rwa [Option.map_id] at h

/-- The last edit of a parameter decides its value. -/
theorem get?_editAll {before after : List Edit} {key : String} (v : Option ParamValue)
    (hlast : ∀ e ∈ after, e.slot ≠ .query key) (d : Draft) :
    (d.editAll (before ++ .query key v :: after)).params.get? key = v := by
  have hwrite : lastWrite? (.query key) (before ++ .query key v :: after)
      = some (v.map Content.param) := lastWrite?_append_cons (e := .query key v) hlast
  have hslot : Slot.query key ≠ .header "accept" := fun h => nomatch h
  have hcontent := content?_editAll hslot (before ++ .query key v :: after) d
  rw [hwrite, Option.getD_some] at hcontent
  exact Option.map_injective (fun _ _ => Content.param.inj) hcontent

/-- **The last format decides the header `accept`.** -/
theorem accept_editAll {edits : List Edit} (hedits : ∀ e ∈ edits, e.IsPlain) (d : Draft) :
    (d.editAll edits).content? (.header "accept")
      = ((lastWrite? (.query "format") edits).map (·.bind Content.accept?)).getD
          (d.content? (.header "accept")) :=
  read_editAll (fun d => d.content? (.header "accept")) (·.bind Content.accept?)
    (fun e he d => accept_edit (hedits e he) d) d

/-- **Edits that agree in their last writes lead to one draft.** -/
theorem editAll_eq_of_lastWrite? {edits edits' : List Edit} (hedits : ∀ e ∈ edits, e.IsPlain)
    (hedits' : ∀ e ∈ edits', e.IsPlain)
    (h : ∀ slot, lastWrite? slot edits = lastWrite? slot edits') (d : Draft) :
    d.editAll edits = d.editAll edits' := by
  refine ext_content? fun slot => ?_
  by_cases hslot : slot = .header "accept"
  · rw [hslot, accept_editAll hedits, accept_editAll hedits', h]
  · rw [content?_editAll hslot, content?_editAll hslot, h]

end Draft

/-! ## Settings of an operation -/

/-- No setter of the catalogue clears the format. -/
theorem Catalogue.format_not_clearable : ∀ o ∈ Catalogue.operations, "format" ∉ o.clearable := by
  decide +kernel

/-- The draft after settings of an operation, the first one first. -/
def Draft.setAll {o : Operation} (d : Draft) (settings : List o.Setting) : Draft :=
  d.editAll (settings.map Operation.Setting.edit)

namespace Operation

variable {o : Operation}

theorem Makes.isPlain (ho : o ∈ Catalogue.operations) {e : Edit} (h : o.Makes e) : e.IsPlain := by
  constructor
  · rintro rfl
    cases h with
    | clear h => exact Catalogue.format_not_clearable o ho h
  · cases h with
    | tag value =>
      show Slot.header (Text.asciiLower "x-opaque-id") ≠ .header "accept"
      decide
    | _ => exact fun h => nomatch h

/-- Settings write the slots of their edits. -/
theorem forall_slot_ne {settings : List o.Setting} {slot : Slot}
    (h : ∀ s ∈ settings, s.edit.slot ≠ slot) :
    ∀ e ∈ settings.map Setting.edit, e.slot ≠ slot := by
  intro e he
  obtain ⟨s, hs, rfl⟩ := List.mem_map.1 he
  exact h s hs

/-- **The order of settings does not matter.** From any draft, settings of an operation that agree in
what the last one on each slot leaves there lead to one draft, which resolves to one request or
error. A slot that no setting writes keeps what it holds, and the header `accept` changes only with
the format. Whatever came before, a slot holds what the last setting on it left there. A flag that is
set without an argument is one that is set to true. -/
theorem setAll_lastWrite (ho : o ∈ Catalogue.operations) (d : Draft) :
    (∀ l l' : List o.Setting,
      (∀ slot, lastWrite? slot (l.map Setting.edit) = lastWrite? slot (l'.map Setting.edit)) →
        d.setAll l = d.setAll l' ∧ (d.setAll l).resolve o.spec = (d.setAll l').resolve o.spec) ∧
    (∀ l : List o.Setting,
      (∀ slot, slot ≠ .header "accept" → (∀ s ∈ l, s.edit.slot ≠ slot) →
        (d.setAll l).content? slot = d.content? slot) ∧
      ((∀ s ∈ l, s.edit.slot ≠ .query "format") →
        (d.setAll l).params.accept? = d.params.accept?)) ∧
    (∀ (before after : List o.Setting) (s : o.Setting),
      (∀ t ∈ after, t.edit.slot ≠ s.edit.slot) →
        (d.setAll (before ++ s :: after)).content? s.edit.slot = s.edit.content?) ∧
    ∀ name key : String,
      d.edit ((Setter.on name key).edit ())
        = d.edit ((Setter.switch ("set_" ++ name) key).edit (some true)) := by
  have hplain : ∀ l : List o.Setting, ∀ e ∈ l.map Setting.edit, e.IsPlain := by
    intro l e he
    obtain ⟨s, -, rfl⟩ := List.mem_map.1 he
    exact s.makes.isPlain ho
  refine ⟨?_, ?_, ?_, fun name key => rfl⟩
  · intro l l' h
    have heq : d.setAll l = d.setAll l' :=
      Draft.editAll_eq_of_lastWrite? (hplain l) (hplain l') h d
    exact ⟨heq, by rw [heq]⟩
  · intro l
    constructor
    · intro slot hslot huntouched
      rw [Draft.setAll, Draft.content?_editAll hslot,
        lastWrite?_eq_none (forall_slot_ne huntouched), Option.getD_none]
    · intro huntouched
      have haccept := Draft.accept_editAll (hplain l) d
      rw [lastWrite?_eq_none (forall_slot_ne huntouched)] at haccept
      rw [ParamBag.accept?_eq, ParamBag.accept?_eq]
      exact Option.map_injective (fun _ _ => Content.header.inj) haccept
  · intro before after s hlast
    rw [Draft.setAll, List.map_append, List.map_cons, Draft.content?_editAll (s.makes.isPlain ho).2,
      lastWrite?_append_cons (forall_slot_ne hlast), Option.getD_some]

/-- A table of indices, with its settings in one order and in another: a format that is written over
goes with the header `accept`, and a flag is set, cleared, and set again without an argument. -/
theorem setAll_lastWrite_catIndices :
    let o := Catalogue.catIndices
    let format (f : Token .format) : o.Setting :=
      ⟨.value "format" "format" (.token .format),
        by simp [o, Catalogue.catIndices, setters, Setter.ofRole], f⟩
    let verbose : o.Setting :=
      ⟨.on "verbose" "v",
        by simp [o, Catalogue.catIndices, setters, Setter.ofRole, Setter.flag], ()⟩
    let setVerbose (b : Option Bool) : o.Setting :=
      ⟨.switch "set_verbose" "v",
        by simp [o, Catalogue.catIndices, setters, Setter.ofRole, Setter.flag], b⟩
    let l := [format ⟨"json", by decide⟩, setVerbose none, verbose, format ⟨"yaml", by decide⟩]
    let l' := [format ⟨"yaml", by decide⟩, setVerbose (some false), setVerbose (some true)]
    o ∈ Catalogue.operations ∧
      (∀ slot, lastWrite? slot (l.map Setting.edit) = lastWrite? slot (l'.map Setting.edit)) ∧
      Draft.empty.setAll l = Draft.empty.setAll l' := by
  intro o format verbose setVerbose l l'
  have hmem : o ∈ Catalogue.operations := by decide +kernel
  have hlast : ∀ slot,
      lastWrite? slot (l.map Setting.edit) = lastWrite? slot (l'.map Setting.edit) := by
    intro slot
    have hedits : l.map Setting.edit = [.query "format" (some (.token "json")), .query "v" none,
        .query "v" (some (.bool true)), .query "format" (some (.token "yaml"))] := rfl
    have hedits' : l'.map Setting.edit = [.query "format" (some (.token "yaml")),
        .query "v" (some (.bool false)), .query "v" (some (.bool true))] := rfl
    rw [hedits, hedits']
    by_cases hformat : slot = .query "format"
    · rw [hformat]
      decide
    · by_cases hverbose : slot = .query "v"
      · rw [hverbose]
        decide
      · simp [lastWrite?, Edit.slot, Ne.symm hformat, Ne.symm hverbose]
  exact ⟨hmem, hlast, ((setAll_lastWrite hmem Draft.empty).1 l l' hlast).1⟩

end Operation

end SearchRest
