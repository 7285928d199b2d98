/-
Drafts that are put together from texts.

A request to any endpoint can be put together by name, without the setters of
its operation: a segment, a header or the body is written as it is given, and a
parameter is given as a text whose kind is not known. What a step writes does not
depend on the draft. So a draft that is put together in this way is one that
edits lead to, one edit for each step, and what edits leave in a slot, its steps
leave there. The program puts its requests together so.
-/
import SearchRest.CommandLine.Program
import SearchRest.Proofs.Draft.Slots

set_option autoImplicit false

namespace SearchRest

/-! ## Parameters from texts -/

/-- **The value that a text is taken for** under a key. Only a format can be refused. -/
def ParamValue.read (key raw : String) : Except RequestError ParamValue :=
  if key = "format" then
    match Token.ofText? .format (Text.asciiLower raw) with
    | some t => .ok (.ofToken t)
    | none => .error (.invalidParameterValue raw TokenDomain.format.description)
  else .ok (.infer raw)

/-- The value does not depend on the bag. -/
theorem ParamBag.setRaw_eq (bag : ParamBag) (key raw : String) :
    bag.setRaw key raw = (ParamValue.read key raw).map (bag.set key) := by
  unfold setRaw ParamValue.read
  by_cases hkey : key = "format"
  · rw [if_pos hkey, if_pos hkey]
    cases Token.ofText? .format (Text.asciiLower raw) <;> rfl
  · rw [if_neg hkey, if_neg hkey]
    rfl

/-! ## Steps -/

/-- **A step in putting a draft together by name.** -/
inductive RawStep where
  | route (name : String) (v : RouteValue)
  /-- A parameter, as a text whose kind is not known. -/
  | param (key raw : String)
  | header (name value : String)
  | body (b : Body)

namespace RawStep

/-- The slot that the step writes. -/
def slot : RawStep → Slot
  | .route name _ => .segment name
  | .param key _ => .query key
  | .header name _ => .header (Text.asciiLower name)
  | .body _ => .body

/-- **The edit that the step makes.** -/
def edit : RawStep → Except RequestError Edit
  | .route name v => .ok (.bind name v)
  | .param key raw => (ParamValue.read key raw).map fun v => .query key (some v)
  | .header name value => .ok (.header name value)
  | .body b => .ok (.attach b)

theorem slot_edit {s : RawStep} {e : Edit} (h : s.edit = .ok e) : e.slot = s.slot := by
  cases s with
  | param key raw =>
    obtain ⟨v, -, rfl⟩ := map_eq_ok_iff.1 h
    rfl
  | _ =>
    obtain rfl := Except.ok.inj h
    rfl

end RawStep

namespace Draft

variable {d : Draft} {steps : List RawStep}

/-- The draft after a step. -/
def rawStep (d : Draft) : RawStep → Except RequestError Draft
  | .route name v => .ok (d.edit (.bind name v))
  | .param key raw => d.setRaw key raw
  | .header name value => .ok (d.edit (.header name value))
  | .body b => .ok (d.edit (.attach b))

/-- **The draft that steps put together**, the first one first. -/
def ofRaw (steps : List RawStep) : Except RequestError Draft := steps.foldlM rawStep empty

/-- A step makes its edit, whatever the draft holds. -/
theorem rawStep_eq (d : Draft) (s : RawStep) : d.rawStep s = s.edit.map d.edit := by
  cases s with
  | param key raw =>
    rw [rawStep, setRaw, ParamBag.setRaw_eq, RawStep.edit]
    cases ParamValue.read key raw <;> rfl
  | _ => rfl

/-- **Steps make their edits.** -/
theorem foldlM_rawStep_eq_ok_iff {d' : Draft} :
    steps.foldlM rawStep d = .ok d' ↔
      ∃ edits, List.Forall₂ (fun s e => s.edit = .ok e) steps edits ∧ d' = d.editAll edits := by
  induction steps generalizing d with
  | nil => simp [editAll, pure, Except.pure, eq_comm]
  | cons s steps ih =>
    rw [List.foldlM_cons, rawStep_eq]
    cases hs : s.edit with
    -- a step that fails ends the run, and no edit stands beside it
    | error e => simp [List.forall₂_cons_left_iff, hs, Except.map, bind, Except.bind]
    | ok e =>
      have hhead : (Except.map d.edit (.ok e) >>= fun d => steps.foldlM rawStep d)
          = steps.foldlM rawStep (d.edit e) := rfl
      rw [hhead, ih]
      simp [List.forall₂_cons_left_iff, hs, editAll]

/-- **What the last step on a parameter leaves there**, unless it is the format: the value that its
text is taken for. -/
theorem get?_ofRaw {before after : List RawStep} {key raw : String} (hkey : key ≠ "format")
    (hlast : ∀ s ∈ after, s.slot ≠ .query key)
    (h : ofRaw (before ++ .param key raw :: after) = .ok d) :
    d.params.get? key = some (.infer raw) := by
  obtain ⟨edits, hedits, rfl⟩ := foldlM_rawStep_eq_ok_iff.1 h
  obtain ⟨front, back, rfl, -, hback⟩ := exists_append_of_forall₂ hedits
  obtain ⟨e, later, he, hlater, rfl⟩ := List.forall₂_cons_left_iff.1 hback
  obtain rfl : .query key (some (.infer raw)) = e := by
    rw [RawStep.edit, ParamValue.read, if_neg hkey] at he
    exact Except.ok.inj he
  -- each of the later edits is that of a step, which writes another slot
  refine get?_editAll _ (fun e' he' => ?_) empty
  obtain ⟨s, hs, hedit⟩ := exists_left_of_forall₂ hlater he'
  rw [RawStep.slot_edit hedit]
  exact hlast s hs

/-! ## Drafts that were not stored -/

/-- **The drafts that are put together**: by edits, which are what all starts and setters and the
hooks of documents make, and by name. A draft that is read from its stored form is none of them. -/
inductive Made : Draft → Prop where
  | empty : Made empty
  | edit {d : Draft} (h : d.Made) (e : Edit) : (d.edit e).Made
  | raw {d d' : Draft} (h : d.Made) {s : RawStep} (hs : d.rawStep s = .ok d') : d'.Made

theorem Made.editAll (h : d.Made) (edits : List Edit) : (d.editAll edits).Made :=
  List.foldlRecOn edits Draft.edit h fun _ hd e _ => hd.edit e

theorem made_ofRaw (h : ofRaw steps = .ok d) : d.Made := by
  obtain ⟨edits, -, rfl⟩ := foldlM_rawStep_eq_ok_iff.1 h
  exact Made.empty.editAll edits

end Draft

theorem Operation.made_build {o : Operation} (s : o.Start) (settings : List o.Setting) :
    (build s settings).Made := by
  obtain ⟨edits, hdraft, -⟩ := s.exists_edits
  rw [build, hdraft]
  exact (Draft.Made.empty.editAll edits).editAll _

/-! ## Requests of the program -/

namespace CommandLine

/-- The steps that the arguments of a command line ask for, up to the body. -/
def Arguments.rawSteps (a : Arguments) (opaqueId : String) : List RawStep :=
  .header "x-opaque-id" opaqueId :: a.route.map (fun r => .route r.1 (routeValue r.2)) ++
    a.params.map fun p => .param p.1 p.2

theorem foldlM_of_withParams {d d' : Draft} {params : List (String × String)}
    (h : withParams d params = .ok d') : params.foldlM (fun d p => d.setRaw p.1 p.2) d = .ok d' := by
  unfold withParams at h
  split at h
  · rename_i found hfound
    rw [hfound, Except.ok.inj h]
  · cases h

/-- Steps for segments do not fail. -/
theorem foldlM_route (l : List (String × String)) (d : Draft) :
    (l.map fun r => RawStep.route r.1 (routeValue r.2)).foldlM Draft.rawStep d
      = .ok (l.foldl (fun d r => d.edit (.bind r.1 (routeValue r.2))) d) := by
  rw [List.foldlM_map]
  exact List.foldlM_pure

theorem ofRaw_rawSteps (a : Arguments) (opaqueId : String) :
    Draft.ofRaw (a.rawSteps opaqueId)
      = a.params.foldlM (fun d p => d.setRaw p.1 p.2)
          (a.route.foldl (fun d r => d.edit (.bind r.1 (routeValue r.2)))
            (Draft.empty.edit (.header "x-opaque-id" opaqueId))) := by
  have hbind (d : Draft) (f : Draft → Except RequestError Draft) : (.ok d >>= f) = f d := rfl
  have hheader : Draft.empty.rawStep (.header "x-opaque-id" opaqueId)
      = .ok (Draft.empty.edit (.header "x-opaque-id" opaqueId)) := rfl
  rw [Draft.ofRaw, Arguments.rawSteps, List.foldlM_append, List.foldlM_cons, hheader, hbind,
    foldlM_route, hbind]
  exact List.foldlM_map ..

/-- **The program puts its draft together by name**, for an endpoint of the registry. -/
theorem ofRaw_of_buildDraft {a : Arguments} {opaqueId : String} {entry : String → FileEntry}
    {endpoint : EndpointSpec} {d : Draft}
    (h : buildDraft a opaqueId entry = .ok (endpoint, d)) :
    (∃ name, Catalogue.registry.get name = .ok endpoint) ∧
      ∃ body : Option Body,
        Draft.ofRaw (a.rawSteps opaqueId ++ (body.map RawStep.body).toList) = .ok d := by
  unfold buildDraft at h
  split at h
  · rename_i name _
    split at h
    · cases h
    · rename_i spec hspec
      obtain ⟨routed, hparams, h⟩ := bind_eq_ok_iff.1 h
      replace hparams := foldlM_of_withParams hparams
      rw [← ofRaw_rawSteps] at hparams
      -- the body comes last, as one more step
      have hsteps : ∀ body : Option Body,
          Draft.ofRaw (a.rawSteps opaqueId ++ (body.map RawStep.body).toList)
            = (body.map RawStep.body).toList.foldlM Draft.rawStep routed := by
        intro body
        rw [Draft.ofRaw, List.foldlM_append, ← Draft.ofRaw, hparams]
        rfl
      split at h
      · obtain ⟨rfl, rfl⟩ := Prod.mk.inj (Except.ok.inj h)
        exact ⟨⟨name, hspec⟩, none, hsteps none⟩
      · obtain ⟨b, -, h⟩ := bind_eq_ok_iff.1 h
        obtain ⟨rfl, rfl⟩ := Prod.mk.inj (Except.ok.inj h)
        exact ⟨⟨name, hspec⟩, some b, hsteps (some b)⟩
  · cases h

/-- Behind the last parameter of a key, no step writes it. -/
theorem exists_steps_of_params {a : Arguments} {before after : List (String × String)}
    {key raw : String} (hparams : a.params = before ++ (key, raw) :: after)
    (hlast : key ∉ after.map Prod.fst) (opaqueId : String) (body : Option Body) :
    ∃ front back, a.rawSteps opaqueId ++ (body.map RawStep.body).toList
        = front ++ .param key raw :: back ∧ ∀ s ∈ back, s.slot ≠ .query key := by
  refine ⟨.header "x-opaque-id" opaqueId :: a.route.map (fun r => .route r.1 (routeValue r.2)) ++
      before.map fun p => .param p.1 p.2,
    (after.map fun p => .param p.1 p.2) ++ (body.map RawStep.body).toList, ?_, ?_⟩
  · simp [Arguments.rawSteps, hparams]
  · intro s hs
    rcases List.mem_append.1 hs with hs | hs
    · obtain ⟨p, hp, rfl⟩ := List.mem_map.1 hs
      intro hslot
      exact hlast (List.mem_map.2 ⟨p, hp, Slot.query.inj hslot⟩)
    · obtain ⟨b, -, rfl⟩ := Option.map_eq_some_iff.1 (Option.mem_toList.1 hs)
      exact fun hslot => nomatch hslot

theorem exists_draft_of_buildRequest {a : Arguments} {opaqueId : String}
    {entry : String → FileEntry} {r : Request} (h : buildRequest a opaqueId entry = .ok r) :
    ∃ endpoint d, buildDraft a opaqueId entry = .ok (endpoint, d) ∧ d.resolve endpoint = .ok r := by
  obtain ⟨⟨endpoint, d⟩, hdraft, h⟩ := bind_eq_ok_iff.1 h
  refine ⟨endpoint, d, hdraft, ?_⟩
  simp only at h
  split at h
  · rename_i found hfound
    rw [hfound, Except.ok.inj h]
  · cases h

/-- **A run that makes a call** made its request of what its command line describes. -/
theorem buildRequest_of_plan {s : Surroundings} {a : Arguments} {c : Http.Channel} {r : Request}
    (h : plan s a = .call c r) :
    buildRequest a (a.opaqueId.getD s.freshId) s.entry = .ok r := by
  unfold plan at h
  split at h
  · cases h
  split at h
  · rename_i channel request hprepare
    obtain ⟨rfl, rfl⟩ := Plan.call.inj h
    unfold prepare at hprepare
    split at hprepare
    · cases hprepare
    -- the log filter and the address for traces are checked before
    obtain ⟨-, -, hprepare⟩ := bind_eq_ok_iff.1 hprepare
    obtain ⟨-, -, hprepare⟩ := bind_eq_ok_iff.1 hprepare
    obtain ⟨built, hbuild, hchannel⟩ := bind_eq_ok_iff.1 hprepare
    split at hchannel
    · obtain ⟨-, rfl⟩ := Prod.mk.inj (Except.ok.inj hchannel)
      exact hbuild
    · cases hchannel
  · cases h

end CommandLine

end SearchRest
