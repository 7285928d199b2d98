/-
Texts of unknown kind, on their way to the server.

A parameter that is set by the setter of its operation is sent as the text that
was given. One that is given by name, or on a command line, is taken for a truth
value or an integer where it reads as one, and what is sent is how that value is
written. For truth values this is the text again, and for most integers too. But
a numeral that was given with a plus sign, with zeros in front, or as a negative
zero arrives as another text, although it may have been no number at all but a
name made of digits.
-/
import SearchRest.Proofs.Http.Delivery
import SearchRest.Proofs.Draft.Untyped
import SearchRest.Proofs.Text.Numeral

set_option autoImplicit false

namespace SearchRest

/-- **A text is sent as it was given** unless it is a loose numeral. -/
theorem ParamValue.render_infer_eq_self_iff {raw : String} :
    (infer raw).render = raw ↔ ¬ Text.IsLooseNumeral raw.toList := by
  unfold infer
  split
  · rename_i htrue
    rw [htrue]
    exact iff_of_true rfl fun h => nomatch h
  · split
    · rename_i hfalse
      rw [hfalse]
      exact iff_of_true rfl fun h => nomatch h
    · cases hread : Text.readInt64 raw with
      | ok n =>
        show Text.signedDecimal (Int64.ofInt n).toInt = raw ↔ _
        rw [Text.toInt_ofInt_of_readInt64 hread]
        exact Text.signedDecimal_eq_self_iff hread
      -- what does not read as an integer is no numeral of one
      | error e =>
        refine iff_of_true rfl fun h => ?_
        obtain ⟨n, hn⟩ := h.exists_readInt64
        rw [hread] at hn
        cases hn

/-- The text of the value is there once under its key. -/
theorem ParamBag.textsUnder_set (bag : ParamBag) (key : String) (v : ParamValue) :
    textsUnder key (bag.set key v).pairs = [v.render] := by
  rw [textsUnder_pairs, get?, query_set, KeyMap.get?_insert_self]
  rfl

/-- The setter of a parameter that takes a text, with its argument. -/
def Operation.Setting.text {o : Operation} {name key : String}
    (h : ⟨name, key, .text⟩ ∈ o.values) (s : String) : o.Setting where
  setter := .value name key .text
  mem := by
    have hvalue : Setter.value name key .text ∈ o.values.map fun f => .value f.setter f.key f.type :=
      List.mem_map_of_mem (f := fun f : ParamField => Setter.value f.setter f.key f.type) h
    simp only [setters, List.mem_append]
    exact .inl (.inl (.inl (.inl (.inr hvalue))))
  argument := s

namespace Http.Channel.Arrives

variable {c : Channel} {r : Request} {m : Message} {key raw : String}

/-- A text that was given by name arrives as it was given unless it is a loose numeral. -/
theorem texts?_of_ofRaw (h : c.Arrives r m) {before after : List RawStep} {d : Draft}
    (hd : Draft.ofRaw (before ++ .param key raw :: after) = .ok d) (hkey : key ≠ "format")
    (hlast : ∀ s ∈ after, s.slot ≠ .query key) {name : String} {endpoint : EndpointSpec}
    (hendpoint : Catalogue.registry.get name = .ok endpoint) (hr : d.resolve endpoint = .ok r) :
    m.texts? key = some [raw] ↔ ¬ Text.IsLooseNumeral raw.toList := by
  rw [h.texts?_eq hendpoint hr, Draft.get?_ofRaw hkey hlast hd, ← ParamValue.render_infer_eq_self_iff]
  simp

end Http.Channel.Arrives

/-- **When a text of unknown kind is sent as it was given.** Under a key other than the format, every
bag takes a text. What the bag then has under the key, and what its query string is read back as, is
that text exactly when it is not a loose numeral. The same holds of what a server reads in the first
message of a request, to any endpoint, that was put together by name or from a command line, if the
key is not written again later. What was given to the setter of a text is what the server reads,
whatever it is. -/
theorem received_raw_iff {key : String} (hkey : key ≠ "format") (raw : String) :
    (∀ bag : ParamBag, ∃ bag', bag.setRaw key raw = .ok bag' ∧
      (textsUnder key bag'.pairs = [raw] ↔ ¬ Text.IsLooseNumeral raw.toList) ∧
      ((ParamBag.readPairs? bag'.queryString).map (textsUnder key) = some [raw] ↔
        ¬ Text.IsLooseNumeral raw.toList)) ∧
    (∀ (before after : List RawStep) (name : String) (endpoint : EndpointSpec) (d : Draft)
      (c : Http.Channel) (r : Request) (m : Http.Message),
      (∀ s ∈ after, s.slot ≠ .query key) →
      Draft.ofRaw (before ++ .param key raw :: after) = .ok d →
      Catalogue.registry.get name = .ok endpoint → d.resolve endpoint = .ok r → c.Arrives r m →
        (m.texts? key = some [raw] ↔ ¬ Text.IsLooseNumeral raw.toList)) ∧
    (∀ (s : CommandLine.Surroundings) (a : CommandLine.Arguments)
      (before after : List (String × String)) (c : Http.Channel) (r : Request) (m : Http.Message),
      key ∉ after.map Prod.fst → a.params = before ++ (key, raw) :: after →
      CommandLine.plan s a = .call c r → c.Arrives r m →
        (m.texts? key = some [raw] ↔ ¬ Text.IsLooseNumeral raw.toList)) ∧
    ∀ (o : Operation) (name : String) (h : ⟨name, key, .text⟩ ∈ o.values) (start : o.Start)
      (before after : List o.Setting) (c : Http.Channel) (r : Request) (m : Http.Message),
      o ∈ Catalogue.operations → (∀ t ∈ after, t.edit.slot ≠ .query key) →
      (Operation.build start (before ++ .text h raw :: after)).resolve o.spec = .ok r →
      c.Arrives r m → m.texts? key = some [raw] := by
  refine ⟨?_, ?_, ?_, ?_⟩
  · intro bag
    have hset : bag.setRaw key raw = .ok (bag.set key (.infer raw)) := by
      rw [ParamBag.setRaw, if_neg hkey]
    refine ⟨_, hset, ?_⟩
    rw [ParamBag.readPairs?_queryString, Option.map_some, ParamBag.textsUnder_set,
      ← ParamValue.render_infer_eq_self_iff]
    simp
  · intro before after name endpoint d c r m hlast hd hendpoint hr harrives
    exact harrives.texts?_of_ofRaw hd hkey hlast hendpoint hr
  -- the program puts its request together by name, and a body is the only step behind parameters
  · intro s a before after c r m hlast hparams hplan harrives
    obtain ⟨endpoint, d, hdraft, hr⟩ :=
      CommandLine.exists_draft_of_buildRequest (CommandLine.buildRequest_of_plan hplan)
    obtain ⟨⟨name, hendpoint⟩, body, hd⟩ := CommandLine.ofRaw_of_buildDraft hdraft
    obtain ⟨front, back, hsteps, hback⟩ :=
      CommandLine.exists_steps_of_params hparams hlast (a.opaqueId.getD s.freshId) body
    rw [hsteps] at hd
    exact harrives.texts?_of_ofRaw hd hkey hback hendpoint hr
  · intro o name h start before after c r m ho hlast hr harrives
    have hget : (Operation.build start (before ++ .text h raw :: after)).params.get? key
        = some (.text raw) := by
      rw [Operation.build, List.map_append, List.map_cons]
      exact Draft.get?_editAll (some (.text raw)) (Operation.forall_slot_ne hlast) start.draft
    rw [harrives.texts?_eq (Catalogue.registry_get ho) hr, hget]
    rfl

/-- A routing that is a name arrives as it was given by name and on a command line, and one that is
made of digits as it was given to the setter. -/
theorem received_raw_iff_getDocument :
    let get := Catalogue.getDocument
    let byName : List RawStep :=
      [.route "index" (.single "orders"), .route "id" (.single "42"), .param "routing" "eu-07"]
    let surroundings : CommandLine.Surroundings := ⟨fun _ => none, fun _ => .missing, "a"⟩
    let words : CommandLine.Arguments := { CommandLine.Arguments.empty with
      endpoint := some "get", route := [("index", "orders"), ("id", "42")],
      params := [("routing", "eu-07")] }
    let start : get.Start := .made ⟨"new", get.start⟩ List.mem_cons_self (⟨"orders"⟩, ⟨"42"⟩, ())
    let routing : get.Setting := .text (by decide : ⟨"routing", "routing", .text⟩ ∈ get.values) "007"
    (∃ d r m, Draft.ofRaw byName = .ok d ∧ d.resolve get.spec = .ok r ∧
      Http.Channel.standard.Arrives r m ∧ m.texts? "routing" = some ["eu-07"]) ∧
    (∃ c r m, CommandLine.plan surroundings words = .call c r ∧ c.Arrives r m ∧
      m.texts? "routing" = some ["eu-07"]) ∧
    ∃ r m, (Operation.build start [routing]).resolve get.spec = .ok r ∧
      Http.Channel.standard.Arrives r m ∧ m.texts? "routing" = some ["007"] := by
  intro get byName surroundings words start routing
  have hget : get ∈ Catalogue.operations := by decide +kernel
  have hendpoint := Catalogue.registry_get hget
  have hname : ¬ Text.IsLooseNumeral "eu-07".toList := fun h => nomatch h
  let request (v : ParamValue) (headers : KeyMap String) : Request :=
    ⟨get.spec, "/orders/_doc/42", ⟨.ofList [("routing", v)], headers⟩, none⟩
  let message (query : String) (headers : List (String × String)) : Http.Message :=
    ⟨.get, ⟨"http", "", "localhost", some 9200, "/orders/_doc/42", some query, none⟩,
      headers ++ [("user-agent", "osq/0.1.0"), ("accept", "*/*")], []⟩
  have hkey : "routing" ≠ "format" := by decide
  obtain ⟨-, hnamed, hprogram, -⟩ := received_raw_iff hkey "eu-07"
  obtain ⟨-, -, -, hsetter⟩ := received_raw_iff hkey "007"
  refine ⟨?_, ?_, ?_⟩
  · let d : Draft := ⟨.ofList [("index", .single "orders"), ("id", .single "42")],
      ⟨.ofList [("routing", .text "eu-07")], ∅⟩, none⟩
    have hd : Draft.ofRaw byName = .ok d := by decide +kernel
    have hr : d.resolve get.spec = .ok (request (.text "eu-07") ∅) := by decide +kernel
    have harrives : Http.Channel.standard.Arrives (request (.text "eu-07") ∅)
        (message "routing=eu-07" []) := .waiting (fun _ => .silent) (by decide +kernel)
    refine ⟨d, _, _, hd, hr, harrives, ?_⟩
    exact (hnamed (byName.take 2) [] _ get.spec d _ _ _ (by simp) hd hendpoint hr harrives).2 hname
  · let r := request (.text "eu-07") (.ofList [("x-opaque-id", "a")])
    have hprepare : CommandLine.prepare surroundings words = .ok (Http.Channel.standard, r) := by
      decide +kernel
    have hplan : CommandLine.plan surroundings words = .call Http.Channel.standard r := by
      rw [CommandLine.plan, if_neg (by decide), hprepare]
    have harrives : Http.Channel.standard.Arrives r
        (message "routing=eu-07" [("x-opaque-id", "a")]) :=
      .concurrent (fun _ => .silent) false (by decide +kernel)
    refine ⟨_, _, _, hplan, harrives, ?_⟩
    exact (hprogram surroundings words [] [] _ _ _ (by simp) rfl hplan harrives).2 hname
  · have hr : (Operation.build start [routing]).resolve get.spec = .ok (request (.text "007") ∅) := by
      decide +kernel
    have harrives : Http.Channel.standard.Arrives (request (.text "007") ∅)
        (message "routing=007" []) := .waiting (fun _ => .silent) (by decide +kernel)
    exact ⟨_, _, hr, harrives, hsetter get "routing" (by decide) start [] [] _ _ _ hget (by simp) hr
      harrives⟩

/-- A routing that is made of digits arrives as another text if it was given by name. -/
theorem received_raw_getDocument_of_zeros :
    let get := Catalogue.getDocument
    let byName : List RawStep :=
      [.route "index" (.single "orders"), .route "id" (.single "42"), .param "routing" "007"]
    ∃ d r m, Draft.ofRaw byName = .ok d ∧ d.params.pairs = [("routing", "7")] ∧
      d.params.queryString = "routing=7" ∧ d.resolve get.spec = .ok r ∧
      Http.Channel.standard.Arrives r m ∧ m.target = "/orders/_doc/42?routing=7" ∧
      m.texts? "routing" = some ["7"] := by
  intro get byName
  let d : Draft := ⟨.ofList [("index", .single "orders"), ("id", .single "42")],
    ⟨.ofList [("routing", .integer 7)], ∅⟩, none⟩
  let r : Request := ⟨get.spec, "/orders/_doc/42", d.params, none⟩
  let m : Http.Message :=
    ⟨.get, ⟨"http", "", "localhost", some 9200, "/orders/_doc/42", some "routing=7", none⟩,
      [("user-agent", "osq/0.1.0"), ("accept", "*/*")], []⟩
  have harrives : Http.Channel.standard.Arrives r m :=
    .waiting (fun _ => .silent) (by decide +kernel)
  exact ⟨d, r, m, by decide +kernel, by decide +kernel, by decide +kernel, by decide +kernel,
    harrives, by decide +kernel, by decide +kernel⟩

end SearchRest
