/-
What a run of the program sends and prints.

Everything that a run needs for its call is found out before: the settings, the
log filter, the address for traces, the draft with its parameters and its body,
the path, and the channel. Each of these is a check that can fail for reasons of
its own, and the call is made exactly when none of them does. So a run hands over
one request or none. What it prints and how it ends is then decided by what
becomes of this request alone.
-/
import SearchRest.Proofs.Client.Calls
import SearchRest.Proofs.Draft.Untyped

set_option autoImplicit false

namespace SearchRest

/-- A channel can be opened if the address and the name of the client can be used. -/
theorem Http.Channel.exists_make_iff {s : Http.Settings} :
    (∃ c, make s = .ok c) ↔ (∃ url, s.base = .ok url) ∧ Http.isHeaderText s.userAgent = true := by
  unfold make
  split
  · rename_i e hbase
    simp [hbase]
  · rename_i url hbase
    by_cases hagent : Http.isHeaderText s.userAgent = true
    · simp [hbase, hagent]
    · simp [hagent]

namespace CommandLine

variable {s : Surroundings} {a : Arguments}

/-! ## The checks -/

/-- **Why a run that is to make a call makes none.** -/
inductive Hindered (s : Surroundings) (a : Arguments) : Prop where
  /-- The file with the settings cannot be read, or not as settings. -/
  | file {e : SettingsError} (h : Settings.load a.config (s.entry a.config) = .error e)
  /-- The time in the variable is no number. -/
  | timeout {value : String} {e : Text.NumeralError}
      (hvalue : s.environment "OSQ_TIMEOUT_SECS" = some value)
      (h : Text.readWord (Text.trim value) = .error e)
  | logFilter {st : Settings} {e : Failure}
      (hst : Settings.resolve a s.environment (s.entry a.config) = .ok st)
      (h : checkFilter s.environment st.logs = .error e)
  | traces {st : Settings} {e : Failure}
      (hst : Settings.resolve a s.environment (s.entry a.config) = .ok st)
      (h : checkTraces s.environment st.logs = .error e)
  | noEndpoint (h : a.endpoint = none)
  | unknownEndpoint {name : String} {e : RequestError} (hname : a.endpoint = some name)
      (h : Catalogue.registry.get name = .error e)
  /-- A parameter is refused. -/
  | param {key raw : String} {e : RequestError} (hmem : (key, raw) ∈ a.params)
      (h : ParamValue.read key raw = .error e)
  | body {raw : String} {e : Failure} (hraw : a.body = some raw) (h : bodyOf s.entry raw = .error e)
  /-- The draft does not resolve. -/
  | unresolved {spec : EndpointSpec} {d : Draft} {e : RequestError}
      (hd : buildDraft a (a.opaqueId.getD s.freshId) s.entry = .ok (spec, d))
      (h : d.resolve spec = .error e)
  | baseUrl {st : Settings} {e : Http.SettingsError}
      (hst : Settings.resolve a s.environment (s.entry a.config) = .ok st)
      (h : st.http.base = .error e)
  /-- The name of the client cannot be sent. -/
  | userAgent {st : Settings}
      (hst : Settings.resolve a s.environment (s.entry a.config) = .ok st)
      (h : Http.isHeaderText st.http.userAgent = false)

/-- Settings need a file that reads, if there is one, and a time that does, if one is set. -/
theorem Settings.exists_resolve_iff {environment : String → Option String} {entry : FileEntry} :
    (∃ st, resolve a environment entry = .ok st) ↔
      (∃ st, load a.config entry = .ok st) ∧
        ∀ value, environment "OSQ_TIMEOUT_SECS" = some value →
          ∃ n, Text.readWord (Text.trim value) = .ok n := by
  unfold resolve
  cases hload : load a.config entry with
  | error e => simp
  | ok st =>
    cases hvalue : environment "OSQ_TIMEOUT_SECS" with
    | none => simp [applyVariables, withTimeout, hvalue]
    | some value =>
      cases hread : Text.readWord (Text.trim value) <;>
        simp [applyVariables, withTimeout, hvalue, hread]

/-- Parameters are set if none of them is refused. -/
theorem exists_withParams_iff {params : List (String × String)} {d : Draft} :
    (∃ d', withParams d params = .ok d') ↔ ∀ p ∈ params, ∃ v, ParamValue.read p.1 p.2 = .ok v := by
  have hfold : (∃ d', withParams d params = .ok d') ↔
      ∃ d', params.foldlM (fun d p => d.setRaw p.1 p.2) d = .ok d' := by
    unfold withParams
    cases params.foldlM (fun d p => d.setRaw p.1 p.2) d <;> simp
  rw [hfold]
  clear hfold
  induction params generalizing d with
  | nil => simp [pure, Except.pure]
  | cons p params ih =>
    rw [List.foldlM_cons, List.forall_mem_cons, Draft.setRaw, ParamBag.setRaw_eq]
    cases hread : ParamValue.read p.1 p.2 with
    | error e => simp [Except.map, bind, Except.bind]
    | ok v =>
      refine Iff.trans ?_ (and_iff_right ⟨v, rfl⟩).symm
      exact ih

/-- A draft is built if the endpoint is known, no parameter is refused, and a body that is given can
be read. -/
theorem exists_buildDraft_iff {opaqueId : String} {entry : String → FileEntry} :
    (∃ spec d, buildDraft a opaqueId entry = .ok (spec, d)) ↔
      (∃ name spec, a.endpoint = some name ∧ Catalogue.registry.get name = .ok spec) ∧
        (∀ p ∈ a.params, ∃ v, ParamValue.read p.1 p.2 = .ok v) ∧
        ∀ raw, a.body = some raw → ∃ b, bodyOf entry raw = .ok b := by
  unfold buildDraft
  cases hname : a.endpoint with
  | none => simp
  | some name =>
    cases hspec : Catalogue.registry.get name with
    | error e => simp [hspec]
    | ok spec =>
      let routed := a.route.foldl (fun d r => d.edit (.bind r.1 (routeValue r.2)))
        (Draft.empty.edit (.header "x-opaque-id" opaqueId))
      rw [← exists_withParams_iff (d := routed)]
      cases hset : withParams routed a.params with
      | error e => simp [hspec, hset, routed, bind, Except.bind]
      | ok d =>
        cases hbody : a.body with
        | none => simp [hspec, hset, routed, bind, Except.bind, pure, Except.pure]
        | some raw =>
          cases hread : bodyOf entry raw <;>
            simp [hspec, hset, hread, routed, bind, Except.bind, pure, Except.pure]

/-- A request is built if a draft is, and the draft resolves. -/
theorem exists_buildRequest_iff {opaqueId : String} {entry : String → FileEntry} :
    (∃ r, buildRequest a opaqueId entry = .ok r) ↔
      ∃ spec d, buildDraft a opaqueId entry = .ok (spec, d) ∧ ∃ r, d.resolve spec = .ok r := by
  unfold buildRequest
  cases hdraft : buildDraft a opaqueId entry with
  | error e => simp [bind, Except.bind]
  | ok p =>
    obtain ⟨spec, d⟩ := p
    cases hresolve : d.resolve spec <;>
      simp [hresolve, bind, Except.bind, pure, Except.pure]

/-- **Everything is ready for the call** if every check passes. -/
theorem exists_prepare_iff :
    (∃ c r, prepare s a = .ok (c, r)) ↔
      ∃ st, Settings.resolve a s.environment (s.entry a.config) = .ok st ∧
        checkFilter s.environment st.logs = .ok () ∧ checkTraces s.environment st.logs = .ok () ∧
        (∃ r, buildRequest a (a.opaqueId.getD s.freshId) s.entry = .ok r) ∧
        ∃ c, Http.Channel.make st.http = .ok c := by
  unfold prepare
  cases hst : Settings.resolve a s.environment (s.entry a.config) with
  | error e => simp
  | ok st =>
    cases hlogs : checkFilter s.environment st.logs with
    | error e => simp [hlogs, bind, Except.bind]
    | ok u =>
      cases htraces : checkTraces s.environment st.logs with
      | error e => simp [hlogs, htraces, bind, Except.bind]
      | ok u' =>
        cases hbuild : buildRequest a (a.opaqueId.getD s.freshId) s.entry with
        | error e => simp [hlogs, htraces, bind, Except.bind]
        | ok r =>
          cases hmake : Http.Channel.make st.http <;>
            simp [hlogs, htraces, hmake, bind, Except.bind, pure, Except.pure]

/-- What is no error is a result. -/
theorem exists_ok_of_forall_ne_error {ε α : Type} {x : Except ε α} (h : ∀ e, x ≠ .error e) :
    ∃ v, x = .ok v := by
  cases x with
  | error e => exact absurd rfl (h e)
  | ok v => exact ⟨v, rfl⟩

/-- **A run is ready for its call exactly if nothing hinders it.** -/
theorem exists_prepare_iff_not_hindered :
    (∃ c r, prepare s a = .ok (c, r)) ↔ ¬ Hindered s a := by
  rw [exists_prepare_iff]
  constructor
  · rintro ⟨st, hst, hlogs, htraces, hbuild, hmake⟩ hhindered
    obtain ⟨⟨loaded, hload⟩, htime⟩ := Settings.exists_resolve_iff.1 ⟨st, hst⟩
    obtain ⟨spec, d, hdraft, r, hresolve⟩ := exists_buildRequest_iff.1 hbuild
    obtain ⟨⟨name, found, hname, hfound⟩, hparams, hbody⟩ :=
      exists_buildDraft_iff.1 ⟨spec, d, hdraft⟩
    obtain ⟨⟨url, hbase⟩, hagent⟩ := Http.Channel.exists_make_iff.1 hmake
    -- every check passed, so the result of the one that failed would be both
    cases hhindered with
    | file h => exact absurd (h.symm.trans hload) nofun
    | timeout hvalue h =>
      obtain ⟨n, hn⟩ := htime _ hvalue
      exact absurd (h.symm.trans hn) nofun
    | logFilter hst' h =>
      obtain rfl := Except.ok.inj (hst.symm.trans hst')
      exact absurd (h.symm.trans hlogs) nofun
    | traces hst' h =>
      obtain rfl := Except.ok.inj (hst.symm.trans hst')
      exact absurd (h.symm.trans htraces) nofun
    | noEndpoint h => exact absurd (h.symm.trans hname) nofun
    | unknownEndpoint hname' h =>
      obtain rfl := Option.some.inj (hname.symm.trans hname')
      exact absurd (h.symm.trans hfound) nofun
    | param hmem h =>
      obtain ⟨v, hv⟩ := hparams _ hmem
      exact absurd (h.symm.trans hv) nofun
    | body hraw h =>
      obtain ⟨b, hb⟩ := hbody _ hraw
      exact absurd (h.symm.trans hb) nofun
    | unresolved hdraft' h =>
      obtain ⟨rfl, rfl⟩ := Prod.mk.inj (Except.ok.inj (hdraft.symm.trans hdraft'))
      exact absurd (h.symm.trans hresolve) nofun
    | baseUrl hst' h =>
      obtain rfl := Except.ok.inj (hst.symm.trans hst')
      exact absurd (h.symm.trans hbase) nofun
    | userAgent hst' h =>
      obtain rfl := Except.ok.inj (hst.symm.trans hst')
      exact absurd (h.symm.trans hagent) Bool.false_ne_true
  · intro h
    obtain ⟨st, hst⟩ : ∃ st, Settings.resolve a s.environment (s.entry a.config) = .ok st := by
      refine Settings.exists_resolve_iff.2 ⟨?_, fun value hvalue => ?_⟩
      · exact exists_ok_of_forall_ne_error fun e he => h (.file he)
      · exact exists_ok_of_forall_ne_error fun e he => h (.timeout hvalue he)
    obtain ⟨⟨⟩, hlogs⟩ := exists_ok_of_forall_ne_error fun e he => h (.logFilter hst he)
    obtain ⟨⟨⟩, htraces⟩ := exists_ok_of_forall_ne_error fun e he => h (.traces hst he)
    have hendpoint :
        ∃ name spec, a.endpoint = some name ∧ Catalogue.registry.get name = .ok spec := by
      cases hname : a.endpoint with
      | none => exact absurd (.noEndpoint hname) h
      | some name =>
        obtain ⟨spec, hspec⟩ :=
          exists_ok_of_forall_ne_error fun e he => h (.unknownEndpoint hname he)
        exact ⟨name, spec, rfl, hspec⟩
    obtain ⟨spec, d, hdraft⟩ :
        ∃ spec d, buildDraft a (a.opaqueId.getD s.freshId) s.entry = .ok (spec, d) := by
      refine exists_buildDraft_iff.2 ⟨hendpoint, fun p hp => ?_, fun raw hraw => ?_⟩
      · exact exists_ok_of_forall_ne_error fun e he => h (.param hp he)
      · exact exists_ok_of_forall_ne_error fun e he => h (.body hraw he)
    refine ⟨st, hst, hlogs, htraces, exists_buildRequest_iff.2 ⟨spec, d, hdraft, ?_⟩,
      Http.Channel.exists_make_iff.2 ⟨?_, ?_⟩⟩
    · exact exists_ok_of_forall_ne_error fun e he => h (.unresolved hdraft he)
    · exact exists_ok_of_forall_ne_error fun e he => h (.baseUrl hst he)
    · exact Bool.of_not_eq_false fun hagent => h (.userAgent hst hagent)

/-! ## What becomes of a call -/

namespace Outcome

/-- The exit code tells whether there is a response that tells of success. -/
theorem exitCode_called {x : Except TransportError Response} :
    (called x).exitCode = 0 ↔ ∃ r, x.toOption = some r ∧ 200 ≤ r.status ∧ r.status ≤ 299 := by
  cases x with
  | error e => simp [called, failed, Except.toOption]
  | ok r =>
    have hsuccess : r.isSuccess = true ↔ 200 ≤ r.status ∧ r.status ≤ 299 := by
      rw [Response.isSuccess, Bool.and_eq_true, decide_eq_true_iff, decide_eq_true_iff]
      omega
    have hcode : (called (.ok r)).exitCode = 0 ↔ r.isSuccess = true := by
      cases hr : r.isSuccess <;> simp [called, hr]
    rw [hcode, hsuccess]
    simp [Except.toOption]

/-- The body is printed, and ends its line. -/
theorem withLineEnd_eq (bytes : Text.Bytes) :
    withLineEnd bytes
      = bytes ++ if bytes ≠ [] ∧ bytes.getLast? ≠ some 0x0a then [0x0a] else [] := by
  unfold withLineEnd
  by_cases hempty : bytes = []
  · simp [hempty]
  · by_cases hlast : bytes.getLast? = some 0x0a
    · simp [hlast]
    · simp [hempty, hlast]

/-- What is printed is the body of a response, if there is one. -/
theorem output_called (x : Except TransportError Response) :
    (called x).output = (x.toOption.map fun r => withLineEnd r.body).getD [] := by
  cases x <;> rfl

end Outcome

/-! ## Runs -/

/-- **A run with a record of what it hands over**, and how it ends. The transport may answer in any
way. -/
def recordedRun (s : Surroundings) (words : List String)
    (answer : List (Http.Channel × Request) → Http.Channel × Request →
      Except TransportError Response) : Outcome × List (Http.Channel × Request) :=
  (run s words fun c r => recorded answer (c, r)).run []

section Runs

variable {words : List String} (answer : List (Http.Channel × Request) →
  Http.Channel × Request → Except TransportError Response)

theorem recordedRun_of_list (hread : Arguments.read words = .ok a) (hlist : a.list = true) :
    recordedRun s words answer = (.lines Catalogue.registry.listing, []) := by
  simp only [recordedRun, run, hread, plan, hlist]
  rfl

/-- A run that something hinders hands nothing over and tells why. -/
theorem exists_recordedRun_of_hindered (hread : Arguments.read words = .ok a)
    (hlist : a.list = false) (h : Hindered s a) :
    ∃ f, recordedRun s words answer = (.failed f, []) := by
  obtain ⟨f, hf⟩ : ∃ f, prepare s a = .error f := by
    cases hprepare : prepare s a with
    | error f => exact ⟨f, rfl⟩
    | ok p => exact absurd h (exists_prepare_iff_not_hindered.1 ⟨p.1, p.2, hprepare⟩)
  refine ⟨f, ?_⟩
  simp only [recordedRun, run, hread, plan, hlist, hf]
  rfl

/-- A run that nothing hinders makes its call. -/
theorem exists_recordedRun_of_not_hindered (hread : Arguments.read words = .ok a)
    (hlist : a.list = false) (h : ¬ Hindered s a) :
    ∃ p, recordedRun s words answer = (.called (answer [] p), [p]) := by
  obtain ⟨c, r, hprepare⟩ := exists_prepare_iff_not_hindered.2 h
  refine ⟨(c, r), ?_⟩
  simp only [recordedRun, run, hread, plan, hlist, hprepare]
  rfl

end Runs

/-- **A run hands over one request or none, and shows what becomes of it.** Of every run whose
command line reads, in any surroundings and whatever the transport answers: it hands over at most
one request, and none exactly if the listing is wanted or something hinders it. It succeeds exactly
if the listing is wanted or there is a response with a status of success. If there is a response,
its body is printed, with the end of a line behind it unless the body is empty or has one there. If
there is none, nothing is printed but the listing. -/
theorem recordedRun_of_read {words : List String} (hread : Arguments.read words = .ok a)
    (s : Surroundings) (answer : List (Http.Channel × Request) → Http.Channel × Request →
      Except TransportError Response) :
    let (outcome, handed) := recordedRun s words answer
    let response? := handed.head?.bind fun p => (answer [] p).toOption
    handed.length ≤ 1 ∧
    (handed = [] ↔ a.list = true ∨ Hindered s a) ∧
    (outcome.exitCode = 0 ↔
      a.list = true ∨ ∃ r, response? = some r ∧ 200 ≤ r.status ∧ r.status ≤ 299) ∧
    (∀ r, response? = some r → outcome.output
      = r.body ++ if r.body ≠ [] ∧ r.body.getLast? ≠ some 0x0a then [0x0a] else []) ∧
    (a.list = false → response? = none → outcome.output = []) := by
  cases hlist : a.list with
  | true =>
    rw [recordedRun_of_list answer hread hlist]
    simp [Outcome.lines]
  | false =>
    by_cases hhindered : Hindered s a
    · obtain ⟨f, hrun⟩ := exists_recordedRun_of_hindered answer hread hlist hhindered
      rw [hrun]
      simp [hhindered, Outcome.failed]
    · obtain ⟨p, hrun⟩ := exists_recordedRun_of_not_hindered answer hread hlist hhindered
      rw [hrun]
      refine ⟨Nat.le_refl 1, ?_, ?_, ?_, ?_⟩
      · simp [hhindered]
      · exact Outcome.exitCode_called.trans (or_iff_right Bool.false_ne_true).symm
      · intro r hr
        replace hr : (answer [] p).toOption = some r := hr
        rw [Outcome.output_called, hr, ← Outcome.withLineEnd_eq]
        rfl
      · intro _ hnone
        replace hnone : (answer [] p).toOption = none := hnone
        rw [Outcome.output_called, hnone]
        rfl

/-- Information about the cluster is asked for. The server answers that it is busy, in a text that
does not end its line: the text is printed with the end of its line, and the run fails. With a time
in the variable that is no number, nothing is handed over, and nothing is printed. -/
theorem recordedRun_of_read_info :
    let around (time : Option String) : Surroundings :=
      ⟨fun name => if name = "OSQ_TIMEOUT_SECS" then time else none, fun _ => .missing, "a"⟩
    let answer : List (Http.Channel × Request) → Http.Channel × Request →
        Except TransportError Response := fun _ _ => .ok ⟨503, ∅, Text.encode "busy"⟩
    let busy := recordedRun (around none) ["info"] answer
    let hindered := recordedRun (around (some "soon")) ["info"] answer
    Arguments.read ["info"] = .ok { Arguments.empty with endpoint := some "info" } ∧
    (busy.2.length ≤ 1 ∧ busy.1.output = Text.encode "busy\n" ∧ busy.1.exitCode ≠ 0) ∧
    hindered.2 = [] ∧ hindered.1.output = [] := by
  intro around answer busy hindered
  have hread : Arguments.read ["info"] = .ok { Arguments.empty with endpoint := some "info" } := by
    decide +kernel
  obtain ⟨honce, -, hcode, houtput, -⟩ := recordedRun_of_read hread (around none) answer
  obtain ⟨-, hnone, -, -, hsilent⟩ := recordedRun_of_read hread (around (some "soon")) answer
  have hresponse : (busy.2.head?.bind fun p => (answer [] p).toOption)
      = some ⟨503, ∅, Text.encode "busy"⟩ := by decide +kernel
  have hhindered : hindered.2 = [] :=
    hnone.2 (.inr (@Hindered.timeout _ _ "soon" .invalidDigit rfl (by decide +kernel)))
  refine ⟨hread, ⟨honce, ?_, ?_⟩, hhindered, hsilent rfl ?_⟩
  · exact (houtput _ hresponse).trans (by decide +kernel)
  · intro hzero
    rcases hcode.1 hzero with hlist | ⟨r, hr, -, hle⟩
    · cases hlist
    · obtain rfl := Option.some.inj (hresponse.symm.trans hr)
      exact absurd hle (by decide)
  · show (hindered.2.head?.bind fun p => (answer [] p).toOption) = none
    rw [hhindered]
    rfl

end CommandLine

end SearchRest
