/-
Which source a setting comes from.

The settings of a run are put together from a file, from variables and from the
command line. Each setting has its own order of sources and looks at no other
setting: the address is that of the command line, else that of the variable, else
that of the file, the time and the address for traces are those of their variables,
else those of the file, and logs are JSON if either the command line or the file
says so. Whatever else there is comes from the file.

The only source that can be wrong, once the file has been read, is the variable
with the time. It has to hold a numeral of a word of 64 bits, which may stand
between blanks.
-/
import SearchRest.CommandLine.Program
import SearchRest.Proofs.Text.Numeral

set_option autoImplicit false

namespace SearchRest.CommandLine.Settings

variable {a : Arguments} {environment : String → Option String} {entry : FileEntry}
  {file st : Settings}

/-- The time is the one that a variable holds, or the one before if the variable is not set. -/
def IsTime (value : Option String) (before t : UInt64) : Prop :=
  match value with
  | none => t = before
  | some v => Text.IsWordNumeral (Text.trim v).toList t.toNat

/-- **Every setting comes from the source that takes precedence**, and apart from these four, all
settings are those of the file. -/
structure IsMerged (file : Settings) (environment : String → Option String) (a : Arguments)
    (st : Settings) : Prop where
  baseUrl : st.http.baseUrl = (a.url.or (environment "OSQ_URL")).getD file.http.baseUrl
  time : IsTime (environment "OSQ_TIMEOUT_SECS") file.http.timeoutSeconds st.http.timeoutSeconds
  traceEndpoint : st.logs.traceEndpoint
    = (environment "OTEL_EXPORTER_OTLP_ENDPOINT").or file.logs.traceEndpoint
  json : st.logs.json = true ↔ a.jsonLogs = true ∨ file.logs.json = true
  http : st.http = { file.http with
    baseUrl := st.http.baseUrl, timeoutSeconds := st.http.timeoutSeconds }
  logs : st.logs = { file.logs with
    traceEndpoint := st.logs.traceEndpoint, json := st.logs.json }

/-! ## The time -/

theorem isTime_some_iff {v : String} {before t : UInt64} :
    IsTime (some v) before t ↔ ∃ n, Text.readWord (Text.trim v) = .ok n ∧ t = UInt64.ofNat n := by
  simp only [IsTime, Text.readWord_eq_ok_iff]
  constructor
  · intro h
    exact ⟨t.toNat, h, UInt64.ofNat_toNat.symm⟩
  · rintro ⟨n, h, rfl⟩
    rwa [UInt64.toNat_ofNat_of_lt' h.lt]

/-- There is a time unless the variable holds something else than a numeral. -/
theorem exists_isTime_iff {value : Option String} {before : UInt64} :
    (∃ t, IsTime value before t) ↔
      ¬ ∃ v, value = some v ∧ ¬ ∃ n, Text.IsWordNumeral (Text.trim v).toList n := by
  cases value with
  | none => simp [IsTime]
  | some v => simp [isTime_some_iff, Text.readWord_eq_ok_iff]

/-- Taking the time out of a variable changes the time and nothing else. -/
theorem withTimeout_eq_ok_iff {value : Option String} :
    file.withTimeout value = .ok st ↔
      ∃ t, IsTime value file.http.timeoutSeconds t ∧
        st = { file with http := { file.http with timeoutSeconds := t } } := by
  cases value with
  | none => simp [withTimeout, IsTime, eq_comm (a := st)]
  | some v =>
    simp only [isTime_some_iff, withTimeout]
    cases Text.readWord (Text.trim v) <;> simp [eq_comm]

/-! ## All settings -/

/-- What a file says, once it is read, passes through the variables and then the command line. -/
theorem resolve_eq (hload : load a.config entry = .ok file) :
    resolve a environment entry
      = ((file.withUrl (environment "OSQ_URL")).withTimeout (environment "OSQ_TIMEOUT_SECS")).map
        fun st => (st.withTraceEndpoint (environment "OTEL_EXPORTER_OTLP_ENDPOINT")).applyArguments
          a := by
  simp only [resolve, hload, applyVariables]
  cases (file.withUrl (environment "OSQ_URL")).withTimeout (environment "OSQ_TIMEOUT_SECS") <;> rfl

/-- **The settings of a run are the merged ones.** -/
theorem resolve_eq_ok_iff (hload : load a.config entry = .ok file) :
    resolve a environment entry = .ok st ↔ IsMerged file environment a st := by
  have hurl : a.url.getD ((environment "OSQ_URL").getD file.http.baseUrl)
      = (a.url.or (environment "OSQ_URL")).getD file.http.baseUrl := by
    cases a.url <;> rfl
  rw [resolve_eq hload, map_eq_ok_iff]
  constructor
  · rintro ⟨timed, htimed, rfl⟩
    obtain ⟨t, ht, rfl⟩ := withTimeout_eq_ok_iff.1 htimed
    exact ⟨hurl, ht, rfl, Bool.or_eq_true_iff, rfl, rfl⟩
  · intro h
    refine ⟨_, withTimeout_eq_ok_iff.2 ⟨_, h.time, rfl⟩, ?_⟩
    -- what the sources say of each setting is what the merged settings hold
    have hhttp := h.http
    have hlogs := h.logs
    have hjson : (a.jsonLogs || file.logs.json) = st.logs.json := by
      rw [Bool.eq_iff_iff, Bool.or_eq_true_iff, h.json]
    rw [h.baseUrl, ← hurl] at hhttp
    rw [h.traceEndpoint, ← hjson] at hlogs
    exact congrArg₂ Settings.mk hhttp.symm hlogs.symm

/-- The settings are wrong exactly when there is no time. -/
theorem exists_resolve_eq_error_iff (hload : load a.config entry = .ok file) :
    (∃ e, resolve a environment entry = .error e) ↔
      ¬ ∃ t, IsTime (environment "OSQ_TIMEOUT_SECS") file.http.timeoutSeconds t := by
  have htime (st : Settings) := @withTimeout_eq_ok_iff (file.withUrl (environment "OSQ_URL")) st
    (environment "OSQ_TIMEOUT_SECS")
  rw [resolve_eq hload]
  cases hread : (file.withUrl (environment "OSQ_URL")).withTimeout
      (environment "OSQ_TIMEOUT_SECS") with
  | error e =>
    refine iff_of_true ⟨e, rfl⟩ ?_
    rintro ⟨t, ht⟩
    exact absurd (hread.symm.trans ((htime _).2 ⟨t, ht, rfl⟩)) nofun
  | ok timed =>
    obtain ⟨t, ht, -⟩ := (htime timed).1 hread
    exact iff_of_false (fun ⟨e, he⟩ => nomatch he) (not_not_intro ⟨t, ht⟩)

theorem settings_of_make {s : Http.Settings} {c : Http.Channel} (h : Http.Channel.make s = .ok c) :
    c.settings = s := by
  unfold Http.Channel.make at h
  split at h
  · cases h
  · split at h
    · cases h
      rfl
    · cases h

/-- The channel of a run has the settings of the run. -/
theorem exists_resolve_of_prepare {s : Surroundings} {c : Http.Channel} {r : Request}
    (h : prepare s a = .ok (c, r)) :
    ∃ st, resolve a s.environment (s.entry a.config) = .ok st ∧ c.settings = st.http := by
  unfold prepare at h
  split at h
  · cases h
  · rename_i st hst
    obtain ⟨-, -, h⟩ := bind_eq_ok_iff.1 h
    obtain ⟨-, -, h⟩ := bind_eq_ok_iff.1 h
    obtain ⟨built, -, h⟩ := bind_eq_ok_iff.1 h
    split at h
    · rename_i opened hmake
      cases h
      exact ⟨st, hst, settings_of_make hmake⟩
    · cases h

/-- **Each setting comes from the source that takes precedence over the others**, whatever the
sources say of other settings, and only the variable with the time can be wrong: it is if it is set
and holds, between blanks, no numeral of a word of 64 bits. A channel that a run opens has these
settings. -/
theorem resolve_precedence {s : Surroundings}
    (hload : load a.config (s.entry a.config) = .ok file) :
    (∀ st, resolve a s.environment (s.entry a.config) = .ok st ↔
      IsMerged file s.environment a st) ∧
    ((∃ e, resolve a s.environment (s.entry a.config) = .error e) ↔
      ∃ v, s.environment "OSQ_TIMEOUT_SECS" = some v ∧
        ¬ ∃ n, Text.IsWordNumeral (Text.trim v).toList n) ∧
    ∀ c r, prepare s a = .ok (c, r) →
      ∃ st, IsMerged file s.environment a st ∧ c.settings = st.http := by
  refine ⟨fun st => resolve_eq_ok_iff hload, ?_, fun c r hprepare => ?_⟩
  · rw [exists_resolve_eq_error_iff hload, exists_isTime_iff, not_not]
  · obtain ⟨st, hst, hsettings⟩ := exists_resolve_of_prepare hprepare
    exact ⟨st, (resolve_eq_ok_iff hload).1 hst, hsettings⟩

/-- The file is missing, and all sources name an address. The time stands between blanks, and with a
blank inside it is no numeral. -/
theorem resolve_precedence_of_all_sources :
    let around (time : String) : Surroundings :=
      ⟨fun name => if name = "OSQ_URL" then some "http://variable:9200"
        else if name = "OSQ_TIMEOUT_SECS" then some time else none, fun _ => .missing, "a"⟩
    let a : Arguments := { Arguments.empty with url := some "http://flag:9200" }
    (∃ st, IsMerged standard (around " +30\t").environment a st ∧
      st.http.baseUrl = "http://flag:9200" ∧ st.http.timeoutSeconds = 30) ∧
    ∃ e, resolve a (around "3 0").environment .missing = .error e := by
  intro around a
  have hload : ∀ time, load a.config ((around time).entry a.config) = .ok standard := fun _ => rfl
  obtain ⟨hmerged, -, -⟩ := resolve_precedence (hload " +30\t")
  obtain ⟨-, herror, -⟩ := resolve_precedence (hload "3 0")
  have hresolve : resolve a (around " +30\t").environment .missing
      = .ok { standard with http := { standard.http with
          baseUrl := "http://flag:9200", timeoutSeconds := 30 } } := by decide +kernel
  refine ⟨⟨_, (hmerged _).1 hresolve, rfl, rfl⟩, herror.2 ⟨"3 0", rfl, ?_⟩⟩
  rintro ⟨n, hn⟩
  have hblank : ' ' ∈ (Text.trim "3 0").toList := by decide +kernel
  exact absurd (hn.mem hblank) (by decide)

end SearchRest.CommandLine.Settings
