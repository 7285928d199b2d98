/-
Calls that are cancelled before they begin.

Such a call sends nothing, whatever the request holds: headers that cannot be sent
and a body are looked at later. The one thing that comes first is the address. It
is put together from the base and the path, and it is read like the host of the
base, so whether the call ends as cancelled does not depend on the request at all.
It does for every base whose labels can be read. A base with a label that is too
long is accepted all the same, and with it every call ends in an address that is
none.
-/
import SearchRest.Proofs.Http.Delivery
import SearchRest.Proofs.Url.Ideographs
import SearchRest.Proofs.Url.Labels

set_option autoImplicit false

namespace SearchRest

/-! ## Paths -/

/-- Whether the path of the request begins with a slash. -/
def Request.IsRooted (r : Request) : Prop := r.path.toList.head? = some '/'

instance (r : Request) : Decidable r.IsRooted := inferInstanceAs (Decidable (_ = _))

theorem Template.head?_of_render {t : Template} {b : Bindings} {path : String}
    (h : t.render b = .ok path) : path.toList.head? = some '/' := by
  by_cases hne : t.segments = []
  · rw [render, if_pos (List.isEmpty_iff.2 hne)] at h
    obtain rfl := Except.ok.inj h
    rfl
  · obtain ⟨ps, hps, rfl⟩ := (render_eq_ok_iff hne).1 h
    obtain ⟨p, ps, rfl⟩ : ∃ p rest, ps = p :: rest := by
      refine List.exists_cons_of_ne_nil ?_
      rintro rfl
      exact hne (List.forall₂_nil_right_iff.1 hps)
    rw [String.toList_ofList]
    rfl

/-- **The path of every resolved request begins with a slash.** -/
theorem Request.isRooted_of_resolve {endpoint : EndpointSpec} {route : Bindings}
    {params : ParamBag} {body : Option Body} {r : Request}
    (h : resolve endpoint route params body = .ok r) : r.IsRooted := by
  obtain ⟨t, -, hrender⟩ := Route.resolve_eq_ok_iff.1 (of_resolve h).1
  exact Template.head?_of_render hrender

namespace Http.Channel

variable {c : Channel} {r : Request}

/-! ## The address -/

/-- What follows the part of the base up to its path begins with a slash. -/
theorem exists_urlText_eq (c : Channel) (hr : r.IsRooted) :
    ∃ rest, c.urlText r = String.ofList (c.base.front ++ '/' :: rest) := by
  obtain ⟨path, hpath⟩ := List.head?_eq_some_iff.1 hr
  obtain ⟨qs, hbase, -⟩ := c.exists_basePieces
  rw [← String.ofList_toList (s := c.urlText r), toList_urlText, hbase, hpath]
  -- the slash is that of the base, or that of the request if the base has no path
  cases qs with
  | nil => exact ⟨_, rfl⟩
  | cons q qs => exact ⟨_, rfl⟩

/-- **The address of a request** is read like the host of the base. -/
theorem exists_parse_rooted_eq (c : Channel) (hr : r.IsRooted) :
    ∃ userinfo path query fragment, Url.parse (c.urlText r)
      = (Host.parse c.base.host.toList).map fun host =>
          ⟨c.base.scheme, userinfo, host, c.base.port, path, query, fragment⟩ := by
  obtain ⟨rest, htext⟩ := c.exists_urlText_eq hr
  rw [htext]
  exact (Settings.isNormal_of_base c.base_eq).1.exists_parse_front_eq rest

/-- There is an address if the labels of the host can be read. -/
theorem exists_urlFor_of_readable (hr : r.IsRooted)
    (h : Domain.HasReadableLabels c.base.host.toList) : ∃ url, c.urlFor r = .ok url := by
  obtain ⟨host, hhost⟩ := (Settings.isNormal_of_base c.base_eq).1.host
  obtain ⟨userinfo, path, query, fragment, hparse⟩ := c.exists_parse_rooted_eq hr
  rw [(Host.parse_of_parse_eq hhost).1 h] at hparse
  exact ⟨_, urlFor_eq_ok_iff.2 hparse⟩

/-- There is none if one of them is too long. -/
theorem urlFor_of_not_readable (hr : r.IsRooted)
    (h : ¬ Domain.HasReadableLabels c.base.host.toList) :
    c.urlFor r = .error (.invalidRequest
      ("'" ++ c.urlText r ++ "' is not a valid URL: " ++ UrlError.invalidDomain.message)) := by
  obtain ⟨host, hhost⟩ := (Settings.isNormal_of_base c.base_eq).1.host
  obtain ⟨userinfo, path, query, fragment, hparse⟩ := c.exists_parse_rooted_eq hr
  rw [(Host.parse_of_parse_eq hhost).2 h] at hparse
  have hnone : Url.parse (c.urlText r) = .error .invalidDomain := hparse
  rw [urlFor, hnone]

/-! ## The call -/

/-- **A call that is cancelled sends nothing and ends as cancelled, unless it has no address.** This
is so for every request whose path begins with a slash, as that of every resolved request does, with
any parameters, headers and body, and whatever the server does. There is no address exactly if a
label of the host of the base begins with the mark of ASCII forms and has more than two thousand
characters behind it. -/
theorem executeAsync_cancelled (c : Channel) (server : Server) (hr : r.IsRooted) :
    (c.executeAsync server r true).sent = [] ∧
    ((c.executeAsync server r true).result = .error .cancelled ↔
      Domain.HasReadableLabels c.base.host.toList) ∧
    ((c.executeAsync server r true).result = .error (.invalidRequest
        ("'" ++ c.urlText r ++ "' is not a valid URL: " ++ UrlError.invalidDomain.message)) ↔
      ¬ Domain.HasReadableLabels c.base.host.toList) := by
  refine ⟨c.sent_executeAsync_true server r, ?_⟩
  by_cases hreadable : Domain.HasReadableLabels c.base.host.toList
  · obtain ⟨url, hurl⟩ := exists_urlFor_of_readable hr hreadable
    simp [executeAsync, hurl, hreadable]
  · simp [executeAsync, urlFor_of_not_readable hr hreadable, hreadable]

/-- A request with a header that cannot be sent, on its way to a server that would answer. -/
theorem executeAsync_cancelled_of_header :
    let params := ParamBag.empty.setHeader "X Bad" "a\nb"
    let server : Server := fun _ => .replies ⟨200, [], []⟩
    ∃ r, Request.resolve Catalogue.info.spec ∅ params none = .ok r ∧
      isHeaderName "x bad" = false ∧ r.headers.get? "x bad" = some "a\nb" ∧
      (standard.executeAsync server r true).sent = [] ∧
      (standard.executeAsync server r true).result = .error .cancelled := by
  intro params server
  have hr : Request.resolve Catalogue.info.spec ∅ params none
      = .ok ⟨Catalogue.info.spec, "/", params, none⟩ := by decide +kernel
  have hreadable : Domain.HasReadableLabels standard.base.host.toList :=
    Domain.hasReadableLabels_of_not_mem (by decide)
  obtain ⟨hsent, hcancelled, -⟩ :=
    executeAsync_cancelled standard server (Request.isRooted_of_resolve hr)
  exact ⟨_, hr, by decide, by decide +kernel, hsent, hcancelled.2 hreadable⟩

/-- The label of eight hundred ideographs that are 25 code points apart is accepted in the base of a
channel, but its ASCII form has more than two thousand characters. No call ends as cancelled. -/
theorem not_forall_executeAsync_cancelled :
    ¬ ∀ (c : Channel) (server : Server) (endpoint : EndpointSpec) (route : Bindings)
      (params : ParamBag) (body : Option Body) (r : Request),
      Request.resolve endpoint route params body = .ok r →
      c.executeAsync server r true = ⟨[], .error .cancelled⟩ := by
  intro hall
  obtain ⟨host, hparse, hlong⟩ := @exists_parse_spaced_eq 25 800 36 (by decide) (by decide)
    (by decide) (by decide) (by decide) (by decide)
  have hbase : ({ Settings.standard with
      baseUrl := String.ofList ("http://".toList ++ spaced 25 800) } : Settings).base
      = .ok ⟨"http", "", host, none, "/", none, none⟩ :=
    Settings.base_of_parse hparse (.inl rfl) rfl rfl
  have hr : Request.resolve Catalogue.info.spec ∅ ParamBag.empty none
      = .ok ⟨Catalogue.info.spec, "/", ParamBag.empty, none⟩ := by decide +kernel
  have hcall := hall ⟨_, _, hbase⟩ (fun _ => .replies ⟨200, [], []⟩) _ _ _ _ _ hr
  rw [executeAsync, urlFor_of_not_readable (Request.isRooted_of_resolve hr) hlong] at hcall
  cases hcall

end Http.Channel

end SearchRest
