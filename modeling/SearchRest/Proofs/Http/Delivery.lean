/-
What arrives at the server.

Whatever the server does, and whether the caller waits or not, the first message
that arrives is the message of the request to its address; only replies that send
the client elsewhere lead to others. Reading an address leaves its query string
alone, and the message takes nothing from the address but the user. So the query
string that arrives is that of the request, and what the server reads in it are
the parameters with the texts that they stand for, each key once.
-/
import SearchRest.Http.Exchange
import SearchRest.Proofs.Http.Address

set_option autoImplicit false

namespace SearchRest

/-! ## Texts under a key -/

theorem KeyMap.filter_entries {α : Type} (m : KeyMap α) (k : String) :
    m.entries.filter (fun e => e.1 = k) = ((m.get? k).map fun v => (k, v)).toList := by
  obtain ⟨l, h⟩ := m
  show l.filter _ = ((findEntry k l).map _).toList
  induction l with
  | nil => rfl
  | cons e rest ih =>
    obtain ⟨hall, hrest⟩ := List.pairwise_cons.1 h
    by_cases he : e.1 = k
    · -- the keys behind it are greater
      have hnone : rest.filter (fun e => e.1 = k) = [] := by
        refine List.filter_eq_nil_iff.2 fun x hx hk => ?_
        have hlt := hall x hx
        rw [he, of_decide_eq_true hk] at hlt
        exact String.lt_irrefl k hlt
      rw [List.filter_cons_of_pos (by simp [he]), hnone, findEntry, if_pos he]
      simp [← he]
    · rw [List.filter_cons_of_neg (by simp [he]), ih hrest, findEntry, if_neg he]

/-- The texts of pairs under a key. -/
def textsUnder (key : String) (pairs : List (String × String)) : List String :=
  (pairs.filter fun p => p.1 = key).map Prod.snd

/-- **A parameter is one text under its key.** -/
theorem textsUnder_pairs (bag : ParamBag) (key : String) :
    textsUnder key bag.pairs = ((bag.get? key).map ParamValue.render).toList := by
  have hfilter : bag.pairs.filter (fun p => p.1 = key)
      = (bag.query.entries.filter fun e => e.1 = key).map fun e => (e.1, e.2.render) :=
    List.filter_map
  rw [textsUnder, hfilter, KeyMap.filter_entries, ParamBag.get?]
  cases bag.query.get? key <;> rfl

namespace Http

/-- **The texts that a server reads under a key** in the query string of a message, if it reads. -/
def Message.texts? (m : Message) (key : String) : Option (List String) :=
  (ParamBag.readPairs? (m.url.query.getD "")).map (textsUnder key)

/-! ## The first message -/

/-- A message is the first one that arrives of its exchange, or nothing arrives and there is no
response. -/
theorem exchangeFrom_cases (server : Server) (first : Url) (hops : Nat) (m : Message) :
    exchangeFrom server first hops m = ⟨[], .error (notSent first)⟩ ∨
      ∃ rest result, exchangeFrom server first hops m = ⟨m :: rest, result⟩ := by
  unfold exchangeFrom
  split
  · exact .inl rfl
  · exact .inr ⟨_, _, rfl⟩
  · exact .inr ⟨_, _, rfl⟩
  · split
    · exact .inr ⟨_, _, rfl⟩
    · split <;> exact .inr ⟨_, _, rfl⟩

theorem head?_sent_exchange {server : Server} {m m' : Message}
    (h : (exchange server m).sent.head? = some m') : m = m' := by
  rcases exchangeFrom_cases server m.url maxRedirects m with hnone | ⟨rest, result, hsome⟩
  · rw [exchange, hnone] at h
    cases h
  · rw [exchange, hsome] at h
    exact Option.some.inj h

/-! No part of the address but the user is taken out of it. -/

@[simp] theorem query_takeUser (url : Url) : (takeUser url).1.query = url.query := by
  unfold takeUser
  split <;> rfl

@[simp] theorem host_takeUser (url : Url) : (takeUser url).1.host = url.host := by
  unfold takeUser
  split <;> rfl

@[simp] theorem fragment_takeUser (url : Url) : (takeUser url).1.fragment = url.fragment := by
  unfold takeUser
  split <;> rfl

/-- An address in normal form stays in it when its user is taken. -/
theorem isNormal_takeUser {url : Url} (h : url.IsNormal) : (takeUser url).1.IsNormal := by
  unfold takeUser
  split
  · exact ⟨h.scheme, ⟨[], rfl⟩, h.host, h.port, h.path⟩
  · exact h

namespace Channel

variable {c : Channel} {r : Request} {m : Message} {server : Server}

/-! ### From the request to its message -/

/-- **A request has a message** to an address if its headers are well formed and the address has the
general form. -/
theorem messageTo_eq_ok_iff {url : Url} : c.messageTo r url = .ok m ↔
    (∀ h ∈ (c.headersFor r).entries, isHeaderName h.1 = true ∧ isHeaderText h.2 = true) ∧
      AddressSyntax.check (takeUser url).1.write = .ok () ∧
      m = ⟨r.endpoint.method, (takeUser url).1,
        Message.withDefault "accept" "*/*" (Message.withDefault "user-agent" c.settings.userAgent
          ((takeUser url).2 ++ (c.headersFor r).entries)), (r.body.map Body.bytes).getD []⟩ := by
  simp only [← Bool.and_eq_true_iff, ← List.all_eq_true]
  unfold messageTo
  dsimp only
  cases (c.headersFor r).entries.all fun h => isHeaderName h.1 && isHeaderText h.2 with
  | false => exact iff_of_false (fun h => nomatch h) fun h => nomatch h.1
  | true =>
    rw [Bool.not_true, if_neg Bool.false_ne_true, and_iff_right rfl]
    cases AddressSyntax.check (takeUser url).1.write with
    | error e => exact iff_of_false (fun h => nomatch h) fun h => nomatch h.1
    | ok _ => rw [and_iff_right rfl, Except.ok.injEq, eq_comm]

/-- **The message of a request** to its address. -/
def message (c : Channel) (r : Request) : Except TransportError Message :=
  (c.urlFor r).bind (c.messageTo r)

theorem execute_of_message (h : c.message r = .ok m) : c.execute server r = exchange server m := by
  obtain ⟨url, hurl, hmessage⟩ := bind_eq_ok_iff.1 h
  rw [execute, hurl]
  dsimp only
  rw [hmessage]

/-- Without a message nothing is sent. -/
theorem sent_execute_of_error {e : TransportError} (h : c.message r = .error e) :
    (c.execute server r).sent = [] := by
  unfold execute
  unfold message at h
  cases hurl : c.urlFor r with
  | error e => rfl
  | ok url =>
    rw [hurl] at h
    have hmessage : c.messageTo r url = .error e := h
    dsimp only
    rw [hmessage]

/-- **A call that is not cancelled** does not depend on whether the caller waits. -/
theorem executeAsync_false (c : Channel) (server : Server) (r : Request) :
    c.executeAsync server r false = c.execute server r := by
  unfold executeAsync execute
  cases c.urlFor r <;> rfl

/-- A call that is cancelled sends nothing. -/
theorem sent_executeAsync_true (c : Channel) (server : Server) (r : Request) :
    (c.executeAsync server r true).sent = [] := by
  unfold executeAsync
  cases c.urlFor r <;> rfl

/-! ### Messages that arrive -/

/-- **The first message of a request that arrives** at some server, when the caller waits for the
reply or does not. -/
inductive Arrives (c : Channel) (r : Request) (m : Message) : Prop where
  | waiting (server : Server) (h : (c.execute server r).sent.head? = some m)
  | concurrent (server : Server) (cancelled : Bool)
      (h : (c.executeAsync server r cancelled).sent.head? = some m)

/-- It is the message of the request to its address. -/
theorem Arrives.exists_url (h : c.Arrives r m) :
    ∃ url, c.urlFor r = .ok url ∧ c.messageTo r url = .ok m := by
  have hwaiting : ∀ server, (c.execute server r).sent.head? = some m →
      ∃ url, c.urlFor r = .ok url ∧ c.messageTo r url = .ok m := by
    intro server h
    cases hmessage : c.message r with
    | error e =>
      rw [sent_execute_of_error hmessage] at h
      cases h
    | ok first =>
      rw [execute_of_message hmessage] at h
      obtain rfl := head?_sent_exchange h
      exact bind_eq_ok_iff.1 hmessage
  rcases h with ⟨server, h⟩ | ⟨server, cancelled, h⟩
  · exact hwaiting server h
  · cases cancelled with
    | false =>
      rw [executeAsync_false] at h
      exact hwaiting server h
    | true =>
      rw [sent_executeAsync_true] at h
      cases h

theorem query_messageTo {url : Url} (h : c.messageTo r url = .ok m) : m.url.query = url.query := by
  obtain ⟨-, -, rfl⟩ := messageTo_eq_ok_iff.1 h
  exact query_takeUser url

/-- **What is read under a key of a message that arrives** is what the parameter stands for. -/
theorem Arrives.texts?_eq {name : String} {endpoint : EndpointSpec}
    (hendpoint : Catalogue.registry.get name = .ok endpoint) {d : Draft}
    (hr : d.resolve endpoint = .ok r) (h : c.Arrives r m) (key : String) :
    m.texts? key = some ((d.params.get? key).map ParamValue.render).toList := by
  obtain ⟨url, hurl, hmessage⟩ := h.exists_url
  have hparams : r.params = d.params := by rw [(Request.of_resolve hr).2]
  have hquery : m.url.query.getD "" = d.params.queryString := by
    rw [query_messageTo hmessage, query_urlFor hendpoint hr hurl, Request.query?, hparams]
    -- no query string is read as one without parameters
    by_cases hempty : d.params.queryString = ""
    · rw [if_pos hempty, hempty]
      rfl
    · rw [if_neg hempty, Option.map_some, Option.getD_some, String.ofList_toList]
  rw [Message.texts?, hquery, ParamBag.readPairs?_queryString, Option.map_some, textsUnder_pairs]

end Channel

end Http

end SearchRest
