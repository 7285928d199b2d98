/-
What comes of a reply.

A request that has a form on the wire is sent unless the host of the base has none
there: a host is kept with characters that the general form of addresses refuses,
and then no request ever reaches it. What the server replies is the outcome,
whatever its status says about success, unless there are too many lines or the
reply sends the client elsewhere. Such a reply is lost: it is followed, and the
outcome is what the next server does. Whether the caller waits makes no difference
as long as the call is not cancelled.
-/
import SearchRest.Proofs.Http.Delivery
import SearchRest.Proofs.Http.Replies
import SearchRest.Proofs.Url.Syntax

set_option autoImplicit false

namespace SearchRest.Http

/-! ## Replies that send the client elsewhere -/

/-- **A reply that sends the client elsewhere**: it has one of five statuses, and names a location
that has the form of an address. -/
def Reply.SendsElsewhere (r : Reply) (url : Url) : Prop :=
  r.status ∈ [301, 302, 303, 307, 308] ∧ ∃ text, r.target? url = some text

/-- **No message follows** just the replies that do not send the client elsewhere. -/
theorem Message.next?_eq_none_iff {first : Url} {m : Message} {reply : Reply} :
    m.next? first reply = none ↔ ¬ reply.SendsElsewhere m.url := by
  have hagain : m.again? reply.status = none ↔
      ¬ reply.status ∈ [301, 302, 303, 307, 308] := by
    unfold again?
    simp only [List.mem_cons, List.not_mem_nil, or_false, not_or]
    split
    · split <;> exact iff_of_false (fun h => nomatch h) (by omega)
    · split
      · exact iff_of_false (fun h => nomatch h) (by omega)
      · split
        · exact iff_of_false (fun h => nomatch h) (by omega)
        · exact iff_of_true rfl (by omega)
  rw [Reply.SendsElsewhere, not_and_or, ← hagain, not_exists]
  unfold next?
  cases m.again? reply.status with
  | none => exact iff_of_true rfl (.inl rfl)
  | some again =>
    cases reply.target? m.url with
    | none => exact iff_of_true rfl (.inr fun _ h => nomatch h)
    | some text =>
      refine iff_of_false ?_ ?_
      · dsimp only
        split
        · exact fun h => nomatch h
        · split <;> exact fun h => nomatch h
      · rintro (h | h)
        · cases h
        · exact h text rfl

/-! ## One message and its reply -/

/-- The lines of a complete reply are well formed, unless there are too many. -/
theorem Reply.IsComplete.isWellFormed_iff {method : Method} {r : Reply} {content : Text.Bytes}
    (h : r.IsComplete method content) :
    r.isWellFormed method = true ↔ r.headers.length ≤ 100 := by
  obtain ⟨⟨framing, hframing⟩, -⟩ := h.content?_eq
  obtain ⟨⟨hlow, hhigh⟩, hlines, -⟩ := h
  have hall : (r.headers.all fun h => isHeaderName h.1 && isHeaderBytes h.2) = true :=
    List.all_eq_true.2 fun h hh => Bool.and_eq_true_iff.2 (hlines h hh)
  have hstatus : r.status ≤ 999 := by omega
  simp [isWellFormed, hall, hframing, hlow, hstatus]

/-- **The response to a message is its reply**, with no other message sent, just if there are not
too many lines and the reply does not send the client elsewhere. -/
theorem exchange_eq_iff {server : Server} {m : Message} {reply : Reply} {content : Text.Bytes}
    (hserver : server m = .replies reply) (hreply : reply.IsComplete m.method content) :
    exchange server m = ⟨[m], .ok ⟨reply.status, reply.headerMap, content⟩⟩ ↔
      reply.headers.length ≤ 100 ∧ ¬ reply.SendsElsewhere m.url := by
  have hresponse : reply.response m.method = .ok ⟨reply.status, reply.headerMap, content⟩ := by
    rw [Reply.response, hreply.content?_eq.2]
  have hfollows : m.next? m.url reply = none ↔ ¬ reply.SendsElsewhere m.url :=
    Message.next?_eq_none_iff
  rw [← hreply.isWellFormed_iff, ← hfollows, exchange, maxRedirects]
  unfold exchangeFrom
  rw [hserver]
  dsimp only
  cases hformed : reply.isWellFormed m.method with
  | false =>
    refine iff_of_false (fun h => ?_) fun h => Bool.false_ne_true h.1
    cases h
  | true =>
    rw [Bool.not_true, if_neg Bool.false_ne_true]
    cases hnext : m.next? m.url reply with
    | none => exact iff_of_true (congrArg _ hresponse) ⟨rfl, rfl⟩
    | some next =>
      refine iff_of_false (fun h => ?_) fun h => Option.some_ne_none next h.2
      cases next with
      | error e => cases h
      | ok next =>
        -- a response comes from a second message, but only one was sent
        obtain ⟨hsent, hresult⟩ := Exchange.mk.inj h
        rcases exchangeFrom_cases server m.url 9 next with hnone | ⟨rest, result, hsome⟩
        · rw [hnone] at hresult
          cases hresult
        · rw [hsome] at hsent
          cases hsent

namespace Channel

/-! ## The message of a request -/

variable {c : Channel} {name : String} {endpoint : EndpointSpec} {d : Draft} {r : Request}

/-- **A request that has a form on the wire**: its headers are well formed, and its address is not
too long. -/
structure Accepts (c : Channel) (r : Request) : Prop where
  headers : ∀ h ∈ (c.headersFor r).entries, isHeaderName h.1 = true ∧ isHeaderText h.2 = true
  length : ∀ url, c.urlFor r = .ok url → (takeUser url).1.write.utf8ByteSize ≤ 65534

/-- **A base whose host has a form on the wire**: it is read again, and made of characters that may
stand there. -/
structure HasPlainHost (c : Channel) : Prop where
  again : ∃ host, Host.parse c.base.host.toList = .ok host
  chars : ∀ ch ∈ c.base.host.toList, AddressSyntax.isHostChar ch = true

/-- **A request is sent** just if the host of the base has a form on the wire. -/
theorem exists_message_iff (hendpoint : Catalogue.registry.get name = .ok endpoint)
    (hr : d.resolve endpoint = .ok r) (hsend : c.Accepts r) :
    (∃ m, c.message r = .ok m) ↔ c.HasPlainHost := by
  -- an address that is read has the general form just if its host is made of plain characters
  have hform : ∀ url, c.urlFor r = .ok url →
      ((∃ m, c.messageTo r url = .ok m) ↔
        ∀ ch ∈ c.base.host.toList, AddressSyntax.isHostChar ch = true) := by
    intro url hurl
    have hnormal := isNormal_takeUser (isNormal_urlFor hendpoint hr hurl)
    have hkept : ∀ q, (takeUser url).1.query = some q →
        ∀ ch ∈ q.toList, Url.keeps Url.queryEscapes ch = true := by
      intro q hq
      rw [query_takeUser, query_urlFor hendpoint hr hurl, Option.map_eq_some_iff] at hq
      obtain ⟨cs, hcs, rfl⟩ := hq
      rw [String.toList_ofList]
      exact r.keeps_of_mem_query? cs hcs
    obtain ⟨userinfo, path, rfl⟩ := exists_urlFor_eq hendpoint hr hurl
    have hcheck := AddressSyntax.check_write_iff hnormal (fragment_takeUser _) hkept
    rw [and_iff_right (hsend.length _ hurl), host_takeUser] at hcheck
    simp only [messageTo_eq_ok_iff, ← hcheck, and_iff_right hsend.headers, exists_and_left,
      exists_eq, and_true]
  constructor
  · rintro ⟨m, h⟩
    obtain ⟨url, hurl, hmessage⟩ := bind_eq_ok_iff.1 h
    exact ⟨(exists_urlFor_iff hendpoint hr).1 ⟨url, hurl⟩, (hform url hurl).1 ⟨m, hmessage⟩⟩
  · rintro ⟨hagain, hchars⟩
    obtain ⟨url, hurl⟩ := (exists_urlFor_iff hendpoint hr).2 hagain
    obtain ⟨m, hmessage⟩ := (hform url hurl).2 hchars
    exact ⟨m, bind_eq_ok_iff.2 ⟨url, hurl, hmessage⟩⟩

/-! ## The reply to a request -/

/-- **What comes of a reply.** A call that is not cancelled has the same course whether the caller
waits or not. Its outcome is the complete reply to its message, with its own status and content,
exactly when the host of the base has a form on the wire, the reply has no more than a hundred
lines, and it does not send the client elsewhere. -/
theorem execute_eq_reply_iff (c : Channel)
    (hendpoint : Catalogue.registry.get name = .ok endpoint) (hr : d.resolve endpoint = .ok r)
    (hsend : c.Accepts r) {server : Server} {reply : Reply} {content : Text.Bytes}
    (hserver : ∀ m, c.message r = .ok m → server m = .replies reply)
    (hreply : reply.IsComplete endpoint.method content) :
    c.executeAsync server r false = c.execute server r ∧
      ((∃ m, c.execute server r = ⟨[m], .ok ⟨reply.status, reply.headerMap, content⟩⟩) ↔
        c.HasPlainHost ∧ reply.headers.length ≤ 100 ∧
          ∀ m, c.message r = .ok m → ¬ reply.SendsElsewhere m.url) := by
  refine ⟨c.executeAsync_false server r, ?_⟩
  rw [← exists_message_iff hendpoint hr hsend]
  cases hmessage : c.message r with
  | error e =>
    refine iff_of_false ?_ fun ⟨⟨_, h⟩, _⟩ => nomatch h
    rintro ⟨m, h⟩
    have hsent : (c.execute server r).sent = [] := sent_execute_of_error hmessage
    rw [h] at hsent
    cases hsent
  | ok m =>
    obtain ⟨url, hurl, hto⟩ := bind_eq_ok_iff.1 hmessage
    have hmethod : m.method = endpoint.method := by
      obtain ⟨-, -, rfl⟩ := messageTo_eq_ok_iff.1 hto
      rw [(Request.of_resolve hr).2]
    rw [← hmethod] at hreply
    have hexchange := exchange_eq_iff (hserver m hmessage) hreply
    rw [execute_of_message hmessage]
    constructor
    · rintro ⟨m', h⟩
      -- the message that was sent is the first one
      obtain rfl : m = m' := head?_sent_exchange (by rw [h]; rfl)
      obtain ⟨hlines, helsewhere⟩ := hexchange.1 h
      refine ⟨⟨m, rfl⟩, hlines, fun m' hm' => ?_⟩
      obtain rfl := Except.ok.inj hm'
      exact helsewhere
    · rintro ⟨-, hlines, helsewhere⟩
      exact ⟨m, hexchange.2 ⟨hlines, helsewhere m rfl⟩⟩

theorem hasPlainHost_standard : standard.HasPlainHost := by
  have hchars : "localhost".toList.all AddressSyntax.isHostChar = true := by decide
  exact ⟨⟨"localhost", by decide +kernel⟩, List.all_eq_true.1 hchars⟩

/-- The request for information about the cluster. -/
def infoRequest : Request := ⟨Catalogue.info.spec, "/", ∅, none⟩

theorem accepts_infoRequest : standard.Accepts infoRequest := by
  have hurl : standard.urlFor infoRequest
      = .ok ⟨"http", "", "localhost", some 9200, "/", none, none⟩ := by decide +kernel
  refine ⟨by decide +kernel, fun url h => ?_⟩
  rw [hurl] at h
  obtain rfl := Except.ok.inj h
  decide +kernel

/-- A server that is busy says so in chunks, and is heard although it names a location. -/
theorem execute_eq_reply_iff_busy :
    let busy : Reply := ⟨503, [("location", Text.encode "/"),
      ("transfer-encoding", Text.encode "chunked")], Text.encode "4\r\nbusy\r\n0\r\n\r\n"⟩
    ∃ m, standard.execute (fun _ => .replies busy) infoRequest
      = ⟨[m], .ok ⟨503, busy.headerMap, Text.encode "busy"⟩⟩ := by
  intro busy
  have hmem : Catalogue.info ∈ Catalogue.operations := by decide +kernel
  have hr : Draft.empty.resolve Catalogue.info.spec = .ok infoRequest := by decide +kernel
  have hfour : IsSizeLine 4 [0x34, 0x0d, 0x0a] :=
    @IsSizeLine.intro 4 [0x34] [] (by decide) (List.forall_mem_singleton.2 rfl) rfl (.inl rfl)
      (by decide)
  have hzero : IsSizeLine 0 [0x30, 0x0d, 0x0a] :=
    @IsSizeLine.intro 0 [0x30] [] (by decide) (List.forall_mem_singleton.2 rfl) rfl (.inl rfl)
      (by decide)
  have hlast : Chunks ([0x30, 0x0d, 0x0a] ++ [0x0d, 0x0a]) [] := .last hzero .done
  have hbody : Chunks busy.body (Text.encode "busy") :=
    @Chunks.chunk _ [0x62, 0x75, 0x73, 0x79] _ _ hfour (by decide) hlast
  have hreply : busy.IsComplete .get (Text.encode "busy") :=
    ⟨by decide, by decide +kernel, .chunked (by decide) (by decide +kernel) hbody⟩
  refine (execute_eq_reply_iff standard (Catalogue.registry_get hmem) hr accepts_infoRequest
    (fun _ _ => rfl) hreply).2.2 ⟨hasPlainHost_standard, by decide, fun m _ h => ?_⟩
  exact absurd h.1 (by decide)

/-- A complete reply that names a location where there is no server is lost: the caller gets neither
its status nor its content, but an error of the connection. -/
theorem execute_infoRequest_of_found :
    let found := Reply.closing 302 [("location", Text.encode "http://127.0.0.1:1/")] [] 0
    let server : Server := fun m =>
      if m.url.host = "localhost" then .replies found else .unreachable
    Catalogue.registry.get "info" = .ok Catalogue.info.spec ∧
      Draft.empty.resolve Catalogue.info.spec = .ok infoRequest ∧
      standard.Accepts infoRequest ∧ standard.HasPlainHost ∧
      (∀ m, standard.message infoRequest = .ok m → server m = .replies found) ∧
      found.IsComplete Catalogue.info.spec.method [] ∧
      (standard.execute server infoRequest).result = .error
        (.connection "error sending request for url (http://localhost:9200/)") ∧
      (standard.executeAsync server infoRequest false).result = .error
        (.connection "error sending request for url (http://localhost:9200/)") := by
  intro found server
  have hmem : Catalogue.info ∈ Catalogue.operations := by decide +kernel
  have hresult : (standard.execute server infoRequest).result = .error
      (.connection "error sending request for url (http://localhost:9200/)") := by decide +kernel
  have hvalues : found.values "content-length" = [Text.encode "0"] := by decide +kernel
  have hlength : SayLength (found.values "content-length") found.body.length := by
    rw [hvalues]
    refine ⟨List.cons_ne_nil _ _, fun v hv => ⟨"0", ?_, by decide +kernel⟩⟩
    rw [List.mem_singleton.1 hv]
    decide +kernel
  refine ⟨Catalogue.registry_get hmem, by decide +kernel, accepts_infoRequest,
    hasPlainHost_standard, fun m hm => ?_,
    ⟨by decide, by decide +kernel, .sized (by decide) (by decide +kernel) hlength⟩, hresult, ?_⟩
  · have hmessage : standard.message infoRequest = .ok ⟨.get,
        ⟨"http", "", "localhost", some 9200, "/", none, none⟩,
        [("user-agent", "osq/0.1.0"), ("accept", "*/*")], []⟩ := by decide +kernel
    rw [hmessage] at hm
    obtain rfl := Except.ok.inj hm
    rfl
  · rw [executeAsync_false]
    exact hresult

end Channel

end SearchRest.Http
