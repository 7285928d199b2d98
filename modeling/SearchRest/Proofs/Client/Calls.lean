/-
What a call hands to the transport.

The transport of a client may be anything that answers requests. To see what it
is asked it keeps a record, and its answer may depend on all that is in there.
A call resolves its draft and then asks once, so its record grows by just the
request that the draft stands for; a draft that does not resolve leaves the record
as it was. How the draft came about does not matter: a call that is given
arguments and a selector is the call of the draft that the selector makes of what
the constructor `new` makes of the arguments.
-/
import SearchRest.Client
import SearchRest.Proofs.Catalogue.Declarations

set_option autoImplicit false

namespace SearchRest

/-! ## A transport that keeps a record -/

/-- **Answers what is asked, and adds it to the record.** The answer may depend on what was asked
before. -/
def recorded {α β : Type} (answer : List α → α → β) (asked : α) : StateM (List α) β :=
  modifyGet fun past => (answer past asked, past ++ [asked])

theorem run_recorded {α β : Type} (answer : List α → α → β) (asked : α) (past : List α) :
    (recorded answer asked).run past = (answer past asked, past ++ [asked]) := rfl

/-- **What a transport is asked**: to send a request, and for a concurrent exchange whether its
token is already cancelled. -/
structure Handed where
  request : Request
  /-- There is no token where the caller waits. -/
  cancelled : Option Bool
  deriving DecidableEq

/-- **A transport that keeps a record** of what it is asked, and answers in any way. -/
def Transport.recording (answer : List Handed → Handed → Except TransportError Response) :
    Transport (StateM (List Handed)) where
  execute request := recorded answer ⟨request, none⟩
  executeAsync request cancelled := recorded answer ⟨request, some cancelled⟩

namespace Operation

variable {o : Operation}

/-- The first constructor of an operation is the one that its calls start from. -/
theorem constructor?_new (o : Operation) : o.constructor? "new" = some ⟨"new", o.start⟩ := by
  rw [constructor?, constructors, List.cons_append]
  exact List.find?_cons_of_pos (decide_eq_true rfl)

/-- A resolved draft is a request of the endpoint that is registered. -/
theorem registry_get_of_resolve (ho : o ∈ Catalogue.operations) {d : Draft} {r : Request}
    (h : d.resolve o.spec = .ok r) : Catalogue.registry.get o.spec.name = .ok r.endpoint := by
  have hendpoint : r.endpoint = o.spec := by rw [(Request.of_resolve h).2]
  rw [hendpoint]
  exact Catalogue.registry_get ho

end Operation

namespace Client

variable {o : Operation} {d : Draft}

/-! ## What is asked -/

/-- A draft that resolves is handed over once, and the answer is passed on. -/
theorem run_dispatch_of_ok {r : Request} (h : d.resolve o.spec = .ok r)
    (answer : List Handed → Handed → Except TransportError Response) (asked : Request → Handed)
    (past : List Handed) :
    (dispatch o d fun request => recorded answer (asked request)).run past
      = ((answer past (asked r)).mapError .transport, past ++ [asked r]) := by
  simp only [dispatch, h, StateT.run_bind, run_recorded]
  cases answer past (asked r) <;> rfl

/-- A draft that does not resolve is not handed over. -/
theorem run_dispatch_of_error {e : RequestError} (h : d.resolve o.spec = .error e)
    (exchange : Request → StateM (List Handed) (Except TransportError Response))
    (past : List Handed) :
    (dispatch o d exchange).run past = (.error (.request e), past) := by
  rw [dispatch, h]
  rfl

/-- **A call hands over one request or none.** For every operation of the catalogue, a call with
arguments and a selector is the call of the draft that the selector makes of what the constructor
`new` makes of the arguments, whether the caller waits or not. Whatever the transport answers, a
call of a draft that resolves asks it once, to send just the request of the registered endpoint that
the draft resolves to, and comes to its response, or to its error as that of the transport. A call
of a draft that does not resolve asks nothing and comes to the error of the resolution. -/
theorem run_call (ho : o ∈ Catalogue.operations)
    (answer : List Handed → Handed → Except TransportError Response) (args : Arguments o.start)
    (select : Draft → Draft) (token : Option Bool) :
    let c : Client (StateM (List Handed)) := ⟨.recording answer⟩
    let made : Draft := select (Constructor.draft ⟨"new", o.start⟩ args)
    o.constructor? "new" = some ⟨"new", o.start⟩ ∧
    c.call o args select = c.callRequest o made ∧
    c.callAsync o args select token = c.callRequestAsync o made token ∧
    ∀ (d : Draft) (past : List Handed),
      (∀ r, d.resolve o.spec = .ok r →
        Catalogue.registry.get o.spec.name = .ok r.endpoint ∧
        (c.callRequest o d).run past
          = ((answer past ⟨r, none⟩).mapError .transport, past ++ [⟨r, none⟩]) ∧
        (c.callRequestAsync o d token).run past
          = ((answer past ⟨r, some (token.getD false)⟩).mapError .transport,
              past ++ [⟨r, some (token.getD false)⟩])) ∧
      ∀ e, d.resolve o.spec = .error e →
        (c.callRequest o d).run past = (.error (.request e), past) ∧
        (c.callRequestAsync o d token).run past = (.error (.request e), past) := by
  intro c made
  -- the seed of an operation binds the same segments as the constructor
  have hseed : o.seed args = Constructor.draft ⟨"new", o.start⟩ args := rfl
  have hcall : c.call o args select = c.callRequest o made := by
    rw [call, hseed]
  have hcallAsync : c.callAsync o args select token = c.callRequestAsync o made token := by
    rw [callAsync, hseed]
  refine ⟨o.constructor?_new, hcall, hcallAsync, fun d past => ⟨?_, ?_⟩⟩
  · intro r hr
    refine ⟨Operation.registry_get_of_resolve ho hr, ?_, ?_⟩
    · exact run_dispatch_of_ok hr answer (fun request => ⟨request, none⟩) past
    · exact run_dispatch_of_ok hr answer (fun request => ⟨request, some (token.getD false)⟩) past
  · intro e he
    exact ⟨run_dispatch_of_error he _ past, run_dispatch_of_error he _ past⟩

/-- A document is fetched by its index and id, and the selector asks for one of its fields. A server
that refuses to answer twice answers this, its first request. Where the selector drops the segments,
nothing is asked. -/
theorem run_call_getDocument :
    let o := Catalogue.getDocument
    let answer : List Handed → Handed → Except TransportError Response := fun past _ =>
      if past = [] then .ok ⟨200, ∅, []⟩ else .error .cancelled
    let c : Client (StateM (List Handed)) := ⟨.recording answer⟩
    let field (d : Draft) : Draft := d.edit (.query "_source" (some (.text "total")))
    let r : Request :=
      ⟨o.spec, "/orders/_doc/42", ParamBag.empty.set "_source" (.text "total"), none⟩
    (c.call o (⟨"orders"⟩, ⟨"42"⟩, ()) field).run [] = (.ok ⟨200, ∅, []⟩, [⟨r, none⟩]) ∧
    (c.callAsync o (⟨"orders"⟩, ⟨"42"⟩, ()) field none).run [⟨r, none⟩]
      = (.error (.transport .cancelled), [⟨r, none⟩, ⟨r, some false⟩]) ∧
    (c.call o (⟨"orders"⟩, ⟨"42"⟩, ()) fun _ => .empty).run []
      = (.error (.request (.missingRouteValue "get" "index")), []) := by
  intro o answer c field r
  have hmem : o ∈ Catalogue.operations := by decide +kernel
  have hresolve : (field (Constructor.draft ⟨"new", o.start⟩ (⟨"orders"⟩, ⟨"42"⟩, ()))).resolve
      o.spec = .ok r := by
    decide +kernel
  have hmissing : Draft.empty.resolve o.spec = .error (.missingRouteValue "get" "index") := by
    decide +kernel
  obtain ⟨-, hcall, hcallAsync, hruns⟩ := run_call hmem answer (⟨"orders"⟩, ⟨"42"⟩, ()) field none
  obtain ⟨-, hdrop, -, -⟩ := run_call hmem answer (⟨"orders"⟩, ⟨"42"⟩, ()) (fun _ => .empty) none
  refine ⟨?_, ?_, ?_⟩
  · rw [hcall]
    exact ((hruns _ []).1 r hresolve).2.1
  · rw [hcallAsync]
    exact ((hruns _ [⟨r, none⟩]).1 r hresolve).2.2
  · rw [hdrop]
    exact ((hruns _ []).2 _ hmissing).1

end Client

end SearchRest
