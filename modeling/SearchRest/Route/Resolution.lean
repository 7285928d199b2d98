/-
Choosing the path of a request.

A template accepts the bound segments when it has a placeholder for each of
them. The path is that of the first accepting template whose placeholders are
all bound. Where there is none, the error tells what to change: the first
unbound segment of the accepting template that lacks the fewest, or, if no
template accepts, a segment that does not belong.
-/
import SearchRest.Error
import SearchRest.Route.Template

set_option autoImplicit false

namespace SearchRest

/-- The first item for which `measure` is least. -/
def leastBy? {α : Type} (measure : α → Nat) : List α → Option α
  | [] => none
  | a :: rest =>
    match leastBy? measure rest with
    | none => some a
    | some b => if measure b < measure a then some b else some a

namespace Route

/-- Whether every bound segment has a placeholder in the template. -/
def accepts (bindings : Bindings) (t : Template) : Bool :=
  bindings.boundNames.all t.hasParam

/-- The path of the first accepting template whose placeholders are all bound. -/
def path? (templates : List Template) (bindings : Bindings) : Option String :=
  (templates.filter (accepts bindings)).findSome? fun t => (t.render bindings).toOption

/-- The accepting template that lacks the fewest segments. -/
def closest? (templates : List Template) (bindings : Bindings) : Option Template :=
  leastBy? (fun t => (t.missing bindings).length) (templates.filter (accepts bindings))

/-- A bound segment that does not belong: the first one that no template has, or else the first
one. -/
def stray? (templates : List Template) (bindings : Bindings) : Option String :=
  (bindings.boundNames.find? fun name => !templates.any fun t => t.hasParam name).or
    bindings.boundNames.head?

/-- **The path of a request** to the named endpoint with the given templates. -/
def resolve (endpoint : String) (templates : List Template) (bindings : Bindings) :
    Except RequestError String :=
  match path? templates bindings with
  | some path => .ok path
  | none =>
    match closest? templates bindings with
    | some t => .error (.missingRouteValue endpoint ((t.missing bindings).head?.getD ""))
    | none => .error (.unexpectedRouteValue endpoint ((stray? templates bindings).getD ""))

end Route

end SearchRest
