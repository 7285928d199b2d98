/-
The ids of tasks.

A task runs on a node and has a number there. Its id is written as the two
with a colon between them. Reading splits at the first colon, so a node whose
own id has a colon, or is empty, is never read back.
-/
import SearchRest.Error
import SearchRest.Identifier

set_option autoImplicit false

namespace SearchRest

/-- **The id of a task.** -/
structure TaskId where
  /-- The node that the task runs on. -/
  node : NodeId
  /-- Its number on that node. -/
  number : UInt64
  deriving DecidableEq

namespace TaskId

/-- The id as it is written. -/
def display (t : TaskId) : String :=
  String.ofList (t.node.text.toList ++ ':' :: Text.decimalDigits t.number.toNat)

/-- How an error describes task ids. -/
def description : String := "a task id of the form `node:number`"

/-- Reads an id: a node that is not empty, a colon and a 64-bit word. -/
def ofText? (s : String) : Option TaskId :=
  match Text.splitFirst ':' s with
  | some (node, number) =>
    match Identifier.ofText? .node node, Text.readWord number with
    | some node, .ok n => some ⟨node, UInt64.ofNat n⟩
    | _, _ => none
  | none => none

/-- Reads an id, and says what one is where it cannot. -/
def parse (s : String) : Except RequestError TaskId :=
  match ofText? s with
  | some t => .ok t
  | none => .error (.invalidParameterValue s description)

/-- The value that the id binds. -/
def toRoute (t : TaskId) : RouteValue := .single t.display

/-- The stored form. -/
def toJson (t : TaskId) : Json := .text t.display

/-- Reads the stored form. -/
def ofJson? (v : Json) : Option TaskId := v.asText?.bind ofText?

instance : Stored TaskId where
  ofJson? := ofJson?

end TaskId

end SearchRest
