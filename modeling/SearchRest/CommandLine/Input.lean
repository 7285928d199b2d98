/-
What is typed on the command line: pairs, values of segments, and bodies.

A pair is cut at its first `=`. A value with a comma is a list. A body is one
JSON value if all of it reads as one, and otherwise a JSON value on every line
that is not blank.
-/
import SearchRest.Body
import SearchRest.Route.Value
import SearchRest.Text.Blank

set_option autoImplicit false

namespace SearchRest.CommandLine

/-- Reads a pair: a name that is not blank, `=`, and any value. Blanks around the name are
dropped. -/
def readPair (raw : String) : Except String (String × String) :=
  match Text.splitFirst '=' raw with
  | some (name, value) =>
    if Text.trim name = "" then .error ("expected NAME=VALUE, got '" ++ raw ++ "'")
    else .ok (Text.trim name, value)
  | none => .error ("expected NAME=VALUE, got '" ++ raw ++ "'")

/-- The value of a segment: a list if there is a comma, and the text as it is otherwise. -/
def routeValue (raw : String) : RouteValue :=
  if Text.holds ',' raw then .list (Text.commaList raw) else .single raw

/-- **What is wrong with the text of a body.** -/
inductive BodyError where
  /-- A line does not read; lines are counted from 1, blank ones left out. -/
  | invalidLine (number : Nat)
  /-- There is nothing but blanks. -/
  | empty
  deriving DecidableEq

/-- The text of the error. -/
def BodyError.message : BodyError → String
  | .invalidLine n => "Body line " ++ Text.decimal n ++ " is not valid JSON"
  | .empty => "Body is empty"

/-- Reads lines, of which the first one has the given number. -/
def readLines : Nat → List String → Except BodyError (List CanonicalJson)
  | _, [] => .ok []
  | n, line :: rest =>
    match CanonicalJson.read? line with
    | some v => (readLines (n + 1) rest).map (v :: ·)
    | none => .error (.invalidLine n)

/-- **Reads the text of a body.** -/
def readBody (text : String) : Except BodyError Body :=
  match CanonicalJson.read? text with
  | some v => .ok (.json v)
  | none =>
    match readLines 1 ((Text.lines text).filter fun line => !Text.isBlankText line) with
    | .error e => .error e
    | .ok [] => .error .empty
    | .ok vs => .ok (.lines vs)

end SearchRest.CommandLine
