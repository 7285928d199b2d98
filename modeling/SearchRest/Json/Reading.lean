/-
Reading JSON texts.

The lexemes are put together by a stack of lists and objects that are still
open. Taking one lexeme is a function of the state, so what a value's lexemes
do is independent of what stands around them. What is wanted has to have a
value and may be nested 127 deep; entries that are not wanted are dropped.
-/
import SearchRest.Json.Interest
import SearchRest.Json.Lexeme

set_option autoImplicit false

namespace SearchRest.Json

/-- **A list or object that is still open**, with what is wanted of it. Items and entries are
collected the last one first. -/
inductive Frame where
  /-- A list with the items so far. What is wanted is told of the items to come. -/
  | array (wanted : Interest) (items : List Json)
  /-- An object with the entries so far. -/
  | object (wanted : Interest) (entries : List (String × Json))
  /-- An object with the entries so far and a key whose value is due. -/
  | entry (wanted : Interest) (entries : List (String × Json)) (key : String)

/-- **What may come next**, within what is open, the innermost first. -/
inductive Builder where
  | value (wanted : Interest) (stack : List Frame)
  /-- The first item of a list, or its end. -/
  | firstItem (wanted : Interest) (stack : List Frame)
  /-- The first key of an object, or its end. -/
  | firstKey (wanted : Interest) (stack : List Frame)
  | key (wanted : Interest) (entries : List (String × Json)) (stack : List Frame)
  /-- The mark between a key and its value. -/
  | colon (wanted : Interest) (entries : List (String × Json)) (key : String)
    (stack : List Frame)
  /-- A separator, or the end of the innermost list or object. -/
  | next (frame : Frame) (stack : List Frame)
  /-- Nothing: the value is complete. -/
  | done (v : Json)

namespace Builder

/-- How deep lists and objects may be nested. -/
def maxDepth : Nat := 127

/-- Takes a complete value. One that is not wanted is dropped. -/
def put (v : Json) : List Frame → Builder
  | [] => .done v
  | .array i items :: stack => .next (.array i (v :: items)) stack
  | .object i entries :: stack => .next (.object i entries) stack
  | .entry i entries k :: stack =>
    .next (.object i (if (i.entry k).isNothing then entries else (k, v) :: entries)) stack

/-- Whether one more list or object may be open. -/
def mayOpen (wanted : Interest) (stack : List Frame) : Bool :=
  wanted.isNothing || stack.length < maxDepth

/-- Takes the first lexeme of a value. -/
def beginValue? (wanted : Interest) (stack : List Frame) : Lexeme → Option Builder
  | .scalar v => some (put v stack)
  | .flawedText | .flawedNumber => if wanted.isNothing then some (put .null stack) else none
  | .openArray => if mayOpen wanted stack then some (.firstItem wanted stack) else none
  | .openObject => if mayOpen wanted stack then some (.firstKey wanted stack) else none
  | _ => none

/-- Takes a key. -/
def takeKey? (wanted : Interest) (entries : List (String × Json)) (stack : List Frame) :
    Lexeme → Option Builder
  | .scalar (.text k) => some (.colon wanted entries k stack)
  | .flawedText => if wanted.isNothing then some (.colon wanted entries "" stack) else none
  | _ => none

/-- **Takes one lexeme.** -/
def step (b : Builder) (lexeme : Lexeme) : Option Builder :=
  match b, lexeme with
  | .value i stack, l => beginValue? i stack l
  | .firstItem _ stack, .closeArray => some (put (.array []) stack)
  | .firstItem i stack, l => beginValue? i.item (.array i.afterItem [] :: stack) l
  | .firstKey _ stack, .closeObject => some (put (.object []) stack)
  | .firstKey i stack, l => takeKey? i [] stack l
  | .key i entries stack, l => takeKey? i entries stack l
  | .colon i entries k stack, .colon => some (.value (i.entry k) (.entry i entries k :: stack))
  | .next (.array i items) stack, .comma =>
    some (.value i.item (.array i.afterItem items :: stack))
  | .next (.array _ items) stack, .closeArray => some (put (.array items.reverse) stack)
  | .next (.object i entries) stack, .comma => some (.key i entries stack)
  | .next (.object _ entries) stack, .closeObject => some (put (.object entries.reverse) stack)
  | _, _ => none

/-- The value of a complete text. -/
def result? : Builder → Option Json
  | .done v => some v
  | _ => none

end Builder

/-- Reads what is wanted off a list of characters. -/
def readWanted? (wanted : Interest) (cs : List Char) : Option Json :=
  (Lexeme.scan? cs).bind fun lexemes =>
    (lexemes.foldlM Builder.step (.value wanted [])).bind Builder.result?

/-- **Reads a JSON text.** Nothing for a text that is not one. -/
def read? (s : String) : Option Json := readWanted? .all s.toList

end SearchRest.Json

namespace SearchRest.CanonicalJson

/-- Reads a JSON text into canonical form. -/
def read? (s : String) : Option CanonicalJson := (Json.read? s).map ofJson

end SearchRest.CanonicalJson
