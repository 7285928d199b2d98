/-
Which events are logged.

A filter is a list of directives with commas between them. A directive is a
level, or it begins with a target, with a span in brackets that may name fields
in braces, or with both, and goes on with `=` and a level. Only the form of a
filter is of interest here.
-/
import SearchRest.Text.Blank
import SearchRest.Text.Lowercase
import SearchRest.Text.Numeral

set_option autoImplicit false

namespace SearchRest.CommandLine

/-- **What is wrong with a filter.** -/
inductive FilterError where
  /-- A directive does not have the form of one. -/
  | invalidDirective
  /-- What stands for a level is none. -/
  | invalidLevel
  deriving DecidableEq

/-- What happened, and what caused it. A level tells both times the same. -/
def FilterError.chain : FilterError → List String
  | .invalidDirective => ["invalid filter directive"]
  | .invalidLevel =>
    let text := "error parsing level filter: expected one of \"off\", \"error\", \"warn\", \"info\", "
      ++ "\"debug\", \"trace\", or a number 0-5"
    [text, text]

namespace LogFilter

/-- Whether a text is a level: a name in any case, or a number up to 5. -/
def isLevel (cs : List Char) : Bool :=
  match Text.readNatural Text.maxWord cs with
  | .ok n => n ≤ 5
  | .error _ =>
    ["off", "error", "warn", "info", "debug", "trace"].contains (Text.asciiLower (String.ofList cs))

/-- Where the reading of a directive stands. -/
inductive State where
  /-- At its beginning. -/
  | start
  /-- In a level or a target. -/
  | word
  /-- In the brackets of a span. -/
  | span
  /-- In a field, of which `isEmpty` tells whether it has begun. -/
  | field (isEmpty : Bool)
  /-- Behind the braces of the fields. -/
  | fields
  /-- Behind the brackets of a span. -/
  | target
  /-- In the level, which begins at a place. -/
  | level (place : Nat)

/-- Whether a directive may begin with a character, brackets apart. -/
def beginsWord (c : Char) : Bool :=
  c.isAlphanum || 0x7f < c.toNat || c = '-' || c = ':' || c = '_'

/-- Reads the next character of a directive, which has the given index. -/
def step (index : Nat) (s : State) (c : Char) : Except FilterError State :=
  match s with
  | .start =>
    if c = '[' then .ok .span else if beginsWord c then .ok .word else .error .invalidDirective
  | .word =>
    .ok (if c = '=' then .level (index + 1) else if c = '[' then .span else .word)
  | .span => .ok (if c = ']' then .target else if c = '\x7b' then .field true else .span)
  | .field isEmpty =>
    if c = '\x7d' then (if isEmpty then .error .invalidDirective else .ok .fields)
    else .ok (.field false)
  | .fields => if c = ']' then .ok .target else .error .invalidDirective
  | .target => if c = '=' then .ok (.level (index + 1)) else .error .invalidDirective
  | .level n => .ok (.level n)

/-- Reads the characters of a directive, of which the first one has the given index. -/
def run : Nat → State → List Char → Except FilterError State
  | _, s, [] => .ok s
  | index, s, c :: cs =>
    match step index s c with
    | .ok s => run (index + 1) s cs
    | .error e => .error e

/-- **Checks a directive.** Blanks around it are passed over, but a level is looked up by its place
counted from the first blank. -/
def checkDirective (cs : List Char) : Except FilterError Unit :=
  match run 0 .start (Text.trimmed cs) with
  | .error e => .error e
  | .ok .word => .ok ()
  | .ok .target => .ok ()
  | .ok (.level n) =>
    if (cs.drop n).isEmpty || isLevel (cs.drop n) then .ok () else .error .invalidLevel
  | .ok _ => .error .invalidDirective

/-- **Checks a filter.** An empty one is a filter. -/
def check (s : String) : Except FilterError Unit :=
  if s = "" then .ok ()
  else (Text.pieces ',' s.toList).forM checkDirective

end LogFilter

end SearchRest.CommandLine
