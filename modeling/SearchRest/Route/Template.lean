/-
Path templates.

A template is a path whose segments are literals or placeholders in braces,
such as `/{index}/_doc/{id}`. Every text is a template: empty segments are
passed over, and a segment that is not in braces is a literal.
-/
import SearchRest.Route.Bindings

set_option autoImplicit false

namespace SearchRest

/-- **A segment of a template.** -/
inductive Segment where
  /-- A text that stands in the path as it is. -/
  | literal (text : String)
  /-- The place of a bound value. -/
  | placeholder (name : String)
  deriving DecidableEq

namespace Segment

/-- The segment that a piece of a template stands for. -/
def ofPiece (piece : List Char) : Segment :=
  match (Text.dropStart? ['\x7b'] piece).bind (Text.dropLast? '\x7d') with
  | some name => .placeholder (String.ofList name)
  | none => .literal (String.ofList piece)

/-- The piece of a path that the segment becomes, or the name of the placeholder that is not
bound. -/
def render (bindings : Bindings) : Segment → Except String (List Char)
  | .literal text => .ok text.toList
  | .placeholder name =>
    match bindings.get? name with
    | some v => if v.isEmpty then .error name else .ok v.encodeChars
    | none => .error name

end Segment

/-- **A path template**, with the text that it was read from. -/
structure Template where
  /-- The text. -/
  source : String
  /-- The segments in the order of the path. -/
  segments : List Segment
  deriving DecidableEq

namespace Template

/-- Reads a template. -/
def parse (source : String) : Template :=
  ⟨source, ((Text.pieces '/' source.toList).filter fun p => !p.isEmpty).map Segment.ofPiece⟩

/-- The names of the placeholders in the order of the path. -/
def params (t : Template) : List String :=
  t.segments.filterMap fun
    | .placeholder name => some name
    | .literal _ => none

/-- Whether the template has a placeholder of the name. -/
def hasParam (t : Template) (name : String) : Bool := t.params.contains name

/-- The path with the bound values in the places of the placeholders, or the name of the first
placeholder that is not bound. The template without segments is the path `/`. -/
def render (t : Template) (bindings : Bindings) : Except String String :=
  if t.segments.isEmpty then .ok "/"
  else (t.segments.mapM (Segment.render bindings)).map fun pieces =>
    String.ofList (pieces.flatMap fun p => '/' :: p)

/-- The placeholders that are not bound, in the order of the path. -/
def missing (t : Template) (bindings : Bindings) : List String :=
  t.params.filter fun name => !bindings.isBound name

end Template

end SearchRest
