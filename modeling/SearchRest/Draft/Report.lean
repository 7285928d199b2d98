/-
Drafts as they appear in reports.

A report names every part of a draft and shows it with its kind: texts in
quotes, lists in brackets, maps in braces, all on one line.
-/
import SearchRest.Draft
import SearchRest.Text.Quoted

set_option autoImplicit false

namespace SearchRest

namespace Report

/-- Texts with a comma and a blank between neighbours. -/
def commas (parts : List String) : String := String.intercalate ", " parts

/-- Parts in braces. -/
def braced (parts : List String) : String := "\x7b" ++ commas parts ++ "\x7d"

/-- Parts in brackets. -/
def bracketed (parts : List String) : String := "[" ++ commas parts ++ "]"

/-- A text with its kind in front. -/
def tagged (kind text : String) : String := kind ++ "(" ++ text ++ ")"

/-- The entries of a map, with their keys in quotes. -/
def ofMap {α : Type} (view : α → String) (entries : List (String × α)) : String :=
  braced (entries.map fun e => Text.quoted e.1 ++ ": " ++ view e.2)

/-- A list of texts in quotes. -/
def ofTexts (l : List String) : String := bracketed (l.map Text.quoted)

/-- A value that may be missing. -/
def ofOption {α : Type} (view : α → String) : Option α → String
  | some a => tagged "Some" (view a)
  | none => "None"

/-- The value of a segment. -/
def ofRouteValue : RouteValue → String
  | .single s => tagged "Single" (Text.quoted s)
  | .list l => tagged "List" (ofTexts l)

/-- The value of a parameter. -/
def ofParamValue : ParamValue → String
  | .bool b => tagged "Bool" (ParamValue.boolText b)
  | .integer n => tagged "Integer" (Text.signedDecimal n.toInt)
  | .number x => tagged "Number" (FloatLayout.report.write x)
  | .text s => tagged "Text" (Text.quoted s)
  | .list l => tagged "List" (ofTexts l)
  | .token s => tagged "Token" (Text.quoted s)

mutual
/-- A JSON value. -/
def ofJson : Json → String
  | .null => "Null"
  | .bool b => tagged "Bool" (ParamValue.boolText b)
  | .number n => tagged "Number" (String.ofList (Json.writeNumber n))
  | .text s => tagged "String" (Text.quoted s)
  | .array items => "Array " ++ bracketed (ofItems items)
  | .object entries => "Object " ++ braced (ofEntries entries)

/-- The items of a list. -/
def ofItems : List Json → List String
  | [] => []
  | v :: vs => ofJson v :: ofItems vs

/-- The entries of an object. -/
def ofEntries : List (String × Json) → List String
  | [] => []
  | (k, v) :: rest => (Text.quoted k ++ ": " ++ ofJson v) :: ofEntries rest
end

/-- A body. -/
def ofBody : Body → String
  | .json v => tagged "Json" (ofJson v.value)
  | .lines vs => tagged "NdJson" (bracketed (vs.map fun v => ofJson v.value))
  | .text s => tagged "Text" (Text.quoted s)

/-- Query parameters and headers. -/
def ofBag (bag : ParamBag) : String :=
  "ParameterBag \x7b query: " ++ ofMap ofParamValue bag.query.entries ++ ", headers: "
    ++ ofMap Text.quoted bag.headers.entries ++ " \x7d"

end Report

/-- **The report of a draft** at the endpoint of the given name. -/
def Draft.report (d : Draft) (endpoint : String) : String :=
  "Descriptor \x7b endpoint: " ++ Text.quoted endpoint ++ ", route: "
    ++ Report.tagged "RouteValues" (Report.ofMap Report.ofRouteValue d.route.entries)
    ++ ", parameters: " ++ Report.ofBag d.params ++ ", body: "
    ++ Report.ofOption Report.ofBody d.body ++ " \x7d"

end SearchRest
