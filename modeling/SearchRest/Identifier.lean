/-
Identifiers: the names of what a path can address.

An identifier carries the kind of thing that it names, so the name of an index
cannot stand where the id of a document belongs. An identifier list names
several things of one kind. Lists can be read from a text with commas; blanks
around the names and empty names are dropped.
-/
import SearchRest.Param.Value
import SearchRest.Route.Value
import SearchRest.Text.Blank

set_option autoImplicit false

namespace SearchRest

/-- **What an identifier names.** -/
inductive IdentifierKind where
  /-- An index, an alias or a data stream. -/
  | index
  /-- A document, a stored script or a pipeline. -/
  | item
  /-- A repository, a snapshot, a script, a pipeline or another resource. -/
  | resource
  | node
  /-- An index that lost its name, by its unique id. -/
  | indexUuid
  | field
  /-- What documents of an application are. -/
  | documentKind
  deriving DecidableEq

/-- **An identifier** of a thing of the kind `k`. It may be empty, and then binds nothing. -/
structure Identifier (k : IdentifierKind) where
  text : String
  deriving DecidableEq

/-- The name of an index. -/
abbrev IndexName := Identifier .index

/-- The id of a document, a stored script or a pipeline. -/
abbrev ItemId := Identifier .item

/-- The id of a node. -/
abbrev NodeId := Identifier .node

/-- The unique id of an index. -/
abbrev IndexUuid := Identifier .indexUuid

/-- The kind of the documents of an application. -/
abbrev DocumentKind := Identifier .documentKind

namespace Identifier

variable {k : IdentifierKind}

/-- The identifier of a text that is not empty. -/
def ofText? (k : IdentifierKind) (s : String) : Option (Identifier k) :=
  if s = "" then none else some ⟨s⟩

/-- The identifier whose text is the numeral of a 64-bit word. -/
def ofWord (k : IdentifierKind) (n : UInt64) : Identifier k := ⟨Text.decimal n.toNat⟩

/-- The value that the identifier binds. -/
def toRoute (i : Identifier k) : RouteValue := .single i.text

/-- The stored form. -/
def toJson (i : Identifier k) : Json := .text i.text

end Identifier

/-- **Several identifiers** of things of the kind `k`. -/
structure IdentifierList (k : IdentifierKind) where
  /-- The texts of the identifiers. -/
  items : List String
  deriving DecidableEq

/-- The names of several indices. -/
abbrev IndexNames := IdentifierList .index

/-- The ids of several nodes. -/
abbrev NodeIds := IdentifierList .node

namespace IdentifierList

variable {k : IdentifierKind}

/-- The list of the texts, without the empty ones. -/
def ofTexts (l : List String) : IdentifierList k := ⟨l.filter (· ≠ "")⟩

/-- The list that a text with commas stands for. -/
def ofText (s : String) : IdentifierList k := ⟨Text.commaList s⟩

/-- The list of one identifier. -/
def ofOne (i : Identifier k) : IdentifierList k := ofTexts [i.text]

/-- The wildcard for every index. -/
def allIndices : IndexNames := ⟨["_all"]⟩

/-- The list as it is shown, with commas. -/
def display (l : IdentifierList k) : String := Text.join ',' l.items

/-- The value that the list binds. -/
def toRoute (l : IdentifierList k) : RouteValue := .list l.items

/-- The value of the list as a query parameter. -/
def toParam (l : IdentifierList k) : ParamValue := .list l.items

/-- The stored form. -/
def toJson (l : IdentifierList k) : Json := Json.texts l.items

/-- Reads the stored form. -/
def ofJson? (v : Json) : Option (IdentifierList k) := v.asTexts?.map fun l => ⟨l⟩

instance : Stored (IdentifierList k) where
  ofJson? := ofJson?

end IdentifierList

end SearchRest
