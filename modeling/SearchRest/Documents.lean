/-
Addressing documents by what they are.

An application stores documents of several kinds. Index mappings say in which
index the documents of a kind are: in the one mapped to it, else in the
default one, else in the one whose name is that of the kind in lower case.
A document can contribute further segments and parameters to a request; they
are written after its index and its id, so they may replace these.
-/
import SearchRest.Draft
import SearchRest.Identifier

set_option autoImplicit false

namespace SearchRest

/-- **The indices of kinds of documents.** -/
structure IndexMappings where
  /-- The index of kinds that are not mapped. -/
  fallback : Option IndexName
  /-- The indices of mapped kinds. -/
  byKind : KeyMap IndexName

namespace IndexMappings

/-- The mappings without any. -/
def empty : IndexMappings := ⟨none, ∅⟩

/-- The mappings with another default. -/
def withFallback (m : IndexMappings) (index : IndexName) : IndexMappings :=
  { m with fallback := some index }

/-- The mappings with a kind mapped to an index. -/
def map (m : IndexMappings) (kind : DocumentKind) (index : IndexName) : IndexMappings :=
  { m with byKind := m.byKind.insert kind.text index }

/-- **The index of a kind.** -/
def indexFor (m : IndexMappings) (kind : DocumentKind) : IndexName :=
  ((m.byKind.get? kind.text).or m.fallback).getD ⟨Text.lower kind.text⟩

end IndexMappings

/-- **What a document adds to a request**, in the order in which it is written. -/
structure Contribution where
  /-- The segments. -/
  route : List (String × RouteValue)
  params : List (String × ParamValue)
  deriving DecidableEq

namespace Contribution

/-- Nothing. -/
def none : Contribution := ⟨[], []⟩

/-- Whether nothing is added. -/
def isEmpty (c : Contribution) : Bool := c.route.isEmpty && c.params.isEmpty

/-- The edits that write a contribution, the segments first. -/
def edits (c : Contribution) : List Edit :=
  c.route.map (fun e => .bind e.1 e.2) ++ c.params.map fun e => .query e.1 (some e.2)

end Contribution

/-- **A document**, as far as requests are concerned: its kind, and its id if it has one. -/
structure DocumentRef where
  kind : DocumentKind
  id : Option ItemId
  deriving DecidableEq

namespace Draft

/-- The edit that binds the index of a kind of documents. -/
def indexEdit (m : IndexMappings) (kind : DocumentKind) : Edit :=
  .bind "index" (m.indexFor kind).toRoute

/-- The edit that binds the id of a document. -/
def idEdit (id : ItemId) : Edit := .bind "id" id.toRoute

/-- The draft that addresses the document of a kind with an id. -/
def forDocumentId (m : IndexMappings) (kind : DocumentKind) (id : ItemId) : Draft :=
  empty.editAll [indexEdit m kind, idEdit id]

/-- **The draft that addresses a document**, with what `hook` adds for it. -/
def fromDocumentWith (m : IndexMappings) (doc : DocumentRef) (hook : DocumentRef → Contribution) :
    Draft :=
  empty.editAll
    (indexEdit m doc.kind :: (doc.id.map idEdit).toList ++ (hook doc).edits)

/-- The draft that addresses a document. -/
def fromDocument (m : IndexMappings) (doc : DocumentRef) : Draft :=
  fromDocumentWith m doc fun _ => .none

end Draft

end SearchRest
