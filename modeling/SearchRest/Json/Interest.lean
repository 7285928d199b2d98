/-
What is wanted of a JSON text.

Whoever reads a record passes over the entries that the record does not know.
Of what is passed over only the form counts: its numbers may be out of range,
its escaped surrogates may stand alone, and it may be nested to any depth. What
is wanted, on the other hand, has to have a value. An interest says which is
which, so that a text can be judged while it is read.
-/

set_option autoImplicit false

namespace SearchRest.Json

/-- **What is wanted of a value.** -/
inductive Interest where
  | all
  /-- Nothing: it is passed over. -/
  | nothing
  /-- The fields of a record, each with an interest of its own. In a list they stand in order. -/
  | record (fields : List (String × Interest))
  /-- All entries of a map, with one interest in all of their values. -/
  | each (values : Interest)

namespace Interest

/-- What is wanted of the entry with the key `k`. -/
def entry : Interest → String → Interest
  | .all, _ => .all
  | .nothing, _ => .nothing
  | .record fields, k => ((fields.find? fun f => f.1 = k).map Prod.snd).getD .nothing
  | .each values, _ => values

/-- What is wanted of the next item of a list. -/
def item : Interest → Interest
  | .nothing => .nothing
  | .record (f :: _) => f.2
  | _ => .all

/-- What is wanted of a list after its next item. -/
def afterItem : Interest → Interest
  | .record (_ :: fields) => .record fields
  | i => i

/-- Whether nothing is wanted. -/
def isNothing : Interest → Bool
  | .nothing => true
  | _ => false

/-- The interest in a record of which every field is wanted in full. -/
def ofNames (names : List String) : Interest := .record (names.map fun k => (k, .all))

end Interest

end SearchRest.Json
