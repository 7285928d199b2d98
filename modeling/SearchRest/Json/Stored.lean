/-
Types with a stored form.

A value of such a type can be taken out of a JSON value, and it is known how
much of the JSON value that takes. The text of a stored form is read with this
interest, so entries that the type does not know do no harm.
-/
import SearchRest.Json.Reading
import SearchRest.Json.Shape

set_option autoImplicit false

namespace SearchRest

/-- **A type with a stored form.** -/
class Stored (α : Type) where
  /-- Takes a value out of its stored form. -/
  ofJson? : Json → Option α
  /-- What is wanted of the stored form. -/
  interest : Json.Interest := .all

/-- **Reads the text of a stored form.** -/
def Stored.read? {α : Type} [Stored α] (s : String) : Option α :=
  (Json.readWanted? (Stored.interest α) s.toList).bind Stored.ofJson?

/-- What is wanted of a tagged value. -/
def Json.taggedInterest : Json.Interest := .ofNames ["kind", "value"]

end SearchRest
