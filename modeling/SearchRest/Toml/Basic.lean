/-
Values of configuration files.

A TOML document is a table of values. Settings are taken out of it by shape: a
record is a table, of which unknown entries are passed over and missing ones
keep their default, or a list of its fields in order. A date stands for a table
with its text as the only entry, under a key that no document uses.
-/
import SearchRest.Decimal.Binary64
import SearchRest.KeyMap

set_option autoImplicit false

namespace SearchRest

/-- **A value of a configuration file.** -/
inductive Toml where
  | text (s : String)
  | integer (n : Int)
  | float (x : Binary64)
  /-- A truth value. -/
  | bool (b : Bool)
  /-- A date, a time, or both, as its text. -/
  | date (text : String)
  | array (items : List Toml)
  | table (entries : List (String × Toml))

namespace Toml

instance : Inhabited Toml := ⟨.table []⟩

/-- The string that this is. -/
def asText? : Toml → Option String
  | .text s => some s
  | _ => none

/-- The truth value that this is. -/
def asBool? : Toml → Option Bool
  | .bool b => some b
  | _ => none

/-- The 64-bit word that this is. -/
def asWord? : Toml → Option UInt64
  | .integer (.ofNat n) => some (UInt64.ofNat n)
  | _ => none

/-- The entries of the table that this is or stands for. -/
def asEntries? : Toml → Option (List (String × Toml))
  | .table entries => some entries
  | .date s => some [("$__toml_private_datetime", .text s)]
  | _ => none

/-- The value of the first entry with the key `k`. -/
def entry? (k : String) (entries : List (String × Toml)) : Option Toml :=
  (entries.find? fun e => e.1 = k).map Prod.snd

/-- **The fields of a record**, in the order of `names`, with nothing for a missing one. -/
def fields? (names : List String) : Toml → Option (List (Option Toml))
  | .array items => some (names.zipIdx.map fun n => items[n.2]?)
  | v => v.asEntries?.map fun entries => names.map fun k => entry? k entries

/-- The value of a field, read by `read`, or its default if the field is missing. -/
def fieldOr {α : Type} (default : α) (read : Toml → Option α) : Option Toml → Option α
  | some v => read v
  | none => some default

/-- The map that this is, with every value read by `read`. -/
def asMap? {α : Type} (read : Toml → Option α) (v : Toml) : Option (KeyMap α) :=
  v.asEntries?.bind fun entries =>
    (entries.mapM fun e => (read e.2).map fun a => (e.1, a)).map KeyMap.ofList

end Toml

end SearchRest
