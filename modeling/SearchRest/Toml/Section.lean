/-
Putting a configuration document together.

A document is a sequence of headers and assignments. Headers open tables,
assignments fill the open one, and both can create tables on the way to the one
they name. What a table was created by decides what may still happen to it: a
table is opened by a header only once, and what dotted keys created is only
changed by dotted keys. A key is assigned only once.
-/
import SearchRest.Toml.Basic

set_option autoImplicit false

namespace SearchRest.Toml

/-- **What stands at a key** of a document under construction. -/
inductive Node where
  /-- A value, which is closed. -/
  | value (v : Toml)
  /-- A table. It is implicit as long as no header opened it, and dotted if a dotted key made
  it. -/
  | table (implicit dotted : Bool) (entries : List (String × Node))
  /-- A list of tables, each opened by a header; the last one is the open one. -/
  | tables (items : List (List (String × Node)))

/-- The entries of a table under construction. -/
abbrev Entries := List (String × Node)

namespace Entries

/-- What stands at a key. -/
def at? (entries : Entries) (k : String) : Option Node :=
  (entries.find? fun e => e.1 = k).map Prod.snd

/-- The entries with something else at a key, which is put at the end if it is new. -/
def put (entries : Entries) (k : String) (n : Node) : Entries :=
  if (entries.at? k).isSome then entries.map fun e => if e.1 = k then (k, n) else e
  else entries ++ [(k, n)]

/-- Changes the table at the end of a path by `f`, which is told whether the table is dotted.
Tables that are missing on the way are created. By dotted keys (`dots`) one cannot go through a
table that a header opened. -/
def descend (dots : Bool) (f : Bool → Entries → Option Entries) :
    List String → Bool → Entries → Option Entries
  | [], dotted, entries => f dotted entries
  | k :: path, _, entries =>
    match entries.at? k with
    | none =>
      (descend dots f path dots []).map fun inner => entries.put k (.table true dots inner)
    | some (.value _) => none
    | some (.table implicit dotted inner) =>
      if dots ∧ !implicit then none
      else (descend dots f path dotted inner).map fun inner =>
        entries.put k (.table implicit dotted inner)
    | some (.tables items) =>
      (descend dots f path false (items.getLast?.getD [])).map fun inner =>
        entries.put k (.tables (items.dropLast ++ [inner]))

/-- Assigns a value to a key at the end of a path. -/
def assign (path : List String) (k : String) (v : Toml) (entries : Entries) : Option Entries :=
  descend true (fun dotted inner =>
    if dotted = path.isEmpty ∨ (inner.at? k).isSome then none
    else some (inner.put k (.value v))) path false entries

end Entries

mutual
/-- The value that a node stands for. -/
def Node.toToml : Node → Toml
  | .value v => v
  | .table _ _ entries => .table (entriesToToml entries)
  | .tables items => .array (itemsToToml items)

/-- The entries of a finished table. -/
def entriesToToml : List (String × Node) → List (String × Toml)
  | [] => []
  | (k, n) :: rest => (k, n.toToml) :: entriesToToml rest

/-- The items of a finished list of tables. -/
def itemsToToml : List (List (String × Node)) → List Toml
  | [] => []
  | entries :: rest => .table (entriesToToml entries) :: itemsToToml rest
end

/-- **The state of a document**: the finished tables, the open table, its path and whether it is
an item of a list. -/
structure Document where
  /-- The finished tables. -/
  root : Entries
  /-- The entries of the open table. -/
  current : Entries
  /-- The path of the open table; empty for the document itself. -/
  path : List String
  /-- Whether the open table is an item of a list of tables. -/
  inList : Bool

namespace Document

/-- The document without anything, itself open. -/
def empty : Document := ⟨[], [], [], false⟩

/-- Puts the open table in its place. -/
def close (d : Document) : Option Entries :=
  match d.path.getLast? with
  | none => some d.current
  | some k =>
    Entries.descend false (fun _ parent =>
      match parent.at? k, d.inList with
      | none, true => some (parent.put k (.tables [d.current]))
      | some (.tables items), true => some (parent.put k (.tables (items ++ [d.current])))
      | none, false => some (parent.put k (.table false false d.current))
      | some (.table true _ _), false => some (parent.put k (.table false false d.current))
      | _, _ => none) d.path.dropLast false d.root

/-- Opens the table of a header. A table that other headers went through is continued. -/
def openTable (d : Document) (path : List String) (k : String) : Option Document := do
  let root ← d.close
  let found := path.foldlM (fun (entries : Entries) key =>
    match entries.at? key with
    | some (.table _ _ inner) => some inner
    | some (.tables items) => items.getLast?
    | _ => none) root
  let current ← match found.bind fun parent => parent.at? k with
    | none => some []
    | some (.table true false entries) => some entries
    | some _ => none
  let root ← Entries.descend false (fun _ parent => some parent) path false root
  some ⟨root, current, path ++ [k], false⟩

/-- Opens a new item of the list of tables of a header. -/
def openItem (d : Document) (path : List String) (k : String) : Option Document := do
  let root ← d.close
  let root ← Entries.descend false (fun _ parent =>
    match parent.at? k with
    | none => some parent
    | some (.tables _) => some parent
    | some _ => none) path false root
  some ⟨root, [], path ++ [k], true⟩

/-- Assigns a value to a key at the end of a path in the open table. -/
def assign (d : Document) (path : List String) (k : String) (v : Toml) : Option Document :=
  (d.current.assign path k v).map fun current => { d with current := current }

/-- The finished document. -/
def finish (d : Document) : Option Toml := d.close.map fun entries => .table (entriesToToml entries)

end Document

end SearchRest.Toml
