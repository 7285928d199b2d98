/-
Reading configuration files.

A document is read statement by statement: headers in brackets, assignments,
comments and blank lines. Values may be lists, which can go over several lines,
and tables in braces, which cannot. They are nested less than eighty deep.
-/
import SearchRest.Toml.Scalar
import SearchRest.Toml.Section

set_option autoImplicit false

namespace SearchRest.Toml

/-! ## Blanks and keys -/

/-- The text after blanks and tabs. -/
def skipBlanks (cs : List Char) : List Char := cs.dropWhile fun c => c = ' ' || c = '\t'

/-- The text after blanks, line ends and comments. -/
def skipLines? (inComment : Bool) : List Char → Option (List Char)
  | [] => some []
  | c :: cs =>
    if c = '\n' then skipLines? false cs
    else if inComment then if isControl c then none else skipLines? true cs
    else if c = ' ' ∨ c = '\t' then skipLines? false cs
    else if c = '#' then skipLines? true cs
    else some (c :: cs)

/-- The text after the end of a line, before which blanks and a comment may stand. -/
def skipLineEnd? (cs : List Char) : Option (List Char) :=
  match skipBlanks cs with
  | [] => some []
  | '\n' :: rest => some rest
  | '#' :: rest =>
    let comment := rest.takeWhile (· ≠ '\n')
    if comment.any isControl then none else some ((rest.dropWhile (· ≠ '\n')).drop 1)
  | _ => none

/-- Whether a key without quotes may hold the character. -/
def isBareChar (c : Char) : Bool := c.isAlphanum || c = '_' || c = '-'

/-- Takes one part of a key. -/
def takeKeyPart? (cs : List Char) : Option (String × List Char) :=
  match cs with
  | '"' :: rest => (takeBasic? 0 rest).map fun (s, rest) => (String.ofList s, rest)
  | '\x27' :: rest => (takeLiteral? rest).map fun (s, rest) => (String.ofList s, rest)
  | cs =>
    let bare := cs.takeWhile isBareChar
    if bare.isEmpty then none else some (String.ofList bare, cs.dropWhile isBareChar)

/-- How deep values and keys may be nested. -/
def maxDepth : Nat := 80

/-- Takes a key: parts with dots between them. Answers the path and the last part. -/
def takeKey? : Nat → List Char → Option ((List String × String) × List Char)
  | 0, _ => none
  | fuel + 1, cs =>
    match takeKeyPart? (skipBlanks cs) with
    | none => none
    | some (part, rest) =>
      match skipBlanks rest with
      | '.' :: rest => (takeKey? fuel rest).map fun ((path, k), rest) => ((part :: path, k), rest)
      | rest => some (([], part), rest)

/-! ## Values -/

mutual
/-- Takes a value, inside of that many others. -/
def takeValue? : Nat → Nat → List Char → Option (Toml × List Char)
  | 0, _, _ => none
  | fuel + 1, depth, cs =>
    let text (r : Option (List Char × List Char)) : Option (Toml × List Char) :=
      r.map fun (s, rest) => (.text (String.ofList s), rest)
    match cs with
    | '"' :: '"' :: '"' :: rest => text (takeLines? '"' true rest)
    | '"' :: rest => text (takeBasic? 0 rest)
    | '\x27' :: '\x27' :: '\x27' :: rest => text (takeLines? '\x27' false rest)
    | '\x27' :: rest => text (takeLiteral? rest)
    | '[' :: rest =>
      if depth + 1 < maxDepth then
        (takeItems? fuel (depth + 1) rest).map fun (items, rest) => (.array items, rest)
      else none
    | '\x7b' :: rest =>
      if depth + 1 < maxDepth then
        match skipBlanks rest with
        | '\x7d' :: rest => some (.table [], rest)
        | rest => takeEntries? fuel (depth + 1) [] rest
      else none
    | cs =>
      let (word, rest) := takeWord cs
      (readWord? word).map fun v => (v, rest)

/-- Takes the items of a list, up to its closing bracket. A comma may stand after the last
one. -/
def takeItems? : Nat → Nat → List Char → Option (List Toml × List Char)
  | 0, _, _ => none
  | fuel + 1, depth, cs =>
    match skipLines? false cs with
    | none => none
    | some (']' :: rest) => some ([], rest)
    | some cs =>
      match takeValue? fuel depth cs with
      | none => none
      | some (v, rest) =>
        match skipLines? false rest with
        | some (',' :: rest) =>
          (takeItems? fuel depth rest).map fun (vs, rest) => (v :: vs, rest)
        | some (']' :: rest) => some ([v], rest)
        | _ => none

/-- Takes the entries of a table in braces, at least one, up to its closing brace. -/
def takeEntries? : Nat → Nat → Entries → List Char → Option (Toml × List Char)
  | 0, _, _, _ => none
  | fuel + 1, depth, entries, cs =>
    match takeKey? maxDepth cs with
    | some ((path, k), '=' :: rest) =>
      match takeValue? fuel depth (skipBlanks rest) with
      | none => none
      | some (v, rest) =>
        match entries.assign path k v with
        | none => none
        | some entries =>
          match skipBlanks rest with
          | ',' :: rest => takeEntries? fuel depth entries rest
          | '\x7d' :: rest => some (.table (entriesToToml entries), rest)
          | _ => none
    | _ => none
end

/-! ## Statements -/

/-- Takes one statement with its line end. Each line of a value lies within `fuel`. -/
def takeStatement? (fuel : Nat) (d : Document) (cs : List Char) : Option (Document × List Char) :=
  match cs with
  | '[' :: '[' :: rest =>
    match takeKey? maxDepth rest with
    | some ((path, k), ']' :: ']' :: rest) => do
      let d ← d.openItem path k
      (skipLineEnd? rest).map fun rest => (d, rest)
    | _ => none
  | '[' :: rest =>
    match takeKey? maxDepth rest with
    | some ((path, k), ']' :: rest) => do
      let d ← d.openTable path k
      (skipLineEnd? rest).map fun rest => (d, rest)
    | _ => none
  | cs =>
    match takeKey? maxDepth cs with
    | some ((path, k), '=' :: rest) => do
      let (v, rest) ← takeValue? fuel 0 (skipBlanks rest)
      let d ← d.assign path k v
      (skipLineEnd? rest).map fun rest => (d, rest)
    | _ => none

/-- Reads statements up to the end. -/
def readStatements? : Nat → Document → List Char → Option Document
  | 0, d, cs => if cs.isEmpty then some d else none
  | fuel + 1, d, cs =>
    match skipLines? false cs with
    | none => none
    | some [] => some d
    | some cs =>
      match takeStatement? (cs.length + 1) d cs with
      | none => none
      | some (d, rest) => readStatements? fuel d rest

/-- The characters with every line end a single line feed. -/
def unifyLineEnds : List Char → List Char
  | '\r' :: '\n' :: cs => '\n' :: unifyLineEnds cs
  | c :: cs => c :: unifyLineEnds cs
  | [] => []

/-- **Reads a configuration file**, which may begin with a byte order mark. -/
def read? (s : String) : Option Toml :=
  let cs := match s.toList with
    | '\ufeff' :: cs => cs
    | cs => cs
  let cs := unifyLineEnds cs
  (readStatements? (cs.length + 1) .empty cs).bind Document.finish

end SearchRest.Toml
