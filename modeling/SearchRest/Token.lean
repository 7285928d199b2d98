/-
Tokens: the parameters whose domain is a short list of words.

Every such domain is a member of `TokenDomain`, and `Token d` is a word of the
domain `d`, so a typed parameter cannot hold a word that the server does not
know. Reading a token is exact; the case of letters matters.
-/
import SearchRest.Error
import SearchRest.Json.Shape

set_option autoImplicit false

namespace SearchRest

/-- **The domains of tokens.** -/
inductive TokenDomain where
  /-- When the effects of a write become visible to searches. -/
  | refresh
  /-- How versions of a document are compared. -/
  | versionType
  /-- What writing a document with a known id does. -/
  | opType
  /-- Which kinds of indices a pattern stands for. -/
  | expandWildcards
  /-- The unit of sizes in tables. -/
  | bytes
  /-- How listed tasks are grouped. -/
  | groupBy
  | health
  /-- What a write by query does about a version conflict. -/
  | conflicts
  /-- How the terms of a query are combined. -/
  | defaultOperator
  /-- How a search is scored. -/
  | searchType
  | format
  deriving DecidableEq

namespace TokenDomain

/-- The words of a domain, in the order in which an error lists them. -/
def tokens : TokenDomain → List String
  | refresh => ["true", "false", "wait_for"]
  | versionType => ["internal", "external", "external_gte", "force"]
  | opType => ["index", "create"]
  | expandWildcards => ["all", "open", "closed", "hidden", "none"]
  | bytes => ["b", "k", "kb", "m", "mb", "g", "gb", "t", "tb", "p", "pb"]
  | groupBy => ["nodes", "parents", "none"]
  | health => ["green", "yellow", "red"]
  | conflicts => ["abort", "proceed"]
  | defaultOperator => ["AND", "OR"]
  | searchType => ["query_then_fetch", "dfs_query_then_fetch"]
  | format => ["json", "yaml", "cbor", "smile", "txt"]

/-- How an error describes the domain. -/
def description (d : TokenDomain) : String :=
  "one of " ++ String.intercalate ", " d.tokens

end TokenDomain

/-- **A word of the domain `d`.** -/
structure Token (d : TokenDomain) where
  /-- The word. -/
  text : String
  mem : text ∈ d.tokens
  deriving DecidableEq

namespace Token

variable {d : TokenDomain}

/-- The token of a word, if the word is in the domain. -/
def ofText? (d : TokenDomain) (s : String) : Option (Token d) :=
  if h : s ∈ d.tokens then some ⟨s, h⟩ else none

/-- Reads a token, and says what the domain is where it cannot. -/
def parse (d : TokenDomain) (s : String) : Except RequestError (Token d) :=
  match ofText? d s with
  | some t => .ok t
  | none => .error (.invalidParameterValue s d.description)

/-- All tokens of a domain. -/
def all (d : TokenDomain) : List (Token d) := d.tokens.attach.map fun s => ⟨s.1, s.2⟩

/-- The stored form. -/
def toJson (t : Token d) : Json := .text t.text

/-- Reads the stored form, which may also be given as the name of a case. -/
def ofJson? (d : TokenDomain) (v : Json) : Option (Token d) := v.caseName?.bind (ofText? d)

/-- The refresh token for a plain answer. -/
def refreshOf : Bool → Token .refresh
  | true => ⟨"true", by decide⟩
  | false => ⟨"false", by decide⟩

/-- The media type of replies in a format. -/
def mediaType (f : Token .format) : String :=
  if f.text = "json" then "application/json"
  else if f.text = "yaml" then "application/yaml"
  else if f.text = "cbor" then "application/cbor"
  else if f.text = "smile" then "application/smile"
  else "text/plain"

end Token

end SearchRest
