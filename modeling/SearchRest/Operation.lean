/-
Operations: endpoints with everything that a call to them can set.

An operation declares which segments, flags, values and lists it takes, and in
which ways a draft for it can be started. The declarations are data. From them
come the setters: each has a name and a type of argument, and applied to an
argument it is one edit. Some setters belong to all operations, others to a
role that several operations share.
-/
import SearchRest.Documents
import SearchRest.TaskId

set_option autoImplicit false

namespace SearchRest

/-! ## Types of arguments -/

/-- **What a path segment takes.** -/
inductive RouteType where
  | one (k : IdentifierKind)
  | several (k : IdentifierKind)
  | task
  deriving DecidableEq

/-- The values of such a segment. -/
def RouteType.Value : RouteType → Type
  | .one k => Identifier k
  | .several k => IdentifierList k
  | .task => TaskId

/-- What such a value binds. -/
def RouteType.toRoute : (t : RouteType) → t.Value → RouteValue
  | .one _, (v : Identifier _) => v.toRoute
  | .several _, (v : IdentifierList _) => v.toRoute
  | .task, (v : TaskId) => v.toRoute

/-- **What a query parameter takes.** -/
inductive ParamType where
  | text
  | integer
  | number
  | time
  /-- A word of a closed domain. -/
  | token (d : TokenDomain)
  deriving DecidableEq

/-- The values of such a parameter. -/
def ParamType.Value : ParamType → Type
  | .text => String
  | .integer => Int64
  | .number => Binary64
  | .time => TimeValue
  | .token d => Token d

/-- What such a value is stored as. -/
def ParamType.toParam : (t : ParamType) → t.Value → ParamValue
  | .text, (v : String) => .text v
  | .integer, (v : Int64) => .integer v
  | .number, (v : Binary64) => .number v
  | .time, (v : TimeValue) => .ofTime v
  | .token _, (v : Token _) => .ofToken v

/-! ## Declarations -/

/-- **A segment that an operation binds**, with the name of its setter. -/
structure RouteField where
  setter : String
  segment : String
  /-- What it takes. -/
  type : RouteType
  deriving DecidableEq

/-- **A parameter with a truth value.** -/
structure FlagField where
  /-- The name of the setter; the one that also clears the flag begins with `set_`. -/
  setter : String
  key : String
  deriving DecidableEq

/-- **A parameter with a value.** -/
structure ParamField where
  setter : String
  key : String
  /-- What it takes. -/
  type : ParamType
  deriving DecidableEq

/-- **A parameter with several texts.** -/
structure ListField where
  setter : String
  key : String
  deriving DecidableEq

/-- **What operations have in common with others.** -/
inductive Role where
  /-- The path has the segment `index`. -/
  | index
  /-- The segment `index` takes a list. -/
  | indices
  /-- The path has the segments `index` and `id` of a document. -/
  | document
  /-- The reply is a listing for people. -/
  | listing
  /-- That listing is a table. -/
  | table
  deriving DecidableEq

/-- **A way to start a draft**: the segments that it binds, in order. -/
structure Constructor where
  name : String
  /-- The segments. -/
  fields : List RouteField
  deriving DecidableEq

/-- **An operation.** -/
structure Operation where
  spec : EndpointSpec
  roles : List Role
  /-- The segments that it binds. -/
  route : List RouteField
  flags : List FlagField
  values : List ParamField
  /-- Its parameters with several texts. -/
  lists : List ListField
  /-- The segments that a call binds at the start. -/
  start : List RouteField
  /-- The other ways to start a draft. -/
  others : List Constructor
  deriving DecidableEq

/-! ## Starting a draft -/

/-- The arguments for a list of segments. -/
def Arguments : List RouteField → Type
  | [] => Unit
  | f :: fs => f.type.Value × Arguments fs

/-- The edits that bind segments to arguments, in order. -/
def Arguments.edits : (fields : List RouteField) → Arguments fields → List Edit
  | [], _ => []
  | f :: fs, (v, vs) => .bind f.segment (f.type.toRoute v) :: Arguments.edits fs vs

namespace Operation

/-- The ways to start a draft. The first one is called `new`; where it takes nothing, `default` is
the same. -/
def constructors (o : Operation) : List Constructor :=
  ⟨"new", o.start⟩ :: (if o.start.isEmpty then [⟨"default", []⟩] else []) ++ o.others

/-- The constructor of a name. -/
def constructor? (o : Operation) (name : String) : Option Constructor :=
  o.constructors.find? (·.name = name)

end Operation

/-- **The draft that a constructor makes** of its arguments. -/
def Constructor.draft (c : Constructor) (args : Arguments c.fields) : Draft :=
  Draft.empty.editAll (Arguments.edits c.fields args)

/-- The draft that a call starts from. -/
def Operation.seed (o : Operation) (args : Arguments o.start) : Draft :=
  Draft.empty.editAll (Arguments.edits o.start args)

/-! ## Setters -/

/-- **What a setter takes.** -/
inductive ArgumentType where
  | nothing
  /-- A truth value, or none. -/
  | switch
  | text
  | texts
  /-- The value of a segment. -/
  | route (t : RouteType)
  | param (t : ParamType)
  /-- Index mappings and a kind of documents. -/
  | mappedKind
  | body
  deriving DecidableEq

/-- The arguments of such a setter. -/
def ArgumentType.Value : ArgumentType → Type
  | .nothing => Unit
  | .switch => Option Bool
  | .text => String
  | .texts => List String
  | .route t => t.Value
  | .param t => t.Value
  | .mappedKind => IndexMappings × DocumentKind
  | .body => Body

/-- **A setter**: applied to an argument it is an edit. -/
structure Setter where
  name : String
  takes : ArgumentType
  edit : takes.Value → Edit

namespace Setter

/-- Sets a flag. -/
def on (name key : String) : Setter := ⟨name, .nothing, fun _ => .query key (some (.bool true))⟩

/-- Sets a flag to a truth value, or clears it. -/
def switch (name key : String) : Setter :=
  ⟨name, .switch, fun (b : Option Bool) => .query key (b.map ParamValue.bool)⟩

/-- Sets a parameter to several texts. -/
def texts (name key : String) : Setter :=
  ⟨name, .texts, fun (l : List String) => .query key (some (.list l))⟩

/-- Sets a parameter to a value. -/
def value (name key : String) (type : ParamType) : Setter :=
  ⟨name, .param type, fun (v : type.Value) => .query key (some (type.toParam v))⟩

/-- Binds a segment. -/
def route (name segment : String) (type : RouteType) : Setter :=
  ⟨name, .route type, fun (v : type.Value) => .bind segment (type.toRoute v)⟩

/-- The two setters of a flag. -/
def flag (name key : String) : List Setter := [on name key, switch ("set_" ++ name) key]

/-- The setters of all operations. -/
def common : List Setter :=
  flag "pretty" "pretty" ++ flag "human" "human" ++ flag "error_trace" "error_trace" ++
    [texts "filter_path" "filter_path",
      ⟨"source_query", .text, fun (s : String) => .query "source" (some (.text s))⟩,
      ⟨"opaque_id", .text, fun (s : String) => .header "x-opaque-id" s⟩]

/-- Binds the index of a kind of documents. -/
def mapped (name : String) : Setter :=
  ⟨name, .mappedKind, fun (m : IndexMappings × DocumentKind) => Draft.indexEdit m.1 m.2⟩

/-- The setters that come with a role. -/
def ofRole : Role → List Setter
  | .index => [mapped "index_for", mapped "index_of"]
  | .indices =>
    [⟨"all_indices", .nothing, fun _ => .bind "index" IdentifierList.allIndices.toRoute⟩]
  | .document => []
  | .listing => flag "help" "help" ++ [texts "sort_by_columns" "s"]
  | .table =>
    value "format" "format" (.token .format) :: texts "headers" "h" :: flag "verbose" "v"

/-- Attaches a body. -/
def attach : Setter := ⟨"body", .body, fun (b : Body) => .attach b⟩

end Setter

namespace Operation

/-- **The setters of an operation.** A body can be attached only where the endpoint takes one. -/
def setters (o : Operation) : List Setter :=
  o.route.map (fun f => .route f.setter f.segment f.type) ++
    o.flags.flatMap (fun f => Setter.flag f.setter f.key) ++
    o.values.map (fun f => .value f.setter f.key f.type) ++
    o.lists.map (fun f => .texts f.setter f.key) ++
    o.roles.flatMap Setter.ofRole ++ Setter.common ++
    if o.spec.supportsBody then [.attach] else []

/-- The setter of a name. -/
def setter? (o : Operation) (name : String) : Option Setter :=
  o.setters.find? (·.name = name)

end Operation

end SearchRest
