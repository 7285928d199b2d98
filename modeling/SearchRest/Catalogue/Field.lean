/-
Short names for the declarations of the catalogue.

Most setters are named like what they set. The fields that many operations
share are declared here once.
-/
import SearchRest.Operation

set_option autoImplicit false

namespace SearchRest.Catalogue

/-! ## Segments -/

/-- A segment whose setter has its name. -/
def segment (name : String) (type : RouteType) : RouteField := ⟨name, name, type⟩

/-- One index. -/
def indexName : RouteField := segment "index" (.one .index)

/-- Several indices. -/
def indexNames : RouteField := segment "index" (.several .index)

/-- The id of a document, a stored script or a pipeline. -/
def itemId : RouteField := segment "id" (.one .item)

/-- A repository of snapshots. -/
def repository : RouteField := segment "repository" (.one .resource)

/-- Several repositories. -/
def repositories : RouteField := segment "repository" (.several .resource)

/-- A snapshot. -/
def snapshot : RouteField := segment "snapshot" (.one .resource)

/-- Several snapshots. -/
def snapshots : RouteField := segment "snapshot" (.several .resource)

/-- A task. -/
def taskId : RouteField := segment "task_id" .task

/-- An index that is no longer known by name. -/
def indexUuid : RouteField := segment "index_uuid" (.one .indexUuid)

/-! ## Parameters -/

/-- A flag whose setter has another name than its key. -/
def flagAs (setter key : String) : FlagField := ⟨setter, key⟩

/-- A flag whose setter is named like its key. -/
def flag (key : String) : FlagField := ⟨key, key⟩

/-- A text. -/
def text (key : String) : ParamField := ⟨key, key, .text⟩

/-- An integer. -/
def integer (key : String) : ParamField := ⟨key, key, .integer⟩

/-- A floating-point number. -/
def number (key : String) : ParamField := ⟨key, key, .number⟩

/-- A time value. -/
def time (key : String) : ParamField := ⟨key, key, .time⟩

/-- A word of a closed domain. -/
def token (key : String) (d : TokenDomain) : ParamField := ⟨key, key, .token d⟩

/-- How long to wait for the manager of the cluster, under its old and its new name. -/
def managerTimeouts : List ParamField :=
  [time "master_timeout", time "cluster_manager_timeout"]

/-- Several texts, set by a setter that has another name than the key. -/
def listAs (setter key : String) : ListField := ⟨setter, key⟩

/-- Several texts. -/
def list (key : String) : ListField := ⟨key, key⟩

end SearchRest.Catalogue
