/-
The cluster itself.

Whether it answers and what it is, its running tasks, its features, and
indices that it has lost track of.
-/
import SearchRest.Catalogue.Field

set_option autoImplicit false

namespace SearchRest.Catalogue

/-- Checks that the cluster answers. -/
def ping : Operation where
  spec := ⟨"ping", .head,
    ["/"], false⟩
  roles := []
  route := []
  flags := []
  values := []
  lists := []
  start := []
  others := []

/-- Basic information about the cluster and the node answering. -/
def info : Operation where
  spec := ⟨"info", .get,
    ["/"], false⟩
  roles := []
  route := []
  flags := []
  values := []
  lists := []
  start := []
  others := []

/-- Cancels one task, or every task matching the filters. -/
def cancelTasks : Operation where
  spec := ⟨"tasks.cancel", .post,
    ["/_tasks/{task_id}/_cancel", "/_tasks/_cancel"], false⟩
  roles := []
  route := [taskId]
  flags := [flag "wait_for_completion"]
  values := [text "parent_task_id"]
  lists := [list "actions", list "nodes"]
  start := []
  others := [⟨"for_task", [taskId]⟩]

/-- Retrieves one task. -/
def getTask : Operation where
  spec := ⟨"tasks.get", .get,
    ["/_tasks/{task_id}"], false⟩
  roles := []
  route := [taskId]
  flags := [flag "wait_for_completion"]
  values := [time "timeout"]
  lists := []
  start := [taskId]
  others := []

/-- Lists running tasks. -/
def listTasks : Operation where
  spec := ⟨"tasks.list", .get,
    ["/_tasks"], false⟩
  roles := []
  route := []
  flags := [flag "detailed", flag "wait_for_completion"]
  values := [token "group_by" .groupBy, text "parent_task_id", time "timeout"]
  lists := [list "actions", list "nodes"]
  start := []
  others := []

/-- Lists the features that snapshots can include. -/
def getFeatures : Operation where
  spec := ⟨"features.get_features", .get,
    ["/_features"], false⟩
  roles := []
  route := []
  flags := []
  values := managerTimeouts
  lists := []
  start := []
  others := []

/-- Deletes a dangling index. -/
def deleteDanglingIndex : Operation where
  spec := ⟨"dangling_indices.delete_dangling_index", .delete,
    ["/_dangling/{index_uuid}"], false⟩
  roles := []
  route := [indexUuid]
  flags := [flag "accept_data_loss"]
  values := [time "timeout"] ++ managerTimeouts
  lists := []
  start := [indexUuid]
  others := []

/-- Imports a dangling index into the cluster. -/
def importDanglingIndex : Operation where
  spec := ⟨"dangling_indices.import_dangling_index", .post,
    ["/_dangling/{index_uuid}"], false⟩
  roles := []
  route := [indexUuid]
  flags := [flag "accept_data_loss"]
  values := [time "timeout"] ++ managerTimeouts
  lists := []
  start := [indexUuid]
  others := []

/-- Lists dangling indices. -/
def listDanglingIndices : Operation where
  spec := ⟨"dangling_indices.list_dangling_indices", .get,
    ["/_dangling"], false⟩
  roles := []
  route := []
  flags := []
  values := []
  lists := []
  start := []
  others := []

end SearchRest.Catalogue
