/-
Listings for people.

Every listing can explain its columns instead, and can be sorted. All but the
overview of the listings are tables: they have a format, a choice of columns
and a row of headings.
-/
import SearchRest.Catalogue.Field

set_option autoImplicit false

namespace SearchRest.Catalogue

/-- Lists index aliases, optionally filtered by name. -/
def catAliases : Operation where
  spec := ⟨"cat.aliases", .get,
    ["/_cat/aliases/{name}", "/_cat/aliases"], false⟩
  roles := [.listing, .table]
  route := [segment "name" (.several .resource)]
  flags := [flag "local"]
  values := [token "expand_wildcards" .expandWildcards]
  lists := []
  start := []
  others := []

/-- Shows shard counts and disk use per data node. -/
def catAllocation : Operation where
  spec := ⟨"cat.allocation", .get,
    ["/_cat/allocation/{node_id}", "/_cat/allocation"], false⟩
  roles := [.listing, .table]
  route := [segment "node_id" (.several .node)]
  flags := [flag "local"]
  values := [token "bytes" .bytes] ++ managerTimeouts
  lists := []
  start := []
  others := []

/-- Shows the elected cluster manager node. -/
def catClusterManager : Operation where
  spec := ⟨"cat.cluster_manager", .get,
    ["/_cat/cluster_manager"], false⟩
  roles := [.listing, .table]
  route := []
  flags := [flag "local"]
  values := [time "cluster_manager_timeout"]
  lists := []
  start := []
  others := []

/-- Document count of the whole cluster or of the given indices. -/
def catCount : Operation where
  spec := ⟨"cat.count", .get,
    ["/_cat/count/{index}", "/_cat/count"], false⟩
  roles := [.listing, .table, .index, .indices]
  route := [indexNames]
  flags := []
  values := []
  lists := []
  start := []
  others := []

/-- Heap used by fielddata per node, optionally per field. -/
def catFielddata : Operation where
  spec := ⟨"cat.fielddata", .get,
    ["/_cat/fielddata/{fields}", "/_cat/fielddata"], false⟩
  roles := [.listing, .table]
  route := [segment "fields" (.several .field)]
  flags := []
  values := [token "bytes" .bytes]
  lists := []
  start := []
  others := []

/-- One-line cluster health summary. -/
def catHealth : Operation where
  spec := ⟨"cat.health", .get,
    ["/_cat/health"], false⟩
  roles := [.listing, .table]
  route := []
  flags := [flagAs "include_timestamp" "ts"]
  values := []
  lists := []
  start := []
  others := []

/-- Lists the cat endpoints. Plain text only; has no format setter. -/
def catHelp : Operation where
  spec := ⟨"cat.help", .get,
    ["/_cat"], false⟩
  roles := [.listing]
  route := []
  flags := []
  values := []
  lists := []
  start := []
  others := []

/-- Per-index health, document counts and store size. -/
def catIndices : Operation where
  spec := ⟨"cat.indices", .get,
    ["/_cat/indices/{index}", "/_cat/indices"], false⟩
  roles := [.listing, .table, .index, .indices]
  route := [indexNames]
  flags := [flag "include_unloaded_segments", flag "local", flagAs "primaries_only" "pri"]
  values := [token "bytes" .bytes, token "expand_wildcards" .expandWildcards,
            token "health" .health] ++ managerTimeouts
  lists := []
  start := []
  others := [⟨"for_indices", [indexNames]⟩]

/-- Shows the elected master node.  Superseded by `cat.cluster_manager`; both are served. -/
def catMaster : Operation where
  spec := ⟨"cat.master", .get,
    ["/_cat/master"], false⟩
  roles := [.listing, .table]
  route := []
  flags := [flag "local"]
  values := managerTimeouts
  lists := []
  start := []
  others := []

/-- Lists custom node attributes. -/
def catNodeAttributes : Operation where
  spec := ⟨"cat.nodeattrs", .get,
    ["/_cat/nodeattrs"], false⟩
  roles := [.listing, .table]
  route := []
  flags := [flag "local"]
  values := managerTimeouts
  lists := []
  start := []
  others := []

/-- Per-node heap, load and roles. -/
def catNodes : Operation where
  spec := ⟨"cat.nodes", .get,
    ["/_cat/nodes"], false⟩
  roles := [.listing, .table]
  route := []
  flags := [flag "full_id"]
  values := [token "bytes" .bytes] ++ managerTimeouts
  lists := []
  start := []
  others := []

/-- Cluster-level changes not yet executed. -/
def catPendingTasks : Operation where
  spec := ⟨"cat.pending_tasks", .get,
    ["/_cat/pending_tasks"], false⟩
  roles := [.listing, .table]
  route := []
  flags := [flag "local"]
  values := managerTimeouts
  lists := []
  start := []
  others := []

/-- Plugins installed on each node. -/
def catPlugins : Operation where
  spec := ⟨"cat.plugins", .get,
    ["/_cat/plugins"], false⟩
  roles := [.listing, .table]
  route := []
  flags := [flag "include_bootstrap", flag "local"]
  values := managerTimeouts
  lists := []
  start := []
  others := []

/-- Ongoing and completed shard recoveries. -/
def catRecovery : Operation where
  spec := ⟨"cat.recovery", .get,
    ["/_cat/recovery/{index}", "/_cat/recovery"], false⟩
  roles := [.listing, .table, .index, .indices]
  route := [indexNames]
  flags := [flag "active_only", flag "detailed"]
  values := [token "bytes" .bytes]
  lists := []
  start := []
  others := []

/-- Registered snapshot repositories. -/
def catRepositories : Operation where
  spec := ⟨"cat.repositories", .get,
    ["/_cat/repositories"], false⟩
  roles := [.listing, .table]
  route := []
  flags := [flag "local"]
  values := managerTimeouts
  lists := []
  start := []
  others := []

/-- Lucene segments of the given indices. -/
def catSegments : Operation where
  spec := ⟨"cat.segments", .get,
    ["/_cat/segments/{index}", "/_cat/segments"], false⟩
  roles := [.listing, .table, .index, .indices]
  route := [indexNames]
  flags := []
  values := [token "bytes" .bytes]
  lists := []
  start := []
  others := []

/-- Shard placement and state. -/
def catShards : Operation where
  spec := ⟨"cat.shards", .get,
    ["/_cat/shards/{index}", "/_cat/shards"], false⟩
  roles := [.listing, .table, .index, .indices]
  route := [indexNames]
  flags := [flag "local"]
  values := [token "bytes" .bytes] ++ managerTimeouts
  lists := []
  start := []
  others := [⟨"for_indices", [indexNames]⟩]

/-- Snapshots stored in the given repositories. -/
def catSnapshots : Operation where
  spec := ⟨"cat.snapshots", .get,
    ["/_cat/snapshots/{repository}", "/_cat/snapshots"], false⟩
  roles := [.listing, .table]
  route := [repositories]
  flags := [flag "ignore_unavailable"]
  values := managerTimeouts
  lists := []
  start := []
  others := [⟨"for_repositories", [repositories]⟩]

/-- Tasks currently running in the cluster. -/
def catTasks : Operation where
  spec := ⟨"cat.tasks", .get,
    ["/_cat/tasks"], false⟩
  roles := [.listing, .table]
  route := []
  flags := [flag "detailed"]
  values := [text "parent_task_id"]
  lists := [list "actions", list "nodes"]
  start := []
  others := []

/-- Index templates, optionally filtered by name. -/
def catTemplates : Operation where
  spec := ⟨"cat.templates", .get,
    ["/_cat/templates/{name}", "/_cat/templates"], false⟩
  roles := [.listing, .table]
  route := [segment "name" (.one .resource)]
  flags := [flag "local"]
  values := managerTimeouts
  lists := []
  start := []
  others := []

/-- Thread pool usage per node. -/
def catThreadPool : Operation where
  spec := ⟨"cat.thread_pool", .get,
    ["/_cat/thread_pool/{thread_pool_patterns}", "/_cat/thread_pool"], false⟩
  roles := [.listing, .table]
  route := [segment "thread_pool_patterns" (.several .resource)]
  flags := [flag "local"]
  values := managerTimeouts
  lists := []
  start := []
  others := []

end SearchRest.Catalogue
