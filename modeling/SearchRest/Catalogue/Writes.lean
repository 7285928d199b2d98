/-
Writes to many documents.

A bulk request carries its operations in its body. The operations by query run
as tasks, whose speed can be changed while they run.
-/
import SearchRest.Catalogue.Field

set_option autoImplicit false

namespace SearchRest.Catalogue

/-- Runs many index, create, update and delete operations from one NDJSON body. -/
def bulk : Operation where
  spec := ⟨"bulk", .post,
    ["/{index}/_bulk", "/_bulk"], true⟩
  roles := [.index]
  route := [indexName]
  flags := [flag "require_alias", flagAs "source_enabled" "_source"]
  values := [text "pipeline", token "refresh" .refresh, text "routing", time "timeout",
            text "wait_for_active_shards"]
  lists := [listAs "source_excludes" "_source_excludes",
            listAs "source_includes" "_source_includes"]
  start := []
  others := [⟨"for_index", [indexName]⟩]

/-- Deletes every document matching a query. -/
def deleteByQuery : Operation where
  spec := ⟨"delete_by_query", .post,
    ["/{index}/_delete_by_query"], true⟩
  roles := [.index, .indices]
  route := [indexNames]
  flags := [flag "allow_no_indices", flag "analyze_wildcard", flag "ignore_unavailable",
            flag "lenient", flag "refresh", flag "request_cache",
            flagAs "source_enabled" "_source", flag "version", flag "wait_for_completion"]
  values := [text "analyzer", token "conflicts" .conflicts,
            token "default_operator" .defaultOperator, text "df",
            token "expand_wildcards" .expandWildcards, integer "from", text "preference",
            text "q", integer "requests_per_second", text "routing", time "scroll",
            integer "scroll_size", time "search_timeout", token "search_type" .searchType,
            integer "slices", integer "terminate_after", time "timeout",
            text "wait_for_active_shards"]
  lists := [list "sort", listAs "source_excludes" "_source_excludes",
            listAs "source_includes" "_source_includes", list "stats"]
  start := [indexNames]
  others := []

/-- Updates every document matching a query. -/
def updateByQuery : Operation where
  spec := ⟨"update_by_query", .post,
    ["/{index}/_update_by_query"], true⟩
  roles := [.index, .indices]
  route := [indexNames]
  flags := [flag "allow_no_indices", flag "analyze_wildcard", flag "ignore_unavailable",
            flag "lenient", flag "refresh", flag "request_cache",
            flagAs "source_enabled" "_source", flag "version", flag "version_type",
            flag "wait_for_completion"]
  values := [text "analyzer", token "conflicts" .conflicts,
            token "default_operator" .defaultOperator, text "df",
            token "expand_wildcards" .expandWildcards, integer "from", text "pipeline",
            text "preference", text "q", integer "requests_per_second", text "routing",
            time "scroll", integer "scroll_size", time "search_timeout",
            token "search_type" .searchType, integer "slices", integer "terminate_after",
            time "timeout", text "wait_for_active_shards"]
  lists := [list "sort", listAs "source_excludes" "_source_excludes",
            listAs "source_includes" "_source_includes", list "stats"]
  start := [indexNames]
  others := []

/-- Copies documents from one index to another. -/
def reindex : Operation where
  spec := ⟨"reindex", .post,
    ["/_reindex"], true⟩
  roles := []
  route := []
  flags := [flag "refresh", flag "wait_for_completion"]
  values := [integer "requests_per_second", time "scroll", integer "slices", time "timeout",
            text "wait_for_active_shards"]
  lists := []
  start := []
  others := []

/-- Changes the throttle of a running delete-by-query. -/
def deleteByQueryRethrottle : Operation where
  spec := ⟨"delete_by_query_rethrottle", .post,
    ["/_delete_by_query/{task_id}/_rethrottle"], false⟩
  roles := []
  route := [taskId]
  flags := []
  values := [integer "requests_per_second"]
  lists := []
  start := [taskId]
  others := []

/-- Changes the throttle of a running update-by-query. -/
def updateByQueryRethrottle : Operation where
  spec := ⟨"update_by_query_rethrottle", .post,
    ["/_update_by_query/{task_id}/_rethrottle"], false⟩
  roles := []
  route := [taskId]
  flags := []
  values := [integer "requests_per_second"]
  lists := []
  start := [taskId]
  others := []

/-- Changes the throttle of a running reindex. -/
def reindexRethrottle : Operation where
  spec := ⟨"reindex_rethrottle", .post,
    ["/_reindex/{task_id}/_rethrottle"], false⟩
  roles := []
  route := [taskId]
  flags := []
  values := [integer "requests_per_second"]
  lists := []
  start := [taskId]
  others := []

end SearchRest.Catalogue
