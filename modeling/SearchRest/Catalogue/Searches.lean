/-
Searches and reads of many documents.

Most of these can be limited to some indices; without any they reach all of
the cluster. A scroll goes on from an earlier search.
-/
import SearchRest.Catalogue.Field

set_option autoImplicit false

namespace SearchRest.Catalogue

/-- Runs a search. -/
def search : Operation where
  spec := ⟨"search", .post,
    ["/{index}/_search", "/_search"], true⟩
  roles := [.index, .indices]
  route := [indexNames]
  flags := [flag "allow_no_indices", flag "allow_partial_search_results",
            flag "analyze_wildcard", flag "ccs_minimize_roundtrips", flag "ignore_throttled",
            flag "ignore_unavailable", flag "lenient", flag "request_cache",
            flag "seq_no_primary_term", flagAs "source_enabled" "_source", flag "explain",
            flagAs "total_hits_as_integer" "rest_total_hits_as_int", flag "track_scores",
            flag "typed_keys", flag "version"]
  values := [text "analyzer", integer "batched_reduce_size",
            token "default_operator" .defaultOperator, text "df",
            token "expand_wildcards" .expandWildcards, integer "from",
            integer "max_concurrent_shard_requests", integer "pre_filter_shard_size",
            text "preference", text "q", text "routing", time "scroll",
            token "search_type" .searchType, integer "size", text "suggest_field",
            text "suggest_mode", integer "suggest_size", text "suggest_text",
            integer "terminate_after", time "timeout", text "track_total_hits"]
  lists := [list "docvalue_fields", list "sort", listAs "source_excludes" "_source_excludes",
            listAs "source_includes" "_source_includes", list "stats", list "stored_fields"]
  start := []
  others := [⟨"for_indices", [indexNames]⟩]

/-- Counts the documents matching a query. -/
def count : Operation where
  spec := ⟨"count", .post,
    ["/{index}/_count", "/_count"], true⟩
  roles := [.index, .indices]
  route := [indexNames]
  flags := [flag "allow_no_indices", flag "analyze_wildcard", flag "ignore_throttled",
            flag "ignore_unavailable", flag "lenient"]
  values := [text "analyzer", token "default_operator" .defaultOperator, text "df",
            token "expand_wildcards" .expandWildcards, number "min_score", text "preference",
            text "q", text "routing", integer "terminate_after"]
  lists := []
  start := []
  others := [⟨"for_indices", [indexNames]⟩]

/-- Retrieves several documents in one round trip. -/
def multiGet : Operation where
  spec := ⟨"mget", .post,
    ["/{index}/_mget", "/_mget"], true⟩
  roles := [.index]
  route := [indexName]
  flags := [flag "realtime", flag "refresh", flagAs "source_enabled" "_source"]
  values := [text "preference", text "routing"]
  lists := [listAs "source_excludes" "_source_excludes",
            listAs "source_includes" "_source_includes", list "stored_fields"]
  start := []
  others := [⟨"for_index", [indexName]⟩]

/-- Runs several searches from one NDJSON body. -/
def multiSearch : Operation where
  spec := ⟨"msearch", .post,
    ["/{index}/_msearch", "/_msearch"], true⟩
  roles := [.index, .indices]
  route := [indexNames]
  flags := [flag "ccs_minimize_roundtrips",
            flagAs "total_hits_as_integer" "rest_total_hits_as_int", flag "typed_keys"]
  values := [integer "max_concurrent_searches", integer "max_concurrent_shard_requests",
            integer "pre_filter_shard_size", token "search_type" .searchType]
  lists := []
  start := []
  others := [⟨"for_indices", [indexNames]⟩]

/-- Reports the capabilities of fields across indices. -/
def fieldCapabilities : Operation where
  spec := ⟨"field_caps", .post,
    ["/{index}/_field_caps", "/_field_caps"], true⟩
  roles := [.index, .indices]
  route := [indexNames]
  flags := [flag "allow_no_indices", flag "ignore_unavailable", flag "include_unmapped"]
  values := [token "expand_wildcards" .expandWildcards]
  lists := [list "fields"]
  start := []
  others := [⟨"for_indices", [indexNames]⟩]

/-- Fetches the next page of a scrolled search. -/
def scroll : Operation where
  spec := ⟨"scroll", .post,
    ["/_search/scroll"], true⟩
  roles := []
  route := []
  flags := [flagAs "total_hits_as_integer" "rest_total_hits_as_int"]
  values := [time "scroll"]
  lists := []
  start := []
  others := []

/-- Releases the resources held by scroll contexts. -/
def clearScroll : Operation where
  spec := ⟨"clear_scroll", .delete,
    ["/_search/scroll"], true⟩
  roles := []
  route := []
  flags := []
  values := []
  lists := []
  start := []
  others := []

end SearchRest.Catalogue
