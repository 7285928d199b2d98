/-
Operations on single documents.

Each of these addresses a document by its index and its id. Indexing and term
vectors also work without an id: then the server makes one up, or the document
is in the body.
-/
import SearchRest.Catalogue.Field

set_option autoImplicit false

namespace SearchRest.Catalogue

/-- Retrieves one document by id. -/
def getDocument : Operation where
  spec := ⟨"get", .get,
    ["/{index}/_doc/{id}"], false⟩
  roles := [.index, .document]
  route := [indexName, itemId]
  flags := [flag "realtime", flag "refresh", flagAs "source_enabled" "_source"]
  values := [text "preference", text "routing", integer "version",
            token "version_type" .versionType]
  lists := [listAs "source_excludes" "_source_excludes",
            listAs "source_includes" "_source_includes", list "stored_fields"]
  start := [indexName, itemId]
  others := []

/-- Checks whether a document exists. -/
def documentExists : Operation where
  spec := ⟨"exists", .head,
    ["/{index}/_doc/{id}"], false⟩
  roles := [.index, .document]
  route := [indexName, itemId]
  flags := [flag "realtime", flag "refresh", flagAs "source_enabled" "_source"]
  values := [text "preference", text "routing", integer "version",
            token "version_type" .versionType]
  lists := [listAs "source_excludes" "_source_excludes",
            listAs "source_includes" "_source_includes", list "stored_fields"]
  start := [indexName, itemId]
  others := []

/-- Retrieves only the `_source` of a document. -/
def getSource : Operation where
  spec := ⟨"source", .get,
    ["/{index}/_source/{id}"], false⟩
  roles := [.index, .document]
  route := [indexName, itemId]
  flags := [flag "realtime", flag "refresh", flagAs "source_enabled" "_source"]
  values := [text "preference", text "routing", integer "version",
            token "version_type" .versionType]
  lists := [listAs "source_excludes" "_source_excludes",
            listAs "source_includes" "_source_includes"]
  start := [indexName, itemId]
  others := []

/-- Checks whether a document has a stored `_source`. -/
def sourceExists : Operation where
  spec := ⟨"source_exists", .head,
    ["/{index}/_source/{id}"], false⟩
  roles := [.index, .document]
  route := [indexName, itemId]
  flags := [flag "realtime", flag "refresh", flagAs "source_enabled" "_source"]
  values := [text "preference", text "routing", integer "version",
            token "version_type" .versionType]
  lists := [listAs "source_excludes" "_source_excludes",
            listAs "source_includes" "_source_includes"]
  start := [indexName, itemId]
  others := []

/-- Indexes a document, failing if the id already exists. -/
def createDocument : Operation where
  spec := ⟨"create", .put,
    ["/{index}/_create/{id}"], true⟩
  roles := [.index, .document]
  route := [indexName, itemId]
  flags := []
  values := [text "pipeline", token "refresh" .refresh, text "routing", time "timeout",
            integer "version", token "version_type" .versionType, text "wait_for_active_shards"]
  lists := []
  start := [indexName, itemId]
  others := []

/-- Indexes a document, with or without a caller-chosen id. -/
def indexDocument : Operation where
  spec := ⟨"index", .post,
    ["/{index}/_doc/{id}", "/{index}/_doc"], true⟩
  roles := [.index, .document]
  route := [indexName, itemId]
  flags := [flag "require_alias"]
  values := [integer "if_primary_term", integer "if_seq_no", token "op_type" .opType,
            text "pipeline", token "refresh" .refresh, text "routing", time "timeout",
            integer "version", token "version_type" .versionType, text "wait_for_active_shards"]
  lists := []
  start := [indexName]
  others := [⟨"with_id", [indexName, itemId]⟩]

/-- Partially updates a document with a script or a partial document. -/
def updateDocument : Operation where
  spec := ⟨"update", .post,
    ["/{index}/_update/{id}"], true⟩
  roles := [.index, .document]
  route := [indexName, itemId]
  flags := [flag "require_alias", flagAs "source_enabled" "_source"]
  values := [integer "if_primary_term", integer "if_seq_no", text "lang",
            token "refresh" .refresh, integer "retry_on_conflict", text "routing",
            time "timeout", text "wait_for_active_shards"]
  lists := [listAs "source_excludes" "_source_excludes",
            listAs "source_includes" "_source_includes"]
  start := [indexName, itemId]
  others := []

/-- Deletes one document. -/
def deleteDocument : Operation where
  spec := ⟨"delete", .delete,
    ["/{index}/_doc/{id}"], false⟩
  roles := [.index, .document]
  route := [indexName, itemId]
  flags := []
  values := [integer "if_primary_term", integer "if_seq_no", token "refresh" .refresh,
            text "routing", time "timeout", integer "version", token "version_type" .versionType,
            text "wait_for_active_shards"]
  lists := []
  start := [indexName, itemId]
  others := []

/-- Explains how a document scores against a query. -/
def explainDocument : Operation where
  spec := ⟨"explain", .post,
    ["/{index}/_explain/{id}"], true⟩
  roles := [.index, .document]
  route := [indexName, itemId]
  flags := [flag "analyze_wildcard", flag "lenient", flagAs "source_enabled" "_source"]
  values := [text "analyzer", token "default_operator" .defaultOperator, text "df",
            text "preference", text "q", text "routing"]
  lists := [listAs "source_excludes" "_source_excludes",
            listAs "source_includes" "_source_includes", list "stored_fields"]
  start := [indexName, itemId]
  others := []

/-- Returns term statistics for a stored or an artificial document. -/
def termVectors : Operation where
  spec := ⟨"termvectors", .post,
    ["/{index}/_termvectors/{id}", "/{index}/_termvectors"], true⟩
  roles := [.index, .document]
  route := [indexName, itemId]
  flags := [flag "field_statistics", flag "offsets", flag "payloads", flag "positions",
            flag "realtime", flag "term_statistics"]
  values := [text "preference", text "routing", integer "version",
            token "version_type" .versionType]
  lists := [list "fields"]
  start := [indexName]
  others := [⟨"with_id", [indexName, itemId]⟩]

end SearchRest.Catalogue
