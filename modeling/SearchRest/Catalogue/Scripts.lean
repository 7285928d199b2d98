/-
Stored scripts and ingest pipelines.

Both are stored under an id that the caller chooses.
-/
import SearchRest.Catalogue.Field

set_option autoImplicit false

namespace SearchRest.Catalogue

/-- Retrieves a stored script. -/
def getScript : Operation where
  spec := ⟨"get_script", .get,
    ["/_scripts/{id}"], false⟩
  roles := []
  route := [itemId]
  flags := []
  values := managerTimeouts
  lists := []
  start := [itemId]
  others := []

/-- Stores a script or search template. -/
def putScript : Operation where
  spec := ⟨"put_script", .put,
    ["/_scripts/{id}/{context}", "/_scripts/{id}"], true⟩
  roles := []
  route := [itemId, segment "context" (.one .resource)]
  flags := []
  values := [time "timeout"] ++ managerTimeouts
  lists := []
  start := [itemId]
  others := [⟨"in_context", [itemId, segment "context" (.one .resource)]⟩]

/-- Deletes a stored script. -/
def deleteScript : Operation where
  spec := ⟨"delete_script", .delete,
    ["/_scripts/{id}"], false⟩
  roles := []
  route := [itemId]
  flags := []
  values := [time "timeout"] ++ managerTimeouts
  lists := []
  start := [itemId]
  others := []

/-- Deletes a pipeline. -/
def deletePipeline : Operation where
  spec := ⟨"ingest.delete_pipeline", .delete,
    ["/_ingest/pipeline/{id}"], false⟩
  roles := []
  route := [itemId]
  flags := []
  values := [time "timeout"] ++ managerTimeouts
  lists := []
  start := [itemId]
  others := []

/-- Retrieves one or every pipeline. -/
def getPipeline : Operation where
  spec := ⟨"ingest.get_pipeline", .get,
    ["/_ingest/pipeline/{id}", "/_ingest/pipeline"], false⟩
  roles := []
  route := [itemId]
  flags := []
  values := managerTimeouts
  lists := []
  start := []
  others := [⟨"for_pipeline", [itemId]⟩]

/-- Lists the built-in grok patterns. -/
def grokProcessorPatterns : Operation where
  spec := ⟨"ingest.processor_grok", .get,
    ["/_ingest/processor/grok"], false⟩
  roles := []
  route := []
  flags := []
  values := []
  lists := []
  start := []
  others := []

/-- Creates or replaces a pipeline. -/
def putPipeline : Operation where
  spec := ⟨"ingest.put_pipeline", .put,
    ["/_ingest/pipeline/{id}"], true⟩
  roles := []
  route := [itemId]
  flags := []
  values := [time "timeout"] ++ managerTimeouts
  lists := []
  start := [itemId]
  others := []

/-- Runs a stored or an inline pipeline against sample documents. -/
def simulatePipeline : Operation where
  spec := ⟨"ingest.simulate", .post,
    ["/_ingest/pipeline/{id}/_simulate", "/_ingest/pipeline/_simulate"], true⟩
  roles := []
  route := [itemId]
  flags := [flag "verbose"]
  values := []
  lists := []
  start := []
  others := [⟨"for_pipeline", [itemId]⟩]

end SearchRest.Catalogue
