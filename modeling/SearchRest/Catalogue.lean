/-
The catalogue of all operations.

Every operation of the interface is declared in one of the modules imported
here. The registry finds their endpoints by name; the names are all different.
-/
import SearchRest.Catalogue.Cluster
import SearchRest.Catalogue.Documents
import SearchRest.Catalogue.Scripts
import SearchRest.Catalogue.Searches
import SearchRest.Catalogue.Snapshots
import SearchRest.Catalogue.Tables
import SearchRest.Catalogue.Writes

set_option autoImplicit false

namespace SearchRest.Catalogue

/-- Operations on single documents. -/
def documentsOperations : List Operation :=
  [getDocument, documentExists, getSource, sourceExists, createDocument, indexDocument,
    updateDocument, deleteDocument, explainDocument, termVectors]

/-- Searches and reads of many documents. -/
def searchesOperations : List Operation :=
  [search, count, multiGet, multiSearch, fieldCapabilities, scroll, clearScroll]

/-- Writes to many documents. -/
def writesOperations : List Operation :=
  [bulk, deleteByQuery, updateByQuery, reindex, deleteByQueryRethrottle,
    updateByQueryRethrottle, reindexRethrottle]

/-- Listings for people. -/
def tablesOperations : List Operation :=
  [catAliases, catAllocation, catClusterManager, catCount, catFielddata, catHealth, catHelp,
    catIndices, catMaster, catNodeAttributes, catNodes, catPendingTasks, catPlugins, catRecovery,
    catRepositories, catSegments, catShards, catSnapshots, catTasks, catTemplates, catThreadPool]

/-- Snapshots and their repositories. -/
def snapshotsOperations : List Operation :=
  [cleanupRepository, cloneSnapshot, createSnapshot, createRepository, deleteSnapshot,
    deleteRepository, getSnapshot, getRepository, restoreSnapshot, snapshotStatus,
    verifyRepository]

/-- Stored scripts and ingest pipelines. -/
def scriptsOperations : List Operation :=
  [getScript, putScript, deleteScript, deletePipeline, getPipeline, grokProcessorPatterns,
    putPipeline, simulatePipeline]

/-- The cluster itself. -/
def clusterOperations : List Operation :=
  [ping, info, cancelTasks, getTask, listTasks, getFeatures, deleteDanglingIndex,
    importDanglingIndex, listDanglingIndices]

/-- **All operations.** -/
def operations : List Operation :=
  documentsOperations ++
    searchesOperations ++
    writesOperations ++
    tablesOperations ++
    snapshotsOperations ++
    scriptsOperations ++
    clusterOperations

/-- The operation of a name. -/
def find? (name : String) : Option Operation := operations.find? (·.spec.name = name)

/-- **The registry of all endpoints.** -/
def registry : Registry := .ofSpecs (operations.map Operation.spec)

end SearchRest.Catalogue
