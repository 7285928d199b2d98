/-
Snapshots and their repositories.

A repository holds snapshots. Both are addressed by name, some operations take
several of them.
-/
import SearchRest.Catalogue.Field

set_option autoImplicit false

namespace SearchRest.Catalogue

/-- Removes stale data from a repository. -/
def cleanupRepository : Operation where
  spec := ⟨"snapshot.cleanup_repository", .post,
    ["/_snapshot/{repository}/_cleanup"], false⟩
  roles := []
  route := [repository]
  flags := []
  values := [time "timeout"] ++ managerTimeouts
  lists := []
  start := [repository]
  others := []

/-- Clones indices from a snapshot into a new snapshot in the same repository. -/
def cloneSnapshot : Operation where
  spec := ⟨"snapshot.clone", .put,
    ["/_snapshot/{repository}/{snapshot}/_clone/{target_snapshot}"], true⟩
  roles := []
  route := [repository, snapshot, segment "target_snapshot" (.one .resource)]
  flags := []
  values := managerTimeouts
  lists := []
  start := [repository, snapshot, segment "target_snapshot" (.one .resource)]
  others := []

/-- Takes a snapshot. -/
def createSnapshot : Operation where
  spec := ⟨"snapshot.create", .put,
    ["/_snapshot/{repository}/{snapshot}"], true⟩
  roles := []
  route := [repository, snapshot]
  flags := [flag "wait_for_completion"]
  values := managerTimeouts
  lists := []
  start := [repository, snapshot]
  others := []

/-- Registers a snapshot repository. -/
def createRepository : Operation where
  spec := ⟨"snapshot.create_repository", .put,
    ["/_snapshot/{repository}"], true⟩
  roles := []
  route := [repository]
  flags := [flag "verify"]
  values := [time "timeout"] ++ managerTimeouts
  lists := []
  start := [repository]
  others := []

/-- Deletes a snapshot. -/
def deleteSnapshot : Operation where
  spec := ⟨"snapshot.delete", .delete,
    ["/_snapshot/{repository}/{snapshot}"], false⟩
  roles := []
  route := [repository, snapshot]
  flags := []
  values := managerTimeouts
  lists := []
  start := [repository, snapshot]
  others := []

/-- Unregisters one or more repositories. -/
def deleteRepository : Operation where
  spec := ⟨"snapshot.delete_repository", .delete,
    ["/_snapshot/{repository}"], false⟩
  roles := []
  route := [repositories]
  flags := []
  values := [time "timeout"] ++ managerTimeouts
  lists := []
  start := [repositories]
  others := []

/-- Describes one or more snapshots. -/
def getSnapshot : Operation where
  spec := ⟨"snapshot.get", .get,
    ["/_snapshot/{repository}/{snapshot}"], false⟩
  roles := []
  route := [repository, snapshots]
  flags := [flag "ignore_unavailable", flag "verbose"]
  values := managerTimeouts
  lists := []
  start := [repository, snapshots]
  others := []

/-- Describes registered repositories. -/
def getRepository : Operation where
  spec := ⟨"snapshot.get_repository", .get,
    ["/_snapshot/{repository}", "/_snapshot"], false⟩
  roles := []
  route := [repositories]
  flags := [flag "local"]
  values := managerTimeouts
  lists := []
  start := []
  others := [⟨"for_repositories", [repositories]⟩]

/-- Restores a snapshot. -/
def restoreSnapshot : Operation where
  spec := ⟨"snapshot.restore", .post,
    ["/_snapshot/{repository}/{snapshot}/_restore"], true⟩
  roles := []
  route := [repository, snapshot]
  flags := [flag "wait_for_completion"]
  values := managerTimeouts
  lists := []
  start := [repository, snapshot]
  others := []

/-- Reports the status of running or named snapshots. -/
def snapshotStatus : Operation where
  spec := ⟨"snapshot.status", .get,
    ["/_snapshot/{repository}/{snapshot}/_status", "/_snapshot/{repository}/_status",
     "/_snapshot/_status"], false⟩
  roles := []
  route := [repository, snapshots]
  flags := [flag "ignore_unavailable"]
  values := managerTimeouts
  lists := []
  start := []
  others := [⟨"for_repository", [repository]⟩, ⟨"for_snapshots", [repository, snapshots]⟩]

/-- Checks that every node can reach a repository. -/
def verifyRepository : Operation where
  spec := ⟨"snapshot.verify_repository", .post,
    ["/_snapshot/{repository}/_verify"], false⟩
  roles := []
  route := [repository]
  flags := []
  values := [time "timeout"] ++ managerTimeouts
  lists := []
  start := [repository]
  others := []

end SearchRest.Catalogue
