import ClusterArchive.Config
import ClusterArchive.Destination
import ClusterArchive.Digest.Reader
import ClusterArchive.Format
import ClusterArchive.Store

/-! What a run works with: its settings and format, and a world of files, warnings, counters and
whatever lies outside. -/

namespace ClusterArchive

/-- Something that went wrong and was passed over, with named values. -/
structure Warning where
  message : String
  fields : List (String × String)
deriving DecidableEq, Repr

structure Metrics where
  backups : Nat
  backupFailures : Nat
  durations : Nat
  captured : Nat
  applied : Nat
  pruned : Nat
deriving DecidableEq, Repr, Inhabited

/-- The warnings stand in the order in which they were given. -/
structure World (σ : Type) where
  volume : Volume
  warnings : List Warning
  metrics : Metrics
  outside : σ

namespace World

variable {σ : Type}

def warn (world : World σ) (message : String) (fields : List (String × String)) : World σ :=
  { world with warnings := world.warnings ++ [⟨message, fields⟩] }

def ask {α : Type} (world : World σ) (question : σ → α × σ) : α × World σ :=
  let (reply, outside) := question world.outside
  (reply, { world with outside := outside })

def onVolume {α : Type} (world : World σ) (work : Volume → α × Volume) : α × World σ :=
  let (result, volume) := work world.volume
  (result, { world with volume := volume })

end World

structure BackupOptions where
  includeNamespaces : List String
  excludeNamespaces : List String
  includeClusterResources : Bool
  resourceTypes : List String
deriving DecidableEq, Repr

structure BackupResult where
  objectCount : Nat
  archiveName : String
  archivePath : String
  archiveSize : Nat
  sha256 : String
  algorithm : String
  startedAt : Instant
  completedAt : Instant
deriving DecidableEq, Repr

structure RestoreResult where
  archiveName : String
  applied : Nat
  created : Nat
  updated : Nat
  startedAt : Instant
  completedAt : Instant
deriving DecidableEq, Repr

def hashFileIn (splitting : Splitting) (volume : Volume) (path : String) : Except RunError String :=
  match volume.read path with
  | .ok bytes => .ok (Sha256.Hasher.start.readAll splitting bytes).digest
  | .error error => .error (.io error.message)

@[simp] theorem hashFileIn_eq (splitting : Splitting) (volume : Volume) (path : String) :
    hashFileIn splitting volume path = match volume.read path with
      | .ok bytes => .ok (sha256 bytes)
      | .error error => .error (.io error.message) := by
  simp only [hashFileIn, Sha256.Hasher.readAll_eq]
  rfl

def hashFile (volume : Volume) (path : String) : Except RunError String :=
  hashFileIn .full volume path

namespace BackupResult

def durationMillis (result : BackupResult) : Int := result.completedAt.millisSince result.startedAt

/-- Compares the archive as it is stored with the recorded digest. -/
def verifyIn (splitting : Splitting) (result : BackupResult) (volume : Volume) :
    Except RunError Unit := do
  let actual ← hashFileIn splitting volume result.archivePath
  if actual = result.sha256 then return else throw (.integrity result.sha256 actual)

def verify (result : BackupResult) (volume : Volume) : Except RunError Unit :=
  result.verifyIn .full volume

end BackupResult

structure Engine where
  config : Config
  format : ArchiveFormat

namespace Engine

def resolve (engine : Engine) (destination : String) : Except RunError String := do
  return (← Destination.parse destination).resolve engine.config.hostRoot

def store (engine : Engine) (destination : String) : Except RunError Store := do
  return ⟨← engine.resolve destination, engine.format.extension⟩

end Engine

end ClusterArchive
