import ClusterArchive.Engine.Basic
import ClusterArchive.Retention

/-! Restore and cleanup runs, and the archives at a destination. -/

namespace ClusterArchive.Engine

variable {σ : Type}

def streamOf (opened : Volume.Opened) : ByteStream :=
  match opened.read with
  | .ok bytes => .ofBytes bytes
  | .error error => ⟨[], some error.message⟩

def readArchive (engine : Engine) (store : Store) (volume : Volume) (archive : String) :
    Except RunError (List RestoreItem) := do
  let opened ← store.open volume archive
  RestoreItem.ofDelivery (engine.format.files (streamOf opened))

def runRestore (engine : Engine) (around : Surroundings σ) (applier : Applier σ)
    (destination archive : String) (world : World σ) : Except RunError RestoreResult × World σ :=
  let (started, world) := world.ask around.now
  if Text.isBlankText archive then (.error (.validation "archive name must not be empty"), world)
  else
    match engine.store destination with
    | .error error => (.error error, world)
    | .ok store =>
      match world.ask around.cancelled with
      | (true, world) => (.error .cancelled, world)
      | (false, world) =>
        match engine.readArchive store world.volume archive with
        | .error error => (.error error, world)
        | .ok items =>
          match world.ask (applier.applyItems around.cancelled items) with
          | (.error error, world) => (.error error, world)
          | (.ok summary, world) =>
            let m := world.metrics
            let world := { world with metrics := { m with applied := m.applied + summary.applied } }
            let (completed, world) := world.ask around.now
            (.ok ⟨archive, summary.applied, summary.created, summary.updated, started, completed⟩,
              world)

def runCleanup (engine : Engine) (around : Surroundings σ) (destination : String)
    (policy : RetentionPolicy) (world : World σ) : Except RunError CleanupReport × World σ :=
  match engine.store destination with
  | .error error => (.error error, world)
  | .ok store =>
    let (now, world) := world.ask around.now
    match world.onVolume (store.prune policy now) with
    | (.error error, world) => (.error error, world)
    | (.ok report, world) =>
      let m := world.metrics
      (.ok report, { world with metrics := { m with pruned := m.pruned + report.deleted } })

def runPurge (engine : Engine) (around : Surroundings σ) (destination : String) (world : World σ) :
    Except RunError CleanupReport × World σ :=
  engine.runCleanup around destination .purgeAll world

/-- The archives at a destination, oldest first. -/
def listArchives (engine : Engine) (volume : Volume) (destination : String) :
    Except RunError (List ArchiveInfo) := do
  (← engine.store destination).list volume

end ClusterArchive.Engine
