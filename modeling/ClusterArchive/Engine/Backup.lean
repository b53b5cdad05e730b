import ClusterArchive.Engine.Medium
import ClusterArchive.Namespaces
import ClusterArchive.Selection
import ClusterArchive.Serialization

/-! Backup runs. Objects are written below a staging directory of the run's own, which is packed into
a new archive. A group that fails discovery, a listing that fails and an object that cannot be
written are passed over with a warning; a listing of namespaces that fails, a failure to pack and
cancellation end the run, which then leaves no archive. -/

namespace ClusterArchive.Engine

variable {σ : Type}

/-- The first name for a staging directory that is not taken. -/
def stagingName (volume : Volume) (parent : String) : String :=
  let name (i : Nat) : String := "clusterbackup-" ++ toString i
  let taken (i : Nat) : Bool := (volume.find false (Path.join parent (name i))).isOk
  name (((List.range (volume.nodes.length + 1)).find? (!taken ·)).getD 0)

def temporaryDirectory : String := "/tmp"

def makeStaging (engine : Engine) (volume : Volume) : Except RunError String × Volume :=
  let (parent, made, volume) := match engine.config.stagingDirectory with
    | some parent =>
      let (made, volume) := volume.makeDirectories parent
      (parent, made, volume)
    | none => (temporaryDirectory, .ok (), volume)
  match made with
  | .error error => (.error (.io error.message), volume)
  | .ok () =>
    let path := Path.join parent (stagingName volume parent)
    match volume.makeDirectory path with
    | .ok volume => (.ok path, volume)
    | .error error =>
      (.error (.storage ("Failed to create staging directory: " ++ error.message)), volume)

def removeStaging (volume : Volume) (path : String) : Volume :=
  match volume.find false path with
  | .ok (location, .directory) => volume.removeTree location
  | _ => volume

def writeObject (staging : String) (entry : Entry) (object : Document) (now : Instant)
    (volume : Volume) : Except RunError Unit × Volume :=
  let path := Path.join staging entry.path
  match volume.makeDirectories (Path.parent path) with
  | (.error error, volume) => (.error (.io error.message), volume)
  | (.ok (), volume) =>
    match volume.writeFile path (.ofBytes object.archivedBytes) now with
    | .ok volume => (.ok (), volume)
    | .error error => (.error (.io error.message), volume)

def writeObjects (staging : String) (type : ResourceType) (ns : Option String) (now : Instant) :
    List Document → World σ → Nat × World σ
  | [], world => (0, world)
  | object :: rest, world =>
    match object.name? with
    | none =>
      writeObjects staging type ns now rest
        (world.warn "Skipping object without a name" [("resource", type.display)])
    | some name =>
      let entry : Entry := ⟨type, ns, name⟩
      match world.onVolume (writeObject staging entry object now) with
      | (.ok (), world) =>
        let (count, world) := writeObjects staging type ns now rest world
        (count + 1, world)
      | (.error error, world) =>
        writeObjects staging type ns now rest
          (world.warn "Failed to write object, skipping"
            [("entry", entry.path), ("error", error.message)])

/-- Captures the objects of a resource, in one namespace or outside of all. -/
def captureResource (lister : Lister σ) (staging : String) (now : Instant) (resource : Resource)
    (ns : Option String) (world : World σ) : Except RunError Nat × World σ :=
  match world.ask (lister.list resource ns) with
  | (.ok objects, world) =>
    let (count, world) := writeObjects staging resource.type ns now objects world
    (.ok count, world)
  | (.error .cancelled, world) => (.error .cancelled, world)
  | (.error error, world) =>
    (.ok 0, world.warn "Failed to list resource, skipping"
      [("resource", resource.type.display), ("namespace", ns.getD ""), ("error", error.message)])

def captureNamespaces (lister : Lister σ) (staging : String) (now : Instant) (resource : Resource) :
    List String → World σ → Except RunError Nat × World σ
  | [], world => (.ok 0, world)
  | ns :: rest, world =>
    match captureResource lister staging now resource (some ns) world with
    | (.error error, world) => (.error error, world)
    | (.ok count, world) =>
      match captureNamespaces lister staging now resource rest world with
      | (.error error, world) => (.error error, world)
      | (.ok more, world) => (.ok (count + more), world)

def captureOne (lister : Lister σ) (staging : String) (now : Instant) (options : BackupOptions)
    (resolver : NamespaceResolver) (resource : Resource) (world : World σ) :
    Except RunError Nat × NamespaceResolver × World σ :=
  if resource.namespaced then
    let (resolved, resolver, outside) := resolver.resolve lister world.outside
    let world := { world with outside := outside }
    match resolved with
    | .error error => (.error error, resolver, world)
    | .ok names =>
      let (count, world) := captureNamespaces lister staging now resource names world
      (count, resolver, world)
  else if options.includeClusterResources then
    let (count, world) := captureResource lister staging now resource none world
    (count, resolver, world)
  else (.ok 0, resolver, world)

/-- Captures resources in their order, up to the first failure or the cancellation. -/
def captureAll (around : Surroundings σ) (lister : Lister σ) (staging : String) (now : Instant)
    (options : BackupOptions) (resolver : NamespaceResolver) :
    List Resource → World σ → Except RunError Nat × World σ
  | [], world => (.ok 0, world)
  | resource :: rest, world =>
    match world.ask around.cancelled with
    | (true, world) => (.error .cancelled, world)
    | (false, world) =>
      match captureOne lister staging now options resolver resource world with
      | (.error error, _, world) => (.error error, world)
      | (.ok count, resolver, world) =>
        match captureAll around lister staging now options resolver rest world with
        | (.error error, world) => (.error error, world)
        | (.ok more, world) => (.ok (count + more), world)

/-- What discovery found. Nothing is found when it fails. -/
def discoverResources (discoverer : Discoverer σ) (world : World σ) :
    Except RunError (List Resource) × World σ :=
  match world.ask discoverer.discover with
  | (.error .cancelled, world) => (.error .cancelled, world)
  | (.error error, world) =>
    (.ok [], world.warn "Resource discovery failed, no resource types will be captured"
      [("error", error.message)])
  | (.ok report, world) =>
    (.ok report.resources, report.failures.foldl
      (fun world failure => world.warn "Skipping API group that failed discovery"
        [("group_version", failure.groupVersion), ("error", failure.error.message)]) world)

/-- Writes every eligible object below the staging directory; their number. -/
def capture (around : Surroundings σ) (discoverer : Discoverer σ) (lister : Lister σ)
    (staging : String) (now : Instant) (options : BackupOptions) (world : World σ) :
    Except RunError Nat × World σ :=
  match discoverResources discoverer world with
  | (.error error, world) => (.error error, world)
  | (.ok resources, world) =>
    let selected := (KindFilter.ofRequest options.resourceTypes).select resources
    let resolver := NamespaceResolver.make options.includeNamespaces options.excludeNamespaces
    captureAll around lister staging now options resolver selected world

/-- Captures and packs, with a staging directory that was made for it. -/
def captureAndPack (medium : Medium) (around : Surroundings σ) (discoverer : Discoverer σ)
    (lister : Lister σ) (store : Store) (name staging : String) (options : BackupOptions)
    (now : Instant) (world : World σ) : Except RunError (Nat × Nat × String) × World σ :=
  match capture around discoverer lister staging now options world with
  | (.error error, world) => (.error error, world)
  | (.ok count, world) =>
    match world.ask around.cancelled with
    | (true, world) => (.error .cancelled, world)
    | (false, world) =>
      match medium.writeArchive store name staging now world with
      | (.error error, world) => (.error error, world)
      | (.ok (size, digest), world) => (.ok (count, size, digest), world)

/-- The run up to the result, without counters. -/
def backup (engine : Engine) (medium : Medium) (around : Surroundings σ)
    (discoverer : Discoverer σ) (lister : Lister σ) (destination : String) (options : BackupOptions)
    (world : World σ) : Except RunError BackupResult × World σ :=
  let (started, world) := world.ask around.now
  match engine.store destination with
  | .error error => (.error error, world)
  | .ok store =>
    let name := Archive.fileName started engine.format.extension
    match store.ensureAvailable world.volume name with
    | .error error => (.error error, world)
    | .ok () =>
      match world.ask around.cancelled with
      | (true, world) => (.error .cancelled, world)
      | (false, world) =>
        match world.onVolume engine.makeStaging with
        | (.error error, world) => (.error error, world)
        | (.ok staging, world) =>
          let (packed, world) := captureAndPack medium around discoverer lister store name staging
            options started world
          let world := { world with volume := removeStaging world.volume staging }
          match packed with
          | .error error => (.error error, world)
          | .ok (count, size, digest) =>
            let (completed, world) := world.ask around.now
            (.ok ⟨count, name, store.pathOf name, size, digest, engine.format.algorithm, started,
              completed⟩, world)

def runBackupOn (engine : Engine) (medium : Medium) (around : Surroundings σ)
    (discoverer : Discoverer σ) (lister : Lister σ) (destination : String) (options : BackupOptions)
    (world : World σ) : Except RunError BackupResult × World σ :=
  match engine.backup medium around discoverer lister destination options world with
  | (.ok result, world) =>
    let m := world.metrics
    (.ok result, { world with metrics := { m with
      backups := m.backups + 1, durations := m.durations + 1,
      captured := m.captured + result.objectCount } })
  | (.error error, world) =>
    let m := world.metrics
    (.error error, { world with metrics := { m with backupFailures := m.backupFailures + 1 } }.warn
      "Backup failed" [("destination", destination), ("error", error.message)])

def runBackup (engine : Engine) (around : Surroundings σ) (discoverer : Discoverer σ)
    (lister : Lister σ) (destination : String) (options : BackupOptions) (world : World σ) :
    Except RunError BackupResult × World σ :=
  engine.runBackupOn engine.medium around discoverer lister destination options world

end ClusterArchive.Engine
