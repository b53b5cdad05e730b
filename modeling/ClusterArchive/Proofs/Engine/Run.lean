import ClusterArchive.Proofs.Engine.Archive
import ClusterArchive.Proofs.Engine.Capture

/-! Backup runs as a whole, from the staging directory to the archive. -/

namespace ClusterArchive.Engine

open Volume MemoryCluster TarGzip

variable {engine : Engine} {store : Store} {name staging : String} {now : Instant}
  {root : Location} {volume made : Volume}

/-- A volume that takes the staging directory and the archive of a run. -/
structure Hosts (engine : Engine) (store : Store) (name : String) (now : Instant) (volume : Volume)
    (staging : String) (root : Location) (made : Volume) : Prop where
  wellFormed : volume.WellFormed
  available : store.ensureAvailable volume name = .ok ()
  staged : engine.makeStaging volume = (.ok staging, made)
  found : made.find false staging = .ok (root, .directory)
  slash : Accepts (Path.join staging "")
  taken : TakesArchive store name now root made

/-- What may be made before the staging directory: its parent, if there is one to make. -/
def Prepares (engine : Engine) (before base : Volume) : Prop :=
  base = before ∨ ∃ parent, engine.config.stagingDirectory = some parent ∧ Paves parent before base

theorem Prepares.spreads {base : Volume} (prepares : Prepares engine volume base) :
    Spreads volume base := by
  rcases prepares with rfl | ⟨parent, _, paves⟩
  · exact .refl base
  · exact paves.spreads

theorem Prepares.new {base : Volume} (prepares : Prepares engine volume base)
    (wellFormed : volume.WellFormed) {location : Location} {node : Node}
    (free : volume.node? location = none) (found : base.node? location = some node) :
    node = .directory ∧ ∃ parent, engine.config.stagingDirectory = some parent ∧
      OnWay base parent location := by
  rcases prepares with rfl | ⟨parent, config, paves⟩
  · rw [free] at found
    cases found
  · rcases paves.spreads.nodes location with same | ⟨_, made⟩
    · rw [same, free] at found
      cases found
    · obtain rfl := Option.some.inj (found.symm.trans made)
      exact ⟨rfl, parent, config, paves.way wellFormed location free made⟩

theorem stagingName_eq (volume : Volume) (parent : String) :
    ∃ n : Nat, stagingName volume parent = "clusterbackup-" ++ toString n := ⟨_, rfl⟩

theorem isStep_staging (n : Nat) : Path.IsStep ("clusterbackup-" ++ toString n) := by
  refine ⟨by simp, fun point => ?_, fun slash => ?_⟩
  · have chars := congrArg (·.toList.head?) point
    simp at chars
  · rw [String.toList_append, List.mem_append] at slash
    rcases slash with inPrefix | digit
    · exact absurd inPrefix (by decide)
    · rw [Nat.toString_eq_repr, Nat.repr_eq_ofList_toDigits, String.toList_ofList] at digit
      exact absurd (Nat.isDigit_of_mem_toDigits (by decide) (by decide) digit) (by decide)

theorem fileName_ne_staging (started : Instant) (extension : String) (n : Nat) :
    Archive.fileName started extension ≠ "clusterbackup-" ++ toString n := by
  intro same
  have chars := congrArg (·.toList[7]?) same
  simp [Archive.fileName, Archive.namePrefix] at chars

/-- The staging directory is made where nothing is, once its parent is there. -/
theorem makeStaging_cases (engine : Engine) (volume : Volume) : ∃ base, Prepares engine volume base ∧
    ((∃ error, engine.makeStaging volume = (.error error, base)) ∨
      ∃ parent, ∃ n : Nat, ∃ made,
        let staging := Path.join parent ("clusterbackup-" ++ toString n)
        engine.makeStaging volume = (.ok staging, made) ∧ base.makeDirectory staging = .ok made) := by
  have staged (parent : String) (base : Volume)
      (failed : ∀ error,
        base.makeDirectory (Path.join parent (stagingName base parent)) = .error error →
        ∃ problem, engine.makeStaging volume = (.error problem, base))
      (succeeded : ∀ made,
        base.makeDirectory (Path.join parent (stagingName base parent)) = .ok made →
        engine.makeStaging volume = (.ok (Path.join parent (stagingName base parent)), made)) :
      (∃ error, engine.makeStaging volume = (.error error, base)) ∨ ∃ other, ∃ n : Nat, ∃ made,
        let staging := Path.join other ("clusterbackup-" ++ toString n)
        engine.makeStaging volume = (.ok staging, made) ∧ base.makeDirectory staging = .ok made := by
    obtain ⟨n, named⟩ := stagingName_eq base parent
    rw [named] at failed succeeded
    cases tried : base.makeDirectory (Path.join parent ("clusterbackup-" ++ toString n)) with
    | error error => exact .inl (failed error tried)
    | ok made => exact .inr ⟨parent, n, made, succeeded made tried, tried⟩
  cases config : engine.config.stagingDirectory with
  | none =>
    refine ⟨volume, .inl rfl, staged temporaryDirectory volume ?_ ?_⟩
    · intro error tried
      exact ⟨_, by simp only [makeStaging, config, tried]; rfl⟩
    · intro made tried
      simp only [makeStaging, config, tried]
  | some parent =>
    have paves := makeDirectories_paves volume parent
    cases ended : volume.makeDirectories parent with
    | mk outcome base =>
      rw [ended] at paves
      refine ⟨base, .inr ⟨parent, config, paves⟩, ?_⟩
      cases outcome with
      | error error => exact .inl ⟨_, by simp only [makeStaging, config, ended]; rfl⟩
      | ok =>
        refine staged parent base ?_ ?_
        · intro error tried
          exact ⟨_, by simp only [makeStaging, config, ended, tried]; rfl⟩
        · intro made tried
          simp only [makeStaging, config, ended, tried]

theorem holds_nil {base : Volume} (wellFormed : base.WellFormed) (fresh : IsFresh base staging root)
    (body : Entry → Bytes) : Holds base root body [] (base.put root .directory) := by
  have below := fresh.root_ne_nil
  have inside (steps : List String) : (base.put root .directory).node? (root ++ steps) =
      if steps = [] then some .directory else none := by
    rw [node?_put base below, fresh.vacant steps]
    simp
  refine ⟨⟨fun location apart => ?_, rfl, ?_, fun steps target => ?_, ?_⟩, by simp, by simp, ?_, ?_, ?_⟩
  · rw [node?_put base below, if_neg]
    rintro rfl
    exact apart (List.prefix_refl root)
  · simpa using inside []
  · rw [inside]
    split <;> simp
  · exact wellFormed.ascending.insert _ _
  · intro steps contents modified found
    rw [inside] at found
    split at found <;> simp at found
  · intro steps some_ found
    simp [inside, some_] at found
  · intro steps node found
    rw [inside] at found
    split at found
    next empty => simp [empty, NulFree]
    next => cases found

theorem Hosts.start (hosts : Hosts engine store name now volume staging root made)
    (body : Entry → Bytes) : ∃ base, IsFresh base staging root ∧ Holds base root body [] made ∧
      ∀ later, Staged base root later → Staged made root later := by
  obtain ⟨base, prepares, ⟨error, failed⟩ | ⟨parent, n, now, tried, success⟩⟩ :=
    makeStaging_cases engine volume
  next => simp [hosts.staged] at failed
  obtain ⟨same, rfl⟩ := Prod.mk.inj (hosts.staged.symm.trans tried)
  obtain rfl := Except.ok.inj same
  have wellFormed := prepares.spreads.wellFormed hosts.wellFormed
  obtain ⟨place, fresh, rfl⟩ := wellFormed.makeDirectory_fresh success
  have holds := holds_nil wellFormed fresh body
  have there := find_staging (holds.staged.keeps fresh) fresh holds.staged.directory rfl rfl
    (accepts_staging hosts.slash) false
  obtain rfl : place = root := (Prod.mk.inj (Except.ok.inj (there.symm.trans hosts.found))).1
  refine ⟨base, fresh, holds, fun later staged => ?_⟩
  exact { staged with
    outside := fun location apart => by
      rw [staged.outside location apart, holds.staged.outside location apart]
    workingDirectory := staged.workingDirectory.trans holds.staged.workingDirectory.symm }

variable {τ : Type} {clock : τ → Instant × τ} {cluster : MemoryCluster} {options : BackupOptions}

/-- What a run leaves: an archive with the files of some entries. -/
structure Leaves (cluster : MemoryCluster) (store : Store) (name : String) (written : List Entry)
    (members : List (String × Tar.Content)) (result : BackupResult) (volume : Volume) : Prop where
  count : result.objectCount = written.length
  archiveName : result.archiveName = name
  path : result.archivePath = store.pathOf name
  size : result.archiveSize = (writeMembers members).length
  packed : Packed cluster.body written members
  opened : volume.openFile (store.pathOf name) = .ok (.file (.ofBytes (writeMembers members)))

theorem writeArchive_ok {base : Volume} {written : List Entry} {body : Entry → Bytes}
    (format : engine.format.IsTarGzip) (fresh : IsFresh base staging root)
    (slash : Accepts (Path.join staging "")) (taken : TakesArchive store name now root made)
    {σ : Type} {world : World σ} (holds : Holds base root body written world.volume)
    (later : Staged made root world.volume) : ∃ members digest final,
      engine.medium.writeArchive store name staging now world =
        (.ok ((writeMembers members).length, digest), { world with volume := final }) ∧
      Packed body written members ∧
      (removeStaging final staging).openFile (store.pathOf name) =
        .ok (.file (.ofBytes (writeMembers members))) := by
  obtain ⟨location, after, created, apart, openable⟩ := taken world.volume later
  have archive := create_beside holds.staged fresh slash created openable
  obtain ⟨members, same, packing⟩ := format.pack after staging root archive.packable
  have packed := (holds.packed archive.ascending apart).perm same
  refine ⟨members, sha256 (writeMembers members),
    after.put location (.file (.ofBytes (writeMembers members)) now), ?_, packed, ?_⟩
  · have held := engine.packInto_medium after staging
    simp only [packing] at held
    have written := writeArchive_created engine.medium created staging
    simp only [held] at written
    exact written
  · rw [archive.removed]
    exact archive.opened _

/-- A run at a place that hosts it comes to what is captured and packed there. -/
theorem Hosts.backup {medium : Medium} {destination : String} (opens : engine.store destination = .ok store)
    {world : World (MemoryCluster × τ)} (time : (clock world.outside.2).1 = now)
    (named : Archive.fileName now engine.format.extension = name)
    (hosts : Hosts engine store name now world.volume staging root made)
    {packed : Except RunError (Nat × Nat × String)} {after : World (MemoryCluster × τ)}
    (packing : captureAndPack medium (undisturbed clock) session.discoverer session.lister store name
      staging options now { world with
        volume := made, outside := (world.outside.1, (clock world.outside.2).2) } = (packed, after)) :
    engine.backup medium (undisturbed clock) session.discoverer session.lister destination options
      world = match packed with
      | .error error => (.error error, { after with volume := removeStaging after.volume staging })
      | .ok (count, size, digest) =>
        (.ok ⟨count, name, store.pathOf name, size, digest, engine.format.algorithm, now,
            (clock after.outside.2).1⟩,
          { after with
            volume := removeStaging after.volume staging
            outside := (after.outside.1, (clock after.outside.2).2) }) := by
  simp only [Engine.backup, World.ask, undisturbed, opens, time, named, hosts.available,
    World.onVolume, hosts.staged]
  simp only [undisturbed] at packing
  simp only [packing]
  cases packed <;> rfl

/-- A run that knows its namespaces, or needs none, leaves the archive of what it wrote. -/
theorem backup_ok (sound : cluster.Sound) (inScope : cluster.Scoped)
    (format : engine.format.IsTarGzip) {destination : String}
    (opens : engine.store destination = .ok store) {names : List String}
    (looked : ∀ resource ∈ cluster.selected options, resource.namespaced = true →
      cluster.lookedInto options = .ok names)
    (valid : ∀ key, cluster.Eligible options key → key.entry.IsValid)
    {world : World (MemoryCluster × τ)} (here : world.outside.1 = cluster)
    (time : (clock world.outside.2).1 = now)
    (named : Archive.fileName now engine.format.extension = name)
    (hosts : Hosts engine store name now world.volume staging root made) :
    ∃ written members result after,
      engine.backup engine.medium (undisturbed clock) session.discoverer session.lister destination
        options world = (.ok result, after) ∧
      written.Sublist (cluster.plan options names) ∧
      (∀ kept : List Entry, kept.Sublist (cluster.plan options names) →
        (∀ entry ∈ kept, EntryFits staging entry) → kept.Sublist written) ∧
      Leaves cluster store name written members result after.volume ∧
      after.outside.1 = cluster := by
  obtain ⟨base, fresh, holds, later⟩ := hosts.start cluster.body
  let ready : World (MemoryCluster × τ) :=
    { world with volume := made, outside := (world.outside.1, (clock world.outside.2).2) }
  have hereReady : ready.outside.1 = cluster := here
  have holdsReady : Holds base root cluster.body [] ready.volume := holds
  obtain ⟨written, between, captured, progress⟩ := capture_progress sound inScope fresh clock looked
    valid hereReady holdsReady now
  obtain ⟨members, digest, final, archived, packed, opened⟩ := writeArchive_ok format fresh hosts.slash
    hosts.taken progress.holds (later _ progress.holds.staged)
  have packing : captureAndPack engine.medium (undisturbed clock) session.discoverer session.lister
      store name staging options now ready =
        (.ok (written.length, (writeMembers members).length, digest),
          { between with volume := final }) := by
    rw [captureAndPack, captured]
    simp only [World.ask, undisturbed]
    simp only [archived]
  refine ⟨written, members, _, _, hosts.backup opens time named packing, progress.fewer,
    progress.fitting, ⟨rfl, rfl, rfl, rfl, packed, opened⟩, ?_⟩
  simp only [progress.outside]
  exact here

/-- A run that needs namespaces and cannot know them fails. -/
theorem backup_failed (sound : cluster.Sound) (inScope : cluster.Scoped) {destination : String}
    (opens : engine.store destination = .ok store) {error : RunError}
    (failed : cluster.lookedInto options = .error error)
    (needed : ∃ resource ∈ cluster.selected options, resource.namespaced = true)
    (valid : ∀ key, cluster.Eligible options key → key.entry.IsValid)
    {world : World (MemoryCluster × τ)} (here : world.outside.1 = cluster)
    (time : (clock world.outside.2).1 = now)
    (named : Archive.fileName now engine.format.extension = name)
    (hosts : Hosts engine store name now world.volume staging root made) :
    ∃ after, engine.backup engine.medium (undisturbed clock) session.discoverer session.lister
      destination options world = (.error error, after) := by
  obtain ⟨base, fresh, holds, later⟩ := hosts.start cluster.body
  let ready : World (MemoryCluster × τ) :=
    { world with volume := made, outside := (world.outside.1, (clock world.outside.2).2) }
  have hereReady : ready.outside.1 = cluster := here
  have holdsReady : Holds base root cluster.body [] ready.volume := holds
  obtain ⟨after, ended⟩ := capture_failed sound inScope fresh clock failed needed valid hereReady
    holdsReady now
  have packing : captureAndPack engine.medium (undisturbed clock) session.discoverer session.lister
      store name staging options now ready = (.error error, after) := by
    rw [captureAndPack, ended]
  exact ⟨_, hosts.backup opens time named packing⟩

theorem runBackup_ok {engine : Engine} {destination : String} {σ : Type} {around : Surroundings σ}
    {discoverer : Discoverer σ} {lister : Lister σ} {world after : World σ} {result : BackupResult}
    (run : engine.backup engine.medium around discoverer lister destination options world =
      (.ok result, after)) :
    ∃ metrics, engine.runBackup around discoverer lister destination options world =
      (.ok result, { after with metrics := metrics }) := by
  simp only [runBackup, runBackupOn, run]
  exact ⟨_, rfl⟩

theorem runBackup_error {engine : Engine} {destination : String} {σ : Type}
    {around : Surroundings σ} {discoverer : Discoverer σ} {lister : Lister σ} {world after : World σ}
    {error : RunError}
    (run : engine.backup engine.medium around discoverer lister destination options world =
      (.error error, after)) :
    (engine.runBackup around discoverer lister destination options world).1 = .error error := by
  simp only [runBackup, runBackupOn, run]

end ClusterArchive.Engine
