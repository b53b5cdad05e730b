import ClusterArchive.Engine.Runs
import ClusterArchive.Proofs.Engine.Aftermath
import ClusterArchive.Proofs.Engine.Exact
import ClusterArchive.Proofs.Volume.Entrance

/-! A backup run as a transaction. Whatever cluster, format and cancellation do, all that was on the
volume stays as it was. A run that fails leaves nothing new but directories on the ways it made; one
that succeeds leaves an archive besides. The staging directory is gone. -/

namespace ClusterArchive.Engine

open ClusterArchive.Path Volume

variable {σ : Type} {engine : Engine} {store : Store} {destination name staging : String}
  {now : Instant} {before base between after : Volume} {root location : Location}

variable {discoverer : Discoverer σ} {lister : Lister σ} {options : BackupOptions}

/-- The archive of a run is in the directory of its store, as the run reports it. -/
structure Archived (engine : Engine) (destination : String) (store : Store) (after : Volume)
    (result : BackupResult) (place : Location) : Prop where
  opens : engine.store destination = .ok store
  directory : after.find true store.directory = .ok (place, .directory)
  path : result.archivePath = store.pathOf result.archiveName
  file : ∃ bytes, after.node? (place ++ [result.archiveName]) =
    some (.file (.ofBytes bytes) result.startedAt) ∧ result.archiveSize = bytes.length ∧
      result.sha256 = sha256 bytes
  verified : result.verify after = .ok ()
  listed : ∃ infos, engine.listArchives after destination = .ok infos ∧
    infos.filter (fun info => info.name = result.archiveName) =
      [⟨result.archiveName, result.archivePath, result.archiveSize, result.startedAt⟩]

structure Transacts (engine : Engine) (destination : String) (before after : Volume)
    (outcome : Except RunError BackupResult) : Prop where
  keeps : Keeps before after
  cleared : ∀ staging made, engine.makeStaging before = (.ok staging, made) →
    ∃ root, made.find false staging = .ok (root, .directory) ∧
      ∀ steps, after.node? (root ++ steps) = none
  failed : ∀ error, outcome = .error error → ∀ location node, before.node? location = none →
    after.node? location = some node → node = .directory ∧ Makes engine destination after location
  archived : ∀ result, outcome = .ok result → ∃ store place,
    Archived engine destination store after result place ∧
    before.node? (place ++ [result.archiveName]) = none ∧
    ∀ location node, before.node? location = none → after.node? location = some node →
      location = place ++ [result.archiveName] ∨
        node = .directory ∧ Makes engine destination after location

/-! The archive when the staging directory is gone. -/

structure Reports (store : Store) (name : String) (now : Instant) (bytes : Bytes)
    (result : BackupResult) : Prop where
  archive : result.archiveName = name
  path : result.archivePath = store.pathOf name
  size : result.archiveSize = bytes.length
  digest : result.sha256 = sha256 bytes
  started : result.startedAt = now

theorem verify_of_file {volume : Volume} {result : BackupResult} {bytes : Bytes} {modified : Instant}
    (found : volume.find true result.archivePath = .ok (location, .file (.ofBytes bytes) modified))
    (digest : result.sha256 = sha256 bytes) : result.verify volume = .ok () := by
  have read : volume.read result.archivePath = .ok bytes := by
    simp only [Volume.read, Volume.openFile, found, bind, Except.bind]
    simp [Opened.read, Contents.toBytes, Contents.ofBytes]
  simp [BackupResult.verify, BackupResult.verifyIn, read, digest, bind, Except.bind, pure, Except.pure]

namespace Aftermath

variable (aftermath : Aftermath engine destination store staging root before base between)

include aftermath

/-- The archive is where the path of the store leads when the staging directory is gone, and it is
all that is new but directories. -/
theorem archived (nonempty : store.directory ≠ "") (checked : Store.checkName name = .ok ())
    (named : Archive.fileName now engine.format.extension = name) {bytes : Bytes}
    (puts : Puts store name now bytes between after) {result : BackupResult}
    (reports : Reports store name now bytes result) :
    ∃ place, Archived engine destination store (after.removeTree root) result place ∧
      before.node? (place ++ [result.archiveName]) = none ∧
      ∀ location node, before.node? location = none →
        (after.removeTree root).node? location = some node →
        location = place ++ [result.archiveName] ∨
          node = .directory ∧ Makes engine destination (after.removeTree root) location := by
  have ⟨isNamed, isPath, isSize, isDigest, isTime⟩ := reports
  have keeps := puts.keeps
  have below := aftermath.fresh.root_ne_nil
  obtain ⟨location, resolved, free, put⟩ := puts
  obtain ⟨step, up⟩ := Store.checkName_step checked
  obtain ⟨directory, rfl, short, leads⟩ := aftermath.between_wellFormed.leads step up resolved
  have cleared := aftermath.leads_removed leads
  have leadsNow := cleared.1.kept (keeps.removeTree below)
  have outside : ¬root <+: directory ++ [name] := by
    intro inside
    rcases List.prefix_concat_iff.mp inside with whole | higher
    · rw [← whole, aftermath.directory] at free
      cases free
    · exact cleared.2 higher
  have nodes (location : Location) : (after.removeTree root).node? location =
      if root <+: location then none
      else if directory ++ [name] = location then some (.file (.ofBytes bytes) now)
      else between.node? location := by
    rw [node?_removeTree _ below, put, node?_put between (by simp)]
  have file := nodes (directory ++ [name])
  rw [if_neg outside, if_pos rfl] at file
  have member := (resolve_ok resolved).1
  have found := leadsNow.find (member.of_sublist (sublist_join _ step.isAbsolute)) nonempty
  have opened := leadsNow.find_member step up short member file
  have ascending : Assoc.Ascending (after.removeTree root).nodes := by
    rw [put]
    exact (aftermath.between_wellFormed.ascending.insert _ _).filter _
  have archive : store.isArchiveName name = true := by
    rw [← named, ← (resolve_of_store aftermath.opens).2]
    exact store.isArchiveName_fileName now
  refine ⟨directory, ⟨aftermath.opens, found, by rw [isPath, isNamed], ⟨bytes, ?_, isSize, isDigest⟩,
    ?_, ?_⟩, ?_, ?_⟩
  · rw [isNamed, isTime, file]
  · exact verify_of_file (by rw [isPath]; exact opened) isDigest
  · obtain ⟨infos, listed, once⟩ := Store.list_once ascending found file archive
    refine ⟨infos, by simp [listArchives, aftermath.opens, listed, bind, Except.bind], ?_⟩
    rw [isNamed, once, isPath, isSize, isTime]
    rfl
  · rw [isNamed]
    exact aftermath.prepares.spreads.keeps.absent (aftermath.keeps.absent free)
  · intro location node absent there
    rw [isNamed]
    rw [nodes] at there
    split at there
    next => cases there
    next apart =>
      split at there
      next same => exact .inl same.symm
      next => exact .inr (aftermath.makes keeps apart absent there)

/-- A run that fails with a staging directory changes the volume as a transaction. -/
theorem transacts_error (error : RunError) :
    Transacts engine destination before (between.removeTree root) (.error error) where
  keeps := aftermath.keeps_before (.refl between)
  cleared := aftermath.cleared between
  failed := by
    intro _ _ location node free there
    rw [node?_removeTree _ aftermath.fresh.root_ne_nil] at there
    split at there
    next => cases there
    next outside => exact aftermath.makes (.refl between) outside free there
  archived := fun _ same => nomatch same

theorem transacts_ok (nonempty : store.directory ≠ "") (checked : Store.checkName name = .ok ())
    (named : Archive.fileName now engine.format.extension = name) {bytes : Bytes}
    (puts : Puts store name now bytes between after) {result : BackupResult}
    (reports : Reports store name now bytes result) :
    Transacts engine destination before (after.removeTree root) (.ok result) where
  keeps := aftermath.keeps_before puts.keeps
  cleared := aftermath.cleared after
  failed := fun _ same => nomatch same
  archived := by
    intro other same
    obtain rfl := Except.ok.inj same
    obtain ⟨place, archive⟩ := aftermath.archived nonempty checked named puts reports
    exact ⟨store, place, archive⟩

end Aftermath

/-! The run. -/

/-- A run that ends before it makes a staging directory changes nothing. -/
theorem Transacts.unchanged (wellFormed : before.WellFormed) (error : RunError) :
    Transacts engine destination before before (.error error) where
  keeps := .refl before
  cleared := by
    intro staging made staged
    obtain ⟨base, root, _, _, prepares, fresh, _, _, _, found, _⟩ := makeStaging_ok wellFormed staged
    exact ⟨root, found, fun steps => prepares.spreads.keeps.absent (fresh.vacant steps)⟩
  failed := by
    intro _ _ location node free found
    rw [free] at found
    cases found
  archived := fun _ same => nomatch same

/-- A run whose staging directory cannot be made leaves directories on the way to its parent. -/
theorem Transacts.unstaged (wellFormed : before.WellFormed) {error : RunError}
    (refused : engine.makeStaging before = (.error error, after)) :
    Transacts engine destination before after (.error error) where
  keeps := (makeStaging_error refused).spreads.keeps
  cleared := by
    intro staging made staged
    simp [refused] at staged
  failed := by
    intro _ _ location node free found
    obtain ⟨rfl, parent, config, way⟩ := (makeStaging_error refused).new wellFormed free found
    exact ⟨rfl, .inr ⟨parent, config, way⟩⟩
  archived := fun _ same => nomatch same

/-- A valid host root makes every destination a directory with a path. -/
theorem resolve_ne_empty (valid : engine.config.validate = .ok ()) {directory : String}
    (resolved : engine.resolve destination = .ok directory) : directory ≠ "" := by
  have root : engine.config.hostRoot ≠ "" := by
    intro empty
    simp [Config.validate, empty, isAbsolute] at valid
  cases parsed : Destination.parse destination with
  | error error => simp [Engine.resolve, parsed, bind, Except.bind] at resolved
  | ok target =>
    simp only [Engine.resolve, parsed, bind, Except.bind, pure, Except.pure, Except.ok.injEq]
      at resolved
    subst resolved
    rcases target with path | path
    · simp only [Destination.parse] at parsed
      split at parsed
      next => cases parsed
      next filled =>
        split at parsed
        next => cases parsed
        next =>
          split at parsed
          next => cases parsed
          next =>
            obtain rfl : Text.trim destination = path := by simpa using parsed
            exact filled
    · simp only [Destination.resolve, sandboxPath]
      split
      next => exact root
      next => exact join_ne_empty root _

/-- A run up to its result changes the volume as a transaction. -/
theorem backup_transacts (valid : engine.config.validate = .ok ()) (medium : Medium)
    {around : Surroundings σ} {world : World σ} (segmented : ∀ entry,
      Captures around discoverer lister options world.outside entry → entry.Segmented)
    (wellFormed : world.volume.WellFormed)
    (undisclosed : Undisclosed engine destination world.volume) :
    let run := engine.backup medium around discoverer lister destination options world
    Transacts engine destination world.volume run.2.volume run.1 := by
  intro run
  have course := backup_course engine medium around discoverer lister destination options world
  change Course engine medium around discoverer lister destination options _ world run.1
    run.2.volume at course
  generalize (around.now world.outside).1 = started at course
  generalize run.1 = outcome at course
  generalize run.2.volume = final at course
  cases course with
  | misdirected | taken | cancelled => exact .unchanged wellFormed _
  | unstaged opens available refused => exact .unstaged wellFormed refused
  | @ended store staging ready last _ completed opens available staged arises packed =>
    obtain ⟨base, root, _, fresh, stagedNow, made, leaves⟩ :=
      undisclosed.aftermath wellFormed opens staged
    have checked := Store.checkName_of_available available
    obtain ⟨volume, between, stagedLast, wellFormedLast, paves, ends⟩ :=
      captureAndPack_cases segmented fresh arises stagedNow made started medium store checked
    have aftermath := leaves volume between stagedLast wellFormedLast paves
    rw [packed] at ends
    generalize archive : Archive.fileName started engine.format.extension = name at *
    rcases ends with ⟨⟨error, rfl⟩, rfl⟩ | ⟨count, bytes, rfl, puts⟩
    · rw [aftermath.removed (.refl _)]
      exact aftermath.transacts_error error
    · rw [aftermath.removed puts.keeps]
      have nonempty := resolve_ne_empty valid (resolve_of_store opens).1
      have reports : Reports store name started bytes ⟨count, name, store.pathOf name, bytes.length,
          sha256 bytes, engine.format.algorithm, started, completed⟩ := ⟨rfl, rfl, rfl, rfl, rfl⟩
      exact aftermath.transacts_ok nonempty checked archive puts reports

/-! What is new in the destination itself. -/

theorem Transacts.new {outcome : Except RunError BackupResult}
    (transacts : Transacts engine destination before after outcome) {node : Node}
    (free : before.node? location = none) (found : after.node? location = some node) :
    (∃ result place contents modified, outcome = .ok result ∧
      location = place ++ [result.archiveName] ∧ node = .file contents modified) ∨
    node = .directory ∧ Makes engine destination after location := by
  cases outcome with
  | error error => exact .inr (transacts.failed error rfl location node free found)
  | ok result =>
    obtain ⟨store, place, archived, _, only⟩ := transacts.archived result rfl
    rcases only location node free found with rfl | made
    · obtain ⟨bytes, file, _⟩ := archived.file
      rw [file] at found
      exact .inl ⟨result, place, _, _, rfl, rfl, (Option.some.inj found).symm⟩
    · exact .inr made

theorem Transacts.link {outcome : Except RunError BackupResult}
    (transacts : Transacts engine destination before after outcome) {target : String}
    (link : after.node? location = some (.symlink target)) :
    before.node? location = some (.symlink target) := by
  cases was : before.node? location with
  | some node => rw [← link, transacts.keeps.nodes _ _ was]
  | none =>
    rcases transacts.new was link with ⟨_, _, _, _, _, _, file⟩ | made
    · cases file
    · cases made.1

/-- What a run makes of a destination: an entry that is new there is the archive. -/
def Enters (engine : Engine) (destination : String) (before after : Volume)
    (outcome : Except RunError BackupResult) : Prop :=
  ∀ directory place name, engine.resolve destination = .ok directory →
    ".." ∉ components directory → after.find true directory = .ok (place, .directory) →
    (∀ parent, engine.config.stagingDirectory = some parent → ¬OnWay after parent (place ++ [name])) →
    before.node? (place ++ [name]) = none → (after.node? (place ++ [name])).isSome →
    ∃ result, outcome = .ok result ∧ name = result.archiveName

theorem Transacts.enters (wellFormed : before.WellFormed) {outcome : Except RunError BackupResult}
    (transacts : Transacts engine destination before after outcome) :
    Enters engine destination before after outcome := by
  intro directory place name resolved up leads apart free there
  obtain ⟨node, found⟩ := Option.isSome_iff_exists.mp there
  rcases transacts.new free found with ⟨result, other, _, _, ended, same, _⟩ | ⟨_, makes⟩
  · exact ⟨result, ended, (List.cons.inj (List.append_inj' same rfl).2).1⟩
  · have linkFree : after.LinkFree (place ++ [name]) := by
      intro steps target link
      have was := transacts.link link
      rw [wellFormed.vacant free steps] at was
      cases was
    rcases makes with ⟨same, resolvedSame, way⟩ | ⟨parent, config, way⟩
    · obtain rfl := Except.ok.inj (resolved.symm.trans resolvedSame)
      exact absurd (way.above up linkFree leads).length_le (by simp)
    · exact absurd way (apart parent config)

/-- Whatever cluster, format, disk and cancellation do, a run is a transaction. It keeps all that was
there and leaves nothing new but an archive, if it succeeds, and directories on the ways that it made.
A destination whose path does not go up has no other new entry than the archive. -/
theorem runBackup_transaction (valid : engine.config.validate = .ok ()) (medium : Medium)
    {around : Surroundings σ} {world : World σ} (segmented : ∀ entry,
      Captures around discoverer lister options world.outside entry → entry.Segmented)
    (wellFormed : world.volume.WellFormed)
    (undisclosed : Undisclosed engine destination world.volume) :
    let run := engine.runBackupOn medium around discoverer lister destination options world
    Transacts engine destination world.volume run.2.volume run.1 ∧
      Enters engine destination world.volume run.2.volume run.1 := by
  have transacts := backup_transacts valid medium segmented wellFormed undisclosed
  unfold runBackupOn
  generalize engine.backup medium around discoverer lister destination options world = ended at transacts
  obtain ⟨outcome, after⟩ := ended
  cases outcome <;> exact ⟨transacts, transacts.enters wellFormed⟩

/-! A cluster that shows one object, whenever it is asked. -/

def steady : Surroundings Unit := ⟨fun s => (false, s), fun s => (⟨0, 0⟩, s)⟩

def oneResource : Resource := ⟨⟨"", "v1", "configmaps"⟩, "ConfigMap", true, ["list"]⟩

def oneDiscoverer : Discoverer Unit := ⟨fun s => (.ok ⟨[oneResource], []⟩, s)⟩

def oneLister : Lister Unit :=
  ⟨fun _ _ s => (.ok [[("metadata", .object [("name", .string "settings")])]], s)⟩

def webOnly : BackupOptions := ⟨["web"], [], true, []⟩

theorem captures_one {entry : Entry}
    (captures : Captures steady oneDiscoverer oneLister webOnly () entry) :
    entry = ⟨⟨"", "v1", "configmaps"⟩, some "web", "settings"⟩ := by
  obtain ⟨resource, ⟨_, report, _, told, selected⟩, isType, visits, _, objects, _, listed, object,
    member, named⟩ := captures
  obtain rfl := Except.ok.inj told
  obtain rfl := Except.ok.inj listed
  have isOne : resource = oneResource := List.mem_singleton.mp (List.mem_filter.mp selected).1
  obtain rfl := List.mem_singleton.mp member
  obtain ⟨type, ns, name⟩ := entry
  obtain rfl : "settings" = name := Option.some.inj named
  subst isOne isType
  cases ns with
  | none => exact absurd visits.1 (by decide)
  | some ns =>
    obtain ⟨_, names, ⟨_, _, found⟩, inside⟩ := visits
    have known : (NamespaceResolver.make webOnly.includeNamespaces webOnly.excludeNamespaces).included =
        ["web"] := by decide
    simp only [NamespaceResolver.find, known] at found
    obtain rfl := Except.ok.inj found
    obtain rfl := List.mem_singleton.mp inside
    rfl

def bareWorld : World Unit := ⟨bareVolume, [], default, ()⟩

theorem undisclosed_tmp : Undisclosed plainEngine "/tmp" bareVolume := by
  intro directory resolved staging made staged hidden named
  obtain rfl : "/tmp" = directory :=
    Except.ok.inj (show plainEngine.resolve "/tmp" = .ok directory from resolved)
  obtain ⟨same, rfl⟩ := Prod.mk.inj (hosts_bareVolume.staged.symm.trans staged)
  obtain rfl := Except.ok.inj same
  have isName : (components "/tmp/clusterbackup-0").getLast? = some "clusterbackup-0" := by decide
  rw [isName] at named
  obtain rfl := Option.some.inj named
  refine ⟨by decide, fun location target link => ?_⟩
  rw [bareVolume_node] at link
  split at link <;> cases link

/-- A disk that is interrupted, takes part of what it is offered, and then is full. -/
def fullDisk : Disk :=
  ⟨[.interrupts, .takes 100, .fails "No space left on device (os error 28)"], none⟩

theorem runBackup_transaction_one :
    let medium : Medium := { plainEngine.medium with disk := fullDisk }
    let run := plainEngine.runBackupOn medium steady oneDiscoverer oneLister "/tmp" webOnly bareWorld
    Transacts plainEngine "/tmp" bareWorld.volume run.2.volume run.1 ∧
      Enters plainEngine "/tmp" bareWorld.volume run.2.volume run.1 := by
  have valid : plainEngine.config.validate = .ok () := rfl
  refine runBackup_transaction valid _ ?_ hosts_bareVolume.wellFormed undisclosed_tmp
  intro entry captures
  have valid : (⟨⟨"", "v1", "configmaps"⟩, some "web", "settings"⟩ : Entry).IsValid := by decide
  rw [captures_one captures]
  exact valid.segmented

/-! A run that fails to pack, where the way to its destination goes through a directory that is not
there and up again. That directory is made, in the destination itself, and stays. -/

def noDiscoverer : Discoverer Unit := ⟨fun s => (.ok ⟨[], []⟩, s)⟩

def failingEngine : Engine :=
  ⟨.standard, { ArchiveFormat.tarGzip with
    pack := fun _ _ => ⟨Bytes.ofText "partial", some (.archive "injected pack failure")⟩ }⟩

def openVolume : Volume := ⟨[(["d"], .directory), (["tmp"], .directory)], []⟩

def openWorld : World Unit := ⟨openVolume, [], default, ()⟩

def stagedOpen : Volume := openVolume.put ["tmp", "clusterbackup-0"] .directory

def detoured : Volume := stagedOpen.put ["d", "sub"] .directory

theorem openVolume_node (location : Location) : openVolume.node? location =
    if location = [] ∨ location = ["d"] ∨ location = ["tmp"] then some .directory else none := by
  unfold node? openVolume
  by_cases top : location = [] <;> by_cases d : location = ["d"] <;>
    by_cases tmp : location = ["tmp"] <;> simp [top, d, tmp, Assoc.get?, eq_comm]

theorem stagedOpen_node (location : Location) : stagedOpen.node? location =
    if location = ["tmp", "clusterbackup-0"] then some .directory else openVolume.node? location := by
  rw [stagedOpen, node?_put openVolume (by simp)]
  simp [eq_comm]

theorem detoured_node (location : Location) : detoured.node? location =
    if location = ["d", "sub"] then some .directory else stagedOpen.node? location := by
  rw [detoured, node?_put stagedOpen (by simp)]
  simp [eq_comm]

theorem makeStaging_open :
    failingEngine.makeStaging openVolume = (.ok "/tmp/clusterbackup-0", stagedOpen) := by
  refine makeStaging_tmp rfl (fun location target => ?_) ?_ (by simp [openVolume_node])
  · rw [openVolume_node]
    split <;> simp
  · rw [directories_cons]
    exact ⟨rfl, directories_nil _ _⟩

theorem short_firstName :
    ¬nameLimit < ("cluster-backup-19700101-000000.tar.gz").utf8ByteSize := by decide

theorem makeDirectories_open : stagedOpen.makeDirectories "/d/sub/.." = (.ok (), detoured) :=
  makeDirectories_detour (by simp [stagedOpen_node, openVolume_node])
    (by simp [stagedOpen_node, openVolume_node])

theorem archive_detour (volume : Volume) : volume.resolve false (Path.join "/d/sub/.." firstName) =
    volume.walk false linkLimit [] ["d", "sub", "..", "cluster-backup-19700101-000000.tar.gz"] := by
  have steps : walk.steps (Path.join "/d/sub/.." "cluster-backup-19700101-000000.tar.gz") =
      ["d", "sub", "..", "cluster-backup-19700101-000000.tar.gz"] := by decide
  have absolute : isAbsolute (Path.join "/d/sub/.." "cluster-backup-19700101-000000.tar.gz") = true := by
    decide
  rw [firstName_eq, resolve_of_accepts (by decide) (by decide), steps, absolute]
  rfl

theorem checkName_firstName : Store.checkName firstName = .ok () := by
  rw [firstName_eq]
  rfl

theorem available_detour :
    Store.ensureAvailable ⟨"/d/sub/..", "tar.gz"⟩ openVolume firstName = .ok () := by
  obtain ⟨short, shortSub⟩ := short_detour
  have absent : openVolume.find false (Path.join "/d/sub/.." firstName) = .error .notFound := by
    rw [Volume.find, archive_detour]
    simp [walk, openVolume_node, short, shortSub, bind, Except.bind]
  simp [Store.ensureAvailable, checkName_firstName, Store.pathOf, absent, bind, Except.bind]

theorem create_detour : Store.create ⟨"/d/sub/..", "tar.gz"⟩ stagedOpen firstName ⟨0, 0⟩ =
    (.ok ["d", "cluster-backup-19700101-000000.tar.gz"],
      detoured.put ["d", "cluster-backup-19700101-000000.tar.gz"] (.file (.ofBytes []) ⟨0, 0⟩)) := by
  obtain ⟨short, shortSub⟩ := short_detour
  have leads : detoured.resolve false (Path.join "/d/sub/.." firstName) =
      .ok ["d", "cluster-backup-19700101-000000.tar.gz"] := by
    rw [archive_detour]
    simp [walk, detoured_node, stagedOpen_node, openVolume_node, short, shortSub, short_firstName]
  simp [Store.create, checkName_firstName, Store.ensureDirectory, makeDirectories_open, Store.pathOf,
    Except.mapError, createFile, leads, detoured_node, stagedOpen_node, openVolume_node, bind, Except.bind]

theorem writeArchive_detour {world : World Unit} (here : world.volume = stagedOpen) :
    failingEngine.medium.writeArchive ⟨"/d/sub/..", "tar.gz"⟩ firstName "/tmp/clusterbackup-0" ⟨0, 0⟩
      world = (.error (.archive "injected pack failure"), { world with volume := detoured }) := by
  have free : detoured.node? ["d", "cluster-backup-19700101-000000.tar.gz"] = none := by
    simp [detoured_node, stagedOpen_node, openVolume_node]
  refine writeArchive_unpacked failingEngine.medium checkName_firstName free (here ▸ create_detour) ?_
  rw [failingEngine.packInto_medium]
  rfl

theorem removeStaging_detour :
    removeStaging detoured "/tmp/clusterbackup-0" = detoured.removeTree ["tmp", "clusterbackup-0"] := by
  have linkFree : detoured.LinkFree [] := by
    intro location target
    rw [detoured_node, stagedOpen_node, openVolume_node]
    split_ifs <;> simp
  have tmp : detoured.Directories [] ["tmp"] := by
    rw [directories_cons]
    exact ⟨by simp [detoured_node, stagedOpen_node, openVolume_node], directories_nil _ _⟩
  have found : detoured.find false "/tmp/clusterbackup-0" =
      .ok (["tmp", "clusterbackup-0"], .directory) := by
    rw [isPlain_staging.find linkFree tmp, detoured_node, stagedOpen_node]
    simp
  simp only [removeStaging, found]

theorem captureAndPack_detour : captureAndPack failingEngine.medium steady noDiscoverer oneLister
    ⟨"/d/sub/..", "tar.gz"⟩ firstName "/tmp/clusterbackup-0" webOnly ⟨0, 0⟩
    ⟨stagedOpen, [], default, ()⟩ =
      (.error (.archive "injected pack failure"), ⟨detoured, [], default, ()⟩) := by
  have captured : capture steady noDiscoverer oneLister "/tmp/clusterbackup-0" ⟨0, 0⟩ webOnly
      ⟨stagedOpen, [], default, ()⟩ = (.ok 0, ⟨stagedOpen, [], default, ()⟩) := rfl
  have asked (world : World Unit) : world.ask steady.cancelled = (false, world) := rfl
  simp only [captureAndPack, captured, asked, writeArchive_detour]

theorem backup_detour :
    failingEngine.backup failingEngine.medium steady noDiscoverer oneLister "/d/sub/.." webOnly openWorld =
      (.error (.archive "injected pack failure"),
        ⟨detoured.removeTree ["tmp", "clusterbackup-0"], [], default, ()⟩) := by
  have opens : failingEngine.store "/d/sub/.." = .ok ⟨"/d/sub/..", "tar.gz"⟩ := rfl
  have named : Archive.fileName ⟨0, 0⟩ failingEngine.format.extension = firstName := rfl
  have cancelled (world : World Unit) : world.ask steady.cancelled = (false, world) := rfl
  have time (world : World Unit) : world.ask steady.now = (⟨0, 0⟩, world) := rfl
  simp only [backup, time, cancelled, opens, named, openWorld, available_detour, World.onVolume,
    makeStaging_open, captureAndPack_detour, removeStaging_detour]

/-- A run that fails may leave a new directory in the destination. -/
theorem runBackup_transaction_detour :
    let run := failingEngine.runBackup steady noDiscoverer oneLister "/d/sub/.." webOnly openWorld
    (∃ error, run.1 = .error error) ∧ failingEngine.resolve "/d/sub/.." = .ok "/d/sub/.." ∧
      openWorld.volume.node? ["d"] = some .directory ∧
      run.2.volume.find true "/d/sub/.." = .ok (["d"], .directory) ∧
      openWorld.volume.node? ["d", "sub"] = none ∧
      run.2.volume.node? ["d", "sub"] = some .directory := by
  intro run
  have last : run.2.volume = detoured.removeTree ["tmp", "clusterbackup-0"] := by
    simp only [run, runBackup, runBackupOn, backup_detour]
    rfl
  have nodes (location : Location) : run.2.volume.node? location =
      if ["tmp", "clusterbackup-0"] <+: location then none else detoured.node? location := by
    rw [last, node?_removeTree _ (by simp)]
  have failed : run.1 = .error (.archive "injected pack failure") := by
    simp only [run, runBackup, runBackupOn, backup_detour]
  refine ⟨⟨_, failed⟩, rfl, ?_, ?_, ?_, ?_⟩
  · simp [openWorld, openVolume_node]
  · exact find_detour (by simp [nodes, detoured_node, stagedOpen_node, openVolume_node])
      (by simp [nodes, detoured_node, List.cons_prefix_cons]) true
  · simp [openWorld, openVolume_node]
  · simp [nodes, detoured_node, List.cons_prefix_cons]

end ClusterArchive.Engine
