import ClusterArchive.Proofs.Engine.Medium
import ClusterArchive.Proofs.Engine.Packing
import ClusterArchive.Proofs.Volume.Plain
import ClusterArchive.Proofs.Volume.Way

/-! Writing an archive: the staging directory is packed into a file beside it, which is what its path
leads to when the staging directory is gone. -/

namespace ClusterArchive

open Volume

namespace Store

/-- An archive is made where its path leads and nothing is, below directories made on the way. -/
theorem create_cases {store : Store} {volume after : Volume} {name : String} {now : Instant}
    {location : Location} (created : store.create volume name now = (.ok location, after)) :
    ∃ between, Paves store.directory volume between ∧
      between.resolve false (store.pathOf name) = .ok location ∧ between.node? location = none ∧
      after = between.put location (.file (.ofBytes []) now) := by
  unfold create at created
  split at created
  next => simp at created
  next =>
    have paves := makeDirectories_paves volume store.directory
    simp only [ensureDirectory] at created
    generalize volume.makeDirectories store.directory = result at created paves
    obtain ⟨outcome, between⟩ := result
    cases outcome with
    | error error => simp [Except.mapError] at created
    | ok =>
      simp only [Except.mapError] at created
      refine ⟨between, paves, ?_⟩
      cases resolved : between.resolve false (store.pathOf name) with
      | error error =>
        simp only [createFile, resolved, bind, Except.bind] at created
        cases error <;> simp at created
      | ok place =>
        simp only [createFile, resolved, bind, Except.bind] at created
        split at created
        next made =>
          split at made
          next => cases made
          next free =>
            obtain ⟨rfl, rfl⟩ := Prod.mk.inj (Except.ok.inj made)
            obtain ⟨same, rfl⟩ := Prod.mk.inj created
            obtain rfl := Except.ok.inj same
            exact ⟨rfl, by simpa using free, rfl⟩
        next => simp at created
        next => simp at created

/-- An archive is made where nothing was, and its path leads to it. -/
theorem create_made {store : Store} {volume after : Volume} {name : String} {now : Instant}
    {location : Location} (created : store.create volume name now = (.ok location, after)) :
    (∀ found, volume.find false (store.pathOf name) ≠ .ok found) ∧
      after.find false (store.pathOf name) = .ok (location, .file (.ofBytes []) now) := by
  obtain ⟨between, paves, resolved, free, rfl⟩ := create_cases created
  have keeps := paves.spreads.keeps
  have below : location ≠ [] := ne_nil_of_node? free (by simp)
  have made : (between.put location (.file (.ofBytes []) now)).node? location =
      some (.file (.ofBytes []) now) := by
    rw [node?_put between below, if_pos rfl]
  refine ⟨?_, ?_⟩
  · rintro ⟨place, node⟩ found
    obtain ⟨reached, there⟩ := find_eq_ok.mp found
    have again := resolve_kept keeps reached there
    obtain rfl := Except.ok.inj (again.symm.trans resolved)
    rw [keeps.nodes _ _ there] at free
    cases free
  · exact find_eq_ok.mpr ⟨resolve_made (keeps_put free _) resolved free made false, made⟩

/-- A creation that fails makes nothing but directories. -/
theorem create_failed {store : Store} {volume after : Volume} {name : String} {now : Instant}
    {error : RunError} (failed : store.create volume name now = (.error error, after)) :
    Paves store.directory volume after := by
  have paves := makeDirectories_paves volume store.directory
  unfold create ensureDirectory at failed
  generalize volume.makeDirectories store.directory = result at failed paves
  obtain ⟨outcome, between⟩ := result
  split at failed
  next =>
    obtain ⟨_, rfl⟩ := Prod.mk.inj failed
    exact .refl _ volume
  next =>
    cases outcome with
    | error problem =>
      obtain ⟨_, rfl⟩ := Prod.mk.inj failed
      exact paves
    | ok =>
      simp only [Except.mapError] at failed
      split at failed
      next => simp at failed
      next =>
        obtain ⟨_, rfl⟩ := Prod.mk.inj failed
        exact paves
      next =>
        obtain ⟨_, rfl⟩ := Prod.mk.inj failed
        exact paves

end Store

namespace Engine

theorem writeArchive_created {σ : Type} (medium : Medium) {store : Store} {name : String}
    {now : Instant} {world : World σ} {location : Location} {after : Volume}
    (created : store.create world.volume name now = (.ok location, after)) (staging : String) :
    let packing := medium.packInto after staging
    let final := after.put location (.file (.ofBytes packing.2) now)
    medium.writeArchive store name staging now world =
      match packing.1 with
      | .ok told => (.ok told, { world with volume := final })
      | .error failure =>
        match store.delete final name with
        | .ok (_, volume) => (.error failure, { world with volume := volume })
        | .error error =>
          (.error failure, { world with volume := final }.warn "Failed to remove partial archive"
            [("archive", name), ("error", error.message)]) := by
  intro packing final
  simp only [Medium.writeArchive, World.onVolume, created]
  rfl

/-- A volume takes an archive beside the staging directory, also when something was written there,
and the archive can be opened when that directory is gone. -/
def TakesArchive (store : Store) (name : String) (now : Instant) (root : Location) (made : Volume) :
    Prop :=
  ∀ volume, Staged made root volume → ∃ location after,
    store.create volume name now = (.ok location, after) ∧
    (∀ steps, after.node? (root ++ steps) = volume.node? (root ++ steps)) ∧
    ∀ contents, ∃ opened, ((after.put location (.file contents now)).removeTree root).openFile
      (store.pathOf name) = .ok opened

theorem openFile_ok {volume : Volume} {path : String} {opened : Opened}
    (success : volume.openFile path = .ok opened) : ∃ place node,
      volume.resolve true path = .ok place ∧ volume.node? place = some node := by
  unfold openFile Volume.find at success
  cases resolved : volume.resolve true path with
  | error error => simp [resolved, bind, Except.bind] at success
  | ok place =>
    cases found : volume.node? place with
    | none => simp [resolved, found, bind, Except.bind] at success
    | some node => exact ⟨place, node, rfl, found⟩

variable {old between : Volume} {staging : String} {root location : Location}

/-- With a file made anywhere, the staging directory is still found at its path. -/
theorem find_staging (keeps : Keeps old between) (fresh : IsFresh old staging root)
    (directory : between.node? root = some .directory) {path : String}
    (same : Path.isAbsolute path = Path.isAbsolute staging)
    (parts : Path.components path = Path.components staging) (accepts : Accepts path)
    (follow : Bool) : between.find follow path = .ok (root, .directory) := by
  rw [Volume.find, keeps.resolve_root fresh directory same parts accepts follow]
  simp [bind, Except.bind, directory]

theorem accepts_staging (slash : Accepts (Path.join staging "")) : Accepts staging :=
  slash.of_sublist (Path.sublist_join staging (show Path.isAbsolute "" = false by decide))

/-- When the staging directory is removed, the path of an archive that can still be opened leads to
what was written there. -/
theorem openFile_removed (somewhere : root ≠ []) {path : String}
    (resolved : between.resolve false path = .ok location) (free : between.node? location = none)
    (contents : Contents) (modified : Instant) {opened : Opened}
    (openable : ((between.put location (.file contents modified)).removeTree root).openFile path =
      .ok opened) :
    ((between.put location (.file contents modified)).removeTree root).openFile path =
      .ok (.file contents) := by
  have below : location ≠ [] := ne_nil_of_node? free (by simp)
  have made : (between.put location (.file contents modified)).node? location =
      some (.file contents modified) := by
    rw [node?_put between below, if_pos rfl]
  obtain ⟨place, node, reached, found⟩ := openFile_ok openable
  have keeps := keeps_removeTree (between.put location (.file contents modified)) somewhere
  have arrived := resolve_kept keeps reached found
  rw [resolve_made (keeps_put free _) resolved free made true] at arrived
  obtain rfl := Except.ok.inj arrived
  have kept := keeps.nodes _ _ found
  rw [made] at kept
  obtain rfl := Option.some.inj kept
  simp [openFile, Volume.find, reached, found, bind, Except.bind]

/-- What is known once an archive was made beside a staging directory. -/
structure Made (staging : String) (root location : Location) (path : String) (after : Volume)
    (now : Instant) : Prop where
  ascending : Assoc.Ascending after.nodes
  packable : after.find true (Path.join staging "") = .ok (root, .directory)
  removed : ∀ contents, let final := after.put location (.file contents now)
    removeStaging final staging = final.removeTree root
  opened : ∀ contents, let final := after.put location (.file contents now)
    (final.removeTree root).openFile path = .ok (.file contents)

theorem create_beside {volume after : Volume} (staged : Staged old root volume)
    (fresh : IsFresh old staging root) (slash : Accepts (Path.join staging "")) {store : Store}
    {name : String} {now : Instant} (created : store.create volume name now = (.ok location, after))
    (openable : ∀ contents, ∃ opened, ((after.put location (.file contents now)).removeTree
      root).openFile (store.pathOf name) = .ok opened) :
    Made staging root location (store.pathOf name) after now := by
  obtain ⟨between, paves, resolved, free, rfl⟩ := Store.create_cases created
  have keepsOld := staged.keeps fresh
  have keepsVolume := paves.spreads.keeps
  have ascending := paves.spreads.ascending staged.ascending
  have found (node : Node) {path : String} (same : Path.isAbsolute path = Path.isAbsolute staging)
      (parts : Path.components path = Path.components staging) (accepts : Accepts path)
      (follow : Bool) : (between.put location node).find follow path = .ok (root, .directory) := by
    have keepsNow := keeps_put free node
    refine find_staging ⟨fun place other there => ?_, ?_⟩ fresh ?_ same parts accepts follow
    · exact keepsNow.nodes _ _ (keepsVolume.nodes _ _ (keepsOld.nodes _ _ there))
    · rw [keepsNow.workingDirectory, keepsVolume.workingDirectory, keepsOld.workingDirectory]
    · exact keepsNow.nodes _ _ (keepsVolume.nodes _ _ staged.directory)
  have relative : Path.isAbsolute "" = false := by decide
  refine ⟨ascending.insert _ _, ?_, fun contents => ?_, fun contents => ?_⟩
  · refine found _ (Path.isAbsolute_join relative) ?_ slash true
    rw [Path.components_join relative, Path.components_empty, List.append_nil]
  · simp only [put_put, removeStaging, found _ rfl rfl (accepts_staging slash) false]
  · obtain ⟨opened, isOpen⟩ := openable contents
    rw [put_put] at isOpen ⊢
    exact openFile_removed fresh.root_ne_nil resolved free contents now isOpen

/-- A file that is put beside a directory is opened at its path when the directory is gone. -/
theorem openFile_beside {volume : Volume} {path name : String} {above : Location}
    (plain : IsPlain path (above ++ [name])) (linkFree : volume.LinkFree [])
    (directories : volume.Directories [] above) (below : root ≠ [])
    (apart : ¬root <+: above ++ [name]) (contents : Contents) (now : Instant) :
    ((volume.put (above ++ [name]) (.file contents now)).removeTree root).openFile path =
      .ok (.file contents) := by
  have somewhere : above ++ [name] ≠ [] := by simp
  have nodes (location : Location) :
      ((volume.put (above ++ [name]) (.file contents now)).removeTree root).node? location =
        if root <+: location then none
        else if above ++ [name] = location then some (.file contents now)
        else volume.node? location := by
    rw [node?_removeTree _ below, node?_put volume somewhere]
  have linkFreeLast :
      ((volume.put (above ++ [name]) (.file contents now)).removeTree root).LinkFree [] := by
    intro location target
    rw [nodes]
    split
    next => simp
    next =>
      split
      next => simp
      next => exact linkFree location target
  have directoriesLast :
      ((volume.put (above ++ [name]) (.file contents now)).removeTree root).Directories []
        (above ++ [name]).dropLast := by
    rw [List.dropLast_concat]
    intro start some_ isStart
    have outside : ¬root <+: start :=
      fun inside => apart ((inside.trans isStart).trans (List.prefix_append ..))
    rw [List.nil_append, nodes, if_neg outside, if_neg]
    · exact directories start some_ isStart
    · rintro rfl
      exact absurd isStart.length_le (by simp)
  have there := nodes (above ++ [name])
  rw [if_neg apart, if_pos rfl] at there
  simp [openFile, plain.find linkFreeLast directoriesLast, there, bind, Except.bind]

/-- Where no links lead astray, a directory that is there takes an archive unless its name is taken. -/
theorem create_of_plain {store : Store} {name : String} {volume : Volume} (now : Instant)
    (linkFree : volume.LinkFree []) {above : Location} (directory : IsPlain store.directory above)
    (archive : IsPlain (store.pathOf name) (above ++ [name]))
    (checked : Store.checkName name = .ok ()) (directories : volume.Directories [] above) :
    store.create volume name now =
      if (volume.node? (above ++ [name])).isSome then
        (.error (.archiveExists (store.pathOf name)), volume)
      else (.ok (above ++ [name]), volume.put (above ++ [name]) (.file (.ofBytes []) now)) := by
  have onWay : volume.Directories [] (above ++ [name]).dropLast := by rwa [List.dropLast_concat]
  simp only [Store.create, checked, Store.ensureDirectory, Except.mapError,
    directory.makeDirectories_present linkFree directories, createFile,
    archive.resolve linkFree onWay, bind, Except.bind]
  by_cases taken : (volume.node? (above ++ [name])).isSome
  · simp [taken]
  · simp [taken]

theorem takesArchive_of_plain {store : Store} {name : String} {made : Volume} (now : Instant)
    (linkFree : made.LinkFree []) (below : root ≠ []) {above : Location}
    (directory : IsPlain store.directory above)
    (archive : IsPlain (store.pathOf name) (above ++ [name]))
    (checked : Store.checkName name = .ok ()) (directories : made.Directories [] above)
    (apart : ¬root <+: above ++ [name]) (free : made.node? (above ++ [name]) = none) :
    TakesArchive store name now root made := by
  intro volume staged
  have linkFreeNow := staged.linkFree_all linkFree
  have directoriesNow : volume.Directories [] above :=
    staged.directories (fun inside => apart (inside.trans (List.prefix_append ..))) directories
  have freeNow : volume.node? (above ++ [name]) = none := by rw [staged.outside _ apart, free]
  have created : store.create volume name now = (.ok (above ++ [name]),
      volume.put (above ++ [name]) (.file (.ofBytes []) now)) := by
    rw [create_of_plain now linkFreeNow directory archive checked directoriesNow, freeNow]
    rfl
  refine ⟨_, _, created, fun steps => ?_, fun contents => ⟨.file contents, ?_⟩⟩
  · rw [node?_put volume (by simp), if_neg]
    intro inside
    exact apart (inside ▸ List.prefix_append ..)
  · rw [put_put]
    exact openFile_beside archive linkFreeNow directoriesNow below apart contents now

end Engine

end ClusterArchive
