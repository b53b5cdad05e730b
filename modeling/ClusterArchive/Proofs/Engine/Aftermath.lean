import ClusterArchive.Proofs.Engine.Captured
import ClusterArchive.Proofs.Engine.Run
import ClusterArchive.Proofs.Store

/-! The volume when a backup run has ended, but for its staging directory. All that was there is there;
new are the staging directory with what was captured, directories on the ways that the run made, and
the archive if nothing failed. -/

namespace ClusterArchive

namespace Volume

theorem WellFormed.makeDirectory_staged {base made : Volume} {staging : String}
    (wellFormed : base.WellFormed) (success : base.makeDirectory staging = .ok made) :
    ∃ root, IsFresh base staging root ∧ Accepts staging ∧ Staged base root made ∧
      made.WellFormed := by
  obtain ⟨root, fresh, same⟩ := wellFormed.makeDirectory_fresh success
  obtain ⟨location, placed, _, _⟩ := makeDirectory_cases success
  have staged := (Engine.holds_nil wellFormed fresh fun _ => []).staged
  exact ⟨root, fresh, (placeOf_ok placed).1, same ▸ staged,
    (makeDirectory_spreads success).wellFormed wellFormed⟩

end Volume

namespace Engine

open ClusterArchive.Path Volume

variable {σ : Type} {engine : Engine} {store : Store} {destination name staging : String}
  {now : Instant} {before base between after : Volume} {root location : Location}

/-- A directory on a way that a run makes: that to the destination, or that to the directory where
staging directories are made. -/
def Makes (engine : Engine) (destination : String) (volume : Volume) (location : Location) : Prop :=
  (∃ directory, engine.resolve destination = .ok directory ∧ OnWay volume directory location) ∨
  ∃ parent, engine.config.stagingDirectory = some parent ∧ OnWay volume parent location

theorem Makes.kept (keeps : Keeps before after) (makes : Makes engine destination before location) :
    Makes engine destination after location := by
  rcases makes with ⟨directory, resolved, way⟩ | ⟨parent, config, way⟩
  · exact .inl ⟨directory, resolved, way.kept keeps⟩
  · exact .inr ⟨parent, config, way.kept keeps⟩

theorem resolve_of_store (opens : engine.store destination = .ok store) :
    engine.resolve destination = .ok store.directory ∧ store.extension = engine.format.extension := by
  unfold Engine.store at opens
  cases resolved : engine.resolve destination with
  | error error => simp [resolved, bind, Except.bind] at opens
  | ok directory =>
    simp only [resolved, bind, Except.bind] at opens
    obtain rfl := Except.ok.inj opens
    exact ⟨rfl, rfl⟩

theorem makeStaging_ok (wellFormed : before.WellFormed) {made : Volume}
    (staged : engine.makeStaging before = (.ok staging, made)) : ∃ base root above, ∃ n : Nat,
      engine.Prepares before base ∧ IsFresh base staging root ∧ Accepts staging ∧
      Staged base root made ∧ made.WellFormed ∧ made.find false staging = .ok (root, .directory) ∧
      root = above ++ ["clusterbackup-" ++ toString n] ∧
      "clusterbackup-" ++ toString n ∈ (components staging).getLast? := by
  obtain ⟨base, prepares, ⟨error, failed⟩ | ⟨parent, n, now, tried, success⟩⟩ :=
    makeStaging_cases engine before
  · simp [staged] at failed
  · obtain ⟨same, rfl⟩ := Prod.mk.inj (staged.symm.trans tried)
    obtain rfl := Except.ok.inj same
    have step := isStep_staging n
    have straight : "clusterbackup-" ++ toString n ≠ ".." := by
      intro up
      have chars := congrArg (·.toList.head?) up
      simp at chars
    obtain ⟨root, fresh, accepts, stagedNow, made⟩ :=
      (prepares.spreads.wellFormed wellFormed).makeDirectory_staged success
    have parts : components (Path.join parent ("clusterbackup-" ++ toString n)) =
        components parent ++ ["clusterbackup-" ++ toString n] := by
      rw [components_join step.isAbsolute, components_step step]
    have reached := fresh.reached
    rw [parts] at reached
    obtain ⟨above, rfl, _, _⟩ := walk_split ⟨step.2.1, straight⟩ reached
    have found := find_staging (stagedNow.keeps fresh) fresh stagedNow.directory rfl rfl accepts false
    exact ⟨base, _, above, n, prepares, fresh, accepts, stagedNow, made, found, rfl,
      by rw [parts, List.getLast?_concat]; rfl⟩

theorem makeStaging_error {error : RunError}
    (refused : engine.makeStaging before = (.error error, after)) : engine.Prepares before after := by
  obtain ⟨base, prepares, ⟨problem, failed⟩ | ⟨_, _, _, tried, _⟩⟩ := makeStaging_cases engine before
  · obtain ⟨_, rfl⟩ := Prod.mk.inj (refused.symm.trans failed)
    exact prepares
  · simp [refused] at tried

/-! Writing the archive. -/

/-- An archive that was put where its path leads and nothing was. -/
def Puts (store : Store) (name : String) (now : Instant) (bytes : Bytes) (between after : Volume) :
    Prop :=
  ∃ location, between.resolve false (store.pathOf name) = .ok location ∧
    between.node? location = none ∧ after = between.put location (.file (.ofBytes bytes) now)

theorem Puts.keeps {bytes : Bytes} (puts : Puts store name now bytes between after) :
    Keeps between after := by
  obtain ⟨location, _, free, rfl⟩ := puts
  exact keeps_put free _

theorem Puts.link {bytes : Bytes} (puts : Puts store name now bytes between after) {target : String}
    (link : after.node? location = some (.symlink target)) :
    between.node? location = some (.symlink target) := by
  obtain ⟨place, _, free, rfl⟩ := puts
  have below : place ≠ [] := ne_nil_of_node? free (by simp)
  rw [node?_put between below] at link
  split at link
  next => cases link
  next => exact link

theorem writeArchive_unpacked (medium : Medium) (checked : Store.checkName name = .ok ())
    {world : World σ} (free : between.node? location = none)
    (created : store.create world.volume name now =
      (.ok location, between.put location (.file (.ofBytes []) now))) {failure : RunError}
    (failing : (medium.packInto (between.put location (.file (.ofBytes []) now)) staging).1 =
      .error failure) :
    medium.writeArchive store name staging now world =
      (.error failure, { world with volume := between }) := by
  have found (bytes : Bytes) : (between.put location (.file (.ofBytes bytes) now)).find false
      (store.pathOf name) = .ok (location, .file (.ofBytes bytes) now) := by
    rw [← put_put between location (.file (.ofBytes []) now)]
    exact find_put_file (Store.create_made created).2
  have written := writeArchive_created medium created staging
  generalize medium.packInto _ staging = result at failing written
  obtain ⟨packed, held⟩ := result
  obtain rfl : packed = .error failure := failing
  simp only [put_put, Store.delete_file checked (found _), drop_put free] at written
  exact written

/-- Writing an archive makes directories, and the archive unless it fails. -/
theorem writeArchive_cases (medium : Medium) (store : Store) (checked : Store.checkName name = .ok ())
    (staging : String) (now : Instant) (world : World σ) :
    let run := medium.writeArchive store name staging now world
    ∃ between, Paves store.directory world.volume between ∧
      ((∃ error, run.1 = .error error) ∧ run.2.volume = between ∨
        ∃ bytes, run.1 = .ok (bytes.length, sha256 bytes) ∧
          Puts store name now bytes between run.2.volume) := by
  intro run
  generalize created : store.create world.volume name now = result
  obtain ⟨outcome, after⟩ := result
  cases outcome with
  | error error =>
    have same : run = (.error error, { world with volume := after }) := by
      simp only [run, Medium.writeArchive, World.onVolume, created]
    exact ⟨after, Store.create_failed created, .inl ⟨⟨error, by rw [same]⟩, by rw [same]⟩⟩
  | ok location =>
    obtain ⟨between, paves, resolved, free, rfl⟩ := Store.create_cases created
    refine ⟨between, paves, ?_⟩
    obtain ⟨seen, filed⟩ := medium.packInto_filed (between.put location (.file (.ofBytes []) now))
      staging
    rcases packing : medium.packInto (between.put location (.file (.ofBytes []) now)) staging with
      ⟨outcome, held⟩
    rw [packing] at filed
    cases filed with
    | wholly =>
      have written := writeArchive_created medium created staging
      simp only [packing, put_put] at written
      exact .inr ⟨seen, congrArg Prod.fst written, location, resolved, free,
        congrArg (·.2.volume) written⟩
    | partly failure =>
      have written := writeArchive_unpacked medium checked free created (congrArg Prod.fst packing)
      exact .inl ⟨⟨failure, congrArg Prod.fst written⟩, congrArg (·.2.volume) written⟩

variable {discoverer : Discoverer σ} {lister : Lister σ} {options : BackupOptions}

section

variable {around : Surroundings σ} {start : σ}
  (segmented : ∀ entry, Captures around discoverer lister options start entry → entry.Segmented)
  (fresh : IsFresh base staging root) {world : World σ}
  (arises : Arises around discoverer lister start world.outside)
  (staged : Staged base root world.volume) (wellFormed : world.volume.WellFormed) (now : Instant)

include segmented fresh arises staged wellFormed

/-- Capturing changes nothing outside of the staging directory. -/
theorem capture_staged : Along (fun volume => Staged base root volume ∧ volume.WellFormed)
    (Arises around discoverer lister start)
    (capture around discoverer lister staging now options world).2 := by
  refine capture_preserves (fun entry may object volume ⟨staged, wellFormed⟩ => ?_)
    ⟨⟨staged, wellFormed⟩, arises⟩
  exact ⟨writeObject_staged staged fresh (segmented entry may) object now,
    writeObject_wellFormed wellFormed staging entry object now⟩

/-- Packing then makes an archive or nothing but directories. -/
theorem captureAndPack_cases (medium : Medium) (store : Store)
    (checked : Store.checkName name = .ok ()) :
    let run := captureAndPack medium around discoverer lister store name staging options now world
    ∃ volume between, Staged base root volume ∧ volume.WellFormed ∧
      Paves store.directory volume between ∧
      ((∃ error, run.1 = .error error) ∧ run.2.volume = between ∨
        ∃ count bytes, run.1 = .ok (count, bytes.length, sha256 bytes) ∧
          Puts store name now bytes between run.2.volume) := by
  intro run
  rcases captureAndPack_course medium store name
      (capture_staged segmented fresh arises staged wellFormed now) with
    ⟨error, failed, staged, wellFormed⟩ | ⟨count, later, ⟨staged, wellFormed⟩, same⟩
  · exact ⟨_, _, staged, wellFormed, .refl _ _, .inl ⟨⟨error, failed⟩, rfl⟩⟩
  · obtain ⟨between, paves, ends⟩ := writeArchive_cases medium store checked staging now later
    refine ⟨later.volume, between, staged, wellFormed, paves, ?_⟩
    change run = _ at same
    rw [same]
    rcases ends with ⟨⟨error, failed⟩, last⟩ | ⟨bytes, wrote, puts⟩
    · exact .inl ⟨⟨error, by rw [failed]; rfl⟩, last⟩
    · exact .inr ⟨count, bytes, by rw [wrote]; rfl, puts⟩

end

/-! What the end of a run leaves. -/

/-- Neither the path of the destination nor a link mentions the name of the staging directory. -/
def Undisclosed (engine : Engine) (destination : String) (before : Volume) : Prop :=
  ∀ directory, engine.resolve destination = .ok directory →
    ∀ staging made, engine.makeStaging before = (.ok staging, made) →
      ∀ hidden ∈ (components staging).getLast?, Unmentioned before directory hidden

/-- A staging directory was made, whose name is mentioned nowhere, something was captured into it, and
directories were made on the way to the destination. -/
structure Aftermath (engine : Engine) (destination : String) (store : Store) (staging : String)
    (root : Location) (before base between : Volume) : Prop where
  wellFormed : before.WellFormed
  opens : engine.store destination = .ok store
  prepares : engine.Prepares before base
  staged : ∃ made, engine.makeStaging before = (.ok staging, made) ∧
    made.find false staging = .ok (root, .directory)
  accepts : Accepts staging
  fresh : IsFresh base staging root
  undisclosed : ∃ above, ∃ n : Nat, root = above ++ ["clusterbackup-" ++ toString n] ∧
    Unmentioned before store.directory ("clusterbackup-" ++ toString n)
  packed : ∃ volume, Staged base root volume ∧ volume.WellFormed ∧
    Paves store.directory volume between

/-- Whatever is captured into a staging directory that was made, and then made on the way to the
destination. -/
theorem Undisclosed.aftermath (undisclosed : Undisclosed engine destination before)
    (wellFormed : before.WellFormed) (opens : engine.store destination = .ok store) {made : Volume}
    (staged : engine.makeStaging before = (.ok staging, made)) : ∃ base root,
      Keeps before base ∧ IsFresh base staging root ∧ Staged base root made ∧ made.WellFormed ∧
      ∀ volume between, Staged base root volume → volume.WellFormed →
        Paves store.directory volume between →
        Aftermath engine destination store staging root before base between := by
  obtain ⟨base, root, above, n, prepares, fresh, accepts, stagedNow, wellFormedNow, found, place,
    named⟩ := makeStaging_ok wellFormed staged
  refine ⟨base, root, prepares.spreads.keeps, fresh, stagedNow, wellFormedNow,
    fun volume between captured whole paves => ?_⟩
  have unmentioned := undisclosed _ (resolve_of_store opens).1 staging made staged _ named
  exact ⟨wellFormed, opens, prepares, ⟨made, staged, found⟩, accepts, fresh,
    ⟨above, n, place, unmentioned⟩, volume, captured, whole, paves⟩

namespace Aftermath

variable (aftermath : Aftermath engine destination store staging root before base between)

include aftermath

theorem base_wellFormed : base.WellFormed :=
  aftermath.prepares.spreads.wellFormed aftermath.wellFormed

theorem between_wellFormed : between.WellFormed := by
  obtain ⟨volume, _, wellFormed, paves⟩ := aftermath.packed
  exact paves.spreads.wellFormed wellFormed

theorem keeps : Keeps base between := by
  obtain ⟨volume, staged, _, paves⟩ := aftermath.packed
  exact (staged.keeps aftermath.fresh).trans paves.spreads.keeps

theorem directory : between.node? root = some .directory := by
  obtain ⟨volume, staged, _, paves⟩ := aftermath.packed
  exact paves.spreads.keeps.nodes _ _ staged.directory

theorem removed (keeps : Keeps between after) : removeStaging after staging = after.removeTree root := by
  have found := find_staging (aftermath.keeps.trans keeps) aftermath.fresh
    (keeps.nodes _ _ aftermath.directory) rfl rfl aftermath.accepts false
  simp only [removeStaging, found]

/-- What was before is left when the staging directory is removed. -/
theorem keeps_base (keeps : Keeps between after) : Keeps base (after.removeTree root) where
  nodes := by
    intro location node found
    rw [node?_removeTree after aftermath.fresh.root_ne_nil, if_neg (aftermath.fresh.apart found)]
    exact keeps.nodes _ _ (aftermath.keeps.nodes _ _ found)
  workingDirectory := keeps.workingDirectory.trans aftermath.keeps.workingDirectory

theorem keeps_before (keeps : Keeps between after) : Keeps before (after.removeTree root) :=
  aftermath.prepares.spreads.keeps.trans (aftermath.keeps_base keeps)

/-- The name of the staging directory is mentioned nowhere still, as no links were made. -/
theorem unmentioned : ∃ above, ∃ n : Nat, root = above ++ ["clusterbackup-" ++ toString n] ∧
    Unmentioned between store.directory ("clusterbackup-" ++ toString n) := by
  obtain ⟨above, n, place, unmentioned⟩ := aftermath.undisclosed
  obtain ⟨volume, staged, _, paves⟩ := aftermath.packed
  refine ⟨above, n, place, unmentioned.path, fun location target link => ?_⟩
  exact unmentioned.links location target
    (aftermath.prepares.spreads.link (staged.link (paves.spreads.link link)))

theorem working : ¬root <+: between.workingDirectory := by
  rw [aftermath.keeps.workingDirectory]
  exact aftermath.fresh.apart aftermath.base_wellFormed.working

/-- The way to the destination does not go through the staging directory. -/
theorem way_removed (way : OnWay between store.directory location) :
    OnWay (between.removeTree root) store.directory location := by
  obtain ⟨above, n, rfl, unmentioned⟩ := aftermath.unmentioned
  exact way.removeTree unmentioned (isStep_staging n).2.1 aftermath.working

theorem leads_removed {place : Location} (leads : Leads between store.directory place) :
    Leads (between.removeTree root) store.directory place ∧ ¬root <+: place := by
  obtain ⟨above, n, rfl, unmentioned⟩ := aftermath.unmentioned
  exact leads.removeTree unmentioned (isStep_staging n).2.1 aftermath.working

/-- The archive is where it was when the staging directory is removed, and so is whatever another run
left there. -/
theorem spares {started : Instant} {extension : String}
    (named : Archive.fileName started extension = name) (checked : Store.checkName name = .ok ())
    (keeps : Keeps between after) (links : ∀ location target,
      after.node? location = some (.symlink target) → between.node? location = some (.symlink target))
    {found : Location × Node} (there : after.find false (store.pathOf name) = .ok found) :
    (after.removeTree root).find false (store.pathOf name) = .ok found := by
  obtain ⟨above, n, rfl, unmentioned⟩ := aftermath.unmentioned
  obtain ⟨step, _⟩ := Store.checkName_step checked
  have outside := aftermath.working
  rw [← keeps.workingDirectory] at outside
  refine (find_removeTree ⟨?_, fun location target link => ?_⟩ (isStep_staging n).2.1 outside there).1
  · rw [Store.pathOf, components_join step.isAbsolute, components_step step, List.mem_append]
    rintro (inDirectory | isName)
    · exact unmentioned.path inDirectory
    · exact fileName_ne_staging started extension n (named.trans (List.mem_singleton.mp isName).symm)
  · exact unmentioned.links location target (links location target link)

/-- What is new outside of the staging directory is on a way that the run made. -/
theorem new {node : Node} (outside : ¬root <+: location) (free : before.node? location = none)
    (found : between.node? location = some node) : node = .directory ∧
      (OnWay between store.directory location ∨
        ∃ parent, engine.config.stagingDirectory = some parent ∧ OnWay base parent location) := by
  obtain ⟨volume, staged, wellFormed, paves⟩ := aftermath.packed
  rcases paves.spreads.nodes location with same | ⟨absent, made⟩
  · rw [found, staged.outside location outside] at same
    obtain ⟨rfl, parent, config, way⟩ := aftermath.prepares.new aftermath.wellFormed free same.symm
    exact ⟨rfl, .inr ⟨parent, config, way⟩⟩
  · obtain rfl := Option.some.inj (found.symm.trans made)
    exact ⟨rfl, .inl (paves.way wellFormed location absent found)⟩

/-- What is new, and not the archive, is a directory on a way that the run made. -/
theorem makes (keeps : Keeps between after) {node : Node} (outside : ¬root <+: location)
    (free : before.node? location = none) (found : between.node? location = some node) :
    node = .directory ∧ Makes engine destination (after.removeTree root) location := by
  obtain ⟨rfl, way⟩ := aftermath.new outside free found
  refine ⟨rfl, ?_⟩
  rcases way with way | ⟨parent, config, way⟩
  · have cleared := keeps.removeTree aftermath.fresh.root_ne_nil
    exact .inl ⟨store.directory, (resolve_of_store aftermath.opens).1,
      (aftermath.way_removed way).kept cleared⟩
  · exact .inr ⟨parent, config, way.kept (aftermath.keeps_base keeps)⟩

theorem cleared (final : Volume) : ∀ path made, engine.makeStaging before = (.ok path, made) →
    ∃ place, made.find false path = .ok (place, .directory) ∧
      ∀ steps, (final.removeTree root).node? (place ++ steps) = none := by
  intro path made again
  obtain ⟨_, staged, found⟩ := aftermath.staged
  obtain ⟨same, rfl⟩ := Prod.mk.inj (staged.symm.trans again)
  obtain rfl := Except.ok.inj same
  refine ⟨root, found, fun steps => ?_⟩
  rw [node?_removeTree final aftermath.fresh.root_ne_nil, if_pos (List.prefix_append ..)]

end Aftermath

end Engine

end ClusterArchive
