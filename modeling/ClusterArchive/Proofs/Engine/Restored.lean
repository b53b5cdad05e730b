import ClusterArchive.Engine.Runs
import ClusterArchive.Proofs.Engine.Exact
import ClusterArchive.Proofs.Restore.Archived
import ClusterArchive.Proofs.Restore.Outcome
import ClusterArchive.Proofs.Store

/-! What a restore makes of a backup. Every object that was captured comes back, in its namespace and
without what belonged to the cluster it was found on. -/

namespace ClusterArchive

namespace MemoryCluster

open Document RestoreItem

variable {source target : MemoryCluster} {captured : List Entry}

def item (source : MemoryCluster) (entry : Entry) : RestoreItem :=
  ⟨entry, ((source.object? entry.key).map fun object => object.stripped.placed entry.ns).getD []⟩

/-- A cluster that can take what was captured on another one: archived forms are complete, types are
registered with the same scope, and namespaces are there or were captured, too. -/
structure Receives (source : MemoryCluster) (captured : List Entry) (target : MemoryCluster) :
    Prop where
  portable : ∀ entry ∈ captured, ∀ object, source.object? entry.key = some object →
    object.IsPortable
  registered : ∀ entry ∈ captured, target.Registers entry.type entry.ns
  namespaces : ∀ entry ∈ captured, ∀ ns, entry.ns = some ns →
    (target.object? (namespaceKey ns)).isSome ∨ (namespaceKey ns).entry ∈ captured

/-- A cluster after all that was captured on another one came to it. Only the version and the
identifier are its own; an identifier that was there stays. -/
structure Reproduces (source : MemoryCluster) (captured : List Entry)
    (before after : MemoryCluster) : Prop where
  objects : ∀ entry ∈ captured, ∀ object, source.object? entry.key = some object →
    ∃ version first, before.version < first ∧ first ≤ version ∧ version ≤ after.version ∧
      after.object? entry.key = some (served version
        ((before.uid? entry.key).getD (uidText first)) (object.stripped.placed entry.ns))
  others : ∀ key, ObjectKey.entry key ∉ captured → after.object? key = before.object? key

theorem name?_placed (ns : Option String) (object : Document) :
    (object.placed ns).name? = object.name? := by
  cases ns with
  | none => rfl
  | some ns => exact name?_stamp "namespace" ns object (by decide)

theorem item_of_found {entry : Entry} {object : Document}
    (found : source.object? entry.key = some object) :
    source.item entry = ⟨entry, object.stripped.placed entry.ns⟩ := by
  rw [item, found]
  rfl

theorem key_item (entries : List Entry) :
    (entries.map source.item).map RestoreItem.key = entries.map Entry.key := by
  rw [List.map_map]
  rfl

theorem mem_keys {entries : List Entry} {key : ObjectKey} :
    key ∈ entries.map Entry.key ↔ key.entry ∈ entries := by
  constructor
  · intro member
    obtain ⟨entry, isIn, rfl⟩ := List.mem_map.mp member
    exact isIn
  · intro member
    exact List.mem_map.mpr ⟨key.entry, member, key.entry_key⟩

theorem Restored.reproduces {before after : MemoryCluster} {entries : List Entry}
    (restored : Restored before (entries.map source.item) after) (distinct : entries.Nodup)
    (same : ∀ entry, entry ∈ entries ↔ entry ∈ captured) :
    Reproduces source captured before after where
  objects := by
    intro entry member object found
    have keys : ((entries.map source.item).map RestoreItem.key).Nodup := by
      rw [key_item]
      exact distinct.map fun a b same => by rw [← a.key_entry, same, b.key_entry]
    have isItem := List.mem_map_of_mem (f := source.item) ((same entry).mpr member)
    have stored := restored.placed _ _ (latest_of_nodup keys isItem)
    rw [item_of_found found] at stored
    exact stored
  others := by
    intro key absent
    apply restored.untouched
    rw [key_item, mem_keys, same]
    exact absent

theorem named_item (sound : source.Sound) {entry : Entry}
    (stored : (source.object? entry.key).isSome) :
    (source.item entry).object.name? = some (source.item entry).entry.name := by
  obtain ⟨object, found⟩ := Option.isSome_iff_exists.mp stored
  rw [item_of_found found]
  simp only [name?_placed, name?_stripped]
  exact (sound.stored _ _ found).named

/-- What was captured is read from its file as the item of its object. -/
theorem ofFile_body (sound : source.Sound) {entry : Entry} (valid : entry.IsValid)
    (stored : (source.object? entry.key).isSome)
    (portable : ∀ object, source.object? entry.key = some object → object.IsPortable) :
    ofFile entry.path (source.body entry) = .ok (some (source.item entry)) := by
  obtain ⟨object, found⟩ := Option.isSome_iff_exists.mp stored
  have archived : source.body entry = object.archivedBytes := by simp [body, found]
  rw [archived, item_of_found found]
  exact ofFile_archived valid (portable object found) (sound.stored _ _ found).named

theorem applyItems_captured (sound : source.Sound) (soundTarget : target.Sound)
    (gets : target.failingGets = []) (updates : target.failingUpdates = [])
    (receives : Receives source captured target)
    (stored : ∀ entry ∈ captured, (source.object? entry.key).isSome) {entries : List Entry}
    (distinct : entries.Nodup) (same : ∀ entry, entry ∈ entries ↔ entry ∈ captured) :
    ∃ summary after,
      client.applier.applyItems uncancelled (entries.map source.item) target = (.ok summary, after) ∧
      summary.applied = entries.length ∧ Reproduces source captured target after := by
  have named : ∀ item ∈ entries.map source.item, item.object.name? = some item.entry.name := by
    intro item member
    obtain ⟨entry, isIn, rfl⟩ := List.mem_map.mp member
    exact named_item sound (stored entry ((same entry).mp isIn))
  have unhindered : Unhindered target (entries.map source.item) := by
    simp [Unhindered, gets, updates]
  have admits : ∀ item ∈ entries.map source.item,
      target.Admits (entries.map source.item) item := by
    intro item member
    obtain ⟨entry, isIn, rfl⟩ := List.mem_map.mp member
    have isCaptured := (same entry).mp isIn
    refine ⟨receives.registered entry isCaptured, fun ns inside => ?_⟩
    rw [key_item, mem_keys, same]
    exact receives.namespaces entry isCaptured ns inside
  have applied := applyItems_admitted soundTarget named unhindered admits
  have restored := (restored_upserts target (Applier.schedule (entries.map source.item))).of_schedule
  refine ⟨_, _, applied, ?_, restored.reproduces distinct same⟩
  have fresh := card_freshKeys_le target (entries.map source.item)
  rw [ApplySummary.applied, Nat.add_sub_cancel' fresh, List.length_map]

end MemoryCluster

namespace Engine

open MemoryCluster TarGzip Volume

variable {τ : Type} {clock : τ → Instant × τ} {source target : MemoryCluster}
  {options : BackupOptions} {engine : Engine} {store : Store}

theorem readArchive_ok (format : engine.format.IsTarGzip) (sound : source.Sound) {name : String}
    (checked : Store.checkName name = .ok ()) {volume : Volume} {written : List Entry}
    {members : List (String × Tar.Content)} (packed : Packed source.body written members)
    (small : (writeMembers members).length < 2 ^ 64)
    (opened : volume.openFile (store.pathOf name) =
      .ok (.file (.ofBytes (writeMembers members))))
    (stored : ∀ entry ∈ written, (source.object? entry.key).isSome)
    (portable : ∀ entry ∈ written, ∀ object, source.object? entry.key = some object →
      object.IsPortable) :
    ∃ entries : List Entry, entries.Nodup ∧ (∀ entry, entry ∈ entries ↔ entry ∈ written) ∧
      engine.readArchive store volume name = .ok (entries.map source.item) := by
  obtain ⟨entries, distinct, same, files⟩ := packed.entries
  have stream : streamOf (.file (.ofBytes (writeMembers members))) =
      .ofBytes (writeMembers members) := by
    simp [streamOf, Opened.read, Contents.toBytes, Contents.ofBytes]
  have each : ∀ entry ∈ entries,
      RestoreItem.ofFile entry.path (source.body entry) = .ok (some (source.item entry)) := by
    intro entry isIn
    have member := (same entry).mp isIn
    exact ofFile_body sound (packed.valid entry member) (stored entry member) (portable entry member)
  have read := RestoreItem.ofFiles_map each
  refine ⟨entries, distinct, same, ?_⟩
  simp only [readArchive, Store.open, checked, opened, bind, Except.bind, stream, format.files,
    files_writeMembers packed.clean small, RestoreItem.ofDelivery, files, read]

theorem runRestore_ok (clock : τ → Instant × τ) {destination name : String}
    (opens : engine.store destination = .ok store) (checked : Store.checkName name = .ok ())
    {world : World (MemoryCluster × τ)} {items : List RestoreItem}
    (read : engine.readArchive store world.volume name = .ok items)
    {summary : ApplySummary} {after : MemoryCluster}
    (applied : client.applier.applyItems uncancelled items world.outside.1 = (.ok summary, after)) :
    ∃ outcome last, engine.runRestore (undisturbed clock) session.applier destination name world =
      (.ok outcome, last) ∧ outcome.applied = summary.applied ∧ last.outside.1 = after := by
  have named : Text.isBlankText name = false := by
    unfold Store.checkName at checked
    split at checked
    next => cases checked
    next notBlank => simpa using notBlank
  have ran : session.applier.applyItems (undisturbed clock).cancelled items
      (world.outside.1, (clock world.outside.2).2) =
      (.ok summary, after, (clock world.outside.2).2) := by
    rw [Applier.applyItems] at applied ⊢
    have lifted := session_applyInOrder ⟨0, 0⟩ (Applier.schedule items)
      (world.outside.1, (clock world.outside.2).2)
    rw [applied] at lifted
    exact lifted
  let metrics := { world.metrics with applied := world.metrics.applied + summary.applied }
  have run : engine.runRestore (undisturbed clock) session.applier destination name world =
      (.ok ⟨name, summary.applied, summary.created, summary.updated, (clock world.outside.2).1,
        (clock (clock world.outside.2).2).1⟩,
        { world with
          metrics := metrics
          outside := (after, (clock (clock world.outside.2).2).2) }) := by
    simp only [undisturbed] at ran
    simp only [runRestore, World.ask, undisturbed, named, opens, read, Bool.false_eq_true, if_false]
    simp only [ran, metrics]
  exact ⟨_, _, run, rfl, rfl⟩

/-- How large an archive can get at most, by what the cluster stores. -/
theorem Leaves.archiveSize_le {name : String} {written : List Entry}
    {members : List (String × Tar.Content)} {result : BackupResult} {volume : Volume}
    (leaves : Leaves source store name written members result volume)
    (stored : ∀ entry ∈ written, (source.object? entry.key).isSome) {entries : List Entry}
    (all : source.objects.map (·.1.entry) = entries) {most : Nat}
    (each : ∀ entry ∈ entries, ∀ steps ∈ entry.segments.inits,
      ∀ content ∈ [Tar.Content.file (source.body entry), .directory],
        (Tar.writeMember (Bytes.ofText ("/".intercalate steps)) content).length ≤ most) :
    result.archiveSize ≤ 2 * ((entries.flatMap (·.segments.inits)).length * most + 1024) + 23 := by
  rw [leaves.size]
  refine leaves.packed.length_writeMembers_le (fun entry known => ?_) each
  have isStored : (source.object? entry.key).isSome := by
    rcases known with member | has
    · exact stored entry member
    · cases found : source.object? entry.key with
      | none => simp [body, found] at has
      | some object => rfl
  obtain ⟨object, found⟩ := Option.isSome_iff_exists.mp isStored
  rw [← all]
  exact List.mem_map.mpr ⟨(entry.key, object), Assoc.mem_of_get? found, entry.key_entry⟩

/-- The archive that a run left is restored, wherever it was taken, into a cluster that can take it.
Each of its objects is applied once. -/
theorem runRestore_leaves (clock : τ → Instant × τ) (format : engine.format.IsTarGzip)
    {destination name : String} (opens : engine.store destination = .ok store)
    (checked : Store.checkName name = .ok ())
    (sound : source.Sound) {written : List Entry} {members : List (String × Tar.Content)}
    {result : BackupResult} {volume : Volume}
    (leaves : Leaves source store name written members result volume)
    (small : result.archiveSize < 2 ^ 64)
    (stored : ∀ entry ∈ written, (source.object? entry.key).isSome)
    {world : World (MemoryCluster × τ)}
    (kept : world.volume.openFile result.archivePath = volume.openFile result.archivePath)
    (soundTarget : world.outside.1.Sound) (gets : world.outside.1.failingGets = [])
    (updates : world.outside.1.failingUpdates = [])
    (receives : Receives source written world.outside.1) :
    ∃ outcome last entries,
      engine.runRestore (undisturbed clock) session.applier destination result.archiveName world =
        (.ok outcome, last) ∧
      List.Nodup entries ∧ (∀ entry, entry ∈ entries ↔ entry ∈ written) ∧
      outcome.applied = entries.length ∧
      Reproduces source written world.outside.1 last.outside.1 := by
  have opened := leaves.opened
  rw [← leaves.path, ← kept, leaves.path] at opened
  rw [leaves.size] at small
  obtain ⟨entries, distinct, same, read⟩ := readArchive_ok format sound checked leaves.packed small
    opened stored receives.portable
  obtain ⟨summary, after, applied, count, reproduces⟩ := applyItems_captured sound soundTarget gets
    updates receives stored distinct same
  obtain ⟨outcome, last, ran, counted, rfl⟩ := runRestore_ok clock opens checked read applied
  rw [leaves.archiveName]
  exact ⟨outcome, last, entries, ran, distinct, same, counted.trans count, reproduces⟩

/-- A backup that can tell its namespaces, restored into a cluster that can take it, brings every
captured object there once. Only where two namespace objects share a name does the backup count an
object more often. -/
theorem runRestore_runBackup (reachable : source.Reachable)
    (once : (source.resources.map (·.type)).Nodup) (inScope : source.Scoped)
    (valid : ∀ key, source.Eligible options key → key.entry.IsValid)
    (format : engine.format.IsTarGzip) {destination : String}
    (opens : engine.store destination = .ok store) {world : World (MemoryCluster × τ)}
    (here : world.outside.1 = source) {now : Instant} (time : (clock world.outside.2).1 = now)
    {staging : String} {root : Location} {made : Volume}
    (hosts : Hosts engine store (Archive.fileName now engine.format.extension) now world.volume
      staging root made) :
    let run := engine.runBackup (undisturbed clock) session.discoverer session.lister destination
      options world
    (source.Unlisted options ∧ ∃ error, run.1 = .error (.namespaceListing error)) ∨
    ∃ result captured, run.1 = .ok result ∧ List.Nodup captured ∧
      (∀ entry ∈ captured, source.Eligible options entry.key) ∧
      (∀ key, source.Eligible options key → EntryFits staging key.entry → key.entry ∈ captured) ∧
      (source.DistinctNamespaces → result.objectCount = captured.length) ∧
      ∀ {υ : Type} (watch : υ → Instant × υ) (later : World (MemoryCluster × υ)),
        result.archiveSize < 2 ^ 64 →
        later.volume.openFile result.archivePath = run.2.volume.openFile result.archivePath →
        later.outside.1.Reachable → later.outside.1.failingGets = [] →
        later.outside.1.failingUpdates = [] → Receives source captured later.outside.1 →
        ∃ outcome last,
          engine.runRestore (undisturbed watch) session.applier destination result.archiveName later =
            (.ok outcome, last) ∧
          outcome.applied = captured.length ∧
          Reproduces source captured later.outside.1 last.outside.1 := by
  intro run
  have sound := reachable.sound
  rcases unlisted_or_looked source options with ⟨unlisted, error, failed⟩ | ⟨fine, names, known, looked⟩
  · obtain ⟨resource, isSelected, inside⟩ := unlisted.needed
    obtain ⟨after, ended⟩ := backup_failed sound inScope opens failed
      ⟨resource, mem_selected.mpr isSelected, inside⟩ valid here time rfl hosts
    exact .inl ⟨unlisted, error, runBackup_error ended⟩
  · obtain ⟨written, members, result, after, ended, fewer, fitting, leaves, _⟩ :=
      backup_ok sound inScope format opens looked valid here time rfl hosts
    obtain ⟨metrics, ran⟩ := runBackup_ok ended
    have eligible : ∀ entry ∈ written, source.Eligible options entry.key :=
      fun entry member => (mem_plan sound inScope looked).mp (fewer.subset member)
    have stored : ∀ entry ∈ written, (source.object? entry.key).isSome :=
      fun entry member => (eligible entry member).stored
    refine .inr ⟨result, written.dedup, by simp [run, ran], written.nodup_dedup, ?_, ?_, ?_, ?_⟩
    · intro entry member
      exact eligible entry (List.mem_dedup.mp member)
    · intro key isEligible fits
      have planned : key.entry ∈ source.plan options names :=
        (mem_plan sound inScope looked).mpr isEligible
      have kept := fitting [key.entry] (List.singleton_sublist.mpr planned)
        (List.forall_mem_singleton.mpr fits)
      exact List.mem_dedup.mpr (List.singleton_sublist.mp kept)
    · intro distinct
      have namesOnce := nodup_lookedInto sound distinct known
      have writtenOnce := (nodup_plan sound inScope once namesOnce).sublist fewer
      rw [leaves.count, writtenOnce.dedup]
    · intro υ watch later small kept reachableTarget gets updates receives
      have receivesAll : Receives source written later.outside.1 := by
        refine ⟨fun entry member => ?_, fun entry member => ?_, fun entry member ns inside => ?_⟩
        · exact receives.portable entry (List.mem_dedup.mpr member)
        · exact receives.registered entry (List.mem_dedup.mpr member)
        · simpa using receives.namespaces entry (List.mem_dedup.mpr member) ns inside
      have checked := Store.checkName_of_available hosts.available
      have keptNow : later.volume.openFile result.archivePath =
          after.volume.openFile result.archivePath := by simpa [run, ran] using kept
      obtain ⟨outcome, last, entries, restored, distinct, same, count, reproduces⟩ :=
        runRestore_leaves watch format opens checked sound leaves small stored keptNow
          reachableTarget.sound gets updates receivesAll
      refine ⟨outcome, last, restored, ?_, ?_⟩
      · have perm : entries.Perm written.dedup :=
          (List.perm_ext_iff_of_nodup distinct written.nodup_dedup).mpr (by simp [same])
        exact count.trans perm.length_eq
      · exact ⟨fun entry member => reproduces.objects entry (List.mem_dedup.mp member),
          fun key absent => reproduces.others key (by simpa using absent)⟩

/-! The small run again, restored into a cluster that has the types and nothing else. -/

theorem portable_web {key : ObjectKey} {object : Document} (found : web.object? key = some object) :
    object.IsPortable := by
  rcases web_stored found with rfl | rfl <;> obtain rfl := Option.some.inj found <;>
    exact ⟨by decide, by decide⟩

theorem eligible_space : web.Eligible allOptions ⟨.namespaces, none, "web"⟩ where
  stored := by decide
  resource := by
    refine ⟨.namespaces, ?_, rfl⟩
    exact ⟨List.mem_cons_self, rfl, List.not_mem_nil, by decide, by decide +kernel⟩
  place := rfl
  listed := List.not_mem_nil

theorem distinct_web : web.DistinctNamespaces := by
  intro key other stored storedOther isType isTypeOther _
  obtain ⟨object, found⟩ := Option.isSome_iff_exists.mp stored
  obtain ⟨object', found'⟩ := Option.isSome_iff_exists.mp storedOther
  rcases web_stored found with rfl | rfl <;> rcases web_stored found' with rfl | rfl <;>
    simp_all [ResourceType.namespaces]

theorem runBackup_plain (sound : source.Sound) (inScope : source.Scoped) {names : List String}
    (looked : source.lookedInto allOptions = .ok names)
    (valid : ∀ key, source.Eligible allOptions key → key.entry.IsValid) :
    ∃ written members result after,
      plainEngine.runBackup (undisturbed startClock) session.discoverer session.lister "/tmp"
        allOptions ⟨bareVolume, [], default, source, ()⟩ = (.ok result, after) ∧
      written.Sublist (source.plan allOptions names) ∧
      ((∀ entry ∈ source.plan allOptions names, EntryFits "/tmp/clusterbackup-0" entry) →
        written = source.plan allOptions names) ∧
      Leaves source ⟨"/tmp", "tar.gz"⟩ firstName written members result after.volume := by
  let world : World (MemoryCluster × Unit) := ⟨bareVolume, [], default, source, ()⟩
  have here : world.outside.1 = source := rfl
  have time : (startClock world.outside.2).1 = ⟨0, 0⟩ := rfl
  obtain ⟨written, members, result, after, ended, fewer, fitting, leaves, _⟩ := backup_ok sound inScope
    ArchiveFormat.isTarGzip_tarGzip opens_tmp (fun _ _ _ => looked) valid here time rfl hosts_bareVolume
  obtain ⟨metrics, ran⟩ := runBackup_ok ended
  exact ⟨written, members, result, _, ran, fewer,
    fun fits => fewer.antisymm (fitting _ (List.Sublist.refl _) fits), leaves⟩

theorem archiveSize_web {result : BackupResult} (ran : (plainEngine.runBackup (undisturbed startClock)
    session.discoverer session.lister "/tmp" allOptions startWorld).1 = .ok result) :
    result.archiveSize < 2 ^ 64 := by
  have looked : web.lookedInto allOptions = .ok ["web"] := rfl
  obtain ⟨written, members, result', after, again, fewer, _, leaves⟩ :=
    runBackup_plain reachable_web.sound scoped_web looked (fun _ => valid_web)
  obtain rfl := Except.ok.inj (ran.symm.trans (congrArg Prod.fst again))
  have stored : ∀ entry ∈ written, (web.object? entry.key).isSome := fun entry member =>
    ((mem_plan reachable_web.sound scoped_web fun _ _ _ => looked).mp (fewer.subset member)).stored
  have entries : web.objects.map (·.1.entry) =
      [⟨⟨"", "v1", "configmaps"⟩, some "web", "settings"⟩, ⟨.namespaces, none, "web"⟩] := by decide
  have bound : result.archiveSize ≤ 2 * (_ * 1024 + 1024) + 23 :=
    leaves.archiveSize_le stored entries (by decide +kernel)
  exact Nat.lt_of_le_of_lt bound (by decide)

theorem runRestore_runBackup_web : ∃ result after outcome last version uid,
    plainEngine.runBackup (undisturbed startClock) session.discoverer session.lister "/tmp" allOptions
      startWorld = (.ok result, after) ∧
    plainEngine.runRestore (undisturbed startClock) session.applier "/tmp" result.archiveName
      { after with outside := (twoTypes, ()) } = (.ok outcome, last) ∧
    outcome.applied = result.objectCount ∧
    last.outside.1.object? ⟨⟨"", "v1", "configmaps"⟩, some "web", "settings"⟩ =
      some (served version uid [("metadata", .object [("name", .string "settings"),
        ("namespace", .string "web")])]) := by
  have here : startWorld.outside.1 = web := rfl
  have time : (startClock startWorld.outside.2).1 = ⟨0, 0⟩ := rfl
  obtain ⟨unlisted, _⟩ | ⟨result, captured, ran, _, eligible, fitting, count, restores⟩ :=
    runRestore_runBackup reachable_web (by decide) scoped_web (fun _ => valid_web)
      ArchiveFormat.isTarGzip_tarGzip opens_tmp here time hosts_bareVolume
  · exact absurd unlisted listed_web
  · obtain ⟨after, whole⟩ : ∃ after, plainEngine.runBackup (undisturbed startClock)
        session.discoverer session.lister "/tmp" allOptions startWorld = (.ok result, after) :=
      ⟨_, Prod.ext ran rfl⟩
    have space : (ObjectKey.entry ⟨.namespaces, none, "web"⟩) ∈ captured :=
      fitting _ eligible_space (fits_web eligible_space)
    have receives : Receives web captured twoTypes := by
      constructor
      · exact fun entry member object found => portable_web found
      · rintro ⟨type, ns, name⟩ member
        rcases eligible_web (eligible _ member) with same | same <;> cases same
        · exact ⟨_, rfl, rfl⟩
        · exact ⟨_, rfl, rfl⟩
      · rintro ⟨type, ns, name⟩ member inner inside
        rcases eligible_web (eligible _ member) with same | same <;> cases same
        · cases inside
          exact .inr space
        · cases inside
    obtain ⟨outcome, last, restored, applied, reproduces⟩ := restores startClock
      { after with outside := (twoTypes, ()) } (archiveSize_web ran) (by rw [whole])
      reachable_twoTypes rfl rfl receives
    have settings := fitting _ eligible_settings (fits_web eligible_settings)
    obtain ⟨version, first, _, _, _, stored⟩ := reproduces.objects _ settings _ rfl
    exact ⟨result, after, outcome, last, version, _, whole, restored,
      applied.trans (count distinct_web).symm, stored⟩

/-- Two namespace objects of one name, which a cluster can store where namespaces are themselves in
namespaces, and an object in the namespace of that name. -/
def twins : MemoryCluster :=
  let named (name : String) : Json := .object [("metadata", .object [("name", .string name)])]
  let seeded (type : ResourceType) (ns name : String) (cluster : MemoryCluster) : MemoryCluster :=
    (cluster.seed type (some ns) (named name)).2
  let types := (MemoryCluster.empty.register ⟨.namespaces, "Namespace", true, ["list"]⟩).register
    ⟨⟨"", "v1", "configmaps"⟩, "ConfigMap", true, ["list"]⟩
  seeded ⟨"", "v1", "configmaps"⟩ "web" "settings"
    (seeded .namespaces "west" "web" (seeded .namespaces "east" "web" types))

theorem reachable_twins : twins.Reachable :=
  let named (name : String) : Json := .object [("metadata", .object [("name", .string name)])]
  ((((Relation.ReflTransGen.single (Step.arrange (.register _) trivial)).tail
    (.arrange (.register _) trivial)).tail
    (.arrange (.seed .namespaces (some "east") (named "web")) trivial)).tail
    (.arrange (.seed .namespaces (some "west") (named "web")) trivial)).tail
    (.arrange (.seed ⟨"", "v1", "configmaps"⟩ (some "web") (named "settings")) trivial)

theorem plan_twins : twins.plan allOptions ["web", "web"] =
    [⟨⟨"", "v1", "configmaps"⟩, some "web", "settings"⟩,
      ⟨⟨"", "v1", "configmaps"⟩, some "web", "settings"⟩] := by
  decide +kernel

theorem looked_twins : twins.lookedInto allOptions = .ok ["web", "web"] := by rfl

theorem scoped_twins : twins.Scoped := by
  intro key object found resource member same
  have isKey := List.mem_map_of_mem (f := Prod.fst) (Assoc.mem_of_get? found)
  have namespaced : ∀ resource ∈ twins.resources, resource.namespaced = true := by decide
  have inside : ∀ key ∈ twins.objects.map Prod.fst, ObjectKey.ns key ≠ none := by decide
  rw [namespaced resource member]
  exact (Option.isSome_iff_ne_none.mpr (inside key isKey)).symm

theorem eligible_twins {key : ObjectKey} (eligible : twins.Eligible allOptions key) :
    key = ⟨⟨"", "v1", "configmaps"⟩, some "web", "settings"⟩ := by
  have planned : key.entry ∈ twins.plan allOptions ["web", "web"] :=
    (mem_plan reachable_twins.sound scoped_twins fun _ _ _ => looked_twins).mpr eligible
  rw [plan_twins, List.mem_pair, or_self] at planned
  exact congrArg Entry.key planned

theorem valid_twins {key : ObjectKey} (eligible : twins.Eligible allOptions key) :
    key.entry.IsValid := by
  rw [eligible_twins eligible]
  exact valid_web eligible_settings

theorem receives_twins {captured : List Entry}
    (only : ∀ entry ∈ captured, entry = ⟨⟨"", "v1", "configmaps"⟩, some "web", "settings"⟩) :
    Receives twins captured web := by
  constructor
  · intro entry member object found
    obtain rfl := only entry member
    obtain rfl := Option.some.inj found
    exact ⟨by decide, by decide⟩
  · intro entry member
    obtain rfl := only entry member
    exact ⟨_, rfl, rfl⟩
  · intro entry member ns inside
    obtain rfl := only entry member
    cases inside
    exact .inl rfl

theorem archiveSize_twins {written : List Entry} {members : List (String × Tar.Content)}
    {result : BackupResult} {volume : Volume} {name : String}
    (leaves : Leaves twins store name written members result volume)
    (stored : ∀ entry ∈ written, (twins.object? entry.key).isSome) : result.archiveSize < 2 ^ 64 := by
  have entries : twins.objects.map (·.1.entry) =
      [⟨⟨"", "v1", "configmaps"⟩, some "web", "settings"⟩, ⟨.namespaces, some "east", "web"⟩,
        ⟨.namespaces, some "west", "web"⟩] := by decide
  have bound : result.archiveSize ≤ 2 * (_ * 1024 + 1024) + 23 :=
    leaves.archiveSize_le stored entries (by decide +kernel)
  exact Nat.lt_of_le_of_lt bound (by decide)

/-- Both listings of the one namespace count its object, which is in the archive once. -/
theorem runRestore_runBackup_twins :
    twins.Reachable ∧ (twins.resources.map (·.type)).Nodup ∧ twins.Scoped ∧ web.Reachable ∧
    ∃ result after outcome last,
      plainEngine.runBackup (undisturbed startClock) session.discoverer session.lister "/tmp"
        allOptions { startWorld with outside := (twins, ()) } = (.ok result, after) ∧
      Receives twins [⟨⟨"", "v1", "configmaps"⟩, some "web", "settings"⟩] web ∧
      plainEngine.runRestore (undisturbed startClock) session.applier "/tmp" result.archiveName
        { after with outside := (web, ()) } = (.ok outcome, last) ∧
      result.objectCount = 2 ∧ outcome.applied = 1 := by
  refine ⟨reachable_twins, by decide, scoped_twins, reachable_web, ?_⟩
  obtain ⟨written, members, result, after, ran, _, whole, leaves⟩ :=
    runBackup_plain reachable_twins.sound scoped_twins looked_twins (fun _ => valid_twins)
  have fits : ∀ entry ∈ twins.plan allOptions ["web", "web"],
      EntryFits "/tmp/clusterbackup-0" entry := by
    intro entry member
    have fits := fits_web eligible_settings
    rw [plan_twins, List.mem_pair, or_self] at member
    rw [member]
    exact fits
  rw [whole fits, plan_twins] at leaves
  have stored : ∀ entry ∈ [(⟨⟨"", "v1", "configmaps"⟩, some "web", "settings"⟩ : Entry),
      ⟨⟨"", "v1", "configmaps"⟩, some "web", "settings"⟩], (twins.object? entry.key).isSome := by
    decide
  let later : World (MemoryCluster × Unit) := { after with outside := (web, ()) }
  have kept : later.volume.openFile result.archivePath = after.volume.openFile result.archivePath := rfl
  obtain ⟨outcome, last, entries, restored, distinct, same, count, _⟩ :=
    runRestore_leaves startClock ArchiveFormat.isTarGzip_tarGzip opens_tmp
      (Store.checkName_of_available hosts_bareVolume.available) reachable_twins.sound leaves
      (archiveSize_twins leaves stored) stored kept reachable_web.sound rfl rfl
      (receives_twins (by simp))
  have once : entries.Perm [⟨⟨"", "v1", "configmaps"⟩, some "web", "settings"⟩] :=
    (List.perm_ext_iff_of_nodup distinct (List.nodup_singleton _)).mpr (by simp [same])
  exact ⟨result, after, outcome, last, ran, receives_twins (by simp), restored, leaves.count,
    count.trans once.length_eq⟩

end Engine

end ClusterArchive
