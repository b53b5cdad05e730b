import ClusterArchive.Proofs.Cluster.Writes

/-! The form of the objects of a cluster, whatever was called on it. Each stands under its name, with a
version of its own that is the number of a write and an identifier of its own that is no later; every
write raises the version under its key, and an update keeps the identifier. -/

namespace ClusterArchive.MemoryCluster

/-- The objects of a cluster stand under their names. Their versions and identifiers are numbers of
writes, an identifier no later than the version, and no two objects share one. -/
structure Consistent (cluster : MemoryCluster) : Prop where
  keys : (cluster.objects.map fun (key, _) => key).Nodup
  named : ∀ key object, (key, object) ∈ cluster.objects →
    object.name? = some key.name ∧ key.name ≠ ""
  numbered : ∀ key object, (key, object) ∈ cluster.objects → ∃ first version,
    Assoc.get? "uid" object.metadata = some (uidText first) ∧
    object.resourceVersion? = some (toString version) ∧
    1 ≤ first ∧ first ≤ version ∧ version ≤ cluster.version
  versions : (cluster.objects.map fun (_, object) => object.resourceVersion?).Nodup
  uids : (cluster.objects.map fun (_, object) => Assoc.get? "uid" object.metadata).Nodup

theorem Numbered.key_of_version {cluster : MemoryCluster} {writes : List (ObjectKey × Nat)}
    (numbered : Numbered cluster writes) {key other : ObjectKey} {object second : Document}
    (found : cluster.object? key = some object) (foundOther : cluster.object? other = some second)
    (same : object.resourceVersion? = second.resourceVersion?) : key = other := by
  obtain ⟨version, last, is⟩ := numbered.stored found
  obtain ⟨number, lastOther, isOther⟩ := numbered.stored foundOther
  rw [is, isOther, Option.some.injEq] at same
  obtain rfl : version = number := versionText_inj.mp (congrArg Json.string same)
  exact numbered.key_unique (mem_of_lastVersion? last) (mem_of_lastVersion? lastOther)

theorem Numbered.key_of_uid {cluster : MemoryCluster} {writes : List (ObjectKey × Nat)}
    (numbered : Numbered cluster writes) {key other : ObjectKey} {object second : Document}
    (found : cluster.object? key = some object) (foundOther : cluster.object? other = some second)
    (same : Assoc.get? "uid" object.metadata = Assoc.get? "uid" second.metadata) : key = other := by
  obtain ⟨first, is, member⟩ := numbered.identified _ _ found
  obtain ⟨number, isOther, memberOther⟩ := numbered.identified _ _ foundOther
  rw [is, isOther, Option.some.injEq, uidText_inj] at same
  subst same
  exact numbered.key_unique member memberOther

theorem Numbered.consistent {cluster : MemoryCluster} {writes : List (ObjectKey × Nat)}
    (numbered : Numbered cluster writes) : Consistent cluster := by
  have found {key : ObjectKey} {object : Document} :
      (key, object) ∈ cluster.objects → cluster.object? key = some object :=
    numbered.sound.ascending.get?_of_mem
  have keys : (cluster.objects.map Prod.fst).Nodup := numbered.sound.ascending.nodup_keys
  have entries : cluster.objects.Nodup := keys.of_map
  have apart {α : Type} (part : Document → α)
      (single : ∀ key other object second, cluster.object? key = some object →
        cluster.object? other = some second → part object = part second → key = other) :
      (cluster.objects.map fun (_, object) => part object).Nodup := by
    apply entries.map_on
    rintro ⟨key, object⟩ member ⟨other, second⟩ memberOther same
    obtain rfl := single _ _ _ _ (found member) (found memberOther) same
    exact List.inj_on_of_nodup_map keys member memberOther rfl
  exact {
    keys := keys
    named := by
      intro key object member
      have named := (numbered.sound.stored _ _ (found member)).named
      exact ⟨named, Document.ne_empty_of_name? named⟩
    numbered := by
      intro key object member
      obtain ⟨first, identified, isWrite⟩ := numbered.identified _ _ (found member)
      obtain ⟨version, last, versioned⟩ := numbered.stored (found member)
      exact ⟨first, version, identified, versioned, (numbered.bounds isWrite).1,
        numbered.le_last isWrite last, (numbered.bounds (mem_of_lastVersion? last)).2⟩
    versions := apart _ fun _ _ _ _ => numbered.key_of_version
    uids := apart _ fun _ _ _ _ => numbered.key_of_uid }

theorem Numbered.fresh {start : MemoryCluster} (fresh : start = .empty ∨ start = .standard) :
    Numbered start [] := by
  rcases fresh with rfl | rfl
  · exact numbered_empty
  · exact numbered_standard

/-- A write puts its version under its key, which is higher than the one that was there. -/
theorem Numbered.raises {cluster : MemoryCluster} {writes : List (ObjectKey × Nat)}
    (numbered : Numbered cluster writes) {action : Action} {key : ObjectKey} {version : Nat}
    (written : cluster.write? action = some (key, version)) :
    ∃ object, (cluster.act action).object? key = some object ∧
      object.resourceVersion? = some (toString version) ∧
      ∀ old before, cluster.object? key = some old →
        old.resourceVersion? = some (toString before) → before < version := by
  rcases act_cases numbered.sound action with ⟨quiet, _⟩ | ⟨other, object, is, next, after⟩
  · rw [quiet] at written
    cases written
  · obtain ⟨rfl, rfl⟩ := Prod.mk.inj (Option.some.inj (is.symm.trans written))
    refine ⟨object, by rw [after, object?_store, if_pos rfl], next.versioned, ?_⟩
    intro old before found versioned
    obtain ⟨last, isLast, is⟩ := numbered.stored found
    obtain rfl : before = last :=
      versionText_inj.mp (congrArg Json.string (Option.some.inj (versioned.symm.trans is)))
    have bounds := numbered.bounds (mem_of_lastVersion? isLast)
    omega

theorem update_uid {cluster : MemoryCluster} (sound : Sound cluster) {cancelled : Bool}
    {type : ResourceType} {ns : Option String} {object : Document} {key : ObjectKey} {version : Nat}
    (written : cluster.write? (.request cancelled (.update type ns object)) = some (key, version)) :
    (cluster.uid? key).isSome ∧
      (cluster.act (.request cancelled (.update type ns object))).uid? key = cluster.uid? key := by
  obtain ⟨stored, after, answered, done, target⟩ := write?_request written
  obtain ⟨name, current, named, _, found, _, identity, rfl⟩ := update_cases answered
  obtain rfl : ⟨type, ns, name⟩ = key := by simpa [Request.target?, named] using target
  obtain ⟨uid, identified⟩ := (sound.stored _ _ found).identified
  have before : cluster.uid? ⟨type, ns, name⟩ = some uid := by simp [uid?, found, identified]
  refine ⟨by rw [before]; rfl, ?_⟩
  rw [act, done, before]
  simp [uid?, identity uid identified]

/-- Whatever is called on a cluster, its objects are consistent and its version counts the writes. A
write raises the version under its key, and an update keeps the identifier there. -/
theorem run_consistent {start : MemoryCluster} (fresh : start = .empty ∨ start = .standard)
    (actions : List Action) :
    (start.run actions).Consistent ∧
    (start.run actions).version = (start.writes actions).length ∧
    (∀ action key version, (start.run actions).write? action = some (key, version) →
      ∃ object, ((start.run actions).act action).object? key = some object ∧
        object.resourceVersion? = some (toString version) ∧
        ∀ old before, (start.run actions).object? key = some old →
          old.resourceVersion? = some (toString before) → before < version) ∧
    (∀ cancelled type ns object key version,
      (start.run actions).write? (.request cancelled (.update type ns object)) = some (key, version) →
      ((start.run actions).uid? key).isSome ∧
      ((start.run actions).act (.request cancelled (.update type ns object))).uid? key =
        (start.run actions).uid? key) := by
  have numbered := (Numbered.fresh fresh).run actions
  rw [List.nil_append] at numbered
  refine ⟨numbered.consistent, numbered.length, ?_, ?_⟩
  · intro action key version written
    exact numbered.raises written
  · intro cancelled type ns object key version written
    exact update_uid numbered.sound written

def settings : Document := [("metadata", .object [("name", .string "settings")])]

def settingsKey : ObjectKey := ⟨⟨"", "v1", "configmaps"⟩, some "web", "settings"⟩

/-- The configuration is created in a namespace that was seeded; an update without its version fails. -/
def settingsCalls : List Action := [
  .arrange (.seed .namespaces none (.object [("metadata", .object [("name", .string "web")])])),
  .request false (.create settingsKey.type settingsKey.ns settings),
  .request false (.update settingsKey.type settingsKey.ns settings)]

/-- An update of the configuration with the version that it was created under. -/
def renewal : Action :=
  .request false (.update settingsKey.type settingsKey.ns (settings.stamp "resourceVersion" "2"))

theorem run_consistent_settings :
    (standard.run settingsCalls).Consistent ∧ (standard.run settingsCalls).version = 2 ∧
    (standard.run settingsCalls).write? renewal = some (settingsKey, 3) ∧
    ((standard.run settingsCalls).act renewal).uid? settingsKey = some (uidText 2) := by
  obtain ⟨consistent, counted, _, kept⟩ := run_consistent (.inr rfl) settingsCalls
  have renewed : (standard.run settingsCalls).write? renewal = some (settingsKey, 3) := by rfl
  refine ⟨consistent, counted.trans (by rfl), renewed, ?_⟩
  exact (kept _ _ _ _ _ _ renewed).2.trans (by rfl)

end ClusterArchive.MemoryCluster
