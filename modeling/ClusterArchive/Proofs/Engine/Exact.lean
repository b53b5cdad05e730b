import ClusterArchive.Proofs.Engine.Captured
import ClusterArchive.Proofs.Engine.Run

/-! What a backup captures: all that is eligible, nothing else, and nothing twice. Failed discovery,
groups and listings only make less eligible; the run fails where it needs the namespaces and cannot
list them. -/

namespace ClusterArchive

namespace MemoryCluster

/-- A run needs to know the namespaces, and they cannot be listed. -/
structure Unlisted (cluster : MemoryCluster) (options : BackupOptions) : Prop where
  discovered : cluster.discoveryDown = false
  needed : ∃ resource, cluster.Selected options resource ∧ resource.namespaced = true
  all : NamespaceResolver.normalize options.includeNamespaces = []
  fails : (∀ resource ∈ cluster.resources, resource.type ≠ .namespaces) ∨
    (ResourceType.namespaces, none) ∈ cluster.failingLists

variable {cluster : MemoryCluster} {options : BackupOptions}

/-- Namespaces are known unless they have to be listed and that fails. -/
theorem lookedInto_cases (cluster : MemoryCluster) (options : BackupOptions) :
    (∃ names, cluster.lookedInto options = .ok names) ∧
      (NamespaceResolver.normalize options.includeNamespaces = [] →
        (∃ resource ∈ cluster.resources, resource.type = .namespaces) ∧
        (ResourceType.namespaces, none) ∉ cluster.failingLists) ∨
    (∃ error, cluster.lookedInto options = .error (.namespaceListing error)) ∧
      NamespaceResolver.normalize options.includeNamespaces = [] ∧
      ((∀ resource ∈ cluster.resources, resource.type ≠ .namespaces) ∨
        (ResourceType.namespaces, none) ∈ cluster.failingLists) := by
  by_cases all : NamespaceResolver.normalize options.includeNamespaces = []
  · by_cases registered : ∃ resource ∈ cluster.resources, resource.type = .namespaces
    · obtain ⟨resource, member, isType⟩ := registered
      obtain ⟨first, known⟩ := resource?_of_mem member
      rw [isType] at known
      by_cases failing : (ResourceType.namespaces, none) ∈ cluster.failingLists
      · refine .inr ⟨?_, all, .inr failing⟩
        simp [lookedInto, NamespaceResolver.make, all, list_known known, failing]
      · refine .inl ⟨?_, fun _ => ⟨⟨resource, member, isType⟩, failing⟩⟩
        simp [lookedInto, NamespaceResolver.make, all, list_known known, failing]
    · have absent : ∀ resource ∈ cluster.resources, resource.type ≠ .namespaces :=
        fun resource member isType => registered ⟨resource, member, isType⟩
      have unknown : cluster.resources.find? (·.type = .namespaces) = none :=
        List.find?_eq_none.mpr fun resource member => by simpa using absent resource member
      refine .inr ⟨?_, all, .inl absent⟩
      simp [lookedInto, NamespaceResolver.make, all, list, resource?, unknown, bind, Except.bind]
  · refine .inl ⟨?_, fun is => absurd is all⟩
    simp [lookedInto, NamespaceResolver.make, eraseDups_eq_nil, all]

/-- Where namespaces cannot be listed, they are not known, and otherwise they are if they are
needed. -/
theorem unlisted_or_looked (cluster : MemoryCluster) (options : BackupOptions) :
    (cluster.Unlisted options ∧
      ∃ error, cluster.lookedInto options = .error (.namespaceListing error)) ∨
    (¬cluster.Unlisted options ∧ ∃ names, (cluster.lookedInto options = .ok names ∨ names = []) ∧
      ∀ resource ∈ cluster.selected options, resource.namespaced = true →
        cluster.lookedInto options = .ok names) := by
  rcases lookedInto_cases cluster options with ⟨⟨names, looked⟩, fine⟩ | ⟨failed, all, fails⟩
  · refine .inr ⟨fun unlisted => ?_, names, .inl looked, fun _ _ _ => looked⟩
    obtain ⟨⟨resource, member, isType⟩, listable⟩ := fine unlisted.all
    rcases unlisted.fails with absent | failing
    · exact absent resource member isType
    · exact listable failing
  · by_cases needed : ∃ resource, cluster.Selected options resource ∧ resource.namespaced = true
    · obtain ⟨resource, isSelected, inside⟩ := needed
      exact .inl ⟨⟨isSelected.discovered, ⟨resource, isSelected, inside⟩, all, fails⟩, failed⟩
    · refine .inr ⟨fun unlisted => needed unlisted.needed, [], .inr rfl,
        fun resource member inside => ?_⟩
      exact absurd ⟨resource, mem_selected.mp member, inside⟩ needed

end MemoryCluster

namespace Engine

open MemoryCluster ClusterArchive.Path TarGzip Volume

variable {τ : Type} {clock : τ → Instant × τ} {cluster : MemoryCluster} {options : BackupOptions}
  {engine : Engine} {store : Store}

/-- In a session, a run may capture nothing but what is eligible. -/
theorem eligible_of_captures (sound : cluster.Sound) (inScope : cluster.Scoped) {t : τ} {entry : Entry}
    (captures : Captures (undisturbed clock) session.discoverer session.lister options (cluster, t)
      entry) : cluster.Eligible options entry.key := by
  have same {s : MemoryCluster × τ} (arises : Arises (undisturbed clock) session.discoverer
      session.lister (cluster, t) s) : s.1 = cluster := by
    induction arises with
    | start => rfl
    | now _ ih | cancelled _ ih => exact ih
    | discover _ ih => rwa [session_discover]
    | list resource ns _ ih => rwa [session_list]
  obtain ⟨type, ns, name⟩ := entry
  obtain ⟨resource, ⟨s, report, arises, told, selects⟩, isType, visits, later, objects, arisesLater,
    shown, object, member, named⟩ := captures
  rw [session_discover, same arises] at told
  rw [session_list, same arisesLater] at shown
  obtain rfl : type = resource.type := isType
  have is : cluster.Selected options resource := by
    refine mem_selected.mp ?_
    unfold MemoryCluster.selected
    unfold MemoryCluster.discover at told
    split at told
    next => cases told
    next up =>
      obtain rfl := Except.ok.inj told
      rwa [if_neg up]
  have looksInto : ∃ names, ns ∈ places options names resource ∧
      ∀ name ∈ names, cluster.LooksInto options name := by
    cases ns with
    | none =>
      obtain ⟨outside, included⟩ := visits
      exact ⟨[], mem_places.mpr ⟨outside, included⟩, by simp⟩
    | some ns =>
      obtain ⟨inside, names, ⟨found, arisesFound, finds⟩, isName⟩ := visits
      rw [find_session, same arisesFound] at finds
      exact ⟨names, mem_places.mpr ⟨inside, isName⟩, fun other isOther =>
        (mem_lookedInto sound finds other).mp isOther⟩
  obtain ⟨names, place, looks⟩ := looksInto
  have listed : ∃ key, (key, object) ∈ cluster.listed resource.type ns := by
    obtain ⟨first, known⟩ := resource?_of_mem is.registered
    rw [list_known known] at shown
    split at shown
    next => cases shown
    next fine =>
      obtain rfl := Except.ok.inj shown
      obtain ⟨⟨key, _⟩, inside, rfl⟩ := List.mem_map.mp member
      exact ⟨key, by rwa [MemoryCluster.listed, if_neg fine]⟩
  obtain ⟨key, shows⟩ := listed
  obtain ⟨found, isKeyType, isKeyNs, _⟩ :=
    (mem_listed sound inScope is.registered (mem_places.mp place).1).mp shows
  have isKeyName : key.name = name :=
    Option.some.inj ((sound.stored key object found).named.symm.trans named)
  have planned : (⟨resource.type, ns, name⟩ : Entry) ∈ cluster.planned resource.type ns :=
    List.mem_map.mpr ⟨(key, object), shows, by simp [ObjectKey.entry, isKeyType, isKeyNs, isKeyName]⟩
  exact eligible_of_mem_planOf sound inScope is (fun _ => looks)
    (List.mem_flatMap.mpr ⟨ns, place, planned⟩)

/-- The files of an archive are those of the eligible objects. -/
def AreEligible (cluster : MemoryCluster) (options : BackupOptions) (files : List (String × Bytes)) :
    Prop :=
  ∀ path body, (path, body) ∈ files ↔ ∃ key object, cluster.Eligible options key ∧
    cluster.object? key = some object ∧ path = key.entry.path ∧ body = object.archivedBytes

def web : MemoryCluster :=
  let named (name : String) : Document := [("metadata", .object [("name", .string name)])]
  let types := (MemoryCluster.empty.register .namespaces).register
    ⟨⟨"", "v1", "configmaps"⟩, "ConfigMap", true, ["create", "get", "list", "update"]⟩
  let spaces := (types.perform false (.create .namespaces none (named "web"))).2
  (spaces.perform false (.create ⟨"", "v1", "configmaps"⟩ (some "web") (named "settings"))).2

theorem reachable_web : web.Reachable :=
  (((Relation.ReflTransGen.single (Step.arrange (.register .namespaces) trivial)).tail
    (.arrange (.register _) trivial)).tail (.request false _)).tail (.request false _)

theorem web_stored {key : ObjectKey} {object : Document} (found : web.object? key = some object) :
    key = ⟨⟨"", "v1", "configmaps"⟩, some "web", "settings"⟩ ∨ key = ⟨.namespaces, none, "web"⟩ := by
  have member := List.mem_map_of_mem (f := Prod.fst) (Assoc.mem_of_get? found)
  have keys : web.objects.map Prod.fst =
      [⟨⟨"", "v1", "configmaps"⟩, some "web", "settings"⟩, ⟨.namespaces, none, "web"⟩] := by decide
  rw [keys] at member
  exact List.mem_pair.mp member

theorem scoped_web : web.Scoped := by
  intro key object found resource member same
  have resources : web.resources = [.namespaces,
    ⟨⟨"", "v1", "configmaps"⟩, "ConfigMap", true, ["create", "get", "list", "update"]⟩] := by rfl
  rw [resources] at member
  rcases List.mem_pair.mp member with rfl | rfl <;> rcases web_stored found with rfl | rfl
  · simp [Resource.namespaces, ResourceType.namespaces] at same
  · rfl
  · rfl
  · simp [ResourceType.namespaces] at same

def plainEngine : Engine := ⟨.standard, .tarGzip⟩

def bareVolume : Volume := ⟨[(["tmp"], .directory)], []⟩

def stagedVolume : Volume := bareVolume.put ["tmp", "clusterbackup-0"] .directory

def firstName : String := Archive.fileName ⟨0, 0⟩ plainEngine.format.extension

theorem firstName_eq : firstName = "cluster-backup-19700101-000000.tar.gz" := by decide

theorem isPlain_tmp : IsPlain "/tmp" ["tmp"] := by decide

theorem isPlain_staging : IsPlain "/tmp/clusterbackup-0" ["tmp", "clusterbackup-0"] := by
  decide

theorem isPlain_archive : IsPlain (Store.pathOf ⟨"/tmp", "tar.gz"⟩ firstName) ["tmp", firstName] := by
  rw [firstName_eq]
  decide

theorem bareVolume_node (location : Location) : bareVolume.node? location =
    if location = [] ∨ location = ["tmp"] then some .directory else none := by
  unfold node? bareVolume
  by_cases top : location = [] <;> by_cases tmp : location = ["tmp"] <;>
    simp [top, tmp, Assoc.get?, eq_comm]

theorem stagedVolume_node (location : Location) : stagedVolume.node? location =
    if location = ["tmp", "clusterbackup-0"] then some .directory
    else bareVolume.node? location := by
  rw [stagedVolume, node?_put bareVolume (by simp)]
  simp [eq_comm]

theorem makeStaging_tmp {engine : Engine} (unset : engine.config.stagingDirectory = none)
    {volume : Volume} (linkFree : volume.LinkFree []) (tmp : volume.Directories [] ["tmp"])
    (free : volume.node? ["tmp", "clusterbackup-0"] = none) : engine.makeStaging volume =
      (.ok "/tmp/clusterbackup-0", volume.put ["tmp", "clusterbackup-0"] .directory) := by
  have absent : volume.find false "/tmp/clusterbackup-0" = .error .notFound := by
    rw [isPlain_staging.find linkFree tmp, free]
  have name : stagingName volume "/tmp" = "clusterbackup-0" := by
    have path : Path.join "/tmp" ("clusterbackup-" ++ toString 0) = "/tmp/clusterbackup-0" := by decide
    have text : "clusterbackup-" ++ toString 0 = "clusterbackup-0" := by decide
    simp only [stagingName, List.range_succ_eq_map, List.find?, path, absent]
    exact text
  have path : Path.join "/tmp" "clusterbackup-0" = "/tmp/clusterbackup-0" := by decide
  have made : volume.makeDirectory "/tmp/clusterbackup-0" =
      .ok (volume.put ["tmp", "clusterbackup-0"] .directory) := by
    rw [isPlain_staging.makeDirectory, isPlain_staging.resolve linkFree tmp]
    simp [Except.bind, free]
  simp [makeStaging, unset, temporaryDirectory, name, path, made]

theorem hosts_bareVolume : Hosts plainEngine ⟨"/tmp", "tar.gz"⟩ firstName ⟨0, 0⟩ bareVolume
    "/tmp/clusterbackup-0" ["tmp", "clusterbackup-0"] stagedVolume := by
  have linkFree : bareVolume.LinkFree [] := by
    intro location target
    rw [bareVolume_node]
    split <;> simp
  have tmp : bareVolume.Directories [] ["tmp"] := by
    rw [directories_cons]
    exact ⟨rfl, directories_nil _ _⟩
  have linkFreeNow : stagedVolume.LinkFree [] := by
    intro location target
    rw [stagedVolume_node]
    split
    next => simp
    next => exact linkFree location target
  have tmpNow : stagedVolume.Directories [] ["tmp"] := by
    rw [directories_cons]
    exact ⟨rfl, directories_nil _ _⟩
  have staged : makeStaging plainEngine bareVolume = (.ok "/tmp/clusterbackup-0", stagedVolume) :=
    makeStaging_tmp rfl linkFree tmp (by simp [bareVolume_node])
  refine ⟨⟨List.pairwise_singleton .., ?_, rfl⟩, ?_, staged, ?_, by decide, ?_⟩
  · intro location node found
    rw [bareVolume_node] at found
    split at found
    next place => rcases place with rfl | rfl <;> rfl
    next => cases found
  · have checked : Store.checkName firstName = .ok () := by
      rw [firstName_eq]
      rfl
    have absent : bareVolume.node? ["tmp", firstName] = none := by
      rw [bareVolume_node]
      simp
    simp [Store.ensureAvailable, checked, isPlain_archive.find linkFree tmp, absent, bind, Except.bind]
  · exact isPlain_staging.find linkFreeNow tmpNow false
  · refine takesArchive_of_plain ⟨0, 0⟩ linkFreeNow (by simp) isPlain_tmp isPlain_archive
      (by rw [firstName_eq]; rfl) tmpNow (by rw [firstName_eq]; decide) ?_
    rw [firstName_eq]
    rfl

theorem opens_tmp : plainEngine.store "/tmp" = .ok ⟨"/tmp", "tar.gz"⟩ := by rfl

def startWorld : World (MemoryCluster × Unit) := ⟨bareVolume, [], default, web, ()⟩

def allOptions : BackupOptions := ⟨[], [], true, []⟩

theorem eligible_web {key : ObjectKey} (eligible : web.Eligible allOptions key) :
    key = ⟨⟨"", "v1", "configmaps"⟩, some "web", "settings"⟩ ∨ key = ⟨.namespaces, none, "web"⟩ := by
  obtain ⟨object, found⟩ := Option.isSome_iff_exists.mp eligible.stored
  exact web_stored found

theorem valid_web {key : ObjectKey} (eligible : web.Eligible allOptions key) :
    key.entry.IsValid := by
  rcases eligible_web eligible with rfl | rfl <;> decide

theorem fits_web {key : ObjectKey} (eligible : web.Eligible allOptions key) :
    EntryFits "/tmp/clusterbackup-0" key.entry := by
  rcases eligible_web eligible with rfl | rfl <;> decide

theorem listed_web : ¬web.Unlisted allOptions := by
  intro unlisted
  rcases unlisted.fails with absent | failing
  · exact absent .namespaces List.mem_cons_self rfl
  · exact List.not_mem_nil failing

def startClock (s : Unit) : Instant × Unit := (⟨0, 0⟩, s)

theorem eligible_settings :
    web.Eligible allOptions ⟨⟨"", "v1", "configmaps"⟩, some "web", "settings"⟩ where
  stored := by decide
  resource := by
    refine ⟨⟨⟨"", "v1", "configmaps"⟩, "ConfigMap", true, ["create", "get", "list", "update"]⟩, ?_, rfl⟩
    exact ⟨List.mem_cons_of_mem _ List.mem_cons_self, rfl, List.not_mem_nil, by decide, by decide +kernel⟩
  place := by
    simp only [LooksInto]
    rw [if_pos (by decide)]
    exact ⟨by decide, ⟨.namespaces, none, "web"⟩, by decide, rfl, rfl⟩
  listed := List.not_mem_nil

end Engine

end ClusterArchive
