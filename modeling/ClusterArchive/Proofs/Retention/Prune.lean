import ClusterArchive.Proofs.Retention.Policy
import ClusterArchive.Proofs.Store.Deletion
import ClusterArchive.Proofs.Volume.Plain

/-! Pruning keeps what its policy says. Both phases succeed where what is doomed can be deleted. They
leave the survivors and all that is no archive, and say which archives are gone. -/

namespace ClusterArchive

namespace Store

open Volume RetentionPolicy

variable {store : Store} {policy : RetentionPolicy} {now : Instant} {volume : Volume} {place : Location}
  {archives : List ArchiveInfo} {info : ArchiveInfo}

/-- The phases of a pruning, the first of which may have nothing to do. -/
theorem prune_eq (policy : RetentionPolicy) (now : Instant) (volume : Volume) :
    store.prune policy now volume =
      match (policy.cutoff? now).elim (.ok [], volume) (store.pruneByAge volume) with
      | (.error error, aged) => (.error error, aged)
      | (.ok byAge, aged) =>
        match store.list aged with
        | .error error => (.error error, aged)
        | .ok archives =>
          match policy.maxCount with
          | none => (.ok ⟨byAge, [], archives.length⟩, aged)
          | some most =>
            match store.pruneByCount aged most archives with
            | (.error error, after) => (.error error, after)
            | (.ok byCount, after) => (.ok ⟨byAge, byCount, min archives.length most⟩, after) := by
  unfold Store.prune
  cases policy.cutoff? now with
  | none => rfl
  | some cutoff =>
    dsimp only [Option.elim_some]
    rcases store.pruneByAge volume cutoff with ⟨aged, after⟩
    cases aged <;> rfl

theorem prune_of_aged {aged : Volume} {byAge : List String} {young : List ArchiveInfo}
    (first : (policy.cutoff? now).elim (.ok [], volume) (store.pruneByAge volume) = (.ok byAge, aged))
    (listed : store.list aged = .ok young) :
    (policy.maxCount = none →
      store.prune policy now volume = (.ok ⟨byAge, [], young.length⟩, aged)) ∧
    ∀ most byCount after, policy.maxCount = some most →
      store.pruneByCount aged most young = (.ok byCount, after) →
      store.prune policy now volume = (.ok ⟨byAge, byCount, min young.length most⟩, after) := by
  constructor
  · intro unlimited
    simp only [prune_eq, first, listed, unlimited]
  · intro most byCount after limited counted
    simp only [prune_eq, first, listed, limited, counted]

theorem Listing.prune_age (listing : Listing store volume place archives) (regular : now.IsRegular)
    (regularArchives : ∀ info ∈ archives, info.modified.IsRegular)
    (deletable : ∀ info ∈ policy.expired now archives, Deletable store volume info.name) :
    let names := (policy.expired now archives).map (·.name)
    (policy.cutoff? now).elim (.ok [], volume) (store.pruneByAge volume) =
      (.ok names, volume.dropAll place names) ∧
    Listing store (volume.dropAll place names) place (policy.young now archives) ∧
    ∀ info ∈ policy.young now archives, Deletable store volume info.name →
      Deletable store (volume.dropAll place names) info.name := by
  obtain ⟨deleted, after, others⟩ := listing.deletePart List.filter_sublist deletable
  have left : archives.filter (fun info => info ∉ policy.expired now archives) =
      policy.young now archives := by
    apply List.filter_congr
    intro info member
    simp [mem_expired, member]
  refine ⟨?_, left ▸ after, ?_⟩
  · cases is : policy.cutoff? now with
    | some cutoff =>
      rw [Option.elim_some, pruneByAge, listing.listed]
      simp only [expired_eq regular regularArchives is]
      exact deleted
    | none =>
      have nothing : policy.expired now archives = [] := by
        apply List.filter_eq_nil_iff.mpr
        intro info member
        simpa using spares_of_cutoff? regular (regularArchives info member) is
      rw [nothing]
      rfl
  · intro info member
    obtain ⟨listed, spared⟩ := mem_young.mp member
    exact others info listed fun isExpired => (mem_expired.mp isExpired).2 spared

theorem Listing.of_mem_excess (listing : Listing store volume place archives)
    (member : info ∈ policy.excess now archives) :
    info ∈ policy.young now archives ∧ info ∉ policy.survivors now archives := by
  have once : (policy.young now archives).Nodup :=
    (nodup_names listing.ascending).of_map.sublist List.filter_sublist
  rw [← policy.excess_append_survivors now archives] at once ⊢
  exact ⟨List.mem_append_left _ member,
    fun survives => (List.nodup_append.mp once).2.2 info member info survives rfl⟩

theorem Listing.prune_count (listing : Listing store volume place archives) {aged : Volume}
    (agedListing : Listing store aged place (policy.young now archives))
    (deletable : ∀ info ∈ policy.excess now archives, Deletable store aged info.name) :
    let names := (policy.excess now archives).map (·.name)
    store.deleteEach aged names = (.ok names, aged.dropAll place names) ∧
    Listing store (aged.dropAll place names) place (policy.survivors now archives) := by
  have parts := policy.excess_append_survivors now archives
  obtain ⟨deleted, after, _⟩ :=
    agedListing.deletePart (policy.excess_sublist now archives) deletable
  have left : (policy.young now archives).filter (fun info => info ∉ policy.excess now archives) =
      policy.survivors now archives := by
    rw [← parts, List.filter_append, List.filter_eq_nil_iff.mpr (by simp), List.nil_append]
    apply List.filter_eq_self.mpr
    intro info survives
    simpa using fun tooMuch => (listing.of_mem_excess tooMuch).2 survives
  exact ⟨deleted, left ▸ after⟩

/-- Both phases succeed where all that is doomed can be deleted, and leave the survivors. -/
theorem Listing.prune (listing : Listing store volume place archives) (policy : RetentionPolicy)
    (regular : now.IsRegular)
    (regularArchives : ∀ info ∈ archives, info.modified.IsRegular)
    (deletable : ∀ info ∈ archives, info ∉ policy.survivors now archives →
      Deletable store volume info.name) :
    let byAge := (policy.expired now archives).map (·.name)
    let byCount := (policy.excess now archives).map (·.name)
    store.prune policy now volume =
      (.ok ⟨byAge, byCount, (policy.survivors now archives).length⟩,
        volume.dropAll place (byAge ++ byCount)) ∧
    Listing store (volume.dropAll place (byAge ++ byCount)) place (policy.survivors now archives) := by
  intro byAge byCount
  obtain ⟨aged, agedListing, others⟩ := listing.prune_age regular regularArchives (by
    intro info isExpired
    obtain ⟨member, old⟩ := mem_expired.mp isExpired
    exact deletable info member fun survives => old (mem_young.mp (mem_young_of_survives survives)).2)
  -- What is too much could be deleted at first; the deletions of the first phase leave it so.
  obtain ⟨counted, after⟩ := listing.prune_count agedListing (by
    intro info tooMuch
    obtain ⟨isYoung, dies⟩ := listing.of_mem_excess tooMuch
    exact others info isYoung (deletable info (mem_young.mp isYoung).1 dies))
  rw [dropAll_append]
  refine ⟨?_, after⟩
  obtain ⟨unlimited, limited⟩ := prune_of_aged aged agedListing.listed
  cases count : policy.maxCount with
  | none =>
    have nothing : byCount = [] := by simp [byCount, excess, count]
    have all : policy.survivors now archives = policy.young now archives := by
      simp [survivors, count]
    rw [unlimited count, nothing, all]
    rfl
  | some most =>
    have names : ((policy.young now archives).take
        ((policy.young now archives).length - most)).map (·.name) = byCount := by
      simp [byCount, excess, count, List.rdrop]
    have retained : min (policy.young now archives).length most =
        (policy.survivors now archives).length := by
      simp only [survivors, count, List.rtake, List.length_drop]
      omega
    rw [limited most byCount _ count (by rw [pruneByCount, names]; exact counted), retained]

theorem prune_nothing (policy : RetentionPolicy) (now : Instant) (listed : store.list volume = .ok []) :
    store.prune policy now volume = (.ok ⟨[], [], 0⟩, volume) := by
  have first : (policy.cutoff? now).elim (.ok [], volume) (store.pruneByAge volume) =
      (.ok [], volume) := by
    cases policy.cutoff? now with
    | none => rfl
    | some cutoff => simp [pruneByAge, listed, expired, Store.deleteEach]
  obtain ⟨unlimited, limited⟩ := prune_of_aged first listed
  cases count : policy.maxCount with
  | none => exact unlimited count
  | some most => simpa using limited most [] volume count (by simp [pruneByCount, Store.deleteEach])

structure Pruned (store : Store) (policy : RetentionPolicy) (now : Instant) (volume : Volume)
    (archives : List ArchiveInfo) (report : CleanupReport) (after : Volume) : Prop where
  survivors : store.list after = .ok (policy.survivors now archives)
  byAge : report.deletedByAge = (policy.expired now archives).map (·.name)
  byCount : report.deletedByCount = (policy.excess now archives).map (·.name)
  retained : report.retained = (policy.survivors now archives).length
  ordered : report.deletedByAge.Pairwise (· < ·) ∧ report.deletedByCount.Pairwise (· < ·)
  apart : report.deletedByAge.Disjoint report.deletedByCount
  accounts : (report.deletedByAge ++ report.deletedByCount ++
    (policy.survivors now archives).map (·.name)).Perm (archives.map (·.name))
  /-- Nothing is new or other than it was. -/
  kept : Keeps after volume
  /-- Nothing is gone but what is reported, from the directory of the store. -/
  others : ∀ location node, volume.node? location = some node → after.node? location = some node ∨
    ∃ place name, volume.find true store.directory = .ok (place, .directory) ∧
      name ∈ report.deletedByAge ++ report.deletedByCount ∧ location = place ++ [name]
  missing : volume.readDirectory store.directory = .error .notFound → after = volume
  /-- At the same time nothing more is deleted. -/
  again : store.prune policy now after = (.ok ⟨[], [], report.retained⟩, after)

theorem accounts (policy : RetentionPolicy) (now : Instant) (archives : List ArchiveInfo) :
    (policy.expired now archives ++ policy.excess now archives ++ policy.survivors now archives).Perm
      archives := by
  rw [List.append_assoc, excess_append_survivors]
  have parts := List.filter_append_perm (fun info => decide (policy.Spares now info)) archives
  apply List.perm_append_comm.trans
  simpa [young, RetentionPolicy.expired] using parts

theorem Listing.pruned (listing : Listing store volume place archives) (regular : now.IsRegular)
    (regularArchives : ∀ info ∈ archives, info.modified.IsRegular)
    (after : Listing store (volume.dropAll place ((policy.expired now archives).map (·.name) ++
      (policy.excess now archives).map (·.name))) place (policy.survivors now archives)) :
    Pruned store policy now volume archives
      ⟨(policy.expired now archives).map (·.name), (policy.excess now archives).map (·.name),
        (policy.survivors now archives).length⟩
      (volume.dropAll place ((policy.expired now archives).map (·.name) ++
        (policy.excess now archives).map (·.name))) := by
  have accounted : ((policy.expired now archives).map (·.name) ++
      (policy.excess now archives).map (·.name) ++
      (policy.survivors now archives).map (·.name)).Perm (archives.map (·.name)) := by
    rw [← List.map_append, ← List.map_append]
    exact (accounts policy now archives).map _
  have ordered {part : List ArchiveInfo} (within : part.Sublist archives) :
      (part.map (·.name)).Pairwise (· < ·) :=
    List.pairwise_map.mpr (listing.ascending.sublist within)
  have tooMuch : (policy.excess now archives).Sublist archives :=
    (policy.excess_sublist now archives).trans List.filter_sublist
  refine ⟨after.listed, rfl, rfl, rfl, ⟨ordered List.filter_sublist, ordered tooMuch⟩, ?_, accounted,
    keeps_dropAll .., ?_, ?_, ?_⟩
  · have once := (accounted.nodup_iff.mpr (nodup_names listing.ascending))
    exact List.disjoint_of_nodup_append (List.nodup_append.mp once).1
  · intro location node found
    rw [node?_dropAll]
    split
    next gone =>
      obtain ⟨name, deleted, rfl⟩ := gone
      exact .inr ⟨place, name, listing.leads, deleted, rfl⟩
    next => exact .inl found
  · intro missing
    simp [readDirectory, listing.leads, bind, Except.bind] at missing
  · have regularSurvivors : ∀ info ∈ policy.survivors now archives, info.modified.IsRegular :=
      fun info survives => regularArchives info (mem_young.mp (mem_young_of_survives survives)).1
    obtain ⟨again, _⟩ := after.prune policy regular regularSurvivors (by
      intro info survives dies
      rw [survivors_survivors] at dies
      exact absurd survives dies)
    simpa [expired_survivors, excess_survivors, survivors_survivors, dropAll] using again

/-- Pruning keeps the last archives among those that are not too old. It deletes all others and
nothing else, says so, and finds nothing more to delete. -/
theorem prune_exact (policy : RetentionPolicy) (wellFormed : volume.WellFormed)
    (regular : now.IsRegular) (listed : store.list volume = .ok archives)
    (regularArchives : ∀ info ∈ archives, info.modified.IsRegular)
    (deletable : ∀ info ∈ archives, info ∉ policy.survivors now archives →
      ∃ after, store.delete volume info.name = .ok (true, after)) :
    ∃ report after, store.prune policy now volume = (.ok report, after) ∧
      Pruned store policy now volume archives report after := by
  rcases list_cases listed with ⟨place, leads, _⟩ | ⟨missing, rfl⟩
  · have listing : Listing store volume place archives := ⟨wellFormed, leads, listed⟩
    obtain ⟨pruned, after⟩ := listing.prune policy regular regularArchives deletable
    exact ⟨_, _, pruned, listing.pruned regular regularArchives after⟩
  · obtain ⟨excessNone, survivorsNone⟩ :=
      List.append_eq_nil_iff.mp (policy.excess_append_survivors now [])
    refine ⟨_, volume, prune_nothing policy now listed, ?_⟩
    exact {
      survivors := by rw [survivorsNone, listed]
      byAge := rfl
      byCount := by rw [excessNone]; rfl
      retained := by rw [survivorsNone]; rfl
      ordered := ⟨.nil, .nil⟩
      apart := List.disjoint_nil_left _
      accounts := by rw [survivorsNone]; rfl
      kept := .refl volume
      others := fun _ _ found => .inl found
      missing := fun _ => rfl
      again := prune_nothing policy now listed }

def agedVolume : Volume := ⟨[
  (["tmp"], .directory),
  (["tmp", "cluster-backup-a.tar"], .file (.ofBytes []) ⟨0, 0⟩),
  (["tmp", "cluster-backup-b.tar"], .file (.ofBytes []) ⟨100000, 0⟩),
  (["tmp", "cluster-backup-c.tar"], .file (.ofBytes []) ⟨150000, 0⟩),
  (["tmp", "notes"], .file (.ofBytes []) ⟨0, 0⟩)], []⟩

def tarStore : Store := ⟨"/tmp", "tar"⟩

def agedInfo (name : String) (seconds : Int) : ArchiveInfo :=
  ⟨name, tarStore.pathOf name, 0, ⟨seconds, 0⟩⟩

def agedArchives : List ArchiveInfo := [agedInfo "cluster-backup-a.tar" 0,
  agedInfo "cluster-backup-b.tar" 100000, agedInfo "cluster-backup-c.tar" 150000]

theorem wellFormed_aged : agedVolume.WellFormed := .of_nodes (by decide) (by decide) rfl

theorem linkFree_aged : agedVolume.LinkFree [] := .of_nodes (by simp [agedVolume])

theorem directories_aged : agedVolume.Directories [] ["tmp"] := by
  rw [directories_cons]
  exact ⟨rfl, directories_nil _ _⟩

theorem list_aged : tarStore.list agedVolume = .ok agedArchives := by
  have plain : IsPlain tarStore.directory ["tmp"] := by decide
  have leads := plain.find linkFree_aged (directories_nil _ _) true
  exact list_of_sorted leads (by decide) (by decide)

theorem deletable_aged {name : String} (checked : checkName name = .ok ())
    (plain : IsPlain (tarStore.pathOf name) ["tmp", name]) {contents : Contents} {modified : Instant}
    (file : agedVolume.node? ["tmp", name] = some (.file contents modified)) :
    ∃ after, tarStore.delete agedVolume name = .ok (true, after) := by
  have found := plain.find linkFree_aged directories_aged false
  rw [file] at found
  exact ⟨_, delete_file checked found⟩

def agedPolicy : RetentionPolicy := ⟨some 1, some 1⟩

theorem prune_exact_aged : ∃ report after,
    tarStore.prune agedPolicy ⟨172800, 0⟩ agedVolume = (.ok report, after) ∧
    report = ⟨["cluster-backup-a.tar"], ["cluster-backup-b.tar"], 1⟩ ∧
    tarStore.list after = .ok [agedInfo "cluster-backup-c.tar" 150000] ∧
    after.node? ["tmp", "notes"] = some (.file (.ofBytes []) ⟨0, 0⟩) := by
  have regular : Instant.IsRegular ⟨172800, 0⟩ := by decide
  have regularArchives : ∀ info ∈ agedArchives, info.modified.IsRegular := by decide
  have left : agedPolicy.survivors ⟨172800, 0⟩ agedArchives =
      [agedInfo "cluster-backup-c.tar" 150000] := by decide
  obtain ⟨⟨byAge, byCount, retained⟩, after, pruned, is⟩ :=
    prune_exact agedPolicy wellFormed_aged regular list_aged regularArchives (by
      intro info member dies
      simp only [agedArchives, List.mem_cons, List.not_mem_nil, or_false] at member
      rcases member with rfl | rfl | rfl
      · exact deletable_aged (by rfl) (by decide) rfl
      · exact deletable_aged (by rfl) (by decide) rfl
      · exact absurd dies (by rw [left]; simp))
  obtain rfl : byAge = ["cluster-backup-a.tar"] := is.byAge.trans (by decide)
  obtain rfl : byCount = ["cluster-backup-b.tar"] := is.byCount.trans (by decide)
  obtain rfl : retained = 1 := is.retained.trans (by rw [left]; rfl)
  refine ⟨_, after, pruned, rfl, left ▸ is.survivors, ?_⟩
  rcases is.others ["tmp", "notes"] _ rfl with kept | ⟨place, name, _, deleted, same⟩
  · exact kept
  · have last : name = "notes" := by simpa using (congrArg List.getLast? same).symm
    rw [last] at deleted
    exact absurd deleted (by decide)

end Store

end ClusterArchive
