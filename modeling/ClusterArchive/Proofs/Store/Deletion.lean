import ClusterArchive.Proofs.Store
import ClusterArchive.Proofs.Volume.Removal
import ClusterArchive.Retention

/-! Deletions of archives that are listed. Each takes one file from the directory, and so one archive
from the listing; what else can be deleted still can. -/

namespace ClusterArchive.Store

open Volume

variable {store : Store} {volume : Volume} {place : Location} {archives : List ArchiveInfo}
  {doomed : List ArchiveInfo} {info : ArchiveInfo}

/-- A deletion removes what lies at the path of its name, but no directory. -/
theorem delete_eq_ok {name : String} {after : Volume} :
    store.delete volume name = .ok (true, after) ↔ checkName name = .ok () ∧ ∃ location node,
      volume.find false (store.pathOf name) = .ok (location, node) ∧ node ≠ .directory ∧
      after = volume.drop location := by
  unfold delete
  cases checked : checkName name with
  | error error => simp [bind, Except.bind]
  | ok =>
    unfold Volume.remove
    cases found : volume.find false (store.pathOf name) with
    | error error => cases error <;> simp [bind, Except.bind]
    | ok there =>
      obtain ⟨location, node⟩ := there
      cases node <;> simp [bind, Except.bind, eq_comm]

def Deletable (store : Store) (volume : Volume) (name : String) : Prop :=
  ∃ after, store.delete volume name = .ok (true, after)

/-- A volume whose archives are listed from a directory. -/
structure Listing (store : Store) (volume : Volume) (place : Location)
    (archives : List ArchiveInfo) : Prop where
  wellFormed : volume.WellFormed
  leads : volume.find true store.directory = .ok (place, .directory)
  listed : store.list volume = .ok archives

theorem Listing.mem (listing : Listing store volume place archives) : info ∈ archives ↔ ∃ contents,
    volume.node? (place ++ [info.name]) = some (.file contents info.modified) ∧
    store.isArchiveName info.name = true ∧ info.path = store.pathOf info.name ∧
    info.size = contents.size :=
  mem_list listing.wellFormed.ascending listing.leads listing.listed

theorem Listing.ascending (listing : Listing store volume place archives) :
    archives.Pairwise fun first second => first.name < second.name :=
  list_ascending listing.wellFormed.ascending listing.listed

theorem Listing.find (listing : Listing store volume place archives) {name : String}
    (deletable : Deletable store volume name) : ∃ node,
      volume.find false (store.pathOf name) = .ok (place ++ [name], node) ∧ node ≠ .directory := by
  obtain ⟨after, deleted⟩ := deletable
  obtain ⟨checked, location, node, found, other, _⟩ := delete_eq_ok.mp deleted
  obtain ⟨step, up⟩ := checkName_step checked
  -- The path of a member goes through the directory that the listing was read from.
  obtain ⟨above, rfl, _, leads⟩ := listing.wellFormed.leads step up (find_eq_ok.mp found).1
  obtain ⟨accepts, nonempty⟩ := resolve_ok (find_eq_ok.mp listing.leads).1
  obtain ⟨rfl, _⟩ := Prod.mk.inj
    (Except.ok.inj ((leads.find accepts nonempty).symm.trans listing.leads))
  exact ⟨node, found, other⟩

theorem Listing.without (listing : Listing store volume place archives) (member : info ∈ archives) :
    Listing store (volume.drop (place ++ [info.name])) place
      (archives.filter fun other => other.name ≠ info.name) := by
  obtain ⟨contents, file, _⟩ := listing.mem.mp member
  have below : place ++ [info.name] ≠ [] := by simp
  have apart {name : String} (differ : name ≠ info.name) : place ++ [info.name] ≠ place ++ [name] :=
    fun same => differ (List.singleton_inj.mp (List.append_cancel_left same)).symm
  have leads := find_drop_file file listing.leads (by
    intro same
    rw [same, (find_eq_ok.mp listing.leads).2] at file
    cases file)
  obtain ⟨left, listed⟩ : ∃ left, store.list _ = .ok left := ⟨_, list_of_leads leads⟩
  have after : Listing store (volume.drop (place ++ [info.name])) place left :=
    ⟨listing.wellFormed.drop (by simp [file]), leads, listed⟩
  have same : left = archives.filter fun other => other.name ≠ info.name := by
    apply eq_of_ascending after.ascending (listing.ascending.filter _)
    intro other
    rw [List.mem_filter, after.mem, listing.mem, node?_drop volume below]
    by_cases gone : other.name = info.name
    · simp [gone]
    · simp [gone, apart gone]
  exact same ▸ after

/-- Files that are gone one after the other are so many archives less. -/
theorem Listing.withoutAll (listing : Listing store volume place archives)
    (members : ∀ info ∈ doomed, info ∈ archives) (apart : (doomed.map (·.name)).Nodup) :
    Listing store (volume.dropAll place (doomed.map (·.name))) place
      (archives.filter fun other => other.name ∉ doomed.map (·.name)) := by
  induction doomed generalizing volume archives with
  | nil => simpa [dropAll] using listing
  | cons info rest ih =>
    obtain ⟨first, others⟩ := List.forall_mem_cons.mp members
    rw [List.map_cons, List.nodup_cons] at apart
    have left : (archives.filter fun other => other.name ≠ info.name).filter
        (fun other => other.name ∉ rest.map (·.name)) =
        archives.filter fun other => other.name ∉ (info :: rest).map (·.name) := by
      rw [List.filter_filter]
      apply List.filter_congr
      intro other _
      rw [List.map_cons, Bool.eq_iff_iff]
      simp only [Bool.and_eq_true, decide_eq_true_eq, List.mem_cons, not_or, and_comm, ne_eq]
    rw [← left]
    refine ih (listing.without first) (fun other member => ?_) apart.2
    have differ : other.name ≠ info.name := fun same => apart.1 (same ▸ List.mem_map_of_mem member)
    exact List.mem_filter.mpr ⟨others other member, by simpa using differ⟩

/-- A deletion removes an archive that is listed, and from no other the chance to be deleted. -/
theorem Listing.delete (listing : Listing store volume place archives) (member : info ∈ archives)
    (deletable : Deletable store volume info.name) :
    store.delete volume info.name = .ok (true, volume.drop (place ++ [info.name])) ∧
    ∀ name, name ≠ info.name → Deletable store volume name →
      Deletable store (volume.drop (place ++ [info.name])) name := by
  obtain ⟨contents, file, _⟩ := listing.mem.mp member
  refine ⟨?_, ?_⟩
  · obtain ⟨after, deleted⟩ := deletable
    obtain ⟨node, found, _⟩ := listing.find ⟨after, deleted⟩
    obtain ⟨_, location, _, foundThere, _, rfl⟩ := delete_eq_ok.mp deleted
    obtain ⟨rfl, _⟩ := Prod.mk.inj (Except.ok.inj (found.symm.trans foundThere))
    exact deleted
  · intro name differ deletableToo
    obtain ⟨node, found, other⟩ := listing.find deletableToo
    obtain ⟨_, deleted⟩ := deletableToo
    have apart : place ++ [info.name] ≠ place ++ [name] :=
      fun same => differ (List.singleton_inj.mp (List.append_cancel_left same)).symm
    exact ⟨_, delete_eq_ok.mpr ⟨(delete_eq_ok.mp deleted).1, _, node,
      find_drop_file file found apart, other, rfl⟩⟩

/-- Deletions one after the other take all their archives from the listing. -/
theorem Listing.deleteEach (listing : Listing store volume place archives)
    (members : ∀ info ∈ doomed, info ∈ archives)
    (apart : (doomed.map (·.name)).Nodup)
    (deletable : ∀ info ∈ doomed, Deletable store volume info.name) :
    let names := doomed.map (·.name)
    store.deleteEach volume names = (.ok names, volume.dropAll place names) ∧
    ∀ name, name ∉ names → Deletable store volume name →
      Deletable store (volume.dropAll place names) name := by
  -- Each deletion leaves a listing again, of the archives that are left.
  induction doomed generalizing volume archives with
  | nil => simp [Store.deleteEach, dropAll]
  | cons info rest ih =>
    obtain ⟨memberFirst, membersRest⟩ := List.forall_mem_cons.mp members
    obtain ⟨deletableFirst, deletableRest⟩ := List.forall_mem_cons.mp deletable
    rw [List.map_cons, List.nodup_cons] at apart
    have differ : ∀ other ∈ rest, other.name ≠ info.name := by
      intro other member same
      exact apart.1 (same ▸ List.mem_map_of_mem member)
    obtain ⟨deleted, others⟩ := listing.delete memberFirst deletableFirst
    obtain ⟨deletedRest, othersRest⟩ := ih (listing.without memberFirst)
      (fun other member => List.mem_filter.mpr ⟨membersRest other member, by simpa using differ other member⟩)
      apart.2 (fun other member => others _ (differ other member) (deletableRest other member))
    refine ⟨?_, ?_⟩
    · simp only [List.map_cons, Store.deleteEach, deleted, deletedRest]
      rfl
    · intro name absent deletableToo
      obtain ⟨first, later⟩ := not_or.mp (mt List.mem_cons.mpr absent)
      exact othersRest name later (others name first deletableToo)

/-- Deletion of what a listing starts or ends with, or of any part of it. -/
theorem Listing.deletePart (listing : Listing store volume place archives)
    (part : doomed.Sublist archives) (deletable : ∀ info ∈ doomed, Deletable store volume info.name) :
    let names := doomed.map (·.name)
    store.deleteEach volume names = (.ok names, volume.dropAll place names) ∧
    Listing store (volume.dropAll place names) place (archives.filter fun info => info ∉ doomed) ∧
    ∀ info ∈ archives, info ∉ doomed → Deletable store volume info.name →
      Deletable store (volume.dropAll place names) info.name := by
  have within : ∀ info ∈ doomed, info ∈ archives := fun info member => part.subset member
  have apart := (nodup_names listing.ascending).sublist (part.map _)
  obtain ⟨deleted, others⟩ := listing.deleteEach within apart deletable
  have left : archives.filter (fun info => info.name ∉ doomed.map (·.name)) =
      archives.filter fun info => info ∉ doomed := by
    apply List.filter_congr
    intro info member
    rw [decide_eq_decide, name_mem_iff listing.ascending within member]
  refine ⟨deleted, left ▸ listing.withoutAll within apart, ?_⟩
  intro info member spared
  exact others info.name (mt (name_mem_iff listing.ascending within member).mp spared)

end ClusterArchive.Store
