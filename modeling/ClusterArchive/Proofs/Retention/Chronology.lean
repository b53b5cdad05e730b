import ClusterArchive.Proofs.Archive
import ClusterArchive.Proofs.Retention.Prune
import ClusterArchive.Proofs.Volume.Entrance

/-! Runs are listed from the oldest on, and so their archives are deleted. An archive that is listed is
never missed by its deletion: it is removed, or the deletions end there. -/

namespace ClusterArchive.Store

open Volume ClusterArchive.Path Archive

variable {store : Store} {volume : Volume} {place : Location} {archives doomed : List ArchiveInfo}
  {info : ArchiveInfo}

theorem delete_failed {name : String} {error : FileError} (checked : checkName name = .ok ())
    (failed : volume.find false (store.pathOf name) = .error error) (other : error ≠ .notFound) :
    store.delete volume name = .error (.retention name error.message) := by
  cases error with
  | notFound => exact absurd rfl other
  | _ => simp [Store.delete, checked, Volume.remove, failed, bind, Except.bind]

/-- What is listed is found by its deletion, if anything can be. -/
theorem Listing.delete_cases (listing : Listing store volume place archives) (member : info ∈ archives) :
    Deletable store volume info.name ∨ ∃ error, store.delete volume info.name = .error error := by
  obtain ⟨contents, file, _⟩ := listing.mem.mp member
  rcases checkName_cases info.name with ⟨is, checked⟩ | ⟨_, message, refused⟩
  · have nonempty : store.directory ≠ "" := (resolve_ok (find_eq_ok.mp listing.leads).1).2
    by_cases accepts : Accepts (store.pathOf info.name)
    · by_cases short : info.name.utf8ByteSize ≤ nameLimit
      · have found := listing.wellFormed.find_member listing.leads is.step is.up short accepts (.inl rfl)
        rw [file] at found
        exact .inl ⟨_, delete_file checked found⟩
      · obtain ⟨_, left, further⟩ := listing.wellFormed.enters listing.leads
        have failed : volume.find false (store.pathOf info.name) = .error .nameTooLong := by
          rw [Volume.find, resolve_of_accepts accepts (join_ne_empty nonempty _), pathOf,
            steps_member is.step, isAbsolute_join is.step.isAbsolute,
            further false [info.name] (by simp), walk]
          simp [is.point, is.up, Nat.lt_of_not_le short, bind, Except.bind]
        exact .inr ⟨_, delete_failed checked failed (by simp)⟩
    · obtain ⟨error, refused, other⟩ :=
        resolve_of_refused volume accepts (join_ne_empty nonempty _) false
      have failed : volume.find false (store.pathOf info.name) = .error error := by
        simp [Volume.find, refused, bind, Except.bind]
      exact .inr ⟨_, delete_failed checked failed other⟩
  · exact .inr ⟨_, by rw [Store.delete, refused]; rfl⟩

/-- Deletions one after the other go from the first archive on, to the last or to one that fails. -/
theorem Listing.deleteEach_front (listing : Listing store volume place archives)
    (members : ∀ info ∈ doomed, info ∈ archives) (apart : (doomed.map (·.name)).Nodup) :
    ∃ done rest outcome, doomed = done ++ rest ∧
      store.deleteEach volume (doomed.map (·.name)) =
        (outcome, volume.dropAll place (done.map (·.name))) ∧
      (rest = [] ∧ outcome = .ok (done.map (·.name)) ∨ ∃ error, outcome = .error error) := by
  induction doomed generalizing volume archives with
  | nil => exact ⟨[], [], .ok [], rfl, rfl, .inl ⟨rfl, rfl⟩⟩
  | cons info rest ih =>
    obtain ⟨first, others⟩ := List.forall_mem_cons.mp members
    rw [List.map_cons, List.nodup_cons] at apart
    rcases listing.delete_cases first with deletable | ⟨error, failed⟩
    · obtain ⟨deleted, _⟩ := listing.delete first deletable
      obtain ⟨done, left, outcome, rfl, deletedRest, ends⟩ := ih (listing.without first) (by
        intro other member
        have differ : other.name ≠ info.name :=
          fun same => apart.1 (same ▸ List.mem_map_of_mem member)
        exact List.mem_filter.mpr ⟨others other member, by simpa using differ⟩) apart.2
      rcases ends with ⟨rfl, rfl⟩ | ⟨error, rfl⟩
      · refine ⟨info :: done, [], _, rfl, ?_, .inl ⟨rfl, rfl⟩⟩
        simp only [List.map_cons, Store.deleteEach, deleted, deletedRest]
        rfl
      · refine ⟨info :: done, left, .error error, rfl, ?_, .inr ⟨error, rfl⟩⟩
        simp only [List.map_cons, Store.deleteEach, deleted, deletedRest]
        rfl
    · exact ⟨[], info :: rest, .error error, rfl, by simp [Store.deleteEach, failed, Volume.dropAll],
        .inr ⟨error, rfl⟩⟩

/-- Of two archives of runs, the first is that of the run that started in an earlier second. -/
def Older (extension : String) (first second : ArchiveInfo) : Prop :=
  ∀ t other : Instant, t.IsDated → other.IsDated → first.name = fileName t extension →
    second.name = fileName other extension → t.seconds < other.seconds

theorem older_of_name_lt {extension : String} {first second : ArchiveInfo}
    (before : first.name < second.name) : Older extension first second := by
  intro t other dated datedOther isFirst isSecond
  rw [isFirst, isSecond] at before
  exact (fileName_order dated datedOther extension).1.mp before

theorem filter_behind {done left : List ArchiveInfo} (once : ((done ++ left).map (·.name)).Nodup) :
    (done ++ left).filter (fun other => other.name ∉ done.map (·.name)) = left := by
  rw [List.map_append, List.nodup_append] at once
  rw [List.filter_append, List.filter_eq_nil_iff.mpr, List.nil_append, List.filter_eq_self.mpr]
  · intro other member
    simpa using fun info isDone same =>
      once.2.2 _ (List.mem_map_of_mem isDone) _ (List.mem_map_of_mem member) same
  · intro info isDone
    simpa using ⟨info, isDone, rfl⟩

/-- What is deleted to keep some archives, when the deletions end: the oldest of them, one after the
other, and no more than are too many. -/
structure FromOldest (store : Store) (archives : List ArchiveInfo) (most gone : Nat)
    (outcome : Except RunError (List String)) (after : Volume) : Prop where
  within : gone ≤ archives.length - most
  left : store.list after = .ok (archives.drop gone)
  ended : gone = archives.length - most ∧ outcome = .ok ((archives.take gone).map (·.name)) ∨
    ∃ error, outcome = .error error
  older : ∀ first ∈ archives.take gone, ∀ second ∈ archives.drop gone,
    Older store.extension first second

theorem Listing.fromOldest (listing : Listing store volume place archives) (most : Nat) :
    ∃ gone outcome after, store.pruneByCount volume most archives = (outcome, after) ∧
      FromOldest store archives most gone outcome after := by
  have once := nodup_names listing.ascending
  have part := List.take_sublist (archives.length - most) archives
  obtain ⟨done, rest, outcome, split, deleted, ends⟩ :=
    listing.deleteEach_front (fun _ member => part.subset member) (once.sublist (part.map _))
  -- What is deleted is what the listing starts with.
  have whole : archives = done ++ (rest ++ archives.drop (archives.length - most)) := by
    rw [← List.append_assoc, ← split, List.take_append_drop]
  generalize rest ++ archives.drop (archives.length - most) = left at whole
  have taken : archives.take done.length = done := by rw [whole, List.take_left]
  have behind : archives.drop done.length = left := by rw [whole, List.drop_left]
  have count := congrArg List.length split
  rw [List.length_take, List.length_append] at count
  refine ⟨done.length, outcome, _, deleted, ?_, ?_, ?_, ?_⟩
  · omega
  · have after : Listing store (volume.dropAll place (done.map (·.name))) place _ :=
      listing.withoutAll (fun _ member => whole ▸ List.mem_append_left _ member)
        (once.sublist ((whole ▸ List.sublist_append_left ..).map _))
    rw [after.listed, behind]
    congr 1
    rw [whole] at once ⊢
    exact filter_behind once
  · rcases ends with ⟨rfl, rfl⟩ | failed
    · rw [List.length_nil] at count
      exact .inl ⟨by omega, by rw [taken]⟩
    · exact .inr failed
  · rw [taken, behind]
    intro first isDone second isLeft
    have ascending := listing.ascending
    rw [whole, List.pairwise_append] at ascending
    exact older_of_name_lt (ascending.2.2 first isDone second isLeft)

/-- The names of runs are in the order of the seconds they started in, and names of archives. So runs
are listed from the oldest on, and deleted from the oldest on to keep any number of them, also where
the deletions fail on the way. -/
theorem runs_chronological (extension : String) :
    (∀ t other : Instant, t.IsDated → other.IsDated →
      (Bytes.ofText (fileName t extension) < Bytes.ofText (fileName other extension) ↔
        t.seconds < other.seconds) ∧
      (fileName t extension = fileName other extension ↔ t.seconds = other.seconds)) ∧
    ∀ directory, (∀ t, isArchiveName ⟨directory, extension⟩ (fileName t extension) = true) ∧
      ∀ volume archives, volume.WellFormed → list ⟨directory, extension⟩ volume = .ok archives →
        archives.Pairwise (Older extension) ∧
        ∀ most, ∃ gone outcome after,
          pruneByCount ⟨directory, extension⟩ volume most archives = (outcome, after) ∧
          FromOldest ⟨directory, extension⟩ archives most gone outcome after := by
  refine ⟨fun t other dated datedOther => (fileName_order dated datedOther extension).2,
    fun directory => ⟨isArchiveName_fileName ⟨directory, extension⟩, ?_⟩⟩
  intro volume archives wellFormed listed
  refine ⟨(list_ascending wellFormed.ascending listed).imp older_of_name_lt, fun most => ?_⟩
  rcases list_cases listed with ⟨place, leads, _⟩ | ⟨_, rfl⟩
  · exact Listing.fromOldest ⟨wellFormed, leads, listed⟩ most
  · exact ⟨0, .ok [], volume, by simp [Store.pruneByCount, Store.deleteEach], Nat.zero_le _, listed,
      .inl ⟨by simp, rfl⟩, by simp⟩

def leapDay : Instant := ⟨1709251199, 0⟩

def dayAfter : Instant := ⟨1709251200, 0⟩

def leapVolume : Volume := ⟨[
  (["tmp"], .directory),
  (["tmp", "cluster-backup-20240229-235959.tar"], .file (.ofBytes []) dayAfter),
  (["tmp", "cluster-backup-20240301-000000.tar"], .file (.ofBytes []) leapDay)], []⟩

def leapArchives : List ArchiveInfo := [
  ⟨"cluster-backup-20240229-235959.tar", "/tmp/cluster-backup-20240229-235959.tar", 0, dayAfter⟩,
  ⟨"cluster-backup-20240301-000000.tar", "/tmp/cluster-backup-20240301-000000.tar", 0, leapDay⟩]

theorem wellFormed_leap : leapVolume.WellFormed := .of_nodes (by decide) (by decide) rfl

theorem list_leap : tarStore.list leapVolume = .ok leapArchives := by
  have plain : IsPlain tarStore.directory ["tmp"] := by decide
  have linkFree : leapVolume.LinkFree [] := .of_nodes (by simp [leapVolume])
  have leads := plain.find linkFree (directories_nil _ _) true
  exact list_of_sorted leads (by decide) (by decide)

/-- The time of modification of a file does not count. -/
theorem runs_chronological_leap :
    Bytes.ofText (fileName leapDay "tar") < Bytes.ofText (fileName dayAfter "tar") ∧
    fileName leapDay "tar" ≠ fileName dayAfter "tar" ∧
    leapArchives.map (·.name) = [fileName leapDay "tar", fileName dayAfter "tar"] ∧
    leapArchives.Pairwise (Older "tar") ∧
    ∃ gone outcome after, tarStore.pruneByCount leapVolume 1 leapArchives = (outcome, after) ∧
      FromOldest tarStore leapArchives 1 gone outcome after := by
  obtain ⟨names, stores⟩ := runs_chronological "tar"
  obtain ⟨bytes, same⟩ := names leapDay dayAfter (by decide) (by decide)
  obtain ⟨older, counted⟩ := (stores "/tmp").2 leapVolume leapArchives wellFormed_leap list_leap
  exact ⟨bytes.mpr (by decide), fun equal => absurd (same.mp equal) (by decide), by decide, older, counted 1⟩

end ClusterArchive.Store
