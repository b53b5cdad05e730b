import ClusterArchive.Proofs.Volume.Way
import ClusterArchive.Store
import Mathlib.Data.List.Nodup

/-! Archives of a store. A name that passes its check is one step below the directory, the name of a
run is that of an archive, and what is listed are the files of such names, in their order. -/

namespace ClusterArchive.Store

open Volume ClusterArchive.Path Text

structure IsName (name : String) : Prop where
  filled : isBlankText name = false
  point : name ≠ "."
  up : name ≠ ".."
  slash : '/' ∉ name.toList
  backslash : '\\' ∉ name.toList

theorem IsName.step {name : String} (is : IsName name) : IsStep name := by
  refine ⟨?_, is.point, is.slash⟩
  rintro rfl
  exact absurd is.filled (by decide)

theorem checkName_cases (name : String) : IsName name ∧ checkName name = .ok () ∨
    ¬IsName name ∧ ∃ message, checkName name = .error (.validation message) := by
  unfold checkName
  by_cases blank : isBlankText name = true
  · exact .inr ⟨fun is => by simp [is.filled] at blank, _, if_pos blank⟩
  · rw [if_neg blank]
    split
    next bent =>
      refine .inr ⟨fun is => ?_, _, rfl⟩
      rcases bent with rfl | rfl | slashed
      · exact is.point rfl
      · exact is.up rfl
      · obtain ⟨c, member, slash⟩ := List.any_eq_true.mp slashed
        simp only [Bool.or_eq_true, decide_eq_true_eq] at slash
        rcases slash with rfl | rfl
        · exact is.slash member
        · exact is.backslash member
    next plain =>
      simp only [not_or] at plain
      have apart : ∀ c ∈ name.toList, c ≠ '/' ∧ c ≠ '\\' := by simpa using plain.2.2
      exact .inl ⟨⟨by simpa using blank, plain.1, plain.2.1, fun member => (apart _ member).1 rfl,
        fun member => (apart _ member).2 rfl⟩, rfl⟩

theorem checkName_eq_ok {name : String} : checkName name = .ok () ↔ IsName name := by
  rcases checkName_cases name with ⟨is, checked⟩ | ⟨other, message, refused⟩
  · simp [checked, is]
  · simp [refused, other]

/-- A name that passes its check is a step that stays in the directory. -/
theorem checkName_step {name : String} (checked : checkName name = .ok ()) :
    IsStep name ∧ name ≠ ".." :=
  ⟨(checkName_eq_ok.mp checked).step, (checkName_eq_ok.mp checked).up⟩

theorem checkName_of_available {store : Store} {volume : Volume} {name : String}
    (available : store.ensureAvailable volume name = .ok ()) : checkName name = .ok () := by
  cases checked : checkName name with
  | ok => rfl
  | error error => simp [ensureAvailable, checked, bind, Except.bind] at available

/-- The name of an archive is the common prefix, a stem, a point and the extension. -/
theorem isArchiveName_iff {store : Store} {name : String} : store.isArchiveName name = true ↔
    ∃ stem, stem ≠ "" ∧ name = "cluster-backup-" ++ stem ++ "." ++ store.extension := by
  have point : (".").utf8ByteSize = 1 := by decide
  have common : Archive.namePrefix = "cluster-backup-" := rfl
  unfold isArchiveName
  constructor
  · intro isArchive
    split at isArchive
    next middle found =>
      obtain ⟨rest, start, finish⟩ := Option.bind_eq_some_iff.mp found
      rw [Bool.and_eq_true, decide_eq_true_eq, decide_eq_true_eq, List.getLast?_eq_some_iff]
        at isArchive
      obtain ⟨long, chars, ends⟩ := isArchive
      have shape : middle = String.ofList chars ++ "." := String.toList_inj.mp (by simp [ends])
      refine ⟨String.ofList chars, ?_, ?_⟩
      · intro empty
        rw [shape, empty] at long
        simp [point] at long
      · rw [stripPrefix?_eq_some.mp start, stripSuffix?_eq_some.mp finish, shape, common]
        simp only [String.append_assoc]
    next => cases isArchive
  · rintro ⟨stem, filled, rfl⟩
    have start : stripPrefix? Archive.namePrefix ("cluster-backup-" ++ stem ++ "." ++ store.extension) =
        some (stem ++ "." ++ store.extension) :=
      stripPrefix?_eq_some.mpr (by simp [common, String.append_assoc])
    have finish : stripSuffix? store.extension (stem ++ "." ++ store.extension) = some (stem ++ ".") :=
      stripSuffix?_eq_some.mpr rfl
    have long : 0 < stem.utf8ByteSize :=
      Nat.pos_of_ne_zero fun none_ => filled (String.utf8ByteSize_eq_zero_iff.mp none_)
    simp [start, finish, String.utf8ByteSize_append, point, long]

/-- The name of a run is that of an archive, whatever the extension. -/
theorem isArchiveName_fileName (store : Store) (started : Instant) :
    store.isArchiveName (Archive.fileName started store.extension) = true := by
  refine isArchiveName_iff.mpr ⟨Archive.stamp started, fun empty => ?_, rfl⟩
  have chars := congrArg String.toList empty
  simp [Archive.stamp] at chars

theorem delete_file {store : Store} {volume : Volume} {name : String} {location : Location}
    {contents : Contents} {modified : Instant} (checked : checkName name = .ok ())
    (found : volume.find false (store.pathOf name) = .ok (location, .file contents modified)) :
    store.delete volume name = .ok (true, volume.drop location) := by
  simp [delete, checked, Volume.remove, found, bind, Except.bind]

variable {store : Store} {volume : Volume} {place : Location} {archives doomed : List ArchiveInfo}
  {info : ArchiveInfo}

theorem info?_eq_some {name : String} {node : Node} {info : ArchiveInfo} :
    store.info? (name, node) = some info ↔ ∃ contents modified, node = .file contents modified ∧
      store.isArchiveName name = true ∧ info = ⟨name, store.pathOf name, contents.size, modified⟩ := by
  cases node with
  | file contents modified =>
    by_cases isArchive : store.isArchiveName name = true <;> simp [info?, isArchive, eq_comm]
  | directory | symlink => simp [info?]

/-- Archives are listed from the directory of a store; where there is none, nothing is. -/
theorem list_cases (listed : store.list volume = .ok archives) :
    (∃ place, volume.find true store.directory = .ok (place, .directory) ∧
      archives = ((volume.children place).filterMap store.info?).mergeSort fun a b => a.name ≤ b.name) ∨
    volume.readDirectory store.directory = .error .notFound ∧ archives = [] := by
  unfold list at listed
  split at listed
  next members read =>
    obtain rfl := Except.ok.inj listed
    unfold readDirectory at read
    cases found : volume.find true store.directory with
    | error error => simp [found, bind, Except.bind] at read
    | ok at_ =>
      obtain ⟨place, node⟩ := at_
      cases node with
      | directory =>
        simp only [found, bind, Except.bind, Except.ok.injEq] at read
        exact .inl ⟨place, rfl, by rw [read]⟩
      | file | symlink => simp [found, bind, Except.bind] at read
  next missing => exact .inr ⟨missing, (Except.ok.inj listed).symm⟩
  next => cases listed

/-- The archives of a directory are its files that have the name of one. -/
theorem mem_list (ascending : Assoc.Ascending volume.nodes)
    (leads : volume.find true store.directory = .ok (place, .directory))
    (listed : store.list volume = .ok archives) {info : ArchiveInfo} :
    info ∈ archives ↔ ∃ contents,
      volume.node? (place ++ [info.name]) = some (.file contents info.modified) ∧
      store.isArchiveName info.name = true ∧ info.path = store.pathOf info.name ∧
      info.size = contents.size := by
  rcases list_cases listed with ⟨_, found, rfl⟩ | ⟨missing, _⟩
  · obtain ⟨rfl, _⟩ := Prod.mk.inj (Except.ok.inj (found.symm.trans leads))
    rw [List.mem_mergeSort, List.mem_filterMap]
    constructor
    · rintro ⟨⟨name, node⟩, member, is⟩
      obtain ⟨contents, modified, rfl, isArchive, rfl⟩ := info?_eq_some.mp is
      exact ⟨contents, (mem_children ascending).mp member, isArchive, rfl, rfl⟩
    · rintro ⟨contents, file, isArchive, isPath, size⟩
      refine ⟨_, (mem_children ascending).mpr file, info?_eq_some.mpr ⟨_, _, rfl, isArchive, ?_⟩⟩
      rw [← isPath, ← size]
  · simp [readDirectory, leads, bind, Except.bind] at missing

/-- Archives are listed in the order of their names, each once. -/
theorem list_ascending (ascending : Assoc.Ascending volume.nodes)
    (listed : store.list volume = .ok archives) :
    archives.Pairwise fun first second => first.name < second.name := by
  rcases list_cases listed with ⟨place, _, rfl⟩ | ⟨_, rfl⟩
  · have sorted : (((volume.children place).filterMap store.info?).mergeSort
        fun a b => a.name ≤ b.name).Pairwise fun first second =>
          decide (first.name ≤ second.name) = true :=
      List.pairwise_mergeSort (by simpa using fun _ _ _ => String.le_trans)
        (by simpa using fun _ _ => String.le_total _ _) _
    have apart : ((volume.children place).filterMap store.info?).Pairwise
        fun first second => first.name ≠ second.name := by
      apply (children_apart ascending).filterMap
      rintro ⟨name, _⟩ ⟨other, _⟩ differ _ is _ isOther
      obtain ⟨_, _, _, _, rfl⟩ := info?_eq_some.mp is
      obtain ⟨_, _, _, _, rfl⟩ := info?_eq_some.mp isOther
      exact differ
    have apartSorted := (List.Perm.pairwise_iff Ne.symm (List.mergeSort_perm _
      fun a b : ArchiveInfo => a.name ≤ b.name)).mpr apart
    exact (sorted.and apartSorted).imp fun ⟨below, differ⟩ =>
      String.not_le.mp fun back => differ (String.le_antisymm (by simpa using below) back)
  · exact List.Pairwise.nil

theorem list_of_leads (leads : volume.find true store.directory = .ok (place, .directory)) :
    store.list volume = .ok (((volume.children place).filterMap store.info?).mergeSort
      fun first second => first.name ≤ second.name) := by
  have members : volume.readDirectory store.directory = .ok (volume.children place) := by
    simp [readDirectory, leads, bind, Except.bind]
  rw [list, members]

theorem list_of_sorted (leads : volume.find true store.directory = .ok (place, .directory))
    (shown : (volume.children place).filterMap store.info? = archives)
    (sorted : archives.Pairwise fun first second => decide (first.name ≤ second.name) = true) :
    store.list volume = .ok archives := by
  rw [list_of_leads leads, shown, List.mergeSort_of_pairwise sorted]

theorem nodup_names (ascending : archives.Pairwise fun first second => first.name < second.name) :
    (archives.map (·.name)).Nodup := by
  refine List.nodup_iff_pairwise_ne.mpr (List.pairwise_map.mpr (ascending.imp ?_))
  intro first second before same
  exact String.lt_irrefl _ (same ▸ before)

theorem name_mem_iff (ascending : archives.Pairwise fun first second => first.name < second.name)
    (within : ∀ info ∈ doomed, info ∈ archives) (member : info ∈ archives) :
    info.name ∈ doomed.map (·.name) ↔ info ∈ doomed := by
  refine ⟨fun named => ?_, fun isDoomed => List.mem_map_of_mem isDoomed⟩
  obtain ⟨other, isDoomed, same⟩ := List.mem_map.mp named
  exact List.inj_on_of_nodup_map (nodup_names ascending) (within other isDoomed) member same ▸ isDoomed

/-- Archives in the order of their names are fixed by which there are. -/
theorem eq_of_ascending {first second : List ArchiveInfo}
    (ascending : first.Pairwise fun a b => a.name < b.name)
    (ascendingToo : second.Pairwise fun a b => a.name < b.name)
    (same : ∀ info, info ∈ first ↔ info ∈ second) : first = second := by
  have nodup {archives : List ArchiveInfo} (ascending : archives.Pairwise fun a b => a.name < b.name) :
      archives.Nodup := (nodup_names ascending).of_map
  refine List.Perm.eq_of_pairwise (fun a b _ _ before after => ?_) ascending ascendingToo
    ((List.perm_ext_iff_of_nodup (nodup ascending) (nodup ascendingToo)).mpr same)
  exact absurd after (String.lt_asymm before)

theorem list_once {name : String} {contents : Contents} {modified : Instant}
    (ascending : Assoc.Ascending volume.nodes)
    (leads : volume.find true store.directory = .ok (place, .directory))
    (file : volume.node? (place ++ [name]) = some (.file contents modified))
    (archive : store.isArchiveName name = true) :
    ∃ infos, store.list volume = .ok infos ∧ infos.filter (fun info => info.name = name) =
      [⟨name, store.pathOf name, contents.size, modified⟩] := by
  obtain ⟨infos, listed⟩ : ∃ infos, store.list volume = .ok infos := ⟨_, list_of_leads leads⟩
  refine ⟨infos, listed, eq_of_ascending ((list_ascending ascending listed).filter _)
    (List.pairwise_singleton ..) fun info => ?_⟩
  rw [List.mem_filter, mem_list ascending leads listed, List.mem_singleton, decide_eq_true_eq]
  constructor
  · rintro ⟨⟨held, found, _, isPath, size⟩, rfl⟩
    obtain ⟨rfl, rfl⟩ := Node.file.inj (Option.some.inj (found.symm.trans file))
    rw [← isPath, ← size]
  · rintro rfl
    exact ⟨⟨contents, file, archive, rfl, rfl⟩, rfl⟩

end ClusterArchive.Store
