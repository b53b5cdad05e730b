import ClusterArchive.Engine.Backup
import ClusterArchive.Proofs.Entry
import ClusterArchive.Proofs.Volume.Tree

/-! Writing objects below a staging directory. Whatever was written before, an object ends up in the
file of its entry, or nowhere; files stand only where objects were written, and no file is where a
directory has to be. -/

namespace ClusterArchive.Engine

open ClusterArchive.Path Volume

variable {old volume : Volume} {staging : String} {root : Location}

/-- Entries whose paths a volume can take below a staging directory. -/
def EntryFits (staging : String) (entry : Entry) : Prop :=
  Accepts (Path.join staging entry.path) ∧ ∀ part ∈ entry.segments, part.utf8ByteSize ≤ nameLimit

instance (staging : String) (entry : Entry) : Decidable (EntryFits staging entry) :=
  inferInstanceAs (Decidable (Accepts (Path.join staging entry.path) ∧
    ∀ part ∈ entry.segments, part.utf8ByteSize ≤ nameLimit))

theorem entry_isRelative {entry : Entry} (segmented : entry.Segmented) :
    isAbsolute entry.path = false := by
  rw [entry.path_eq]
  exact isAbsolute_intercalate segmented.steps

theorem entry_components {entry : Entry} (segmented : entry.Segmented) (staging : String) :
    components (Path.join staging entry.path) = components staging ++ entry.segments := by
  rw [components_join (entry_isRelative segmented), entry.path_eq,
    components_intercalate segmented.steps]

theorem entry_down {entry : Entry} (segmented : entry.Segmented) : AreDown entry.segments :=
  fun part member => ⟨segmented.steps part member, (segmented.segments part member).up⟩

theorem entry_fits {entry : Entry} (valid : entry.IsValid) (fits : EntryFits staging entry) :
    Fits staging entry.segments where
  down := entry_down valid.segmented
  accepts := by
    have whole := sublist_ofComponents (List.Sublist.refl (components (Path.join staging entry.path)))
    rw [entry_components valid.segmented, isAbsolute_join (entry_isRelative valid.segmented)] at whole
    exact fits.1.of_sublist whole
  short := fits.2

theorem entry_parent {entry : Entry} (segmented : entry.Segmented) (volume : Volume) :
    volume.makeDirectories (Path.parent (Path.join staging entry.path)) =
      makeTree (isAbsolute staging) volume (components staging ++ entry.directories).reverse := by
  have clean : ∀ part ∈ components staging ++ entry.directories, IsStep part :=
    pathBelow_steps fun part member => segmented.steps part (List.mem_append_left _ member)
  have above : (components staging ++ entry.segments).dropLast =
      components staging ++ entry.directories := by
    rw [Entry.segments, ← List.append_assoc, List.dropLast_concat]
  rw [Path.parent, entry_components segmented, above, isAbsolute_join (entry_isRelative segmented),
    makeDirectories_of_bare _ _ (by simp [entry.directories_ne_nil]) clean]

/-- The path of an entry leads down from the staging directory. -/
theorem entry_resolve (staged : Staged old root volume) (fresh : IsFresh old staging root)
    {entry : Entry} (segmented : entry.Segmented) (accepts : Accepts (Path.join staging entry.path))
    (follow : Bool) : volume.resolve follow (Path.join staging entry.path) =
      volume.descend root entry.segments := by
  have leaf : namesDirectory (Path.join staging entry.path) = false := by
    rw [entry.path_eq]
    exact namesDirectory_join staging (by simp [Entry.segments]) segmented.steps
  exact staged.resolve fresh (isAbsolute_join (entry_isRelative segmented))
    (entry_components segmented staging) leaf (fun part member => (segmented.segments part member).up)
    accepts follow

theorem entry_ne_empty (fresh : IsFresh old staging root) {entry : Entry}
    (segmented : entry.Segmented) : Path.join staging entry.path ≠ "" := by
  intro empty
  have parts := entry_components segmented staging
  rw [empty, components_empty] at parts
  exact fresh.somewhere (List.append_eq_nil_iff.mp parts.symm).1

/-- A staging directory with the files of some entries, and nothing else but directories of entries
that have a body. -/
structure Holds (old : Volume) (root : Location) (body : Entry → Bytes) (written : List Entry)
    (volume : Volume) : Prop where
  staged : Staged old root volume
  valid : ∀ entry ∈ written, entry.IsValid
  files : ∀ entry ∈ written, ∃ modified, volume.node? (root ++ entry.segments) =
    some (.file (.ofBytes (body entry)) modified)
  onlyFiles : ∀ steps contents modified, volume.node? (root ++ steps) = some (.file contents modified) →
    ∃ entry ∈ written, steps = entry.segments
  onlyDirectories : ∀ steps, steps ≠ [] → volume.node? (root ++ steps) = some .directory →
    ∃ entry : Entry, entry.IsValid ∧ body entry ≠ [] ∧ steps <+: entry.directories
  nulFree : ∀ steps node, volume.node? (root ++ steps) = some node → NulFree steps

variable {body : Entry → Bytes} {written : List Entry}

theorem Holds.grow {after : Volume} (holds : Holds old root body written volume) {entry : Entry}
    (valid : entry.IsValid) (has : body entry ≠ [])
    (grows : Grows root entry.directories volume after) : Holds old root body written after where
  staged := holds.staged.grow grows
  valid := holds.valid
  files := by
    intro other member
    obtain ⟨modified, found⟩ := holds.files other member
    exact ⟨modified, grows.kept found⟩
  onlyFiles := by
    intro steps contents modified found
    rcases grows.nodes (root ++ steps) with same | ⟨_, directory, _⟩
    · exact holds.onlyFiles steps contents modified (same ▸ found)
    · rw [directory] at found
      cases found
  onlyDirectories := by
    intro steps some_ found
    rcases grows.nodes (root ++ steps) with same | ⟨_, _, start, _, isStart, there, _⟩
    · exact holds.onlyDirectories steps some_ (same ▸ found)
    · obtain rfl := List.append_cancel_left there
      exact ⟨entry, valid, has, isStart⟩
  nulFree := by
    intro steps node found
    rcases grows.nodes (root ++ steps) with same | ⟨_, _, start, _, _, there, clean⟩
    · exact holds.nulFree steps node (same ▸ found)
    · exact List.append_cancel_left there ▸ clean

theorem Holds.clear (holds : Holds old root body written volume) {entry : Entry}
    (valid : entry.IsValid) {start : List String} {node : Node} (isStart : start <+: entry.directories)
    (found : volume.node? (root ++ start) = some node) : node = .directory := by
  cases node with
  | directory => rfl
  | file contents modified =>
    obtain ⟨other, _, rfl⟩ := holds.onlyFiles start contents modified found
    exact absurd isStart (other.segments_not_prefix valid)
  | symlink target => exact absurd found (holds.staged.linkFree start target)

theorem Holds.no_directory (holds : Holds old root body written volume) (entry : Entry) :
    volume.node? (root ++ entry.segments) ≠ some .directory := by
  intro found
  obtain ⟨other, valid, _, isStart⟩ :=
    holds.onlyDirectories entry.segments (by simp [Entry.segments]) found
  exact entry.segments_not_prefix valid isStart

theorem Holds.put (holds : Holds old root body written volume) {entry : Entry}
    (valid : entry.IsValid) (clean : NulFree entry.segments) (now : Instant) :
    Holds old root body (written ++ [entry])
      (volume.put (root ++ entry.segments) (.file (.ofBytes (body entry)) now)) := by
  have below : root ++ entry.segments ≠ [] := by simp [Entry.segments]
  constructor
  case staged => exact holds.staged.put_file (by simp [Entry.segments]) _ _
  case valid =>
    intro other member
    rcases List.mem_append.mp member with before | new
    · exact holds.valid other before
    · exact List.mem_singleton.mp new ▸ valid
  case files =>
    intro other member
    rw [node?_put volume below]
    split
    next same =>
      have isSame : other = entry := by
        rcases List.mem_append.mp member with before | new
        · exact (Entry.segments_injective valid (holds.valid other before)
            (List.append_cancel_left same)).symm
        · exact List.mem_singleton.mp new
      rw [isSame]
      exact ⟨now, rfl⟩
    next differ =>
      rcases List.mem_append.mp member with before | new
      · exact holds.files other before
      · exact absurd (List.mem_singleton.mp new ▸ rfl) differ
  case onlyFiles =>
    intro steps contents modified found
    rw [node?_put volume below] at found
    split at found
    next same => exact ⟨entry, by simp, (List.append_cancel_left same).symm⟩
    next =>
      obtain ⟨other, member, is⟩ := holds.onlyFiles steps contents modified found
      exact ⟨other, List.mem_append_left _ member, is⟩
  case onlyDirectories =>
    intro steps some_ found
    rw [node?_put volume below] at found
    split at found
    next => cases found
    next => exact holds.onlyDirectories steps some_ found
  case nulFree =>
    intro steps node found
    rw [node?_put volume below] at found
    split at found
    next same => exact List.append_cancel_left same ▸ clean
    next => exact holds.nulFree steps node found

/-- A file is written where the entry says, unless the volume cannot take the path. -/
theorem Holds.writeFile (holds : Holds old root body written volume)
    (fresh : IsFresh old staging root) {entry : Entry} (valid : entry.IsValid) (contents : Contents)
    (now : Instant) :
    NulFree entry.segments ∧ volume.writeFile (Path.join staging entry.path) contents now =
        .ok (volume.put (root ++ entry.segments) (.file contents now)) ∨
      (∃ error, volume.writeFile (Path.join staging entry.path) contents now = .error error) ∧
        (volume.Directories root entry.directories → ¬EntryFits staging entry) := by
  have segmented := valid.segmented
  by_cases accepts : Accepts (Path.join staging entry.path)
  · have resolved := entry_resolve holds.staged fresh segmented accepts true
    cases reached : volume.descend root entry.segments with
    | ok location =>
      obtain ⟨rfl, _, _⟩ := descend_eq_ok.mp reached
      refine .inl ⟨?_, ?_⟩
      · have whole := accepts.of_sublist
          (sublist_ofComponents (List.Sublist.refl (components (Path.join staging entry.path))))
        rw [entry_components segmented] at whole
        exact whole.nulFree
      simp [Volume.writeFile, resolved, reached, holds.no_directory entry, bind, Except.bind]
    | error error =>
      refine .inr ⟨⟨error, ?_⟩, fun directories fits => ?_⟩
      · simp [Volume.writeFile, resolved, reached, bind, Except.bind]
      · have arrives := descend_eq_ok.mpr ⟨rfl, fits.2, by rwa [Entry.segments, List.dropLast_concat]⟩
        rw [reached] at arrives
        cases arrives
  · have nonempty := entry_ne_empty fresh segmented
    obtain ⟨error, failed, _⟩ := resolve_of_refused volume accepts nonempty true
    refine .inr ⟨⟨error, ?_⟩, fun _ fits => accepts fits.1⟩
    simp [Volume.writeFile, failed, bind, Except.bind]

/-- What writing an object below a staging directory does: directories are made on the way, and the
object is in the file of its entry, unless writing it failed. -/
theorem writeObject_cases (staged : Staged old root volume) (fresh : IsFresh old staging root)
    {entry : Entry} (segmented : entry.Segmented) (object : Document) (now : Instant) :
    ∃ between, Grows root entry.directories volume between ∧
      ((∃ error, writeObject staging entry object now volume = (.error error, between)) ∨
        writeObject staging entry object now volume = (.ok (),
          between.put (root ++ entry.segments) (.file (.ofBytes object.archivedBytes) now))) := by
  have grows := staged.makeTree_grows fresh ((entry_down segmented).start entry.directories_start)
  unfold writeObject
  simp only [entry_parent segmented]
  generalize makeTree (isAbsolute staging) volume (components staging ++ entry.directories).reverse =
    result at grows
  obtain ⟨outcome, between⟩ := result
  refine ⟨between, grows, ?_⟩
  have stagedNow := staged.grow grows
  cases outcome with
  | error error => exact .inl ⟨_, rfl⟩
  | ok =>
    simp only []
    by_cases accepts : Accepts (Path.join staging entry.path)
    · simp only [Volume.writeFile, entry_resolve stagedNow fresh segmented accepts]
      cases reached : between.descend root entry.segments with
      | error error => exact .inl ⟨_, rfl⟩
      | ok location =>
        obtain ⟨rfl, _, _⟩ := descend_eq_ok.mp reached
        simp only [bind, Except.bind]
        by_cases taken : between.node? (root ++ entry.segments) = some .directory
        · rw [if_pos taken]
          exact .inl ⟨_, rfl⟩
        · rw [if_neg taken]
          exact .inr rfl
    · obtain ⟨error, failed, _⟩ :=
        resolve_of_refused between accepts (entry_ne_empty fresh segmented) true
      simp only [Volume.writeFile, failed, bind, Except.bind]
      exact .inl ⟨_, rfl⟩

/-- An object that is written leaves all as it is outside of the staging directory, also when writing
it fails. -/
theorem writeObject_staged (staged : Staged old root volume) (fresh : IsFresh old staging root)
    {entry : Entry} (segmented : entry.Segmented) (object : Document) (now : Instant) :
    Staged old root (writeObject staging entry object now volume).2 := by
  obtain ⟨between, grows, ⟨error, failed⟩ | success⟩ :=
    writeObject_cases staged fresh segmented object now
  · rw [failed]
    exact staged.grow grows
  · rw [success]
    exact (staged.grow grows).put_file (by simp [Entry.segments]) _ _

/-- Below any directory: the way is made, and then the file is written, unless one of these fails. -/
theorem writeObject_spreads (volume : Volume) (staging : String) (entry : Entry) (object : Document)
    (now : Instant) :
    let result := writeObject staging entry object now volume
    ∃ between, Spreads volume between ∧
      ((∃ error, result = (.error error, between)) ∨
        ∃ after, between.writeFile (Path.join staging entry.path) (.ofBytes object.archivedBytes) now =
          .ok after ∧ result = (.ok (), after)) := by
  have spreads := makeDirectories_spreads volume (Path.parent (Path.join staging entry.path))
  simp only [writeObject]
  generalize volume.makeDirectories (Path.parent (Path.join staging entry.path)) = result at spreads
  obtain ⟨outcome, between⟩ := result
  refine ⟨between, spreads, ?_⟩
  cases outcome with
  | error error => exact .inl ⟨_, rfl⟩
  | ok =>
    simp only []
    split
    next after written => exact .inr ⟨after, written, rfl⟩
    next => exact .inl ⟨_, rfl⟩

theorem writeObject_wellFormed (wellFormed : volume.WellFormed) (staging : String) (entry : Entry)
    (object : Document) (now : Instant) :
    (writeObject staging entry object now volume).2.WellFormed := by
  obtain ⟨between, spreads, ⟨error, failed⟩ | ⟨after, written, success⟩⟩ :=
    writeObject_spreads volume staging entry object now
  · rw [failed]
    exact spreads.wellFormed wellFormed
  · rw [success]
    exact (spreads.wellFormed wellFormed).writeFile written

theorem archivedBytes_ne_nil (object : Document) : object.archivedBytes ≠ [] := by
  intro empty
  have text := Text.units_ofText object.archivedText
  rw [Document.archivedBytes] at empty
  rw [empty] at text
  simp [Document.archivedText, Text.units, Text.unitsFrom] at text

/-- What writing an object does: it is in the file of its entry, or nothing but directories were
made. It fails only where the volume cannot take the path. -/
theorem Holds.writeObject (holds : Holds old root body written volume)
    (fresh : IsFresh old staging root) {entry : Entry} (valid : entry.IsValid) {object : Document}
    (same : object.archivedBytes = body entry) (now : Instant) :
    ∃ after, (Engine.writeObject staging entry object now volume = (.ok (), after) ∧
        Holds old root body (written ++ [entry]) after) ∨
      ¬EntryFits staging entry ∧ (∃ error, Engine.writeObject staging entry object now volume =
        (.error error, after)) ∧ Holds old root body written after := by
  have grows := holds.staged.makeTree_grows fresh ((entry_down valid.segmented).start entry.directories_start)
  have made (fits : EntryFits staging entry) := holds.staged.makeTree_fits fresh
    ((entry_fits valid fits).start entry.directories_start)
    fun start node _ before found => holds.clear valid before found
  unfold Engine.writeObject
  simp only [entry_parent valid.segmented]
  generalize makeTree (isAbsolute staging) volume (components staging ++ entry.directories).reverse =
    result at grows made
  obtain ⟨outcome, between⟩ := result
  have holdsBetween := holds.grow valid (same ▸ archivedBytes_ne_nil object) grows
  cases outcome with
  | error error =>
    simp only []
    refine ⟨between, .inr ⟨fun fits => ?_, ⟨.io error.message, rfl⟩, holdsBetween⟩⟩
    obtain ⟨_, success, _⟩ := made fits
    simp at success
  | ok =>
    simp only []
    rcases holdsBetween.writeFile fresh valid (.ofBytes object.archivedBytes) now with
      ⟨clean, success⟩ | ⟨⟨error, failed⟩, unfit⟩
    · rw [success]
      exact ⟨_, .inl ⟨rfl, same ▸ holdsBetween.put valid clean now⟩⟩
    · rw [failed]
      refine ⟨between, .inr ⟨fun fits => ?_, ⟨.io error.message, rfl⟩, holdsBetween⟩⟩
      obtain ⟨after, success, _, directories⟩ := made fits
      obtain rfl := (Prod.mk.inj success).2
      exact unfit directories fits

end ClusterArchive.Engine
