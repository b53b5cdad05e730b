import ClusterArchive.Proofs.Entry.Grammar
import ClusterArchive.Proofs.Volume.Path

/-! Paths of entries whose parts can stand in the path of a file. No path is a directory of
another. -/

namespace ClusterArchive

open Text ClusterArchive.Path

/-- A text that stands for itself between slashes. -/
structure IsSegment (text : String) : Prop where
  nonempty : text ≠ ""
  here : text ≠ "."
  up : text ≠ ".."
  slash : '/' ∉ text.toList
  backslash : '\\' ∉ text.toList

instance (text : String) : Decidable (IsSegment text) :=
  decidable_of_iff
    (text ≠ "" ∧ text ≠ "." ∧ text ≠ ".." ∧ '/' ∉ text.toList ∧ '\\' ∉ text.toList)
    ⟨fun ⟨nonempty, here, up, slash, backslash⟩ => ⟨nonempty, here, up, slash, backslash⟩,
      fun is => ⟨is.nonempty, is.here, is.up, is.slash, is.backslash⟩⟩

namespace Entry

/-- Parts that can stand in a path; the core group has none. -/
structure Segmented (entry : Entry) : Prop where
  group : entry.type.group ≠ "" → IsSegment entry.type.group
  version : IsSegment entry.type.version
  resource : IsSegment entry.type.resource
  ns : ∀ ns, entry.ns = some ns → IsSegment ns
  name : IsSegment entry.name

/-- Parts that can stand in a path; the core group has none. A resource does not look like a file. -/
structure IsValid (entry : Entry) : Prop where
  group : entry.type.group ≠ "" → IsSegment entry.type.group
  version : IsSegment entry.type.version
  resource : IsSegment entry.type.resource
  plain : ∀ stem, entry.type.resource ≠ stem ++ ending
  ns : ∀ ns, entry.ns = some ns → IsSegment ns
  name : IsSegment entry.name

instance (entry : Entry) : Decidable entry.IsValid :=
  decidable_of_iff
    ((entry.type.group ≠ "" → IsSegment entry.type.group) ∧ IsSegment entry.type.version ∧
      IsSegment entry.type.resource ∧ stripSuffix? ending entry.type.resource = none ∧
      (∀ ns ∈ entry.ns, IsSegment ns) ∧ IsSegment entry.name)
    ⟨fun ⟨group, version, resource, plain, ns, name⟩ =>
      ⟨group, version, resource, fun _ same => by simp [stripSuffix?_eq_some.mpr same] at plain,
        ns, name⟩,
      fun is => ⟨is.group, is.version, is.resource,
        Option.eq_none_iff_forall_ne_some.mpr fun stem found =>
          is.plain stem (stripSuffix?_eq_some.mp found),
        is.ns, is.name⟩⟩

theorem directories_start (entry : Entry) : entry.directories <+: entry.segments :=
  List.prefix_append ..

theorem Segmented.directories {entry : Entry} (segmented : entry.Segmented) :
    ∀ part ∈ entry.directories, IsSegment part :=
  forall_directories (by decide) (by decide) segmented.group segmented.version segmented.resource
    segmented.ns

theorem Segmented.fileName {entry : Entry} (segmented : entry.Segmented) :
    IsSegment (entry.name ++ ending) :=
  have file := isDirectoryName_file segmented.name.slash
  ⟨file.nonempty, file.here, file.up, file.slash, by simpa [ending] using segmented.name.backslash⟩

theorem Segmented.segments {entry : Entry} (segmented : entry.Segmented) :
    ∀ part ∈ entry.segments, IsSegment part := by
  intro part member
  rcases List.mem_append.mp member with directory | file
  · exact segmented.directories part directory
  · rw [List.mem_singleton] at file
    exact file ▸ segmented.fileName

theorem IsValid.segmented {entry : Entry} (valid : entry.IsValid) : entry.Segmented :=
  ⟨valid.group, valid.version, valid.resource, valid.ns, valid.name⟩

theorem IsValid.directories {entry : Entry} (valid : entry.IsValid) :
    ∀ part ∈ entry.directories, IsSegment part := valid.segmented.directories

theorem IsValid.segments {entry : Entry} (valid : entry.IsValid) :
    ∀ part ∈ entry.segments, IsSegment part := valid.segmented.segments

end Entry

theorem IsSegment.isDirectoryName {text : String} (segment : IsSegment text) :
    Entry.IsDirectoryName text :=
  ⟨segment.nonempty, segment.here, segment.up, segment.slash⟩

theorem IsSegment.isStep {text : String} (segment : IsSegment text) : IsStep text :=
  ⟨segment.nonempty, segment.here, segment.slash⟩

namespace Entry

theorem Segmented.steps {entry : Entry} (segmented : entry.Segmented) :
    ∀ part ∈ entry.segments, IsStep part :=
  fun part member => (segmented.segments part member).isStep

/-- No character stands in a path that stands neither in a segment nor between two. -/
theorem mem_path {entry : Entry} {c : Char} (member : c ∈ entry.path.toList) :
    c = '/' ∨ ∃ part ∈ entry.segments, c ∈ part.toList := by
  rw [path_eq] at member
  exact mem_intercalate member

theorem IsValid.backslash {entry : Entry} (valid : entry.IsValid) : '\\' ∉ entry.path.toList := by
  intro member
  rcases mem_path member with slash | ⟨part, isIn, has⟩
  · exact absurd slash (by decide)
  · exact (valid.segments part isIn).backslash has

theorem IsValid.wellFormed {entry : Entry} (valid : entry.IsValid) : entry.IsWellFormed :=
  .of_directories (fun part member => (valid.directories part member).isDirectoryName) valid.name.here
    valid.name.up valid.name.slash

theorem segments_injective {entry other : Entry} (valid : entry.IsValid) (validOther : other.IsValid)
    (same : entry.segments = other.segments) : entry = other := by
  apply path_injective valid.wellFormed validOther.wellFormed
  rw [path_eq, path_eq, same]

theorem segments_not_prefix (entry : Entry) {other : Entry} (valid : other.IsValid) :
    ¬entry.segments <+: other.directories := by
  intro isStart
  have plain := valid.plain entry.name
  obtain ⟨⟨group, version, resource⟩, ns, name⟩ := entry
  obtain ⟨⟨group', version', resource'⟩, ns', name'⟩ := other
  simp only [segments, directories] at isStart plain
  cases ns <;> cases ns' <;> by_cases core : group = "" <;> by_cases core' : group' = "" <;>
    simp_all [List.cons_prefix_cons]

end Entry

end ClusterArchive
