import ClusterArchive.Proofs.Engine.Writing
import ClusterArchive.Proofs.Format
import Mathlib.Data.List.Infix
import Mathlib.Data.List.Nodup
import Mathlib.Data.List.Perm.Subperm

/-! What is packed: the files below a staging directory, each once, at the paths of their entries. -/

namespace ClusterArchive

open Volume

namespace TarGzip

open Tar

@[simp] theorem mem_filesOf {members : List (String × Content)} {path : String} {bytes : Bytes} :
    (path, bytes) ∈ filesOf members ↔ (path, .file bytes) ∈ members := by
  unfold filesOf
  rw [List.mem_filterMap]
  constructor
  · rintro ⟨⟨other, content⟩, member, same⟩
    cases content with
    | file =>
      obtain ⟨rfl, rfl⟩ := Prod.mk.inj (Option.some.inj same)
      exact member
    | directory | symlink => cases same
  · intro member
    exact ⟨_, member, rfl⟩

def memberBelow? (root : Location) (pair : Location × Node) : Option (String × Content) :=
  match root.isPrefixOf? pair.1 with
  | some (name :: rest) =>
    (content? pair.2).map fun content => ("/".intercalate (name :: rest), content)
  | _ => none

theorem membersBelow_eq (volume : Volume) (root : Location) :
    membersBelow volume root = volume.nodes.filterMap (memberBelow? root) := by
  rw [membersBelow, below, List.filterMap_filterMap]
  apply List.filterMap_congr
  intro pair _
  obtain ⟨place, node⟩ := pair
  simp only [memberBelow?]
  generalize root.isPrefixOf? place = start
  rcases start with _ | _ | ⟨name, rest⟩ <;> rfl

theorem memberBelow?_eq_some {root place : Location} {node : Node} {path : String}
    {content : Content} :
    memberBelow? root (place, node) = some (path, content) ↔ ∃ steps, steps ≠ [] ∧
      place = root ++ steps ∧ content? node = some content ∧ path = "/".intercalate steps := by
  unfold memberBelow?
  constructor
  · intro shown
    split at shown
    next name rest start =>
      obtain ⟨content, isContent, same⟩ := Option.map_eq_some_iff.mp shown
      obtain ⟨rfl, rfl⟩ := Prod.mk.inj same
      exact ⟨name :: rest, List.cons_ne_nil name rest,
        (List.append_eq_of_isPrefixOf?_eq_some start).symm, isContent, rfl⟩
    next => cases shown
  · rintro ⟨steps, some_, rfl, isContent, rfl⟩
    obtain ⟨name, rest, rfl⟩ := List.exists_cons_of_ne_nil some_
    have start : root.isPrefixOf? (root ++ name :: rest) = some (name :: rest) :=
      List.isPrefixOf?_eq_some_iff_append_eq.mpr rfl
    simp [start, isContent]

theorem mem_nodes {volume : Volume} (ascending : Assoc.Ascending volume.nodes) {root : Location}
    {steps : List String} {node : Node} (some_ : steps ≠ []) :
    (root ++ steps, node) ∈ volume.nodes ↔ volume.node? (root ++ steps) = some node := by
  simpa [node?, some_] using ascending.mem_iff

/-- The members are the nodes below, at the paths of their steps. -/
theorem mem_membersBelow {volume : Volume} (ascending : Assoc.Ascending volume.nodes)
    {root : Location} {path : String} {content : Content} :
    (path, content) ∈ membersBelow volume root ↔ ∃ steps node, steps ≠ [] ∧
      volume.node? (root ++ steps) = some node ∧ content? node = some content ∧
      path = "/".intercalate steps := by
  rw [membersBelow_eq, List.mem_filterMap]
  constructor
  · rintro ⟨⟨place, node⟩, isNode, shown⟩
    obtain ⟨steps, some_, rfl, isContent, same⟩ := memberBelow?_eq_some.mp shown
    exact ⟨steps, node, some_, (mem_nodes ascending some_).mp isNode, isContent, same⟩
  · rintro ⟨steps, node, some_, found, isContent, same⟩
    exact ⟨(root ++ steps, node), (mem_nodes ascending some_).mpr found,
      memberBelow?_eq_some.mpr ⟨steps, some_, rfl, isContent, same⟩⟩

theorem filesOf_sublist (members : List (String × Content)) :
    ((filesOf members).map Prod.fst).Sublist (members.map Prod.fst) := by
  induction members with
  | nil => exact List.Sublist.refl _
  | cons member rest ih =>
    obtain ⟨path, content⟩ := member
    cases content with
    | file => exact ih.cons_cons path
    | directory | symlink => exact ih.cons path

end TarGzip

/-- A format whose archives are compressed tar files of what is below a directory, in any order. -/
structure ArchiveFormat.IsTarGzip (format : ArchiveFormat) : Prop where
  pack : ∀ volume directory root, volume.find true (Path.join directory "") = .ok (root, .directory) →
    ∃ members, members.Perm (TarGzip.membersBelow volume root) ∧
      format.pack volume directory = ⟨TarGzip.writeMembers members, none⟩
  files : format.files = TarGzip.files

theorem ArchiveFormat.isTarGzip_tarGzip : ArchiveFormat.tarGzip.IsTarGzip where
  pack := by
    intro volume directory root found
    refine ⟨_, List.Perm.refl _, ?_⟩
    simp [tarGzip, TarGzip.pack, found]
  files := rfl

namespace Engine

open TarGzip

/-- Members that were packed from a staging directory with some entries. Besides the files there are
directories on the way to entries that have a body. -/
structure Packed (body : Entry → Bytes) (written : List Entry)
    (members : List (String × Tar.Content)) : Prop where
  valid : ∀ entry ∈ written, entry.IsValid
  files : ∀ path bytes, (path, bytes) ∈ filesOf members ↔
    ∃ entry ∈ written, path = entry.path ∧ bytes = body entry
  others : ∀ path content, (path, content) ∈ members → (∃ bytes, content = .file bytes) ∨
    content = .directory ∧ ∃ entry : Entry, ∃ steps, body entry ≠ [] ∧
      steps <+: entry.directories ∧ path = "/".intercalate steps
  paths : (members.map Prod.fst).Nodup
  clean : ∀ member ∈ members, '\x00' ∉ member.1.toList ∧ '\\' ∉ member.1.toList

variable {old volume other : Volume} {root : Location} {body : Entry → Bytes} {written : List Entry}

theorem Packed.perm {members others : List (String × Tar.Content)}
    (packing : Packed body written members) (same : others.Perm members) :
    Packed body written others where
  valid := packing.valid
  files := by
    intro path bytes
    rw [mem_filesOf, same.mem_iff, ← mem_filesOf]
    exact packing.files path bytes
  others := fun path content member => packing.others path content (same.mem_iff.mp member)
  paths := (same.map Prod.fst).nodup_iff.mpr packing.paths
  clean := fun member isMember => packing.clean member (same.mem_iff.mp isMember)

theorem Packed.once {members : List (String × Tar.Content)} (packing : Packed body written members) :
    ((filesOf members).map Prod.fst).Nodup :=
  packing.paths.sublist (filesOf_sublist members)

theorem Packed.entries {members : List (String × Tar.Content)}
    (packing : Packed body written members) : ∃ entries : List Entry, entries.Nodup ∧
      (∀ entry, entry ∈ entries ↔ entry ∈ written) ∧
      filesOf members = entries.map fun entry => (entry.path, body entry) := by
  have listed : ∀ files : List (String × Bytes), (∀ file ∈ files, ∃ entry ∈ written,
      file = (entry.path, body entry)) → ∃ entries : List Entry, (∀ entry ∈ entries,
        entry ∈ written) ∧ files = entries.map fun entry => (entry.path, body entry) := by
    intro files each
    induction files with
    | nil => exact ⟨[], by simp, rfl⟩
    | cons file rest ih =>
      obtain ⟨⟨entry, member, rfl⟩, later⟩ := List.forall_mem_cons.mp each
      obtain ⟨entries, within, rfl⟩ := ih later
      exact ⟨entry :: entries, List.forall_mem_cons.mpr ⟨member, within⟩, rfl⟩
  obtain ⟨entries, within, files⟩ := listed (filesOf members) (by
    rintro ⟨path, bytes⟩ member
    obtain ⟨entry, isWritten, rfl, rfl⟩ := (packing.files path bytes).mp member
    exact ⟨entry, isWritten, rfl⟩)
  refine ⟨entries, ?_, fun entry => ⟨within entry, fun member => ?_⟩, files⟩
  · have once := packing.once
    rw [files, List.map_map] at once
    exact once.of_map
  · have isFile := (packing.files _ _).mpr ⟨entry, member, rfl, rfl⟩
    rw [files] at isFile
    obtain ⟨other, isIn, same⟩ := List.mem_map.mp isFile
    have valid := packing.valid other (within other isIn)
    have is := Entry.path_injective valid.wellFormed (packing.valid entry member).wellFormed
      (congrArg Prod.fst same)
    exact is ▸ isIn

/-- There are as many files as entries that were written once each. -/
theorem Packed.length {members : List (String × Tar.Content)}
    (packing : Packed body written members) (once : written.Nodup) :
    written.length = (filesOf members).length := by
  obtain ⟨entries, distinct, same, files⟩ := packing.entries
  rw [files, List.length_map]
  exact (List.perm_ext_iff_of_nodup once distinct).mpr (fun entry => (same entry).symm) |>.length_eq

/-- How large an archive can get at most, if all that has a body is known. -/
theorem Packed.length_writeMembers_le {members : List (String × Tar.Content)}
    (packing : Packed body written members) {entries : List Entry}
    (all : ∀ entry, entry ∈ written ∨ body entry ≠ [] → entry ∈ entries) {most : Nat}
    (each : ∀ entry ∈ entries, ∀ steps ∈ entry.segments.inits,
      ∀ content ∈ [Tar.Content.file (body entry), .directory],
        (Tar.writeMember (Bytes.ofText ("/".intercalate steps)) content).length ≤ most) :
    (writeMembers members).length ≤
      2 * ((entries.flatMap (·.segments.inits)).length * most + 1024) + 23 := by
  have known : ∀ member ∈ members, ∃ entry ∈ entries, ∃ steps ∈ entry.segments.inits,
      member.1 = "/".intercalate steps ∧ member.2 ∈ [Tar.Content.file (body entry), .directory] := by
    rintro ⟨path, content⟩ member
    rcases packing.others path content member with ⟨bytes, rfl⟩ | ⟨rfl, entry, steps, has, start, rfl⟩
    · obtain ⟨entry, isWritten, rfl, rfl⟩ := (packing.files path bytes).mp (mem_filesOf.mpr member)
      have whole := (List.mem_inits _ _).mpr (List.prefix_refl entry.segments)
      exact ⟨entry, all entry (.inl isWritten), _, whole, entry.path_eq, List.mem_cons_self⟩
    · have start := (List.mem_inits _ _).mpr (start.trans entry.directories_start)
      exact ⟨entry, all entry (.inr has), steps, start, rfl, by simp⟩
  have few : members.length ≤ (entries.flatMap (·.segments.inits)).length := by
    have within : members.map Prod.fst ⊆
        (entries.flatMap (·.segments.inits)).map ("/".intercalate ·) := by
      intro path member
      obtain ⟨⟨_, content⟩, isMember, rfl⟩ := List.mem_map.mp member
      obtain ⟨entry, isEntry, steps, isStart, same, _⟩ := known _ isMember
      exact List.mem_map.mpr ⟨steps, List.mem_flatMap.mpr ⟨entry, isEntry, isStart⟩, same.symm⟩
    simpa using (packing.paths.subperm within).length_le
  have bound : (writeMembers members).length ≤ 2 * (members.length * most + 1024) + 23 := by
    apply TarGzip.length_writeMembers_le
    intro member isMember
    obtain ⟨entry, isEntry, steps, isStart, same, isContent⟩ := known member isMember
    rw [same]
    exact each entry isEntry steps isStart member.2 isContent
  have scaled := Nat.add_le_add_right (Nat.mul_le_mul_right most few) 1024
  exact Nat.le_trans bound (Nat.add_le_add_right (Nat.mul_le_mul_left 2 scaled) 23)

/-- What is below the staging directory is on the way to an entry. -/
theorem Holds.on_way (holds : Holds old root body written volume) {steps : List String} {node : Node}
    (some_ : steps ≠ []) (found : volume.node? (root ++ steps) = some node) :
    ∃ entry : Entry, entry.IsValid ∧ steps <+: entry.segments := by
  cases node with
  | file contents modified =>
    obtain ⟨entry, member, rfl⟩ := holds.onlyFiles steps contents modified found
    exact ⟨entry, holds.valid entry member, List.prefix_refl _⟩
  | directory =>
    obtain ⟨entry, valid, _, start⟩ := holds.onlyDirectories steps some_ found
    exact ⟨entry, valid, start.trans entry.directories_start⟩
  | symlink target => exact absurd found (holds.staged.linkFree steps target)

theorem Holds.memberBelow (holds : Holds old root body written volume)
    (ascending : Assoc.Ascending other.nodes)
    (same : ∀ steps, other.node? (root ++ steps) = volume.node? (root ++ steps)) {place : Location}
    {node : Node} {path : String} {content : Tar.Content} (isNode : (place, node) ∈ other.nodes)
    (shown : memberBelow? root (place, node) = some (path, content)) :
    place = root ++ Text.splitSlash path := by
  obtain ⟨steps, some_, rfl, _, rfl⟩ := memberBelow?_eq_some.mp shown
  have found := (mem_nodes ascending some_).mp isNode
  rw [same] at found
  obtain ⟨entry, valid, isStart⟩ := holds.on_way some_ found
  rw [Text.splitSlash_intercalate some_ fun part member =>
    (valid.segments part (isStart.subset member)).slash]

/-- Packing takes the written entries, whatever else changed outside of the staging directory. -/
theorem Holds.packed (holds : Holds old root body written volume)
    (ascending : Assoc.Ascending other.nodes)
    (same : ∀ steps, other.node? (root ++ steps) = volume.node? (root ++ steps)) :
    Packed body written (membersBelow other root) where
  valid := holds.valid
  files := by
    intro path bytes
    rw [mem_filesOf, mem_membersBelow ascending]
    constructor
    · rintro ⟨steps, node, _, found, isFile, rfl⟩
      cases node with
      | file contents modified =>
        rw [same] at found
        obtain ⟨entry, member, rfl⟩ := holds.onlyFiles steps contents modified found
        obtain ⟨_, isBody⟩ := holds.files entry member
        rw [found] at isBody
        obtain ⟨rfl, rfl⟩ := Node.file.inj (Option.some.inj isBody)
        refine ⟨entry, member, entry.path_eq.symm, ?_⟩
        simpa [content?, Contents.toBytes, Contents.ofBytes] using isFile.symm
      | directory | symlink => simp [content?] at isFile
    · rintro ⟨entry, member, rfl, rfl⟩
      obtain ⟨modified, found⟩ := holds.files entry member
      refine ⟨entry.segments, _, by simp [Entry.segments], (same _).trans found, ?_, entry.path_eq⟩
      simp [content?, Contents.toBytes, Contents.ofBytes]
  others := by
    intro path content member
    obtain ⟨steps, node, some_, found, isContent, rfl⟩ := (mem_membersBelow ascending).mp member
    rw [same] at found
    cases node with
    | file contents modified => exact .inl ⟨contents.toBytes, (Option.some.inj isContent).symm⟩
    | directory =>
      obtain ⟨entry, _, has, start⟩ := holds.onlyDirectories steps some_ found
      exact .inr ⟨(Option.some.inj isContent).symm, entry, steps, has, start, rfl⟩
    | symlink target => cases isContent
  paths := by
    rw [membersBelow_eq, List.Nodup, List.pairwise_map, List.pairwise_filterMap]
    apply (List.pairwise_map.mp ascending.nodup_keys).imp_of_mem
    rintro ⟨place, node⟩ ⟨place', node'⟩ isNode isNode' differ ⟨path, content⟩ shown
      ⟨path', content'⟩ shown' rfl
    have here := holds.memberBelow ascending same isNode shown
    have there := holds.memberBelow ascending same isNode' shown'
    exact differ (here.trans there.symm)
  clean := by
    rintro ⟨path, content⟩ member
    obtain ⟨steps, node, some_, found, _, rfl⟩ := (mem_membersBelow ascending).mp member
    rw [same] at found
    refine ⟨fun zero => ?_, fun backslash => ?_⟩
    · rcases Text.mem_intercalate zero with slash | ⟨step, isStep, inside⟩
      · simp at slash
      · exact holds.nulFree steps node found step isStep inside
    · rcases Text.mem_intercalate backslash with slash | ⟨step, isStep, inside⟩
      · simp at slash
      · obtain ⟨entry, valid, start⟩ := holds.on_way some_ found
        exact (valid.segments step (start.subset isStep)).backslash inside

end Engine

end ClusterArchive
