import ClusterArchive.Format
import ClusterArchive.Proofs.Gzip.RoundTrip
import ClusterArchive.Proofs.Tar.RoundTrip

/-! The files of a packed archive are those that were packed, in the order in which they were. -/

namespace ClusterArchive.TarGzip

open Tar

def filesOf (members : List (String × Content)) : List (String × Bytes) :=
  members.filterMap fun
    | (path, .file bytes) => some (path, bytes)
    | _ => none

def tarData (members : List (String × Content)) : Bytes :=
  Tar.write (members.map fun (path, content) => (Bytes.ofText path, content))

theorem length_writeMembers (members : List (String × Content)) :
    let data := Tar.write (members.map fun (path, content) => (Bytes.ofText path, content))
    (writeMembers members).length =
      data.length + 5 * ((data.length - 1) / Deflate.storedLimit + 1) + 18 :=
  Gzip.length_compress _

theorem length_writeMembers_le {members : List (String × Content)} {most : Nat}
    (each : ∀ member ∈ members,
      (Tar.writeMember (Bytes.ofText member.1) member.2).length ≤ most) :
    (writeMembers members).length ≤ 2 * (members.length * most + 1024) + 23 := by
  have sum : (members.map fun member =>
      (Tar.writeMember (Bytes.ofText member.1) member.2).length).sum ≤ members.length * most := by
    induction members with
    | nil => simp
    | cons member rest ih =>
      obtain ⟨here, later⟩ := List.forall_mem_cons.mp each
      rw [List.map_cons, List.sum_cons, List.length_cons, Nat.succ_mul, Nat.add_comm]
      exact Nat.add_le_add (ih later) here
  have length := length_writeMembers members
  have mark : Tar.endMark.length = 1024 := List.length_replicate ..
  simp only [Tar.write, List.length_append, List.flatMap_map, List.length_flatMap, mark,
    Deflate.storedLimit] at length
  omega

theorem pathText_ofText (path : String) (content : Content) :
    (content.member (Bytes.ofText path)).pathText =
      String.ofList (path.toList.map fun c => if c = '\\' then '/' else c) := by
  have bytes : (content.member (Bytes.ofText path)).path = Bytes.ofText path := by
    cases content <;> rfl
  rw [Member.pathText, bytes, Text.lossy_ofText]

theorem pathText_member {path : String} (slashes : '\\' ∉ path.toList) (content : Content) :
    (content.member (Bytes.ofText path)).pathText = path := by
  have same : path.toList.map (fun c => if c = '\\' then '/' else c) = path.toList := by
    refine (List.map_congr_left fun c member => ?_).trans (List.map_id _)
    exact if_neg fun is : c = '\\' => slashes (is ▸ member)
  rw [pathText_ofText, same, String.ofList_toList]

/-- Every member that was read whole is delivered if it is a file. -/
theorem deliver_members {members : List (String × Content)}
    (slashes : ∀ member ∈ members, '\\' ∉ member.1.toList) :
    deliver none (members.map fun (path, content) => content.member (Bytes.ofText path)) =
      ⟨filesOf members, none⟩ := by
  induction members with
  | nil => rfl
  | cons member rest ih =>
    obtain ⟨path, content⟩ := member
    obtain ⟨here, later⟩ := List.forall_mem_cons.mp slashes
    have text : (content.member (Bytes.ofText path)).pathText = path := pathText_member here content
    rw [List.map_cons, deliver, ih later]
    cases content with
    | file bytes =>
      simp only [Content.member] at text ⊢
      simp [filesOf, text, Member.isFile]
    | directory | symlink => rfl

/-- What was written is read, each member once and in its place. -/
theorem readMembers_tarData {members : List (String × Content)}
    (nonzero : ∀ member ∈ members, '\x00' ∉ member.1.toList)
    (small : (tarData members).length < 2 ^ 64) :
    readMembers (.ofBytes (tarData members)) =
      ⟨members.map fun (path, content) => content.member (Bytes.ofText path), none⟩ := by
  have nonzeroBytes : ∀ member ∈ members.map fun (path, content) => (Bytes.ofText path, content),
      0 ∉ member.1 := by
    intro member isIn
    obtain ⟨⟨path, content⟩, original, rfl⟩ := List.mem_map.mp isIn
    exact Text.zero_notMem_ofText (nonzero _ original)
  rw [tarData, readMembers_write nonzeroBytes small, List.map_map]
  rfl

theorem tarFiles_tarData {members : List (String × Content)}
    (clean : ∀ member ∈ members, '\x00' ∉ member.1.toList ∧ '\\' ∉ member.1.toList)
    (small : (tarData members).length < 2 ^ 64) :
    tarFiles (.ofBytes (tarData members)) = ⟨filesOf members, none⟩ := by
  rw [tarFiles, readMembers_tarData (fun member isIn => (clean member isIn).1) small]
  exact deliver_members fun member isIn => (clean member isIn).2

/-- What was packed is delivered: no file is lost, none is added, and none fails. -/
theorem files_writeMembers {members : List (String × Content)}
    (clean : ∀ member ∈ members, '\x00' ∉ member.1.toList ∧ '\\' ∉ member.1.toList)
    (small : (writeMembers members).length < 2 ^ 64) :
    files (.ofBytes (writeMembers members)) = ⟨filesOf members, none⟩ := by
  have length : (writeMembers members).length = (tarData members).length +
      5 * (((tarData members).length - 1) / Deflate.storedLimit + 1) + 18 := length_writeMembers members
  have fits : (tarData members).length < 2 ^ 64 := by omega
  rw [files, writeMembers, Gzip.decompress_compress]
  exact tarFiles_tarData clean fits

end ClusterArchive.TarGzip
