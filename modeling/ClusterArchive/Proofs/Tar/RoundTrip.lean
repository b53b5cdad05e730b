import ClusterArchive.Proofs.Tar.Header
import ClusterArchive.Tar.Reader

/-! Tar data as it is written is read back, member by member. A name that does not fit its field
comes back from the entry before its member. -/

namespace ClusterArchive.Tar

def Content.member (path : Bytes) : Content → Member
  | .file bytes => ⟨path, 0x30, bytes.length, bytes, none⟩
  | .directory => ⟨path, 0x35, 0, [], none⟩
  | .symlink _ => ⟨path, 0x32, 0, [], none⟩

theorem length_le_padded (size : Nat) : size ≤ padded size := by
  simp only [padded, blockSize]
  omega

theorem padded_lt (size : Nat) : padded size < size + blockSize := by
  simp only [padded, blockSize]
  omega

@[simp] theorem length_fillBlocks (bytes : Bytes) : (fillBlocks bytes).length = padded bytes.length := by
  have := length_le_padded bytes.length
  simp only [fillBlocks, List.length_append, List.length_replicate]
  omega

def Listing.cons (member : Member) (listing : Listing) : Listing :=
  ⟨member :: listing.members, listing.fault⟩

/-- One entry is read as what it tells about the next one, or as a member. -/
theorem readFrom_entry {position size : Nat} {ahead : Ahead} {name target data more : Bytes}
    {kind : UInt8} (counted : data.length = size) (plain : ahead.records = none)
    (sparse : kind ≠ 0x53) (small : position + (blockSize + padded size) < 2 ^ 64) :
    readFrom position ahead ⟨makeHeader name kind size target ++ (fillBlocks data ++ more), none⟩ =
      match ahead.add? (makeHeader name kind size target) data with
      | some (.error fault) => ⟨[], some fault⟩
      | some (.ok ahead) => readFrom (position + (blockSize + padded size)) ahead ⟨more, none⟩
      | none => (readFrom (position + (blockSize + padded size)) .nothing ⟨more, none⟩).cons
          ⟨ahead.path (makeHeader name kind size target), kind, size, data, none⟩ := by
  subst counted
  have header : (makeHeader name kind data.length target ++ (fillBlocks data ++ more)).take blockSize =
      makeHeader name kind data.length target := List.take_left' (length_makeHeader ..)
  have rest : (makeHeader name kind data.length target ++ (fillBlocks data ++ more)).drop blockSize =
      fillBlocks data ++ more := List.drop_left' (length_makeHeader ..)
  have long : ¬(makeHeader name kind data.length target ++ (fillBlocks data ++ more)).length <
      blockSize := by
    simp
  have length := length_le_padded data.length
  have sized : ahead.size? (makeHeader name kind data.length target) = some data.length := by
    simp [Ahead.size?, size?_makeHeader name kind target (by omega : data.length < 2 ^ 64), plain]
  have held : (fillBlocks data ++ more).take data.length = data := by
    rw [fillBlocks, List.append_assoc]
    exact List.take_left' rfl
  have left : (fillBlocks data ++ more).drop (padded data.length) = more :=
    List.drop_left' (length_fillBlocks data)
  have room : ¬Nat.pow 2 64 ≤ position + (blockSize + padded data.length) := Nat.not_le.mpr small
  have enough : ¬(fillBlocks data ++ more).length < padded data.length := by simp
  rw [readFrom]
  simp only [header, long, ByteStream.drop, rest, sized, held, makeHeader_nonzero,
    isSound_makeHeader, Nat.add_assoc, room, kind_makeHeader, sparse, Nat.zero_mul, Nat.zero_add,
    enough, left, Nat.lt_irrefl, dite_false, if_false, Bool.not_true, Bool.false_eq_true,
    List.nil_append, List.singleton_append]
  cases ahead.add? (makeHeader name kind data.length target) data with
  | none => rfl
  | some told =>
    cases told with
    | error fault => rfl
    | ok ahead => rfl

def Ahead.told (name : Bytes) (longLink : Bool) : Ahead :=
  ⟨if name.length ≤ nameSize then none else some (name ++ [0]), longLink, none⟩

theorem Ahead.told_path {name : Bytes} (nonzero : 0 ∉ name) (longLink : Bool) (kind : UInt8)
    (size : Nat) (target : Bytes) :
    (told name longLink).path (makeHeader name kind size target) = name := by
  unfold told path
  split
  next long told =>
    split at told
    next => simp at told
    next =>
      obtain rfl := Option.some.inj told
      simp
  next short =>
    split at short
    next fits => simpa using path_makeHeader kind size target fits nonzero
    next => simp at short

theorem readFrom_longName {position : Nat} {name more : Bytes}
    (small : position + (longName 0x4c name).length < 2 ^ 64) :
    readFrom position .nothing ⟨longName 0x4c name ++ more, none⟩ =
      readFrom (position + (longName 0x4c name).length) (.told name false) ⟨more, none⟩ := by
  unfold longName at small ⊢
  by_cases fits : name.length ≤ nameSize
  · simp [fits, Ahead.told, Ahead.nothing]
  · have counted : (name ++ [0]).length = name.length + 1 := by simp
    simp only [fits, if_false, List.length_append, length_makeHeader, length_fillBlocks, counted,
      List.append_assoc] at small ⊢
    rw [readFrom_entry counted rfl (by decide) small]
    simp [Ahead.add?, isGnu_makeHeader, kind_makeHeader, Ahead.nothing, Ahead.told, fits]

theorem readFrom_longTarget {position : Nat} {name target more : Bytes}
    (small : position + (longName 0x4b target).length < 2 ^ 64) :
    readFrom position (.told name false) ⟨longName 0x4b target ++ more, none⟩ =
      readFrom (position + (longName 0x4b target).length)
        (.told name (nameSize < target.length)) ⟨more, none⟩ := by
  unfold longName at small ⊢
  by_cases fits : target.length ≤ nameSize
  · have short : decide (nameSize < target.length) = false := by simp [fits]
    simp [fits, short]
  · have counted : (target ++ [0]).length = target.length + 1 := by simp
    simp only [fits, if_false, List.length_append, length_makeHeader, length_fillBlocks, counted,
      List.append_assoc] at small ⊢
    rw [readFrom_entry counted rfl (by decide) small]
    simp [Ahead.add?, isGnu_makeHeader, kind_makeHeader, Ahead.told, Nat.lt_of_not_le fits]

theorem readFrom_standing {position size : Nat} {name target data more : Bytes} {kind : UInt8}
    {longLink : Bool} (counted : data.length = size) (nonzero : 0 ∉ name)
    (standing : kind = 0x30 ∨ kind = 0x35 ∨ kind = 0x32)
    (small : position + (blockSize + padded size) < 2 ^ 64) :
    readFrom position (.told name longLink)
        ⟨makeHeader name kind size target ++ (fillBlocks data ++ more), none⟩ =
      (readFrom (position + (blockSize + padded size)) .nothing ⟨more, none⟩).cons
        ⟨name, kind, size, data, none⟩ := by
  have sparse : kind ≠ 0x53 := by rcases standing with rfl | rfl | rfl <;> decide
  have alone : (Ahead.told name longLink).add? (makeHeader name kind size target) data = none := by
    rcases standing with rfl | rfl | rfl <;>
      simp [Ahead.add?, isGnu_makeHeader, kind_makeHeader]
  rw [readFrom_entry counted rfl sparse small]
  simp only [alone, Ahead.told_path nonzero]

theorem readFrom_writeMember {position : Nat} {path more : Bytes} {content : Content}
    (nonzero : 0 ∉ path) (small : position + (writeMember path content).length < 2 ^ 64) :
    readFrom position .nothing ⟨writeMember path content ++ more, none⟩ =
      (readFrom (position + (writeMember path content).length) .nothing ⟨more, none⟩).cons
        (content.member path) := by
  have empty (more : Bytes) : more = fillBlocks [] ++ more := rfl
  have noBlocks : padded 0 = 0 := rfl
  cases content with
  | file bytes =>
    simp only [writeMember, List.length_append, length_makeHeader, length_fillBlocks,
      List.append_assoc] at small ⊢
    rw [readFrom_longName (by omega), readFrom_standing rfl nonzero (by decide) (by omega)]
    simp only [Nat.add_assoc, Content.member]
  | directory =>
    simp only [writeMember, List.length_append, length_makeHeader, List.append_assoc] at small ⊢
    rw [readFrom_longName (by omega), empty more,
      readFrom_standing List.length_nil nonzero (by decide) (by omega)]
    simp only [noBlocks, Nat.add_zero, Nat.add_assoc, Content.member, ← empty]
  | symlink target =>
    simp only [writeMember, List.length_append, length_makeHeader, List.append_assoc] at small ⊢
    rw [readFrom_longName (by omega), readFrom_longTarget (by omega), empty more,
      readFrom_standing List.length_nil nonzero (by decide) (by omega)]
    simp only [noBlocks, Nat.add_zero, Nat.add_assoc, Content.member, ← empty]

theorem readFrom_endMark (position : Nat) :
    readFrom position .nothing ⟨endMark, none⟩ = ⟨[], none⟩ := by
  have long : ¬endMark.length < blockSize := by
    rw [endMark, List.length_replicate]
    decide
  have zeros : (endMark.take blockSize).all (· = 0) = true := by
    simp [endMark]
  rw [readFrom]
  simp [long, zeros]

theorem readFrom_write {position : Nat} {members : List (Bytes × Content)}
    (nonzero : ∀ member ∈ members, 0 ∉ member.1)
    (small : position + (write members).length < 2 ^ 64) :
    readFrom position .nothing ⟨write members, none⟩ =
      ⟨members.map fun member => member.2.member member.1, none⟩ := by
  induction members generalizing position with
  | nil => exact readFrom_endMark position
  | cons member rest ih =>
    obtain ⟨path, content⟩ := member
    obtain ⟨(here : 0 ∉ path), later⟩ := List.forall_mem_cons.mp nonzero
    have first : write ((path, content) :: rest) = writeMember path content ++ write rest := by
      simp only [write, List.flatMap_cons, List.append_assoc]
    rw [first, List.length_append] at small
    rw [first, readFrom_writeMember here (by omega), ih later (by omega)]
    rfl

/-- What was written is read, each member with its path and all of its bytes. -/
theorem readMembers_write {members : List (Bytes × Content)}
    (nonzero : ∀ member ∈ members, 0 ∉ member.1) (small : (write members).length < 2 ^ 64) :
    readMembers (.ofBytes (write members)) =
      ⟨members.map fun member => member.2.member member.1, none⟩ :=
  readFrom_write nonzero (by omega)

end ClusterArchive.Tar
