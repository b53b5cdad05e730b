import ClusterArchive.Digest.Sha256

/-! The digest of bytes that are read in parts. A read gives some of the bytes that are left, and no
more than the buffer takes; one that gives none is the last. -/

namespace ClusterArchive

def bufferSize : Nat := 64 * 1024

/-- How many bytes a read gives, by how many are left. -/
structure Splitting where
  size : Nat → Nat
  proceeds : ∀ left, 0 < left → 0 < size left
  bounded : ∀ left, size left ≤ min left bufferSize

def Splitting.full : Splitting where
  size left := min left bufferSize
  proceeds _ some_ := Nat.lt_min.mpr ⟨some_, by decide⟩
  bounded _ := Nat.le_refl _

namespace Sha256.Hasher

def readAll (splitting : Splitting) (hasher : Hasher) (left : Bytes) : Hasher :=
  let read := splitting.size left.length
  if read = 0 then hasher
  else (hasher.update (left.take read)).readAll splitting (left.drop read)
termination_by left.length
decreasing_by
  have bounded := splitting.bounded left.length
  simp only [List.length_drop]
  omega

/-- However the reads split them, all bytes are hashed, each once. -/
@[simp] theorem readAll_eq (splitting : Splitting) (hasher : Hasher) (left : Bytes) :
    hasher.readAll splitting left = hasher.update left := by
  fun_induction hasher.readAll splitting left with
  | case1 hasher left read zero =>
    have proceeds := splitting.proceeds left.length
    have nothing : left = [] := List.length_eq_zero_iff.mp (by omega)
    rw [nothing]
    rfl
  | case2 hasher left read some_ ih =>
    rw [ih, ← update_append, List.take_append_drop]

end Sha256.Hasher

end ClusterArchive
