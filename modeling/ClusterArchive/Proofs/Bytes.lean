import ClusterArchive.Bytes
import Mathlib.Algebra.Group.Nat.Defs
import Mathlib.Data.Nat.Basic

/-! Fixed-width integers: what is read back is what was written, as far as it fits the width. -/

namespace ClusterArchive.Bytes

@[simp] theorem length_littleEndian (width n : Nat) : (littleEndian width n).length = width := by
  simp [littleEndian]

@[simp] theorem length_bigEndian (width n : Nat) : (bigEndian width n).length = width := by
  simp [bigEndian]

theorem littleEndian_succ (width n : Nat) :
    littleEndian (width + 1) n = UInt8.ofNat n :: littleEndian width (n / 256) := by
  simp only [littleEndian, List.range_succ_eq_map, List.map_cons, List.map_map, Nat.mul_zero,
    Nat.shiftRight_zero, List.cons.injEq, true_and]
  apply List.map_congr_left
  intro i _
  have split : n >>> (8 * (i + 1)) = n >>> 8 >>> (8 * i) := by
    rw [← Nat.shiftRight_add]
    congr 1
    omega
  simp only [Function.comp, Nat.succ_eq_add_one, split]
  rw [Nat.shiftRight_eq_div_pow n 8]

theorem fromLittleEndian_littleEndian (width n : Nat) :
    fromLittleEndian (littleEndian width n) = n % 256 ^ width := by
  induction width generalizing n with
  | zero => simp [littleEndian, fromLittleEndian, Nat.mod_one]
  | succ width ih =>
    have digits : n % (256 * 256 ^ width) = n % 256 + 256 * (n / 256 % 256 ^ width) := Nat.mod_mul
    rw [littleEndian_succ, fromLittleEndian, ih, Nat.pow_succ', digits]
    rfl

theorem bigEndian_eq (width n : Nat) : bigEndian width n = (littleEndian width n).reverse := rfl

theorem fromBigEndian_reverse (bytes : Bytes) :
    fromBigEndian bytes.reverse = fromLittleEndian bytes := by
  rw [fromBigEndian, List.foldl_reverse]
  induction bytes with
  | nil => rfl
  | cons b rest ih =>
    rw [List.foldr_cons, ih, fromLittleEndian]
    omega

theorem fromBigEndian_bigEndian (width n : Nat) :
    fromBigEndian (bigEndian width n) = n % 256 ^ width := by
  rw [bigEndian_eq, fromBigEndian_reverse, fromLittleEndian_littleEndian]

theorem drop_bigEndian (more width n : Nat) :
    (bigEndian (width + more) n).drop more = bigEndian width n := by
  have split : littleEndian (width + more) n = littleEndian width n ++
      (List.range more).map fun i => UInt8.ofNat (n >>> (8 * (width + i))) := by
    simp [littleEndian, List.range_add]
  rw [bigEndian_eq, split, List.reverse_append, bigEndian_eq]
  exact List.drop_left' (by simp)

end ClusterArchive.Bytes
