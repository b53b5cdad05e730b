import ClusterArchive.Gzip.Member
import ClusterArchive.Proofs.Bytes

/-! Gzip data as it is written is read back. Stored blocks are followed one after the other; what
comes after the last of them is the end of the member. -/

namespace ClusterArchive

namespace Deflate

open Decode

/-- One step of a decoder after the other, up to the first that stops. -/
theorem run_bind {α β : Type} (first : Decode α) (next : α → Decode β) (decoder : Decoder) :
    (first >>= next).run.run decoder =
      match first.run.run decoder with
      | (.ok value, decoder) => (next value).run.run decoder
      | (.error stop, decoder) => (.error stop, decoder) := by
  simp only [ExceptT.run_bind, StateT.run_bind]
  rcases first.run.run decoder with ⟨_ | _, _⟩ <;> rfl

theorem run_get (decoder : Decoder) :
    (get : Decode Decoder).run.run decoder = (.ok decoder, decoder) := rfl

theorem run_set (decoder other : Decoder) :
    (set other : Decode PUnit).run.run decoder = (.ok ⟨⟩, other) := rfl

theorem run_bits {n value : Nat} {decoder : Decoder} {cursor : BitCursor}
    (read : decoder.cursor.bits? n = some (value, cursor)) :
    (bits n).run.run decoder = (.ok value, { decoder with cursor := cursor }) := by
  rw [bits, run_bind, run_get]
  simp only [read]
  rfl

theorem length_storedLimit {block : Bytes} (fits : block.length ≤ storedLimit) :
    Bytes.fromLittleEndian (Bytes.littleEndian 2 block.length) = block.length ∧
    Bytes.fromLittleEndian (Bytes.littleEndian 2 (0xFFFF - block.length)) =
      0xFFFF - block.length := by
  simp only [Bytes.fromLittleEndian_littleEndian, storedLimit] at *
  omega

theorem littleEndian_two (n : Nat) : ∃ low high, Bytes.littleEndian 2 n = [low, high] := ⟨_, _, rfl⟩

theorem run_stored {first : UInt8} {used : Nat} (within : used ≠ 0) {block rest : Bytes}
    {output : Array UInt8} (fits : block.length ≤ storedLimit) :
    stored.run.run ⟨⟨first :: Bytes.littleEndian 2 block.length ++
        Bytes.littleEndian 2 (0xFFFF - block.length) ++ block ++ rest, used⟩, output⟩ =
      (.ok (), ⟨⟨rest, 0⟩, output ++ block.toArray⟩) := by
  obtain ⟨length, complement⟩ := length_storedLimit fits
  obtain ⟨l₀, l₁, written⟩ := littleEndian_two block.length
  obtain ⟨n₀, n₁, writtenComplement⟩ := littleEndian_two (0xFFFF - block.length)
  have total : block.length + (0xFFFF - block.length) = 0xFFFF := by
    simp only [storedLimit] at fits
    omega
  rw [written] at length ⊢
  rw [writtenComplement] at complement ⊢
  rw [stored, run_bind, run_get]
  simp only [BitCursor.aligned, within, ↓reduceIte, List.cons_append, List.nil_append,
    List.tail_cons, length, complement, total, ne_eq, not_true_eq_false, List.drop_left',
    List.take_left', Nat.lt_irrefl, bind_pure_comp, id_map', run_bind, run_get, run_set]

theorem run_blocks_storedBlock (final : Bool) {block : Bytes} (rest : Bytes) (output : Array UInt8)
    (bound : Nat) (fits : block.length ≤ storedLimit) :
    (blocks (bound + 1)).run.run ⟨⟨storedBlock final block ++ rest, 0⟩, output⟩ =
      if final then (.ok (), ⟨⟨rest, 0⟩, output ++ block.toArray⟩)
      else (blocks bound).run.run ⟨⟨rest, 0⟩, output ++ block.toArray⟩ := by
  have framed : storedBlock final block ++ rest = (if final then 1 else 0) ::
      Bytes.littleEndian 2 block.length ++ Bytes.littleEndian 2 (0xFFFF - block.length) ++
        block ++ rest := rfl
  have last : (⟨storedBlock final block ++ rest, 0⟩ : BitCursor).bits? 1 =
      some (final.toNat, ⟨storedBlock final block ++ rest, 1⟩) := by
    cases final <;> simp [framed, BitCursor.bits?, BitCursor.bit?]
  have kind : (⟨storedBlock final block ++ rest, 1⟩ : BitCursor).bits? 2 =
      some (0, ⟨storedBlock final block ++ rest, 3⟩) := by
    cases final
    · simp [framed, BitCursor.bits?, BitCursor.bit?]
    · simp [framed, BitCursor.bits?, BitCursor.bit?]
      decide
  rw [blocks, run_bind, run_bits last]
  simp only []
  rw [run_bind, run_bits kind]
  simp only []
  rw [run_bind, framed, run_stored (by decide) fits]
  cases final
  · rfl
  · rfl

/-- Inflation ends right after the blocks of a deflation. Each block takes bytes, so their number
bounds the blocks. -/
theorem run_blocks_deflate {bytes : Bytes} (rest : Bytes) (output : Array UInt8) {bound : Nat}
    (enough : bytes.length < bound) :
    (blocks bound).run.run ⟨⟨deflate bytes ++ rest, 0⟩, output⟩ =
      (.ok (), ⟨⟨rest, 0⟩, output ++ bytes.toArray⟩) := by
  induction bytes using deflate.induct generalizing output bound with
  | case1 bytes fits =>
    obtain ⟨bound, rfl⟩ := Nat.exists_eq_add_of_lt (Nat.zero_lt_of_lt enough)
    rw [deflate, if_pos fits, Nat.zero_add, run_blocks_storedBlock true rest output bound fits]
    rfl
  | case2 bytes long ih =>
    obtain ⟨bound, rfl⟩ := Nat.exists_eq_add_of_lt (Nat.zero_lt_of_lt enough)
    have taken : (bytes.take storedLimit).length ≤ storedLimit := List.length_take_le ..
    have fewer : (bytes.drop storedLimit).length < bound := by
      simp only [List.length_drop, storedLimit] at *
      omega
    rw [deflate, if_neg long, List.append_assoc, Nat.zero_add,
      run_blocks_storedBlock false _ output bound taken]
    simp only [Bool.false_eq_true, if_false]
    have joined : (bytes.take storedLimit).toArray ++ (bytes.drop storedLimit).toArray =
        bytes.toArray := by
      rw [List.append_toArray, List.take_append_drop]
    rw [ih _ fewer, Array.append_assoc, joined]

/-- Each block has five bytes in front, and there is one block even for nothing. -/
theorem length_deflate (bytes : Bytes) :
    (deflate bytes).length = bytes.length + 5 * ((bytes.length - 1) / storedLimit + 1) := by
  induction bytes using deflate.induct with
  | case1 bytes fits =>
    rw [deflate, if_pos fits]
    simp only [storedBlock, storedLimit, List.length_append, List.length_cons,
      Bytes.length_littleEndian] at *
    omega
  | case2 bytes long ih =>
    rw [deflate, if_neg long, List.length_append]
    simp only [storedBlock, storedLimit, List.length_append, List.length_drop, List.length_take,
      List.length_cons, Bytes.length_littleEndian] at *
    omega

theorem inflate_deflate (bytes rest : Bytes) :
    inflate (deflate bytes ++ rest) = ⟨bytes, .ok rest⟩ := by
  have length := length_deflate bytes
  rw [inflate, run_blocks_deflate rest #[] (by rw [List.length_append]; omega)]
  simp [BitCursor.aligned]

end Deflate

namespace Gzip

theorem body_compress (bytes : Bytes) : body (compress bytes) =
    .ok (Deflate.deflate bytes ++ (Bytes.littleEndian 4 (Crc32.checksum bytes).toNat ++
      Bytes.littleEndian 4 bytes.length)) := by
  have long : ¬(compress bytes).length < 10 := by simp [compress]
  rw [body, if_neg long]
  simp [compress, bind, Except.bind, pure, Except.pure]

theorem checkTrailer_written (bytes : Bytes) :
    checkTrailer bytes (Bytes.littleEndian 4 (Crc32.checksum bytes).toNat ++
      Bytes.littleEndian 4 bytes.length) = .ok () := by
  have small : (Crc32.checksum bytes).toNat < 256 ^ 4 := (Crc32.checksum bytes).toNat_lt
  have whole : (Bytes.littleEndian 4 bytes.length).take 4 = Bytes.littleEndian 4 bytes.length :=
    List.take_of_length_le (by simp)
  simp [checkTrailer, whole, Bytes.fromLittleEndian_littleEndian]

/-- What was compressed is decompressed. -/
theorem decompress_compress (bytes : Bytes) :
    decompress (.ofBytes (compress bytes)) = .ofBytes bytes := by
  simp [decompress, ByteStream.ofBytes, readMember, body_compress, Deflate.inflate_deflate,
    checkTrailer_written]

theorem length_compress (bytes : Bytes) : (compress bytes).length =
    bytes.length + 5 * ((bytes.length - 1) / Deflate.storedLimit + 1) + 18 := by
  simp only [compress, List.length_append, List.length_cons, List.length_nil,
    Deflate.length_deflate, Bytes.length_littleEndian]
  omega

end Gzip

end ClusterArchive
