import ClusterArchive.Proofs.Tar.Cut

/-! Payloads are all that a reader reads to its end. What it takes up without a fault can be cut into
pieces, each with the bytes that belong to its header. -/

namespace ClusterArchive.Tar

variable {ahead next : Ahead} {header : Header} {position size mapped : Nat} {bytes : Bytes}

/-! A map that was followed has all of its blocks, and nothing behind them was looked at. -/

namespace SparseMap

variable {count : Nat} {map result : SparseMap} {more : Bool}

theorem Extends.exact (extends_ : Extends size map more bytes result count) :
    count * blockSize ≤ bytes.length ∧
      Extends size map more (bytes.take (count * blockSize)) result count := by
  induction extends_ with
  | done => exact ⟨by omega, .done ..⟩
  | @block _ _ _ block rest count full first later ih =>
    obtain ⟨long, same⟩ := ih
    have taken : (block ++ rest).take ((count + 1) * blockSize) =
        block ++ rest.take (count * blockSize) := by
      rw [Nat.succ_mul, Nat.add_comm, ← full, List.take_length_add_append]
    refine ⟨?_, ?_⟩
    · rw [List.length_append, full, Nat.succ_mul]
      omega
    · rw [taken]
      exact .block full first same

theorem blocks_exact (told : SparseMap.blocks header size ⟨bytes, none⟩ = .ok count) :
    count * blockSize ≤ bytes.length ∧
      SparseMap.blocks header size ⟨bytes.take (count * blockSize), none⟩ = .ok count := by
  obtain ⟨start, result, followed, goesOn, _⟩ := blocks_cases told
  obtain ⟨long, same⟩ := (extend_eq_ok.mp followed).exact
  exact ⟨long, goesOn _ (extend_eq_ok.mpr same)⟩

end SparseMap

theorem pass_exact {taken : Nat} {shown : List Member}
    (fine : (pass position ahead ⟨bytes, none⟩ taken shown).fault = none) :
    taken ≤ bytes.length ∧
      (readFrom (position + blockSize + taken) ahead ⟨bytes.drop taken, none⟩).fault = none := by
  unfold pass at fine
  split at fine
  next => cases fine
  next long => exact ⟨Nat.not_lt.mp long, fine⟩

/-! The piece of a header, in front of what is left. -/

/-- A header with what lies behind it, as far as it belongs to it. -/
def Piece.behind (header : Header) (mapped size : Nat) (bytes : Bytes) : Piece :=
  ⟨header, bytes.take mapped, (bytes.drop mapped).take size,
    ((bytes.drop mapped).drop size).take (padded size - size)⟩

theorem Piece.isSound_behind (block : header.length = blockSize) (sound : header.isSound = true)
    (sized : ahead.size? header = some size) (long : mapped + padded size ≤ bytes.length) :
    (Piece.behind header mapped size bytes).IsSound ahead := by
  have fits := length_le_padded size
  have data : ((bytes.drop mapped).take size).length = size := by
    rw [List.length_take, List.length_drop]
    omega
  refine ⟨block, sound, ?_, ?_⟩
  · simp only [behind, data, sized]
  · simp only [behind, data, List.length_take, List.length_drop]
    omega

theorem Piece.bytes_behind (header : Header) (mapped size : Nat) (bytes : Bytes) :
    (Piece.behind header mapped size bytes).bytes ++ bytes.drop (mapped + padded size) =
      header ++ bytes := by
  have fits := Nat.add_sub_of_le (length_le_padded size)
  rw [Piece.bytes, body, behind, ← List.take_add, fits, ← List.take_add, List.append_assoc,
    List.take_append_drop]

/-- The data of a piece, the blocks before it and what is read behind it, told from a reading that
came to its end. -/
theorem readBody_exact (block : header.length = blockSize) (sound : header.isSound = true)
    (sized : ahead.size? header = some size)
    (fine : (readBody position size ahead header ⟨bytes, none⟩).fault = none) :
    ∃ mapped next,
      (∀ others, Payload next others →
        Payload ahead (.behind header mapped size bytes :: others)) ∧
      (readFrom (position + blockSize + (mapped + padded size)) next
        ⟨bytes.drop (mapped + padded size), none⟩).fault = none := by
  unfold readBody at fine
  simp only [] at fine
  split at fine
  next => cases fine
  next next tells =>
    simp only [ite_self] at fine
    obtain ⟨long, later⟩ := pass_exact fine
    refine ⟨0, next, fun others rest => ?_, by simpa using later⟩
    refine .telling (Piece.isSound_behind block sound sized (by omega)) ?_ rfl rest
    simpa [Piece.behind] using tells
  next stands =>
    split at fine
    next sparse =>
      split at fine
      next => cases fine
      next count told =>
        obtain ⟨long, later⟩ := pass_exact fine
        obtain ⟨enough, alone⟩ := SparseMap.blocks_exact told
        have isSound := Piece.isSound_behind block sound sized long
        have kind : (Piece.behind header (count * blockSize) size bytes).header.kind = 0x53 := sparse
        have data : (Piece.behind header (count * blockSize) size bytes).data.length = size :=
          Option.some.inj (isSound.size.symm.trans sized)
        refine ⟨count * blockSize, .nothing, fun others rest => ?_, later⟩
        refine .standing isSound (Ahead.add?_none stands _) ?_ rest
        rw [Piece.IsMapped, if_pos kind, data]
        exact ⟨count, List.length_take_of_le enough, alone⟩
    next plain =>
      obtain ⟨long, later⟩ := pass_exact fine
      have kind : (Piece.behind header 0 size bytes).header.kind ≠ 0x53 := plain
      refine ⟨0, .nothing, fun others rest => ?_, by simpa using later⟩
      refine .standing (Piece.isSound_behind block sound sized (by omega)) (Ahead.add?_none stands _)
        ?_ rest
      rw [Piece.IsMapped, if_neg kind]
      rfl

/-- Where the reading ends, nothing was told about an entry that would have to come. -/
theorem nothing_of_end (ends : IsEnd bytes)
    (fine : (readFrom position ahead ⟨bytes, none⟩).fault = none) : ahead = .nothing := by
  by_contra told
  rw [readFrom] at fine
  rcases ends with rfl | ⟨long, zeros⟩
  · simp [blockSize, told] at fine
  · simp [Nat.not_lt.mpr long, zeros, told] at fine

theorem sound_of_read (block : header.length = blockSize) (filled : header.all (· = 0) = false)
    (fine : (readFrom position ahead ⟨header ++ bytes, none⟩).fault = none) :
    header.isSound = true ∧ ∃ size, ahead.size? header = some size := by
  have first : (header ++ bytes).take blockSize = header := List.take_left' block
  have long : ¬(header ++ bytes).length < blockSize := by
    rw [List.length_append, block]
    omega
  rw [readFrom] at fine
  simp only [first, long, filled, dite_false, if_false, Bool.false_eq_true] at fine
  cases sound : header.isSound with
  | false => simp [sound] at fine
  | true =>
    cases sized : ahead.size? header with
    | none => simp [sound, sized] at fine
    | some size => exact ⟨rfl, size, rfl⟩

/-- Whatever is read without a fault is a payload. -/
theorem payload_of_read (fine : (readFrom position ahead ⟨bytes, none⟩).fault = none) :
    ∃ pieces tail, bytes = payloadBytes pieces ++ tail ∧ Payload ahead pieces ∧ IsEnd tail := by
  -- on the length, since what follows a piece is only known to be shorter
  induction length : bytes.length using Nat.strongRecOn generalizing bytes ahead position with
  | ind n ih =>
    by_cases ends : IsEnd bytes
    · obtain rfl := nothing_of_end ends fine
      exact ⟨[], bytes, rfl, .done, ends⟩
    · have long : blockSize ≤ bytes.length := by
        by_contra short
        have failed := (readFrom_short position ahead (Nat.not_le.mp short) none).2
          fun none_ => ends (.inl none_)
        rw [fine] at failed
        cases failed
      have block : (bytes.take blockSize).length = blockSize := List.length_take_of_le long
      have filled : (bytes.take blockSize).all (· = 0) = false := by
        by_contra zeros
        exact ends (.inr ⟨long, by simpa using zeros⟩)
      have whole := List.take_append_drop blockSize bytes
      rw [← whole] at fine ⊢
      obtain ⟨sound, size, sized⟩ := sound_of_read block filled fine
      rw [readFrom_header block sound sized] at fine
      split at fine
      next => cases fine
      next =>
        obtain ⟨mapped, next, payload, later⟩ := readBody_exact block sound sized fine
        have shorter : ((bytes.drop blockSize).drop (mapped + padded size)).length < n := by
          have : 0 < blockSize := by decide
          rw [List.length_drop, List.length_drop]
          omega
        obtain ⟨pieces, tail, left, rest, ends⟩ := ih _ shorter later rfl
        refine ⟨_, tail, ?_, payload pieces rest, ends⟩
        rw [payloadBytes_cons, List.append_assoc, ← left, Piece.bytes_behind]

/-- Payloads are what a reader reads to its end. -/
theorem readFrom_fine_iff (small : bytes.length < 2 ^ 64) :
    (readFrom 0 ahead ⟨bytes, none⟩).fault = none ↔
      ∃ pieces tail, bytes = payloadBytes pieces ++ tail ∧ Payload ahead pieces ∧ IsEnd tail := by
  refine ⟨payload_of_read, ?_⟩
  rintro ⟨pieces, tail, rfl, payload, ends⟩
  rw [List.length_append] at small
  rw [readFrom_payload payload ends (by omega)]

end ClusterArchive.Tar
