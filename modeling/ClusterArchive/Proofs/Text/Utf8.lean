import ClusterArchive.Text.Utf8

/-! The bytes of a text are read back as its characters. -/

namespace ClusterArchive.Text

theorem ofByte_eq (b : UInt8) : Opening.ofByte b =
    if b.toNat < 0x80 then .character (Char.ofNat b.toNat)
    else if b.toNat < 0xC2 then .stray
    else if b.toNat < 0xE0 then .lead ⟨b.toNat % 32, 1, 0x80, 0xBF⟩
    else if b.toNat = 0xE0 then .lead ⟨0, 2, 0xA0, 0xBF⟩
    else if b.toNat = 0xED then .lead ⟨13, 2, 0x80, 0x9F⟩
    else if b.toNat < 0xF0 then .lead ⟨b.toNat % 16, 2, 0x80, 0xBF⟩
    else if b.toNat = 0xF0 then .lead ⟨0, 3, 0x90, 0xBF⟩
    else if b.toNat < 0xF4 then .lead ⟨b.toNat % 8, 3, 0x80, 0xBF⟩
    else if b.toNat = 0xF4 then .lead ⟨4, 3, 0x80, 0x8F⟩
    else .stray := by
  simp only [Opening.ofByte, UInt8.lt_iff_toNat_lt, beq_iff_eq, ← UInt8.toNat_inj,
    UInt8.reduceToNat]

theorem unitsFrom_last {p : Partial} {b : UInt8} {n : Nat} (last : p.missing = 1)
    (value : b.toNat = n + 0x80) (small : n < 64) (low : p.low.toNat ≤ n + 0x80)
    (high : n + 0x80 ≤ p.high.toNat) (rest : Bytes) :
    unitsFrom (some p) (b :: rest) = some (Char.ofNat (p.code * 64 + n)) :: unitsFrom none rest := by
  have accepted : p.accepts b = true := by
    simp [Partial.accepts, UInt8.le_iff_toNat_le, value, low, high]
  have code : b.toNat % 64 = n := by omega
  simp [unitsFrom, accepted, Partial.extend, last, code]

theorem unitsFrom_more {p : Partial} {b : UInt8} {n : Nat} (more : 2 ≤ p.missing)
    (value : b.toNat = n + 0x80) (small : n < 64) (low : p.low.toNat ≤ n + 0x80)
    (high : n + 0x80 ≤ p.high.toNat) (rest : Bytes) :
    unitsFrom (some p) (b :: rest) =
      unitsFrom (some ⟨p.code * 64 + n, p.missing - 1, 0x80, 0xBF⟩) rest := by
  have accepted : p.accepts b = true := by
    simp [Partial.accepts, UInt8.le_iff_toNat_le, value, low, high]
  have code : b.toNat % 64 = n := by omega
  have unfinished : p.missing - 1 ≠ 0 := by omega
  simp [unitsFrom, accepted, Partial.extend, unfinished, code]

theorem unitsFrom_character {b : UInt8} (ascii : b.toNat < 0x80) (rest : Bytes) :
    unitsFrom none (b :: rest) = some (Char.ofNat b.toNat) :: unitsFrom none rest := by
  simp [unitsFrom, ofByte_eq, ascii]

theorem units_ascii {bytes : Bytes} (ascii : ∀ b ∈ bytes, b.toNat < 0x80) :
    units bytes = (bytes.map fun b => Char.ofNat b.toNat).map some := by
  rw [units]
  induction bytes with
  | nil => rfl
  | cons b rest ih =>
    obtain ⟨here, later⟩ := List.forall_mem_cons.mp ascii
    rw [unitsFrom_character here, ih later, List.map_cons, List.map_cons]

theorem unitsFrom_lead {b : UInt8} {begun : Partial} (lead : Opening.ofByte b = .lead begun)
    (rest : Bytes) : unitsFrom none (b :: rest) = unitsFrom (some begun) rest := by
  simp [unitsFrom, lead]

theorem toNat_character {n : Nat} (valid : n.isValidChar) : (Char.ofNat n).toNat = n := by
  rw [Char.ofNat, dif_pos valid]
  rfl

theorem toNat_byte {n : Nat} (small : n < 256) : (UInt8.ofNat n).toNat = n := by
  simp [Nat.mod_eq_of_lt small]

theorem lead_two {v : Nat} (low : 0x7F < v) (high : v ≤ 0x7FF) :
    Opening.ofByte (UInt8.ofNat (v / 64 % 0x20 + 0xC0)) = .lead ⟨v / 64, 1, 0x80, 0xBF⟩ := by
  have code : (v / 64 % 0x20 + 0xC0) % 32 = v / 64 := by omega
  rw [ofByte_eq, toNat_byte (by omega), if_neg (by omega), if_neg (by omega), if_pos (by omega), code]

/-- The bounds shut out overlong forms and surrogates, and nothing else. -/
theorem lead_three {v : Nat} (low : 0x7FF < v) (high : v ≤ 0xFFFF)
    (valid : v < 0xD800 ∨ 0xDFFF < v) : ∃ least greatest : UInt8,
    Opening.ofByte (UInt8.ofNat (v / 4096 % 0x10 + 0xE0)) = .lead ⟨v / 4096, 2, least, greatest⟩ ∧
    least.toNat ≤ v / 64 % 0x40 + 0x80 ∧ v / 64 % 0x40 + 0x80 ≤ greatest.toNat := by
  rw [ofByte_eq, toNat_byte (by omega), if_neg (by omega), if_neg (by omega), if_neg (by omega)]
  by_cases first : v / 4096 = 0
  · refine ⟨0xA0, 0xBF, by simp [first], ?_, ?_⟩ <;> simp only [UInt8.reduceToNat] <;> omega
  · rw [if_neg (by omega)]
    by_cases surrogate : v / 4096 = 13
    · refine ⟨0x80, 0x9F, by simp [surrogate], ?_, ?_⟩ <;> simp only [UInt8.reduceToNat] <;> omega
    · have code : (v / 4096 % 0x10 + 0xE0) % 16 = v / 4096 := by omega
      rw [if_neg (by omega), if_pos (by omega), code]
      refine ⟨0x80, 0xBF, rfl, ?_, ?_⟩ <;> simp only [UInt8.reduceToNat] <;> omega

/-- The bounds shut out overlong forms and code points past the last one, and nothing else. -/
theorem lead_four {v : Nat} (low : 0xFFFF < v) (high : v < 0x110000) : ∃ least greatest : UInt8,
    Opening.ofByte (UInt8.ofNat (v / 262144 % 0x08 + 0xF0)) =
      .lead ⟨v / 262144, 3, least, greatest⟩ ∧
    least.toNat ≤ v / 4096 % 0x40 + 0x80 ∧ v / 4096 % 0x40 + 0x80 ≤ greatest.toNat := by
  rw [ofByte_eq, toNat_byte (by omega), if_neg (by omega), if_neg (by omega), if_neg (by omega),
    if_neg (by omega), if_neg (by omega), if_neg (by omega)]
  by_cases first : v / 262144 = 0
  · refine ⟨0x90, 0xBF, by simp [first], ?_, ?_⟩ <;> simp only [UInt8.reduceToNat] <;> omega
  · rw [if_neg (by omega)]
    by_cases last : v / 262144 = 4
    · refine ⟨0x80, 0x8F, by simp [last], ?_, ?_⟩ <;> simp only [UInt8.reduceToNat] <;> omega
    · have code : (v / 262144 % 0x08 + 0xF0) % 8 = v / 262144 := by omega
      rw [if_pos (by omega), code]
      refine ⟨0x80, 0xBF, rfl, ?_, ?_⟩ <;> simp only [UInt8.reduceToNat] <;> omega

theorem unitsFrom_utf8EncodeChar (c : Char) (rest : Bytes) :
    unitsFrom none (String.utf8EncodeChar c ++ rest) = some c :: unitsFrom none rest := by
  have value : Char.ofNat c.val.toNat = c := Char.ofNat_toNat c
  have valid : c.val.toNat < 0xD800 ∨ 0xDFFF < c.val.toNat ∧ c.val.toNat < 0x110000 := c.valid
  unfold String.utf8EncodeChar
  generalize c.val.toNat = v at value valid
  simp only []
  split
  next one =>
    have byte : (UInt8.ofNat v).toNat = v := toNat_byte (by omega)
    rw [List.cons_append, List.nil_append, unitsFrom_character (by omega), byte, value]
  next notOne =>
    split
    next two =>
      have code : v / 64 * 64 + v % 0x40 = v := by omega
      rw [List.cons_append, unitsFrom_lead (lead_two (by omega) two), List.cons_append,
        List.nil_append, unitsFrom_last rfl (toNat_byte (by omega)) (by omega) (by simp)
        (by simp; omega), code, value]
    next notTwo =>
      split
      next three =>
        obtain ⟨least, greatest, lead, low, high⟩ :=
          lead_three (by omega) three (valid.imp_right And.left)
        have code : (v / 4096 * 64 + v / 64 % 0x40) * 64 + v % 0x40 = v := by omega
        rw [List.cons_append, unitsFrom_lead lead, List.cons_append,
          unitsFrom_more (Nat.le_refl _) (toNat_byte (by omega)) (by omega) low high, List.cons_append,
          List.nil_append, unitsFrom_last rfl (toNat_byte (by omega)) (by omega) (by simp)
          (by simp; omega), code, value]
      next notThree =>
        obtain ⟨least, greatest, lead, low, high⟩ := lead_four (v := v) (by omega) (by omega)
        have code : ((v / 262144 * 64 + v / 4096 % 0x40) * 64 + v / 64 % 0x40) * 64 + v % 0x40 = v := by
          omega
        rw [List.cons_append, unitsFrom_lead lead, List.cons_append,
          unitsFrom_more (by simp) (toNat_byte (by omega)) (by omega) low high, List.cons_append,
          unitsFrom_more (Nat.le_refl _) (toNat_byte (by omega)) (by omega) (by simp) (by simp; omega),
          List.cons_append, List.nil_append, unitsFrom_last rfl (toNat_byte (by omega)) (by omega)
          (by simp) (by simp; omega), code, value]

theorem zero_mem_utf8EncodeChar {c : Char} (zero : 0 ∈ String.utf8EncodeChar c) : c = '\x00' := by
  have value : Char.ofNat c.val.toNat = c := Char.ofNat_toNat c
  have valid : c.val.toNat < 0xD800 ∨ 0xDFFF < c.val.toNat ∧ c.val.toNat < 0x110000 := c.valid
  unfold String.utf8EncodeChar at zero
  generalize c.val.toNat = v at value valid zero
  have nonzero {n : Nat} (positive : 0 < n) (small : n < 256) : 0 ≠ UInt8.ofNat n := by
    intro same
    have byte := toNat_byte small
    rw [← same, UInt8.toNat_zero] at byte
    omega
  simp only [] at zero
  split at zero
  next one =>
    rcases Nat.eq_zero_or_pos v with rfl | positive
    · exact value.symm
    · exact absurd (List.mem_singleton.mp zero) (nonzero positive (by omega))
  next =>
    exfalso
    split at zero
    next =>
      simp only [List.mem_cons, List.not_mem_nil, or_false] at zero
      rcases zero with h | h <;> exact nonzero (by omega) (by omega) h
    next =>
      split at zero
      next =>
        simp only [List.mem_cons, List.not_mem_nil, or_false] at zero
        rcases zero with h | h | h <;> exact nonzero (by omega) (by omega) h
      next =>
        simp only [List.mem_cons, List.not_mem_nil, or_false] at zero
        rcases zero with h | h | h | h <;> exact nonzero (by omega) (by omega) h

theorem ofText_eq (text : String) :
    Bytes.ofText text = text.toList.flatMap String.utf8EncodeChar := by
  rw [Bytes.ofText, String.toUTF8_eq_toByteArray, ← String.utf8Encode_toList, List.utf8Encode,
    List.toList_data_toByteArray]

theorem zero_notMem_ofText {text : String} (clean : '\x00' ∉ text.toList) :
    0 ∉ Bytes.ofText text := by
  rw [ofText_eq, List.mem_flatMap]
  rintro ⟨c, member, zero⟩
  rw [zero_mem_utf8EncodeChar zero] at member
  exact clean member

/-- The bytes of a text are its characters, one after the other. -/
@[simp] theorem units_ofText (text : String) : units (Bytes.ofText text) = text.toList.map some := by
  rw [ofText_eq, units]
  induction text.toList with
  | nil => rfl
  | cons c rest ih => rw [List.flatMap_cons, unitsFrom_utf8EncodeChar, ih, List.map_cons]

theorem mapM_some (text : List Char) : (text.map some).mapM id = some text := by
  induction text with
  | nil => rfl
  | cons c rest ih => simp [List.mapM_cons, ih]

@[simp] theorem lossy_ofText (text : String) : lossy (Bytes.ofText text) = text := by
  have same : ((·.getD '\ufffd') ∘ some : Char → Char) = id := rfl
  rw [lossy, units_ofText, List.map_map, same, List.map_id, String.ofList_toList]

end ClusterArchive.Text
