import ClusterArchive.Proofs.Bytes
import ClusterArchive.Proofs.Text.Utf8
import ClusterArchive.Tar.Writer

/-! The fields of a header that was made are read as they were written. -/

namespace ClusterArchive.Tar

theorem field_append {before inside after : Bytes} {start length : Nat}
    (begins : before.length = start) (ends : inside.length = length) :
    field (before ++ (inside ++ after)) start length = inside := by
  subst begins ends
  simp [field]

@[simp] theorem length_fill (width : Nat) (bytes : Bytes) : (fill width bytes).length = width := by
  simp only [fill, List.length_append, List.length_take, List.length_replicate]
  omega

@[simp] theorem length_octalField (width n : Nat) : (octalField width n).length = width := by
  simp [octalField]

@[simp] theorem length_sizeField (size : Nat) : (sizeField size).length = 12 := by
  unfold sizeField
  split <;> simp

/-! Octal digits. -/

theorem octalField_succ (width n : Nat) :
    octalField (width + 1) n = octalField width (n / 8) ++ [UInt8.ofNat (0x30 + n % 8)] := by
  simp only [octalField, Nat.pow_eq, List.range_succ_eq_map, List.map_cons, List.map_map,
    List.reverse_cons, Nat.pow_zero, Nat.div_one, List.append_cancel_right_eq, List.reverse_inj]
  apply List.map_congr_left
  intro i _
  simp only [Function.comp, Nat.pow_succ', Nat.div_div_eq_div_mul]

theorem octalField_digits {width n : Nat} {b : UInt8} (member : b ∈ octalField width n) :
    0x30 ≤ b.toNat ∧ b.toNat ≤ 0x37 := by
  simp only [octalField, List.mem_reverse, List.mem_map] at member
  obtain ⟨i, _, rfl⟩ := member
  rw [Text.toNat_byte (by omega)]
  omega

def octalText (width n : Nat) : List Char := (octalField width n).map fun b => Char.ofNat b.toNat

theorem octalText_digits {width n : Nat} {c : Char} (member : c ∈ octalText width n) :
    0x30 ≤ c.toNat ∧ c.toNat ≤ 0x37 := by
  obtain ⟨b, digit, rfl⟩ := List.mem_map.mp member
  have bounds := octalField_digits digit
  have valid : b.toNat.isValidChar := .inl (by omega)
  rw [Text.toNat_character valid]
  exact bounds

theorem octalText_value {width n : Nat} (fits : n < 8 ^ width) :
    (octalText width n).foldl (fun n c => n * 8 + Decimal.digitValue c) 0 = n := by
  induction width generalizing n with
  | zero =>
    have zero : n = 0 := by simpa using fits
    subst zero
    rfl
  | succ width ih =>
    have fewer : n / 8 < 8 ^ width := by
      rw [Nat.pow_succ] at fits
      omega
    have text : octalText (width + 1) n =
        octalText width (n / 8) ++ [Char.ofNat (UInt8.ofNat (0x30 + n % 8)).toNat] := by
      rw [octalText, octalField_succ, List.map_append]
      rfl
    have digit : Decimal.digitValue (Char.ofNat (UInt8.ofNat (0x30 + n % 8)).toNat) = n % 8 := by
      have valid : (0x30 + n % 8).isValidChar := .inl (by omega)
      rw [Text.toNat_byte (by omega), Decimal.digitValue, Text.toNat_character valid]
      exact Nat.add_sub_cancel_left ..
    rw [text, List.foldl_append, ih fewer, List.foldl_cons, List.foldl_nil, digit]
    omega

theorem asciiText?_octalField (width n : Nat) :
    asciiText? (octalField width n) = some (octalText width n) := by
  have ascii : ∀ b ∈ octalField width n, b.toNat < 0x80 := by
    intro b member
    have := octalField_digits member
    omega
  rw [asciiText?, Text.units_ascii ascii, Text.mapM_some, octalText]

theorem untilZero_append {bytes : Bytes} (nonzero : 0 ∉ bytes) (zeros : Nat) (rest : Bytes) :
    untilZero (bytes ++ (List.replicate zeros 0 ++ rest)) =
      bytes ++ if zeros = 0 then untilZero rest else [] := by
  have kept : ∀ b ∈ bytes, (b ≠ 0 : Bool) = true := by
    intro b member
    simp only [ne_eq, decide_eq_true_eq]
    rintro rfl
    exact nonzero member
  rw [untilZero, List.takeWhile_append_of_pos kept]
  cases zeros with
  | zero => rfl
  | succ zeros => simp [List.replicate_succ]

theorem trim_octalText (width n : Nat) :
    Text.trimRight (Text.trimLeft (octalText width n)) = octalText width n := by
  have solid : ∀ c ∈ octalText width n, ¬Text.isBlank c = true := by
    intro c member
    have digit := octalText_digits member
    simp only [Text.isBlank, Bool.or_eq_true, Bool.and_eq_true, decide_eq_true_eq, beq_iff_eq]
    omega
  have kept {text : List Char} (solid : ∀ c ∈ text, ¬Text.isBlank c = true) :
      text.dropWhile Text.isBlank = text := by
    cases text with
    | nil => rfl
    | cons c rest => exact List.dropWhile_cons_of_neg (solid c List.mem_cons_self)
  rw [Text.trimLeft, kept solid, Text.trimRight, kept (by simpa using solid), List.reverse_reverse]

theorem octalValue?_octalText {width n : Nat} (wide : width ≠ 0) (fits : n < 8 ^ width)
    (small : n < 2 ^ 64) : octalValue? (octalText width n) = some n := by
  have filled : octalText width n ≠ [] := by
    rw [← List.length_pos_iff, octalText, List.length_map, length_octalField]
    omega
  have digits : (octalText width n).all (fun c => '0' ≤ c && c ≤ '7') = true := by
    rw [List.all_eq_true]
    intro c member
    have digit := octalText_digits member
    simp only [Bool.and_eq_true, decide_eq_true_eq, Char.le_def, UInt32.le_iff_toNat_le]
    exact digit
  have bound : n < 18446744073709551616 := small
  simp [octalValue?, filled, digits, octalText_value fits, bound]

theorem octal?_octalField {width n : Nat} (wide : width ≠ 0) (fits : n < 8 ^ width)
    (small : n < 2 ^ 64) (rest : Bytes) : octal? (octalField width n ++ 0 :: rest) = some n := by
  have nonzero : 0 ∉ octalField width n := by
    intro member
    exact absurd (octalField_digits member).1 (by decide)
  have digits : untilZero (octalField width n ++ 0 :: rest) = octalField width n := by
    simpa using untilZero_append nonzero 1 rest
  rw [octal?, digits, asciiText?_octalField]
  simp only [bind, Option.bind, trim_octalText]
  split
  next rest plus =>
    have digit := octalText_digits (c := '+') (by rw [plus]; exact List.mem_cons_self)
    exact absurd digit.1 (by decide)
  next => exact octalValue?_octalText wide fits small

/-- A size is read as it was written, if it fits 64 bits. -/
theorem number?_sizeField {size : Nat} (small : size < 2 ^ 64) :
    number? (sizeField size) = some size := by
  unfold sizeField
  split
  next fits =>
    have read : octal? (octalField 11 size ++ [0]) = some size :=
      octal?_octalField (by decide) fits small []
    obtain ⟨b, rest, first⟩ : ∃ b rest, octalField 11 size = b :: rest :=
      List.exists_cons_of_length_eq_add_one (length_octalField 11 size)
    have digit := octalField_digits (b := b) (by rw [first]; exact List.mem_cons_self)
    have unmarked : ¬0x80 ≤ b := by
      simp only [UInt8.le_iff_toNat_le, UInt8.reduceToNat]
      omega
    rw [first] at read ⊢
    simpa [number?, unmarked] using read
  next =>
    have kept : (0x80 :: Bytes.bigEndian 11 size).drop 4 = Bytes.bigEndian 8 size :=
      Bytes.drop_bigEndian 3 8 size
    have marked : (0x80 : UInt8) ≤ 0x80 := by decide
    have length : (0x80 :: Bytes.bigEndian 11 size).length - 8 = 4 := by simp
    have fits : size < 256 ^ 8 := small
    rw [number?, if_pos marked, length, kept, Bytes.fromBigEndian_bigEndian, Nat.mod_eq_of_lt fits]

/-! The fields of a made header. -/

/-- The part of a header before its checksum, and the part after. -/
def front (name : Bytes) (size : Nat) : Bytes :=
  fill nameSize name ++ octalField 7 0o644 ++ [0] ++ octalField 7 0 ++ [0] ++
    octalField 7 0 ++ [0] ++ sizeField size ++ octalField 11 0 ++ [0]

def back (kind : UInt8) (target : Bytes) : Bytes :=
  [kind] ++ fill nameSize target ++ [0x75, 0x73, 0x74, 0x61, 0x72, 0x20, 0x20, 0] ++
    List.replicate 247 0

def written (name : Bytes) (kind : UInt8) (size : Nat) (target : Bytes) : Nat :=
  (front name size ++ back kind target).foldl (fun sum byte => sum + byte.toNat) (8 * 32)

theorem makeHeader_eq (name : Bytes) (kind : UInt8) (size : Nat) (target : Bytes) :
    makeHeader name kind size target = front name size ++
      (octalField 6 (written name kind size target) ++ [0, 0x20] ++ back kind target) := by
  rw [makeHeader, written]
  simp only [front, back, List.append_assoc]

@[simp] theorem length_front (name : Bytes) (size : Nat) : (front name size).length = 148 := by
  simp [front, nameSize]

@[simp] theorem length_back (kind : UInt8) (target : Bytes) : (back kind target).length = 356 := by
  simp only [back, List.length_append, length_fill, List.length_replicate, List.length_cons,
    List.length_nil, nameSize]

@[simp] theorem length_makeHeader (name : Bytes) (kind : UInt8) (size : Nat) (target : Bytes) :
    (makeHeader name kind size target).length = blockSize := by
  simp [makeHeader_eq, blockSize]

/-- A sum of so few bytes has at most six octal digits. -/
theorem sum_le (bytes : Bytes) (start : Nat) :
    bytes.foldl (fun sum byte => sum + byte.toNat) start ≤ start + 255 * bytes.length := by
  induction bytes generalizing start with
  | nil => simp
  | cons b rest ih =>
    have byte := b.toNat_lt
    have later := ih (start + b.toNat)
    rw [List.foldl_cons, List.length_cons]
    omega

theorem isSound_makeHeader (name : Bytes) (kind : UInt8) (size : Nat) (target : Bytes) :
    Header.isSound (makeHeader name kind size target) = true := by
  have few : written name kind size target < 8 ^ 6 := by
    have bound := sum_le (front name size ++ back kind target) (8 * 32)
    rw [List.length_append, length_front, length_back] at bound
    exact Nat.lt_of_le_of_lt bound (by decide)
  have small : written name kind size target < 2 ^ 64 := Nat.lt_of_lt_of_le few (by decide)
  have recorded : field (makeHeader name kind size target) 148 8 =
      octalField 6 (written name kind size target) ++ [0, 0x20] := by
    rw [makeHeader_eq]
    exact field_append (length_front ..) (by simp)
  have summed : Header.checksum (makeHeader name kind size target) =
      written name kind size target := by
    rw [makeHeader_eq, Header.checksum, List.take_left' (length_front ..),
      ← List.append_assoc, List.drop_left' (by simp), written]
  have read := octal?_octalField (by decide : 6 ≠ 0) few small [0x20]
  have low : written name kind size target % Nat.pow 2 32 = written name kind size target :=
    Nat.mod_eq_of_lt (Nat.lt_of_lt_of_le few (by decide))
  simp [Header.isSound, recorded, summed, read, low]

theorem size?_makeHeader (name : Bytes) (kind : UInt8) {size : Nat} (target : Bytes)
    (small : size < 2 ^ 64) : Header.size? (makeHeader name kind size target) = some size := by
  have shape : makeHeader name kind size target =
      (fill nameSize name ++ octalField 7 0o644 ++ [0] ++ octalField 7 0 ++ [0] ++
        octalField 7 0 ++ [0]) ++ (sizeField size ++ (octalField 11 0 ++ [0] ++
        (octalField 6 (written name kind size target) ++ [0, 0x20] ++ back kind target))) := by
    rw [makeHeader_eq, front]
    simp only [List.append_assoc]
  rw [Header.size?, shape, field_append (by simp [nameSize]) (by simp), number?_sizeField small]

theorem makeHeader_kind (name : Bytes) (kind : UInt8) (size : Nat) (target : Bytes) :
    ∃ before, before.length = 156 ∧ makeHeader name kind size target = before ++ back kind target :=
  ⟨front name size ++ (octalField 6 (written name kind size target) ++ [0, 0x20]), by simp,
    by rw [makeHeader_eq]; simp only [List.append_assoc]⟩

theorem kind_makeHeader (name : Bytes) (kind : UInt8) (size : Nat) (target : Bytes) :
    Header.kind (makeHeader name kind size target) = kind := by
  obtain ⟨before, length, shape⟩ := makeHeader_kind name kind size target
  rw [Header.kind, shape, List.getD_eq_getElem?_getD, List.getElem?_append_right (by omega), length]
  rfl

theorem magic_makeHeader (name : Bytes) (kind : UInt8) (size : Nat) (target : Bytes) :
    Header.magic (makeHeader name kind size target) =
      [0x75, 0x73, 0x74, 0x61, 0x72, 0x20, 0x20, 0] := by
  obtain ⟨before, length, shape⟩ := makeHeader_kind name kind size target
  have split : makeHeader name kind size target = (before ++ [kind] ++ fill nameSize target) ++
      ([0x75, 0x73, 0x74, 0x61, 0x72, 0x20, 0x20, 0] ++ List.replicate 247 0) := by
    rw [shape, back]
    simp only [List.append_assoc]
  rw [Header.magic, split]
  exact field_append (by simp [length, nameSize]) rfl

theorem isGnu_makeHeader (name : Bytes) (kind : UInt8) (size : Nat) (target : Bytes) :
    Header.isGnu (makeHeader name kind size target) = true := by
  rw [Header.isGnu, magic_makeHeader]
  rfl

theorem path_makeHeader {name : Bytes} (kind : UInt8) (size : Nat) (target : Bytes)
    (fits : name.length ≤ nameSize) (nonzero : 0 ∉ name) :
    Header.path (makeHeader name kind size target) = name := by
  have plain : Header.isUstar (makeHeader name kind size target) = false := by
    rw [Header.isUstar, magic_makeHeader]
    rfl
  have found : Header.name (makeHeader name kind size target) = fill nameSize name := by
    rw [Header.name, makeHeader_eq, front, ← List.nil_append (fill nameSize name)]
    simp only [List.append_assoc]
    exact field_append rfl (by simp [nameSize])
  have ends : untilZero (fill nameSize name) = name := by
    have read := untilZero_append nonzero (nameSize - name.length) []
    rw [fill, List.take_of_length_le fits]
    simpa [untilZero] using read
  simp [Header.path, plain, found, ends]

theorem makeHeader_nonzero (name : Bytes) (kind : UInt8) (size : Nat) (target : Bytes) :
    (makeHeader name kind size target).all (· = 0) = false := by
  obtain ⟨before, _, shape⟩ := makeHeader_kind name kind size target
  rw [shape, List.all_eq_false]
  refine ⟨0x75, List.mem_append_right _ (List.mem_append_left _ ?_), by decide⟩
  exact List.mem_append_right _ List.mem_cons_self

end ClusterArchive.Tar
