import ClusterArchive.Archive
import ClusterArchive.Proofs.Decimal.Padded
import ClusterArchive.Proofs.Text.Utf8
import ClusterArchive.Proofs.Time.Calendar

/-! The names of runs, in the order of their times. Every field of a stamp has its width, so a later
second has a later stamp, by characters and by bytes. -/

namespace ClusterArchive

/-- A time of a year of four digits, and not in a leap second. -/
def Instant.IsDated (t : Instant) : Prop :=
  (0 ≤ t.date.year ∧ t.date.year ≤ 9999) ∧ t.isLeapSecond = false

instance (t : Instant) : Decidable t.IsDated :=
  inferInstanceAs (Decidable ((0 ≤ t.date.year ∧ t.date.year ≤ 9999) ∧ t.isLeapSecond = false))

namespace Archive

open Rfc3339 Text

variable {t other : Instant}

theorem yearText_dated (dated : t.IsDated) :
    yearText t.date.year = Decimal.padded 4 t.date.year.toNat ∧ t.date.year.toNat < Nat.pow 10 4 := by
  have most : Nat.pow 10 4 = 10000 := rfl
  rw [yearText, if_pos dated.1]
  have := dated.1
  exact ⟨rfl, by omega⟩

theorem date_two (t : Instant) : t.date.month < Nat.pow 10 2 ∧ t.date.dayOfMonth < Nat.pow 10 2 := by
  have hundred : Nat.pow 10 2 = 100 := rfl
  have bounds := Date.ofDay_bounds (t.seconds / Instant.secondsPerDay)
  simp only [Instant.date]
  omega

theorem second_dated (dated : t.IsDated) : t.second = t.secondOfDay % 60 := by
  have regular : t.nanos < Instant.nanosPerSecond := by simpa [Instant.isLeapSecond] using dated.2
  rw [Instant.second, Nat.div_eq_of_lt regular, Nat.add_zero]

theorem clock_two (dated : t.IsDated) :
    t.hour < Nat.pow 10 2 ∧ t.minute < Nat.pow 10 2 ∧ t.second < Nat.pow 10 2 := by
  have hundred : Nat.pow 10 2 = 100 := rfl
  rw [second_dated dated]
  simp only [Instant.hour, Instant.minute, Instant.secondOfDay, Instant.secondsPerDay]
  omega

theorem length_dateText (dated : t.IsDated) : (dateText [] t.date).length = 8 := by
  obtain ⟨isYear, year⟩ := yearText_dated dated
  obtain ⟨month, dayOfMonth⟩ := date_two t
  simp [dateText, two, isYear, Decimal.length_padded year, Decimal.length_padded month,
    Decimal.length_padded dayOfMonth]

theorem dateText_lt (dated : t.IsDated) (datedOther : other.IsDated)
    (before : t.date.Precedes other.date) : dateText [] t.date < dateText [] other.date := by
  obtain ⟨isYear, year⟩ := yearText_dated dated
  obtain ⟨isYearOther, yearOther⟩ := yearText_dated datedOther
  have twos := date_two t
  have twosOther := date_two other
  simp only [dateText, List.append_nil, isYear, isYearOther, two]
  refine columns_lt ((Decimal.length_padded year).trans (Decimal.length_padded yearOther).symm)
    ((Decimal.length_padded twos.1).trans (Decimal.length_padded twosOther.1).symm) ?_
  have positive := dated.1.1
  rcases before with before | ⟨same, before | ⟨sameMonth, before⟩⟩
  · exact .inl (Decimal.padded_lt (by omega) yearOther)
  · exact .inr ⟨by rw [same], .inl (Decimal.padded_lt before twosOther.1)⟩
  · exact .inr ⟨by rw [same], .inr ⟨by rw [sameMonth], Decimal.padded_lt before twosOther.2⟩⟩

theorem clockText_lt (dated : t.IsDated) (datedOther : other.IsDated)
    (before : t.secondOfDay < other.secondOfDay) : clockText [] t < clockText [] other := by
  obtain ⟨hour, minute, second⟩ := clock_two dated
  obtain ⟨hourOther, minuteOther, secondOther⟩ := clock_two datedOther
  have fields : t.hour < other.hour ∨ t.hour = other.hour ∧
      (t.minute < other.minute ∨ t.minute = other.minute ∧ t.second < other.second) := by
    rw [second_dated dated, second_dated datedOther]
    simp only [Instant.hour, Instant.minute]
    omega
  simp only [clockText, List.append_nil, two]
  refine columns_lt ((Decimal.length_padded hour).trans (Decimal.length_padded hourOther).symm)
    ((Decimal.length_padded minute).trans (Decimal.length_padded minuteOther).symm) ?_
  rcases fields with before | ⟨same, before | ⟨sameMinute, before⟩⟩
  · exact .inl (Decimal.padded_lt before hourOther)
  · exact .inr ⟨by rw [same], .inl (Decimal.padded_lt before minuteOther)⟩
  · exact .inr ⟨by rw [same], .inr ⟨by rw [sameMinute], Decimal.padded_lt before secondOther⟩⟩

theorem length_clockText (dated : t.IsDated) : (clockText [] t).length = 6 := by
  obtain ⟨hour, minute, second⟩ := clock_two dated
  simp [clockText, two, Decimal.length_padded hour, Decimal.length_padded minute,
    Decimal.length_padded second]

theorem length_stamp (dated : t.IsDated) : (stamp t).toList.length = 15 := by
  simp [stamp, length_dateText dated, length_clockText dated]

theorem stamp_lt (dated : t.IsDated) (datedOther : other.IsDated)
    (before : t.seconds < other.seconds) : (stamp t).toList < (stamp other).toList := by
  have day : t.seconds / Instant.secondsPerDay < other.seconds / Instant.secondsPerDay ∨
      t.seconds / Instant.secondsPerDay = other.seconds / Instant.secondsPerDay ∧
        t.secondOfDay < other.secondOfDay := by
    simp only [Instant.secondOfDay, Instant.secondsPerDay]
    omega
  simp only [stamp, String.toList_ofList]
  rcases day with before | ⟨same, before⟩
  · exact append_lt_append (by simp [length_dateText dated, length_dateText datedOther])
      (append_lt_append ((length_dateText dated).trans (length_dateText datedOther).symm)
        (dateText_lt dated datedOther (Date.ofDay_precedes before)) ..) ..
  · have sameDate : t.date = other.date := by rw [Instant.date, same, Instant.date]
    rw [sameDate]
    exact List.append_left_lt (clockText_lt dated datedOther before)

theorem stamp_eq (dated : t.IsDated) (datedOther : other.IsDated)
    (same : t.seconds = other.seconds) : stamp t = stamp other := by
  have sameOfDay : t.secondOfDay = other.secondOfDay := by rw [Instant.secondOfDay, same, Instant.secondOfDay]
  simp only [stamp, clockText, second_dated dated, second_dated datedOther, Instant.date,
    Instant.hour, Instant.minute, same, sameOfDay]

theorem ascii_stamp (dated : t.IsDated) {c : Char} (member : c ∈ (stamp t).toList) : c.val ≤ 127 := by
  have digit {width n : Nat} (member : c ∈ Decimal.padded width n) : c.val ≤ 127 := by
    have bounds := Decimal.isDigit_of_mem_padded member
    simp only [Char.isDigit, Bool.and_eq_true, decide_eq_true_eq] at bounds
    exact UInt32.le_trans bounds.2 (by decide)
  simp only [stamp, dateText, clockText, two, (yearText_dated dated).1, List.append_nil,
    String.toList_ofList, List.mem_append, List.mem_singleton] at member
  rcases member with (((year | month) | dayOfMonth) | rfl) | ((hour | minute) | second)
  · exact digit year
  · exact digit month
  · exact digit dayOfMonth
  · decide
  · exact digit hour
  · exact digit minute
  · exact digit second

/-- A later second has a later name, by characters and by bytes. -/
theorem fileName_lt (dated : t.IsDated) (datedOther : other.IsDated)
    (before : t.seconds < other.seconds) (extension : String) :
    fileName t extension < fileName other extension ∧
    Bytes.ofText (fileName t extension) < Bytes.ofText (fileName other extension) := by
  have less := stamp_lt dated datedOther before
  have same := (length_stamp dated).trans (length_stamp datedOther).symm
  have ascii : ∀ c ∈ (stamp t).toList, c.val ≤ 127 := fun _ member => ascii_stamp dated member
  have asciiOther : ∀ c ∈ (stamp other).toList, c.val ≤ 127 :=
    fun _ member => ascii_stamp datedOther member
  constructor
  · rw [String.lt_iff]
    simp only [fileName, String.toList_append, List.append_assoc]
    exact List.append_left_lt (append_lt_append same less ..)
  · simp only [fileName, ofText_append, List.append_assoc]
    exact List.append_left_lt (append_lt_append
      (by simpa [ofText_ascii ascii, ofText_ascii asciiOther] using same)
      (ofText_lt ascii asciiOther less) ..)

/-- Names are in the order of the seconds of their runs. -/
theorem fileName_order (dated : t.IsDated) (datedOther : other.IsDated) (extension : String) :
    (fileName t extension < fileName other extension ↔ t.seconds < other.seconds) ∧
    (Bytes.ofText (fileName t extension) < Bytes.ofText (fileName other extension) ↔
      t.seconds < other.seconds) ∧
    (fileName t extension = fileName other extension ↔ t.seconds = other.seconds) := by
  rcases Int.lt_trichotomy t.seconds other.seconds with before | same | after
  · obtain ⟨chars, bytes⟩ := fileName_lt dated datedOther before extension
    refine ⟨iff_of_true chars before, iff_of_true bytes before, iff_of_false ?_ (Int.ne_of_lt before)⟩
    intro equal
    rw [equal] at chars
    exact String.lt_irrefl _ chars
  · have equal : fileName t extension = fileName other extension := by
      rw [fileName, stamp_eq dated datedOther same, fileName]
    have still : ¬other.seconds < other.seconds := Int.lt_irrefl _
    rw [equal, same]
    generalize fileName other extension = name
    exact ⟨iff_of_false (String.lt_irrefl name) still, iff_of_false (List.lt_irrefl _) still,
      iff_of_true rfl rfl⟩
  · obtain ⟨chars, bytes⟩ := fileName_lt datedOther dated after extension
    have notBefore : ¬t.seconds < other.seconds := Int.not_lt.mpr (Int.le_of_lt after)
    refine ⟨iff_of_false (String.lt_asymm chars) notBefore,
      iff_of_false (List.lt_asymm bytes) notBefore, iff_of_false ?_ (Int.ne_of_gt after)⟩
    intro equal
    rw [equal] at chars
    exact String.lt_irrefl _ chars

end Archive

end ClusterArchive
