import ClusterArchive.Time.Instant
import Mathlib.Data.List.Basic

/-! The calendar in the order of its days. Every day lies in its year, at a day of a month, its date is
valid and stands for it alone, and a later day has a later date. -/

namespace ClusterArchive.Date

def Precedes (date other : Date) : Prop :=
  date.year < other.year ∨ date.year = other.year ∧
    (date.month < other.month ∨ date.month = other.month ∧ date.dayOfMonth < other.dayOfMonth)

theorem startOfYear_mono {year other : Int} (before : year ≤ other) :
    startOfYear year ≤ startOfYear other := by
  simp only [startOfYear]
  omega

theorem startOfYear_succ (year : Int) : startOfYear (year + 1) =
    startOfYear year + ((monthLengths (isLeap year)).foldl (· + ·) 0 : Nat) := by
  have days : ((monthLengths (isLeap year)).foldl (· + ·) 0 : Nat) =
      if isLeap year then 366 else 365 := by
    cases isLeap year <;> rfl
  have leap : isLeap year = true ↔ year % 4 = 0 ∧ (year % 100 ≠ 0 ∨ year % 400 = 0) := by
    simp [isLeap]
  rw [days]
  simp only [startOfYear]
  split
  next is =>
    have := leap.mp is
    omega
  next is =>
    have := mt leap.mpr is
    omega

theorem yearOf_bounds (day : Int) :
    startOfYear (yearOf day) ≤ day ∧ day < startOfYear (yearOf day + 1) := by
  -- The guess rests on the average length of a year, from which no year strays by two days.
  have near : ∀ guess, guess = (day + epochOffset) * 400 / 146097 →
      startOfYear (guess - 1) ≤ day ∧ day < startOfYear (guess + 2) := by
    intro guess is
    simp only [startOfYear, epochOffset] at is ⊢
    omega
  obtain ⟨low, high⟩ := near _ rfl
  simp only [yearOf]
  split
  next early => exact ⟨low, by simpa using early⟩
  next notEarly =>
    split
    next late => exact ⟨late, by simpa [Int.add_assoc] using high⟩
    next notLate => exact ⟨Int.not_lt.mp notEarly, Int.not_le.mp notLate⟩

theorem yearOf_mono {day other : Int} (before : day ≤ other) : yearOf day ≤ yearOf other := by
  apply Int.not_lt.mp
  intro back
  have mono := startOfYear_mono (Int.add_one_le_of_lt back)
  have first := (yearOf_bounds day).1
  have last := (yearOf_bounds other).2
  omega

theorem split_inside {lengths : List Nat} (month : Nat) {rest : Nat}
    (inside : rest < lengths.foldl (· + ·) 0) : ∃ i length, lengths[i]? = some length ∧
      (split month rest lengths).1 = month + i ∧ 1 ≤ (split month rest lengths).2 ∧
      (split month rest lengths).2 ≤ length := by
  induction lengths generalizing month rest with
  | nil => simp at inside
  | cons length later ih =>
    rw [List.foldl_cons, Nat.add_comm 0, List.foldl_assoc] at inside
    rw [split]
    split
    next here => exact ⟨0, length, rfl, rfl, by simp, here⟩
    next further =>
      have left : rest - length < later.foldl (· + ·) 0 := by omega
      obtain ⟨i, found, is, same, bounds⟩ := ih (month + 1) left
      exact ⟨i + 1, found, is, by omega, bounds⟩

theorem month_le_split (month rest : Nat) (lengths : List Nat) :
    month ≤ (split month rest lengths).1 := by
  induction lengths generalizing month rest with
  | nil => simp [split]
  | cons length later ih =>
    rw [split]
    split
    next => simp
    next => exact Nat.le_of_succ_le (ih (month + 1) (rest - length))

/-- The months before the one of a day, and its day of the month, make up the days up to it. -/
theorem split_before (month rest : Nat) (lengths : List Nat) :
    (lengths.take ((split month rest lengths).1 - month)).foldl (· + ·) 0 +
      (split month rest lengths).2 = rest + 1 := by
  induction lengths generalizing month rest with
  | nil => simp [split]
  | cons length later ih =>
    rw [split]
    split
    next here => simp
    next further =>
      have before := ih (month + 1) (rest - length)
      have after := month_le_split (month + 1) (rest - length) later
      have months : (split (month + 1) (rest - length) later).1 - month =
          (split (month + 1) (rest - length) later).1 - (month + 1) + 1 := by omega
      rw [months, List.take_succ_cons, List.foldl_cons, Nat.add_comm 0, List.foldl_assoc]
      omega

/-- A later day of the year is a later day of its month, or lies in a later month. -/
theorem split_lt (month : Nat) {rest other : Nat} (before : rest < other) (lengths : List Nat) :
    (split month rest lengths).1 < (split month other lengths).1 ∨
    (split month rest lengths).1 = (split month other lengths).1 ∧
      (split month rest lengths).2 < (split month other lengths).2 := by
  induction lengths generalizing month rest other with
  | nil => exact .inr ⟨rfl, by simpa [split] using before⟩
  | cons length later ih =>
    rw [split, split]
    by_cases here : rest < length
    · by_cases hereToo : other < length
      · rw [if_pos here, if_pos hereToo]
        exact .inr ⟨rfl, Nat.add_lt_add_right before 1⟩
      · rw [if_pos here, if_neg hereToo]
        exact .inl (month_le_split (month + 1) (other - length) later)
    · have further : ¬other < length := by omega
      rw [if_neg here, if_neg further]
      exact ih (month + 1) (by omega)

/-- A later day has a later date. -/
theorem ofDay_precedes {day other : Int} (before : day < other) : (ofDay day).Precedes (ofDay other) := by
  rcases Int.lt_or_eq_of_le (yearOf_mono (Int.le_of_lt before)) with earlier | same
  · exact .inl earlier
  · have first := (yearOf_bounds day).1
    have later : (day - startOfYear (yearOf day)).toNat < (other - startOfYear (yearOf day)).toNat := by
      omega
    refine .inr ⟨same, ?_⟩
    simp only [ofDay, ← same]
    exact split_lt 1 later _

theorem ofDay_inside (day : Int) : ∃ i length,
    (monthLengths (isLeap (yearOf day)))[i]? = some length ∧ (ofDay day).month = 1 + i ∧
      1 ≤ (ofDay day).dayOfMonth ∧ (ofDay day).dayOfMonth ≤ length := by
  have inside : (day - startOfYear (yearOf day)).toNat <
      (monthLengths (isLeap (yearOf day))).foldl (· + ·) 0 := by
    have bounds := yearOf_bounds day
    rw [startOfYear_succ] at bounds
    omega
  exact split_inside 1 inside

/-- The months and days of dates are counted from one, and there are at most so many. -/
theorem ofDay_bounds (day : Int) : (ofDay day).month ≤ 12 ∧ (ofDay day).dayOfMonth ≤ 31 := by
  obtain ⟨i, length, found, month, _, most⟩ := ofDay_inside day
  have few : i < 12 := (List.getElem?_eq_some_iff.mp found).1
  have short : ∀ length ∈ monthLengths (isLeap (yearOf day)), length ≤ 31 := by
    cases isLeap (yearOf day) <;> decide
  exact ⟨by omega, Nat.le_trans most (short length (List.mem_of_getElem? found))⟩

theorem isValid_ofDay (day : Int) : (ofDay day).isValid = true := by
  obtain ⟨i, length, found, month, least, most⟩ := ofDay_inside day
  have year : (ofDay day).year = yearOf day := rfl
  simp [isValid, year, month, least, most, found]

/-- The date of a day is the date of that day alone. -/
theorem day_ofDay (day : Int) : (ofDay day).day = day := by
  have low := (yearOf_bounds day).1
  obtain ⟨i, length, found, month, least, most⟩ := ofDay_inside day
  have before := split_before 1 (day - startOfYear (yearOf day)).toNat
    (monthLengths (isLeap (yearOf day)))
  simp only [Date.day, ofDay] at *
  omega

end ClusterArchive.Date
