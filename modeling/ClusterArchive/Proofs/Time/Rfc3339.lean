import ClusterArchive.Proofs.Archive

/-! Instants are read from their texts. An instant of a year of four digits may be written with any
number of fraction digits that leaves none of its nanoseconds out; its own text has the fewest groups of
three that do. -/

namespace ClusterArchive.Rfc3339

open Archive Text

variable {t : Instant} {c : Char} {rest : List Char}

theorem isBlank_of_isDigit (digit : Decimal.isDigit c = true) : isBlank c = false := by
  simp only [Decimal.isDigit, Bool.and_eq_true, decide_eq_true_eq] at digit
  have low : 48 ≤ c.toNat := digit.1
  have high : c.toNat ≤ 57 := digit.2
  simp only [isBlank, Bool.or_eq_false_iff, Bool.and_eq_false_iff, decide_eq_false_iff_not,
    beq_eq_false_iff_ne]
  omega

theorem padded_cons {width n : Nat} (fits : n < Nat.pow 10 (width + 1)) :
    ∃ d later, Decimal.padded (width + 1) n = d :: later ∧ Decimal.isDigit d = true := by
  have length := Decimal.length_padded fits
  cases shown : Decimal.padded (width + 1) n with
  | nil => simp [shown] at length
  | cons d later =>
    have member : d ∈ Decimal.padded (width + 1) n := by simp [shown]
    exact ⟨d, later, rfl, Decimal.isDigit_of_mem_padded member⟩

theorem digits_padded {width n most : Nat} (fits : n < Nat.pow 10 (width + 1)) (room : width + 1 ≤ most)
    (ends : Decimal.isDigit c = false) (rest : List Char) :
    digits most (Decimal.padded (width + 1) n ++ c :: rest) =
      .ok (Decimal.padded (width + 1) n, c :: rest) := by
  have length := Decimal.length_padded fits
  have all : ∀ d ∈ Decimal.padded (width + 1) n, Decimal.isDigit d = true :=
    fun d member => Decimal.isDigit_of_mem_padded member
  generalize Decimal.padded (width + 1) n = found at *
  have stop (k : Nat) : ((c :: rest).take k).takeWhile Decimal.isDigit = [] := by
    cases k <;> simp [ends]
  have taken : ((found ++ c :: rest).take most).takeWhile Decimal.isDigit = found := by
    rw [List.take_append, List.take_of_length_le (by omega), List.takeWhile_append_of_pos all, stop,
      List.append_nil]
  have nonempty : found ≠ [] := by
    rintro rfl
    cases length
  simp [digits, taken, nonempty]

theorem trimLeft_padded {width n : Nat} (fits : n < Nat.pow 10 (width + 1)) :
    trimLeft (Decimal.padded (width + 1) n ++ rest) = Decimal.padded (width + 1) n ++ rest := by
  obtain ⟨d, later, shown, digit⟩ := padded_cons fits
  rw [shown, List.cons_append, trimLeft, List.dropWhile_cons_of_neg]
  simp [isBlank_of_isDigit digit]

theorem field_two {low high n : Nat} (fits : n < Nat.pow 10 2) (within : low ≤ n ∧ n ≤ high)
    (ends : Decimal.isDigit c = false) : field low high (two n ++ c :: rest) = .ok (n, c :: rest) := by
  have found := digits_padded fits (Nat.le_refl 2) ends rest
  rw [field, two, trimLeft_padded fits, found]
  simp [bind, Except.bind, Decimal.value_padded, within, pure, Except.pure]

theorem ok_bind {ε α β : Type} (a : α) (next : α → Except ε β) : (Except.ok a >>= next) = next a := rfl

theorem separated_field {β : Type} {d : Char} (notBlank : isBlank d = false) {low high n : Nat}
    (fits : n < Nat.pow 10 2) (within : low ≤ n ∧ n ≤ high) (ends : Decimal.isDigit c = false)
    (next : Nat × List Char → Except TimeFault β) :
    (do
      let rest ← literal d (trimLeft (d :: (two n ++ c :: rest)))
      field low high rest >>= next) = next (n, c :: rest) := by
  have trimmed : trimLeft (d :: (two n ++ c :: rest)) = d :: (two n ++ c :: rest) := by
    simp [trimLeft, notBlank]
  rw [trimmed, literal, if_pos rfl, ok_bind, field_two fits within ends, ok_bind]

theorem not_sign {d : Char} (digit : Decimal.isDigit d = true) : d ≠ '-' ∧ d ≠ '+' := by
  constructor <;> (rintro rfl; cases digit)

theorem year_padded {n : Nat} (fits : n < Nat.pow 10 4) (ends : Decimal.isDigit c = false) :
    year (Decimal.padded 4 n ++ c :: rest) = .ok ((n : Int), c :: rest) := by
  have found := digits_padded fits (Nat.le_refl 4) ends rest
  have value := Decimal.value_padded 4 n
  obtain ⟨d, later, shown, digit⟩ := padded_cons fits
  obtain ⟨minus, plus⟩ := not_sign digit
  have within : n < Nat.pow 2 31 := Nat.lt_trans fits (by decide)
  rw [year, trimLeft_padded fits]
  simp only [shown, List.cons_append] at found value ⊢
  split
  next heq => exact absurd (List.cons.inj heq).1 minus
  next heq => exact absurd (List.cons.inj heq).1 plus
  next =>
    rw [found, Except.map, ok_bind]
    dsimp only
    rw [value, if_pos (by omega), Int.one_mul]
    rfl

theorem resolve_shown (dated : t.IsDated) :
    resolve t.date t.hour t.minute t.second t.nanos 0 = .ok t := by
  obtain ⟨first, last⟩ := dated.1
  have year : t.date.year = Date.yearOf (t.seconds / Instant.secondsPerDay) := rfl
  have bounds := Date.yearOf_bounds (t.seconds / Instant.secondsPerDay)
  have valid : t.date.isValid = true := Date.isValid_ofDay _
  have day : t.date.day = t.seconds / Instant.secondsPerDay := Date.day_ofDay _
  have regular : t.second ≠ 60 := by
    rw [second_dated dated]
    omega
  have seconds : t.date.day * Instant.secondsPerDay +
      (t.hour * 3600 + t.minute * 60 + t.second : Nat) - 0 = t.seconds := by
    rw [day, second_dated dated]
    simp only [Instant.hour, Instant.minute, Instant.secondOfDay, Instant.secondsPerDay]
    omega
  have representable : t.isRepresentable = true := by
    rw [← year] at bounds
    simp only [Instant.isRepresentable, Bool.and_eq_true, decide_eq_true_eq]
    simp only [Instant.firstYear, Instant.lastYear, Instant.secondsPerDay,
      Date.startOfYear, Date.epochOffset] at bounds ⊢
    omega
  have inside : (!t.date.isValid || decide (t.date.year < Instant.firstYear) ||
      decide (Instant.lastYear < t.date.year)) = false := by
    have early : ¬t.date.year < Instant.firstYear := by
      rw [Instant.firstYear]
      omega
    have late : ¬Instant.lastYear < t.date.year := by
      rw [Instant.lastYear]
      omega
    simp [valid, early, late]
  have utc : ¬((0 : Int) ≤ -Instant.secondsPerDay ∨ Instant.secondsPerDay ≤ 0) := by decide
  rw [resolve, inside, if_neg Bool.false_ne_true, if_neg utc]
  simp only [regular, if_false, seconds, Nat.add_zero, representable, if_true]
  rfl

def fractionWith (width : Nat) (t : Instant) : List Char :=
  if width = 0 then [] else '.' :: Decimal.padded width (t.nanos / Nat.pow 10 (9 - width))

/-- The text of an instant with some number of fraction digits. -/
def textWith (width : Nat) (t : Instant) : String :=
  String.ofList (dateText ['-'] t.date ++ ['T'] ++ clockText [':'] t ++
    (fractionWith width t ++ ['Z']))

theorem nanos_lt (dated : t.IsDated) : t.nanos < 1000000000 := by
  have regular := dated.2
  rw [Instant.isLeapSecond, decide_eq_false_iff_not] at regular
  exact Nat.not_le.mp regular

/-- The nanoseconds are read from any number of digits that leaves none of them out. -/
theorem nanos_fractionWith {width : Nat} (most : width ≤ 9) (whole : Nat.pow 10 (9 - width) ∣ t.nanos)
    (regular : t.nanos < 1000000000) : nanos (fractionWith width t ++ ['Z']) = .ok (t.nanos, ['Z']) := by
  have scaled : t.nanos / Nat.pow 10 (9 - width) * Nat.pow 10 (9 - width) = t.nanos :=
    Nat.div_mul_cancel whole
  rw [fractionWith]
  cases width with
  | zero =>
    have second : 1000000000 ∣ t.nanos := whole
    have none_ : t.nanos = 0 := Nat.eq_zero_of_dvd_of_lt second regular
    rw [none_]
    rfl
  | succ width =>
    have fits : t.nanos / Nat.pow 10 (9 - (width + 1)) < Nat.pow 10 (width + 1) := by
      have power := Nat.pow_add 10 (9 - (width + 1)) (width + 1)
      rw [Nat.sub_add_cancel most] at power
      exact Nat.div_lt_of_lt_mul (Nat.lt_of_lt_of_eq regular power)
    have zulu : Decimal.isDigit 'Z' = false := rfl
    have found := digits_padded fits most zulu []
    have ends : ['Z'].dropWhile Decimal.isDigit = ['Z'] := rfl
    rw [if_neg (Nat.succ_ne_zero width), List.cons_append, nanos, found, ok_bind]
    dsimp only
    rw [Decimal.value_padded, Decimal.length_padded fits, scaled, ends]
    rfl

/-- The fields of a date and a time of day are within the bounds that they are read with. -/
theorem fields_within (dated : t.IsDated) :
    (1 ≤ t.date.month ∧ t.date.month ≤ 12) ∧ (1 ≤ t.date.dayOfMonth ∧ t.date.dayOfMonth ≤ 31) ∧
    (0 ≤ t.hour ∧ t.hour ≤ 23) ∧ (0 ≤ t.minute ∧ t.minute ≤ 59) ∧ (0 ≤ t.second ∧ t.second ≤ 60) := by
  obtain ⟨i, length, _, month, day, _⟩ := Date.ofDay_inside (t.seconds / Instant.secondsPerDay)
  have bounds := Date.ofDay_bounds (t.seconds / Instant.secondsPerDay)
  rw [second_dated dated]
  simp only [Instant.date, Instant.hour, Instant.minute, Instant.secondOfDay, Instant.secondsPerDay]
    at month day bounds ⊢
  omega

/-- A date and a time of day are read as they were written, with the nanoseconds of what follows. What
follows does not start with a digit, as that would be one of the second. -/
theorem read_shown (dated : t.IsDated) {behind : List Char} (ends : Decimal.isDigit c = false)
    (fraction : nanos (c :: behind) = .ok (t.nanos, ['Z'])) :
    read (String.ofList (dateText ['-'] t.date ++ ['T'] ++ clockText [':'] t ++ c :: behind)) =
      .ok t := by
  obtain ⟨isYear, shortYear⟩ := yearText_dated dated
  obtain ⟨shortMonth, shortDay⟩ := date_two t
  obtain ⟨shortHour, shortMinute, shortSecond⟩ := clock_two dated
  obtain ⟨months, days, hours, minutes, seconds⟩ := fields_within dated
  have positive : ((t.date.year.toNat : Nat) : Int) = t.date.year := Int.toNat_of_nonneg dated.1.1
  have hyphen : isBlank '-' = false := by decide
  have colon : isBlank ':' = false := by decide
  simp only [dateText, clockText, isYear, List.append_assoc, List.cons_append, List.nil_append]
  rw [Rfc3339.read, String.toList_ofList, year_padded shortYear (by decide), ok_bind]
  dsimp only
  rw [separated_field hyphen shortMonth months (by decide)]
  dsimp only
  rw [separated_field hyphen shortDay days (by decide)]
  dsimp only
  change (Except.ok (two t.hour ++ _) >>= _) = _
  rw [ok_bind, field_two shortHour hours (by decide), ok_bind]
  dsimp only
  rw [separated_field colon shortMinute minutes (by decide)]
  dsimp only
  rw [separated_field colon shortSecond seconds ends]
  dsimp only
  rw [fraction, ok_bind]
  dsimp only
  rw [positive]
  exact resolve_shown dated

/-- An instant is read from any of its texts that leaves none of its nanoseconds out. -/
theorem read_textWith (dated : t.IsDated) {width : Nat} (most : width ≤ 9)
    (whole : Nat.pow 10 (9 - width) ∣ t.nanos) : read (textWith width t) = .ok t := by
  have fraction := nanos_fractionWith most whole (nanos_lt dated)
  rw [textWith]
  by_cases none_ : width = 0
  · simp only [fractionWith, none_, if_true, List.nil_append] at fraction ⊢
    exact read_shown dated (by decide) fraction
  · simp only [fractionWith, none_, if_false, List.cons_append] at fraction ⊢
    exact read_shown dated (by decide) fraction

/-- The number of fraction digits that a text has: none or some groups of three, as few as leave no
nanoseconds out. -/
structure IsWidth (width : Nat) (t : Instant) : Prop where
  groups : width ∈ [0, 3, 6, 9]
  whole : Nat.pow 10 (9 - width) ∣ t.nanos
  least : ∀ other ∈ [0, 3, 6, 9], Nat.pow 10 (9 - other) ∣ t.nanos → width ≤ other

theorem fractionText_eq (regular : t.nanos < 1000000000) :
    ∃ width, IsWidth width t ∧ fractionText t.nanos = fractionWith width t := by
  have seconds : Nat.pow 10 (9 - 0) ∣ t.nanos ↔ t.nanos = 0 :=
    ⟨fun divides => Nat.eq_zero_of_dvd_of_lt divides regular, fun none_ => by simp [none_]⟩
  have millis : Nat.pow 10 (9 - 3) ∣ t.nanos ↔ t.nanos % 1000000 = 0 := Nat.dvd_iff_mod_eq_zero
  have micros : Nat.pow 10 (9 - 6) ∣ t.nanos ↔ t.nanos % 1000 = 0 := Nat.dvd_iff_mod_eq_zero
  have all : Nat.pow 10 (9 - 9) ∣ t.nanos := Nat.one_dvd _
  have least {width : Nat}
      (below : ∀ other ∈ [0, 3, 6, 9], other < width → ¬Nat.pow 10 (9 - other) ∣ t.nanos) :
      ∀ other ∈ [0, 3, 6, 9], Nat.pow 10 (9 - other) ∣ t.nanos → width ≤ other :=
    fun other member divides => Nat.not_lt.mp fun less => below other member less divides
  rw [fractionText]
  split
  next is => exact ⟨0, ⟨by decide, seconds.mpr is, least (by simp)⟩, rfl⟩
  next notSeconds =>
    rw [← seconds] at notSeconds
    split
    next is => exact ⟨3, ⟨by decide, millis.mpr is, least (by simpa using notSeconds)⟩, rfl⟩
    next notMillis =>
      rw [← millis] at notMillis
      split
      next is => exact ⟨6, ⟨by decide, micros.mpr is, least (by simpa using ⟨notSeconds, notMillis⟩)⟩, rfl⟩
      next notMicros =>
        rw [← micros] at notMicros
        refine ⟨9, ⟨by decide, all, least (by simpa using ⟨notSeconds, notMillis, notMicros⟩)⟩, ?_⟩
        have whole : t.nanos / Nat.pow 10 (9 - 9) = t.nanos := Nat.div_one _
        rw [fractionWith, if_neg (by decide), whole]

theorem text_eq_textWith (dated : t.IsDated) : ∃ width, IsWidth width t ∧ text t = textWith width t := by
  obtain ⟨width, isWidth, shown⟩ := fractionText_eq (nanos_lt dated)
  have fraction : t.fraction = t.nanos := Nat.mod_eq_of_lt (nanos_lt dated)
  refine ⟨width, isWidth, ?_⟩
  rw [text, render, textWith, fraction, shown, List.append_assoc]

theorem read_text (dated : t.IsDated) : read (text t) = .ok t := by
  obtain ⟨width, isWidth, shown⟩ := text_eq_textWith dated
  have most : width ≤ 9 := isWidth.least 9 (by decide) (Nat.one_dvd _)
  rw [shown, read_textWith dated most isWidth.whole]

end ClusterArchive.Rfc3339
