/-! The proleptic Gregorian calendar. Days are counted from 1970-01-01; `Date.ofDay` and `Date.day`
turn a count into a date and back. -/

namespace ClusterArchive

structure Date where
  year : Int
  month : Nat
  dayOfMonth : Nat
deriving DecidableEq, Repr

namespace Date

def isLeap (year : Int) : Bool := year % 4 == 0 && (year % 100 != 0 || year % 400 == 0)

def monthLengths (leap : Bool) : List Nat :=
  [31, if leap then 29 else 28, 31, 30, 31, 30, 31, 31, 30, 31, 30, 31]

/-- The first of January of the year 0 lies this many days before 1970-01-01. -/
def epochOffset : Int := 719528

def startOfYear (year : Int) : Int :=
  365 * year + (year + 3) / 4 - (year + 99) / 100 + (year + 399) / 400 - epochOffset

/-- The year of a day. An average year has 146097 / 400 days, so the first guess is at most one off. -/
def yearOf (day : Int) : Int :=
  let guess := (day + epochOffset) * 400 / 146097
  if day < startOfYear guess then guess - 1
  else if startOfYear (guess + 1) ≤ day then guess + 1
  else guess

/-- The month and the day of the month, given the lengths of the months from `month` on. -/
def split (month rest : Nat) : List Nat → Nat × Nat
  | [] => (month, rest + 1)
  | length :: later => if rest < length then (month, rest + 1) else split (month + 1) (rest - length) later

def ofDay (day : Int) : Date :=
  let year := yearOf day
  let (month, dayOfMonth) := split 1 (day - startOfYear year).toNat (monthLengths (isLeap year))
  ⟨year, month, dayOfMonth⟩

def isValid (date : Date) : Bool :=
  1 ≤ date.month && 1 ≤ date.dayOfMonth &&
    date.dayOfMonth ≤ (monthLengths (isLeap date.year)).getD (date.month - 1) 0

def day (date : Date) : Int :=
  let before : Nat := ((monthLengths (isLeap date.year)).take (date.month - 1)).foldl (· + ·) 0
  startOfYear date.year + before + (date.dayOfMonth - 1 : Nat)

end Date

end ClusterArchive
