import ClusterArchive.Time.Calendar

/-! Points in time, to the nanosecond. During a leap second the nanoseconds run past a billion. -/

namespace ClusterArchive

/-- Seconds since 1970-01-01T00:00:00Z, and nanoseconds. -/
structure Instant where
  seconds : Int
  nanos : Nat
deriving DecidableEq, Repr, Inhabited

namespace Instant

def nanosPerSecond : Nat := 1000000000

def secondsPerDay : Int := 86400

/-- The earliest and the latest year of an instant. -/
def firstYear : Int := -262143

def lastYear : Int := 262142

def before (a b : Instant) : Bool :=
  a.seconds < b.seconds || (a.seconds == b.seconds && a.nanos < b.nanos)

def isLeapSecond (t : Instant) : Bool := nanosPerSecond ≤ t.nanos

def date (t : Instant) : Date := Date.ofDay (t.seconds / secondsPerDay)

def secondOfDay (t : Instant) : Nat := (t.seconds % secondsPerDay).toNat

def hour (t : Instant) : Nat := t.secondOfDay / 3600

def minute (t : Instant) : Nat := t.secondOfDay / 60 % 60

/-- The second of the minute, 60 in a leap second. -/
def second (t : Instant) : Nat := t.secondOfDay % 60 + t.nanos / nanosPerSecond

def fraction (t : Instant) : Nat := t.nanos % nanosPerSecond

def isRepresentable (t : Instant) : Bool :=
  Date.startOfYear firstYear * secondsPerDay ≤ t.seconds &&
    t.seconds < Date.startOfYear (lastYear + 1) * secondsPerDay

/-- The instant a number of days earlier, where there is one. A leap second is left for the second
after it. -/
def minusDays? (t : Instant) (days : Nat) : Option Instant :=
  let shift := days * secondsPerDay
  let earlier : Instant :=
    if days = 0 then t
    else if t.isLeapSecond then ⟨t.seconds + 1 - shift, t.nanos - nanosPerSecond⟩
    else ⟨t.seconds - shift, t.nanos⟩
  if earlier.isRepresentable then some earlier else none

/-- Nanoseconds from `start` to `t`. A leap second in between counts when its time of day does. -/
def nanosSince (t start : Instant) : Int :=
  let leap : Int :=
    if start.secondOfDay < t.secondOfDay ∧ start.isLeapSecond then 1
    else if t.secondOfDay < start.secondOfDay ∧ t.isLeapSecond then -1
    else 0
  (t.seconds - start.seconds + leap) * nanosPerSecond + (t.nanos - start.nanos : Int)

/-- Whole milliseconds from `start` to `t`, rounded toward zero. -/
def millisSince (t start : Instant) : Int := (t.nanosSince start).tdiv 1000000

end Instant

end ClusterArchive
