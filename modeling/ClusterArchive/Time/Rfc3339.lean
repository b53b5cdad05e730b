import ClusterArchive.Decimal.Digits
import ClusterArchive.Text.Blank
import ClusterArchive.Time.Instant

/-! The RFC 3339 text of an instant. Written in UTC with as many groups of three fraction digits as
are needed; read with any offset, one or two digits in a field, and blanks between the fields. -/

namespace ClusterArchive

inductive TimeFault
  | tooShort
  | invalid
  | outOfRange
  | trailing
  | impossible
deriving DecidableEq, Repr

def TimeFault.message : TimeFault → String
  | tooShort => "premature end of input"
  | invalid => "input contains invalid characters"
  | outOfRange => "input is out of range"
  | trailing => "trailing input"
  | impossible => "no possible date and time matching input"

namespace Rfc3339

open Text (trimLeft)

/-- Between one and `most` digits. -/
def digits (most : Nat) (text : List Char) : Except TimeFault (List Char × List Char) :=
  if text.isEmpty then .error .tooShort
  else
    let found := (text.take most).takeWhile Decimal.isDigit
    if found.isEmpty then .error .invalid else .ok (found, text.drop found.length)

def literal (c : Char) : List Char → Except TimeFault (List Char)
  | [] => .error .tooShort
  | d :: rest => if c = d then .ok rest else .error .invalid

/-- A field of at most two digits between bounds. -/
def field (low high : Nat) (text : List Char) : Except TimeFault (Nat × List Char) := do
  let (found, rest) ← digits 2 (trimLeft text)
  let n := Decimal.value found
  if low ≤ n ∧ n ≤ high then return (n, rest) else throw .outOfRange

/-- A year of four digits, or of any number of digits after a sign. -/
def year (text : List Char) : Except TimeFault (Int × List Char) := do
  let text := trimLeft text
  let (sign, found, rest) ← match text with
    | '-' :: tail => (digits tail.length tail).map fun (d, rest) => ((-1 : Int), d, rest)
    | '+' :: tail => (digits tail.length tail).map fun (d, rest) => (1, d, rest)
    | _ => (digits 4 text).map fun (d, rest) => (1, d, rest)
  let n : Int := sign * Decimal.value found
  if -Nat.pow 2 31 ≤ n ∧ n < Nat.pow 2 31 then return (n, rest) else throw .outOfRange

/-- The nanoseconds after a point; digits past the ninth are dropped. -/
def nanos : List Char → Except TimeFault (Nat × List Char)
  | '.' :: text => do
    let (found, rest) ← digits 9 text
    return (Decimal.value found * Nat.pow 10 (9 - found.length), rest.dropWhile Decimal.isDigit)
  | text => .ok (0, text)

/-- Two characters of which a digit stands for itself. -/
def pair : List Char → Except TimeFault (Char × Char × List Char)
  | a :: b :: rest => .ok (a, b, rest)
  | [a] => if 1 < a.utf8Size then .error .invalid else .error .tooShort
  | [] => .error .tooShort

def offset (text : List Char) : Except TimeFault (Int × List Char) := do
  if (text.take 3).map Char.toUpper = ['U', 'T', 'C'] then return (0, text.drop 3)
  let (sign, rest) ← match text with
    | 'Z' :: rest | 'z' :: rest => return (0, rest)
    | '+' :: rest => pure ((1 : Int), rest)
    | '-' :: rest | '−' :: rest => pure (-1, rest)
    | _ :: _ => throw .invalid
    | [] => throw .tooShort
  let (h₁, h₂, rest) ← pair rest
  if !(Decimal.isDigit h₁ && Decimal.isDigit h₂) then throw .invalid
  let (m₁, m₂, rest) ← pair (rest.dropWhile fun c => c == ':' || Text.isBlank c)
  if !(Decimal.isDigit m₁ && Decimal.isDigit m₂) then throw .invalid
  let minutes := Decimal.value [m₁, m₂]
  if 59 < minutes then throw .outOfRange
  return (sign * (Decimal.value [h₁, h₂] * 3600 + minutes * 60 : Nat), rest)

/-- The instant of a date, a time of day and an offset; a second of 60 is a leap second. -/
def resolve (date : Date) (hour minute second nanos : Nat) (offset : Int) :
    Except TimeFault Instant := do
  if !date.isValid || date.year < Instant.firstYear || Instant.lastYear < date.year then
    throw .outOfRange
  if offset ≤ -Instant.secondsPerDay ∨ Instant.secondsPerDay ≤ offset then throw .outOfRange
  let leap := second = 60
  let seconds := date.day * Instant.secondsPerDay +
    (hour * 3600 + minute * 60 + (if leap then 59 else second) : Nat) - offset
  let t : Instant := ⟨seconds, nanos + if leap then Instant.nanosPerSecond else 0⟩
  if t.isRepresentable then return t else throw .impossible

def read (text : String) : Except TimeFault Instant := do
  let (year, rest) ← year text.toList
  let rest ← literal '-' (trimLeft rest)
  let (month, rest) ← field 1 12 rest
  let rest ← literal '-' (trimLeft rest)
  let (day, rest) ← field 1 31 rest
  let rest ← match rest with
    | 't' :: rest | 'T' :: rest | ' ' :: rest => pure rest
    | _ :: _ => throw .invalid
    | [] => throw .tooShort
  let (hour, rest) ← field 0 23 rest
  let rest ← literal ':' (trimLeft rest)
  let (minute, rest) ← field 0 59 rest
  let rest ← literal ':' (trimLeft rest)
  let (second, rest) ← field 0 60 rest
  let (nanos, rest) ← nanos rest
  let (offset, rest) ← offset (trimLeft rest)
  if !(trimLeft rest).isEmpty then throw TimeFault.trailing
  resolve ⟨year, month, day⟩ hour minute second nanos offset

/-- Four digits; years outside 0 … 9999 carry a sign. -/
def yearText (year : Int) : List Char :=
  if 0 ≤ year ∧ year ≤ 9999 then Decimal.padded 4 year.toNat
  else (if year < 0 then '-' else '+') :: Decimal.padded 4 year.natAbs

def fractionText (nanos : Nat) : List Char :=
  if nanos = 0 then []
  else if nanos % 1000000 = 0 then '.' :: Decimal.padded 3 (nanos / 1000000)
  else if nanos % 1000 = 0 then '.' :: Decimal.padded 6 (nanos / 1000)
  else '.' :: Decimal.padded 9 nanos

def two : Nat → List Char := Decimal.padded 2

def dateText (between : List Char) (date : Date) : List Char :=
  yearText date.year ++ between ++ two date.month ++ between ++ two date.dayOfMonth

def clockText (between : List Char) (t : Instant) : List Char :=
  two t.hour ++ between ++ two t.minute ++ between ++ two t.second

def renderSeconds (t : Instant) : List Char :=
  dateText ['-'] t.date ++ ['T'] ++ clockText [':'] t ++ ['Z']

def render (t : Instant) : List Char :=
  dateText ['-'] t.date ++ ['T'] ++ clockText [':'] t ++ fractionText t.fraction ++ ['Z']

def text (t : Instant) : String := String.ofList (render t)

end Rfc3339

end ClusterArchive
