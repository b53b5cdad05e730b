import ClusterArchive.Decimal.Binary64

/-! The fewest decimal digits that read back as a given binary64 number, and their text. -/

namespace ClusterArchive.Decimal

/-- A positive decimal `digits * 10 ^ exponent`. -/
structure Digits where
  digits : Nat
  exponent : Int
deriving DecidableEq, Repr

/-- The reals that round to a positive number, in units of `2 ^ (exponent - 2)` of it: its own
value and the two halfway points. The lower gap halves below a power of two. -/
structure Interval where
  low : Nat
  value : Nat
  high : Nat
  closed : Bool

def Interval.ofBinary64 (x : Binary64) : Interval :=
  let m := x.significand
  let low := if m = Nat.pow 2 Binary64.fractionWidth ∧ 0 < x.exponent then 4 * m - 1 else 4 * m - 2
  ⟨low, 4 * m, 4 * m + 2, m % 2 == 0⟩

def Interval.contains (i : Interval) (n : Nat) : Bool :=
  if i.closed then i.low ≤ n && n ≤ i.high else i.low < n && n < i.high

/-- The point of the grid of multiples of `step / unit` nearest to the interval's value, if the
interval holds one. Of the two neighbours of the value the nearer is taken, of a tie the even. -/
def nearestOnGrid (i : Interval) (unit step : Nat) : Option Nat :=
  let below := i.value * unit / step
  let scaled : Interval := ⟨i.low * unit, i.value * unit, i.high * unit, i.closed⟩
  let above := below + 1
  match scaled.contains (below * step), scaled.contains (above * step) with
  | true, true =>
    let down := scaled.value - below * step
    let up := above * step - scaled.value
    some (if down < up then below else if up < down then above else below + below % 2)
  | true, false => some below
  | false, true => some above
  | false, false => none

/-- Searches ever finer grids, from multiples of `10 ^ exponent` on. -/
def searchGrids (i : Interval) (binary : Int) : Nat → Int → Digits
  | 0, exponent => ⟨0, exponent⟩
  | fuel + 1, exponent =>
    let unit := Nat.pow 2 binary.toNat * Nat.pow 10 (-exponent).toNat
    let step := Nat.pow 10 exponent.toNat * Nat.pow 2 (-binary).toNat
    match nearestOnGrid i unit step with
    | some digits => ⟨digits, exponent⟩
    | none => searchGrids i binary fuel (exponent - 1)

/-- The fewest digits for a positive finite number; of several decimals with that many, the one
nearest to the number. Twenty grids suffice: seventeen digits always do, and the first grid is at
most three digits too coarse. -/
def shortest (x : Binary64) : Digits :=
  let binary : Int := (x.exponent : Int) - 1076
  let lead : Int := (x.significand.log2 : Int) + binary + 2
  searchGrids (.ofBinary64 x) binary 22 ((lead + 1) * 30103 / 100000 + 1)

/-- Drops the zeros at the end of a digit string into the exponent. -/
def Digits.strip : Nat → Digits → Digits
  | 0, d => d
  | fuel + 1, d =>
    if d.digits ≠ 0 ∧ d.digits % 10 = 0 then strip fuel ⟨d.digits / 10, d.exponent + 1⟩ else d

/-- The text of a positive decimal: positional when its leading digit stands for `10 ^ -5` to
`10 ^ 15`, with `.0` after an integer; else one digit before the point and a signed exponent. -/
def Digits.text (d : Digits) : List Char :=
  let digits := Nat.toDigits 10 d.digits
  let lead : Int := d.exponent + digits.length - 1
  if -5 ≤ lead ∧ lead ≤ 15 then
    if 0 ≤ d.exponent then digits ++ List.replicate d.exponent.toNat '0' ++ ['.', '0']
    else if 0 ≤ lead then
      digits.take (lead + 1).toNat ++ '.' :: digits.drop (lead + 1).toNat
    else '0' :: '.' :: List.replicate (-lead - 1).toNat '0' ++ digits
  else
    let mantissa :=
      match digits with
      | first :: second :: rest => first :: '.' :: second :: rest
      | short => short
    let sign := if lead < 0 then '-' else '+'
    mantissa ++ 'e' :: sign :: Nat.toDigits 10 lead.natAbs

def text (x : Binary64) : List Char :=
  let magnitude := if x.isZero then ['0', '.', '0'] else (Digits.strip 20 (shortest x)).text
  if x.isNegative then '-' :: magnitude else magnitude

end ClusterArchive.Decimal
