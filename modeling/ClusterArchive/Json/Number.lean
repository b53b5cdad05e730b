import ClusterArchive.Decimal.Digits
import ClusterArchive.Json.Basic

/-! The value of a JSON number token. Nineteen or twenty digits enter the significand; what does
not fit into 64 bits only counts. A double is the significand, rounded, times or over one power of
ten, rounded: two roundings, where the digits do not fit a double exactly. -/

namespace ClusterArchive

structure NumberToken where
  negative : Bool
  whole : List Char
  fraction : Option (List Char)
  exponent : Option (Bool × List Char)
deriving DecidableEq, Repr

namespace NumberToken

def significandLimit : Nat := Nat.pow 2 64 - 1

/-- Appends digits to a significand while it stays within its limit; the digits left over. -/
def absorb (significand : Nat) : List Char → Nat × List Char
  | [] => (significand, [])
  | c :: rest =>
    let next := significand * 10 + Decimal.digitValue c
    if next ≤ significandLimit then absorb next rest else (significand, c :: rest)

def powerLimit : Nat := 308

def divideByPower (x : Binary64) (power : Nat) : Binary64 :=
  if power ≤ powerLimit then x.div (.ofNat (Nat.pow 10 power))
  else if x.isZero then x
  else divideByPower (x.div (.ofNat (Nat.pow 10 powerLimit))) (power - powerLimit)
termination_by power
decreasing_by simp only [powerLimit] at *; omega

/-- `significand * 10 ^ exponent` as a double; nothing when it is too large for one. -/
def scale (significand : Nat) (exponent : Int) : Option Binary64 :=
  let x := Binary64.ofNat significand
  match exponent with
  | .ofNat power =>
    if power ≤ powerLimit then
      let y := x.mul (.ofNat (Nat.pow 10 power))
      if y.isInfinite then none else some y
    else if x.isZero then some x
    else none
  | .negSucc power => some (divideByPower x (power + 1))

def value? (token : NumberToken) : Option Number :=
  let (whole, dropped) := absorb 0 token.whole
  match token.fraction, token.exponent, dropped with
  | none, none, [] =>
    if token.negative then
      if 0 < whole ∧ whole ≤ Nat.pow 2 63 then some (.integer (-whole))
      else some (.double (Binary64.ofNat whole).neg)
    else some (.integer whole)
  | fraction, exponent, dropped =>
    let fraction := fraction.getD []
    let (significand, rest) := absorb whole fraction
    let power : Int := dropped.length - (fraction.length - rest.length : Nat)
    let power :=
      match exponent with
      | none => power
      | some (true, digits) => power - Decimal.value digits
      | some (false, digits) => power + Decimal.value digits
    (scale significand power).map fun x => .double (if token.negative then x.neg else x)

end NumberToken

end ClusterArchive
