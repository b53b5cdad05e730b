/-! Binary64 numbers as words, in exact arithmetic: rounding of a quotient, product and quotient of
two numbers, and the fewest decimal digits that read back. -/

namespace ClusterArchive

/-- A finite or infinite binary64 number, by its bits. -/
structure Binary64 where
  bits : UInt64
deriving DecidableEq, Repr

namespace Binary64

def fractionWidth : Nat := 52

/-- Magnitude bits of infinity; every finite number lies below. -/
def infinityBits : Nat := 2047 * Nat.pow 2 fractionWidth

def magnitudeBits (x : Binary64) : Nat := x.bits.toNat % Nat.pow 2 63

def isNegative (x : Binary64) : Bool := Nat.pow 2 63 ≤ x.bits.toNat

def isZero (x : Binary64) : Bool := x.magnitudeBits == 0

def neg (x : Binary64) : Binary64 := ⟨x.bits ^^^ ((1 : UInt64) <<< 63)⟩

/-- The magnitude as `significand * 2 ^ (exponent - 1074)`. -/
def significand (x : Binary64) : Nat :=
  let field := x.magnitudeBits / Nat.pow 2 fractionWidth
  let fraction := x.magnitudeBits % Nat.pow 2 fractionWidth
  if field = 0 then fraction else Nat.pow 2 fractionWidth + fraction

def exponent (x : Binary64) : Nat := x.magnitudeBits / Nat.pow 2 fractionWidth - 1

/-- The quotient rounded to the nearest natural number, a tie to the even one. -/
def roundQuotient (num den : Nat) : Nat :=
  let quotient := num / den
  let twice := 2 * (num % den)
  if twice < den then quotient
  else if den < twice then quotient + 1
  else quotient + quotient % 2

/-- Magnitude bits of the number nearest to `num / den`, for a positive `den`; past the largest
finite number they reach `infinityBits`. A significand that rounds up to the next power of two
carries into the exponent field by itself. -/
def nearestBits (num den : Nat) : Nat :=
  if num = 0 then 0
  else
    -- The leading bit of the quotient stands at `lead` or just below.
    let lead : Int := (num.log2 : Int) - den.log2
    let low : Int := if num * Nat.pow 2 (-lead).toNat < den * Nat.pow 2 lead.toNat then lead - 1 else lead
    let scale : Nat := (low - fractionWidth + 1074).toNat
    let shift : Int := (scale : Int) - 1074
    let rounded := roundQuotient (num * Nat.pow 2 (-shift).toNat) (den * Nat.pow 2 shift.toNat)
    min infinityBits (scale * Nat.pow 2 fractionWidth + rounded)

def ofQuotient (negative : Bool) (num den : Nat) : Binary64 :=
  ⟨UInt64.ofNat (nearestBits num den + if negative then Nat.pow 2 63 else 0)⟩

def ofNat (n : Nat) : Binary64 := ofQuotient false n 1

def isInfinite (x : Binary64) : Bool := infinityBits ≤ x.magnitudeBits

def mul (x y : Binary64) : Binary64 :=
  ofQuotient (x.isNegative != y.isNegative)
    (x.significand * y.significand * Nat.pow 2 (x.exponent + y.exponent)) (Nat.pow 2 2148)

def div (x y : Binary64) : Binary64 :=
  ofQuotient (x.isNegative != y.isNegative)
    (x.significand * Nat.pow 2 x.exponent) (y.significand * Nat.pow 2 y.exponent)

end Binary64

end ClusterArchive
