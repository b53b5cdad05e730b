/-! Sets of characters given as ranges of code points. -/

namespace ClusterArchive.Text

structure Range where
  first : Nat
  last : Nat
deriving DecidableEq, Repr

def Range.contains (range : Range) (code : Nat) : Bool :=
  range.first ≤ code && code ≤ range.last

def inRanges (ranges : Array Range) (code : Nat) : Bool :=
  ranges.any (·.contains code)

end ClusterArchive.Text
